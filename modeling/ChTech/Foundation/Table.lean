import Mathlib.Data.List.Pairwise

/-!
# Tables with uniqueness constraints

The rows of a table in the order of their insertion.  `clash` is the table's
constraint: two rows that agree on the primary key or on a unique column may not
both be stored, and a write that would store them fails and changes nothing.
-/

namespace ChTech.Foundation

universe u

/-- Rows no two of which violate the uniqueness constraint. -/
structure Table (ρ : Type u) (clash : ρ → ρ → Bool) where
  rows : List ρ
  distinct : rows.Pairwise fun first second => clash first second = false

namespace Table

variable {ρ : Type u} {clash : ρ → ρ → Bool}

theorem ext {left right : Table ρ clash} (rows : left.rows = right.rows) : left = right := by
  cases left
  cases right
  cases rows
  rfl

def empty : Table ρ clash := ⟨[], .nil⟩

def singleton (row : ρ) : Table ρ clash := ⟨[row], List.pairwise_singleton _ _⟩

/-- `INSERT`: fails on a clash with a stored row. -/
def insert? (table : Table ρ clash) (row : ρ) : Option (Table ρ clash) :=
  if free : ∀ stored ∈ table.rows, clash stored row = false then
    some ⟨table.rows ++ [row], by
      refine List.pairwise_append.mpr ⟨table.distinct, List.pairwise_singleton _ _, ?_⟩
      intro stored member added only
      rw [List.mem_singleton.mp only]
      exact free stored member⟩
  else
    none

/-- `UPDATE` of columns no constraint speaks of. -/
def modify (table : Table ρ clash) (change : ρ → ρ)
    (respects : ∀ first second, clash (change first) (change second) = clash first second) :
    Table ρ clash :=
  ⟨table.rows.map change, by
    refine List.pairwise_map.mpr (table.distinct.imp ?_)
    intro first second apart
    rw [respects]
    exact apart⟩

/-- `UPDATE`: fails when the changed rows clash. -/
def update? (table : Table ρ clash) (change : ρ → ρ) : Option (Table ρ clash) :=
  if distinct : (table.rows.map change).Pairwise fun first second => clash first second = false
  then some ⟨table.rows.map change, distinct⟩
  else none

/-- `DELETE`. -/
def delete (table : Table ρ clash) (gone : ρ → Bool) : Table ρ clash :=
  ⟨table.rows.filter fun row => !gone row, table.distinct.sublist List.filter_sublist⟩

/-- The first row selected by a condition. -/
def find? (table : Table ρ clash) (selects : ρ → Bool) : Option ρ :=
  table.rows.find? selects

/-- Stored rows that clash are the same row. -/
theorem eq_of_clash {table : Table ρ clash} {first second : ρ}
    (firstMem : first ∈ table.rows) (secondMem : second ∈ table.rows)
    (forth : clash first second = true) (back : clash second first = true) :
    first = second := by
  by_contra different
  let apart : ρ → ρ → Prop := fun left right =>
    ¬(clash left right = true ∧ clash right left = true)
  have symmetric : Std.Symm apart := ⟨fun _ _ separate both => separate both.symm⟩
  have separated : table.rows.Pairwise apart := by
    refine table.distinct.imp ?_
    intro left right free both
    rw [free] at both
    cases both.1
  exact separated.forall firstMem secondMem different ⟨forth, back⟩

theorem insert?_eq_some {table next : Table ρ clash} {row : ρ} :
    table.insert? row = some next ↔
      (∀ stored ∈ table.rows, clash stored row = false) ∧ next.rows = table.rows ++ [row] := by
  unfold insert?
  constructor
  · intro inserted
    split at inserted
    next free =>
      cases inserted
      exact ⟨free, rfl⟩
    next => cases inserted
  · rintro ⟨free, rows⟩
    rw [dif_pos free]
    exact congrArg some (ext rows.symm)

@[simp] theorem mem_modify {table : Table ρ clash} {change : ρ → ρ}
    {respects : ∀ first second, clash (change first) (change second) = clash first second}
    {row : ρ} :
    row ∈ (table.modify change respects).rows ↔ ∃ stored ∈ table.rows, change stored = row := by
  simp [modify]

theorem update?_eq_some {table next : Table ρ clash} {change : ρ → ρ}
    (updated : table.update? change = some next) : next.rows = table.rows.map change := by
  unfold update? at updated
  split at updated
  · cases updated
    rfl
  · cases updated

@[simp] theorem mem_delete {table : Table ρ clash} {gone : ρ → Bool} {row : ρ} :
    row ∈ (table.delete gone).rows ↔ row ∈ table.rows ∧ gone row = false := by
  simp [delete]

/-- Which rows go is asked of the stored rows only. -/
theorem delete_congr {table : Table ρ clash} {gone gone' : ρ → Bool}
    (same : ∀ row ∈ table.rows, gone row = gone' row) : table.delete gone = table.delete gone' := by
  apply ext
  apply List.filter_congr
  intro row member
  rw [same row member]

theorem mem_of_find? {table : Table ρ clash} {selects : ρ → Bool} {row : ρ}
    (found : table.find? selects = some row) : row ∈ table.rows ∧ selects row = true :=
  ⟨List.mem_of_find?_eq_some found, List.find?_some found⟩

theorem find?_eq_none {table : Table ρ clash} {selects : ρ → Bool} :
    table.find? selects = none ↔ ∀ row ∈ table.rows, selects row = false := by
  simp [find?, List.find?_eq_none]

/-- A condition that singles out one row finds it. -/
theorem find?_of_unique {table : Table ρ clash} {selects : ρ → Bool} {row : ρ}
    (member : row ∈ table.rows) (selected : selects row = true)
    (unique : ∀ other ∈ table.rows, selects other = true → other = row) :
    table.find? selects = some row := by
  cases found : table.find? selects with
  | none =>
      have rejected := find?_eq_none.mp found row member
      rw [selected] at rejected
      cases rejected
  | some other =>
      rcases mem_of_find? found with ⟨otherMem, otherSelected⟩
      rw [unique other otherMem otherSelected]

/-- A condition under which any two rows clash selects at most one. -/
theorem length_filter_le_one {table : Table ρ clash} {selects : ρ → Bool}
    (clashing : ∀ first second, selects first = true → selects second = true →
      clash first second = true) : (table.rows.filter selects).length ≤ 1 := by
  have apart := table.distinct.sublist (List.filter_sublist (p := selects))
  match selected : table.rows.filter selects with
  | [] => simp
  | [_] => simp
  | first :: second :: _ =>
      rw [selected] at apart
      have firstMem : first ∈ table.rows.filter selects := by simp [selected]
      have secondMem : second ∈ table.rows.filter selects := by simp [selected]
      have free := (List.pairwise_cons.mp apart).1 second List.mem_cons_self
      rw [clashing first second (List.mem_filter.mp firstMem).2
        (List.mem_filter.mp secondMem).2] at free
      cases free

end Table

end ChTech.Foundation
