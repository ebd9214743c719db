import Mathlib.Data.List.Lex
import Mathlib.Data.List.Sort
import Mathlib.Data.Prod.Lex

/-!
# Queries

What a `SELECT` does to the rows it has found: `ORDER BY` with the ties left to the
engine, `LIMIT` with `OFFSET`, and reading at most one row.  A query that only looks at
the rows a condition admits gives the same answer on any two tables whose admitted rows
agree up to their order, provided that the sort leaves no tie.
-/

namespace ChTech.Foundation

universe u v

namespace Query

variable {ρ : Type u} {κ : Type v} [LinearOrder κ]

/-- `ORDER BY`, ascending. -/
def orderBy (key : ρ → κ) (rows : List ρ) : List ρ :=
  rows.insertionSort fun first second => key first ≤ key second

@[simp] theorem mem_orderBy {key : ρ → κ} {rows : List ρ} {row : ρ} :
    row ∈ orderBy key rows ↔ row ∈ rows :=
  List.mem_insertionSort _

theorem orderBy_pairwise (key : ρ → κ) (rows : List ρ) :
    (orderBy key rows).Pairwise fun first second => key first ≤ key second := by
  have total : Std.Total fun first second : ρ => key first ≤ key second :=
    ⟨fun first second => le_total (key first) (key second)⟩
  have transitive : IsTrans ρ fun first second => key first ≤ key second :=
    ⟨fun _ _ _ => le_trans⟩
  exact List.pairwise_insertionSort _ rows

/-- The order in which rows are stored does not show when no two have the same key. -/
theorem orderBy_congr {key : ρ → κ} {rows rows' : List ρ} (same : rows.Perm rows')
    (distinct : ∀ first ∈ rows, ∀ second ∈ rows, key first = key second → first = second) :
    orderBy key rows = orderBy key rows' := by
  apply List.Perm.eq_of_pairwise
  · intro first second firstMem secondMem below above
    rw [mem_orderBy] at firstMem secondMem
    exact distinct first firstMem second (same.mem_iff.mpr secondMem) (le_antisymm below above)
  · exact orderBy_pairwise key rows
  · exact orderBy_pairwise key rows'
  · exact ((List.perm_insertionSort _ rows).trans same).trans (List.perm_insertionSort _ rows').symm

/-- What is in order and has no ties is the sort. -/
theorem eq_orderBy {key : ρ → κ} {rows sorted : List ρ} (same : sorted.Perm rows)
    (ordered : sorted.Pairwise fun first second => key first ≤ key second)
    (distinct : (rows.map key).Nodup) : sorted = orderBy key rows := by
  apply List.Perm.eq_of_pairwise
  · intro first second firstMem secondMem below above
    rw [mem_orderBy] at secondMem
    exact List.inj_on_of_nodup_map distinct (same.mem_iff.mp firstMem) secondMem
      (le_antisymm below above)
  · exact ordered
  · exact orderBy_pairwise key rows
  · exact same.trans (List.perm_insertionSort _ rows).symm

/-- Sorting what is made of other rows. -/
theorem orderBy_map {σ : Type u} {key : ρ → κ} (make : σ → ρ) (rows : List σ) :
    orderBy key (rows.map make) = (orderBy (fun row => key (make row)) rows).map make :=
  (List.map_insertionSort _ _ make rows fun _ _ _ _ => Iff.rfl).symm

/-- A sort key with the rank at which the engine puts a row among the rows it ties with. -/
def ranked (key : ρ → κ) (rank : ρ → Nat) (row : ρ) : κ ×ₗ Nat := toLex (key row, rank row)

omit [LinearOrder κ] in
theorem rank_eq_of_ranked_eq {key : ρ → κ} {rank : ρ → Nat} {first second : ρ}
    (equal : ranked key rank first = ranked key rank second) : rank first = rank second :=
  congrArg (fun pair => (ofLex pair).2) equal

/-- An engine that tells the tied rows apart leaves no choice. -/
theorem orderBy_ranked_congr {order : ρ → κ} {rank : ρ → Nat} {rows rows' : List ρ}
    (same : rows.Perm rows')
    (distinct : ∀ first ∈ rows, ∀ second ∈ rows, rank first = rank second → first = second) :
    orderBy (ranked order rank) rows = orderBy (ranked order rank) rows' := by
  apply orderBy_congr same
  intro first firstMem second secondMem equal
  exact distinct first firstMem second secondMem (rank_eq_of_ranked_eq equal)

/-- Where the sort leaves no tie, the engine's ranks do not show. -/
theorem orderBy_ranked {key : ρ → κ} {rank : ρ → Nat} {rows : List ρ}
    (distinct : (rows.map key).Nodup) : orderBy (ranked key rank) rows = orderBy key rows := by
  apply eq_orderBy (List.perm_insertionSort _ rows) _ distinct
  refine (orderBy_pairwise (ranked key rank) rows).imp ?_
  intro first second below
  exact Prod.Lex.monotone_fst _ _ below

/-- A page of a result, numbered from one. -/
structure Page where
  page : Nat
  limit : Nat
  first : 1 ≤ page
  positive : 1 ≤ limit
  deriving DecidableEq, Repr

/-- `OFFSET (page - 1) * limit LIMIT limit`. -/
def paginate (page : Page) (rows : List ρ) : List ρ :=
  (rows.drop ((page.page - 1) * page.limit)).take page.limit

omit [LinearOrder κ] in
theorem mem_of_paginate {page : Page} {rows : List ρ} {row : ρ}
    (member : row ∈ paginate page rows) : row ∈ rows :=
  List.mem_of_mem_drop (List.mem_of_mem_take member)

omit [LinearOrder κ] in
theorem paginate_map {σ : Type u} (page : Page) (make : σ → ρ) (rows : List σ) :
    paginate page (rows.map make) = (paginate page rows).map make := by
  simp only [paginate, List.map_take, List.map_drop]

omit [LinearOrder κ] in
theorem nodup_paginate {page : Page} {rows : List ρ} (distinct : rows.Nodup) :
    (paginate page rows).Nodup :=
  (distinct.sublist (List.drop_sublist _ rows)).sublist (List.take_sublist _ _)

omit [LinearOrder κ] in
/-- `unique()` on rows without duplicates. -/
theorem eraseDups_of_nodup [BEq ρ] [LawfulBEq ρ] {rows : List ρ} (distinct : rows.Nodup) :
    rows.eraseDups = rows := by
  induction rows with
  | nil => rfl
  | cons row rest ih =>
      rcases List.nodup_cons.mp distinct with ⟨absent, distinct⟩
      have kept : (rest.filter fun other => !other == row) = rest := by
        apply List.filter_eq_self.mpr
        intro other member
        rw [Bool.not_eq_true', beq_eq_false_iff_ne]
        intro equal
        rw [equal] at member
        exact absent member
      rw [List.eraseDups_cons, kept, ih distinct]

/-- `scalar_one_or_none`. -/
def scalarOneOrNone {ε : Type} (multiple : ε) : List ρ → Except ε (Option ρ)
  | [] => .ok none
  | [row] => .ok (some row)
  | _ => .error multiple

theorem scalarOneOrNone_congr {ε : Type} (multiple : ε) {rows rows' : List ρ}
    (same : rows.Perm rows') : scalarOneOrNone multiple rows = scalarOneOrNone multiple rows' := by
  cases rows with
  | nil =>
      rw [List.nil_perm.mp same]
  | cons row rest =>
      cases rest with
      | nil =>
          rw [List.singleton_perm.mp same]
      | cons other rest =>
          have length := same.length_eq
          match rows' with
          | [] => cases length
          | [_] => cases length
          | _ :: _ :: _ => rfl

theorem scalarOneOrNone_eq {ε : Type} {multiple : ε} {rows : List ρ}
    (single : rows.length ≤ 1) : scalarOneOrNone multiple rows = .ok rows.head? := by
  match rows with
  | [] => rfl
  | [_] => rfl
  | _ :: _ :: _ => simp at single

end Query

/-- `LIKE` with the wildcards `%` and `_` and the escape character `\`; `same` compares
two characters under the collation. -/
def sqlLike (same : Char → Char → Bool) : List Char → List Char → Bool
  | [], value => value.isEmpty
  | '%' :: pattern, value => value.tails.any fun rest => sqlLike same pattern rest
  | '_' :: pattern, value =>
      match value with
      | [] => false
      | _ :: rest => sqlLike same pattern rest
  | '\\' :: escaped :: pattern, value =>
      match value with
      | [] => false
      | char :: rest => same escaped char && sqlLike same pattern rest
  | literal :: pattern, value =>
      match value with
      | [] => false
      | char :: rest => same literal char && sqlLike same pattern rest

end ChTech.Foundation
