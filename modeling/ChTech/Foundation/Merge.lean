import Mathlib.Data.Set.Basic
import Mathlib.Tactic.Tauto

/-!
# Changes against an earlier reading

A writer that has read a value and then assigns another one sends only the difference of the
two, which is applied to what the store holds by then.  In a register the assigned value
replaces the current one if it differs from the one that was read; in a set the elements
that were dropped are deleted and the new ones inserted.  Each of the two leaves either
writer's value only under a condition on the three values.
-/

namespace ChTech.Foundation

universe u

variable {α : Type u}

section

variable [DecidableEq α] {loaded assigned current : α}

/-- What an `UPDATE` leaves in a column. -/
def overlay (loaded assigned current : α) : α :=
  if assigned = loaded then current else assigned

@[simp] theorem overlay_loaded (loaded assigned : α) :
    overlay loaded assigned loaded = assigned := by
  simp only [overlay]
  split
  next same => exact same.symm
  next => rfl

@[simp] theorem overlay_self (loaded current : α) : overlay loaded loaded current = current :=
  if_pos rfl

theorem overlay_eq_assigned :
    overlay loaded assigned current = assigned ↔ (loaded = assigned → loaded = current) := by
  simp only [overlay]
  split
  next same => simp [same, eq_comm]
  next changed => simp [Ne.symm changed]

theorem overlay_eq_current :
    overlay loaded assigned current = current ↔ loaded = assigned ∨ current = assigned := by
  simp only [overlay]
  split
  next same => simp [same]
  next changed => simp [Ne.symm changed, eq_comm]

end

section

variable {loaded assigned current : Set α}

/-- What deleting the dropped elements and inserting the new ones leaves. -/
def mergeSet (loaded assigned current : Set α) : Set α :=
  (current \ (loaded \ assigned)) ∪ (assigned \ loaded)

/-- The difference can be applied: what it deletes is there, and what it inserts is not. -/
structure Mergeable (loaded assigned current : Set α) : Prop where
  removed : ∀ element ∈ loaded, element ∉ assigned → element ∈ current
  added : ∀ element ∈ assigned, element ∉ loaded → element ∉ current

theorem mem_mergeSet {element : α} : element ∈ mergeSet loaded assigned current ↔
    (element ∈ current ∧ (element ∈ loaded → element ∈ assigned)) ∨
      (element ∈ assigned ∧ element ∉ loaded) := by
  simp only [mergeSet, Set.mem_union, Set.mem_sdiff]
  tauto

/-- Nothing has come in between. -/
theorem mergeSet_loaded : mergeSet loaded assigned loaded = assigned := by
  ext element
  rw [mem_mergeSet]
  tauto

theorem mergeSet_eq_assigned (mergeable : Mergeable loaded assigned current) :
    mergeSet loaded assigned current = assigned ↔ current = loaded := by
  constructor
  · intro equal
    ext element
    have merged := mem_mergeSet.symm.trans (Set.ext_iff.mp equal element)
    have removed := mergeable.removed element
    have added := mergeable.added element
    tauto
  · intro same
    rw [same, mergeSet_loaded]

theorem mergeSet_eq_current (mergeable : Mergeable loaded assigned current) :
    mergeSet loaded assigned current = current ↔ assigned = loaded := by
  constructor
  · intro equal
    ext element
    have merged := mem_mergeSet.symm.trans (Set.ext_iff.mp equal element)
    have removed := mergeable.removed element
    have added := mergeable.added element
    tauto
  · intro same
    ext element
    rw [mem_mergeSet, same]
    tauto

end

end ChTech.Foundation
