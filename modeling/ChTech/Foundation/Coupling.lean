import Mathlib.Data.List.Forall2
import ChTech.Foundation.Program

/-!
# Programs side by side

Two programs, each on a store of its own, that end in the same way: both return related
values, or both raise the same error.  The rules follow the construction of the programs,
so that one program over two implementations of its operations needs a rule for each
operation only.  Two stores are often lists whose rows correspond one by one.
-/

namespace ChTech.Foundation

namespace SideBySide

universe u v

variable {α : Type u} {β : Type v} {related : α → β → Prop} {left : List α} {right : List β}

/-- A check of every pair may be added to the relation. -/
theorem strengthen {check : α → β → Bool} (same : List.Forall₂ related left right)
    (checked : (left.zip right).all (fun pair => check pair.1 pair.2) = true) :
    List.Forall₂ (fun first second => related first second ∧ check first second = true) left
      right := by
  induction same with
  | nil => exact .nil
  | cons head _ ih =>
      rw [List.zip_cons_cons, List.all_cons, Bool.and_eq_true] at checked
      exact .cons ⟨head, checked.1⟩ (ih checked.2)

variable {selects : α → Bool} {selects' : β → Bool}

/-- Both find nothing, or related rows. -/
theorem find? (same : List.Forall₂ related left right)
    (agree : ∀ first second, related first second → selects first = selects' second) :
    (left.find? selects = none ∧ right.find? selects' = none) ∨
      ∃ first second, left.find? selects = some first ∧ right.find? selects' = some second ∧
        related first second := by
  induction same with
  | nil => exact .inl ⟨rfl, rfl⟩
  | @cons first second _ _ head _ ih =>
      rw [List.find?_cons, List.find?_cons, ← agree first second head]
      cases selects first with
      | true => exact .inr ⟨first, second, rfl, rfl, head⟩
      | false => exact ih

theorem any_eq (same : List.Forall₂ related left right)
    (agree : ∀ first second, related first second → selects first = selects' second) :
    left.any selects = right.any selects' := by
  induction same with
  | nil => rfl
  | cons head _ ih => rw [List.any_cons, List.any_cons, agree _ _ head, ih]

end SideBySide

namespace Program

variable {σ τ ε α β γ δ : Type}

/-- From the two stores both programs return, or both raise the same error. -/
def Coupled (left : Program σ ε α) (right : Program τ ε β) (first : σ) (second : τ)
    (returns : α → β → σ → τ → Prop) (raises : ε → σ → τ → Prop) : Prop :=
  match (left first).1, (right second).1 with
  | .ok value, .ok value' => returns value value' (left first).2 (right second).2
  | .error error, .error error' => error = error' ∧ raises error (left first).2 (right second).2
  | _, _ => False

variable {first : σ} {second : τ} {returns : α → β → σ → τ → Prop} {raises : ε → σ → τ → Prop}

namespace Coupled

theorem pure {value : α} {value' : β} (holds : returns value value' first second) :
    Coupled (Pure.pure value : Program σ ε α) (Pure.pure value' : Program τ ε β) first second
      returns raises :=
  holds

theorem raise {error : ε} (holds : raises error first second) :
    Coupled (Program.raise error : Program σ ε α) (Program.raise error : Program τ ε β) first
      second returns raises :=
  ⟨rfl, holds⟩

theorem bind {left : Program σ ε γ} {right : Program τ ε δ} {left' : γ → Program σ ε α}
    {right' : δ → Program τ ε β}
    (coupled : Coupled left right first second
      (fun value value' middle middle' =>
        Coupled (left' value) (right' value') middle middle' returns raises) raises) :
    Coupled (left >>= left') (right >>= right') first second returns raises := by
  simp only [Coupled] at coupled ⊢
  change match (Program.bind left left' first).1, (Program.bind right right' second).1 with
    | .ok value, .ok value' => returns value value' (Program.bind left left' first).2
        (Program.bind right right' second).2
    | .error error, .error error' => error = error' ∧
        raises error (Program.bind left left' first).2 (Program.bind right right' second).2
    | _, _ => False
  simp only [Program.bind]
  cases leftEnd : (left first).1 with
  | ok value =>
      cases rightEnd : (right second).1 with
      | ok value' =>
          rw [leftEnd, rightEnd] at coupled
          exact coupled
      | error error' =>
          rw [leftEnd, rightEnd] at coupled
          exact coupled.elim
  | error error =>
      cases rightEnd : (right second).1 with
      | ok value' =>
          rw [leftEnd, rightEnd] at coupled
          exact coupled.elim
      | error error' =>
          rw [leftEnd, rightEnd] at coupled
          exact coupled

/-- Two transactions that are taken alike, or refused for the same reason. -/
theorem transact {attempt : σ → Except ε (α × σ)} {attempt' : τ → Except ε (β × τ)}
    (alike :
      (∃ value value' next next', attempt first = .ok (value, next) ∧
        attempt' second = .ok (value', next') ∧ returns value value' next next') ∨
      ∃ error, attempt first = .error error ∧ attempt' second = .error error ∧
        raises error first second) :
    Coupled (Program.transact attempt) (Program.transact attempt') first second returns
      raises := by
  simp only [Coupled, Program.transact]
  rcases alike with ⟨value, value', next, next', taken, taken', holds⟩ |
    ⟨error, refused, refused', holds⟩
  · rw [taken, taken']
    exact holds
  · rw [refused, refused']
    exact ⟨rfl, holds⟩

theorem read {result : σ → Except ε α} {result' : τ → Except ε β}
    (alike :
      (∃ value value', result first = .ok value ∧ result' second = .ok value' ∧
        returns value value' first second) ∨
      ∃ error, result first = .error error ∧ result' second = .error error ∧
        raises error first second) :
    Coupled (Program.read result) (Program.read result') first second returns raises := by
  simp only [Coupled, Program.read]
  rcases alike with ⟨value, value', read, read', holds⟩ | ⟨error, failed, failed', holds⟩
  · rw [read, read']
    exact holds
  · rw [failed, failed']
    exact ⟨rfl, holds⟩

/-- Weaker postconditions. -/
theorem mono {left : Program σ ε α} {right : Program τ ε β}
    {returns' : α → β → σ → τ → Prop} {raises' : ε → σ → τ → Prop}
    (coupled : Coupled left right first second returns raises)
    (weakenReturns : ∀ value value' last last', returns value value' last last' →
      returns' value value' last last')
    (weakenRaises : ∀ error last last', raises error last last' → raises' error last last') :
    Coupled left right first second returns' raises' := by
  simp only [Coupled] at coupled ⊢
  cases leftEnd : (left first).1 with
  | ok value =>
      cases rightEnd : (right second).1 with
      | ok value' =>
          rw [leftEnd, rightEnd] at coupled
          exact weakenReturns value value' _ _ coupled
      | error error' =>
          rw [leftEnd, rightEnd] at coupled
          exact coupled.elim
  | error error =>
      cases rightEnd : (right second).1 with
      | ok value' =>
          rw [leftEnd, rightEnd] at coupled
          exact coupled.elim
      | error error' =>
          rw [leftEnd, rightEnd] at coupled
          exact ⟨coupled.1, weakenRaises error _ _ coupled.2⟩

/-- Programs that return equal values give the same result. -/
theorem result_eq {left : Program σ ε α} {right : Program τ ε α} {related : σ → τ → Prop}
    (coupled : Coupled left right first second
      (fun value value' last last' => value = value' ∧ related last last')
      (fun _ last last' => related last last')) :
    (left first).1 = (right second).1 ∧ related (left first).2 (right second).2 := by
  simp only [Coupled] at coupled
  cases leftEnd : (left first).1 with
  | ok value =>
      cases rightEnd : (right second).1 with
      | ok value' =>
          rw [leftEnd, rightEnd] at coupled
          exact ⟨congrArg Except.ok coupled.1, coupled.2⟩
      | error error' =>
          rw [leftEnd, rightEnd] at coupled
          exact coupled.elim
  | error error =>
      cases rightEnd : (right second).1 with
      | ok value' =>
          rw [leftEnd, rightEnd] at coupled
          exact coupled.elim
      | error error' =>
          rw [leftEnd, rightEnd] at coupled
          exact ⟨congrArg Except.error coupled.1, coupled.2⟩

end Coupled

end Program

end ChTech.Foundation
