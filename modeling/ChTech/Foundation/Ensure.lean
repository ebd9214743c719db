import ChTech.Foundation.Program
import ChTech.Foundation.Query

/-!
# Steps that rest

A step that may fail rests on a condition when the condition holds wherever it has succeeded,
and a store that meets it is left as it is.  Such a step is idempotent.  Steps that keep each
other's conditions rest one after another, and so do the rounds of a loop.  Adding a row unless
a query finds one is a step of this kind.
-/

namespace ChTech.Foundation

variable {σ ε ρ ι : Type} {first second : σ → Except ε σ} {settled other : σ → Prop}

/-- Where the step succeeds, the condition stays. -/
def Keeps (step : σ → Except ε σ) (condition : σ → Prop) : Prop :=
  ∀ store next, step store = .ok next → condition store → condition next

/-- A step that brings about a condition and has nothing to do where it holds. -/
structure RestsOn (step : σ → Except ε σ) (settled : σ → Prop) : Prop where
  settles : ∀ store next, step store = .ok next → settled next
  rests : ∀ store, settled store → step store = .ok store

namespace Keeps

theorem andThen (left : Keeps first settled) (right : Keeps second settled) :
    Keeps (fun store => first store >>= second) settled := by
  intro store next done holds
  rcases Result.bind_eq_ok.mp done with ⟨middle, started, ended⟩
  exact right middle next ended (left store middle started holds)

theorem foldlM {step : ι → σ → Except ε σ} {items : List ι}
    (each : ∀ item ∈ items, Keeps (step item) settled) :
    Keeps (fun store => items.foldlM (fun store item => step item store) store) settled := by
  induction items with
  | nil =>
      intro store next done holds
      cases done
      exact holds
  | cons item rest ih =>
      exact andThen (each item List.mem_cons_self)
        (ih fun other member => each other (List.mem_cons_of_mem _ member))

end Keeps

namespace RestsOn

theorem congr (rests : RestsOn first settled) (same : ∀ store, settled store ↔ other store) :
    RestsOn first other where
  settles store next done := (same next).mp (rests.settles store next done)
  rests store holds := rests.rests store ((same store).mpr holds)

/-- The second step keeps what the first one has brought about. -/
theorem andThen (left : RestsOn first settled) (right : RestsOn second other)
    (kept : Keeps second settled) :
    RestsOn (fun store => first store >>= second) fun store => settled store ∧ other store where
  settles store next done := by
    rcases Result.bind_eq_ok.mp done with ⟨middle, started, ended⟩
    exact ⟨kept middle next ended (left.settles store middle started),
      right.settles middle next ended⟩
  rests store holds := by
    rw [left.rests store holds.1]
    exact right.rests store holds.2

/-- The rounds of a loop, each of which keeps what the others have brought about. -/
theorem foldlM {step : ι → σ → Except ε σ} {settled : ι → σ → Prop} {items : List ι}
    (each : ∀ item, RestsOn (step item) (settled item))
    (kept : ∀ item other, Keeps (step item) (settled other)) :
    RestsOn (fun store => items.foldlM (fun store item => step item store) store)
      fun store => ∀ item ∈ items, settled item store := by
  induction items with
  | nil =>
      constructor
      · intro store next _ item member
        cases member
      · intro store _
        rfl
  | cons item rest ih =>
      have sequence := (each item).andThen ih (Keeps.foldlM fun other _ => kept other item)
      apply sequence.congr
      intro store
      rw [List.forall_mem_cons]

end RestsOn

namespace Query

/-- `scalar_one`. -/
def scalarOne (absent multiple : ε) : List ρ → Except ε ρ
  | [] => .error absent
  | [row] => .ok row
  | _ => .error multiple

theorem scalarOne_eq_ok {absent multiple : ε} {rows : List ρ} {row : ρ} :
    scalarOne absent multiple rows = .ok row ↔ rows = [row] := by
  match rows with
  | [] => simp [scalarOne]
  | [_] => simp [scalarOne]
  | _ :: _ :: _ => simp [scalarOne]

/-- Something is added unless a query finds a row. -/
def ensure (multiple : ε) (found : σ → List ρ) (add : σ → Except ε σ) (store : σ) :
    Except ε σ := do
  match ← scalarOneOrNone multiple (found store) with
  | some _ => return store
  | none => add store

variable {multiple : ε} {found : σ → List ρ} {add : σ → Except ε σ}

theorem ensure_eq_ok {store next : σ} : ensure multiple found add store = .ok next ↔
    (found store).length = 1 ∧ next = store ∨ found store = [] ∧ add store = .ok next := by
  simp only [ensure]
  match found store with
  | [] => simp [scalarOneOrNone, bind, Except.bind]
  | [_] => simp [scalarOneOrNone, bind, Except.bind, pure, Except.pure, eq_comm]
  | _ :: _ :: _ => simp [scalarOneOrNone, bind, Except.bind]

theorem ensure_keeps (kept : Keeps add settled) : Keeps (ensure multiple found add) settled := by
  intro store next done holds
  rcases ensure_eq_ok.mp done with ⟨_, rfl⟩ | ⟨_, added⟩
  · exact holds
  · exact kept store next added holds

/-- What has been added is what the query finds from then on. -/
theorem ensure_rests
    (finds : ∀ store next, found store = [] → add store = .ok next → (found next).length = 1) :
    RestsOn (ensure multiple found add) fun store => (found store).length = 1 where
  settles store next done := by
    rcases ensure_eq_ok.mp done with ⟨single, rfl⟩ | ⟨missing, added⟩
    · exact single
    · exact finds store next missing added
  rests store single := ensure_eq_ok.mpr (.inl ⟨single, rfl⟩)

end Query

end ChTech.Foundation
