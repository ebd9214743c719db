import Mathlib.Order.Basic
import Mathlib.Logic.Function.Basic

/-!
# Labelled machines and their runs

A machine is a partial step function on a state.  The label carries every choice
the environment makes, so a run is determined by its start and its labels.

Runs are indexed by a side condition on each step, evaluated before the step is
taken.  A property of unrestricted runs uses the condition that always holds.
-/

namespace ChTech.Foundation

universe u v

/-- A deterministic labelled machine; `none` when the label is not enabled. -/
abbrev Machine (σ : Type u) (ℓ : Type v) := σ → ℓ → Option σ

namespace Machine

variable {σ : Type u} {ℓ : Type v}

/-- Execute a list of labels, stopping at the first one that is not enabled. -/
def exec (machine : Machine σ ℓ) : σ → List ℓ → Option σ
  | state, [] => some state
  | state, label :: rest =>
      (machine state label).bind fun next => exec machine next rest

theorem exec_cons {machine : Machine σ ℓ} {state next : σ} {label : ℓ}
    (stepped : machine state label = some next) (rest : List ℓ) :
    exec machine state (label :: rest) = exec machine next rest := by
  simp only [exec, stepped, Option.bind_some]

/-- Execute a list of labels, stopping also where the side condition fails. -/
def execIf (machine : Machine σ ℓ) (allowed : σ → ℓ → Prop)
    [∀ state label, Decidable (allowed state label)] : σ → List ℓ → Option σ
  | state, [] => some state
  | state, label :: rest =>
      if allowed state label then
        (machine state label).bind fun next => execIf machine allowed next rest
      else
        none

/-- What a reading of the result computes to holds of the final state. -/
theorem read_of_map {α : Type v} {result : Option σ} {state : σ} (read : σ → α) {value : α}
    (executed : result = some state) (computed : result.map read = some value) :
    read state = value := by
  rw [executed] at computed
  exact Option.some.inj computed

/-- The condition met by every step. -/
def Any : σ → ℓ → Prop := fun _ _ => True

/-- Runs in which every step is enabled and meets the side condition. -/
inductive Runs (machine : Machine σ ℓ) (allowed : σ → ℓ → Prop) :
    σ → List ℓ → σ → Prop where
  | nil (state : σ) : Runs machine allowed state [] state
  | cons {state next last : σ} {label : ℓ} {rest : List ℓ} :
      allowed state label → machine state label = some next →
      Runs machine allowed next rest last →
      Runs machine allowed state (label :: rest) last

/-- States reached by some run from `start`. -/
def Reaches (machine : Machine σ ℓ) (allowed : σ → ℓ → Prop) (start last : σ) : Prop :=
  ∃ labels, Runs machine allowed start labels last

variable {machine : Machine σ ℓ} {allowed : σ → ℓ → Prop}

namespace Runs

/-- A weaker side condition admits more runs. -/
theorem mono {weaker : σ → ℓ → Prop}
    (weaken : ∀ state label, allowed state label → weaker state label)
    {start last : σ} {labels : List ℓ} (run : Runs machine allowed start labels last) :
    Runs machine weaker start labels last := by
  induction run with
  | nil => exact .nil _
  | cons met stepped _ ih => exact .cons (weaken _ _ met) stepped ih

/-- What every allowed step preserves, every run preserves. -/
theorem invariant (holds : σ → Prop)
    (preserved : ∀ {state label next}, holds state → allowed state label →
      machine state label = some next → holds next)
    {start last : σ} {labels : List ℓ} (run : Runs machine allowed start labels last)
    (initially : holds start) : holds last := by
  induction run with
  | nil => exact initially
  | cons met stepped _ ih => exact ih (preserved initially met stepped)

/-- Under an invariant, the steps of a run also meet what the invariant adds. -/
theorem strengthen (holds : σ → Prop) {stronger : σ → ℓ → Prop}
    (preserved : ∀ {state label next}, holds state → allowed state label →
      machine state label = some next → holds next)
    (implied : ∀ {state label}, holds state → allowed state label → stronger state label)
    {start last : σ} {labels : List ℓ} (run : Runs machine allowed start labels last)
    (initially : holds start) : Runs machine stronger start labels last := by
  induction run with
  | nil => exact .nil _
  | cons met stepped _ ih =>
      exact .cons (implied initially met) stepped (ih (preserved initially met stepped))

/-- Labels that only one of two related machines has to answer can be erased from
a run: the other side stutters on them and follows every other label. -/
theorem erase {related : σ → σ → Prop} (keep : ℓ → Bool)
    (kept : ∀ {left right label next}, related left right → allowed left label →
      keep label = true → machine left label = some next →
      ∃ next', machine right label = some next' ∧ related next next')
    (dropped : ∀ {left right label next}, related left right → allowed left label →
      keep label = false → machine left label = some next → related next right)
    {start last other : σ} {labels : List ℓ}
    (run : Runs machine allowed start labels last) (initially : related start other) :
    ∃ last', Runs machine Any other (labels.filter keep) last' ∧ related last last' := by
  induction run generalizing other with
  | nil => exact ⟨other, .nil _, initially⟩
  | @cons state next last label rest met stepped _ ih =>
      cases keeps : keep label with
      | true =>
          rcases kept initially met keeps stepped with ⟨next', stepped', relatedNext⟩
          rcases ih relatedNext with ⟨last', run', relatedLast⟩
          rw [List.filter_cons_of_pos keeps]
          exact ⟨last', .cons trivial stepped' run', relatedLast⟩
      | false =>
          rw [List.filter_cons_of_neg (by simp [keeps])]
          exact ih (dropped initially met keeps stepped)

/-- An execution whose labels meet the side condition in every state is a run. -/
theorem of_exec {start last : σ} {labels : List ℓ}
    (met : ∀ label ∈ labels, ∀ state, allowed state label)
    (executed : exec machine start labels = some last) :
    Runs machine allowed start labels last := by
  induction labels generalizing start with
  | nil =>
      cases executed
      exact .nil _
  | cons label rest ih =>
      rcases Option.bind_eq_some_iff.mp executed with ⟨next, stepped, executed⟩
      exact .cons (met label List.mem_cons_self start) stepped
        (ih (fun other member => met other (List.mem_cons_of_mem _ member)) executed)

/-- A checked execution is a run. -/
theorem of_execIf [∀ state label, Decidable (allowed state label)] {start last : σ}
    {labels : List ℓ} (executed : execIf machine allowed start labels = some last) :
    Runs machine allowed start labels last := by
  induction labels generalizing start with
  | nil =>
      cases executed
      exact .nil _
  | cons label rest ih =>
      simp only [execIf] at executed
      split at executed
      next met =>
        rcases Option.bind_eq_some_iff.mp executed with ⟨next, stepped, executed⟩
        exact .cons met stepped (ih executed)
      next => cases executed

end Runs

namespace Reaches

theorem refl (state : σ) : Reaches machine allowed state state := ⟨[], .nil state⟩

/-- One more step. -/
theorem snoc {start state next : σ} {label : ℓ} (run : Reaches machine allowed start state)
    (met : allowed state label) (stepped : machine state label = some next) :
    Reaches machine allowed start next := by
  rcases run with ⟨labels, run⟩
  induction run with
  | nil state => exact ⟨[label], .cons met stepped (.nil next)⟩
  | cons before earlier _ ih =>
      rcases ih met stepped with ⟨labels, run⟩
      exact ⟨_, .cons before earlier run⟩

/-- What every allowed step preserves holds in every reached state. -/
theorem invariant (holds : σ → Prop)
    (preserved : ∀ {state label next}, holds state → allowed state label →
      machine state label = some next → holds next)
    {start last : σ} (run : Reaches machine allowed start last)
    (initially : holds start) : holds last := by
  rcases run with ⟨labels, run⟩
  exact run.invariant holds preserved initially

end Reaches

end Machine

end ChTech.Foundation
