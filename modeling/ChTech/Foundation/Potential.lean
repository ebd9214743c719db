import ChTech.Foundation.Transition

/-!
# Counting steps

A potential that no step raises and every counted step lowers bounds how many counted steps a run
has.  Where one of them is enabled until something is done, they alone get it done.
-/

namespace ChTech.Foundation

/-- A step counts for the one that it brings on. -/
def charge {ι : Type} [DecidableEq ι] (mover : Option ι) (pid : ι) : Nat :=
  if mover = some pid then 1 else 0

section

variable {ι : Type} [DecidableEq ι]

theorem charge_none (pid : ι) : charge none pid = 0 := if_neg nofun

theorem charge_self (pid : ι) : charge (some pid) pid = 1 := if_pos rfl

theorem charge_of_ne {mover pid : ι} (different : mover ≠ pid) : charge (some mover) pid = 0 :=
  if_neg fun same => different (Option.some.inj same)

end

namespace Machine

universe u v

variable {σ : Type u} {ℓ : Type v} {machine : Machine σ ℓ} {allowed : σ → ℓ → Prop}
  {counted : ℓ → Bool} {potential : σ → Nat} {start last : σ}

/-- Counted steps are paid for out of the potential. -/
theorem Runs.countP_le {labels : List ℓ} (run : Runs machine allowed start labels last)
    (pays : ∀ {state label next}, machine state label = some next →
      potential next + (if counted label then 1 else 0) ≤ potential state) :
    labels.countP counted + potential last ≤ potential start := by
  induction run with
  | nil state => exact Nat.le_of_eq (Nat.zero_add _)
  | @cons state next last label rest met stepped run ih =>
      have paid := pays stepped
      rw [List.countP_cons]
      omega

/-- Counted steps alone get it done, in no more steps than the potential allows. -/
theorem exists_runs_of_potential (counted : ℓ → Bool) (holds done : σ → Prop)
    (kept : ∀ {state label next}, holds state → machine state label = some next → holds next)
    (pays : ∀ {state label next}, machine state label = some next →
      potential next + (if counted label then 1 else 0) ≤ potential state)
    (enabled : ∀ {state}, holds state → ¬done state →
      ∃ label next, counted label = true ∧ machine state label = some next)
    (held : holds start) :
    ∃ labels last, (∀ label ∈ labels, counted label = true) ∧
      labels.length ≤ potential start ∧ Runs machine Any start labels last ∧ done last := by
  induction bound : potential start using Nat.strongRecOn generalizing start with
  | ind value ih =>
      by_cases ended : done start
      · refine ⟨[], start, ?_, Nat.zero_le _, .nil _, ended⟩
        intro label member
        cases member
      · rcases enabled held ended with ⟨label, next, counts, stepped⟩
        have paid := pays stepped
        rw [if_pos counts, bound] at paid
        rcases ih (potential next) paid (kept held stepped) rfl with
          ⟨labels, last, own, short, run, finished⟩
        refine ⟨label :: labels, last, ?_, ?_, .cons trivial stepped run, finished⟩
        · intro other member
          rcases List.mem_cons.mp member with here | later
          · exact here ▸ counts
          · exact own other later
        · rw [List.length_cons]
          omega

end Machine

end ChTech.Foundation
