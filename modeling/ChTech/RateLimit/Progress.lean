import ChTech.Foundation.Potential
import ChTech.RateLimit.Limiter

/-!
# What is left of a call

A call issues at most three commands.  No other call takes one of them away, and none is aborted
but by `abort`.
-/

namespace ChTech.RateLimit

open Foundation

/-- The commands that a call may still issue. -/
def Pc.left : Pc → Nat
  | .incr => 3
  | .expire _ => 2
  | .ttl => 1
  | .admitted | .refused _ | .aborted => 0

theorem Pc.left_compare (limit count : Nat) : (compare limit count).left ≤ 1 := by
  simp only [compare]
  split
  next => exact Nat.le_refl 1
  next => exact Nat.zero_le 1

theorem Pc.left_counted (limit count : Nat) : (counted limit count).left ≤ 2 := by
  simp only [counted]
  split
  next => exact Nat.le_refl 2
  next => exact Nat.le_succ_of_le (left_compare limit count)

/-- A call that has not been made is a step of its own. -/
def left : Option Running → Nat
  | none => 4
  | some running => running.pc.left

/-- The call that a label makes or moves on. -/
def Label.mover : Label → Option Nat
  | .call pid _ | .command pid => some pid
  | .tick _ | .abort _ => none

variable {state next : State} {label : Label} {pid other : Nat} {call : Call} {pc : Pc}

theorem left_advance :
    left (state.advance other call pc pid) =
      if other = pid then pc.left else left (state.calls pid) := by
  by_cases same : other = pid
  · subst same
    rw [if_pos rfl, State.advance, Function.update_self]
    rfl
  · rw [if_neg same, State.advance, Function.update_of_ne (Ne.symm same)]

/-- Only its own steps bring a call on, each by one command at least. -/
theorem Transition.left_le (transition : Transition state label next) (pid : Nat) :
    left (next.calls pid) + charge label.mover pid ≤ left (state.calls pid) := by
  have moved : ∀ {other : Nat} {call : Call} {pc : Pc}, pc.left + 1 ≤ left (state.calls other) →
      left (state.advance other call pc pid) + charge (some other) pid ≤
        left (state.calls pid) := by
    intro other call pc less
    rw [left_advance]
    by_cases same : other = pid
    · subst same
      rw [if_pos rfl, charge_self]
      exact less
    · rw [if_neg same, charge_of_ne same]
      exact Nat.le_refl _
  cases transition with
  | ticked => exact Nat.le_refl _
  | called other call idle =>
      refine moved ?_
      rw [idle]
      exact Nat.le_refl 4
  | incremented other call present =>
      refine moved ?_
      rw [present]
      exact Nat.succ_le_succ (Pc.left_counted _ _)
  | expired other call count present =>
      refine moved ?_
      rw [present]
      exact Nat.succ_le_succ (Pc.left_compare _ _)
  | refused other call present =>
      refine moved ?_
      rw [present]
      exact Nat.le_refl 1
  | aborted other call pc present pending =>
      change left (state.advance other call .aborted pid) ≤ _
      by_cases same : other = pid
      · rw [left_advance, if_pos same]
        exact Nat.zero_le _
      · exact Nat.le_of_eq (left_advance.trans (if_neg same))

/-- Only `abort` aborts a call. -/
theorem Transition.unaborted (transition : Transition state label next)
    (kept : label ≠ .abort pid)
    (held : ∀ running, state.calls pid = some running → running.pc ≠ .aborted) :
    ∀ running, next.calls pid = some running → running.pc ≠ .aborted := by
  have moved : ∀ {other : Nat} {call : Call} {pc : Pc}, (other = pid → pc ≠ .aborted) →
      ∀ running, state.advance other call pc pid = some running → running.pc ≠ .aborted := by
    intro other call pc going running present
    by_cases same : other = pid
    · subst same
      rw [State.advance, Function.update_self] at present
      cases present
      exact going rfl
    · rw [State.advance, Function.update_of_ne (Ne.symm same)] at present
      exact held running present
  have compared : ∀ limit count, Pc.compare limit count ≠ .aborted := by
    intro limit count
    simp only [Pc.compare]
    split <;> exact Pc.noConfusion
  cases transition with
  | ticked => exact held
  | called other call idle => exact moved fun _ => Pc.noConfusion
  | incremented other call present =>
      refine moved fun _ => ?_
      simp only [Pc.counted]
      split
      next => exact Pc.noConfusion
      next => exact compared _ _
  | expired other call count present => exact moved fun _ => compared _ _
  | refused other call present => exact moved fun _ => Pc.noConfusion
  | aborted other call pc present pending =>
      refine moved fun same => ?_
      exact absurd (same ▸ rfl) kept

end ChTech.RateLimit
