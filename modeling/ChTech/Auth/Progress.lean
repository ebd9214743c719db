import ChTech.Auth.Observations
import ChTech.Foundation.Potential

/-!
# What is left of an execution

An execution runs at most five parts, and only its own steps bring it on.
-/

namespace ChTech.Auth

open Foundation RefreshTokenRepository

/-- The parts that are still to come. -/
def IssuePc.left : IssuePc → Nat
  | .generate _ => 2
  | .create .. => 1
  | .returned .. | .raised _ => 0

/-- A call that has not been made is a step of its own. -/
def Proc.left : Proc → Nat
  | .idle => 6
  | .login _ .getByEmail | .refresh _ .readClock => 5
  | .login _ (.readClock _) | .refresh _ (.revokeIfActive _) => 4
  | .login _ (.recordLogin ..) | .refresh _ (.getById _) => 3
  | .login _ (.issue pc) | .refresh _ (.issue pc) => pc.left
  | .logout _ .getByTokenHash | .purge .readClock => 3
  | .logout _ (.readClock _) | .purge (.select _) => 2
  | .logout _ (.save ..) | .purge (.delete _) => 1
  | .logout _ .returned | .logout _ (.raised _) | .purge (.returned _) => 0

section

variable [PyUnicode] [Collation] [Crypto] {settings : Settings} {state next : State}
  {label : Label} {pid : Nat}

theorem verifyCredentials_left (users : Users) (call : LoginCall) :
    (Proc.login call (verifyCredentials users call)).left ≤ 4 := by
  simp only [verifyCredentials]
  split
  next => exact Nat.zero_le 4
  next => exact Nat.zero_le 4
  next =>
    split
    next => exact Nat.le_refl 4
    next => exact Nat.zero_le 4

omit [Crypto] in
theorem lookUpUser_left (users : Users) (token : RefreshToken) :
    (lookUpUser users token).left ≤ 2 := by
  simp only [lookUpUser]
  split
  next => exact Nat.zero_le 2
  next => exact Nat.zero_le 2
  next =>
    split
    next => exact Nat.le_refl 2
    next => exact Nat.zero_le 2

omit [PyUnicode] [Collation] in
theorem checkOwner_left (tokens : RefreshTokens) (call : LogoutCall) :
    (Proc.logout call (checkOwner tokens call)).left ≤ 2 := by
  simp only [checkOwner]
  split
  next => exact Nat.zero_le 2
  next =>
    split
    next => exact Nat.le_refl 2
    next => exact Nat.zero_le 2

theorem Local.left_lt {before after : Proc} (own : Local settings state before after) :
    after.left < before.left := by
  cases own with
  | call request => cases request <;> simp [Request.start, Proc.left]
  | verifyCredentials call => exact Nat.lt_succ_of_le (verifyCredentials_left _ _)
  | getById call token => exact Nat.lt_succ_of_le (lookUpUser_left _ _)
  | checkOwner call => exact Nat.lt_succ_of_le (checkOwner_left _ _)
  | _ => simp [Proc.left, IssuePc.left]

/-- Only its own steps bring an execution on, each by one part at least. -/
theorem Transition.left_le (transition : Transition settings state label next) (pid : Nat) :
    (next.procs pid).left + charge label.pid pid ≤
      (state.procs pid).left := by
  have moved : ∀ {mover : Nat} {proc : Proc}, proc.left < (state.procs mover).left →
      (state.move mover proc pid).left + charge (some mover) pid ≤
        (state.procs pid).left := by
    intro mover proc less
    rw [move_eq]
    by_cases same : pid = mover
    · rw [if_pos same, same, charge_self]
      exact less
    · rw [if_neg same, charge_of_ne (Ne.symm same)]
      exact Nat.le_refl _
  cases transition with
  | tick | users => exact Nat.le_refl _
  | moved _ mover proc users mine own =>
      rw [mine]
      exact moved own.left_lt
  | generatedLogin mover rawToken call user present
  | generatedRefresh mover rawToken call user present
  | createdLogin mover id call user rawToken now tokens present
  | createdRefresh mover id call user rawToken now tokens present
  | revoked mover call now row present
  | saved mover call token now present | deleted mover ids present =>
      refine moved ?_
      rw [present]
      simp [Proc.left, IssuePc.left]

end

end ChTech.Auth
