import ChTech.Core.Errors
import ChTech.Foundation.Redis
import ChTech.Foundation.Transition

/-!
# The fixed-window limiter

`check_rate_limit` issues up to three Redis commands: `INCR`, then `EXPIRE` when
the counter was just created, then `TTL` when the limit is exceeded.  Any number
of calls run at once and interleave at every command, and a call may be aborted
before its next command.

For each key the state also records what happened to it, newest event first.
-/

namespace ChTech.RateLimit

open Foundation

/-- `RateLimitExceededError`. -/
structure RateLimitExceededError where
  retryAfterSeconds : Int
  deriving DecidableEq, Repr

def RateLimitExceededError.toAppError (_ : RateLimitExceededError) : AppError :=
  ⟨429, "RATE_LIMIT_EXCEEDED", "Too many requests"⟩

/-- The arguments of one `check_rate_limit` call. -/
structure Call where
  key : String
  limit : Nat
  windowSeconds : Nat
  deriving DecidableEq, Repr

/-- The call made by the dependency that `ip_rate_limiter` returns. -/
def ipRateLimiter (limit windowSeconds : Nat) (scope : String) (client : Option String) : Call :=
  ⟨"ratelimit:" ++ scope ++ ":" ++ client.getD "unknown", limit, windowSeconds⟩

/-- Where a call stands: about to issue a command, or finished. -/
inductive Pc where
  | incr
  | expire (count : Nat)
  | ttl
  | admitted
  | refused (error : RateLimitExceededError)
  | aborted
  deriving DecidableEq, Repr

namespace Pc

/-- `if count > limit`. -/
def compare (limit count : Nat) : Pc :=
  if count > limit then .ttl else .admitted

/-- `if count == 1`, then the comparison with the limit. -/
def counted (limit count : Nat) : Pc :=
  if count = 1 then .expire count else compare limit count

/-- No command of the call is still to come. -/
def finished : Pc → Bool
  | .incr | .expire _ | .ttl => false
  | .admitted | .refused _ | .aborted => true

/-- Whether the call returns or raises, once its `INCR` has decided that. -/
def verdict (limit : Nat) : Pc → Option Bool
  | .incr | .aborted => none
  | .expire count => some (decide (count ≤ limit))
  | .ttl | .refused _ => some false
  | .admitted => some true

@[simp] theorem verdict_compare (limit count : Nat) :
    (compare limit count).verdict limit = some (decide (count ≤ limit)) := by
  simp only [compare]
  by_cases exceeded : count > limit
  · simp [exceeded, verdict]
  · simp [exceeded, verdict, Nat.le_of_not_lt exceeded]

@[simp] theorem verdict_counted (limit count : Nat) :
    (counted limit count).verdict limit = some (decide (count ≤ limit)) := by
  simp only [counted]
  split
  · rfl
  · exact verdict_compare limit count

end Pc

/-- An accepted call and its progress. -/
structure Running where
  call : Call
  pc : Pc
  deriving DecidableEq, Repr

/-- One `INCR`: the call that issued it and when. -/
structure Hit where
  pid : Nat
  time : Nat
  deriving DecidableEq, Repr

/-- What happened to a key. -/
inductive Event where
  | incr (hit : Hit)
  | expire (time : Nat)
  | ttl (time : Nat)
  | vanish (time : Nat)
  deriving DecidableEq, Repr

structure State where
  clock : Nat
  redis : Redis.Store String
  calls : Nat → Option Running
  history : String → List Event

/-- An empty server and no call yet. -/
def State.init (clock : Nat) : State :=
  ⟨clock, fun _ => none, fun _ => none, fun _ => []⟩

inductive Label where
  | tick (clock : Nat)
  | call (pid : Nat) (call : Call)
  | command (pid : Nat)
  | abort (pid : Nat)
  deriving DecidableEq, Repr

namespace State

/-- Add an event to the history of a key. -/
def record (state : State) (key : String) (event : Event) : String → List Event :=
  Function.update state.history key (event :: state.history key)

/-- Move a call on. -/
def advance (state : State) (pid : Nat) (call : Call) (pc : Pc) : Nat → Option Running :=
  Function.update state.calls pid (some ⟨call, pc⟩)

/-- The next Redis command of a call, executed atomically. -/
def command (state : State) (pid : Nat) (call : Call) : Pc → Option State
  | .incr =>
      some { state with
        redis := (Redis.incr state.redis call.key).1
        calls := state.advance pid call
          (.counted call.limit (Redis.incr state.redis call.key).2)
        history := state.record call.key (.incr ⟨pid, state.clock⟩) }
  | .expire count =>
      some { state with
        redis := Redis.expire state.redis state.clock call.key call.windowSeconds
        calls := state.advance pid call (.compare call.limit count)
        history := state.record call.key (.expire state.clock) }
  | .ttl =>
      some { state with
        calls := state.advance pid call
          (.refused ⟨max (Redis.ttl state.redis state.clock call.key) 1⟩)
        history := state.record call.key (.ttl state.clock) }
  | .admitted | .refused _ | .aborted => none

/-- The keys that disappear when time moves to `clock`. -/
def vanishing (state : State) (clock : Nat) (key : String) : Bool :=
  (state.redis key).isSome && (Redis.sweep state.redis clock key).isNone

end State

/-- The machine: time passes, calls arrive, issue their next command or are aborted. -/
def step : Machine State Label
  | state, .tick clock =>
      if state.clock ≤ clock then
        some { state with
          clock
          redis := Redis.sweep state.redis clock
          history := fun key =>
            if state.vanishing clock key then .vanish clock :: state.history key
            else state.history key }
      else
        none
  | state, .call pid call =>
      match state.calls pid with
      | none => some { state with calls := state.advance pid call .incr }
      | some _ => none
  | state, .command pid =>
      match state.calls pid with
      | none => none
      | some running => state.command pid running.call running.pc
  | state, .abort pid =>
      match state.calls pid with
      | none => none
      | some running =>
          if running.pc.finished then none
          else some { state with calls := state.advance pid running.call .aborted }

/-! ## What a step can do -/

/-- A step, by its label and where its call stands. -/
inductive Transition (state : State) : Label → State → Prop where
  | ticked (clock : Nat) (forward : state.clock ≤ clock) :
      Transition state (.tick clock) { state with
        clock
        redis := Redis.sweep state.redis clock
        history := fun key =>
          if state.vanishing clock key then .vanish clock :: state.history key
          else state.history key }
  | called (pid : Nat) (call : Call) (idle : state.calls pid = none) :
      Transition state (.call pid call) { state with calls := state.advance pid call .incr }
  | incremented (pid : Nat) (call : Call) (present : state.calls pid = some ⟨call, .incr⟩) :
      Transition state (.command pid) { state with
        redis := (Redis.incr state.redis call.key).1
        calls := state.advance pid call
          (.counted call.limit (Redis.incr state.redis call.key).2)
        history := state.record call.key (.incr ⟨pid, state.clock⟩) }
  | expired (pid : Nat) (call : Call) (count : Nat)
      (present : state.calls pid = some ⟨call, .expire count⟩) :
      Transition state (.command pid) { state with
        redis := Redis.expire state.redis state.clock call.key call.windowSeconds
        calls := state.advance pid call (.compare call.limit count)
        history := state.record call.key (.expire state.clock) }
  | refused (pid : Nat) (call : Call) (present : state.calls pid = some ⟨call, .ttl⟩) :
      Transition state (.command pid) { state with
        calls := state.advance pid call
          (.refused ⟨max (Redis.ttl state.redis state.clock call.key) 1⟩)
        history := state.record call.key (.ttl state.clock) }
  | aborted (pid : Nat) (call : Call) (pc : Pc) (present : state.calls pid = some ⟨call, pc⟩)
      (pending : pc.finished = false) :
      Transition state (.abort pid) { state with calls := state.advance pid call .aborted }

theorem step_transition {state next : State} {label : Label}
    (stepped : step state label = some next) : Transition state label next := by
  cases label with
  | tick clock =>
      simp only [step] at stepped
      split at stepped
      next forward =>
        cases stepped
        exact .ticked clock forward
      next => cases stepped
  | call pid call =>
      simp only [step] at stepped
      split at stepped
      next idle =>
        cases stepped
        exact .called pid call idle
      next => cases stepped
  | command pid =>
      simp only [step] at stepped
      split at stepped
      next => cases stepped
      next running present =>
        rcases running with ⟨call, pc⟩
        cases pc with
        | incr =>
            cases stepped
            exact .incremented pid call present
        | expire count =>
            cases stepped
            exact .expired pid call count present
        | ttl =>
            cases stepped
            exact .refused pid call present
        | admitted | refused _ | aborted => cases stepped
  | abort pid =>
      simp only [step] at stepped
      split at stepped
      next => cases stepped
      next running present =>
        split at stepped
        next => cases stepped
        next pending =>
          cases stepped
          exact .aborted pid running.call running.pc present (eq_false_of_ne_true pending)

/-- Moving an unfinished call keeps the arguments of every call and the finished ones. -/
theorem State.advance_keeps {state : State} {pid other : Nat} {call : Call} {pc following : Pc}
    {running : Running} (moved : state.calls pid = some ⟨call, pc⟩)
    (pending : pc.finished = false) (present : state.calls other = some running) :
    ∃ pc, state.advance pid call following other = some ⟨running.call, pc⟩ ∧
      (running.pc.finished = true → pc = running.pc) := by
  by_cases same : other = pid
  · subst same
    rw [moved] at present
    cases present
    refine ⟨following, Function.update_self .., ?_⟩
    intro finished
    rw [pending] at finished
    cases finished
  · exact ⟨running.pc, (Function.update_of_ne same ..).trans present, fun _ => rfl⟩

/-- A step keeps the arguments of a call, and a finished call stays where it is. -/
theorem Transition.keeps {state next : State} {label : Label}
    (transition : Transition state label next) {pid : Nat} {running : Running}
    (present : state.calls pid = some running) :
    ∃ pc, next.calls pid = some ⟨running.call, pc⟩ ∧
      (running.pc.finished = true → pc = running.pc) := by
  cases transition with
  | ticked clock forward => exact ⟨running.pc, present, fun _ => rfl⟩
  | called other call idle =>
      have different : pid ≠ other := by
        intro same
        subst same
        rw [idle] at present
        cases present
      exact ⟨running.pc, (Function.update_of_ne different ..).trans present, fun _ => rfl⟩
  | incremented other call moved => exact State.advance_keeps moved rfl present
  | expired other call count moved => exact State.advance_keeps moved rfl present
  | refused other call moved => exact State.advance_keeps moved rfl present
  | aborted other call pc moved pending => exact State.advance_keeps moved pending present

end ChTech.RateLimit
