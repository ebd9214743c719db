import ChTech.RateLimit.Windows

/-!
# Keys that never expire

The expiry of a key is set by a second command, issued only by the call whose
`INCR` created the key.  If that call is aborted in between, the key keeps
counting without an expiry.  Without such an abort every key left behind by
finished calls expires within a window of the last command.
-/

namespace ChTech.RateLimit

open Foundation

/-- When the event is a Redis command, its time. -/
def Event.commandTime : Event → Option Nat
  | .incr hit => some hit.time
  | .expire time | .ttl time => some time
  | .vanish _ => none

/-- The time of the last command on a key, from its history. -/
def lastCommand (history : List Event) : Option Nat :=
  history.findSome? Event.commandTime

/-- No call on `key` has a command still to come. -/
def State.Quiet (state : State) (key : String) : Prop :=
  ∀ pid running, state.calls pid = some running → running.call.key = key →
    running.pc.finished = true

/-- A new call is admitted once the clock has moved to `clock`. -/
def AdmittedAt (state : State) (clock pid : Nat) (call : Call) : Prop :=
  ∃ after, Machine.exec step state [.tick clock, .call pid call, .command pid] = some after ∧
    after.verdict call.key pid = some true

/-- The key recovers by itself: its expiry is at most a window after the last
command, and from then on the next request is admitted. -/
def Recovers (state : State) (key : String) (limit windowSeconds : Nat) : Prop :=
  ∀ entry, state.redis key = some entry →
    ∃ instant last, entry.expiresAt = some instant ∧
      lastCommand (state.history key) = some last ∧
      instant ≤ last + windowSeconds * Redis.second ∧
      ∀ clock pid, instant < clock → state.clock ≤ clock → state.calls pid = none →
        AdmittedAt state clock pid ⟨key, limit, windowSeconds⟩

/-- Calls on `key` use the given limit and window, and none is aborted between the
`INCR` that returned one and its `EXPIRE`. -/
def ExpireIssued (key : String) (limit windowSeconds : Nat) : State → Label → Prop
  | _, .tick _ | _, .command _ => True
  | _, .call _ call => call.key = key → call.limit = limit ∧ call.windowSeconds = windowSeconds
  | state, .abort pid => ∀ running, state.calls pid = some running → running.call.key = key →
      ∀ count, running.pc ≠ .expire count

/-- A call on `key` is about to set its expiry. -/
def ExpirePending (state : State) (key : String) : Prop :=
  ∃ pid running count, state.calls pid = some running ∧ running.call.key = key ∧
    running.pc = .expire count

/-- An existing key has an expiry, or the call that created it will set one. -/
structure ExpiryInv (key : String) (limit windowSeconds : Nat) (state : State) : Prop where
  policy : ∀ pid running, state.calls pid = some running → running.call.key = key →
    running.call.limit = limit ∧ running.call.windowSeconds = windowSeconds
  past : ∀ last, lastCommand (state.history key) = some last → last ≤ state.clock
  pending : ∀ entry, state.redis key = some entry → entry.expiresAt = none →
    ExpirePending state key
  bounded : ∀ entry instant, state.redis key = some entry → entry.expiresAt = some instant →
    ∃ last, lastCommand (state.history key) = some last ∧
      instant ≤ last + windowSeconds * Redis.second

variable {key : String} {limit windowSeconds : Nat} {state next : State}

namespace ExpiryInv

/-- Moving one call on keeps a pending `EXPIRE` of another one. -/
theorem pending_other {pid : Nat} {call : Call} {pc following : Pc}
    (present : state.calls pid = some ⟨call, pc⟩)
    (moved : next.calls = state.advance pid call following)
    (other : call.key = key → ∀ count, pc ≠ .expire count)
    (pending : ExpirePending state key) : ExpirePending next key := by
  rcases pending with ⟨owner, running, count, owned, keyed, expiring⟩
  refine ⟨owner, running, count, ?_, keyed, expiring⟩
  have different : owner ≠ pid := by
    intro same
    subst same
    rw [present] at owned
    cases owned
    exact other keyed count expiring
  rw [moved, State.advance, Function.update_of_ne different]
  exact owned

theorem policy_advance (inv : ExpiryInv key limit windowSeconds state) {pid : Nat} {call : Call}
    {pc : Pc} (moved : next.calls = state.advance pid call pc)
    (policy : call.key = key → call.limit = limit ∧ call.windowSeconds = windowSeconds) :
    ∀ pid running, next.calls pid = some running → running.call.key = key →
      running.call.limit = limit ∧ running.call.windowSeconds = windowSeconds := by
  intro other running present keyed
  by_cases same : other = pid
  · subst same
    rw [moved, State.advance, Function.update_self] at present
    cases present
    exact policy keyed
  · rw [moved, State.advance, Function.update_of_ne same] at present
    exact inv.policy other running present keyed

/-- Steps that leave the key and its history alone. -/
theorem frame (inv : ExpiryInv key limit windowSeconds state)
    (policy : ∀ pid running, next.calls pid = some running → running.call.key = key →
      running.call.limit = limit ∧ running.call.windowSeconds = windowSeconds)
    (redis : next.redis key = state.redis key) (clock : state.clock ≤ next.clock)
    (history : lastCommand (next.history key) = lastCommand (state.history key))
    (pending : ExpirePending state key → ExpirePending next key) :
    ExpiryInv key limit windowSeconds next where
  policy := policy
  past := fun last found => (inv.past last (history ▸ found)).trans clock
  pending := by
    rw [redis]
    exact fun entry present unset => pending (inv.pending entry present unset)
  bounded := by rw [redis, history]; exact inv.bounded

/-- A command at the current time on a key that keeps its expiry. -/
theorem command (inv : ExpiryInv key limit windowSeconds state)
    (policy : ∀ pid running, next.calls pid = some running → running.call.key = key →
      running.call.limit = limit ∧ running.call.windowSeconds = windowSeconds)
    (clock : next.clock = state.clock)
    (history : lastCommand (next.history key) = some state.clock)
    (redis : ∀ entry, next.redis key = some entry →
      (∃ before, state.redis key = some before ∧ before.expiresAt = entry.expiresAt) ∨
        entry.expiresAt = some (state.clock + windowSeconds * Redis.second) ∨
        (entry.expiresAt = none ∧ ExpirePending next key))
    (pending : (∃ entry, next.redis key = some entry ∧ entry.expiresAt = none) →
      ExpirePending state key → ExpirePending next key) :
    ExpiryInv key limit windowSeconds next where
  policy := policy
  past := by
    intro last found
    rw [history] at found
    cases found
    exact clock.ge
  pending := by
    intro entry present unset
    rcases redis entry present with ⟨before, stored, same⟩ | set | ⟨_, owner⟩
    · exact pending ⟨entry, present, unset⟩ (inv.pending before stored (same.trans unset))
    · rw [unset] at set
      cases set
    · exact owner
  bounded := by
    intro entry instant present set
    refine ⟨state.clock, history, ?_⟩
    rcases redis entry present with ⟨before, stored, same⟩ | fresh | ⟨unset, _⟩
    · rcases inv.bounded before instant stored (same.trans set) with ⟨last, found, within⟩
      exact within.trans (Nat.add_le_add_right (inv.past last found) _)
    · rw [set] at fresh
      cases fresh
      exact le_refl _
    · rw [unset] at set
      cases set

end ExpiryInv

theorem lastCommand_incr {hit : Hit} :
    lastCommand (state.record key (.incr hit) key) = some hit.time := by
  rw [State.record_self]
  rfl

theorem lastCommand_expire {time : Nat} :
    lastCommand (state.record key (.expire time) key) = some time := by
  rw [State.record_self]
  rfl

theorem lastCommand_ttl {time : Nat} :
    lastCommand (state.record key (.ttl time) key) = some time := by
  rw [State.record_self]
  rfl

/-- The `INCR` of a call on the key. -/
theorem ExpiryInv.incremented (inv : ExpiryInv key limit windowSeconds state) {pid : Nat}
    {call : Call} (keyed : call.key = key) (present : state.calls pid = some ⟨call, .incr⟩)
    (redis : next.redis = (Redis.incr state.redis key).1)
    (moved : next.calls = state.advance pid call
      (.counted call.limit (Redis.incr state.redis key).2))
    (clock : next.clock = state.clock)
    (history : lastCommand (next.history key) = some state.clock) :
    ExpiryInv key limit windowSeconds next := by
  apply inv.command (inv.policy_advance moved (inv.policy pid _ present)) clock history
  · intro entry stored
    rw [redis] at stored
    cases before : state.redis key with
    | none =>
        rcases Redis.incr_missing before with ⟨created, one⟩
        cases created.symm.trans stored
        refine .inr (.inr ⟨rfl, pid, ⟨call, .expire 1⟩, 1, ?_, keyed, rfl⟩)
        rw [moved, one]
        exact Function.update_self ..
    | some previous =>
        rcases Redis.incr_present before with ⟨increased, _⟩
        cases increased.symm.trans stored
        exact .inl ⟨previous, rfl, rfl⟩
  · intro _
    exact ExpiryInv.pending_other present moved (by simp)

/-- The `EXPIRE` of a call on the key. -/
theorem ExpiryInv.expired (inv : ExpiryInv key limit windowSeconds state)
    (positive : 1 ≤ windowSeconds) {pid count : Nat} {call : Call}
    (present : state.calls pid = some ⟨call, .expire count⟩)
    (redis : next.redis = Redis.expire state.redis state.clock key windowSeconds)
    (moved : next.calls = state.advance pid call (.compare call.limit count))
    (clock : next.clock = state.clock)
    (history : lastCommand (next.history key) = some state.clock) :
    ExpiryInv key limit windowSeconds next := by
  have set : ∀ entry, next.redis key = some entry →
      entry.expiresAt = some (state.clock + windowSeconds * Redis.second) := by
    intro entry stored
    rw [redis] at stored
    cases before : state.redis key with
    | none => simp [Redis.expire_missing _ _ before] at stored
    | some previous =>
        rw [Redis.expire_present _ positive before] at stored
        cases stored
        rfl
  apply inv.command (inv.policy_advance moved (inv.policy pid _ present)) clock history
    (fun entry stored => .inr (.inl (set entry stored)))
  rintro ⟨entry, stored, unset⟩
  rw [set entry stored] at unset
  cases unset

theorem step_expiryInv (positive : 1 ≤ windowSeconds) {label : Label}
    (inv : ExpiryInv key limit windowSeconds state)
    (issued : ExpireIssued key limit windowSeconds state label)
    (transition : Transition state label next) : ExpiryInv key limit windowSeconds next := by
  cases transition with
  | ticked clock forward =>
      have history : lastCommand (if state.vanishing clock key then
          .vanish clock :: state.history key else state.history key) =
          lastCommand (state.history key) := by
        split <;> rfl
      constructor
      · exact inv.policy
      · intro last found
        exact (inv.past last (history ▸ found)).trans forward
      · intro entry present
        exact inv.pending entry (Redis.sweep_eq_some.mp present).1
      · intro entry instant present set
        rw [history]
        exact inv.bounded entry instant (Redis.sweep_eq_some.mp present).1 set
  | called pid call idle =>
      refine inv.frame (inv.policy_advance rfl issued) rfl (le_refl _) rfl ?_
      rintro ⟨owner, running, count, owned, keyed, expiring⟩
      refine ⟨owner, running, count, ?_, keyed, expiring⟩
      have different : owner ≠ pid := by
        intro same
        subst same
        rw [idle] at owned
        cases owned
      simp [State.advance, different, owned]
  | incremented pid call present =>
      by_cases keyed : call.key = key
      · subst keyed
        exact inv.incremented rfl present rfl rfl rfl lastCommand_incr
      · have foreign : key ≠ call.key := fun equal => keyed equal.symm
        exact inv.frame (inv.policy_advance rfl (inv.policy pid _ present))
          (Redis.incr_other _ foreign) (le_refl _)
          (congrArg lastCommand (State.record_other foreign))
          (ExpiryInv.pending_other present rfl fun same => absurd same keyed)
  | expired pid call count present =>
      by_cases keyed : call.key = key
      · subst keyed
        have window : call.windowSeconds = windowSeconds := (inv.policy pid _ present rfl).2
        exact inv.expired positive present (by rw [window]) rfl rfl lastCommand_expire
      · have foreign : key ≠ call.key := fun equal => keyed equal.symm
        exact inv.frame (inv.policy_advance rfl (inv.policy pid _ present))
          (Redis.expire_other _ _ _ foreign) (le_refl _)
          (congrArg lastCommand (State.record_other foreign))
          (ExpiryInv.pending_other present rfl fun same => absurd same keyed)
  | refused pid call present =>
      by_cases keyed : call.key = key
      · subst keyed
        exact inv.command (inv.policy_advance rfl (inv.policy pid _ present)) rfl lastCommand_ttl
          (fun entry stored => .inl ⟨entry, stored, rfl⟩)
          (fun _ => ExpiryInv.pending_other present rfl (by simp))
      · have foreign : key ≠ call.key := fun equal => keyed equal.symm
        exact inv.frame (inv.policy_advance rfl (inv.policy pid _ present)) rfl (le_refl _)
          (congrArg lastCommand (State.record_other foreign))
          (ExpiryInv.pending_other present rfl fun same => absurd same keyed)
  | aborted pid call pc present pending =>
      exact inv.frame (inv.policy_advance rfl (inv.policy pid _ present)) rfl (le_refl _) rfl
        (ExpiryInv.pending_other present rfl (issued _ present))

/-- A request that finds no counter is admitted when the limit allows one. -/
theorem admitted_of_missing (positive : 1 ≤ limit) {pid : Nat}
    (missing : state.redis key = none) (idle : state.calls pid = none) :
    ∃ after, Machine.exec step state [.call pid ⟨key, limit, windowSeconds⟩, .command pid] =
      some after ∧ after.verdict key pid = some true := by
  let call : Call := ⟨key, limit, windowSeconds⟩
  let ready : State := { state with calls := state.advance pid call .incr }
  have called : step state (.call pid call) = some ready := by
    simp [step, idle, ready]
  have waiting : step ready (.command pid) = ready.command pid call .incr := by
    simp [step, ready, State.advance]
  obtain ⟨after, commanded⟩ : ∃ after, ready.command pid call .incr = some after := ⟨_, rfl⟩
  refine ⟨after, ?_, ?_⟩
  · simp only [Machine.exec]
    exact Option.bind_eq_some_iff.mpr ⟨ready, called,
      Option.bind_eq_some_iff.mpr ⟨after, waiting.trans commanded, rfl⟩⟩
  · have one := (Redis.incr_missing missing).2
    have counted : after.calls pid = some ⟨call, .counted limit 1⟩ := by
      cases commanded
      simp [State.advance, ready, call, one]
    refine (State.verdict_of_running _ counted).trans ?_
    simp [positive, call]

/-- Once its expiry has passed the key is gone, and the next request is admitted. -/
theorem admittedAt_of_expired (positive : 1 ≤ limit) {clock pid instant : Nat}
    {entry : Redis.Entry} (present : state.redis key = some entry)
    (set : entry.expiresAt = some instant) (expired : instant < clock)
    (forward : state.clock ≤ clock) (idle : state.calls pid = none) :
    AdmittedAt state clock pid ⟨key, limit, windowSeconds⟩ := by
  have gone : Redis.sweep state.redis clock key = none := by
    simp [Redis.sweep, present, Redis.Entry.live, set, expired]
  let swept : State := { state with
    clock
    redis := Redis.sweep state.redis clock
    history := fun key =>
      if state.vanishing clock key then .vanish clock :: state.history key
      else state.history key }
  have ticked : step state (.tick clock) = some swept := if_pos forward
  have missing : swept.redis key = none := gone
  rcases admitted_of_missing positive missing idle with ⟨after, executed, admitted⟩
  exact ⟨after, Option.bind_eq_some_iff.mpr ⟨swept, ticked, executed⟩, admitted⟩

theorem expiryInv_init (clock : Nat) : ExpiryInv key limit windowSeconds (State.init clock) where
  policy := by simp [State.init]
  past := by simp [State.init, lastCommand]
  pending := by simp [State.init]
  bounded := by simp [State.init]

/-- Without a call aborted before its `EXPIRE`, a key left behind by finished calls
expires within a window of its last command and the next request is admitted. -/
theorem recovers_without_early_abort {key : String} {limit windowSeconds clock : Nat}
    {state : State} (someLimit : 1 ≤ limit) (someWindow : 1 ≤ windowSeconds)
    (run : Machine.Reaches step (ExpireIssued key limit windowSeconds) (State.init clock) state)
    (quiet : state.Quiet key) : Recovers state key limit windowSeconds := by
  have inv : ExpiryInv key limit windowSeconds state :=
    run.invariant _ (fun inv issued stepped =>
      step_expiryInv someWindow inv issued (step_transition stepped)) (expiryInv_init clock)
  intro entry present
  cases expiry : entry.expiresAt with
  | none =>
      rcases inv.pending entry present expiry with ⟨pid, running, count, owned, keyed, expiring⟩
      have ended := quiet pid running owned keyed
      rw [expiring] at ended
      cases ended
  | some instant =>
      rcases inv.bounded entry instant present expiry with ⟨last, found, within⟩
      refine ⟨instant, last, rfl, found, within, ?_⟩
      intro clock pid expired forward idle
      exact admittedAt_of_expired someLimit present expiry expired forward idle

/-- A request that is admitted, and one that is aborted before its `INCR`. -/
def admittedLogin : List Label :=
  let call := ipRateLimiter 5 60 "login" none
  [.call 0 call, .command 0, .command 0, .call 1 call, .abort 1]

theorem recovers_without_early_abort_login :
    ∃ state, Machine.exec step (State.init 0) admittedLogin = some state ∧
      Recovers state "ratelimit:login:unknown" 5 60 := by
  refine ⟨_, rfl, ?_⟩
  refine recovers_without_early_abort (by decide) (by decide)
    (⟨admittedLogin, ?_⟩ : Machine.Reaches step (ExpireIssued "ratelimit:login:unknown" 5 60)
      (State.init 0) _) ?_
  · refine .cons (fun _ => ⟨rfl, rfl⟩) rfl (.cons trivial rfl (.cons trivial rfl
      (.cons (fun _ => ⟨rfl, rfl⟩) rfl (.cons ?_ rfl (.nil _)))))
    intro running present keyed count expiring
    cases present
    cases expiring
  · intro pid running present keyed
    by_cases first : pid = 0
    · subst first
      cases present
      rfl
    · by_cases second : pid = 1
      · subst second
        cases present
        rfl
      · simp [State.advance, first, second, State.init] at present

/-- Calls on `key` use the given limit and window; any call may be aborted. -/
def OnePolicy (key : String) (limit windowSeconds : Nat) : State → Label → Prop
  | _, .call _ call => call.key = key → call.limit = limit ∧ call.windowSeconds = windowSeconds
  | _, .tick _ | _, .command _ | _, .abort _ => True

/-- A request that is aborted between `INCR` and `EXPIRE`. -/
def abortedLogin : List Label :=
  [.call 0 (ipRateLimiter 5 60 "login" none), .command 0, .abort 0]

theorem locked_out_after_abort :
    ¬ ∀ (key : String) (limit windowSeconds clock : Nat) (state : State),
      1 ≤ limit → 1 ≤ windowSeconds →
      Machine.Reaches step (OnePolicy key limit windowSeconds) (State.init clock) state →
      (∀ other, state.Quiet other) → Recovers state key limit windowSeconds := by
  intro claim
  obtain ⟨state, executed⟩ : ∃ state,
      Machine.exec step (State.init 0) abortedLogin = some state := ⟨_, rfl⟩
  have run : Machine.Reaches step (OnePolicy "ratelimit:login:unknown" 5 60)
      (State.init 0) state := by
    refine ⟨abortedLogin, Machine.Runs.of_exec ?_ executed⟩
    intro label member state
    simp only [abortedLogin, List.mem_cons, List.not_mem_nil, or_false] at member
    rcases member with rfl | rfl | rfl
    · exact fun _ => ⟨rfl, rfl⟩
    · trivial
    · trivial
  cases executed
  obtain ⟨instant, last, expiry, _⟩ := claim _ _ _ _ _ (by decide) (by decide) run
    (by
      intro other pid running present keyed
      by_cases same : pid = 0
      · subst same
        cases present
        rfl
      · simp [State.advance, same, State.init] at present)
    ⟨1, none⟩ rfl
  cases expiry

end ChTech.RateLimit
