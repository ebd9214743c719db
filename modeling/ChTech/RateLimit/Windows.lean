import Mathlib.Algebra.Order.Group.Nat
import ChTech.Foundation.FixedWindow
import ChTech.RateLimit.Limiter

/-!
# What the limiter admits

The history of a key splits into windows at its disappearances.  Within a window
the calls are counted in the order of their `INCR`s, so the first `limit` of them
are admitted; and a window lasts at least `window_seconds`, which bounds the
traffic of any interval of that length.
-/

namespace ChTech.RateLimit

open Foundation

/-- The `INCR`s of each window, newest window and newest `INCR` first. -/
def windows : List Event → List (List Hit)
  | [] => [[]]
  | .incr hit :: older =>
      match windows older with
      | [] => [[hit]]
      | current :: closed => (hit :: current) :: closed
  | .vanish _ :: older => [] :: windows older
  | .expire _ :: older | .ttl _ :: older => windows older

namespace State

/-- The verdict of a call on `key`. -/
def verdict (state : State) (key : String) (pid : Nat) : Option Bool :=
  match state.calls pid with
  | none => none
  | some running =>
      if running.call.key = key then running.pc.verdict running.call.limit else none

/-- The call of a hit returns normally. -/
def admits (state : State) (key : String) (hit : Hit) : Bool :=
  state.verdict key hit.pid == some true

end State

/-- Every call on `key` uses the given limit and window, and none of them is aborted. -/
def Uniform (key : String) (limit windowSeconds : Nat) : State → Label → Prop
  | _, .tick _ | _, .command _ => True
  | _, .call _ call => call.key = key → call.limit = limit ∧ call.windowSeconds = windowSeconds
  | state, .abort pid => ∀ running, state.calls pid = some running → running.call.key ≠ key

theorem State.verdict_of_running {state : State} {pid : Nat} {call : Call} (pc : Pc)
    (running : state.calls pid = some ⟨call, pc⟩) :
    state.verdict call.key pid = pc.verdict call.limit := by
  simp [State.verdict, running]

private theorem verdict_advance_other {state next : State} {key : String} {pid other : Nat}
    {call : Call} {pc : Pc} (moved : next.calls = state.advance pid call pc)
    (different : other ≠ pid) : next.verdict key other = state.verdict key other := by
  simp [State.verdict, moved, State.advance, different]

/-- Moving a call on keeps the verdicts already reached. -/
private theorem verdict_advance {state next : State} {key : String} {pid other : Nat}
    {call : Call} {pc following : Pc} (present : state.calls pid = some ⟨call, pc⟩)
    (moved : next.calls = state.advance pid call following)
    (kept : ∀ {admitted}, pc.verdict call.limit = some admitted →
      following.verdict call.limit = some admitted) {admitted : Bool}
    (reached : state.verdict key other = some admitted) :
    next.verdict key other = some admitted := by
  by_cases same : other = pid
  · subst same
    have keyed : call.key = key := by
      by_contra foreign
      simp [State.verdict, present, foreign] at reached
    subst keyed
    rw [State.verdict_of_running _ present] at reached
    rw [State.verdict_of_running following (by simp [moved, State.advance])]
    exact kept reached
  · rw [verdict_advance_other moved same]
    exact reached

/-- A step never changes a verdict already reached by a call on the key. -/
theorem verdict_stable {key : String} {limit windowSeconds : Nat} {state next : State}
    {label : Label} (uniform : Uniform key limit windowSeconds state label)
    (transition : Transition state label next) {pid : Nat} {admitted : Bool}
    (reached : state.verdict key pid = some admitted) :
    next.verdict key pid = some admitted := by
  cases transition with
  | ticked clock forward => exact reached
  | called other call idle =>
      have different : pid ≠ other := by
        intro same
        subst same
        simp [State.verdict, idle] at reached
      rw [verdict_advance_other rfl different]
      exact reached
  | incremented other call present =>
      exact verdict_advance present rfl (by simp [Pc.verdict]) reached
  | expired other call count present =>
      apply verdict_advance present rfl _ reached
      intro admitted decided
      rw [Pc.verdict_compare]
      exact decided
  | refused other call present =>
      exact verdict_advance present rfl (by simp [Pc.verdict]) reached
  | aborted other call pc present pending =>
      have different : pid ≠ other := by
        intro same
        subst same
        simp [State.verdict, present, uniform _ present] at reached
      rw [verdict_advance_other rfl different]
      exact reached

/-- Counting from the oldest, the first `limit` hits have been admitted and the
later ones refused. -/
def Ranked (state : State) (key : String) (limit : Nat) : List Hit → Prop
  | [] => True
  | hit :: earlier =>
      state.verdict key hit.pid = some (decide (earlier.length < limit)) ∧
        Ranked state key limit earlier

namespace Ranked

theorem mono {state next : State} {key : String} {limit : Nat} {window : List Hit}
    (stable : ∀ {pid admitted}, state.verdict key pid = some admitted →
      next.verdict key pid = some admitted)
    (ranked : Ranked state key limit window) : Ranked next key limit window := by
  induction window with
  | nil => trivial
  | cons hit earlier ih => exact ⟨stable ranked.1, ih ranked.2⟩

/-- A window admits at most `limit` calls. -/
theorem length_admits_le {state : State} {key : String} {limit : Nat} {window : List Hit}
    (ranked : Ranked state key limit window) :
    (window.filter (state.admits key)).length ≤ limit := by
  suffices both : (window.filter (state.admits key)).length ≤ limit ∧
      (window.filter (state.admits key)).length ≤ window.length from both.1
  refine ⟨?_, List.length_filter_le _ _⟩
  induction window with
  | nil => simp
  | cons hit earlier ih =>
      have earlierLe := ih ranked.2
      have lengthLe := List.length_filter_le (state.admits key) earlier
      by_cases inside : earlier.length < limit
      · refine le_trans (List.length_filter_le _ _) ?_
        exact inside
      · have refused : state.admits key hit = false := by
          simp [State.admits, ranked.1, inside]
        rw [List.filter_cons_of_neg (by simp [refused])]
        exact earlierLe

/-- The verdict of the hit at a position counted from the oldest. -/
theorem verdict_at {state : State} {key : String} {limit : Nat} {window : List Hit}
    (ranked : Ranked state key limit window) {position : Nat} {hit : Hit}
    (found : window.reverse[position]? = some hit) :
    state.verdict key hit.pid = some (decide (position < limit)) := by
  induction window with
  | nil => simp at found
  | cons newest earlier ih =>
      rw [List.reverse_cons] at found
      by_cases inside : position < earlier.length
      · rw [List.getElem?_append_left (by simpa using inside)] at found
        exact ih ranked.2 found
      · rw [List.getElem?_append_right (by simpa using inside)] at found
        rcases List.getElem?_eq_some_iff.mp found with ⟨bound, equal⟩
        have last : position = earlier.length := by
          simp only [List.length_singleton, List.length_reverse] at bound
          omega
        have same : newest = hit := by simpa [last] using equal
        subst last same
        exact ranked.1

end Ranked

/-! ## The windows of a key -/

/-- Every call on the key uses the given limit and window, and a refusal tells the
client to wait between one second and a whole window. -/
def CallsInv (key : String) (limit windowSeconds : Nat) (state : State) : Prop :=
  ∀ pid running, state.calls pid = some running → running.call.key = key →
    (running.call.limit = limit ∧ running.call.windowSeconds = windowSeconds) ∧
      ∀ error, running.pc = .refused error →
        1 ≤ error.retryAfterSeconds ∧ error.retryAfterSeconds ≤ windowSeconds

/-- The stored counter agrees with the newest window, and the windows are spaced. -/
structure KeyInv (key : String) (limit windowSeconds : Nat) (state : State)
    (current : List Hit) (closed : List (List Hit)) : Prop where
  split : windows (state.history key) = current :: closed
  missing : state.redis key = none → current = []
  counts : ∀ entry, state.redis key = some entry →
    entry.count = current.length ∧ current ≠ []
  expiry : ∀ entry instant, state.redis key = some entry → entry.expiresAt = some instant →
    (∃ opening ∈ current, opening.time + windowSeconds * Redis.second ≤ instant) ∧
      instant ≤ state.clock + windowSeconds * Redis.second
  closing : ∀ previous ∈ closed.head?, ∃ opening ∈ previous,
    opening.time + windowSeconds * Redis.second ≤ state.clock
  spaced : FixedWindow.Spaced Hit.time (windowSeconds * Redis.second) (current :: closed)
  past : ∀ window ∈ current :: closed, ∀ hit ∈ window, hit.time ≤ state.clock
  ranked : ∀ window ∈ current :: closed, Ranked state key limit window

variable {key : String} {limit windowSeconds : Nat} {state next : State}
  {current : List Hit} {closed : List (List Hit)}

namespace KeyInv

/-- The instant a key expires is at most a window away. -/
theorem ttl_le (inv : KeyInv key limit windowSeconds state current closed) :
    Redis.ttl state.redis state.clock key ≤ windowSeconds :=
  Redis.ttl_le fun count instant present =>
    (inv.expiry ⟨count, some instant⟩ instant present rfl).2

/-- Steps that leave the key, its windows and the clock alone. -/
theorem frame (inv : KeyInv key limit windowSeconds state current closed)
    (redis : next.redis key = state.redis key)
    (history : windows (next.history key) = windows (state.history key))
    (clock : next.clock = state.clock)
    (stable : ∀ {pid admitted}, state.verdict key pid = some admitted →
      next.verdict key pid = some admitted) :
    KeyInv key limit windowSeconds next current closed where
  split := history.trans inv.split
  missing := by rw [redis]; exact inv.missing
  counts := by rw [redis]; exact inv.counts
  expiry := by rw [redis, clock]; exact inv.expiry
  closing := by rw [clock]; exact inv.closing
  spaced := inv.spaced
  past := by rw [clock]; exact inv.past
  ranked := fun window member => (inv.ranked window member).mono stable

/-- Time passes and the key stays as it is. -/
theorem tick_kept (inv : KeyInv key limit windowSeconds state current closed)
    (redis : next.redis key = state.redis key)
    (history : windows (next.history key) = windows (state.history key))
    (clock : state.clock ≤ next.clock) (calls : next.calls = state.calls) :
    KeyInv key limit windowSeconds next current closed where
  split := history.trans inv.split
  missing := by rw [redis]; exact inv.missing
  counts := by rw [redis]; exact inv.counts
  expiry := by
    intro entry instant present expires
    rw [redis] at present
    have bounds := inv.expiry entry instant present expires
    exact ⟨bounds.1, bounds.2.trans (Nat.add_le_add_right clock _)⟩
  closing := by
    intro previous member
    rcases inv.closing previous member with ⟨opening, openingMem, apart⟩
    exact ⟨opening, openingMem, apart.trans clock⟩
  spaced := inv.spaced
  past := fun window member hit hitMem => (inv.past window member hit hitMem).trans clock
  ranked := fun window member => (inv.ranked window member).mono fun reached => by
    simpa [State.verdict, calls] using reached

/-- Time passes the expiry and the key disappears: its window is closed. -/
theorem tick_vanished (inv : KeyInv key limit windowSeconds state current closed)
    {entry : Redis.Entry} {instant : Nat} (present : state.redis key = some entry)
    (expires : entry.expiresAt = some instant) (expired : instant < next.clock)
    (redis : next.redis key = none)
    (history : windows (next.history key) = [] :: windows (state.history key))
    (clock : state.clock ≤ next.clock) (calls : next.calls = state.calls) :
    KeyInv key limit windowSeconds next [] (current :: closed) where
  split := by rw [history, inv.split]
  missing := fun _ => rfl
  counts := by simp [redis]
  expiry := by simp [redis]
  closing := by
    intro previous member
    rcases inv.expiry entry instant present expires with ⟨⟨opening, openingMem, apart⟩, _⟩
    cases Option.mem_some.mp member
    exact ⟨opening, openingMem, apart.trans expired.le⟩
  spaced := inv.spaced.opened
  past := by
    intro window member hit hitMem
    rcases List.mem_cons.mp member with rfl | member
    · simp at hitMem
    · exact (inv.past window member hit hitMem).trans clock
  ranked := by
    intro window member
    rcases List.mem_cons.mp member with rfl | member
    · trivial
    · refine (inv.ranked window member).mono fun reached => ?_
      simpa [State.verdict, calls] using reached

/-- An `INCR` on the key joins the newest window, with the count it returned as
its rank. -/
theorem hit (inv : KeyInv key limit windowSeconds state current closed) {pid : Nat}
    {entry : Redis.Entry} (redis : next.redis key = some entry)
    (count : entry.count = current.length + 1)
    (expiry : ∀ instant, entry.expiresAt = some instant →
      (∃ opening ∈ current, opening.time + windowSeconds * Redis.second ≤ instant) ∧
        instant ≤ state.clock + windowSeconds * Redis.second)
    (history : next.history key = .incr ⟨pid, state.clock⟩ :: state.history key)
    (clock : next.clock = state.clock)
    (stable : ∀ {pid admitted}, state.verdict key pid = some admitted →
      next.verdict key pid = some admitted)
    (decided : next.verdict key pid = some (decide (current.length < limit))) :
    KeyInv key limit windowSeconds next (⟨pid, state.clock⟩ :: current) closed where
  split := by rw [history, windows, inv.split]
  missing := by simp [redis]
  counts := by
    intro other present
    rw [redis] at present
    cases present
    exact ⟨by simpa using count, by simp⟩
  expiry := by
    intro other instant present expires
    rw [redis] at present
    cases present
    rcases expiry instant expires with ⟨⟨opening, openingMem, apart⟩, bounded⟩
    rw [clock]
    exact ⟨⟨opening, List.mem_cons_of_mem _ openingMem, apart⟩, bounded⟩
  closing := by rw [clock]; exact inv.closing
  spaced := inv.spaced.extended
    (fun window member => inv.past window (List.mem_cons_of_mem _ member)) inv.closing
  past := by
    intro window member hit hitMem
    rw [clock]
    rcases List.mem_cons.mp member with rfl | member
    · rcases List.mem_cons.mp hitMem with rfl | hitMem
      · exact le_refl _
      · exact inv.past current List.mem_cons_self hit hitMem
    · exact inv.past window (List.mem_cons_of_mem _ member) hit hitMem
  ranked := by
    intro window member
    rcases List.mem_cons.mp member with rfl | member
    · exact ⟨decided, (inv.ranked current List.mem_cons_self).mono stable⟩
    · exact (inv.ranked window (List.mem_cons_of_mem _ member)).mono stable

/-- An `EXPIRE` on the key puts its expiry a whole window ahead. -/
theorem expired (inv : KeyInv key limit windowSeconds state current closed)
    (positive : 1 ≤ windowSeconds)
    (redis : next.redis key = Redis.expire state.redis state.clock key windowSeconds key)
    (history : windows (next.history key) = windows (state.history key))
    (clock : next.clock = state.clock)
    (stable : ∀ {pid admitted}, state.verdict key pid = some admitted →
      next.verdict key pid = some admitted) :
    KeyInv key limit windowSeconds next current closed := by
  cases stored : state.redis key with
  | none =>
      rw [Redis.expire_missing _ _ stored, ← stored] at redis
      exact inv.frame redis history clock stable
  | some entry =>
      rw [Redis.expire_present _ positive stored] at redis
      rcases inv.counts entry stored with ⟨count, nonempty⟩
      exact {
        split := history.trans inv.split
        missing := by simp [redis]
        counts := by
          intro other present
          rw [redis] at present
          cases present
          exact ⟨count, nonempty⟩
        expiry := by
          intro other instant present expires
          rw [redis] at present
          cases present
          cases expires
          rcases List.exists_mem_of_ne_nil current nonempty with ⟨opening, openingMem⟩
          have before := inv.past current List.mem_cons_self opening openingMem
          rw [clock]
          exact ⟨⟨opening, openingMem, Nat.add_le_add_right before _⟩, le_refl _⟩
        closing := by rw [clock]; exact inv.closing
        spaced := inv.spaced
        past := by rw [clock]; exact inv.past
        ranked := fun window member => (inv.ranked window member).mono stable }

end KeyInv

/-- Moving one call on keeps the facts about calls if the new point respects them. -/
theorem CallsInv.advance (inv : CallsInv key limit windowSeconds state) {pid : Nat} {call : Call}
    {pc : Pc} (moved : next.calls = state.advance pid call pc)
    (policy : call.key = key → call.limit = limit ∧ call.windowSeconds = windowSeconds)
    (refusal : call.key = key → ∀ error, pc = .refused error →
      1 ≤ error.retryAfterSeconds ∧ error.retryAfterSeconds ≤ windowSeconds) :
    CallsInv key limit windowSeconds next := by
  intro other running present keyed
  by_cases same : other = pid
  · subst same
    rw [moved, State.advance, Function.update_self] at present
    cases present
    exact ⟨policy keyed, refusal keyed⟩
  · rw [moved, State.advance, Function.update_of_ne same] at present
    exact inv other running present keyed

theorem step_callsInv (positive : 1 ≤ windowSeconds) {label : Label}
    (calls : CallsInv key limit windowSeconds state)
    (inv : KeyInv key limit windowSeconds state current closed)
    (uniform : Uniform key limit windowSeconds state label)
    (transition : Transition state label next) : CallsInv key limit windowSeconds next := by
  cases transition with
  | ticked clock forward => exact calls
  | called pid call idle => exact calls.advance rfl uniform (by simp)
  | incremented pid call present =>
      apply calls.advance rfl fun keyed => (calls pid _ present keyed).1
      intro _ error raised
      simp only [Pc.counted, Pc.compare] at raised
      split at raised
      · cases raised
      · split at raised <;> cases raised
  | expired pid call count present =>
      apply calls.advance rfl fun keyed => (calls pid _ present keyed).1
      intro _ error raised
      simp only [Pc.compare] at raised
      split at raised <;> cases raised
  | refused pid call present =>
      apply calls.advance rfl fun keyed => (calls pid _ present keyed).1
      intro keyed error raised
      cases raised
      have bounded := inv.ttl_le
      simp only at keyed ⊢
      rw [keyed]
      omega
  | aborted pid call pc present pending =>
      exact calls.advance rfl (fun keyed => absurd keyed (uniform _ present)) (by simp)

/-- An event on another key leaves the history of this one alone. -/
theorem State.record_other {other : String} {event : Event} (different : key ≠ other) :
    state.record other event key = state.history key := by
  simp [State.record, different]

theorem State.record_self {event : Event} :
    state.record key event key = event :: state.history key := by
  simp [State.record]

/-- Only `INCR`s and disappearances make the windows of a key. -/
theorem State.windows_record_quiet {event : Event}
    (quiet : windows (event :: state.history key) = windows (state.history key)) :
    windows (state.record key event key) = windows (state.history key) := by
  rw [State.record_self, quiet]

/-- A key that does not vanish is left as it is. -/
theorem State.sweep_of_not_vanishing {clock : Nat}
    (stays : ¬state.vanishing clock key = true) :
    Redis.sweep state.redis clock key = state.redis key := by
  simp only [State.vanishing, Bool.and_eq_true, Option.isNone_iff_eq_none, not_and] at stays
  cases stored : state.redis key with
  | none => exact Redis.sweep_missing clock stored
  | some entry =>
      rcases Option.ne_none_iff_exists'.mp (stays (by simp [stored])) with ⟨kept, present⟩
      have same := (Redis.sweep_eq_some.mp present).1
      rw [stored] at same
      cases same
      exact present

/-- The `INCR` of a call on the key. -/
theorem KeyInv.incremented (inv : KeyInv key limit windowSeconds state current closed)
    {pid : Nat} {call : Call} (keyed : call.key = key) (limited : call.limit = limit)
    (redis : next.redis = (Redis.incr state.redis key).1)
    (calls : next.calls = state.advance pid call
      (.counted limit (Redis.incr state.redis key).2))
    (history : next.history key = .incr ⟨pid, state.clock⟩ :: state.history key)
    (clock : next.clock = state.clock)
    (stable : ∀ {pid admitted}, state.verdict key pid = some admitted →
      next.verdict key pid = some admitted) :
    KeyInv key limit windowSeconds next (⟨pid, state.clock⟩ :: current) closed := by
  have counted : next.verdict key pid =
      some (decide ((Redis.incr state.redis key).2 ≤ limit)) := by
    rw [← keyed, State.verdict_of_running _ (by rw [calls]; exact Function.update_self ..),
      limited, Pc.verdict_counted, keyed]
  cases stored : state.redis key with
  | none =>
      rcases Redis.incr_missing stored with ⟨created, one⟩
      have empty := inv.missing stored
      rw [← redis] at created
      apply inv.hit created (by simp [empty]) (by simp) history clock stable
      rw [counted, one, empty]
      rfl
  | some entry =>
      rcases Redis.incr_present stored with ⟨increased, returned⟩
      have count := (inv.counts entry stored).1
      rw [← redis] at increased
      apply inv.hit increased (by simp [count])
        (fun instant expires => inv.expiry entry instant stored expires) history clock stable
      rw [counted, returned, count]
      rfl

theorem step_keyInv (positive : 1 ≤ windowSeconds) {label : Label}
    (calls : CallsInv key limit windowSeconds state)
    (inv : KeyInv key limit windowSeconds state current closed)
    (uniform : Uniform key limit windowSeconds state label)
    (transition : Transition state label next) :
    ∃ current' closed', KeyInv key limit windowSeconds next current' closed' := by
  have stable : ∀ {pid admitted}, state.verdict key pid = some admitted →
      next.verdict key pid = some admitted := verdict_stable uniform transition
  cases transition with
  | ticked clock forward =>
      by_cases vanishes : state.vanishing clock key = true
      · have both := vanishes
        simp only [State.vanishing, Bool.and_eq_true, Option.isSome_iff_exists,
          Option.isNone_iff_eq_none] at both
        rcases both with ⟨⟨entry, present⟩, gone⟩
        rcases Redis.expired_of_sweep present gone with ⟨instant, expires, expired⟩
        exact ⟨_, _, inv.tick_vanished present expires expired gone
          (by simp [vanishes, windows]) forward rfl⟩
      · exact ⟨_, _, inv.tick_kept (State.sweep_of_not_vanishing vanishes)
          (by simp [vanishes]) forward rfl⟩
  | called pid call idle => exact ⟨_, _, inv.frame rfl rfl rfl stable⟩
  | incremented pid call present =>
      by_cases keyed : call.key = key
      · subst keyed
        have limited : call.limit = limit := (calls pid _ present rfl).1.1
        exact ⟨_, _, inv.incremented rfl limited rfl (by rw [limited]) State.record_self rfl stable⟩
      · have foreign : key ≠ call.key := fun equal => keyed equal.symm
        exact ⟨_, _, inv.frame (Redis.incr_other _ foreign)
          (congrArg windows (State.record_other foreign)) rfl stable⟩
  | expired pid call count present =>
      by_cases keyed : call.key = key
      · subst keyed
        have window : call.windowSeconds = windowSeconds := (calls pid _ present rfl).1.2
        exact ⟨_, _, inv.expired positive (by rw [window])
          (State.windows_record_quiet rfl) rfl stable⟩
      · have foreign : key ≠ call.key := fun equal => keyed equal.symm
        exact ⟨_, _, inv.frame (Redis.expire_other _ _ _ foreign)
          (congrArg windows (State.record_other foreign)) rfl stable⟩
  | refused pid call present =>
      by_cases keyed : call.key = key
      · subst keyed
        exact ⟨_, _, inv.frame rfl (State.windows_record_quiet rfl) rfl stable⟩
      · have foreign : key ≠ call.key := fun equal => keyed equal.symm
        exact ⟨_, _, inv.frame rfl (congrArg windows (State.record_other foreign)) rfl stable⟩
  | aborted pid call pc present pending => exact ⟨_, _, inv.frame rfl rfl rfl stable⟩

theorem keyInv_init (clock : Nat) :
    KeyInv key limit windowSeconds (State.init clock) [] [] where
  split := rfl
  missing := fun _ => rfl
  counts := by simp [State.init]
  expiry := by simp [State.init]
  closing := by simp
  spaced := .single _
  past := by simp
  ranked := by
    intro window member
    rw [List.mem_singleton.mp member]
    trivial

/-- In every reachable state the key's windows and calls satisfy their invariants. -/
theorem reachable_inv (positive : 1 ≤ windowSeconds) {clock : Nat}
    (run : Machine.Reaches step (Uniform key limit windowSeconds) (State.init clock) state) :
    CallsInv key limit windowSeconds state ∧
      ∃ current closed, KeyInv key limit windowSeconds state current closed := by
  refine run.invariant (fun state => CallsInv key limit windowSeconds state ∧
    ∃ current closed, KeyInv key limit windowSeconds state current closed) ?_ ?_
  · intro state label next inv uniform stepped
    rcases inv with ⟨calls, current, closed, inv⟩
    have transition := step_transition stepped
    exact ⟨step_callsInv positive calls inv uniform transition,
      step_keyInv positive calls inv uniform transition⟩
  · exact ⟨by simp [CallsInv, State.init], [], [], keyInv_init clock⟩

theorem mem_windows_incr {hit other : Hit} {older : List Event} :
    hit ∈ (windows (.incr other :: older)).flatten ↔
      hit = other ∨ hit ∈ (windows older).flatten := by
  simp only [windows]
  cases windows older with
  | nil => simp
  | cons current closed => simp

/-- A hit stays in the windows of its key. -/
theorem Transition.mem_windows {label : Label} (transition : Transition state label next)
    {hit : Hit} (member : hit ∈ (windows (state.history key)).flatten) :
    hit ∈ (windows (next.history key)).flatten := by
  have recorded : ∀ other event,
      (∀ older, hit ∈ (windows older).flatten → hit ∈ (windows (event :: older)).flatten) →
      hit ∈ (windows (state.record other event key)).flatten := by
    intro other event kept
    by_cases same : key = other
    · subst same
      rw [State.record_self]
      exact kept _ member
    · rw [State.record_other same]
      exact member
  cases transition with
  | ticked clock forward =>
      by_cases vanishes : state.vanishing clock key = true
      · simpa [vanishes, windows] using member
      · simpa [vanishes] using member
  | called pid call idle => exact member
  | incremented pid call present =>
      exact recorded _ _ fun older before => mem_windows_incr.mpr (.inr before)
  | expired pid call count present => exact recorded _ _ fun older before => before
  | refused pid call present => exact recorded _ _ fun older before => before
  | aborted pid call pc present pending => exact member

/-- A call past its `INCR` is among the hits of its key. -/
def Counted (state : State) : Prop :=
  ∀ pid call pc, state.calls pid = some ⟨call, pc⟩ → pc ≠ .incr → pc ≠ .aborted →
    ∃ hit ∈ (windows (state.history call.key)).flatten, hit.pid = pid

theorem Transition.counted {label : Label} (transition : Transition state label next)
    (counted : Counted state) : Counted next := by
  have kept : ∀ pid call pc, state.calls pid = some ⟨call, pc⟩ → pc ≠ .incr → pc ≠ .aborted →
      ∃ hit ∈ (windows (next.history call.key)).flatten, hit.pid = pid := by
    intro pid call pc present past alive
    rcases counted pid call pc present past alive with ⟨hit, member, same⟩
    exact ⟨hit, transition.mem_windows member, same⟩
  -- Only the call that moves has to be looked at.
  have moved : ∀ other call following, next.calls = state.advance other call following →
      (following ≠ .incr → following ≠ .aborted →
        ∃ hit ∈ (windows (next.history call.key)).flatten, hit.pid = other) → Counted next := by
    intro other call following calls own pid call' pc present past alive
    rw [calls] at present
    by_cases same : pid = other
    · subst same
      rw [State.advance, Function.update_self] at present
      cases present
      exact own past alive
    · rw [State.advance, Function.update_of_ne same] at present
      exact kept pid call' pc present past alive
  cases transition with
  | ticked clock forward => exact kept
  | called pid call idle => exact moved pid call _ rfl fun past _ => absurd rfl past
  | incremented pid call present =>
      apply moved pid call _ rfl
      intro _ _
      refine ⟨⟨pid, state.clock⟩, ?_, rfl⟩
      simp only [State.record_self]
      exact mem_windows_incr.mpr (.inl rfl)
  | expired pid call count present =>
      exact moved pid call _ rfl fun _ _ => kept pid call _ present (by simp) (by simp)
  | refused pid call present =>
      exact moved pid call _ rfl fun _ _ => kept pid call _ present (by simp) (by simp)
  | aborted pid call pc present pending =>
      exact moved pid call _ rfl fun _ alive => absurd rfl alive

theorem counted_init (clock : Nat) : Counted (State.init clock) := by
  intro pid call pc present
  cases present

/-- The fixed-window limiter bounds traffic.  For a key whose calls all use the same
limit and window: in each window the `INCR`s are admitted in order up to the limit
and refused after it; an interval of a window's length holds at most twice the
limit of admitted `INCR`s; and a refusal asks to wait between one second and a
window.  No call is admitted or refused without an `INCR` among them. -/
theorem fixed_window_bounds {key : String} {limit windowSeconds : Nat} {clock : Nat}
    {state : State} (positive : 1 ≤ windowSeconds)
    (run : Machine.Reaches step (Uniform key limit windowSeconds) (State.init clock) state) :
    (∀ window ∈ windows (state.history key), ∀ position hit,
        window.reverse[position]? = some hit →
        state.verdict key hit.pid = some (decide (position < limit))) ∧
      (∀ start, ((windows (state.history key)).flatten.filter fun hit =>
        state.admits key hit && decide (FixedWindow.Within Hit.time start
          (windowSeconds * Redis.second) hit)).length ≤ 2 * limit) ∧
      (∀ pid call error, state.calls pid = some ⟨call, .refused error⟩ → call.key = key →
        1 ≤ error.retryAfterSeconds ∧ error.retryAfterSeconds ≤ windowSeconds) ∧
      Counted state := by
  rcases reachable_inv positive run with ⟨calls, current, closed, inv⟩
  refine ⟨?_, ?_, ?_, ?_⟩
  · intro window member position hit found
    rw [inv.split] at member
    exact (inv.ranked window member).verdict_at found
  · intro start
    rw [inv.split]
    exact inv.spaced.length_within_le
      (fun window member => (inv.ranked window member).length_admits_le) start
  · intro pid call error refused keyed
    exact (calls pid _ refused keyed).2 error rfl
  · rcases run with ⟨labels, run⟩
    exact run.invariant Counted
      (fun counted _ stepped => (step_transition stepped).counted counted) (counted_init clock)

/-- Two requests from one address against a limit of one per minute: the second is
refused, and after the window a third is admitted. -/
def oneAMinute : List Label :=
  let call := ipRateLimiter 1 60 "refresh" (some "203.0.113.7")
  [.call 0 call, .call 1 call, .command 0, .command 1, .command 0, .command 1,
    .tick 60001, .call 2 call, .command 2]

theorem fixed_window_bounds_refresh :
    ∃ state, Machine.exec step (State.init 0) oneAMinute = some state ∧
      ((windows (state.history "ratelimit:refresh:203.0.113.7")).flatten.filter fun hit =>
        state.admits "ratelimit:refresh:203.0.113.7" hit &&
          decide (FixedWindow.Within Hit.time 2 (60 * Redis.second) hit)).length ≤ 2 * 1 := by
  refine ⟨_, rfl, ?_⟩
  have run : Machine.Reaches step (Uniform "ratelimit:refresh:203.0.113.7" 1 60)
      (State.init 0) _ := ⟨oneAMinute, Machine.Runs.of_exec ?_ rfl⟩
  · exact (fixed_window_bounds (by decide) run).2.1 2
  intro label member state
  simp only [oneAMinute, List.mem_cons, List.not_mem_nil, or_false] at member
  rcases member with rfl | rfl | rfl | rfl | rfl | rfl | rfl | rfl | rfl <;>
    first | trivial | exact fun _ => ⟨rfl, rfl⟩

end ChTech.RateLimit
