import ChTech.Api.Exchanges

/-!
# The limits of the routes

Five policies count on one Redis server, each under keys of its own.  A key counts requests of
one policy only, so what the limiter guarantees of a key holds of the requests: of those counted
in one of its windows the first ones up to the limit get past it, the later ones are answered
429, and an interval of a window's length sees at most twice the limit get past.
-/

namespace ChTech.RateLimit

variable {state next : State} {label : Label}

/-- A call that is there has been there, or has just been made. -/
theorem Transition.called_before (transition : Transition state label next) {pid : Nat}
    {running : Running} (present : next.calls pid = some running) :
    (∃ pc, state.calls pid = some ⟨running.call, pc⟩) ∨ label = .call pid running.call := by
  have moved : ∀ {other call pc following}, state.calls other = some ⟨call, pc⟩ →
      state.advance other call following pid = some running →
      ∃ pc, state.calls pid = some ⟨running.call, pc⟩ := by
    intro other call pc following before after
    by_cases same : pid = other
    · subst same
      rw [State.advance, Function.update_self] at after
      cases after
      exact ⟨pc, before⟩
    · rw [State.advance, Function.update_of_ne same] at after
      exact ⟨running.pc, after⟩
  cases transition with
  | ticked clock forward => exact .inl ⟨running.pc, present⟩
  | called other call idle =>
      by_cases same : pid = other
      · subst same
        have own := (Function.update_self ..).symm.trans present
        cases own
        exact .inr rfl
      · exact .inl ⟨running.pc, (Function.update_of_ne same ..).symm.trans present⟩
  | incremented other call before => exact .inl (moved before present)
  | expired other call count before => exact .inl (moved before present)
  | refused other call before => exact .inl (moved before present)
  | aborted other call pc before pending => exact .inl (moved before present)

end ChTech.RateLimit

namespace ChTech.Api

open Foundation Content Application

/-- The scope, the limit and the window of each policy. -/
def policies : List (String × Nat × Nat) :=
  [("public-api", 100, 60), ("admin-write", 60, 60), ("contact", 10, 3600), ("refresh", 20, 60),
    ("login", 5, 900)]

/-- The call of a policy for a client or an address. -/
def policyCall (policy : String × Nat × Nat) (subject : String) : RateLimit.Call :=
  ⟨"ratelimit:" ++ policy.1 ++ ":" ++ subject, policy.2.1, policy.2.2⟩

theorem eq_of_initial : ∀ first ∈ policies, ∀ second ∈ policies,
    first.1.toList.head? = second.1.toList.head? → first = second := by
  decide

/-- The first character of the scope is at a fixed place of the key. -/
theorem initial_of_key {policy : String × Nat × Nat} (known : policy ∈ policies)
    (subject : String) :
    (policyCall policy subject).key.toList[10]? = policy.1.toList.head? := by
  have nonempty : ∀ policy ∈ policies, policy.1.toList.head?.isSome = true := by decide
  have named := nonempty policy known
  have prefixed : "ratelimit:".toList.length = 10 := by decide
  simp only [policyCall, String.toList_append, List.append_assoc]
  rw [List.getElem?_append_right (by rw [prefixed]), prefixed]
  cases letters : policy.1.toList with
  | nil =>
      rw [letters] at named
      cases named
  | cons letter rest => rfl

theorem policyCall_congr {first second : String × Nat × Nat} (firstKnown : first ∈ policies)
    (secondKnown : second ∈ policies) {subject other : String}
    (same : (policyCall first subject).key = (policyCall second other).key) :
    policyCall first subject = policyCall second other := by
  have initials : first.1.toList.head? = second.1.toList.head? := by
    rw [← initial_of_key firstKnown subject, ← initial_of_key secondKnown other, same]
  have equal := eq_of_initial first firstKnown second secondKnown initials
  subst equal
  rw [RateLimit.Call.mk.injEq]
  exact ⟨same, rfl, rfl⟩

section

variable [PyUnicode]

/-- The call of a request is that of a policy. -/
theorem limitCall_policy {request : Request} {call : RateLimit.Call}
    (called : request.limitCall = some call) :
    ∃ policy ∈ policies, ∃ subject, call = policyCall policy subject := by
  have counted : ∀ policy ∈ policies, call = RateLimit.ipRateLimiter policy.2.1 policy.2.2
      policy.1 request.client → ∃ policy ∈ policies, ∃ subject, call = policyCall policy subject :=
    fun policy known same => ⟨policy, known, request.client.getD "unknown", same⟩
  cases route : request.route with
  | publicRead =>
      simp only [Request.limitCall, route] at called
      exact counted ("public-api", 100, 60) (by decide) (Option.some.inj called).symm
  | create | update | delete =>
      simp only [Request.limitCall, route] at called
      exact counted ("admin-write", 60, 60) (by decide) (Option.some.inj called).symm
  | contact =>
      simp only [Request.limitCall, route] at called
      exact counted ("contact", 10, 3600) (by decide) (Option.some.inj called).symm
  | refresh =>
      simp only [Request.limitCall, route] at called
      exact counted ("refresh", 20, 60) (by decide) (Option.some.inj called).symm
  | login =>
      simp only [Request.limitCall, route] at called
      split at called
      next email password sent =>
        refine ⟨("login", 5, 900), by decide, PyUnicode.lower email, ?_⟩
        exact (Option.some.inj called).symm
      next => cases called
  | adminRead | logout =>
      simp only [Request.limitCall, route] at called
      cases called

/-- Requests that count on one key make the same call. -/
theorem limitCall_congr {first second : Request} {call other : RateLimit.Call}
    (called : first.limitCall = some call) (called' : second.limitCall = some other)
    (same : call.key = other.key) : call = other := by
  rcases limitCall_policy called with ⟨policy, known, subject, made⟩
  rcases limitCall_policy called' with ⟨policy', known', subject', made'⟩
  subst made made'
  exact policyCall_congr known known' same

theorem limitCall_window_pos {request : Request} {call : RateLimit.Call}
    (called : request.limitCall = some call) : 1 ≤ call.windowSeconds := by
  have positive : ∀ policy ∈ policies, 1 ≤ policy.2.2 := by decide
  rcases limitCall_policy called with ⟨policy, known, subject, made⟩
  subst made
  exact positive policy known

end

section

variable [PyUnicode] [Collation] [Crypto] [Jwt] [PyDecimal] [Mysql] [EmailStr]
  {deployment : Deployment} {state next : State} {label : Label} {clock : Nat}

/-! ## What the limiter has said of a request -/

/-- The limiter is behind the request. -/
def Past (exchange : Exchange) : Prop :=
  .limit ∈ exchange.request.route.stages ∧ .limit ∉ exchange.todo

instance (exchange : Exchange) : Decidable (Past exchange) := inferInstanceAs (Decidable (_ ∧ _))

/-- The limiter has answered the request. -/
def TurnedAway (exchange : Exchange) : Prop :=
  exchange.todo.head? = some .limit ∧ exchange.response ≠ none

/-- A request has made no call but its own, it is past the limiter once that has been admitted,
and is answered 429 once that has been refused. -/
structure Checked (limiter : RateLimit.State) (pid : Nat) (exchange : Exchange) : Prop where
  own : ∀ running, limiter.calls pid = some running →
    exchange.request.limitCall = some running.call
  past : Past exchange → ∃ call, limiter.calls pid = some ⟨call, .admitted⟩
  turnedAway : TurnedAway exchange →
    exchange.response = some ⟨429, .error "RATE_LIMIT_EXCEEDED" "Too many requests"⟩ ∧
      ∃ call error, limiter.calls pid = some ⟨call, .refused error⟩

structure Limited (clock : Nat) (state : State) : Prop where
  limiter : ∀ (request : Request) (call : RateLimit.Call), request.limitCall = some call →
    Machine.Reaches RateLimit.step (RateLimit.Uniform call.key call.limit call.windowSeconds)
      (RateLimit.State.init clock) state.limiter
  counted : RateLimit.Counted state.limiter
  inOrder : AllInOrder state
  unknown : ∀ pid, state.exchanges pid = none → state.limiter.calls pid = none
  checked : ∀ pid exchange, state.exchanges pid = some exchange →
    Checked state.limiter pid exchange

/-- The limiter moves by commands and by the calls of the requests. -/
theorem Transition.limiter_cases (transition : Transition deployment state label next) :
    next.limiter = state.limiter ∨
      (next.exchanges = state.exchanges ∧ ∃ inner,
        RateLimit.step state.limiter inner = some next.limiter ∧
        ((∃ clock, inner = .tick clock) ∨ (∃ pid, inner = .command pid) ∨
          ∃ pid exchange call, state.exchanges pid = some exchange ∧
            exchange.request.limitCall = some call ∧ inner = .call pid call)) := by
  cases transition with
  | ticked clock limiter stepped => exact .inr ⟨rfl, _, stepped, .inl ⟨clock, rfl⟩⟩
  | commanded pid limiter stepped => exact .inr ⟨rfl, _, stepped, .inr (.inl ⟨pid, rfl⟩)⟩
  | limitCalled pid exchange rest call limiter waiting called stepped =>
      exact .inr ⟨rfl, _, stepped, .inr (.inr ⟨pid, exchange, call, waiting.present, called, rfl⟩)⟩
  | _ => exact .inl rfl

omit [Collation] [Crypto] [Jwt] [PyDecimal] [Mysql] [EmailStr] in
/-- What the limiter has said is final. -/
theorem Checked.limited {limiter limiter' : RateLimit.State} {inner : RateLimit.Label} {pid : Nat}
    {exchange : Exchange} (checked : Checked limiter pid exchange)
    (stepped : RateLimit.step limiter inner = some limiter')
    (called : ∀ call, inner = .call pid call → exchange.request.limitCall = some call) :
    Checked limiter' pid exchange := by
  have transition := RateLimit.step_transition stepped
  have kept : ∀ {call pc}, limiter.calls pid = some ⟨call, pc⟩ → pc.finished = true →
      limiter'.calls pid = some ⟨call, pc⟩ := by
    intro call pc present finished
    rcases transition.keeps present with ⟨pc', present', same⟩
    rw [same finished] at present'
    exact present'
  refine ⟨?_, ?_, ?_⟩
  · intro running present
    rcases transition.called_before present with ⟨pc, before⟩ | made
    · have own := checked.own _ before
      exact own
    · exact called _ made
  · intro past
    rcases checked.past past with ⟨call, admitted⟩
    exact ⟨call, kept admitted rfl⟩
  · intro turned
    rcases checked.turnedAway turned with ⟨answered, call, error, refused⟩
    exact ⟨answered, call, error, kept refused rfl⟩

omit [Crypto] in
/-- A stage of a request says what the limiter has said. -/
theorem Checked.moved {pid : Nat} {before exchange : Exchange} {content : Store}
    (checked : Checked state.limiter pid before) (inOrder : InOrder before)
    (moved : Moved deployment state pid before label content exchange) :
    Checked state.limiter pid exchange := by
  have atEnd : ∀ {rest}, before.todo = .execute :: rest → Past { before with todo := [] } →
      Past before := by
    intro rest todo past
    have done : rest = [] := Route.after_execute (todo ▸ inOrder.stages)
    refine ⟨past.1, ?_⟩
    rw [todo, done]
    decide
  have answered : ∀ {response}, ¬TurnedAway { before with todo := [], response } := by
    intro response turned
    cases turned.1
  cases moved with
  | passed stage rest subject waiting passes =>
      refine ⟨checked.own, ?_, fun turned => absurd waiting.unanswered turned.2⟩
      intro past
      cases passes with
      | limit call running called admitted => exact ⟨running, admitted⟩
      | parse | authenticate _ _ | validate _ =>
          refine checked.past ⟨past.1, ?_⟩
          rw [waiting.todo]
          intro ahead
          rcases List.mem_cons.mp ahead with here | later
          · cases here
          · exact past.2 later
  | refused stage rest response waiting refuses =>
      refine ⟨checked.own, checked.past, ?_⟩
      intro turned
      cases refuses with
      | limit call running error called refused => exact ⟨rfl, running, error, refused⟩
      | undecodable | malformed | authenticate | validate =>
          have head := turned.1
          rw [waiting.todo] at head
          cases head
  | finished rest result waiting ends =>
      exact ⟨checked.own, fun past => checked.past (atEnd waiting.todo past),
        fun turned => absurd turned answered⟩
  | carriedOut rest asked change waiting sent authored =>
      exact ⟨checked.own, fun past => checked.past (atEnd waiting.todo past),
        fun turned => absurd turned answered⟩
  | notified contact pending => exact ⟨checked.own, checked.past, checked.turnedAway⟩

theorem Limited.step (limited : Limited clock state)
    (transition : Transition deployment state label next) : Limited clock next := by
  have inOrder := limited.inOrder.step transition
  rcases transition.limiter_cases with same | ⟨exchanges, inner, stepped, mover⟩
  · refine ⟨same ▸ limited.limiter, same ▸ limited.counted, inOrder, ?_, ?_⟩
    · intro pid new
      rw [same]
      exact limited.unknown pid (transition.new new)
    · rw [same]
      refine transition.exchanges limited.checked (fun _ _ _ checked => checked) ?_ ?_
      · intro pid request _ new _
        refine ⟨?_, fun past => absurd past.1 past.2, fun turned => absurd rfl turned.2⟩
        intro running present
        rw [limited.unknown pid new] at present
        cases present
      · intro pid before after present checked moved
        exact checked.moved (limited.inOrder pid before present) moved
  · have called : ∀ pid call, inner = .call pid call → ∃ exchange,
        state.exchanges pid = some exchange ∧ exchange.request.limitCall = some call := by
      intro pid call same
      rcases mover with ⟨clock, ticked⟩ | ⟨other, commanded⟩ | ⟨other, exchange, made, present,
        asked, calling⟩
      · rw [same] at ticked
        cases ticked
      · rw [same] at commanded
        cases commanded
      · rw [same] at calling
        cases calling
        exact ⟨exchange, present, asked⟩
    refine ⟨?_, (RateLimit.step_transition stepped).counted limited.counted, inOrder, ?_, ?_⟩
    · intro request call asked
      refine (limited.limiter request call asked).snoc ?_ stepped
      rcases mover with ⟨clock, ticked⟩ | ⟨pid, commanded⟩ | ⟨pid, exchange, made, present,
        asked', calling⟩
      · rw [ticked]
        trivial
      · rw [commanded]
        trivial
      · rw [calling]
        intro same
        rw [limitCall_congr asked' asked same]
        exact ⟨rfl, rfl⟩
    · intro pid new
      rw [exchanges] at new
      cases present : next.limiter.calls pid with
      | none => rfl
      | some running =>
          rcases (RateLimit.step_transition stepped).called_before present with ⟨pc, before⟩ | made
          · rw [limited.unknown pid new] at before
            cases before
          · rcases called pid _ made with ⟨exchange, here, _⟩
            rw [new] at here
            cases here
    · intro pid exchange present
      rw [exchanges] at present
      refine (limited.checked pid exchange present).limited stepped ?_
      intro call made
      rcases called pid call made with ⟨other, here, asked⟩
      rw [present] at here
      cases here
      exact asked

theorem limited_reached {now : Instant} {store : Store}
    (run : Machine.Reaches (step deployment) Machine.Any (State.init clock now store) state) :
    Limited clock state := by
  refine run.invariant (Limited clock) ?_ ⟨fun _ _ _ => .refl _, RateLimit.counted_init clock,
    allInOrder_init clock now store, fun _ _ => rfl, ?_⟩
  · intro before label after limited _ stepped
    exact limited.step (step_transition stepped)
  · intro pid exchange present
    cases present

/-- The request of a hit is past the limiter. -/
def letPast (state : State) (hit : RateLimit.Hit) : Bool :=
  match state.exchanges hit.pid with
  | none => false
  | some exchange => decide (Past exchange)

/-- The key of the call counts requests that make it and no others.  In a window the first of
them get past the limiter and the later ones are answered 429, and in an interval of a window's
length at most twice the limit get past. -/
structure Policed (state : State) (call : RateLimit.Call) : Prop where
  counted : ∀ pid exchange, state.exchanges pid = some exchange →
    exchange.request.limitCall = some call → Past exchange ∨ TurnedAway exchange →
      ∃ hit ∈ (RateLimit.windows (state.limiter.history call.key)).flatten, hit.pid = pid
  ranked : ∀ window ∈ RateLimit.windows (state.limiter.history call.key), ∀ position hit,
    window.reverse[position]? = some hit → ∃ exchange,
      state.exchanges hit.pid = some exchange ∧ exchange.request.limitCall = some call ∧
      (Past exchange → position < call.limit) ∧
      (TurnedAway exchange → call.limit ≤ position ∧
        exchange.response = some ⟨429, .error "RATE_LIMIT_EXCEEDED" "Too many requests"⟩)
  bounded : ∀ start, ((RateLimit.windows (state.limiter.history call.key)).flatten.filter fun hit =>
    letPast state hit && decide (FixedWindow.Within RateLimit.Hit.time start
      (call.windowSeconds * Redis.second) hit)).length ≤ 2 * call.limit

section

variable {call : RateLimit.Call} {pid : Nat} {exchange : Exchange}

omit [Crypto] [Jwt] [PyDecimal] [Mysql] [EmailStr] in
theorem Limited.admitted (limited : Limited clock state)
    (present : state.exchanges pid = some exchange)
    (called : exchange.request.limitCall = some call) (past : Past exchange) :
    state.limiter.calls pid = some ⟨call, .admitted⟩ := by
  have checked := limited.checked pid exchange present
  rcases checked.past past with ⟨other, admitted⟩
  have own := checked.own _ admitted
  rw [called] at own
  cases own
  exact admitted

omit [Crypto] [Jwt] [PyDecimal] [Mysql] [EmailStr] in
theorem Limited.refused (limited : Limited clock state)
    (present : state.exchanges pid = some exchange)
    (called : exchange.request.limitCall = some call) (turned : TurnedAway exchange) :
    ∃ error, state.limiter.calls pid = some ⟨call, .refused error⟩ := by
  have checked := limited.checked pid exchange present
  rcases (checked.turnedAway turned).2 with ⟨other, error, refused⟩
  have own := checked.own _ refused
  rw [called] at own
  cases own
  exact ⟨error, refused⟩

omit [Crypto] [Jwt] [PyDecimal] [Mysql] [EmailStr] in
/-- A call on the key of a request is made by a request with the same call. -/
theorem Limited.caller (limited : Limited clock state) {request : Request}
    (called : request.limitCall = some call) {verdict : Bool}
    (reached : state.limiter.verdict call.key pid = some verdict) :
    ∃ exchange, state.exchanges pid = some exchange ∧
      exchange.request.limitCall = some call := by
  simp only [RateLimit.State.verdict] at reached
  split at reached
  next => cases reached
  next running present =>
    split at reached
    next keyed =>
      cases here : state.exchanges pid with
      | none =>
          rw [limited.unknown pid here] at present
          cases present
      | some exchange =>
          have own := (limited.checked pid exchange here).own running present
          rw [limitCall_congr called own keyed.symm]
          exact ⟨exchange, rfl, own⟩
    next => cases reached

end

omit [Crypto] [Jwt] [PyDecimal] [Mysql] [EmailStr] in
theorem Limited.policed (limited : Limited clock state) {request : Request}
    {call : RateLimit.Call} (called : request.limitCall = some call) : Policed state call := by
  rcases RateLimit.reachable_inv (limitCall_window_pos called)
    (limited.limiter request call called) with ⟨_, current, closed, inv⟩
  have decided : ∀ window ∈ RateLimit.windows (state.limiter.history call.key), ∀ position hit,
      window.reverse[position]? = some hit →
      state.limiter.verdict call.key hit.pid = some (decide (position < call.limit)) := by
    intro window member position hit found
    rw [inv.split] at member
    exact (inv.ranked window member).verdict_at found
  have admits : ∀ window ∈ RateLimit.windows (state.limiter.history call.key), ∀ hit ∈ window,
      letPast state hit = true → state.limiter.admits call.key hit = true := by
    intro window member hit among past
    rcases List.mem_iff_getElem?.mp (List.mem_reverse.mpr among) with ⟨position, found⟩
    rcases limited.caller called (decided window member position hit found) with
      ⟨exchange, present, asked⟩
    simp only [letPast, present, decide_eq_true_eq] at past
    rw [RateLimit.State.admits, RateLimit.State.verdict_of_running _
      (limited.admitted present asked past)]
    rfl
  refine ⟨?_, ?_, ?_⟩
  · intro pid exchange present asked heard
    rcases heard with past | turned
    · exact limited.counted pid call _ (limited.admitted present asked past) (by simp) (by simp)
    · rcases limited.refused present asked turned with ⟨error, refused⟩
      exact limited.counted pid call _ refused (by simp) (by simp)
  · intro window member position hit found
    have verdict := decided window member position hit found
    rcases limited.caller called verdict with ⟨exchange, present, asked⟩
    refine ⟨exchange, present, asked, ?_, ?_⟩
    · intro past
      rw [RateLimit.State.verdict_of_running _ (limited.admitted present asked past)] at verdict
      exact of_decide_eq_true (Option.some.inj verdict).symm
    · intro turned
      rcases limited.refused present asked turned with ⟨error, refused⟩
      rw [RateLimit.State.verdict_of_running _ refused] at verdict
      refine ⟨?_, ((limited.checked hit.pid exchange present).turnedAway turned).1⟩
      exact Nat.le_of_not_lt (of_decide_eq_false (Option.some.inj verdict).symm)
  · intro start
    rw [inv.split] at admits ⊢
    refine inv.spaced.length_within_le ?_ start
    intro window member
    refine le_trans ?_ (inv.ranked window member).length_admits_le
    rw [← List.countP_eq_length_filter, ← List.countP_eq_length_filter]
    exact List.countP_mono_left (admits window member)

/-- In every run, the requests that count on a key are those of one policy, and that policy is
kept. -/
theorem requests_policed {now : Instant} {store : Store}
    (run : Machine.Reaches (step deployment) Machine.Any (State.init clock now store) state)
    {request : Request} {call : RateLimit.Call} (called : request.limitCall = some call) :
    Policed state call :=
  (limited_reached run).policed called

end

namespace Sample

open Auth.Sample (unicode collation signing jwt)
open Content.Sample (mysql)

attribute [local instance] unicode collation signing jwt mysql decimal emailStr

/-- A login up to its count. -/
def attempt (pid : Nat) : List Label :=
  [.receive pid signIn, .advance pid, .advance pid, .advance pid, .command pid]

/-- Six logins for one address within the window. -/
def attempts : List Label :=
  attempt 0 ++ [.command 0] ++ attempt 1 ++ attempt 2 ++ attempt 3 ++ attempt 4 ++ attempt 5 ++
    [.command 5, .advance 5]

theorem requests_policed_login : ∃ state,
    Machine.exec (step deployment) start attempts = some state ∧
      (((state.exchanges 5).bind Exchange.response).map Response.status) = some 429 ∧
      Policed state (Auth.loginLimit "admin@ch-tech.dev") := by
  obtain ⟨state, executed⟩ := Option.isSome_iff_exists.mp
    (by decide +kernel : (Machine.exec (step deployment) start attempts).isSome)
  have refused : (((state.exchanges 5).bind Exchange.response).map Response.status) = some 429 :=
    Machine.read_of_map (fun state => ((state.exchanges 5).bind Exchange.response).map
      Response.status) executed (by decide +kernel)
  have called : signIn.limitCall = some (Auth.loginLimit "admin@ch-tech.dev") := rfl
  exact ⟨state, executed, refused, requests_policed
    ⟨_, Machine.Runs.of_exec (fun _ _ _ => trivial) executed⟩ called⟩

end Sample

end ChTech.Api
