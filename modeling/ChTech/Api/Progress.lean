import ChTech.Api.Authorized
import ChTech.Api.Limits
import ChTech.Auth.Progress
import ChTech.RateLimit.Progress

/-!
# Every request is answered

A request takes at most fifteen steps of its own, whatever is interleaved with them, and until it
is answered its code has one of them left.  A step is taken when its call returns: locks, the
connection pool and the event loop, which may delay it, are not in the model.
-/

namespace ChTech.Api

open Foundation Content Application

section

variable [PyUnicode] [Collation] [Crypto] [Jwt] [PyDecimal] [Mysql] [EmailStr]
  {deployment : Deployment} {state next : State} {label : Label} {pid : Nat}
  {before exchange : Exchange} {rest : List Stage}

/-- The request that a step brings on. -/
def Label.mover : Label → Option Nat
  | .command pid | .advance pid | .auth (.advance pid) | .auth (.generate pid _)
  | .auth (.create pid _) => some pid
  | .tick _ | .auth (.tick _) | .auth (.users _) | .auth (.call ..) | .auth (.purge _)
  | .receive .. | .notify _ => none

def Label.moves (pid : Nat) (label : Label) : Bool := decide (label.mover = some pid)

/-- The stages that are still to come; no route has more than five. -/
def stagesLeft : Option Exchange → Nat
  | none => 5
  | some exchange => if exchange.response.isSome then 0 else exchange.todo.length

/-- What is left of a request: stages, commands and parts of its execution. -/
def State.left (state : State) (pid : Nat) : Nat :=
  stagesLeft (state.exchanges pid) + RateLimit.left (state.limiter.calls pid) +
    (state.auth.procs pid).left

omit [Crypto] [Jwt] [PyDecimal] [Mysql] [EmailStr] in
theorem State.left_init (clock : Nat) (now : Instant) (store : Store) :
    (State.init clock now store).left pid = 15 := rfl

omit [Crypto] [Jwt] [PyDecimal] [Mysql] [EmailStr] in
theorem stagesLeft_put {other : Nat} {put : Exchange} :
    stagesLeft (state.put other put pid) =
      if other = pid then stagesLeft (some put) else stagesLeft (state.exchanges pid) := by
  by_cases same : other = pid
  · subst same
    rw [if_pos rfl, State.put, Function.update_self]
  · rw [if_neg same, State.put, Function.update_of_ne (Ne.symm same)]

omit [Crypto] [Jwt] [PyDecimal] [Mysql] [EmailStr] in
theorem At.stagesLeft {stage : Stage} (waiting : At state pid before stage rest) :
    stagesLeft (state.exchanges pid) = rest.length + 1 := by
  rw [waiting.present, Api.stagesLeft, waiting.unanswered, waiting.todo]
  rfl

omit [Crypto] [Jwt] [PyDecimal] [Mysql] [EmailStr] in
/-- An exchange that has a stage less is charged to its request. -/
theorem stagesLeft_charged {other : Nat} {put : Exchange}
    (less : Api.stagesLeft (some put) + 1 ≤ Api.stagesLeft (state.exchanges other)) (pid : Nat) :
    Api.stagesLeft (state.put other put pid) + charge (some other) pid ≤
      Api.stagesLeft (state.exchanges pid) := by
  rw [stagesLeft_put]
  by_cases same : other = pid
  · subst same
    rw [if_pos rfl, charge_self]
    exact less
  · rw [if_neg same, charge_of_ne same]
    exact Nat.le_of_eq (Nat.add_zero _)

omit [Crypto] [Jwt] [PyDecimal] [Mysql] [EmailStr] in
/-- An answered request has no stage left. -/
theorem At.stagesLeft_answered {other : Nat} {before put : Exchange} {stage : Stage}
    {rest : List Stage} (waiting : At state other before stage rest)
    (answered : put.response.isSome = true) :
    Api.stagesLeft (some put) + 1 ≤ Api.stagesLeft (state.exchanges other) := by
  rw [waiting.stagesLeft, Api.stagesLeft, if_pos answered]
  exact Nat.succ_le_succ (Nat.zero_le _)

/-- Only its own steps bring a request on, each of them does, and no step takes it back. -/
theorem Transition.left_le (transition : Transition deployment state label next) (pid : Nat) :
    next.left pid + charge label.mover pid ≤ state.left pid := by
  simp only [State.left]
  cases transition with
  | ticked _ _ stepped | commanded _ _ stepped | limitCalled _ _ _ _ _ _ _ stepped =>
      have spent := (RateLimit.step_transition stepped).left_le pid
      simp only [RateLimit.Label.mover] at spent
      simp only [Label.mover]
      omega
  | auth inner auth free stepped =>
      have spent := (Auth.step_transition stepped).left_le pid
      have mine : charge (Label.mover (.auth inner)) pid ≤ charge inner.pid pid := by
        cases inner with
        | call => exact Nat.zero_le _
        | purge => exact Nat.zero_le _
        | tick | users | advance | generate | create => exact Nat.le_refl _
      dsimp only
      omega
  | authCalled other exchange rest call auth waiting starts stepped =>
      have spent := (Auth.step_transition stepped).left_le pid
      simp only [Auth.Label.pid] at spent
      simp only [Label.mover]
      omega
  | received other request new idle wellFormed =>
      have stages : request.route.stages.length ≤ 5 := by
        cases request.route <;> decide
      have arrived : Api.stagesLeft (state.put other
          ⟨request, request.route.stages, none, none, none⟩ pid) ≤
            Api.stagesLeft (state.exchanges pid) := by
        rw [stagesLeft_put]
        by_cases same : other = pid
        · subst same
          rw [if_pos rfl, new]
          exact stages
        · rw [if_neg same]
      simp only [Label.mover, charge_none]
      omega
  | passed other before stage rest subject waiting passes =>
      have less : Api.stagesLeft (some { before with todo := rest, subject }) + 1 ≤
          Api.stagesLeft (state.exchanges other) := by
        rw [waiting.stagesLeft, Api.stagesLeft, waiting.unanswered]
        exact Nat.le_of_eq rfl
      have spent := stagesLeft_charged less pid
      simp only [Label.mover, State.pass]
      omega
  | refused other before stage rest response waiting refuses =>
      have spent := stagesLeft_charged (waiting.stagesLeft_answered (rfl :
        ({ before with response := some response } : Exchange).response.isSome = true)) pid
      simp only [Label.mover, State.refuse]
      omega
  | finished other before rest result waiting ends =>
      have spent := stagesLeft_charged (waiting.stagesLeft_answered (rfl : ({ before with
        todo := []
        response := some (respond before.request.route.successStatus result) } :
          Exchange).response.isSome = true)) pid
      simp only [Label.mover, State.finish]
      omega
  | carriedOut other before rest asked change waiting sent authored =>
      have spent := stagesLeft_charged (waiting.stagesLeft_answered (rfl : ({ before with
        todo := []
        response := some (respond before.request.route.successStatus
          ((change.execute state.store).1.map answerBody))
        background := scheduled (change.execute state.store).1 } :
          Exchange).response.isSome = true)) pid
      simp only [Label.mover, State.carryOut]
      omega
  | notified other before contact present pending =>
      have kept : Api.stagesLeft (state.put other { before with background := none } pid) =
          Api.stagesLeft (state.exchanges pid) := by
        rw [stagesLeft_put]
        by_cases same : other = pid
        · subst same
          rw [if_pos rfl, present]
          rfl
        · rw [if_neg same]
      simp only [Label.mover, charge_none]
      omega

omit [PyUnicode] [Collation] [Crypto] [Jwt] [PyDecimal] [Mysql] [EmailStr] in
/-- No other stage is the last one. -/
theorem Route.ends_in_execute {route : Route} {stage : Stage}
    (suffix : [stage] <:+ route.stages) : stage = .execute := by
  have last : route.stages.getLast? = some .execute := by
    cases route <;> rfl
  rcases suffix with ⟨front, same⟩
  rw [← same, List.getLast?_concat] at last
  exact Option.some.inj last

/-- Requests are in order, the unanswered ones have a stage to go through, and no call to the
limiter is aborted. -/
structure Going (state : State) : Prop where
  executing : Executing state
  validated : ∀ pid exchange, state.exchanges pid = some exchange → Validated exchange
  pending : ∀ pid exchange, state.exchanges pid = some exchange → exchange.response = none →
    exchange.todo ≠ []
  unaborted : ∀ pid running, state.limiter.calls pid = some running → running.pc ≠ .aborted

theorem Going.step (going : Going state) (transition : Transition deployment state label next) :
    Going next := by
  refine ⟨going.executing.step transition, ?_, ?_, ?_⟩
  · refine transition.exchanges going.validated (fun _ _ _ validated => validated) ?_ ?_
    · intro pid request _ _ _
      exact .inl (Route.validates request.route)
    · intro pid before after present validated moved
      exact validated.moved (going.executing.inOrder pid before present) moved
  · refine transition.exchanges going.pending (fun _ _ _ pending => pending) ?_ ?_
    · intro pid request _ _ _ _ (empty : request.route.stages = [])
      have validates := Route.validates request.route
      rw [empty] at validates
      cases validates
    · intro pid before after present pending moved
      have inOrder := going.executing.inOrder pid before present
      generalize next.content = content at moved
      cases moved with
      | passed stage rest subject waiting passes =>
          intro _ (empty : rest = [])
          have suffix : [stage] <:+ before.request.route.stages := by
            rw [← empty, ← waiting.todo]
            exact inOrder.stages
          cases Route.ends_in_execute suffix
          cases passes
      | refused | finished | carriedOut => exact nofun
      | notified => exact pending
  · intro pid
    rcases transition.limiter_cases with same | ⟨_, inner, stepped, made⟩
    · rw [same]
      exact going.unaborted pid
    · refine (RateLimit.step_transition stepped).unaborted ?_ (going.unaborted pid)
      rcases made with ⟨clock, same⟩ | ⟨other, same⟩ | ⟨other, exchange, call, _, _, same⟩
      all_goals
        rw [same]
        exact nofun

omit [Crypto] [Jwt] [Mysql] in
theorem going_init (clock : Nat) (now : Instant) (store : Store) :
    Going (State.init clock now store) where
  executing := executing_init clock now store
  validated := by
    intro pid exchange present
    cases present
  pending := by
    intro pid exchange present
    cases present
  unaborted := by
    intro pid running present
    cases present

/-! ## What a request can do next -/

omit [Jwt] [PyDecimal] [Mysql] [EmailStr] in
/-- An execution that issues tokens generates one or stores it. -/
theorem issue_enabled (settings : Settings) {auth : Auth.State} {client : Auth.Client}
    {pc : Auth.IssuePc} {resume : Auth.IssuePc → Auth.Proc}
    (issuing : Auth.State.issuing (auth.procs pid) = some (client, pc, resume))
    (going : pc.left ≠ 0) : ∃ inner auth', Label.mover (.auth inner) = some pid ∧
      Auth.step settings auth inner = some auth' := by
  cases pc with
  | generate user =>
      refine ⟨.generate pid "", ?_⟩
      simp only [Auth.step, Auth.State.generate, issuing]
      exact ⟨_, rfl, rfl⟩
  | create user rawToken now =>
      refine ⟨.create pid 0, ?_⟩
      simp only [Auth.step, Auth.State.create, issuing]
      split
      next => exact ⟨_, rfl, rfl⟩
      next => exact ⟨_, rfl, rfl⟩
  | returned | raised => exact absurd rfl going

omit [Jwt] [PyDecimal] [Mysql] [EmailStr] in
/-- A part of an execution that has not ended is there to be run. -/
theorem auth_enabled (settings : Settings) {auth : Auth.State} {call : Auth.Request}
    (called : (auth.procs pid).request = some call) (other : call ≠ .purge) :
    (outcome (auth.procs pid)).isSome = true ∨ ∃ inner auth', Label.mover (.auth inner) = some pid ∧
      Auth.step settings auth inner = some auth' := by
  cases present : auth.procs pid with
  | idle =>
      rw [present] at called
      cases called
  | purge pc =>
      rw [present] at called
      cases called
      exact absurd rfl other
  | login made pc =>
      cases pc with
      | getByEmail | readClock user =>
          refine .inr ⟨.advance pid, ?_⟩
          simp only [Auth.step, present, Auth.State.advanceLogin]
          exact ⟨_, rfl, rfl⟩
      | recordLogin user now =>
          refine .inr ⟨.advance pid, ?_⟩
          simp only [Auth.step, present, Auth.State.advanceLogin]
          split
          next => exact ⟨_, rfl, rfl⟩
          next => exact ⟨_, rfl, rfl⟩
      | issue pc =>
          by_cases ended : pc.left = 0
          · cases pc with
            | returned | raised => exact .inl rfl
            | generate | create => cases ended
          · exact .inr (issue_enabled settings (by rw [present]; rfl) ended)
  | refresh made pc =>
      cases pc with
      | readClock | getById token =>
          refine .inr ⟨.advance pid, ?_⟩
          simp only [Auth.step, present, Auth.State.advanceRefresh]
          exact ⟨_, rfl, rfl⟩
      | revokeIfActive now =>
          refine .inr ⟨.advance pid, ?_⟩
          simp only [Auth.step, present, Auth.State.advanceRefresh]
          split
          next => exact ⟨_, rfl, rfl⟩
          next => exact ⟨_, rfl, rfl⟩
      | issue pc =>
          by_cases ended : pc.left = 0
          · cases pc with
            | returned | raised => exact .inl rfl
            | generate | create => cases ended
          · exact .inr (issue_enabled settings (by rw [present]; rfl) ended)
  | logout made pc =>
      cases pc with
      | getByTokenHash | readClock token =>
          refine .inr ⟨.advance pid, ?_⟩
          simp only [Auth.step, present, Auth.State.advanceLogout]
          exact ⟨_, rfl, rfl⟩
      | save token now =>
          refine .inr ⟨.advance pid, ?_⟩
          simp only [Auth.step, present, Auth.State.advanceLogout]
          split
          next => exact ⟨_, rfl, rfl⟩
          next => exact ⟨_, rfl, rfl⟩
      | returned | raised => exact .inl rfl

/-- A request can take a step of its own. -/
def Enabled (deployment : Deployment) (state : State) (pid : Nat) : Prop :=
  ∃ label next, label.mover = some pid ∧ step deployment state label = some next

theorem enabled_of_auth {inner : Auth.Label} {auth : Auth.State}
    (mine : Label.mover (.auth inner) = some pid)
    (stepped : Auth.step deployment.settings state.auth inner = some auth) :
    Enabled deployment state pid := by
  refine ⟨.auth inner, { state with auth }, mine, ?_⟩
  have free : state.reserved inner = false := by
    cases inner with
    | tick | users | advance | generate | create | purge => rfl
    | call => cases mine
  rw [step, free, stepped]
  rfl

/-- What an endpoint awaits is started, still running, or has ended. -/
theorem await_enabled (executing : Executing state) {stage : Stage}
    (waiting : At state pid exchange stage rest) {call : Auth.Request}
    (awaits : ∀ next, state.await deployment pid exchange call = some next →
      Enabled deployment state pid) : Enabled deployment state pid := by
  cases called : (state.auth.procs pid).request with
  | none =>
      have idle : state.auth.procs pid = .idle := by
        cases proc : state.auth.procs pid with
        | idle => rfl
        | login | refresh | logout | purge =>
            rw [proc] at called
            cases called
      refine awaits { state with
        auth := { state.auth with procs := state.auth.move pid call.start } } ?_
      simp only [State.await, idle, Auth.step]
      rfl
  | some made =>
      have served : made ≠ .purge := by
        intro purge
        subst purge
        cases (executing.serves pid exchange waiting.present _ called).1
      rcases auth_enabled deployment.settings called served with
        ended | ⟨inner, auth, mine, stepped⟩
      · rcases Option.isSome_iff_exists.mp ended with ⟨result, ended⟩
        refine awaits (state.finish pid exchange result) ?_
        simp only [State.await]
        split
        next idle =>
          rw [idle] at called
          cases called
        next => rw [ended, Option.map_some]
      · exact enabled_of_auth mine stepped

omit [Collation] [Crypto] [Jwt] [PyDecimal] [Mysql] in
/-- A login is limited once its address is known. -/
theorem login_of_accepted {request : Request} (accepted : request.accepted = true)
    (route : request.route = .login) :
    ∃ email password, request.sent = .action (.login email password) := by
  rw [Request.route] at route
  cases sent : request.sent with
  | undecodable | malformed | mistyped =>
      rw [Request.accepted, sent] at accepted
      cases accepted
  | action asked =>
      rw [sent] at route
      change asked.route = .login at route
      cases asked with
      | login email password => exact ⟨email, password, rfl⟩
      | refresh | logout => cases route
      | read asked ties =>
          rw [Action.route] at route
          split at route
          next => cases route
          next => cases route
      | change asked =>
          change changeRoute asked = .login at route
          rcases changeRoute_cases asked with same | same | same | same
          all_goals
            rw [same] at route
            cases route

omit [Collation] [Crypto] [Jwt] [PyDecimal] [Mysql] in
/-- A request that has come to the limiter has a call to make. -/
theorem limitCall_known (inOrder : InOrder exchange) (validated : Validated exchange)
    (todo : exchange.todo = .limit :: rest) : ∃ call, exchange.request.limitCall = some call := by
  have suffix := inOrder.stages
  rw [todo] at suffix
  cases route : exchange.request.route with
  | adminRead | logout =>
      rw [route] at suffix
      exact absurd (suffix.subset List.mem_cons_self) (by decide)
  | login =>
      have done : rest = [.execute] := by
        rw [route, Route.stages] at suffix
        simpa [List.suffix_cons_iff] using suffix
      have accepted : exchange.request.accepted = true := by
        rcases validated with ahead | accepted
        · rw [todo, done] at ahead
          exact absurd ahead (by decide)
        · exact accepted
      rcases login_of_accepted accepted route with ⟨email, password, sent⟩
      refine ⟨Auth.loginLimit email, ?_⟩
      simp only [Request.limitCall, route, sent]
  | publicRead | create | update | delete | contact | refresh =>
      simp only [Request.limitCall, route]
      exact ⟨_, rfl⟩

/-- The call to the limiter is made, has a command to issue, or has been answered. -/
theorem limit_enabled (going : Going state) {call : RateLimit.Call}
    (advances : ∀ next, state.checkLimit pid exchange rest call = some next →
      Enabled deployment state pid) : Enabled deployment state pid := by
  have commands : ∀ limiter, RateLimit.step state.limiter (.command pid) = some limiter →
      Enabled deployment state pid := by
    intro limiter commanded
    refine ⟨.command pid, { state with limiter }, rfl, ?_⟩
    rw [step, commanded]
    rfl
  cases made : state.limiter.calls pid with
  | none =>
      refine advances { state with
        limiter := { state.limiter with calls := state.limiter.advance pid call .incr } } ?_
      simp only [State.checkLimit, made, RateLimit.step]
      rfl
  | some running =>
      rcases running with ⟨asked, pc⟩
      have issues : ∀ {limiter}, state.limiter.command pid asked pc = some limiter →
          Enabled deployment state pid := by
        intro limiter issued
        refine commands limiter ?_
        simp only [RateLimit.step, made]
        exact issued
      cases pc with
      | incr | expire count | ttl => exact issues rfl
      | admitted =>
          refine advances (state.pass pid exchange rest exchange.subject) ?_
          simp only [State.checkLimit, made]
      | refused error =>
          refine advances (state.refuse pid exchange (appErrorHandler error.toAppError)) ?_
          simp only [State.checkLimit, made]
      | aborted => exact absurd rfl (going.unaborted pid _ made)

/-- An unanswered request can take a step of its own. -/
theorem Going.enabled (going : Going state) (present : state.exchanges pid = some exchange)
    (unanswered : exchange.response = none) : Enabled deployment state pid := by
  have inOrder := going.executing.inOrder pid exchange present
  have validated := going.validated pid exchange present
  cases todo : exchange.todo with
  | nil => exact absurd todo (going.pending pid exchange present unanswered)
  | cons stage rest =>
      have waiting : At state pid exchange stage rest := ⟨present, unanswered, todo⟩
      have advances : ∀ next, state.perform deployment pid exchange rest stage = some next →
          Enabled deployment state pid := by
        intro next performed
        refine ⟨.advance pid, next, rfl, ?_⟩
        simp only [Api.step, present, Option.bind_some, State.advance, unanswered, todo]
        exact performed
      cases stage with
      | parse =>
          simp only [State.perform] at advances
          cases sent : exchange.request.sent with
          | undecodable | malformed | mistyped | action =>
              simp only [sent] at advances
              exact advances _ rfl
      | limit =>
          rcases limitCall_known inOrder validated todo with ⟨call, called⟩
          have checks : ∀ next, state.checkLimit pid exchange rest call = some next →
              Enabled deployment state pid := by
            intro next checked
            refine advances next ?_
            rw [State.perform, called]
            exact checked
          exact limit_enabled going checks
      | authenticate =>
          simp only [State.perform] at advances
          cases found : getCurrentUserId deployment.settings state.auth.clock
            exchange.request.credentials with
          | ok | error =>
              simp only [found] at advances
              exact advances _ rfl
      | validate =>
          simp only [State.perform] at advances
          by_cases accepted : exchange.request.accepted = true
          · rw [if_pos accepted] at advances
            exact advances _ rfl
          · rw [if_neg accepted] at advances
            exact advances _ rfl
      | execute =>
          have accepted := validated.accepted inOrder todo
          have executes : ∀ {action}, exchange.request.sent = .action action → ∀ next,
              state.execute deployment pid exchange action = some next →
                Enabled deployment state pid := by
            intro action sent next executed
            refine advances next ?_
            simp only [State.perform, sent]
            exact executed
          cases sent : exchange.request.sent with
          | undecodable | malformed | mistyped =>
              rw [Request.accepted, sent] at accepted
              cases accepted
          | action action =>
              have executes := executes sent
              cases action with
              | read asked ties => exact executes _ rfl
              | change asked =>
                  simp only [State.execute] at executes
                  cases authored : signed exchange.subject asked with
                  | ok | error =>
                      simp only [authored] at executes
                      exact executes _ rfl
              | login | refresh => exact await_enabled going.executing waiting executes
              | logout =>
                  simp only [State.execute] at executes
                  cases named : PyUuid.ofText (exchange.subject.getD "") with
                  | error raised =>
                      simp only [named] at executes
                      exact executes _ rfl
                  | ok userId =>
                      simp only [named] at executes
                      exact await_enabled going.executing waiting executes

/-- The request has been answered. -/
def Answered (pid : Nat) (request : Request) (state : State) : Prop :=
  ∃ exchange response, state.exchanges pid = some exchange ∧ exchange.request = request ∧
    exchange.response = some response

/-- The request has been received, in a state that keeps requests going. -/
def Underway (pid : Nat) (request : Request) (state : State) : Prop :=
  Going state ∧ ∃ exchange, state.exchanges pid = some exchange ∧ exchange.request = request

/-- A request is not forgotten, and not changed. -/
theorem Transition.request_kept (transition : Transition deployment state label next)
    (present : state.exchanges pid = some exchange) :
    ∃ after, next.exchanges pid = some after ∧ after.request = exchange.request := by
  cases found : next.exchanges pid with
  | none =>
      rw [transition.new found] at present
      cases present
  | some after =>
      refine ⟨after, rfl, ?_⟩
      rcases transition.exchange_cases found with same | ⟨_, _, new, _⟩ | ⟨before, here, moved⟩
      · rw [present] at same
        cases same
        rfl
      · rw [present] at new
        cases new
      · rw [present] at here
        cases here
        generalize next.content = content at moved
        cases moved <;> rfl

theorem Underway.step {request : Request} (underway : Underway pid request state)
    (transition : Transition deployment state label next) : Underway pid request next := by
  rcases underway with ⟨going, exchange, present, same⟩
  rcases transition.request_kept present with ⟨after, here, kept⟩
  exact ⟨going.step transition, after, here, kept.trans same⟩

theorem Underway.enabled {request : Request} (underway : Underway pid request state)
    (unfinished : ¬Answered pid request state) :
    ∃ label next, Label.moves pid label = true ∧ Api.step deployment state label = some next := by
  rcases underway with ⟨going, exchange, present, same⟩
  have unanswered : exchange.response = none := by
    cases answered : exchange.response with
    | none => rfl
    | some response => exact absurd ⟨exchange, response, present, same, answered⟩ unfinished
  rcases going.enabled present unanswered with ⟨label, next, mine, stepped⟩
  exact ⟨label, next, decide_eq_true mine, stepped⟩

/-- In every run a request takes at most fifteen steps of its own, whatever other requests and the
environment do in between.  Wherever the run has come to, steps of its own alone answer it, and
they are no more than fifteen in all.  How long a step waits to be taken is another matter. -/
theorem requests_answered_in_own_steps {clock : Nat} {now : Instant} {store : Store}
    {labels : List Label}
    (run : Machine.Runs (step deployment) Machine.Any (State.init clock now store) labels state)
    (pid : Nat) :
    labels.countP (Label.moves pid) ≤ 15 ∧
      ∀ exchange, state.exchanges pid = some exchange →
        ∃ own last, (∀ label ∈ own, Label.moves pid label = true) ∧
          labels.countP (Label.moves pid) + own.length ≤ 15 ∧
          Machine.Runs (step deployment) Machine.Any state own last ∧
          Answered pid exchange.request last := by
  have pays : ∀ {state label next}, step deployment state label = some next →
      State.left next pid + (if Label.moves pid label then 1 else 0) ≤ State.left state pid := by
    intro state label next stepped
    have spent := (step_transition stepped).left_le pid
    simp only [Label.moves, decide_eq_true_eq]
    exact spent
  have taken := run.countP_le pays
  rw [State.left_init] at taken
  refine ⟨(Nat.le_add_right _ _).trans taken, ?_⟩
  intro exchange present
  have going : Going state := by
    refine run.invariant Going ?_ (going_init clock now store)
    intro before label after going _ stepped
    exact going.step (step_transition stepped)
  rcases Machine.exists_runs_of_potential (Label.moves pid) (Underway pid exchange.request)
    (Answered pid exchange.request)
    (fun underway stepped => underway.step (step_transition stepped)) pays Underway.enabled
    ⟨going, exchange, present, rfl⟩ with
    ⟨own, last, mine, short, alone, answered⟩
  exact ⟨own, last, mine, by omega, alone, answered⟩

end

namespace Sample

open Auth.Sample (unicode collation signing jwt)
open Content.Sample (mysql)

attribute [local instance] unicode collation signing jwt mysql decimal emailStr

/-- A login in the middle of its call to the limiter. -/
theorem requests_answered_in_own_steps_login : ∃ state exchange,
    Machine.exec (step deployment) start (login.take 5) = some state ∧
      state.exchanges 0 = some exchange ∧ exchange.response.isSome = false ∧
      ∃ own last, (∀ label ∈ own, Label.moves 0 label = true) ∧ own.length ≤ 11 ∧
        Machine.Runs (step deployment) Machine.Any state own last ∧
        Answered 0 exchange.request last := by
  obtain ⟨state, executed⟩ := Option.isSome_iff_exists.mp (by decide +kernel :
    (Machine.exec (step deployment) start (login.take 5)).isSome)
  have shown : (state.exchanges 0).map (fun exchange => exchange.response.isSome) = some false :=
    Machine.read_of_map (fun state => (state.exchanges 0).map fun exchange =>
      exchange.response.isSome) executed (by decide +kernel)
  rcases Option.map_eq_some_iff.mp shown with ⟨exchange, present, unanswered⟩
  rcases (requests_answered_in_own_steps (Machine.Runs.of_exec (fun _ _ _ => trivial) executed)
    0).2 exchange present with ⟨own, last, mine, short, alone, answered⟩
  have taken : (login.take 5).countP (Label.moves 0) = 4 := by decide +kernel
  exact ⟨state, exchange, executed, present, unanswered, own, last, mine, by omega, alone,
    answered⟩

end Sample

end ChTech.Api
