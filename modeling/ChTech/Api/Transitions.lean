import ChTech.Api.Server

/-!
# What a step of the server can do

A step moves the limiter or the authentication on, or it moves one exchange: past a stage, to a
response, or into a call that it then awaits.  Only the last stage of a request changes content.
-/

namespace ChTech.Api

open Foundation Content Application

variable [PyUnicode] [Collation] [Crypto] [Jwt] [PyDecimal] [Mysql] [EmailStr]

section

variable (deployment : Deployment) (state : State) (pid : Nat) (exchange : Exchange)

/-- The stage lets the request pass, with the subject that is known from then on. -/
inductive Passes : Stage → Option String → Prop where
  | parse : Passes .parse exchange.subject
  | limit (call running : RateLimit.Call) (called : exchange.request.limitCall = some call)
      (admitted : state.limiter.calls pid = some ⟨running, .admitted⟩) :
      Passes .limit exchange.subject
  | authenticate (subject : String)
      (authenticated : getCurrentUserId deployment.settings state.auth.clock
        exchange.request.credentials = .ok subject) :
      Passes .authenticate (some subject)
  | validate (accepted : exchange.request.accepted = true) : Passes .validate exchange.subject

/-- The stage answers the request. -/
inductive Refuses : Stage → Response → Prop where
  | undecodable (route : Route) (sent : exchange.request.sent = .undecodable route) :
      Refuses .parse (httpExceptionHandler 400 "There was an error parsing the body")
  | malformed (route : Route) (sent : exchange.request.sent = .malformed route) :
      Refuses .parse validationExceptionHandler
  | limit (call running : RateLimit.Call) (error : RateLimit.RateLimitExceededError)
      (called : exchange.request.limitCall = some call)
      (refused : state.limiter.calls pid = some ⟨running, .refused error⟩) :
      Refuses .limit (appErrorHandler error.toAppError)
  | authenticate (raised : Raised)
      (failed : getCurrentUserId deployment.settings state.auth.clock
        exchange.request.credentials = .error raised) :
      Refuses .authenticate (handle raised)
  | validate (rejected : exchange.request.accepted = false) :
      Refuses .validate validationExceptionHandler

/-- The authentication use case that the endpoint calls. -/
inductive Starts : Auth.Request → Prop where
  | login (email password : String)
      (sent : exchange.request.sent = .action (.login email password)) :
      Starts (.login ⟨email, password, exchange.request.origin⟩)
  | refresh (rawRefreshToken : String)
      (sent : exchange.request.sent = .action (.refresh rawRefreshToken)) :
      Starts (.refresh ⟨rawRefreshToken, exchange.request.origin⟩)
  | logout (rawRefreshToken : String) (currentUserId : UUID)
      (sent : exchange.request.sent = .action (.logout rawRefreshToken))
      (named : PyUuid.ofText (exchange.subject.getD "") = .ok currentUserId) :
      Starts (.logout ⟨rawRefreshToken, currentUserId⟩)

/-- The endpoint ends, and changes no content. -/
inductive Ends : Except Raised Body → Prop where
  | read (asked : Read) (ties : Ties) (sent : exchange.request.sent = .action (.read asked ties)) :
      Ends ((Reading.execute
        (if asked.isPublic then deployment.engine.ranks asked state.store.toDb.visible else ties)
        state.store.toDb asked).map .read)
  | unsigned (change : Change) (raised : Raised)
      (sent : exchange.request.sent = .action (.change change))
      (failed : signed exchange.subject change = .error raised) : Ends (.error raised)
  | unnamed (rawRefreshToken : String) (raised : Raised)
      (sent : exchange.request.sent = .action (.logout rawRefreshToken))
      (failed : PyUuid.ofText (exchange.subject.getD "") = .error raised) : Ends (.error raised)
  | auth (call : Auth.Request) (result : Except Raised Body) (starts : Starts exchange call)
      (ended : outcome (state.auth.procs pid) = some result) : Ends result

end

/-! ## The steps -/

/-- The exchange is waiting at a stage. -/
structure At (state : State) (pid : Nat) (exchange : Exchange) (stage : Stage)
    (rest : List Stage) : Prop where
  present : state.exchanges pid = some exchange
  unanswered : exchange.response = none
  todo : exchange.todo = stage :: rest

inductive Transition (deployment : Deployment) (state : State) : Label → State → Prop where
  | ticked (clock : Nat) (limiter : RateLimit.State)
      (stepped : RateLimit.step state.limiter (.tick clock) = some limiter) :
      Transition deployment state (.tick clock) { state with limiter }
  | commanded (pid : Nat) (limiter : RateLimit.State)
      (stepped : RateLimit.step state.limiter (.command pid) = some limiter) :
      Transition deployment state (.command pid) { state with limiter }
  | auth (label : Auth.Label) (auth : Auth.State) (free : state.reserved label = false)
      (stepped : Auth.step deployment.settings state.auth label = some auth) :
      Transition deployment state (.auth label) { state with auth }
  | received (pid : Nat) (request : Request) (new : state.exchanges pid = none)
      (idle : state.auth.procs pid = .idle) (wellFormed : request.wellFormed = true) :
      Transition deployment state (.receive pid request) { state with
        exchanges := state.put pid ⟨request, request.route.stages, none, none, none⟩ }
  | limitCalled (pid : Nat) (exchange : Exchange) (rest : List Stage) (call : RateLimit.Call)
      (limiter : RateLimit.State) (waiting : At state pid exchange .limit rest)
      (called : exchange.request.limitCall = some call)
      (stepped : RateLimit.step state.limiter (.call pid call) = some limiter) :
      Transition deployment state (.advance pid) { state with limiter }
  | authCalled (pid : Nat) (exchange : Exchange) (rest : List Stage) (call : Auth.Request)
      (auth : Auth.State) (waiting : At state pid exchange .execute rest)
      (starts : Starts exchange call)
      (stepped : Auth.step deployment.settings state.auth (.call pid call) = some auth) :
      Transition deployment state (.advance pid) { state with auth }
  | passed (pid : Nat) (exchange : Exchange) (stage : Stage) (rest : List Stage)
      (subject : Option String) (waiting : At state pid exchange stage rest)
      (passes : Passes deployment state pid exchange stage subject) :
      Transition deployment state (.advance pid) (state.pass pid exchange rest subject)
  | refused (pid : Nat) (exchange : Exchange) (stage : Stage) (rest : List Stage)
      (response : Response) (waiting : At state pid exchange stage rest)
      (refuses : Refuses deployment state pid exchange stage response) :
      Transition deployment state (.advance pid) (state.refuse pid exchange response)
  | finished (pid : Nat) (exchange : Exchange) (rest : List Stage) (result : Except Raised Body)
      (waiting : At state pid exchange .execute rest)
      (ends : Ends deployment state pid exchange result) :
      Transition deployment state (.advance pid) (state.finish pid exchange result)
  | carriedOut (pid : Nat) (exchange : Exchange) (rest : List Stage) (asked change : Change)
      (waiting : At state pid exchange .execute rest)
      (sent : exchange.request.sent = .action (.change asked))
      (authored : signed exchange.subject asked = .ok change) :
      Transition deployment state (.advance pid) (state.carryOut pid exchange change)
  | notified (pid : Nat) (exchange : Exchange) (contact : ContactRequest)
      (present : state.exchanges pid = some exchange)
      (pending : exchange.background = some contact) :
      Transition deployment state (.notify pid) { state with
        exchanges := state.put pid { exchange with background := none }
        mails := ((contactNotification deployment.email contact).map (pid, ·)).toList ++
          state.mails }

variable {deployment : Deployment} {state next : State} {pid : Nat} {exchange : Exchange}
  {rest : List Stage}

theorem await_transition {call : Auth.Request} (waiting : At state pid exchange .execute rest)
    (starts : Starts exchange call)
    (stepped : state.await deployment pid exchange call = some next) :
    Transition deployment state (.advance pid) next := by
  simp only [State.await] at stepped
  split at stepped
  next =>
    rcases Option.map_eq_some_iff.mp stepped with ⟨auth, moved, same⟩
    subst same
    exact .authCalled pid exchange rest call auth waiting starts moved
  next =>
    rcases Option.map_eq_some_iff.mp stepped with ⟨result, ended, same⟩
    subst same
    exact .finished pid exchange rest result waiting (.auth call result starts ended)

theorem execute_transition {action : Action} (waiting : At state pid exchange .execute rest)
    (sent : exchange.request.sent = .action action)
    (stepped : state.execute deployment pid exchange action = some next) :
    Transition deployment state (.advance pid) next := by
  cases action with
  | read asked ties =>
      cases stepped
      exact .finished pid exchange rest _ waiting (.read asked ties sent)
  | change asked =>
      simp only [State.execute] at stepped
      split at stepped
      next raised failed =>
        cases stepped
        exact .finished pid exchange rest _ waiting (.unsigned asked raised sent failed)
      next change authored =>
        cases stepped
        exact .carriedOut pid exchange rest asked change waiting sent authored
  | login email password => exact await_transition waiting (.login email password sent) stepped
  | refresh token => exact await_transition waiting (.refresh token sent) stepped
  | logout token =>
      simp only [State.execute] at stepped
      split at stepped
      next raised failed =>
        cases stepped
        exact .finished pid exchange rest _ waiting (.unnamed token raised sent failed)
      next userId named =>
        exact await_transition waiting (.logout token userId sent named) stepped

theorem checkLimit_transition {call : RateLimit.Call} (waiting : At state pid exchange .limit rest)
    (called : exchange.request.limitCall = some call)
    (stepped : state.checkLimit pid exchange rest call = some next) :
    Transition deployment state (.advance pid) next := by
  simp only [State.checkLimit] at stepped
  split at stepped
  next =>
    rcases Option.map_eq_some_iff.mp stepped with ⟨limiter, moved, same⟩
    subst same
    exact .limitCalled pid exchange rest call limiter waiting called moved
  next running admitted =>
    cases stepped
    exact .passed pid exchange .limit rest _ waiting (.limit call running called admitted)
  next running error refused =>
    cases stepped
    exact .refused pid exchange .limit rest _ waiting (.limit call running error called refused)
  next => cases stepped

theorem perform_transition {stage : Stage} (waiting : At state pid exchange stage rest)
    (stepped : state.perform deployment pid exchange rest stage = some next) :
    Transition deployment state (.advance pid) next := by
  cases stage with
  | parse =>
      simp only [State.perform] at stepped
      split at stepped
      next route sent =>
        cases stepped
        exact .refused pid exchange .parse rest _ waiting (.undecodable route sent)
      next route sent =>
        cases stepped
        exact .refused pid exchange .parse rest _ waiting (.malformed route sent)
      next =>
        cases stepped
        exact .passed pid exchange .parse rest _ waiting .parse
      next =>
        cases stepped
        exact .passed pid exchange .parse rest _ waiting .parse
  | limit =>
      rcases Option.bind_eq_some_iff.mp stepped with ⟨call, called, stepped⟩
      exact checkLimit_transition waiting called stepped
  | authenticate =>
      simp only [State.perform] at stepped
      split at stepped
      next subject authenticated =>
        cases stepped
        exact .passed pid exchange .authenticate rest _ waiting
          (.authenticate subject authenticated)
      next raised failed =>
        cases stepped
        exact .refused pid exchange .authenticate rest _ waiting (.authenticate raised failed)
  | validate =>
      simp only [State.perform] at stepped
      split at stepped
      next accepted =>
        cases stepped
        exact .passed pid exchange .validate rest _ waiting (.validate accepted)
      next rejected =>
        cases stepped
        exact .refused pid exchange .validate rest _ waiting
          (.validate (Bool.eq_false_iff.mpr rejected))
  | execute =>
      simp only [State.perform] at stepped
      split at stepped
      next action sent => exact execute_transition waiting sent stepped
      next => cases stepped
      next => cases stepped
      next => cases stepped

/-- A step is one of the transitions. -/
theorem step_transition {label : Label} (stepped : step deployment state label = some next) :
    Transition deployment state label next := by
  cases label with
  | tick clock =>
      rcases Option.map_eq_some_iff.mp stepped with ⟨limiter, moved, same⟩
      subst same
      exact .ticked clock limiter moved
  | command pid =>
      rcases Option.map_eq_some_iff.mp stepped with ⟨limiter, moved, same⟩
      subst same
      exact .commanded pid limiter moved
  | auth label =>
      simp only [step] at stepped
      split at stepped
      next => cases stepped
      next free =>
        rcases Option.map_eq_some_iff.mp stepped with ⟨auth, moved, same⟩
        subst same
        exact .auth label auth (Bool.eq_false_iff.mpr free) moved
  | receive pid request =>
      simp only [step] at stepped
      split at stepped
      next new idle =>
        split at stepped
        next wellFormed =>
          cases stepped
          exact .received pid request new idle wellFormed
        next => cases stepped
      next => cases stepped
  | advance pid =>
      rcases Option.bind_eq_some_iff.mp stepped with ⟨exchange, present, stepped⟩
      simp only [State.advance] at stepped
      split at stepped
      next stage rest unanswered todo =>
        exact perform_transition ⟨present, unanswered, todo⟩ stepped
      next => cases stepped
  | notify pid =>
      rcases Option.bind_eq_some_iff.mp stepped with ⟨exchange, present, stepped⟩
      rcases Option.map_eq_some_iff.mp stepped with ⟨contact, pending, same⟩
      subst same
      exact .notified pid exchange contact present pending

end ChTech.Api
