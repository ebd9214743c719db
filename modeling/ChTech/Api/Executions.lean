import ChTech.Api.Exchanges
import ChTech.Auth.Refusals

/-!
# Requests and their executions

An authentication request is served by one execution, which was called with what the request
sent.  The tokens in a response are the ones this execution has returned, so they were given for
the credentials in the request.
-/

namespace ChTech.Api

open Foundation Content Application

section

variable [PyUnicode] [Collation] [Crypto] [Jwt] [PyDecimal] [Mysql] [EmailStr]
  {deployment : Deployment} {state next : State} {label : Label} {pid : Nat}
  {before exchange : Exchange}

omit [Collation] [Crypto] [Jwt] [Mysql] [EmailStr] in
/-- What an endpoint calls depends on the request and its subject. -/
theorem Starts.congr {call : Auth.Request} (starts : Starts before call)
    (request : exchange.request = before.request) (subject : exchange.subject = before.subject) :
    Starts exchange call := by
  cases starts with
  | login email password sent =>
      rw [← request] at sent ⊢
      exact .login email password sent
  | refresh rawRefreshToken sent =>
      rw [← request] at sent ⊢
      exact .refresh rawRefreshToken sent
  | logout rawRefreshToken currentUserId sent named =>
      rw [← request] at sent
      rw [← subject] at named
      exact .logout rawRefreshToken currentUserId sent named

/-- The execution of a request was called by its endpoint, as its last stage. -/
def Serves (state : State) (pid : Nat) (exchange : Exchange) : Prop :=
  ∀ call, (state.auth.procs pid).request = some call →
    Starts exchange call ∧ ∀ stage ∈ exchange.todo, stage = .execute

omit [Crypto] in
/-- A stage leaves the execution as it is. -/
theorem Serves.moved {content : Store} (serves : Serves state pid before)
    (moved : Moved deployment state pid before label content exchange) :
    Serves state pid exchange := by
  intro call called
  rcases serves call called with ⟨starts, last⟩
  cases moved with
  | passed stage rest subject waiting passes =>
      have executing := last stage (waiting.todo ▸ List.mem_cons_self)
      cases passes <;> cases executing
  | refused stage rest response waiting refuses => exact ⟨starts.congr rfl rfl, last⟩
  | finished rest result waiting ends =>
      refine ⟨starts.congr rfl rfl, ?_⟩
      intro stage ahead
      cases ahead
  | carriedOut rest asked change waiting sent authored =>
      refine ⟨starts.congr rfl rfl, ?_⟩
      intro stage ahead
      cases ahead
  | notified contact pending => exact ⟨starts.congr rfl rfl, last⟩

/-- Every execution is a purge or serves a request. -/
structure Executing (state : State) : Prop where
  inOrder : AllInOrder state
  known : ∀ pid call, (state.auth.procs pid).request = some call →
    call = .purge ∨ ∃ exchange, state.exchanges pid = some exchange
  serves : ∀ pid exchange, state.exchanges pid = some exchange → Serves state pid exchange

/-- An execution begins by a call of the endpoint, or it is a purge. -/
theorem Transition.called (transition : Transition deployment state label next)
    {call : Auth.Request} (called : (next.auth.procs pid).request = some call) :
    (state.auth.procs pid).request = some call ∨
      (call = .purge ∧ state.exchanges pid = none ∧ next.exchanges = state.exchanges) ∨
      ∃ exchange rest, At state pid exchange .execute rest ∧ Starts exchange call ∧
        next.exchanges = state.exchanges := by
  cases transition with
  | auth inner auth free stepped =>
      rcases Auth.request_of_step stepped called with kept | made
      · exact .inl kept
      · subst made
        cases call with
        | purge =>
            refine .inr (.inl ⟨rfl, ?_, rfl⟩)
            cases present : state.exchanges pid with
            | none => rfl
            | some exchange =>
                simp only [State.reserved, present] at free
                cases free
        | login | refresh | logout => cases free
  | authCalled mover exchange rest made auth waiting starts stepped =>
      rcases Auth.request_of_step stepped called with kept | same
      · exact .inl kept
      · cases same
        exact .inr (.inr ⟨exchange, rest, waiting, starts, rfl⟩)
  | _ => exact .inl called

theorem Executing.step (executing : Executing state)
    (transition : Transition deployment state label next) : Executing next := by
  have arrives : ∀ pid (request : Request), label = .receive pid request →
      state.exchanges pid = none → state.auth.procs pid = .idle →
        Serves state pid ⟨request, request.route.stages, none, none, none⟩ := by
    intro pid request _ _ idle call called
    rw [idle] at called
    cases called
  refine ⟨executing.inOrder.step transition, ?_, ?_⟩
  · intro pid call called
    rcases transition.called called with kept | ⟨purge, _⟩ | ⟨exchange, rest, waiting, _, same⟩
    · rcases executing.known pid call kept with purge | ⟨exchange, present⟩
      · exact .inl purge
      · right
        cases after : next.exchanges pid with
        | none =>
            rw [transition.new after] at present
            cases present
        | some exchange => exact ⟨exchange, rfl⟩
    · exact .inl purge
    · exact .inr ⟨exchange, same ▸ waiting.present⟩
  intro pid exchange present call called
  rcases transition.called called with kept | ⟨_, new, same⟩ | ⟨before, rest, waiting, starts, same⟩
  · exact transition.exchanges executing.serves (fun _ _ _ serves => serves) arrives
      (fun _ _ _ _ serves moved => serves.moved moved) pid exchange present call kept
  · rw [same, new] at present
    cases present
  · rw [same, waiting.present] at present
    cases present
    refine ⟨starts, ?_⟩
    have done : rest = [] := by
      have inOrder := executing.inOrder pid exchange waiting.present
      exact Route.after_execute (waiting.todo ▸ inOrder.stages)
    intro stage ahead
    rw [waiting.todo, done] at ahead
    exact List.mem_singleton.mp ahead

omit [Crypto] [Jwt] [Mysql] [EmailStr] in
theorem executing_init (clock : Nat) (now : Instant) (store : Store) :
    Executing (State.init clock now store) where
  inOrder := allInOrder_init clock now store
  known := by
    intro pid call called
    cases called
  serves := by
    intro pid exchange present
    cases present

theorem executing_reached {clock : Nat} {now : Instant} {store : Store}
    (run : Machine.Reaches (step deployment) Machine.Any (State.init clock now store) state) :
    Executing state := by
  refine run.invariant Executing ?_ (executing_init clock now store)
  intro before label after executing _ stepped
  exact executing.step (step_transition stepped)

/-- The authentication of the server is in a state that it can reach. -/
theorem auth_reached {clock : Nat} {now : Instant} {store : Store}
    (run : Machine.Reaches (step deployment) Machine.Any (State.init clock now store) state) :
    Machine.Reaches (Auth.step deployment.settings) Machine.Any
      (Auth.State.init now store.users store.refreshTokens) state.auth := by
  refine run.invariant (fun state => Machine.Reaches (Auth.step deployment.settings) Machine.Any
    (Auth.State.init now store.users store.refreshTokens) state.auth) ?_ (.refl _)
  intro before label after reached _ stepped
  rcases (step_transition stepped).auth_cases with same | ⟨inner, moved⟩
  · rw [same]
    exact reached
  · exact reached.snoc trivial moved

/-! ## The tokens of a response -/

omit [Collation] [Crypto] [Jwt] [PyDecimal] [Mysql] [EmailStr] in
theorem returned_of_outcome {proc : Auth.Proc} {tokens : Auth.AuthTokens}
    (ended : outcome proc = some (.ok (.tokens tokens))) :
    (∃ call user, proc = .login call (.issue (.returned user tokens))) ∨
      ∃ call user, proc = .refresh call (.issue (.returned user tokens)) := by
  simp only [outcome] at ended
  split at ended
  next call user returned =>
    cases ended
    exact .inl ⟨call, user, rfl⟩
  next call user returned =>
    cases ended
    exact .inr ⟨call, user, rfl⟩
  all_goals cases ended

/-- The tokens of a response are what its execution has returned. -/
def Delivers (state : State) (pid : Nat) (exchange : Exchange) : Prop :=
  ∀ status tokens, exchange.response = some ⟨status, .tokens tokens⟩ →
    outcome (state.auth.procs pid) = some (.ok (.tokens tokens))

/-- An execution that has returned tokens is over. -/
theorem Transition.outcome_stays (transition : Transition deployment state label next)
    {tokens : Auth.AuthTokens}
    (ended : outcome (state.auth.procs pid) = some (.ok (.tokens tokens))) :
    outcome (next.auth.procs pid) = some (.ok (.tokens tokens)) := by
  rcases transition.auth_cases with same | ⟨inner, stepped⟩
  · rw [same]
    exact ended
  · have issued : ∃ value, (state.auth.procs pid).issued = some value := by
      rcases returned_of_outcome ended with ⟨call, user, returned⟩ | ⟨call, user, returned⟩
      · rw [returned]
        exact ⟨_, rfl⟩
      · rw [returned]
        exact ⟨_, rfl⟩
    rcases issued with ⟨value, issued⟩
    rw [(Auth.step_transition stepped).issued_stays issued]
    exact ended

omit [Collation] [Crypto] [Jwt] [PyDecimal] [Mysql] [EmailStr] in
theorem handle_ne_tokens (raised : Raised) (status : Nat) (tokens : Auth.AuthTokens) :
    handle raised ≠ ⟨status, .tokens tokens⟩ := by
  cases raised with
  | _ => intro same; cases same

omit [Collation] [Crypto] [Jwt] [PyDecimal] [Mysql] [EmailStr] in
theorem tokens_of_respond {result : Except Raised Body} {success status : Nat}
    {tokens : Auth.AuthTokens} (answered : respond success result = ⟨status, .tokens tokens⟩) :
    result = .ok (.tokens tokens) := by
  cases result with
  | error raised => exact absurd answered (handle_ne_tokens raised status tokens)
  | ok body =>
      cases answered
      rfl

omit [Crypto] in
theorem Delivers.moved {content : Store} (delivers : Delivers state pid before)
    (moved : Moved deployment state pid before label content exchange) :
    Delivers state pid exchange := by
  intro status tokens answered
  cases moved with
  | passed stage rest subject waiting passes => exact delivers status tokens answered
  | refused stage rest response waiting refuses =>
      cases refuses with
      | authenticate raised failed =>
          exact absurd (Option.some.inj answered) (handle_ne_tokens raised status tokens)
      | _ => cases answered
  | finished rest result waiting ends =>
      have result := tokens_of_respond (Option.some.inj answered)
      subst result
      generalize named : (Except.ok (Body.tokens tokens) : Except Raised Body) = result at ends
      cases ends with
      | read asked ties sent =>
          rcases Result.map_eq_ok.mp named.symm with ⟨_, _, same⟩
          cases same
      | unsigned | unnamed => cases named
      | auth call result starts ended => exact named ▸ ended
  | carriedOut rest asked change waiting sent authored =>
      have result := tokens_of_respond (Option.some.inj answered)
      rcases Result.map_eq_ok.mp result with ⟨answer, _, same⟩
      cases answer <;> cases same
  | notified contact pending => exact delivers status tokens answered

theorem delivers_reached {clock : Nat} {now : Instant} {store : Store}
    (run : Machine.Reaches (step deployment) Machine.Any (State.init clock now store) state) :
    ∀ pid exchange, state.exchanges pid = some exchange → Delivers state pid exchange := by
  refine run.invariant (fun state => ∀ pid exchange, state.exchanges pid = some exchange →
    Delivers state pid exchange) ?_ ?_
  · intro before label after delivers _ stepped
    have transition := step_transition stepped
    have later : ∀ pid exchange, Delivers before pid exchange → Delivers after pid exchange :=
      fun pid exchange delivers status tokens answered =>
        transition.outcome_stays (delivers status tokens answered)
    refine transition.exchanges delivers
      (fun pid exchange _ delivers => later pid exchange delivers) ?_ (fun pid _ after _ delivers moved => later pid after (delivers.moved moved))
    intro pid request _ _ _ status tokens answered
    cases answered
  · intro pid exchange present
    cases present

/-- The request is a login that found the active user by its address and sent their password. -/
def LogsIn (deployment : Deployment) (now : Instant) (store : Store) (state : State)
    (exchange : Exchange) (user : User) : Prop :=
  ∃ email password, exchange.request.sent = .action (.login email password) ∧
    Machine.Earlier (Auth.step deployment.settings) Machine.Any
      (Auth.State.init now store.users store.refreshTokens)
      (Auth.Verifies ⟨email, password, exchange.request.origin⟩ user) state.auth

/-- The request is a refresh that sent an unrevoked token of the user. -/
def Refreshes (deployment : Deployment) (now : Instant) (store : Store) (state : State)
    (exchange : Exchange) (user : User) : Prop :=
  ∃ rawRefreshToken, exchange.request.sent = .action (.refresh rawRefreshToken) ∧
    Machine.Earlier (Auth.step deployment.settings) Machine.Any
      (Auth.State.init now store.users store.refreshTokens)
      (Auth.Redeems (hashRefreshToken rawRefreshToken, user.id)) state.auth

/-- A request has logged the user in, or they had a refresh token before the run. -/
def HasLoggedIn (deployment : Deployment) (now : Instant) (store : Store) (state : State)
    (userId : UUID) : Prop :=
  userId ∈ store.refreshTokens.rows.map RefreshToken.userId ∨
    ∃ pid login user, state.exchanges pid = some login ∧ user.id = userId ∧
      LogsIn deployment now store state login user

variable {clock : Nat} {now : Instant} {store : Store}

/-- The execution that has returned from a login is that of a request with the credentials. -/
theorem logsIn_of_returned
    (run : Machine.Reaches (step deployment) Machine.Any (State.init clock now store) state)
    {call : Auth.LoginCall} {user : User} {tokens : Auth.AuthTokens}
    (returned : state.auth.procs pid = .login call (.issue (.returned user tokens))) :
    ∃ exchange, state.exchanges pid = some exchange ∧
      LogsIn deployment now store state exchange user := by
  have executing := executing_reached run
  have called : (state.auth.procs pid).request = some (.login call) := by
    rw [returned]
    rfl
  have verified := Auth.verified_earlier (auth_reached run) pid (call, user) (by rw [returned]; rfl)
  rcases executing.known pid _ called with purge | ⟨exchange, present⟩
  · cases purge
  · refine ⟨exchange, present, ?_⟩
    generalize made : Auth.Request.login call = request at called
    cases (executing.serves pid exchange present request called).1 with
    | login email password sent =>
        cases made
        exact ⟨email, password, sent, verified⟩
    | refresh | logout => cases made

theorem refreshes_of_returned
    (run : Machine.Reaches (step deployment) Machine.Any (State.init clock now store) state)
    (present : state.exchanges pid = some exchange) {call : Auth.RefreshCall} {user : User}
    {tokens : Auth.AuthTokens}
    (returned : state.auth.procs pid = .refresh call (.issue (.returned user tokens))) :
    Refreshes deployment now store state exchange user := by
  have called : (state.auth.procs pid).request = some (.refresh call) := by
    rw [returned]
    rfl
  have redeemed := Auth.redeemed_earlier (auth_reached run) pid
    (hashRefreshToken call.rawRefreshToken, user.id) (by rw [returned]; rfl)
  generalize made : Auth.Request.refresh call = request at called
  cases ((executing_reached run).serves pid exchange present request called).1 with
  | refresh rawRefreshToken sent =>
      cases made
      exact ⟨rawRefreshToken, sent, redeemed⟩
  | login | logout => cases made

theorem hasLoggedIn_of_granted
    (run : Machine.Reaches (step deployment) Machine.Any (State.init clock now store) state)
    {user : User} {token : String} (granted : (state.auth.procs pid).granted = some (user, token)) :
    HasLoggedIn deployment now store state user.id := by
  rcases Auth.granted_cases granted with ⟨call, tokens, returned⟩ | ⟨hash, seen⟩
  · rcases logsIn_of_returned run returned with ⟨login, present, logsIn⟩
    exact .inr ⟨pid, login, user, present, rfl, logsIn⟩
  · rcases (Auth.rooted_reached (auth_reached run)).exchanging pid hash user.id seen with
      ⟨first, call, other, tokens, returned, named⟩ | before
    · rcases logsIn_of_returned run returned with ⟨login, present, logsIn⟩
      exact .inr ⟨first, login, other, present, named, logsIn⟩
    · exact .inl before

/-- In every run: a response carries tokens only for an active user whose address and password
the request has sent, or one of whose unrevoked refresh tokens it has sent.  In the second case a
request has logged that user in before, unless they had a refresh token before the run. -/
theorem tokens_answer_credentials
    (run : Machine.Reaches (step deployment) Machine.Any (State.init clock now store) state)
    (present : state.exchanges pid = some exchange) {status : Nat} {tokens : Auth.AuthTokens}
    (answered : exchange.response = some ⟨status, .tokens tokens⟩) :
    ∃ user, user.isActive = true ∧
      Auth.MadeFor deployment.settings user tokens.accessToken state.auth.clock ∧
      (LogsIn deployment now store state exchange user ∨
        Refreshes deployment now store state exchange user ∧
          HasLoggedIn deployment now store state user.id) := by
  have grants := Auth.grants_reached (auth_reached run)
  rcases returned_of_outcome (delivers_reached run pid exchange present status tokens answered)
    with ⟨call, user, returned⟩ | ⟨call, user, returned⟩
  · have granted := grants.granted pid user tokens.accessToken (by rw [returned]; rfl)
    rcases logsIn_of_returned run returned with ⟨other, here, logsIn⟩
    rw [present] at here
    cases here
    exact ⟨user, granted.1, granted.2, .inl logsIn⟩
  · have returns : (state.auth.procs pid).granted = some (user, tokens.accessToken) := by
      rw [returned]
      rfl
    have granted := grants.granted pid user tokens.accessToken returns
    exact ⟨user, granted.1, granted.2, .inr ⟨refreshes_of_returned run present returned,
      hasLoggedIn_of_granted run returns⟩⟩

end

namespace Sample

open Auth.Sample (unicode collation crypto jwt firstToken secondToken)
open Content.Sample (mysql)

attribute [local instance] unicode collation crypto jwt mysql decimal emailStr

def signInAgain : Request where
  client := some "203.0.113.7"
  userAgent := some "Mozilla/5.0"
  credentials := none
  sent := .action (.refresh firstToken)

def refreshing : List Label :=
  [.receive 1 signInAgain, .advance 1, .advance 1, .command 1, .command 1, .advance 1,
    .advance 1, .advance 1, .auth (.advance 1), .auth (.advance 1), .auth (.advance 1),
    .auth (.generate 1 secondToken), .auth (.create 1 12), .advance 1]

/-- The response has tokens. -/
def given (response : Response) : Bool :=
  match response.body with
  | .tokens _ => true
  | _ => false

theorem exists_of_given {response : Response} (holds : given response = true) :
    ∃ status tokens, response = ⟨status, .tokens tokens⟩ := by
  rcases response with ⟨status, body⟩
  cases body with
  | tokens tokens => exact ⟨status, tokens, rfl⟩
  | _ => cases holds

/-- A login, and a refresh of its token. -/
theorem tokens_answer_credentials_refresh : ∃ state exchange user,
    Machine.exec (step deployment) start (login ++ refreshing) = some state ∧
      state.exchanges 1 = some exchange ∧ user.isActive = true ∧
      Refreshes deployment Auth.Sample.clock (emptyStore (.singleton Auth.Sample.admin)) state
        exchange user := by
  obtain ⟨state, executed⟩ := Option.isSome_iff_exists.mp
    (by decide +kernel : (Machine.exec (step deployment) start (login ++ refreshing)).isSome)
  have shown : ((state.exchanges 1).bind Exchange.response).map given = some true :=
    Machine.read_of_map (fun state => ((state.exchanges 1).bind Exchange.response).map given)
      executed (by decide +kernel)
  have route : (state.exchanges 1).map (fun exchange => exchange.request.route) = some .refresh :=
    Machine.read_of_map (fun state => (state.exchanges 1).map fun exchange =>
      exchange.request.route) executed (by decide +kernel)
  rcases Option.map_eq_some_iff.mp shown with ⟨response, answered, tokens⟩
  rcases Option.bind_eq_some_iff.mp answered with ⟨exchange, present, answered⟩
  rcases exists_of_given tokens with ⟨status, tokens, same⟩
  subst same
  rcases tokens_answer_credentials ⟨_, Machine.Runs.of_exec (fun _ _ _ => trivial) executed⟩
    present answered with ⟨user, active, _, logsIn | refreshes⟩
  · rcases logsIn with ⟨email, password, sent, _⟩
    rw [present, Option.map_some, Request.route, sent] at route
    cases route
  · exact ⟨state, exchange, user, executed, present, active, refreshes.1⟩

end Sample

end ChTech.Api
