import ChTech.Api.Authorized
import ChTech.Api.Notifications
import ChTech.Application.Answers

/-!
# Documented answers

Each route has one status for what it carries out and a list of errors, those of its stages and
those of its use case.  In a site whose environment keeps its promises every response is one of
them, and none is an internal error.
-/

namespace ChTech.Api

open Foundation Content Application

/-- The status and the code of the errors of a stage. -/
def Stage.errors : Stage → List (Nat × String)
  | .parse => [(400, "BAD_REQUEST"), (422, "VALIDATION_ERROR")]
  | .limit => [(429, "RATE_LIMIT_EXCEEDED")]
  | .authenticate => [(401, "UNAUTHORIZED")]
  | .validate => [(422, "VALIDATION_ERROR")]
  | .execute => []

namespace Route

/-- The errors of the use cases behind a route. -/
def failures : Route → List (Nat × String)
  | publicRead | adminRead => [(404, "RESOURCE_NOT_FOUND")]
  | create | update | delete => [(404, "RESOURCE_NOT_FOUND"), (409, "CONFLICT")]
  | login | refresh | logout => [(401, "UNAUTHORIZED")]
  | contact => []

def errors (route : Route) : List (Nat × String) :=
  route.stages.flatMap Stage.errors ++ route.failures

variable [PyUnicode]

/-- The body of what a route carries out. -/
def suits : Route → Body → Bool
  | publicRead, .read _ | adminRead, .read _ | create, .change _ | update, .change _
  | contact, .received | delete, .empty | logout, .empty | login, .tokens _
  | refresh, .tokens _ => true
  | _, _ => false

end Route

section

variable [PyUnicode]

/-- A response that the route may give. -/
inductive Documented (route : Route) : Response → Prop where
  | carriedOut (body : Body) (suits : route.suits body = true) :
      Documented route ⟨route.successStatus, body⟩
  | refused (status : Nat) (code message : String) (listed : (status, code) ∈ route.errors) :
      Documented route ⟨status, .error code message⟩

theorem documented_of_stage {route : Route} {stage : Stage} (passed : stage ∈ route.stages)
    {status : Nat} {code message : String} (listed : (status, code) ∈ stage.errors) :
    Documented route ⟨status, .error code message⟩ := by
  refine .refused status code message (List.mem_append_left _ ?_)
  exact List.mem_flatMap.mpr ⟨stage, passed, listed⟩

theorem documented_of_failure {route : Route} {status : Nat} {code message : String}
    (listed : (status, code) ∈ route.failures) :
    Documented route ⟨status, .error code message⟩ :=
  .refused status code message (List.mem_append_right _ listed)

/-- What an endpoint answers, from what its use case may raise and return. -/
theorem documented_respond {route : Route} {result : Except Raised Body}
    (returns : ∀ body, result = .ok body → route.suits body = true)
    (raises : Result.RaisesOnly (fun raised => ∃ status code message,
      raised = .app ⟨status, code, message⟩ ∧ (status, code) ∈ route.failures) result) :
    Documented route (respond route.successStatus result) := by
  cases result with
  | ok body => exact .carriedOut body (returns body rfl)
  | error raised =>
      rcases raises raised rfl with ⟨status, code, message, same, listed⟩
      rw [same]
      exact documented_of_failure listed

end

section

variable [PyUnicode] [Collation] [Mysql]

/-- `ResourceNotFoundError`. -/
def NotFound (raised : Raised) : Prop :=
  ∃ message, raised = .app (.resourceNotFoundError message)

omit [PyUnicode] [Collation] [Mysql] in
theorem existing_raises {α : Type} {message : String} {result : Except Raised (Option α)}
    (returned : result.isOk = true) : Result.RaisesOnly NotFound (existing message result) := by
  rcases Result.isOk_iff.mp returned with ⟨value, ended⟩
  rw [ended]
  cases value with
  | none => exact .error ⟨message, rfl⟩
  | some value => exact .ok

/-- A read of a readable database finds what it is asked for or raises that it is not there. -/
theorem Reading.execute_raises {db : Db} (readable : db.Readable) (ties : Ties) (read : Read) :
    Result.RaisesOnly NotFound (Reading.execute ties db read) := by
  have returned := read.run_isOk readable ties
  cases read with
  | projectBySlug | projectById | articleBySlug | articleById | serviceBySlug | serviceById
  | caseStudyById | teamMemberById | productBySlug | serviceLineBySlug | technologyById
  | company =>
      rw [Read.run, Result.isOk_map] at returned
      exact .map (existing_raises returned)
  | _ =>
      intro raised ended
      have failed := returned.symm.trans (congrArg Except.isOk ended)
      cases failed

/-- A use case answers with what its route is for. -/
theorem suits_of_answer {store : Store} {change : Change} {answer : Answer}
    (returned : (change.execute store).1 = .ok answer) :
    (changeRoute change).suits (answerBody answer) = true := by
  cases change with
  | contact | company | delete =>
      rcases returned_of_map returned with ⟨_, _, same⟩
      cases same
      rfl
  | project _ target _ | article _ target _ _ | service target _ | serviceLine target _
  | product target _ | technology target _ | client target _ | partner target _
  | teamMember target _ | caseStudy _ target _ | testimonial _ target _ =>
      cases target with
      | post | put =>
          rcases returned_of_map returned with ⟨_, _, same⟩
          cases same
          rfl

omit [Collation] [Mysql] in
/-- An author makes no difference to the payload's schema or to the route. -/
theorem signed_keeps [PyDecimal] [EmailStr] {subject : Option String} {asked change : Change}
    (authored : signed subject asked = .ok change) :
    change.accepted = asked.accepted ∧ changeRoute change = changeRoute asked := by
  rcases signed_cases authored with ⟨same, _⟩ | ⟨_, _, _, _, _, before, after, _⟩
  · rw [same]
    exact ⟨rfl, rfl⟩
  · rw [before, after]
    exact ⟨rfl, rfl⟩

variable [EmailStr]

/-- What a sound change of an intact site may be answered with. -/
theorem documented_change
    (built : ∀ value, EmailStr.produces value = true → (Email.postInit value).isOk = true)
    (short : ∀ value, EmailStr.produces value = true → value.length ≤ 254)
    {store : Store} (intact : Intact store) {change : Change} (accepted : change.accepted = true)
    (sound : Sound store change) :
    Documented (changeRoute change) (respond (changeRoute change).successStatus
      ((change.execute store).1.map answerBody)) := by
  apply documented_respond
  · intro body returned
    rcases Result.map_eq_ok.mp returned with ⟨answer, ended, same⟩
    exact same ▸ suits_of_answer ended
  · by_cases contact : changeRoute change = .contact
    · rcases contact_of_route contact with ⟨defaults, payload, same⟩
      subst same
      have filed : ((Change.contact defaults payload).execute store).1.isOk = true := by
        have unopposed := (Bool.and_eq_true_iff.mp sound).2
        rw [Change.execute, Program.map_apply, Result.isOk_map]
        exact submitContactRequest_isOk built short accepted unopposed
      rcases Result.isOk_iff.mp filed with ⟨answer, ended⟩
      rw [ended]
      exact .ok
    · have listed : [(404, "RESOURCE_NOT_FOUND"), (409, "CONFLICT")] =
          (changeRoute change).failures := by
        rcases changeRoute_cases change with same | same | same | same
        · exact absurd same contact
        all_goals
          rw [same]
          rfl
      rw [← listed]
      refine .map ?_
      intro raised failed
      rcases execute_anticipates built short intact accepted sound raised failed with
        ⟨message, same | same⟩
      · exact ⟨404, "RESOURCE_NOT_FOUND", message, same, by decide⟩
      · exact ⟨409, "CONFLICT", message, same, by decide⟩

end

section

variable [PyUnicode] [Collation] [Crypto] [Jwt] [PyDecimal] [Mysql] [EmailStr]
  {deployment : Deployment} {state next : State} {label : Label} {pid : Nat}
  {before exchange : Exchange}

/-! ## The stages -/

omit [PyUnicode] [Collation] [Crypto] [PyDecimal] [Mysql] [EmailStr] in
theorem getCurrentUserId_raises {settings : Settings} {now : Instant}
    {credentials : Option String} {raised : Raised}
    (failed : getCurrentUserId settings now credentials = .error raised) :
    Auth.Unauthorized raised := by
  simp only [getCurrentUserId] at failed
  split at failed
  next =>
    cases failed
    exact ⟨_, rfl⟩
  next =>
    split at failed
    next =>
      cases failed
      exact ⟨_, rfl⟩
    next =>
      split at failed
      next => cases failed
      next =>
        cases failed
        exact ⟨_, rfl⟩

omit [Crypto] [PyDecimal] [Mysql] in
/-- A stage answers with one of its errors. -/
theorem Refuses.documented {stage : Stage} {response : Response} {route : Route}
    (passed : stage ∈ route.stages)
    (refuses : Refuses deployment state pid exchange stage response) :
    Documented route response := by
  cases refuses with
  | undecodable | malformed | validate => exact documented_of_stage passed (by decide)
  | limit => exact documented_of_stage passed (List.mem_singleton.mpr rfl)
  | authenticate raised failed =>
      rcases getCurrentUserId_raises failed with ⟨message, same⟩
      subst same
      exact documented_of_stage passed (List.mem_singleton.mpr rfl)

omit [Collation] [Crypto] [Jwt] [Mysql] [EmailStr] in
/-- Which use case an endpoint calls is a matter of its route. -/
theorem Starts.route_eq {call : Auth.Request} (starts : Starts exchange call) :
    (∀ made, call = .login made → exchange.request.route = .login) ∧
      (∀ made, call = .refresh made → exchange.request.route = .refresh) ∧
      (∀ made, call = .logout made → exchange.request.route = .logout) ∧
      exchange.request.route.failures = [(401, "UNAUTHORIZED")] := by
  have route : ∀ {action : Action}, exchange.request.sent = .action action →
      exchange.request.route = action.route := by
    intro action sent
    rw [Request.route, sent]
    rfl
  cases starts with
  | login email password sent =>
      rw [route sent]
      exact ⟨fun _ _ => rfl, fun _ same => (by cases same), fun _ same => (by cases same), rfl⟩
  | refresh rawRefreshToken sent =>
      rw [route sent]
      exact ⟨fun _ same => (by cases same), fun _ _ => rfl, fun _ same => (by cases same), rfl⟩
  | logout rawRefreshToken currentUserId sent named =>
      rw [route sent]
      exact ⟨fun _ same => (by cases same), fun _ same => (by cases same), fun _ _ => rfl, rfl⟩

omit [Collation] [Crypto] [Jwt] [PyDecimal] [Mysql] [EmailStr] in
/-- What an execution ends with, from what it was called with. -/
theorem outcome_cases {proc : Auth.Proc} {result : Except Raised Body}
    (ended : outcome proc = some result) :
    (∃ tokens call, result = .ok (.tokens tokens) ∧ proc.request = some (.login call)) ∨
      (∃ tokens call, result = .ok (.tokens tokens) ∧ proc.request = some (.refresh call)) ∨
      (∃ call, result = .ok .empty ∧ proc.request = some (.logout call)) ∨
      ∃ raised call, result = .error raised ∧ proc.raises = some raised ∧
        proc.request = some call := by
  simp only [outcome] at ended
  split at ended
  next call user tokens =>
    cases ended
    exact .inl ⟨tokens, call, rfl, rfl⟩
  next call user tokens =>
    cases ended
    exact .inr (.inl ⟨tokens, call, rfl, rfl⟩)
  next call raised =>
    cases ended
    exact .inr (.inr (.inr ⟨raised, .login call, rfl, rfl, rfl⟩))
  next call raised =>
    cases ended
    exact .inr (.inr (.inr ⟨raised, .refresh call, rfl, rfl, rfl⟩))
  next call =>
    cases ended
    exact .inr (.inr (.inl ⟨call, rfl, rfl⟩))
  next call raised =>
    cases ended
    exact .inr (.inr (.inr ⟨raised, .logout call, rfl, rfl, rfl⟩))
  next => cases ended

/-- What the environment keeps to: accounts and generated values as the authentication needs them,
clients that fit their columns, no forged token, and changes that are sound when they are carried
out. -/
def Orderly (deployment : Deployment) (state : State) : Label → Prop
  | .auth label => Auth.Steady state.auth label
  | .receive _ request => request.origin.fits = true
  | .advance pid => Unforged deployment state (.advance pid) ∧
      ∀ exchange rest asked change, At state pid exchange .execute rest →
        exchange.request.sent = .action (.change asked) →
        signed exchange.subject asked = .ok change → Sound state.store change
  | .tick _ | .command _ | .notify _ => True

/-- The client fits, and a request that has been validated was accepted. -/
structure Admitted (exchange : Exchange) : Prop where
  fits : exchange.request.origin.fits = true
  validated : Validated exchange

omit [Crypto] in
theorem Admitted.moved {content : Store} (admitted : Admitted before) (inOrder : InOrder before)
    (moved : Moved deployment state pid before label content exchange) : Admitted exchange := by
  refine ⟨?_, admitted.validated.moved inOrder moved⟩
  cases moved <;> exact admitted.fits

/-- A site in order, with every response so far as documented. -/
structure Served (deployment : Deployment) (state : State) : Prop where
  ready : Auth.Ready state.auth
  intact : Intact state.store
  authenticated : Authenticated deployment state
  executing : Executing state
  admitted : ∀ pid exchange, state.exchanges pid = some exchange → Admitted exchange
  answered : ∀ pid exchange, state.exchanges pid = some exchange → ∀ response,
    exchange.response = some response → Documented exchange.request.route response

omit [Jwt] [Mysql] in
/-- The subject of a request at its guarded endpoint names a user. -/
theorem Served.named (served : Served deployment state) {rest : List Stage}
    (waiting : At state pid exchange .execute rest)
    (guard : .authenticate ∈ exchange.request.route.stages) :
    ∃ userId, PyUuid.ofText (exchange.subject.getD "") = .ok userId := by
  have inOrder := served.executing.inOrder pid exchange waiting.present
  rcases Option.isSome_iff_exists.mp (inOrder.user waiting.todo guard) with ⟨subject, some⟩
  rcases served.authenticated.identified pid exchange waiting.present subject some with
    ⟨user, token, named, _, first, _, _, granted, _⟩
  refine ⟨user.id, ?_⟩
  rw [some, Option.getD_some, ← named]
  exact PyUuid.ofText_str (served.ready.granted first user token granted)

omit [Jwt] in
theorem Ends.documented (served : Served deployment state) {rest : List Stage}
    (waiting : At state pid exchange .execute rest) {result : Except Raised Body}
    (ends : Ends deployment state pid exchange result) :
    Documented exchange.request.route (respond exchange.request.route.successStatus result) := by
  have route : ∀ {action : Action}, exchange.request.sent = .action action →
      exchange.request.route = action.route := by
    intro action sent
    rw [Request.route, sent]
    rfl
  cases ends with
  | read asked ties sent =>
      have either : exchange.request.route = .publicRead ∨ exchange.request.route = .adminRead := by
        rw [route sent, Action.route]
        split
        next => exact .inl rfl
        next => exact .inr rfl
      apply documented_respond
      · intro body returned
        rcases Result.map_eq_ok.mp returned with ⟨response, _, same⟩
        subst same
        rcases either with shown | shown
        · rw [shown]
          rfl
        · rw [shown]
          rfl
      · refine .map ?_
        intro raised failed
        rcases Reading.execute_raises served.intact.readable _ asked raised failed with
          ⟨message, same⟩
        refine ⟨404, "RESOURCE_NOT_FOUND", message, same, ?_⟩
        rcases either with shown | shown
        · rw [shown]
          decide
        · rw [shown]
          decide
  | unsigned asked raised sent failed =>
      have guard : .authenticate ∈ exchange.request.route.stages := by
        rw [route sent]
        refine guarded_of_changeRoute ?_
        intro contact
        rcases contact_of_route contact with ⟨defaults, payload, same⟩
        rw [same] at failed
        cases failed
      rcases served.named waiting guard with ⟨userId, read⟩
      cases asked with
      | article ties target given payload =>
          cases target with
          | post defaults =>
              rw [signed, read] at failed
              cases failed
          | put id now => cases failed
      | _ => cases failed
  | unnamed rawRefreshToken raised sent failed =>
      have guard : .authenticate ∈ exchange.request.route.stages := by
        rw [route sent]
        change Stage.authenticate ∈ Route.logout.stages
        decide
      rcases served.named waiting guard with ⟨userId, read⟩
      rw [read] at failed
      cases failed
  | auth call result starts ended =>
      have serves := served.executing.serves pid exchange waiting.present
      apply documented_respond
      · intro body returned
        rcases outcome_cases ended with ⟨tokens, made, same, called⟩ |
          ⟨tokens, made, same, called⟩ | ⟨made, same, called⟩ | ⟨raised, _, same, _⟩
        · cases same.symm.trans returned
          rw [(serves _ called).1.route_eq.1 made rfl]
          rfl
        · cases same.symm.trans returned
          rw [(serves _ called).1.route_eq.2.1 made rfl]
          rfl
        · cases same.symm.trans returned
          rw [(serves _ called).1.route_eq.2.2.1 made rfl]
          rfl
        · cases same.symm.trans returned
      · intro raised failed
        rcases outcome_cases ended with ⟨_, _, same, _⟩ | ⟨_, _, same, _⟩ | ⟨_, same, _⟩ |
          ⟨other, _, same, raises, _⟩
        · cases same.symm.trans failed
        · cases same.symm.trans failed
        · cases same.symm.trans failed
        · cases same.symm.trans failed
          rcases served.ready.raised pid raised raises with ⟨message, same⟩
          refine ⟨401, "UNAUTHORIZED", message, same, ?_⟩
          rw [starts.route_eq.2.2.2]
          exact List.mem_singleton.mpr rfl

/-! ## Every run -/

omit [Crypto] [Jwt] [PyDecimal] [Mysql] [EmailStr] in
/-- References to accounts hold as long as no account goes. -/
theorem intact_of_accounts {store : Store} {users : Users} {tokens : RefreshTokens}
    (intact : Intact store)
    (kept : ∀ id ∈ store.users.rows.map UserModel.id, id ∈ users.rows.map UserModel.id)
    (owners : ∀ row ∈ tokens.rows, row.userId ∈ users.rows.map UserModel.id) :
    Intact { store with users, refreshTokens := tokens } where
  keys := { intact.keys with
    articles := fun row stored => kept _ (intact.keys.articles row stored)
    teamMembers := fun row stored id names => kept _ (intact.keys.teamMembers row stored id names)
    refreshTokens := owners }
  readable := { intact.readable with }

/-- The authentication of an orderly site takes steady steps. -/
theorem Served.auth_cases (served : Served deployment state)
    (orderly : Orderly deployment state label)
    (transition : Transition deployment state label next) :
    next.auth = state.auth ∨ ∃ inner, Auth.Steady state.auth inner ∧
      Auth.step deployment.settings state.auth inner = some next.auth := by
  cases transition with
  | auth inner auth _ stepped => exact .inr ⟨inner, orderly, stepped⟩
  | authCalled pid exchange rest call auth waiting starts stepped =>
      refine .inr ⟨_, ?_, stepped⟩
      have fits := (served.admitted pid exchange waiting.present).fits
      cases starts with
      | login | refresh => exact fits
      | logout => rfl
  | _ => exact .inl rfl

theorem Served.step
    (built : ∀ value, EmailStr.produces value = true → (Email.postInit value).isOk = true)
    (short : ∀ value, EmailStr.produces value = true → value.length ≤ 254)
    (documented : Jwt.Documented) (served : Served deployment state)
    (orderly : Orderly deployment state label)
    (transition : Transition deployment state label next) : Served deployment next := by
  have unforged : Unforged deployment state label := by
    cases label with
    | advance pid => exact orderly.1
    | _ => trivial
  -- A change is carried out for a payload that its schema has accepted.
  have accepted : ∀ {pid exchange rest asked change}, At state pid exchange .execute rest →
      exchange.request.sent = .action (.change asked) →
      signed exchange.subject asked = .ok change →
      change.accepted = true ∧ changeRoute change = exchange.request.route := by
    intro pid exchange rest asked change waiting sent authored
    have inOrder := served.executing.inOrder pid exchange waiting.present
    rcases signed_keeps authored with ⟨same, routed⟩
    rw [same, routed]
    refine ⟨?_, by rw [Request.route, sent]; rfl⟩
    have valid := (served.admitted pid exchange waiting.present).validated.accepted inOrder
      waiting.todo
    rw [Request.accepted, sent] at valid
    exact valid
  have auth : Auth.Ready next.auth ∧ ∀ id ∈ state.auth.users.rows.map UserModel.id,
      id ∈ next.auth.users.rows.map UserModel.id := by
    rcases served.auth_cases orderly transition with same | ⟨inner, steady, stepped⟩
    · rw [same]
      exact ⟨served.ready, fun _ known => known⟩
    · exact ⟨served.ready.step steady stepped, (Auth.users_of_step steady stepped).2⟩
  refine ⟨auth.1, ?_, served.authenticated.step documented unforged transition,
    served.executing.step transition, ?_, ?_⟩
  · rcases transition.content_cases with same | ⟨pid, exchange, rest, asked, change, advanced,
      waiting, sent, authored, carried⟩
    · change Intact
        { next.content with users := next.auth.users, refreshTokens := next.auth.tokens }
      rw [same]
      change Intact { state.store with users := next.auth.users, refreshTokens := next.auth.tokens }
      exact intact_of_accounts served.intact auth.2 auth.1.owners
    · subst advanced
      have sound := orderly.2 exchange rest asked change waiting sent authored
      have slug := (Bool.and_eq_true_iff.mp (Bool.and_eq_true_iff.mp sound).1).1
      have intact : Intact (change.execute state.store).2 :=
        ⟨foreignKeys_execute served.intact.keys change,
          readable_execute built served.intact (accepted waiting sent authored).1 slug⟩
      have leaves : Leaves state.store (change.execute state.store).2 := execute_leaves change
      change Intact
        { next.content with users := next.auth.users, refreshTokens := next.auth.tokens }
      rw [carried]
      refine intact_of_accounts intact ?_ auth.1.owners
      rw [leaves.users]
      exact auth.2
  · refine transition.exchanges served.admitted (fun _ _ _ admitted => admitted) ?_ ?_
    · intro pid request received _ _
      subst received
      exact ⟨orderly, .inl (Route.validates request.route)⟩
    · intro pid before after present admitted moved
      exact admitted.moved (served.executing.inOrder pid before present) moved
  · refine transition.exchanges served.answered (fun _ _ _ answered => answered) ?_ ?_
    · intro pid request _ _ _ response answered
      cases answered
    · intro pid before after present answered moved response given
      have inOrder := served.executing.inOrder pid before present
      have sound : label = .advance pid → ∀ {rest asked change}, At state pid before .execute rest →
          before.request.sent = .action (.change asked) →
          signed before.subject asked = .ok change → Sound state.store change := by
        intro advanced rest asked change waiting sent authored
        rw [advanced] at orderly
        exact orderly.2 before rest asked change waiting sent authored
      generalize next.content = content at moved
      cases moved with
      | passed stage rest subject waiting passes =>
          rw [waiting.unanswered] at given
          cases given
      | refused stage rest other waiting refuses =>
          cases given
          have passed : stage ∈ before.request.route.stages :=
            inOrder.stages.subset (waiting.todo ▸ List.mem_cons_self)
          exact refuses.documented passed
      | finished rest result waiting ends =>
          cases given
          exact ends.documented served waiting
      | carriedOut rest asked change waiting sent authored =>
          cases given
          rcases accepted waiting sent authored with ⟨valid, routed⟩
          rw [← routed]
          exact documented_change built short served.intact valid (sound rfl waiting sent authored)
      | notified contact pending => exact answered response given

omit [Jwt] [Mysql] in
theorem served_init {clock : Nat} {now : Instant} {store : Store} (intact : Intact store)
    (accounts : Auth.Accounts store.users) : Served deployment (State.init clock now store) where
  ready := Auth.ready_init accounts intact.keys.refreshTokens
  intact := intact
  authenticated := ⟨Auth.grants_init _ _ _, allInOrder_init clock now store, by
    intro pid exchange present
    cases present⟩
  executing := executing_init clock now store
  admitted := by
    intro pid exchange present
    cases present
  answered := by
    intro pid exchange present
    cases present

omit [Collation] [Crypto] [Jwt] [PyDecimal] [Mysql] [EmailStr] in
theorem Documented.no_internal_error {route : Route} {response : Response}
    (documented : Documented route response) : response.status ≠ 500 := by
  cases documented with
  | carriedOut body suits =>
      have success : route.successStatus ≠ 500 := by
        cases route <;> decide
      exact success
  | refused status code message listed =>
      have none : ∀ error ∈ route.errors, error.1 ≠ 500 := by
        cases route <;> decide
      exact none _ listed

end

namespace Sample

open Auth.Sample (unicode collation signing jwt admin settings)
open Content.Sample (mysql)

attribute [local instance] unicode collation signing jwt mysql decimal emailStr

/-- The change that a request asks for. -/
def asked (state : State) (pid : Nat) : Option Change :=
  (state.exchanges pid).bind fun exchange =>
    match exchange.request.sent with
    | .action (.change asked) => (signed exchange.subject asked).toOption
    | _ => none

/-- Nothing happens that the site is not ready for. -/
def Calm (state : State) : Label → Prop
  | .auth (.advance _) => True
  | .auth (.generate _ rawToken) => hashRefreshToken rawToken ∉ state.auth.hashes
  | .auth (.create _ id) => id ∉ state.auth.ids
  | .auth (.call ..) | .auth (.tick _) | .auth (.users _) | .auth (.purge _) => False
  | .receive _ request => request.origin.fits = true
  | .advance pid => Genuine state (.advance pid) ∧
      (asked state pid).all (Change.sound state.store) = true
  | .tick _ | .command _ | .notify _ => True

instance : ∀ state label, Decidable (Calm state label)
  | state, .auth (.generate _ rawToken) =>
      inferInstanceAs (Decidable (hashRefreshToken rawToken ∉ state.auth.hashes))
  | state, .auth (.create _ id) => inferInstanceAs (Decidable (id ∉ state.auth.ids))
  | _, .receive _ request => instDecidableEqBool request.origin.fits true
  | state, .advance pid => inferInstanceAs (Decidable (Genuine state (.advance pid) ∧ _ = true))
  | _, .auth (.call ..) | _, .auth (.tick _) | _, .auth (.users _) | _, .auth (.purge _) =>
      instDecidableFalse
  | _, .auth (.advance _) | _, .tick _ | _, .command _ | _, .notify _ => instDecidableTrue

theorem Calm.orderly {state : State} {label : Label} (calm : Calm state label) :
    Orderly deployment state label := by
  cases label with
  | auth label =>
      cases label with
      | advance pid => trivial
      | generate pid rawToken => exact calm
      | create pid id => exact calm
      | call | tick | users | purge => cases calm
  | receive pid request => exact calm
  | advance pid =>
      refine ⟨calm.1.unforged, ?_⟩
      intro exchange rest wanted change waiting sent authored
      have sound := calm.2
      rw [asked, waiting.present, Option.bind_some, sent] at sound
      simp only [authored] at sound
      exact sound
  | tick | command | notify => trivial

theorem produced {value : String} (produces : EmailStr.produces value = true) :
    value = "admin@ch-tech.dev" ∨ value = "contact@ch-tech.dev" :=
  (Bool.or_eq_true_iff.mp produces).imp eq_of_beq eq_of_beq

end Sample

end ChTech.Api
