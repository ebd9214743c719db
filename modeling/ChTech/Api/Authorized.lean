import ChTech.Api.Executions

/-!
# Who changes content

Content is changed by the endpoints of contact requests and of authenticated requests only.  The
token of an authenticated request is one that the server has issued to a user it had read active,
and it was presented before its lifetime had passed.
-/

namespace ChTech.Api

open Foundation Content Application

section

variable [PyUnicode] [Collation] [Crypto]

/-- An execution has returned the token to the user, who was active, and it was accepted within
its lifetime. -/
def Credited (settings : Settings) (auth : Auth.State) (user : User) (token : String) : Prop :=
  ∃ pid issued accepted, (auth.procs pid).granted = some (user, token) ∧ user.isActive = true ∧
    token = createAccessToken settings issued user.id.str user.role.value ∧ issued ≤ accepted ∧
    accepted < issued + settings.accessTokenTtl ∧ accepted ≤ auth.clock

variable {settings : Settings} {auth auth' : Auth.State}

omit [PyUnicode] [Collation] in
theorem issued_of_granted {proc : Auth.Proc} {user : User} {token : String}
    (granted : proc.granted = some (user, token)) : ∃ value, proc.issued = some value := by
  cases issued : proc.issued with
  | some value => exact ⟨value, rfl⟩
  | none =>
      rw [Auth.granted_of_not_issued issued] at granted
      cases granted

theorem Credited.step {user : User} {token : String} {label : Auth.Label}
    (credited : Credited settings auth user token)
    (stepped : Auth.step settings auth label = some auth') :
    Credited settings auth' user token := by
  have transition := Auth.step_transition stepped
  rcases credited with ⟨pid, issued, accepted, granted, active, made, order, alive, past⟩
  rcases issued_of_granted granted with ⟨value, returned⟩
  refine ⟨pid, issued, accepted, ?_, active, made, order, alive, past.trans transition.clock_le⟩
  rw [transition.issued_stays returned]
  exact granted

omit [PyUnicode] in
/-- A token that is not forged is credited once it is accepted. -/
theorem credited_of_accepted [Jwt] (documented : Jwt.Documented)
    (grants : Auth.Grants settings auth) {token subject : String}
    (unforged : Auth.Unforged settings auth token)
    (accepted : getCurrentUserId settings auth.clock (some token) = .ok subject) :
    ∃ user, user.id.str = subject ∧ Credited settings auth user token := by
  rcases getCurrentUserId_eq_ok accepted with ⟨other, payload, same, decoded, read⟩
  cases same
  rcases unforged with ⟨pid, user, granted⟩ | refused
  · rcases grants.granted pid user token granted with ⟨active, made⟩
    rcases Auth.madeFor_of_accepted documented made decoded read with
      ⟨named, issued, past, _, alive, same⟩
    exact ⟨user, named, pid, issued, auth.clock, granted, active, same, past, alive, le_refl _⟩
  · rw [refused] at decoded
    cases decoded

end

section

variable [PyUnicode] [Collation] [Crypto] [Jwt] [PyDecimal] [Mysql] [EmailStr]
  {deployment : Deployment} {state next : State} {label : Label}

/-! ## Requests and their users -/

/-- A token that is presented is one that the server has issued, or it is refused. -/
def Unforged (deployment : Deployment) (state : State) : Label → Prop
  | .advance pid => ∀ exchange rest token, At state pid exchange .authenticate rest →
      exchange.request.credentials = some token →
      Auth.Unforged deployment.settings state.auth token
  | .tick _ | .command _ | .auth _ | .receive .. | .notify _ => True

/-- The subject of a request is a user to whom the server has issued its token. -/
def Identified (deployment : Deployment) (state : State) (exchange : Exchange) : Prop :=
  ∀ subject, exchange.subject = some subject → ∃ user token, user.id.str = subject ∧
    exchange.request.credentials = some token ∧
      Credited deployment.settings state.auth user token

structure Authenticated (deployment : Deployment) (state : State) : Prop where
  grants : Auth.Grants deployment.settings state.auth
  inOrder : AllInOrder state
  identified : ∀ pid exchange, state.exchanges pid = some exchange →
    Identified deployment state exchange

theorem Authenticated.step (documented : Jwt.Documented)
    (authenticated : Authenticated deployment state) (unforged : Unforged deployment state label)
    (transition : Transition deployment state label next) : Authenticated deployment next := by
  have later : ∀ {exchange}, Identified deployment state exchange →
      Identified deployment next exchange := by
    intro exchange identified subject known
    rcases identified subject known with ⟨user, token, named, presented, credited⟩
    exact ⟨user, token, named, presented,
      transition.auth_invariant credited fun stepped => credited.step stepped⟩
  refine ⟨?_, authenticated.inOrder.step transition, ?_⟩
  · exact transition.auth_invariant authenticated.grants fun stepped =>
      authenticated.grants.step (Auth.step_transition stepped)
  · refine transition.exchanges authenticated.identified
      (fun _ _ _ identified => later identified) ?_ ?_
    · intro pid request _ _ _ subject known
      cases known
    · intro pid before after _ identified moved
      generalize next.content = content at moved
      cases moved with
      | passed stage rest subject waiting passes =>
          cases passes with
          | authenticate subject accepted =>
              intro other known
              cases known
              rcases getCurrentUserId_eq_ok accepted with ⟨token, _, presented, _, _⟩
              have unforged := unforged before rest token waiting presented
              rw [presented] at accepted
              rcases credited_of_accepted documented authenticated.grants unforged accepted with
                ⟨user, named, credited⟩
              exact ⟨user, token, named, presented,
                transition.auth_invariant credited fun stepped => credited.step stepped⟩
          | parse | limit _ _ _ _ | validate _ => exact later identified
      | refused | finished | carriedOut | notified => exact later identified

theorem authenticated_reached (documented : Jwt.Documented) {clock : Nat} {now : Instant}
    {store : Store}
    (run : Machine.Reaches (step deployment) (Unforged deployment) (State.init clock now store)
      state) : Authenticated deployment state := by
  refine run.invariant (Authenticated deployment) ?_ ⟨Auth.grants_init _ _ _,
    allInOrder_init clock now store, ?_⟩
  · intro before label after authenticated unforged stepped
    exact authenticated.step documented unforged (step_transition stepped)
  · intro pid exchange present
    cases present

/-- The user of a request that has passed its guard has logged in. -/
theorem user_of_subject (documented : Jwt.Documented) {clock : Nat} {now : Instant}
    {store : Store}
    (run : Machine.Reaches (step deployment) (Unforged deployment) (State.init clock now store)
      state)
    {pid : Nat} {exchange : Exchange} (present : state.exchanges pid = some exchange)
    {subject : String} (known : exchange.subject = some subject) :
    ∃ user token, user.id.str = subject ∧ exchange.request.credentials = some token ∧
      Credited deployment.settings state.auth user token ∧
      HasLoggedIn deployment now store state user.id := by
  rcases (authenticated_reached documented run).identified pid exchange present subject known with
    ⟨user, token, named, presented, credited⟩
  have free : Machine.Reaches (step deployment) Machine.Any (State.init clock now store) state :=
    run.imp fun labels executed => executed.mono fun _ _ _ => trivial
  rcases credited with ⟨first, issued, accepted, granted, valid⟩
  exact ⟨user, token, named, presented, ⟨first, issued, accepted, granted, valid⟩,
    hasLoggedIn_of_granted free granted⟩

omit [PyUnicode] [Collation] [Crypto] [Jwt] [PyDecimal] [Mysql] [EmailStr] in
theorem changeRoute_cases (asked : Change) :
    changeRoute asked = .contact ∨ changeRoute asked = .create ∨ changeRoute asked = .update ∨
      changeRoute asked = .delete := by
  cases asked with
  | contact defaults payload => exact .inl rfl
  | company ties defaults now payload => exact .inr (.inr (.inl rfl))
  | delete delete => exact .inr (.inr (.inr rfl))
  | project _ target _ | article _ target _ _ | service target _ | serviceLine target _
  | product target _ | technology target _ | client target _ | partner target _
  | teamMember target _ | caseStudy _ target _ | testimonial _ target _ =>
      cases target with
      | post defaults => exact .inr (.inl rfl)
      | put id now => exact .inr (.inr (.inl rfl))

omit [PyUnicode] [Collation] [Crypto] [Jwt] [PyDecimal] [Mysql] [EmailStr] in
theorem contact_of_route {asked : Change} (contact : changeRoute asked = .contact) :
    ∃ defaults payload, asked = .contact defaults payload := by
  cases asked with
  | contact defaults payload => exact ⟨defaults, payload, rfl⟩
  | company | delete => cases contact
  | project _ target _ | article _ target _ _ | service target _ | serviceLine target _
  | product target _ | technology target _ | client target _ | partner target _
  | teamMember target _ | caseStudy _ target _ | testimonial _ target _ =>
      cases target <;> cases contact

omit [PyUnicode] [Collation] [Crypto] [Jwt] [PyDecimal] [Mysql] [EmailStr] in
/-- Every writing route but that of contact requests is guarded. -/
theorem guarded_of_changeRoute {asked : Change} (other : changeRoute asked ≠ .contact) :
    .authenticate ∈ (changeRoute asked).stages := by
  rcases changeRoute_cases asked with contact | create | update | delete
  · exact absurd contact other
  · rw [create]
    decide
  · rw [update]
    decide
  · rw [delete]
    decide

/-- In every run in which no token is forged, with content use cases one at a time, a step that
changes content carries out one request.  It is a contact request, or it was sent with an access
token that the server has issued to a user whom it had read active and that was accepted within
its lifetime; that user has logged in, and an article it creates is by them. -/
theorem content_changed_by_active_users (documented : Jwt.Documented) {clock : Nat}
    {now : Instant} {store : Store}
    (run : Machine.Reaches (step deployment) (Unforged deployment) (State.init clock now store)
      state)
    (stepped : step deployment state label = some next)
    (changed : next.content ≠ state.content) :
    ∃ pid exchange asked change, label = .advance pid ∧
      state.exchanges pid = some exchange ∧ exchange.response = none ∧
      exchange.request.sent = .action (.change asked) ∧
      signed exchange.subject asked = .ok change ∧
      next.content = (change.execute state.store).2 ∧
      (changeRoute asked = .contact ∨ ∃ user token,
        exchange.request.credentials = some token ∧
        Credited deployment.settings state.auth user token ∧
        HasLoggedIn deployment now store state user.id ∧
        ∀ ties defaults authorId payload,
          change = .article ties (.post defaults) authorId payload → user.id < 2 ^ 128 →
            authorId = user.id) := by
  have authenticated := authenticated_reached documented run
  rcases (step_transition stepped).content_cases with same | ⟨pid, exchange, rest, asked, change,
    advanced, waiting, sent, authored, carried⟩
  · exact absurd same changed
  · refine ⟨pid, exchange, asked, change, advanced, waiting.present, waiting.unanswered, sent,
      authored, carried, ?_⟩
    by_cases contact : changeRoute asked = .contact
    · exact .inl contact
    · right
      have inOrder := authenticated.inOrder pid exchange waiting.present
      have route : exchange.request.route = changeRoute asked := by
        rw [Request.route, sent]
        rfl
      have known : exchange.subject.isSome = true :=
        inOrder.user waiting.todo (route ▸ guarded_of_changeRoute contact)
      rcases Option.isSome_iff_exists.mp known with ⟨subject, some⟩
      rcases user_of_subject documented run waiting.present some with
        ⟨user, token, named, presented, credited, logged⟩
      refine ⟨user, token, presented, credited, logged, ?_⟩
      intro ties defaults authorId payload article inRange
      rcases signed_cases authored with ⟨same, other⟩ | ⟨_, _, _, author, _, _, same, read⟩
      · exact absurd (same.symm.trans article) (other _ _ _ _)
      · rw [article] at same
        cases same
        rw [some, Option.getD_some, ← named, PyUuid.ofText_str inRange] at read
        exact (Except.ok.inj read).symm

end

namespace Sample

open Auth.Sample (unicode collation signing jwt settings accessToken)
open Content.Sample (mysql)

attribute [local instance] unicode collation signing jwt mysql decimal emailStr

def createTechnology : Request where
  client := some "203.0.113.7"
  userAgent := some "Mozilla/5.0"
  credentials := some accessToken
  sent := .action (.change (.technology
    (.post ⟨7, 1767225600000000, 1767225600000000⟩) ⟨"Python", none, none, none⟩))

def writing : List Label :=
  [.receive 1 createTechnology, .advance 1, .advance 1, .command 1, .command 1, .advance 1,
    .advance 1, .advance 1]

/-- The token that is presented has been returned by the login. -/
def Genuine (state : State) : Label → Prop
  | .advance pid => (state.exchanges pid).all (fun exchange =>
      exchange.request.credentials.all fun token =>
        decide ((state.auth.procs 0).granted.map Prod.snd = some token)) = true
  | .tick _ | .command _ | .auth _ | .receive .. | .notify _ => True

instance : ∀ state label, Decidable (Genuine state label)
  | _, .advance _ => instDecidableEqBool _ true
  | _, .tick _ | _, .command _ | _, .auth _ | _, .receive .. | _, .notify _ => instDecidableTrue

theorem Genuine.unforged {state : State} {label : Label} (genuine : Genuine state label) :
    Unforged deployment state label := by
  cases label with
  | advance pid =>
      intro exchange rest token waiting presented
      change (state.exchanges pid).all _ = true at genuine
      rw [waiting.present, Option.all_some, presented, Option.all_some] at genuine
      rcases Option.map_eq_some_iff.mp (of_decide_eq_true genuine) with ⟨⟨user, _⟩, granted, same⟩
      cases same
      exact .inl ⟨0, user, granted⟩
  | _ => trivial

/-- A user logs in and creates a technology. -/
theorem content_changed_by_active_users_technology : ∃ state next : State,
    Machine.execIf (step deployment) Genuine start (login ++ writing) = some state ∧
      step deployment state (.advance 1) = some next ∧ next.content ≠ state.content ∧
      ∃ user, Credited settings state.auth user accessToken := by
  obtain ⟨state, executed⟩ := Option.isSome_iff_exists.mp (by decide +kernel :
    (Machine.execIf (step deployment) Genuine start (login ++ writing)).isSome)
  obtain ⟨next, stepped⟩ := Option.isSome_iff_exists.mp (Machine.read_of_map
    (fun state => (step deployment state (.advance 1)).isSome) executed (by decide +kernel))
  have before : state.content.technologies.rows.length = 0 :=
    Machine.read_of_map (fun state => state.content.technologies.rows.length) executed
      (by decide +kernel)
  have after : (step deployment state (.advance 1)).map
      (fun next => next.content.technologies.rows.length) = some 1 :=
    Machine.read_of_map (fun state => (step deployment state (.advance 1)).map
      (fun next => next.content.technologies.rows.length)) executed (by decide +kernel)
  have changed : next.content ≠ state.content := by
    intro same
    rw [stepped, Option.map_some, same, before] at after
    cases after
  refine ⟨state, next, executed, stepped, changed, ?_⟩
  have shown : (state.exchanges 1).map (fun exchange =>
      (exchange.request.route, exchange.request.credentials)) =
        some (.create, some accessToken) :=
    Machine.read_of_map (fun state => (state.exchanges 1).map fun exchange =>
      (exchange.request.route, exchange.request.credentials)) executed (by decide +kernel)
  have run := (Machine.Runs.of_execIf executed).mono fun _ _ genuine => genuine.unforged
  rcases content_changed_by_active_users Auth.Sample.documented ⟨_, run⟩ stepped changed with
    ⟨pid, exchange, asked, change, advanced, present, _, sent, _, _, authorized⟩
  cases advanced
  rw [present] at shown
  have both := Prod.mk.inj (Option.some.inj shown)
  have route : changeRoute asked = .create := by
    rw [← both.1, Request.route, sent]
    rfl
  rcases authorized with contact | ⟨user, token, presented, credited, _⟩
  · rw [route] at contact
    cases contact
  · rw [both.2] at presented
    cases presented
    exact ⟨user, credited⟩

end Sample

end ChTech.Api
