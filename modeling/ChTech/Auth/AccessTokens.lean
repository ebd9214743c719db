import ChTech.Api.Deps
import ChTech.Auth.Sessions
import ChTech.Foundation.Program

/-!
# What an access token is worth

The access tokens are signed and not stored: nothing revokes one.  What ends them is their
lifetime.  An execution returns one only for a user that it has read active, so an account that
is deactivated while no execution serves it is out once that lifetime has passed.
-/

namespace ChTech

/-- An entity is active when its row is. -/
theorem UserModel.toEntity_isActive [Foundation.PyUnicode] {model : UserModel} {user : User}
    (built : model.toEntity = .ok user) : user.isActive = model.isActive := by
  rcases Foundation.Result.bind_eq_ok.mp built with ⟨email, _, built⟩
  rcases Foundation.Result.bind_eq_ok.mp built with ⟨role, _, built⟩
  cases built
  rfl

end ChTech

namespace ChTech.Auth

open Foundation

/-! ## Executions and the users they serve -/

namespace Proc

/-- The user whose token is being issued. -/
def issuingFor : IssuePc → Option User
  | .generate user | .create user _ _ => some user
  | .returned _ _ | .raised _ => none

/-- The user that an execution has read and not yet answered. -/
def serving : Proc → Option User
  | .login _ (.readClock user) | .login _ (.recordLogin user _) => some user
  | .login _ (.issue pc) | .refresh _ (.issue pc) => issuingFor pc
  | _ => none

/-- The user and the access token that an execution has returned. -/
def granted : Proc → Option (User × String)
  | .login _ (.issue (.returned user tokens)) | .refresh _ (.issue (.returned user tokens)) =>
      some (user, tokens.accessToken)
  | _ => none

end Proc

section

variable [PyUnicode] [Collation] [Crypto]

/-- A row of the account is that of an active user. -/
def ReadActive (users : Users) (user : User) : Prop :=
  user.isActive = true ∧ ∃ model ∈ users.rows, model.toEntity = .ok user

variable {settings : Settings} {state next : State} {label : Label}

omit [Crypto] in
theorem readActive_of_getById {users : Users} {userId : UUID} {user : User}
    (read : UserRepository.getById users userId = .ok (some user))
    (active : user.isActive = true) : ReadActive users user := by
  simp only [UserRepository.getById] at read
  split at read
  next => cases read
  next model present =>
    rcases Result.map_eq_ok.mp read with ⟨entity, built, same⟩
    cases same
    exact ⟨active, model, (Table.mem_of_find? present).1, built⟩

omit [Crypto] in
theorem readActive_of_getByEmail {users : Users} {email : String} {user : User}
    (read : UserRepository.getByEmail users email = .ok (some user))
    (active : user.isActive = true) : ReadActive users user := by
  simp only [UserRepository.getByEmail] at read
  split at read
  next => cases read
  next model present =>
    rcases Result.map_eq_ok.mp read with ⟨entity, built, same⟩
    cases same
    exact ⟨active, model, (Table.mem_of_find? present).1, built⟩

omit [Crypto] in
theorem lookUpUser_active {users : Users} {token : RefreshToken} {user : User}
    (served : Proc.issuingFor (lookUpUser users token) = some user) : ReadActive users user := by
  simp only [lookUpUser] at served
  split at served
  next => cases served
  next => cases served
  next other found =>
    split at served
    next active =>
      cases served
      exact readActive_of_getById found active
    next => cases served

theorem verifyCredentials_active {users : Users} {call : LoginCall} {user : User}
    (served : Proc.serving (.login call (verifyCredentials users call)) = some user) :
    ReadActive users user := by
  simp only [verifyCredentials] at served
  split at served
  next => cases served
  next => cases served
  next other found =>
    split at served
    next both =>
      cases served
      exact readActive_of_getByEmail found (Bool.and_eq_true_iff.mp both).1
    next => cases served

/-- An execution serves the user it served, or one that it has just read. -/
theorem Local.serving_eq {before after : Proc} (own : Local settings state before after)
    {user : User} (served : after.serving = some user) :
    before.serving = some user ∨ ReadActive state.users user := by
  cases own with
  | call request => cases request <;> cases served
  | verifyCredentials call => exact .inr (verifyCredentials_active served)
  | getById call token => exact .inr (lookUpUser_active served)
  | loginClock call user | recordLogin call user now => exact .inl served
  | _ => cases served

omit [PyUnicode] [Collation] in
/-- Only a step that stores a token grants one. -/
theorem granted_of_not_issued {proc : Proc} (none : proc.issued = none) : proc.granted = .none := by
  cases proc with
  | login call pc =>
      cases pc with
      | issue pc => cases pc <;> first | rfl | cases none
      | _ => rfl
  | refresh call pc =>
      cases pc with
      | issue pc => cases pc <;> first | rfl | cases none
      | _ => rfl
  | _ => rfl

namespace Transition

theorem serving (transition : Transition settings state label next) {pid : Nat} {user : User}
    (served : (next.procs pid).serving = some user) :
    (state.procs pid).serving = some user ∨ ReadActive state.users user := by
  cases transition with
  | tick | users => exact .inl served
  | moved label mover proc users _ own =>
      rcases observed_move served with ⟨rfl, mine⟩ | kept
      · exact own.serving_eq mine
      · exact .inl kept
  | generatedLogin mover rawToken call other present
  | generatedRefresh mover rawToken call other present =>
      rcases observed_move served with ⟨rfl, mine⟩ | kept
      · cases mine
        rw [present]
        exact .inl rfl
      · exact .inl kept
  | createdLogin | createdRefresh | revoked | saved | deleted =>
      rcases observed_move served with ⟨_, mine⟩ | kept
      · cases mine
      · exact .inl kept

/-- A token is granted to the user served, from now on. -/
theorem granted (transition : Transition settings state label next) {pid : Nat} {user : User}
    {token : String} (holds : (next.procs pid).granted = some (user, token)) :
    (state.procs pid).granted = some (user, token) ∨ (state.procs pid).serving = some user ∧
      token = createAccessToken settings state.clock user.id.str user.role.value := by
  cases transition with
  | tick | users => exact .inl holds
  | moved label mover proc users _ own =>
      rcases observed_move holds with ⟨_, mine⟩ | kept
      · rw [granted_of_not_issued own.pending_issued_eq.2] at mine
        cases mine
      · exact .inl kept
  | createdLogin mover id call other rawToken now tokens present
  | createdRefresh mover id call other rawToken now tokens present =>
      rcases observed_move holds with ⟨rfl, mine⟩ | kept
      · cases mine
        rw [present]
        exact .inr ⟨rfl, rfl⟩
      · exact .inl kept
  | generatedLogin | generatedRefresh | revoked | saved | deleted =>
      rcases observed_move holds with ⟨_, mine⟩ | kept
      · cases mine
      · exact .inl kept

theorem clock_le (transition : Transition settings state label next) :
    state.clock ≤ next.clock := by
  cases transition with
  | tick clock forward => exact forward
  | _ => exact le_refl _

end Transition

/-- The token was made for the user at an instant up to the given one. -/
def MadeFor (settings : Settings) (user : User) (token : String) (deadline : Instant) : Prop :=
  ∃ issued ≤ deadline, token = createAccessToken settings issued user.id.str user.role.value

structure Grants (settings : Settings) (state : State) : Prop where
  serving : ∀ pid user, (state.procs pid).serving = some user → user.isActive = true
  granted : ∀ pid user token, (state.procs pid).granted = some (user, token) →
    user.isActive = true ∧ MadeFor settings user token state.clock

theorem Grants.step (grants : Grants settings state)
    (transition : Transition settings state label next) : Grants settings next where
  serving := by
    intro pid user served
    rcases transition.serving served with before | read
    · exact grants.serving pid user before
    · exact read.1
  granted := by
    intro pid user token holds
    rcases transition.granted holds with before | ⟨served, made⟩
    · rcases grants.granted pid user token before with ⟨active, issued, past, made⟩
      exact ⟨active, issued, past.trans transition.clock_le, made⟩
    · exact ⟨grants.serving pid user served, state.clock, transition.clock_le, made⟩

omit [PyUnicode] in
theorem grants_init (clock : Instant) (users : Users) (tokens : RefreshTokens) :
    Grants settings (State.init clock users tokens) where
  serving := by
    intro pid user served
    cases served
  granted := by
    intro pid user token holds
    cases holds

theorem grants_reached {clock : Instant} {users : Users} {tokens : RefreshTokens}
    (run : Machine.Reaches (step settings) Machine.Any (State.init clock users tokens) state) :
    Grants settings state := by
  refine run.invariant (Grants settings) ?_ (grants_init clock users tokens)
  intro before label after grants _ stepped
  exact grants.step (step_transition stepped)

/-- No row whose key is written as the subject is active. -/
def Denied (subject : String) (users : Users) : Prop :=
  ∀ model ∈ users.rows, model.id.str = subject → model.isActive = false

omit [PyUnicode] [Crypto] in
theorem Denied.recordLogin {subject : String} {users users' : Users} {userId : UUID}
    {instant now : Instant} (denied : Denied subject users)
    (recorded : UserRepository.recordLogin users userId instant now = .ok users') :
    Denied subject users' := by
  simp only [UserRepository.recordLogin] at recorded
  split at recorded
  next => cases recorded
  next =>
    cases recorded
    intro model member named
    rcases Table.mem_modify.mp member with ⟨before, stored, same⟩
    have kept : model.id = before.id ∧ model.isActive = before.isActive := by
      rw [← same, UserRepository.recordedLogin]
      split
      · exact ⟨rfl, rfl⟩
      · exact ⟨rfl, rfl⟩
    rw [kept.2]
    exact denied before stored (kept.1 ▸ named)

/-- A step leaves the users alone, records a login or is a write from outside. -/
theorem step_users (stepped : step settings state label = some next) :
    next.users = state.users ∨ label = .users next.users ∨ ∃ userId instant now,
      UserRepository.recordLogin state.users userId instant now = .ok next.users := by
  cases label with
  | tick clock =>
      simp only [step] at stepped
      split at stepped
      next =>
        cases stepped
        exact .inl rfl
      next => cases stepped
  | users users =>
      cases stepped
      exact .inr (.inl rfl)
  | call pid request =>
      simp only [step] at stepped
      split at stepped
      next =>
        cases stepped
        exact .inl rfl
      next => cases stepped
  | advance pid =>
      simp only [step] at stepped
      split at stepped
      next call pc _ =>
        cases pc with
        | getByEmail | readClock _ =>
            cases stepped
            exact .inl rfl
        | recordLogin user now =>
            simp only [State.advanceLogin] at stepped
            split at stepped
            next =>
              cases stepped
              exact .inl rfl
            next users recorded =>
              cases stepped
              exact .inr (.inr ⟨_, _, _, recorded⟩)
        | issue pc => cases stepped
      next call pc _ =>
        cases pc with
        | readClock | getById _ =>
            cases stepped
            exact .inl rfl
        | revokeIfActive now =>
            simp only [State.advanceRefresh] at stepped
            split at stepped
            next =>
              cases stepped
              exact .inl rfl
            next =>
              cases stepped
              exact .inl rfl
        | issue pc => cases stepped
      next call pc _ =>
        cases pc with
        | getByTokenHash | readClock _ =>
            cases stepped
            exact .inl rfl
        | save token now =>
            simp only [State.advanceLogout] at stepped
            split at stepped
            next =>
              cases stepped
              exact .inl rfl
            next =>
              cases stepped
              exact .inl rfl
        | returned | raised _ => cases stepped
      next => cases stepped
      next => cases stepped
  | generate pid rawToken =>
      simp only [step, State.generate] at stepped
      split at stepped
      next =>
        cases stepped
        exact .inl rfl
      next => cases stepped
  | create pid id =>
      simp only [step, State.create] at stepped
      split at stepped
      next =>
        split at stepped
        next =>
          cases stepped
          exact .inl rfl
        next =>
          cases stepped
          exact .inl rfl
      next => cases stepped
  | purge pid =>
      simp only [step] at stepped
      split at stepped
      next pc _ =>
        cases pc with
        | readClock | delete _ =>
            cases stepped
            exact .inl rfl
        | select cutoff =>
            simp only [State.advancePurge] at stepped
            split at stepped
            next =>
              cases stepped
              exact .inl rfl
            next =>
              cases stepped
              exact .inl rfl
        | returned count => cases stepped
      next => cases stepped

/-- A write from outside does not activate the account again. -/
def KeepsDenied (subject : String) : State → Label → Prop
  | _, .users users => Denied subject users
  | _, .tick _ | _, .call .. | _, .advance _ | _, .generate .. | _, .create .. | _, .purge _ => True

theorem Denied.step {subject : String} (denied : Denied subject state.users)
    (kept : KeepsDenied subject state label) (stepped : step settings state label = some next) :
    Denied subject next.users := by
  rcases step_users stepped with same | outside | ⟨userId, instant, now, recorded⟩
  · rw [same]
    exact denied
  · rw [outside] at kept
    exact kept
  · exact denied.recordLogin recorded

/-! ## An account that is deactivated -/

/-- What holds from the deactivation on. -/
structure Ended (settings : Settings) (subject : String) (deadline : Instant) (state : State) :
    Prop where
  denied : Denied subject state.users
  unserved : ∀ pid user, (state.procs pid).serving = some user → user.id.str ≠ subject
  granted : ∀ pid user token, (state.procs pid).granted = some (user, token) →
    user.id.str = subject → MadeFor settings user token deadline

theorem Ended.step {subject : String} {deadline : Instant}
    (ended : Ended settings subject deadline state) (kept : KeepsDenied subject state label)
    (stepped : step settings state label = some next) :
    Ended settings subject deadline next := by
  have transition := step_transition stepped
  refine ⟨ended.denied.step kept stepped, ?_, ?_⟩
  · intro pid user served named
    rcases transition.serving served with before | ⟨active, model, stored, built⟩
    · exact ended.unserved pid user before named
    · -- The row it was read from is one of the account.
      have same : model.id = user.id := (UserModel.toEntity_id built).symm
      have inactive := ended.denied model stored (same ▸ named)
      rw [← UserModel.toEntity_isActive built, active] at inactive
      cases inactive
  · intro pid user token holds named
    rcases transition.granted holds with before | ⟨served, _⟩
    · exact ended.granted pid user token before named
    · exact absurd named (ended.unserved pid user served)

/-- The token is one that an execution has returned, or `jwt.decode` refuses it. -/
def Unforged [Jwt] (settings : Settings) (state : State) (token : String) : Prop :=
  (∃ pid user, (state.procs pid).granted = some (user, token)) ∨
    decodeAccessToken settings state.clock token = none

omit [PyUnicode] [Collation] in
/-- An accepted token was made for its subject, less than a lifetime ago. -/
theorem madeFor_of_accepted [Jwt] (documented : Jwt.Documented) {now : Instant} {token : String}
    {payload : DecodedPayload} {subject : String} {user : User} {deadline : Instant}
    (made : MadeFor settings user token deadline)
    (decoded : decodeAccessToken settings now token = some payload)
    (read : payload.sub = some (.str subject)) :
    user.id.str = subject ∧ ∃ issued ≤ deadline, wholeSeconds issued ≤ now ∧
      now < issued + settings.accessTokenTtl ∧
      token = createAccessToken settings issued user.id.str user.role.value := by
  rcases made with ⟨issued, past, same⟩
  rw [same] at decoded
  rcases documented _ _ _ _ _ decoded with ⟨sub, started, ends⟩
  rw [read] at sub
  cases sub
  exact ⟨rfl, issued, past, started, ends.trans_le (wholeSeconds_le _), same⟩

/-- Once an account is deactivated and no execution serves it, the lifetime of an access token
later no token that the server has issued authenticates as it, whatever happens meanwhile short
of the account being activated again. -/
theorem deactivation_takes_effect [Jwt] (documented : Jwt.Documented) {clock : Instant}
    {users : Users} {tokens : RefreshTokens} {last : State} {labels : List Label}
    {subject token : String}
    (reached : Machine.Reaches (step settings) Machine.Any (State.init clock users tokens) state)
    (denied : Denied subject state.users)
    (unserved : ∀ pid user, (state.procs pid).serving = some user → user.id.str ≠ subject)
    (run : Machine.Runs (step settings) (KeepsDenied subject) state labels last)
    (late : state.clock + settings.accessTokenTtl ≤ last.clock)
    (unforged : Unforged settings last token) :
    getCurrentUserId settings last.clock (some token) ≠ .ok subject := by
  have grants := grants_reached reached
  have ended : Ended settings subject state.clock last ∧ Grants settings last := by
    refine run.invariant (fun next => Ended settings subject state.clock next ∧
      Grants settings next) ?_ ⟨⟨denied, unserved, ?_⟩, grants⟩
    · intro before label after holds kept stepped
      exact ⟨holds.1.step kept stepped, holds.2.step (step_transition stepped)⟩
    · intro pid user token holds _
      exact (grants.granted pid user token holds).2
  intro authenticated
  rcases getCurrentUserId_eq_ok authenticated with ⟨other, payload, same, decoded, read⟩
  cases same
  rcases unforged with ⟨pid, user, holds⟩ | refused
  · have named := (madeFor_of_accepted documented (ended.2.granted pid user token holds).2
      decoded read).1
    rcases madeFor_of_accepted documented (ended.1.granted pid user token holds named) decoded
      read with ⟨_, issued, past, _, ends, _⟩
    exact absurd ends (not_lt.mpr ((Int.add_le_add_right past _).trans late))
  · rw [refused] at decoded
    cases decoded

end

namespace Sample

def accessToken : String :=
  "eyJhbGciOiJIUzI1NiIsInR5cCI6IkpXVCJ9.eyJzdWIiOiI2Zjk2MTlmZi04Yjg2LTRkMDEtYjQy" ++
  "ZC0wMGNmNGZjOTY0ZmYiLCJyb2xlIjoiQURNSU4iLCJpYXQiOjE3NjcyMjU2MDAsImV4cCI6MTc2NzIyNjUwMH0." ++
  "si05fiRkj1B-98TGlqZTr8NHQv4dH072NhXjiukChs0"

def subject : String := "6f9619ff-8b86-4d01-b42d-00cf4fc964ff"

def claims : Claims := ⟨subject, "ADMIN", clock, clock + 900000000⟩

def jwtEncode (made : Claims) (key algorithm : String) : String :=
  if made = claims ∧ key = settings.jwtSecretKey ∧ algorithm = settings.jwtAlgorithm then
    accessToken
  else ""

def jwtDecode (now : Instant) (token key algorithm : String) : Option DecodedPayload :=
  if token = accessToken ∧ key = settings.jwtSecretKey ∧ algorithm = settings.jwtAlgorithm ∧
      clock ≤ now ∧ now < clock + 900000000 then
    some ⟨some (.str subject)⟩
  else none

/-- What the libraries return for the values of the run. -/
@[reducible] def signing : Crypto where
  sha256Hex value := if value = firstToken then firstHash else ""
  checkpw password hash := some (decide (password = "U*U" ∧ hash = passwordHash))
  jwtEncode := jwtEncode

@[reducible] def jwt : Jwt where
  decode := jwtDecode

attribute [local instance] unicode collation signing jwt

theorem documented : Jwt.Documented := by
  intro made key algorithm now payload decoded
  change jwtDecode now (jwtEncode made key algorithm) key algorithm = some payload at decoded
  simp only [jwtDecode] at decoded
  split at decoded
  next accepted =>
    rcases accepted with ⟨same, _, _, started, ends⟩
    simp only [jwtEncode] at same
    split at same
    next mine =>
      have read := Option.some.inj decoded
      have whole : wholeSeconds claims.iat = clock ∧
          wholeSeconds claims.exp = clock + 900000000 := by
        decide
      rw [mine.1, ← read, whole.1, whole.2]
      exact ⟨rfl, started, ends⟩
    next => exact absurd same (by decide +kernel)
  next => exact absurd decoded.symm (Option.some_ne_none payload)

theorem decodeAccessToken_eq (now : Instant) (token : String) :
    decodeAccessToken settings now token =
      jwtDecode now token settings.jwtSecretKey settings.jwtAlgorithm := rfl

def deactivated : Users := .singleton { admin with isActive := false }

/-- A login, and the account deactivated after it: fifteen minutes later its token is refused. -/
theorem deactivation_takes_effect_login :
    ∃ state, Machine.exec (step settings) start (login ++ [.users deactivated]) = some state ∧
      getCurrentUserId settings clock (some accessToken) = .ok subject ∧
      ∃ last, Machine.exec (step settings) state [.tick (clock + 900000000)] = some last ∧
        getCurrentUserId settings last.clock (some accessToken) ≠ .ok subject := by
  have accepted : getCurrentUserId settings clock (some accessToken) = .ok subject := by
    have decoded : decodeAccessToken settings clock accessToken =
        some ⟨some (.str subject)⟩ := by
      rw [decodeAccessToken_eq, jwtDecode, if_pos ⟨rfl, rfl, rfl, le_refl _, by decide⟩]
    rw [getCurrentUserId, decoded]
  obtain ⟨state, executed⟩ := Option.isSome_iff_exists.mp
    (by decide : (Machine.exec (step settings) start (login ++ [.users deactivated])).isSome)
  have now : state.clock = clock := Machine.read_of_map State.clock executed rfl
  have returned : (state.procs 0).granted = some (adminUser, accessToken) :=
    Machine.read_of_map (fun state => (state.procs 0).granted) executed (by decide +kernel)
  have denied : Denied subject state.users := by
    have rows : state.users.rows = deactivated.rows :=
      Machine.read_of_map (fun state => state.users.rows) executed rfl
    intro model member _
    rw [rows] at member
    rw [List.mem_singleton.mp member]
  have unserved : ∀ pid user, (state.procs pid).serving = some user →
      user.id.str ≠ subject := by
    intro pid user served
    by_cases mine : pid = 0
    · have nobody : (state.procs 0).serving = none :=
        Machine.read_of_map (fun state => (state.procs 0).serving) executed (by decide +kernel)
      rw [mine, nobody] at served
      cases served
    · have idle : state.procs pid = .idle := by
        apply runs_frame (Machine.Runs.of_exec (fun _ _ _ => trivial) executed)
        intro label member named
        have own : ∀ label ∈ login ++ [.users deactivated], label.pid.all (· == 0) = true := by
          decide
        have zero := own label member
        rw [named] at zero
        exact mine (eq_of_beq zero)
      rw [idle] at served
      cases served
  have ticked : step settings state (.tick (clock + 900000000)) =
      some { state with clock := clock + 900000000 } := by
    rw [step, if_pos]
    rw [now]
    decide
  have later : Machine.Runs (step settings) (KeepsDenied subject) state
      [.tick (clock + 900000000)] _ := .cons trivial ticked (.nil _)
  have late : state.clock + settings.accessTokenTtl ≤ clock + 900000000 := by
    rw [now]
    exact le_refl _
  refine ⟨state, executed, accepted, _, Machine.exec_cons ticked [], ?_⟩
  exact deactivation_takes_effect documented
    ⟨_, Machine.Runs.of_exec (fun _ _ _ => trivial) executed⟩ denied unserved later late
    (.inl ⟨0, adminUser, returned⟩)

end Sample

end ChTech.Auth
