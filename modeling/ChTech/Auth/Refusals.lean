import Mathlib.Algebra.Group.Nat.Defs
import ChTech.Auth.Adapters
import ChTech.Auth.Credentials
import ChTech.Auth.Revocation

/-!
# What the executions raise

Whatever is interleaved, an execution raises `UnauthorizedError` and nothing else, as long as the
accounts stay stored and readable, the generated values are new, the clients fit their columns
and no row is purged between the two transactions of a logout.
-/

namespace ChTech

/-- Whether a row can be read is a matter of its address and its role. -/
theorem UserModel.isOk_toEntity [Foundation.PyUnicode] {first second : UserModel}
    (email : first.email = second.email) (role : first.role = second.role) :
    first.toEntity.isOk = second.toEntity.isOk := by
  rw [UserModel.toEntity, UserModel.toEntity, email, role]
  cases Email.postInit second.email with
  | error raised => rfl
  | ok value => cases UserRole.ofValue second.role <;> rfl

end ChTech

namespace ChTech.Auth

open Foundation RefreshTokenRepository

/-- The use case and its arguments. -/
def Proc.request : Proc → Option Request
  | .idle => none
  | .login call _ => some (.login call)
  | .refresh call _ => some (.refresh call)
  | .logout call _ => some (.logout call)
  | .purge _ => some .purge

theorem Request.request_start (request : Request) : request.start.request = some request := by
  cases request <;> rfl

section

variable [PyUnicode] [Collation] [Crypto] {settings : Settings} {state next : State}
  {label : Label} {pid : Nat}

/-- Only a call moves an execution that has not begun. -/
theorem call_of_idle (stepped : step settings state label = some next)
    (mine : label.pid = some pid) (idle : state.procs pid = .idle) :
    ∃ request, label = .call pid request := by
  cases label with
  | tick | users => cases mine
  | call other request =>
      cases mine
      exact ⟨request, rfl⟩
  | advance other =>
      cases mine
      simp only [step, idle] at stepped
      cases stepped
  | generate other rawToken =>
      cases mine
      simp only [step, State.generate, State.issuing, idle] at stepped
      cases stepped
  | create other id =>
      cases mine
      simp only [step, State.create, State.issuing, idle] at stepped
      cases stepped
  | purge other =>
      cases mine
      simp only [step, idle] at stepped
      cases stepped

theorem Local.request_eq {before after : Proc} (own : Local settings state before after)
    (begun : before ≠ .idle) : after.request = before.request := by
  cases own with
  | call request => exact absurd rfl begun
  | _ => rfl

/-- An execution keeps what it was called with. -/
theorem request_of_step (stepped : step settings state label = some next) {request : Request}
    (called : (next.procs pid).request = some request) :
    (state.procs pid).request = some request ∨ label = .call pid request := by
  by_cases calls : ∃ other made, label = .call other made
  · rcases calls with ⟨other, made, same⟩
    subst same
    simp only [step] at stepped
    split at stepped
    next =>
      cases stepped
      rcases observed_move called with ⟨same, mine⟩ | kept
      · rw [Request.request_start] at mine
        cases mine
        exact .inr (same ▸ rfl)
      · exact .inl kept
    next => cases stepped
  · left
    cases step_transition stepped with
    | tick | users => exact called
    | moved _ mover proc users moves own =>
        rcases observed_move called with ⟨rfl, mine⟩ | kept
        · have begun : state.procs pid ≠ .idle := by
            intro idle
            rcases call_of_idle stepped moves idle with ⟨made, same⟩
            exact calls ⟨pid, made, same⟩
          rw [← own.request_eq begun]
          exact mine
        · exact kept
    | generatedLogin mover rawToken call user present
    | generatedRefresh mover rawToken call user present
    | createdLogin mover id call user rawToken now tokens present
    | createdRefresh mover id call user rawToken now tokens present
    | revoked mover call now row present
    | saved mover call token now present | deleted mover ids present =>
        rcases observed_move called with ⟨rfl, mine⟩ | kept
        · rw [present]
          exact mine
        · exact kept

end

/-- The exception that an execution has ended with. -/
def Proc.raises : Proc → Option Raised
  | .login _ (.issue (.raised raised)) | .refresh _ (.issue (.raised raised))
  | .logout _ (.raised raised) => some raised
  | _ => none

/-- `UnauthorizedError`. -/
def Unauthorized (raised : Raised) : Prop :=
  ∃ message, raised = .app (.unauthorizedError message)

/-- What the client sent fits the columns of a token. -/
def Request.fits : Request → Bool
  | .login call => call.client.fits
  | .refresh call => call.client.fits
  | .logout _ | .purge => true

section

variable [PyUnicode] [Collation] [Crypto]

/-- Every account can be read, and its key is one of 128 bits. -/
def Accounts (users : Users) : Prop :=
  ∀ model ∈ users.rows, model.toEntity.isOk = true ∧ model.id < 2 ^ 128

/-- What the environment keeps to: accounts stay stored and readable, the client's fields fit,
what is generated is new, and no row that a logout has read is purged before it is saved. -/
def Steady (state : State) : Label → Prop
  | .users users => Accounts users ∧
      ∀ id ∈ state.users.rows.map UserModel.id, id ∈ users.rows.map UserModel.id
  | .call _ request => request.fits = true
  | .generate _ rawToken => hashRefreshToken rawToken ∉ state.hashes
  | .create _ id => id ∉ state.ids
  | .purge pid => ∀ ids, state.procs pid = .purge (.delete ids) →
      ∀ other token, (state.procs other).copy = some token → token.id ∉ ids
  | .tick _ | .advance _ => True

/-- What the executions still need is there. -/
structure Ready (state : State) : Prop where
  accounts : Accounts state.users
  rotation : Rotation state
  rowIds : ∀ row ∈ state.tokens.rows, row.id ∈ state.ids
  fits : ∀ pid request, (state.procs pid).request = some request → request.fits = true
  served : ∀ pid user, (state.procs pid).serving = some user →
    user.id ∈ state.users.rows.map UserModel.id
  granted : ∀ pid user token, (state.procs pid).granted = some (user, token) → user.id < 2 ^ 128
  owners : ∀ row ∈ state.tokens.rows, row.userId ∈ state.users.rows.map UserModel.id
  copied : ∀ pid token, (state.procs pid).copy = some token →
    token.id ∈ state.tokens.rows.map RefreshToken.id
  raised : ∀ pid raised, (state.procs pid).raises = some raised → Unauthorized raised

variable {settings : Settings} {state next : State} {label : Label} {pid : Nat}

/-! ## The transactions -/

omit [Crypto] in
theorem getByEmail_of_accounts {users : Users} (accounts : Accounts users) (email : String) :
    ∃ found, UserRepository.getByEmail users email = .ok found := by
  simp only [UserRepository.getByEmail]
  split
  next => exact ⟨none, rfl⟩
  next model present =>
    rcases Result.isOk_iff.mp (accounts model (Table.mem_of_find? present).1).1 with ⟨user, built⟩
    exact ⟨some user, by rw [built]; rfl⟩

omit [Crypto] in
theorem getById_of_accounts {users : Users} (accounts : Accounts users) (userId : UUID) :
    ∃ found, UserRepository.getById users userId = .ok found := by
  simp only [UserRepository.getById]
  split
  next => exact ⟨none, rfl⟩
  next model present =>
    rcases Result.isOk_iff.mp (accounts model (Table.mem_of_find? present).1).1 with ⟨user, built⟩
    exact ⟨some user, by rw [built]; rfl⟩

theorem verifyCredentials_raises {users : Users} (accounts : Accounts users) {call : LoginCall}
    {raised : Raised}
    (seen : (Proc.login call (verifyCredentials users call)).raises = some raised) :
    Unauthorized raised := by
  rcases getByEmail_of_accounts accounts (PyUnicode.lower (PyString.strip call.email)) with
    ⟨found, read⟩
  rw [verifyCredentials, read] at seen
  cases found with
  | none =>
      cases seen
      exact ⟨_, rfl⟩
  | some user =>
      simp only at seen
      split at seen
      next => cases seen
      next =>
        cases seen
        exact ⟨_, rfl⟩

omit [Crypto] in
theorem lookUpUser_raises {users : Users} (accounts : Accounts users) {call : RefreshCall}
    {token : RefreshToken} {raised : Raised}
    (seen : (Proc.refresh call (.issue (lookUpUser users token))).raises = some raised) :
    Unauthorized raised := by
  rcases getById_of_accounts accounts token.userId with ⟨found, read⟩
  rw [lookUpUser, read] at seen
  cases found with
  | none =>
      cases seen
      exact ⟨_, rfl⟩
  | some user =>
      simp only at seen
      split at seen
      next => cases seen
      next =>
        cases seen
        exact ⟨_, rfl⟩

omit [PyUnicode] [Collation] in
theorem checkOwner_raises {tokens : RefreshTokens} {call : LogoutCall} {raised : Raised}
    (seen : (Proc.logout call (checkOwner tokens call)).raises = some raised) :
    Unauthorized raised := by
  simp only [checkOwner] at seen
  split at seen
  next =>
    cases seen
    exact ⟨_, rfl⟩
  next =>
    split at seen
    next => cases seen
    next =>
      cases seen
      exact ⟨_, rfl⟩

omit [PyUnicode] [Crypto] in
theorem find_user {users : Users} {userId : UUID}
    (known : userId ∈ users.rows.map UserModel.id) :
    ∃ model, users.find? (fun model => model.id == userId) = some model := by
  cases found : users.find? fun model => model.id == userId with
  | some model => exact ⟨model, rfl⟩
  | none =>
      rcases List.mem_map.mp known with ⟨model, stored, same⟩
      have absent := Table.find?_eq_none.mp found model stored
      rw [beq_iff_eq.mpr same] at absent
      cases absent

omit [PyUnicode] [Crypto] in
theorem recordLogin_of_known {users : Users} {userId : UUID} {instant now : Instant}
    (known : userId ∈ users.rows.map UserModel.id) :
    ∃ users', UserRepository.recordLogin users userId instant now = .ok users' := by
  rcases find_user known with ⟨model, found⟩
  rw [UserRepository.recordLogin, found]
  exact ⟨_, rfl⟩

omit [PyUnicode] [Collation] [Crypto] in
theorem save_of_known {tokens : RefreshTokens} {token : RefreshToken}
    (known : token.id ∈ tokens.rows.map RefreshToken.id) :
    ∃ tokens', RefreshTokenRepository.save tokens token = .ok tokens' := by
  rw [RefreshTokenRepository.save]
  cases found : tokens.find? fun row => row.id == token.id with
  | some row => exact ⟨_, rfl⟩
  | none =>
      rcases List.mem_map.mp known with ⟨row, stored, same⟩
      have absent := Table.find?_eq_none.mp found row stored
      rw [beq_iff_eq.mpr same] at absent
      cases absent

omit [PyUnicode] [Crypto] in
/-- A row that fits and names a stored user is not refused. -/
theorem refusal_of_known {users : Users} {row : RefreshToken} {model : UserModel}
    (fitting : RefreshTokenRepository.fits row = true)
    (found : users.find? (fun model => model.id == row.userId) = some model) :
    refusal users row = none := by
  rw [refusal, if_pos fitting, found]

/-- The row of a new token is stored. -/
theorem create_of_ready (ready : Ready state) {id : UUID} (fresh : id ∉ state.ids)
    {client : Client} {user : User} {rawToken : String} {now : Instant}
    (pending : (state.procs pid).pending = some (hashRefreshToken rawToken, user.id))
    (serves : (state.procs pid).serving = some user) (small : client.fits = true) :
    ∃ tokens, RefreshTokenRepository.create state.users state.tokens
      (newToken settings client user rawToken now id) = .ok tokens := by
  have free : ∀ stored ∈ state.tokens.rows,
      stored.clash (newToken settings client user rawToken now id) = false := by
    intro stored member
    rw [RefreshToken.clash, Bool.or_eq_false_iff, beq_eq_false_iff_ne, beq_eq_false_iff_ne]
    refine ⟨?_, ready.rotation.absent pending stored member⟩
    intro (same : stored.id = id)
    exact fresh (same ▸ ready.rowIds stored member)
  rcases create_of_free state.users free with ⟨tokens, _, created⟩
  have fitting : RefreshTokenRepository.fits (newToken settings client user rawToken now id) =
      true := small
  rcases find_user (ready.served pid user serves) with ⟨model, found⟩
  rw [refusal_of_known fitting found] at created
  exact ⟨tokens, created⟩

omit [PyUnicode] [Crypto] in
/-- An execution was there before the step, or it is the one that the step has moved. -/
theorem Proc.raises_of_move {mover : Nat} {proc : Proc} {raised : Raised}
    (seen : (state.move mover proc pid).raises = some raised)
    (mine : pid = mover → proc.raises = some raised → Unauthorized raised) :
    (state.procs pid).raises = some raised ∨ Unauthorized raised := by
  rcases observed_move seen with ⟨same, own⟩ | kept
  · exact .inr (mine same own)
  · exact .inl kept

omit [PyUnicode] [Crypto] in
theorem Proc.raises_of_silent {mover : Nat} {proc : Proc} {raised : Raised}
    (silent : proc.raises = none) (seen : (state.move mover proc pid).raises = some raised) :
    (state.procs pid).raises = some raised ∨ Unauthorized raised := by
  refine Proc.raises_of_move seen ?_
  intro _ own
  rw [silent] at own
  cases own

theorem advanceLogin_raises (ready : Ready state) {mover : Nat} {call : LoginCall} {pc : LoginPc}
    (present : state.procs mover = .login call pc)
    (stepped : state.advanceLogin mover call pc = some next) {raised : Raised}
    (seen : (next.procs pid).raises = some raised) :
    (state.procs pid).raises = some raised ∨ Unauthorized raised := by
  cases pc with
  | getByEmail =>
      cases stepped
      exact Proc.raises_of_move seen fun _ own => verifyCredentials_raises ready.accounts own
  | readClock user =>
      cases stepped
      exact Proc.raises_of_silent rfl seen
  | recordLogin user now =>
      have known := ready.served mover user (by rw [present]; rfl)
      rcases @recordLogin_of_known _ state.users user.id now state.clock known with
        ⟨users, recorded⟩
      rw [State.advanceLogin, recorded] at stepped
      cases stepped
      exact Proc.raises_of_silent rfl seen
  | issue pc => cases stepped

theorem advanceRefresh_raises (ready : Ready state) {mover : Nat} {call : RefreshCall}
    {pc : RefreshPc} (stepped : state.advanceRefresh mover call pc = some next) {raised : Raised}
    (seen : (next.procs pid).raises = some raised) :
    (state.procs pid).raises = some raised ∨ Unauthorized raised := by
  cases pc with
  | readClock =>
      cases stepped
      exact Proc.raises_of_silent rfl seen
  | revokeIfActive now =>
      simp only [State.advanceRefresh] at stepped
      split at stepped
      next =>
        cases stepped
        refine Proc.raises_of_move seen ?_
        intro _ own
        cases own
        exact ⟨_, rfl⟩
      next =>
        cases stepped
        exact Proc.raises_of_silent rfl seen
  | getById token =>
      cases stepped
      exact Proc.raises_of_move seen fun _ own => lookUpUser_raises ready.accounts own
  | issue pc => cases stepped

theorem advanceLogout_raises (ready : Ready state) {mover : Nat} {call : LogoutCall}
    {pc : LogoutPc} (present : state.procs mover = .logout call pc)
    (stepped : state.advanceLogout mover call pc = some next) {raised : Raised}
    (seen : (next.procs pid).raises = some raised) :
    (state.procs pid).raises = some raised ∨ Unauthorized raised := by
  cases pc with
  | getByTokenHash =>
      cases stepped
      exact Proc.raises_of_move seen fun _ own => checkOwner_raises own
  | readClock token =>
      cases stepped
      exact Proc.raises_of_silent rfl seen
  | save token now =>
      have known := ready.copied mover token (by rw [present]; rfl)
      rw [← RefreshToken.revoke_id token now] at known
      rcases save_of_known known with ⟨tokens, saved⟩
      rw [State.advanceLogout, saved] at stepped
      cases stepped
      exact Proc.raises_of_silent rfl seen
  | returned => cases stepped
  | raised error => cases stepped

omit [PyUnicode] in
theorem generate_raises {mover : Nat} {rawToken : String}
    (stepped : state.generate mover rawToken = some next) {raised : Raised}
    (seen : (next.procs pid).raises = some raised) :
    (state.procs pid).raises = some raised ∨ Unauthorized raised := by
  simp only [State.generate] at stepped
  split at stepped
  next client user resume issuing =>
    cases stepped
    refine Proc.raises_of_move seen ?_
    intro _ own
    rcases issuing_cases issuing with ⟨call, _, _, same⟩ | ⟨call, _, _, same⟩
    · subst same
      cases own
    · subst same
      cases own
  next => cases stepped

theorem create_raises (ready : Ready state) {mover : Nat} {id : UUID} (fresh : id ∉ state.ids)
    (stepped : state.create settings mover id = some next) {raised : Raised}
    (seen : (next.procs pid).raises = some raised) :
    (state.procs pid).raises = some raised ∨ Unauthorized raised := by
  simp only [State.create] at stepped
  split at stepped
  next client user rawToken now resume issuing =>
    have facts : (state.procs mover).pending = some (hashRefreshToken rawToken, user.id) ∧
        (state.procs mover).serving = some user ∧ client.fits = true ∧
        ∀ tokens raised, (resume (.returned user tokens)).raises ≠ some raised := by
      rcases issuing_cases issuing with ⟨call, present, sent, same⟩ | ⟨call, present, sent, same⟩
      · refine ⟨by rw [present]; rfl, by rw [present]; rfl, ?_, ?_⟩
        · rw [sent]
          exact ready.fits mover (.login call) (by rw [present]; rfl)
        · intro tokens raised own
          rw [same] at own
          cases own
      · refine ⟨by rw [present]; rfl, by rw [present]; rfl, ?_, ?_⟩
        · rw [sent]
          exact ready.fits mover (.refresh call) (by rw [present]; rfl)
        · intro tokens raised own
          rw [same] at own
          cases own
    have stored : ∃ tokens, RefreshTokenRepository.create state.users state.tokens
        (newToken settings client user rawToken now id) = .ok tokens :=
      create_of_ready ready fresh facts.1 facts.2.1 facts.2.2.1
    rcases stored with ⟨tokens, created⟩
    rw [created] at stepped
    cases stepped
    refine Proc.raises_of_move seen ?_
    intro _ own
    exact absurd own (facts.2.2.2 _ _)
  next => cases stepped

omit [PyUnicode] [Crypto] in
theorem advancePurge_raises {mover : Nat} {pc : PurgePc}
    (stepped : state.advancePurge settings mover pc = some next) {raised : Raised}
    (seen : (next.procs pid).raises = some raised) :
    (state.procs pid).raises = some raised ∨ Unauthorized raised := by
  cases pc with
  | select cutoff =>
      simp only [State.advancePurge] at stepped
      split at stepped
      next =>
        cases stepped
        exact Proc.raises_of_silent rfl seen
      next =>
        cases stepped
        exact Proc.raises_of_silent rfl seen
  | returned count => cases stepped
  | readClock | delete ids =>
      cases stepped
      exact Proc.raises_of_silent rfl seen

/-- What is raised was raised before, or it is `UnauthorizedError`. -/
theorem raises_of_step (ready : Ready state) (steady : Steady state label)
    (stepped : step settings state label = some next) {raised : Raised}
    (seen : (next.procs pid).raises = some raised) :
    (state.procs pid).raises = some raised ∨ Unauthorized raised := by
  cases label with
  | tick clock =>
      simp only [step] at stepped
      split at stepped
      next =>
        cases stepped
        exact .inl seen
      next => cases stepped
  | users users =>
      cases stepped
      exact .inl seen
  | call mover request =>
      simp only [step] at stepped
      split at stepped
      next =>
        cases stepped
        refine Proc.raises_of_move seen ?_
        intro _ own
        cases request <;> cases own
      next => cases stepped
  | advance mover =>
      simp only [step] at stepped
      split at stepped
      next call pc present => exact advanceLogin_raises ready present stepped seen
      next call pc present => exact advanceRefresh_raises ready stepped seen
      next call pc present => exact advanceLogout_raises ready present stepped seen
      next => cases stepped
      next => cases stepped
  | generate mover rawToken => exact generate_raises stepped seen
  | create mover id => exact create_raises ready steady stepped seen
  | purge mover =>
      simp only [step] at stepped
      split at stepped
      next pc present => exact advancePurge_raises stepped seen
      next => cases stepped

/-! ## Every run -/

omit [Crypto] in
theorem Accounts.recordLogin {users users' : Users} {userId : UUID} {instant now : Instant}
    (accounts : Accounts users)
    (recorded : UserRepository.recordLogin users userId instant now = .ok users') :
    Accounts users' := by
  simp only [UserRepository.recordLogin] at recorded
  split at recorded
  next => cases recorded
  next =>
    cases recorded
    intro model member
    rcases Table.mem_modify.mp member with ⟨before, stored, same⟩
    rw [← same, UserRepository.recordedLogin]
    split
    next =>
      have kept : ({ before with lastLogin := some instant, updatedAt := now } :
          UserModel).toEntity.isOk = before.toEntity.isOk :=
        UserModel.isOk_toEntity rfl rfl
      rw [kept]
      exact accounts before stored
    next => exact accounts before stored

omit [Crypto] in
theorem Accounts.small {users : Users} (accounts : Accounts users) {id : UUID}
    (known : id ∈ users.rows.map UserModel.id) : id < 2 ^ 128 := by
  rcases List.mem_map.mp known with ⟨model, stored, same⟩
  exact same ▸ (accounts model stored).2

omit [PyUnicode] [Crypto] in
/-- A recorded login keeps every key. -/
theorem recordLogin_ids {users users' : Users} {userId : UUID} {instant now : Instant}
    (recorded : UserRepository.recordLogin users userId instant now = .ok users') :
    users'.rows.map UserModel.id = users.rows.map UserModel.id := by
  simp only [UserRepository.recordLogin] at recorded
  split at recorded
  next => cases recorded
  next =>
    cases recorded
    change (users.rows.map _).map UserModel.id = _
    rw [List.map_map]
    refine List.map_congr_left ?_
    intro model _
    rw [Function.comp_apply, UserRepository.recordedLogin]
    split <;> rfl

theorem users_of_step (steady : Steady state label)
    (stepped : step settings state label = some next) :
    (Accounts state.users → Accounts next.users) ∧
      ∀ id ∈ state.users.rows.map UserModel.id, id ∈ next.users.rows.map UserModel.id := by
  rcases step_users stepped with same | outside | ⟨userId, instant, now, recorded⟩
  · rw [same]
    exact ⟨fun accounts => accounts, fun _ known => known⟩
  · rw [outside] at steady
    exact ⟨fun _ => steady.1, steady.2⟩
  · refine ⟨fun accounts => accounts.recordLogin recorded, ?_⟩
    intro id known
    rw [recordLogin_ids recorded]
    exact known

/-- A stored row keeps its key, or it is purged. -/
theorem rowIds_of_step (steady : Steady state label)
    (transition : Transition settings state label next) {id : UUID}
    (stored : id ∈ state.tokens.rows.map RefreshToken.id)
    (copied : ∃ other token, (state.procs other).copy = some token ∧ token.id = id) :
    id ∈ next.tokens.rows.map RefreshToken.id := by
  have set : ∀ (tokens : RefreshTokens) other revokedAt,
      id ∈ tokens.rows.map RefreshToken.id →
        id ∈ (setRevokedAt tokens other revokedAt).rows.map RefreshToken.id := by
    intro tokens other revokedAt known
    rcases List.mem_map.mp known with ⟨row, member, same⟩
    refine List.mem_map.mpr ⟨withRevokedAt other revokedAt row,
      mem_setRevokedAt.mpr ⟨row, member, rfl⟩, ?_⟩
    rw [withRevokedAt_id]
    exact same
  cases transition with
  | createdLogin _ _ _ _ _ _ tokens _ created | createdRefresh _ _ _ _ _ _ tokens _ created =>
      rw [create_eq_ok created, List.map_append]
      exact List.mem_append_left _ stored
  | revoked | saved => exact set _ _ _ stored
  | deleted mover ids present =>
      rcases copied with ⟨other, token, copy, same⟩
      rcases List.mem_map.mp stored with ⟨row, member, named⟩
      refine List.mem_map.mpr ⟨row, mem_deleteByIds.mpr ⟨member, ?_⟩, named⟩
      rw [named, ← same]
      exact steady ids present other token copy
  | _ => exact stored

theorem Ready.step (ready : Ready state) (steady : Steady state label)
    (stepped : step settings state label = some next) : Ready next where
  accounts := (users_of_step steady stepped).1 ready.accounts
  rotation := by
    refine step_rotation ready.rotation ?_ (step_transition stepped)
    cases label with
    | generate mover rawToken => exact steady
    | _ => trivial
  rowIds := by
    intro row member
    have transition := step_transition stepped
    cases transition with
    | createdLogin mover id call user rawToken now tokens _ created
    | createdRefresh mover id call user rawToken now tokens _ created =>
        rw [create_eq_ok created] at member
        rcases List.mem_append.mp member with old | new
        · exact List.mem_cons_of_mem _ (ready.rowIds row old)
        · rw [List.mem_singleton.mp new]
          exact List.mem_cons_self
    | revoked | saved =>
        rcases mem_setRevokedAt.mp member with ⟨stored, storedMem, same⟩
        rw [← same, withRevokedAt_id]
        exact ready.rowIds stored storedMem
    | deleted => exact ready.rowIds row (mem_deleteByIds.mp member).1
    | _ => exact ready.rowIds row member
  fits := by
    intro pid request called
    rcases request_of_step stepped called with before | made
    · exact ready.fits pid request before
    · subst made
      exact steady
  served := by
    intro pid user served
    refine (users_of_step steady stepped).2 _ ?_
    rcases (step_transition stepped).serving served with before | ⟨_, model, stored, built⟩
    · exact ready.served pid user before
    · rw [UserModel.toEntity_id built]
      exact List.mem_map_of_mem stored
  granted := by
    intro pid user token holds
    rcases (step_transition stepped).granted holds with before | ⟨served, _⟩
    · exact ready.granted pid user token before
    · exact ready.accounts.small (ready.served pid user served)
  owners := by
    intro row member
    refine (users_of_step steady stepped).2 _ ?_
    cases step_transition stepped with
    | createdLogin mover id call user rawToken now tokens present created
    | createdRefresh mover id call user rawToken now tokens present created =>
        rw [create_eq_ok created] at member
        rcases List.mem_append.mp member with old | new
        · exact ready.owners row old
        · rw [List.mem_singleton.mp new]
          exact ready.served mover user (by rw [present]; rfl)
    | revoked | saved =>
        rcases mem_setRevokedAt.mp member with ⟨stored, storedMem, same⟩
        rw [← same, withRevokedAt_userId]
        exact ready.owners stored storedMem
    | deleted => exact ready.owners row (mem_deleteByIds.mp member).1
    | _ => exact ready.owners row member
  copied := by
    intro pid token copy
    rcases (step_transition stepped).copy copy with before | ⟨member, same⟩
    · exact rowIds_of_step steady (step_transition stepped) (ready.copied pid token before)
        ⟨pid, token, before, rfl⟩
    · rw [same]
      exact List.mem_map_of_mem member
  raised := by
    intro pid raised seen
    rcases raises_of_step ready steady stepped seen with before | unauthorized
    · exact ready.raised pid raised before
    · exact unauthorized

theorem ready_init {clock : Instant} {users : Users} {tokens : RefreshTokens}
    (accounts : Accounts users)
    (owners : ∀ row ∈ tokens.rows, row.userId ∈ users.rows.map UserModel.id) :
    Ready (State.init clock users tokens) where
  accounts := accounts
  rotation := rotation_init clock users tokens
  rowIds := (copies_init clock users tokens).rowIds
  fits := by
    intro pid request called
    cases called
  served := by
    intro pid user served
    cases served
  granted := by
    intro pid user token holds
    cases holds
  owners := owners
  copied := by
    intro pid token copy
    cases copy
  raised := by
    intro pid raised seen
    cases seen

end

end ChTech.Auth
