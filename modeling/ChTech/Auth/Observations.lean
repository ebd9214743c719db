import ChTech.Auth.Transitions

/-!
# Observations of an execution

What the invariants see of an execution: the token it is about to store, the one it
has returned, the one it has exchanged, and the one it is logging out.  One lemma for
each says where an observation comes from.
-/

namespace ChTech.Auth

open Foundation RefreshTokenRepository

/-- A row after a step: the same token, and revoked if it was. -/
structure Follows (before after : RefreshToken) : Prop where
  id : after.id = before.id
  tokenHash : after.tokenHash = before.tokenHash
  userId : after.userId = before.userId
  revoked : before.revokedAt ≠ none → after.revokedAt ≠ none

theorem Follows.refl (row : RefreshToken) : Follows row row :=
  ⟨rfl, rfl, rfl, fun revoked => revoked⟩

theorem follows_withRevokedAt (id : UUID) {revokedAt : Option Instant} (row : RefreshToken)
    (set : revokedAt ≠ none) : Follows row (withRevokedAt id revokedAt row) where
  id := withRevokedAt_id id revokedAt row
  tokenHash := withRevokedAt_tokenHash id revokedAt row
  userId := withRevokedAt_userId id revokedAt row
  revoked := by
    intro revoked
    rw [withRevokedAt_revokedAt]
    split
    · exact set
    · exact revoked

variable [PyUnicode] [Collation] [Crypto]

namespace Proc

/-- The hash and the user of the token about to be stored. -/
def pending : Proc → Option (String × UUID)
  | .login _ (.issue (.create user rawToken _))
  | .refresh _ (.issue (.create user rawToken _)) => some (hashRefreshToken rawToken, user.id)
  | _ => none

/-- The hash and the user of the token returned. -/
def issued : Proc → Option (String × UUID)
  | .login _ (.issue (.returned user tokens))
  | .refresh _ (.issue (.returned user tokens)) =>
      some (hashRefreshToken tokens.refreshToken, user.id)
  | _ => none

/-- The user a refresh carries once it has revoked the presented token. -/
def carried : RefreshPc → Option UUID
  | .getById token => some token.userId
  | .issue (.generate user) | .issue (.create user _ _) | .issue (.returned user _) =>
      some user.id
  | .readClock | .revokeIfActive _ | .issue (.raised _) => none

/-- The hash of the presented token, and the user, of a refresh that has revoked it. -/
def exchanging : Proc → Option (String × UUID)
  | .refresh call pc =>
      (carried pc).map fun userId => (hashRefreshToken call.rawRefreshToken, userId)
  | _ => none

/-- The hash of the presented token, and the row, of a logout that has read it. -/
def closing : Proc → Option (String × UUID)
  | .logout call (.readClock token) | .logout call (.save token _) =>
      some (hashRefreshToken call.rawRefreshToken, token.id)
  | _ => none

/-- The hash of the presented token of a logout that has returned. -/
def closed : Proc → Option String
  | .logout call .returned => some (hashRefreshToken call.rawRefreshToken)
  | _ => none

end Proc

variable {settings : Settings} {state next : State} {label : Label}

omit [PyUnicode] [Crypto] in
theorem move_eq {pid other : Nat} {proc : Proc} :
    state.move pid proc other = if other = pid then proc else state.procs other := by
  simp only [State.move]
  by_cases same : other = pid
  · subst same
    simp
  · simp [same]

omit [PyUnicode] [Crypto] in
/-- An observation made after one execution moved was there before or is its own. -/
theorem observed_move {α : Type} {observe : Proc → Option α} {pid other : Nat} {proc : Proc}
    {value : α} (seen : observe (state.move pid proc other) = some value) :
    (other = pid ∧ observe proc = some value) ∨ observe (state.procs other) = some value := by
  rw [move_eq] at seen
  split at seen
  next same => exact .inl ⟨same, seen⟩
  next => exact .inr seen

omit [Crypto] in
theorem lookUpUser_cases {users : Users} {token : RefreshToken} :
    (∃ raised, lookUpUser users token = .raised raised) ∨
      ∃ user, lookUpUser users token = .generate user ∧ user.id = token.userId := by
  simp only [lookUpUser]
  split
  next raised _ => exact .inl ⟨raised, rfl⟩
  next => exact .inl ⟨_, rfl⟩
  next user found =>
    split
    · exact .inr ⟨user, rfl, UserRepository.getById_id found⟩
    · exact .inl ⟨_, rfl⟩

theorem verifyCredentials_cases {users : Users} {call : LoginCall} :
    (∃ raised, verifyCredentials users call = .issue (.raised raised)) ∨
      ∃ user, verifyCredentials users call = .readClock user := by
  simp only [verifyCredentials]
  split
  next raised _ => exact .inl ⟨raised, rfl⟩
  next => exact .inl ⟨_, rfl⟩
  next user _ =>
    split
    · exact .inr ⟨user, rfl⟩
    · exact .inl ⟨_, rfl⟩

omit [PyUnicode] [Collation] in
theorem checkOwner_cases {tokens : RefreshTokens} {call : LogoutCall} :
    (∃ raised, checkOwner tokens call = .raised raised) ∨
      ∃ token ∈ tokens.rows, token.tokenHash = hashRefreshToken call.rawRefreshToken ∧
        checkOwner tokens call = .readClock token := by
  simp only [checkOwner]
  split
  next => exact .inl ⟨_, rfl⟩
  next token found =>
    rcases getByTokenHash_eq_some found with ⟨member, hashed⟩
    split
    next => exact .inr ⟨token, member, hashed, rfl⟩
    next => exact .inl ⟨_, rfl⟩

section Local

variable {before after : Proc}

/-- A token is stored and returned by other steps. -/
theorem Local.pending_issued_eq (own : Local settings state before after) :
    after.pending = none ∧ after.issued = none := by
  cases own with
  | call request => cases request <;> exact ⟨rfl, rfl⟩
  | verifyCredentials call =>
      rcases @verifyCredentials_cases _ _ _ state.users call with ⟨raised, result⟩ | ⟨user, result⟩
      · rw [result]
        exact ⟨rfl, rfl⟩
      · rw [result]
        exact ⟨rfl, rfl⟩
  | getById call token =>
      rcases @lookUpUser_cases _ _ state.users token with ⟨raised, result⟩ | ⟨user, result, _⟩
      · rw [result]
        exact ⟨rfl, rfl⟩
      · rw [result]
        exact ⟨rfl, rfl⟩
  | _ => exact ⟨rfl, rfl⟩

theorem Local.closed_eq (own : Local settings state before after) : after.closed = none := by
  cases own with
  | call request => cases request <;> rfl
  | checkOwner call =>
      rcases @checkOwner_cases _ state.tokens call with ⟨raised, result⟩ | ⟨token, _, _, result⟩
      · rw [result]; rfl
      · rw [result]; rfl
  | _ => rfl

/-- A user lookup carries on with the user of the revoked token. -/
theorem Local.exchanging_eq (own : Local settings state before after) {value : String × UUID}
    (seen : after.exchanging = some value) : before.exchanging = some value := by
  cases own with
  | call request => cases request <;> cases seen
  | getById call token =>
      rcases @lookUpUser_cases _ _ state.users token with ⟨raised, result⟩ | ⟨user, result, same⟩
      · rw [result] at seen
        cases seen
      · rw [result] at seen
        cases seen
        rw [same]
        rfl
  | _ => cases seen

/-- A logout closes the row it has just read. -/
theorem Local.closing_eq (own : Local settings state before after) {value : String × UUID}
    (seen : after.closing = some value) :
    before.closing = some value ∨
      ∃ row ∈ state.tokens.rows, value = (row.tokenHash, row.id) := by
  cases own with
  | call request => cases request <;> cases seen
  | checkOwner call =>
      rcases @checkOwner_cases _ state.tokens call with
        ⟨raised, result⟩ | ⟨token, member, hashed, result⟩
      · rw [result] at seen
        cases seen
      · rw [result] at seen
        cases seen
        exact .inr ⟨token, member, by rw [hashed]⟩
  | logoutClock call token => exact .inl seen
  | _ => cases seen

end Local

/-! ## Steps -/

/-- Both states agree on every other execution. -/
def OnlyMoves (state next : State) (pid : Nat) : Prop :=
  ∀ other, other ≠ pid → next.procs other = state.procs other

omit [PyUnicode] [Crypto] in
theorem onlyMoves_move {pid : Nat} {proc : Proc} (moved : next.procs = state.move pid proc) :
    OnlyMoves state next pid := by
  intro other different
  rw [moved, move_eq, if_neg different]

namespace Transition

/-- A step moves no execution but its own. -/
theorem frame (transition : Transition settings state label next) {pid : Nat}
    (other : label.pid ≠ some pid) : next.procs pid = state.procs pid := by
  have apart : ∀ {mover : Nat} {proc : Proc}, label.pid = some mover →
      state.move mover proc pid = state.procs pid := by
    intro mover proc moves
    rw [move_eq, if_neg]
    intro same
    subst same
    exact other moves
  cases transition with
  | tick | users => rfl
  | moved label mover proc users mine own => exact apart mine
  | generatedLogin | generatedRefresh | createdLogin | createdRefresh | revoked | saved | deleted =>
      exact apart rfl

theorem hashes (transition : Transition settings state label next) {hash : String}
    (generated : hash ∈ state.hashes) : hash ∈ next.hashes := by
  cases transition with
  | generatedLogin | generatedRefresh => exact List.mem_cons_of_mem _ generated
  | _ => exact generated

/-- A row was there before, or an execution has just stored it. -/
theorem rows (transition : Transition settings state label next) {row : RefreshToken}
    (member : row ∈ next.tokens.rows) :
    (∃ stored ∈ state.tokens.rows, Follows stored row) ∨
      ∃ pid, (state.procs pid).pending = some (row.tokenHash, row.userId) ∧
        (next.procs pid).pending = none := by
  have kept : row ∈ state.tokens.rows → ∃ stored ∈ state.tokens.rows, Follows stored row :=
    fun stored => ⟨row, stored, .refl row⟩
  cases transition with
  | createdLogin pid id call user rawToken now tokens present stored =>
      rw [create_eq_ok stored] at member
      rcases List.mem_append.mp member with old | new
      · exact .inl (kept old)
      · rw [List.mem_singleton.mp new]
        refine .inr ⟨pid, ?_, ?_⟩
        · rw [present]
          rfl
        · simp [move_eq, Proc.pending]
  | createdRefresh pid id call user rawToken now tokens present stored =>
      rw [create_eq_ok stored] at member
      rcases List.mem_append.mp member with old | new
      · exact .inl (kept old)
      · rw [List.mem_singleton.mp new]
        refine .inr ⟨pid, ?_, ?_⟩
        · rw [present]
          rfl
        · simp [move_eq, Proc.pending]
  | revoked pid call now before =>
      rcases mem_setRevokedAt.mp member with ⟨stored, storedMem, same⟩
      rw [← same]
      exact .inl ⟨stored, storedMem, follows_withRevokedAt _ stored (by simp)⟩
  | saved pid call token now =>
      rcases mem_setRevokedAt.mp member with ⟨stored, storedMem, same⟩
      rw [← same]
      exact .inl ⟨stored, storedMem, follows_withRevokedAt _ stored
        (token.revokedAt_revoke_ne_none now)⟩
  | deleted pid ids => exact .inl (kept (mem_deleteByIds.mp member).1)
  | _ => exact .inl (kept member)

/-- A token about to be stored has just been generated or was already about to be. -/
theorem pending (transition : Transition settings state label next) {pid : Nat} {hash : String}
    {userId : UUID} (seen : (next.procs pid).pending = some (hash, userId)) :
    (state.procs pid).pending = some (hash, userId) ∨
      ∃ rawToken, label = .generate pid rawToken ∧ hash = hashRefreshToken rawToken ∧
        hash ∈ next.hashes ∧ next.tokens = state.tokens ∧ OnlyMoves state next pid := by
  cases transition with
  | tick | users => exact .inl seen
  | moved label mover proc users _ own =>
      rcases observed_move seen with ⟨_, mine⟩ | kept
      · rw [own.pending_issued_eq.1] at mine
        cases mine
      · exact .inl kept
  | generatedLogin mover rawToken call user present =>
      rcases observed_move seen with ⟨rfl, mine⟩ | kept
      · cases mine
        exact .inr ⟨rawToken, rfl, rfl, List.mem_cons_self, rfl, onlyMoves_move rfl⟩
      · exact .inl kept
  | generatedRefresh mover rawToken call user present =>
      rcases observed_move seen with ⟨rfl, mine⟩ | kept
      · cases mine
        exact .inr ⟨rawToken, rfl, rfl, List.mem_cons_self, rfl, onlyMoves_move rfl⟩
      · exact .inl kept
  | createdLogin | createdRefresh | revoked | saved | deleted =>
      rcases observed_move seen with ⟨_, mine⟩ | kept
      · cases mine
      · exact .inl kept

/-- A token is returned by the execution that was about to store it. -/
theorem issued (transition : Transition settings state label next) {pid : Nat}
    {value : String × UUID} (seen : (next.procs pid).issued = some value) :
    (state.procs pid).issued = some value ∨
      (state.procs pid).pending = some value ∧ (next.procs pid).pending = none := by
  cases transition with
  | tick | users => exact .inl seen
  | moved label mover proc users _ own =>
      rcases observed_move seen with ⟨_, mine⟩ | kept
      · rw [own.pending_issued_eq.2] at mine
        cases mine
      · exact .inl kept
  | createdLogin mover id call user rawToken now tokens present =>
      rcases observed_move seen with ⟨rfl, mine⟩ | kept
      · cases mine
        refine .inr ⟨?_, ?_⟩
        · rw [present]
          rfl
        · simp [move_eq, Proc.pending]
      · exact .inl kept
  | createdRefresh mover id call user rawToken now tokens present =>
      rcases observed_move seen with ⟨rfl, mine⟩ | kept
      · cases mine
        refine .inr ⟨?_, ?_⟩
        · rw [present]
          rfl
        · simp [move_eq, Proc.pending]
      · exact .inl kept
  | generatedLogin | generatedRefresh | revoked | saved | deleted =>
      rcases observed_move seen with ⟨_, mine⟩ | kept
      · cases mine
      · exact .inl kept

/-- A refresh gets past its revocation by revoking an unrevoked row. -/
theorem exchanging (transition : Transition settings state label next) {pid : Nat}
    {hash : String} {userId : UUID}
    (seen : (next.procs pid).exchanging = some (hash, userId)) :
    (state.procs pid).exchanging = some (hash, userId) ∨
      ∃ row ∈ state.tokens.rows, ∃ now, row.tokenHash = hash ∧ row.userId = userId ∧
        row.revokedAt = none ∧ next.tokens = setRevokedAt state.tokens row.id (some now) ∧
        OnlyMoves state next pid := by
  cases transition with
  | tick | users => exact .inl seen
  | moved label mover proc users _ own =>
      rcases observed_move seen with ⟨rfl, mine⟩ | kept
      · exact .inl (own.exchanging_eq mine)
      · exact .inl kept
  | generatedRefresh mover rawToken call user present =>
      rcases observed_move seen with ⟨rfl, mine⟩ | kept
      · rw [present]
        exact .inl mine
      · exact .inl kept
  | createdRefresh mover id call user rawToken now tokens present =>
      rcases observed_move seen with ⟨rfl, mine⟩ | kept
      · rw [present]
        exact .inl mine
      · exact .inl kept
  | revoked mover call now row present member selected =>
      rcases observed_move seen with ⟨rfl, mine⟩ | kept
      · rcases selectsActive_iff.mp selected with ⟨hashed, unrevoked, _⟩
        cases mine
        exact .inr ⟨row, member, now, hashed, rfl, unrevoked, rfl, onlyMoves_move rfl⟩
      · exact .inl kept
  | generatedLogin | createdLogin | saved | deleted =>
      rcases observed_move seen with ⟨_, mine⟩ | kept
      · cases mine
      · exact .inl kept

/-- A logout closes a row it has read. -/
theorem closing (transition : Transition settings state label next) {pid : Nat}
    {hash : String} {id : UUID} (seen : (next.procs pid).closing = some (hash, id)) :
    (state.procs pid).closing = some (hash, id) ∨
      ∃ row ∈ next.tokens.rows, row.tokenHash = hash ∧ row.id = id := by
  cases transition with
  | tick | users => exact .inl seen
  | moved label mover proc users _ own =>
      rcases observed_move seen with ⟨rfl, mine⟩ | kept
      · rcases own.closing_eq mine with before | ⟨row, member, same⟩
        · exact .inl before
        · cases same
          exact .inr ⟨row, member, rfl, rfl⟩
      · exact .inl kept
  | generatedLogin | generatedRefresh | createdLogin | createdRefresh | revoked | saved | deleted =>
      rcases observed_move seen with ⟨_, mine⟩ | kept
      · cases mine
      · exact .inl kept

/-- A logout returns once it has saved a revoked copy of its row. -/
theorem closed (transition : Transition settings state label next) {pid : Nat}
    {hash : String} (seen : (next.procs pid).closed = some hash) :
    (state.procs pid).closed = some hash ∨
      ∃ id revokedAt, (state.procs pid).closing = some (hash, id) ∧ revokedAt ≠ none ∧
        next.tokens = setRevokedAt state.tokens id revokedAt := by
  cases transition with
  | tick | users => exact .inl seen
  | moved label mover proc users _ own =>
      rcases observed_move seen with ⟨_, mine⟩ | kept
      · rw [own.closed_eq] at mine
        cases mine
      · exact .inl kept
  | saved mover call token now present =>
      rcases observed_move seen with ⟨rfl, mine⟩ | kept
      · cases mine
        refine .inr ⟨token.id, _, ?_, token.revokedAt_revoke_ne_none now, rfl⟩
        rw [present]
        rfl
      · exact .inl kept
  | generatedLogin | generatedRefresh | createdLogin | createdRefresh | revoked | deleted =>
      rcases observed_move seen with ⟨_, mine⟩ | kept
      · cases mine
      · exact .inl kept

end Transition

/-- An execution that no label of a run moves stays where it is. -/
theorem runs_frame {allowed : State → Label → Prop} {labels : List Label} {last : State}
    (run : Machine.Runs (step settings) allowed state labels last) {pid : Nat}
    (others : ∀ label ∈ labels, label.pid ≠ some pid) : last.procs pid = state.procs pid := by
  induction run with
  | nil => rfl
  | cons _ stepped _ ih =>
      rw [ih fun label member => others label (List.mem_cons_of_mem _ member)]
      exact (step_transition stepped).frame (others _ List.mem_cons_self)

end ChTech.Auth
