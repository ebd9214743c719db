import ChTech.Auth.AccessTokens
import ChTech.Auth.Logout
import ChTech.Foundation.Earlier

/-!
# What tokens are given for

A login gives tokens to the active user whose password it was sent, a refresh to the user of the
refresh token that it has revoked.  That token was given out too, so every session goes back to
a login with the user's password, or to a row stored before the run.
-/

namespace ChTech.Auth

open Foundation RefreshTokenRepository

section

variable [PyUnicode] [Collation] [Crypto]

/-- The call and the user of a login that has compared the passwords. -/
def Proc.verified : Proc → Option (LoginCall × User)
  | .login call (.readClock user) | .login call (.recordLogin user _)
  | .login call (.issue (.generate user)) | .login call (.issue (.create user _ _))
  | .login call (.issue (.returned user _)) => some (call, user)
  | _ => none

/-- The address finds the row of the user, who is active and whose password it is. -/
def Verifies (call : LoginCall) (user : User) (state : State) : Prop :=
  ∃ model ∈ state.users.rows, model.toEntity = .ok user ∧
    Collation.equal model.email (PyUnicode.lower (PyString.strip call.email)) = true ∧
    user.isActive = true ∧ verifyPassword call.password user.passwordHash = true

/-- A login has returned tokens to the user. -/
def LoggedIn (state : State) (userId : UUID) : Prop :=
  ∃ pid call user tokens, state.procs pid = .login call (.issue (.returned user tokens)) ∧
    user.id = userId

variable {settings : Settings} {state next : State} {label : Label}

theorem verifyCredentials_verifies {call : LoginCall} {value : LoginCall × User}
    (seen : (Proc.login call (verifyCredentials state.users call)).verified = some value) :
    value.1 = call ∧ Verifies call value.2 state := by
  simp only [verifyCredentials] at seen
  split at seen
  next => cases seen
  next => cases seen
  next user found =>
    split at seen
    next both =>
      cases seen
      simp only [UserRepository.getByEmail] at found
      split at found
      next => cases found
      next model present =>
        rcases Result.map_eq_ok.mp found with ⟨entity, built, same⟩
        cases same
        rcases Table.mem_of_find? present with ⟨stored, equal⟩
        rcases Bool.and_eq_true_iff.mp both with ⟨active, password⟩
        exact ⟨rfl, model, stored, built, equal, active, password⟩
    next => cases seen

theorem Local.verified_eq {before after : Proc} (own : Local settings state before after)
    {value : LoginCall × User} (seen : after.verified = some value) :
    before.verified = some value ∨ Verifies value.1 value.2 state := by
  cases own with
  | call request => cases request <;> cases seen
  | verifyCredentials call =>
      rcases verifyCredentials_verifies seen with ⟨same, verifies⟩
      rw [same]
      exact .inr verifies
  | loginClock call user | recordLogin call user now => exact .inl seen
  | _ => cases seen

theorem Transition.verified (transition : Transition settings state label next) {pid : Nat}
    {value : LoginCall × User} (seen : (next.procs pid).verified = some value) :
    (state.procs pid).verified = some value ∨ Verifies value.1 value.2 state := by
  cases transition with
  | tick | users => exact .inl seen
  | moved label mover proc users _ own =>
      rcases observed_move seen with ⟨rfl, mine⟩ | kept
      · exact own.verified_eq mine
      · exact .inl kept
  | generatedLogin mover rawToken call user present
  | createdLogin mover id call user rawToken now tokens present =>
      rcases observed_move seen with ⟨rfl, mine⟩ | kept
      · cases mine
        rw [present]
        exact .inl rfl
      · exact .inl kept
  | generatedRefresh | createdRefresh | revoked | saved | deleted =>
      rcases observed_move seen with ⟨_, mine⟩ | kept
      · cases mine
      · exact .inl kept

/-- What is seen of an execution was brought about by a step of the run. -/
theorem observed_earlier {α : Type} {observe : Proc → Option α} {made : α → State → Prop}
    {clock : Instant} {users : Users} {stored : RefreshTokens} (idle : observe .idle = none)
    (source : ∀ {before label after pid value}, Transition settings before label after →
      observe (after.procs pid) = some value →
        observe (before.procs pid) = some value ∨ made value before)
    (run : Machine.Reaches (step settings) Machine.Any (State.init clock users stored) state) :
    ∀ pid value, observe (state.procs pid) = some value →
      Machine.Earlier (step settings) Machine.Any (State.init clock users stored) (made value)
        state := by
  refine (run.invariant (fun now =>
    Machine.Reaches (step settings) Machine.Any (State.init clock users stored) now ∧
      ∀ pid value, observe (now.procs pid) = some value →
        Machine.Earlier (step settings) Machine.Any (State.init clock users stored) (made value)
          now) ?_ ⟨.refl _, ?_⟩).2
  · intro before label after holds met stepped
    refine ⟨holds.1.snoc met stepped, ?_⟩
    intro pid value seen
    rcases source (step_transition stepped) seen with already | new
    · exact (holds.2 pid value already).step met stepped
    · exact (Machine.Earlier.now holds.1 new).step met stepped
  · intro pid value seen
    change observe .idle = some value at seen
    rw [idle] at seen
    cases seen

/-- The token is an unrevoked one of the user. -/
def Redeems (presented : String × UUID) (state : State) : Prop :=
  ∃ row ∈ state.tokens.rows, row.tokenHash = presented.1 ∧ row.userId = presented.2 ∧
    row.revokedAt = none

theorem Transition.redeems (transition : Transition settings state label next) {pid : Nat}
    {presented : String × UUID} (seen : (next.procs pid).exchanging = some presented) :
    (state.procs pid).exchanging = some presented ∨ Redeems presented state := by
  rcases transition.exchanging seen with before | ⟨row, member, _, hashed, named, unrevoked, _⟩
  · exact .inl before
  · exact .inr ⟨row, member, hashed, named, unrevoked⟩

section

variable {clock : Instant} {users : Users} {stored : RefreshTokens}

/-- A login that has got past the comparison compared with a row stored then. -/
theorem verified_earlier
    (run : Machine.Reaches (step settings) Machine.Any (State.init clock users stored) state) :
    ∀ pid value, (state.procs pid).verified = some value →
      Machine.Earlier (step settings) Machine.Any (State.init clock users stored)
        (Verifies value.1 value.2) state :=
  observed_earlier rfl (fun transition seen => transition.verified seen) run

/-- A refresh that has got past its revocation was sent an unrevoked token stored then. -/
theorem redeemed_earlier
    (run : Machine.Reaches (step settings) Machine.Any (State.init clock users stored) state) :
    ∀ pid value, (state.procs pid).exchanging = some value →
      Machine.Earlier (step settings) Machine.Any (State.init clock users stored)
        (Redeems value) state :=
  observed_earlier rfl (fun transition seen => transition.redeems seen) run

end

/-! ## Sessions -/

theorem LoggedIn.step {userId : UUID} (loggedIn : LoggedIn state userId)
    (transition : Transition settings state label next) : LoggedIn next userId := by
  rcases loggedIn with ⟨pid, call, user, tokens, returned, named⟩
  refine ⟨pid, call, user, tokens, ?_, named⟩
  have issued : (state.procs pid).issued =
      some (hashRefreshToken tokens.refreshToken, user.id) := by
    rw [returned]
    rfl
  rw [transition.issued_stays issued]
  exact returned

/-- A row stored by a step is that of a login which returns, or of a refresh. -/
theorem Transition.stored_for (transition : Transition settings state label next)
    {row : RefreshToken} (member : row ∈ next.tokens.rows) :
    (∃ stored ∈ state.tokens.rows, stored.userId = row.userId) ∨ LoggedIn next row.userId ∨
      ∃ pid hash, (state.procs pid).exchanging = some (hash, row.userId) := by
  cases transition with
  | createdLogin pid id call user rawToken now tokens present stored =>
      rw [create_eq_ok stored] at member
      rcases List.mem_append.mp member with old | new
      · exact .inl ⟨row, old, rfl⟩
      · rw [List.mem_singleton.mp new]
        exact .inr (.inl ⟨pid, call, user, _, Function.update_self .., rfl⟩)
  | createdRefresh pid id call user rawToken now tokens present stored =>
      rw [create_eq_ok stored] at member
      rcases List.mem_append.mp member with old | new
      · exact .inl ⟨row, old, rfl⟩
      · rw [List.mem_singleton.mp new]
        refine .inr (.inr ⟨pid, hashRefreshToken call.rawRefreshToken, ?_⟩)
        rw [present]
        rfl
  | revoked pid call now before =>
      rcases mem_setRevokedAt.mp member with ⟨stored, storedMem, same⟩
      exact .inl ⟨stored, storedMem, by rw [← same, withRevokedAt_userId]⟩
  | saved pid call token now =>
      rcases mem_setRevokedAt.mp member with ⟨stored, storedMem, same⟩
      exact .inl ⟨stored, storedMem, by rw [← same, withRevokedAt_userId]⟩
  | deleted pid ids => exact .inl ⟨row, (mem_deleteByIds.mp member).1, rfl⟩
  | _ => exact .inl ⟨row, member, rfl⟩

/-- The user has logged in, or a token of theirs was stored before the run. -/
def Root (stored : RefreshTokens) (state : State) (userId : UUID) : Prop :=
  LoggedIn state userId ∨ userId ∈ stored.rows.map RefreshToken.userId

structure Rooted (stored : RefreshTokens) (state : State) : Prop where
  rows : ∀ row ∈ state.tokens.rows, Root stored state row.userId
  exchanging : ∀ pid hash userId, (state.procs pid).exchanging = some (hash, userId) →
    Root stored state userId

theorem Rooted.step {stored : RefreshTokens} (rooted : Rooted stored state)
    (transition : Transition settings state label next) : Rooted stored next := by
  have later : ∀ {userId}, Root stored state userId → Root stored next userId := by
    intro userId root
    rcases root with loggedIn | before
    · exact .inl (loggedIn.step transition)
    · exact .inr before
  constructor
  · intro row member
    rcases transition.stored_for member with ⟨old, oldMem, same⟩ | loggedIn | ⟨pid, hash, seen⟩
    · exact same ▸ later (rooted.rows old oldMem)
    · exact .inl loggedIn
    · exact later (rooted.exchanging pid hash row.userId seen)
  · intro pid hash userId seen
    rcases transition.exchanging seen with before | ⟨row, member, _, _, same, _⟩
    · exact later (rooted.exchanging pid hash userId before)
    · exact same ▸ later (rooted.rows row member)

theorem rooted_reached {clock : Instant} {users : Users} {stored : RefreshTokens}
    (run : Machine.Reaches (step settings) Machine.Any (State.init clock users stored) state) :
    Rooted stored state := by
  refine run.invariant (Rooted stored) ?_ ⟨?_, ?_⟩
  · intro before label after rooted _ stepped
    exact rooted.step (step_transition stepped)
  · intro row member
    exact .inr (List.mem_map_of_mem member)
  · intro pid hash userId seen
    cases seen

omit [PyUnicode] [Collation] in
/-- Tokens are returned by a login that has compared the passwords or by a refresh that has
revoked a token of the user. -/
theorem granted_cases {proc : Proc} {user : User} {token : String}
    (granted : proc.granted = some (user, token)) :
    (∃ call tokens, proc = .login call (.issue (.returned user tokens))) ∨
      ∃ hash, proc.exchanging = some (hash, user.id) := by
  cases proc with
  | login call pc =>
      cases pc with
      | issue pc =>
          cases pc with
          | returned other tokens =>
              cases granted
              exact .inl ⟨call, tokens, rfl⟩
          | _ => cases granted
      | _ => cases granted
  | refresh call pc =>
      cases pc with
      | issue pc =>
          cases pc with
          | returned other tokens =>
              cases granted
              exact .inr ⟨_, rfl⟩
          | _ => cases granted
      | _ => cases granted
  | _ => cases granted

/-- In every run: whoever is given an access token has logged in before, with an address that
finds their row and the password of that row, or had a refresh token stored before the run. -/
theorem sessions_go_back_to_logins {clock : Instant} {users : Users} {stored : RefreshTokens}
    (run : Machine.Reaches (step settings) Machine.Any (State.init clock users stored) state)
    {pid : Nat} {user : User} {token : String}
    (granted : (state.procs pid).granted = some (user, token)) :
    user.id ∈ stored.rows.map RefreshToken.userId ∨ ∃ first call other tokens,
      state.procs first = .login call (.issue (.returned other tokens)) ∧ other.id = user.id ∧
        Machine.Earlier (step settings) Machine.Any (State.init clock users stored)
          (Verifies call other) state := by
  have verified := verified_earlier run
  have root : Root stored state user.id := by
    rcases granted_cases granted with ⟨call, tokens, returned⟩ | ⟨hash, seen⟩
    · exact .inl ⟨pid, call, user, tokens, returned, rfl⟩
    · exact (rooted_reached run).exchanging pid hash user.id seen
  rcases root with ⟨first, call, other, tokens, returned, named⟩ | before
  · refine .inr ⟨first, call, other, tokens, returned, named, verified first (call, other) ?_⟩
    rw [returned]
    rfl
  · exact .inl before

end

namespace Sample

attribute [local instance] unicode collation crypto

/-- A login and a refresh of its token. -/
theorem sessions_go_back_to_logins_refresh : ∃ state,
    Machine.exec (step settings) start (login ++ exchange ++ store) = some state ∧
      ((state.procs 1).granted.map fun granted => granted.1.id) = some admin.id ∧
      ∃ first call other tokens, state.procs first = .login call (.issue (.returned other tokens)) ∧
        other.id = admin.id ∧ Machine.Earlier (step settings) Machine.Any start
          (Verifies call other) state := by
  obtain ⟨state, executed⟩ := Option.isSome_iff_exists.mp
    (by decide : (Machine.exec (step settings) start (login ++ exchange ++ store)).isSome)
  have shown : ((state.procs 1).granted.map fun granted => granted.1.id) = some admin.id :=
    Machine.read_of_map (fun state => (state.procs 1).granted.map fun granted => granted.1.id)
      executed (by decide +kernel)
  refine ⟨state, executed, shown, ?_⟩
  rcases Option.map_eq_some_iff.mp shown with ⟨⟨user, token⟩, granted, same⟩
  rcases sessions_go_back_to_logins
    ⟨_, Machine.Runs.of_exec (fun _ _ _ => trivial) executed⟩ granted with before |
      ⟨first, call, other, tokens, returned, named, earlier⟩
  · cases before
  · exact ⟨first, call, other, tokens, returned, named.trans same, earlier⟩

end Sample

end ChTech.Auth
