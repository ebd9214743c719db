import ChTech.Auth.Machine

/-!
# What a step can do

Most steps only move their own execution on.  The others generate a token, store it,
revoke it, save a revoked copy of it or delete rows.  Every invariant is derived from
the effect of a step on the rows and on a few observations of the executions.
-/

namespace ChTech.Auth

open Foundation RefreshTokenRepository

variable [PyUnicode] [Collation] [Crypto] {settings : Settings}

/-- Moves of one execution that leave `refresh_tokens` and the generated values alone. -/
inductive Local (settings : Settings) (state : State) : Proc → Proc → Prop where
  | call (request : Request) : Local settings state .idle request.start
  | verifyCredentials (call : LoginCall) :
      Local settings state (.login call .getByEmail)
        (.login call (verifyCredentials state.users call))
  | loginClock (call : LoginCall) (user : User) :
      Local settings state (.login call (.readClock user))
        (.login call (.recordLogin user state.clock))
  | recordLogin (call : LoginCall) (user : User) (now : Instant) :
      Local settings state (.login call (.recordLogin user now))
        (.login call (.issue (.generate user)))
  | recordLoginRaised (call : LoginCall) (user : User) (now : Instant) (raised : Raised) :
      Local settings state (.login call (.recordLogin user now))
        (.login call (.issue (.raised raised)))
  | loginCreateRaised (call : LoginCall) (user : User) (rawToken : String) (now : Instant)
      (raised : Raised) :
      Local settings state (.login call (.issue (.create user rawToken now)))
        (.login call (.issue (.raised raised)))
  | refreshClock (call : RefreshCall) :
      Local settings state (.refresh call .readClock)
        (.refresh call (.revokeIfActive state.clock))
  | notRevoked (call : RefreshCall) (now : Instant)
      (missed : (revokeIfActive state.tokens (hashRefreshToken call.rawRefreshToken) now).2 =
        none) :
      Local settings state (.refresh call (.revokeIfActive now))
        (.refresh call (.issue (.raised invalidOrExpiredRefreshToken)))
  | getById (call : RefreshCall) (token : RefreshToken) :
      Local settings state (.refresh call (.getById token))
        (.refresh call (.issue (lookUpUser state.users token)))
  | refreshCreateRaised (call : RefreshCall) (user : User) (rawToken : String) (now : Instant)
      (raised : Raised) :
      Local settings state (.refresh call (.issue (.create user rawToken now)))
        (.refresh call (.issue (.raised raised)))
  | checkOwner (call : LogoutCall) :
      Local settings state (.logout call .getByTokenHash)
        (.logout call (checkOwner state.tokens call))
  | logoutClock (call : LogoutCall) (token : RefreshToken) :
      Local settings state (.logout call (.readClock token))
        (.logout call (.save token state.clock))
  | saveRaised (call : LogoutCall) (token : RefreshToken) (now : Instant) (raised : Raised) :
      Local settings state (.logout call (.save token now)) (.logout call (.raised raised))
  | purgeClock :
      Local settings state (.purge .readClock)
        (.purge (.select (state.clock - settings.refreshTokenRetention)))
  | selectNone (cutoff : Instant) (none : selectPurgeable state.tokens cutoff = []) :
      Local settings state (.purge (.select cutoff)) (.purge (.returned 0))
  | select (cutoff : Instant) :
      Local settings state (.purge (.select cutoff))
        (.purge (.delete (selectPurgeable state.tokens cutoff)))

/-- Every step. -/
inductive Transition (settings : Settings) (state : State) : Label → State → Prop where
  | tick (clock : Instant) (forward : state.clock ≤ clock) :
      Transition settings state (.tick clock) { state with clock }
  | users (users : Users) : Transition settings state (.users users) { state with users }
  | moved (label : Label) (pid : Nat) (proc : Proc) (users : Users)
      (mine : label.pid = some pid) (own : Local settings state (state.procs pid) proc) :
      Transition settings state label { state with users, procs := state.move pid proc }
  | generatedLogin (pid : Nat) (rawToken : String) (call : LoginCall) (user : User)
      (present : state.procs pid = .login call (.issue (.generate user))) :
      Transition settings state (.generate pid rawToken)
        { state with
          procs := state.move pid (.login call (.issue (.create user rawToken state.clock)))
          hashes := hashRefreshToken rawToken :: state.hashes }
  | generatedRefresh (pid : Nat) (rawToken : String) (call : RefreshCall) (user : User)
      (present : state.procs pid = .refresh call (.issue (.generate user))) :
      Transition settings state (.generate pid rawToken)
        { state with
          procs := state.move pid (.refresh call (.issue (.create user rawToken state.clock)))
          hashes := hashRefreshToken rawToken :: state.hashes }
  | createdLogin (pid : Nat) (id : UUID) (call : LoginCall) (user : User) (rawToken : String)
      (now : Instant) (tokens : RefreshTokens)
      (present : state.procs pid = .login call (.issue (.create user rawToken now)))
      (stored : RefreshTokenRepository.create state.users state.tokens
        (newToken settings call.client user rawToken now id) = .ok tokens) :
      Transition settings state (.create pid id)
        { state with
          tokens
          procs := state.move pid (.login call
            (.issue (.returned user (authTokens settings user rawToken state.clock))))
          ids := id :: state.ids }
  | createdRefresh (pid : Nat) (id : UUID) (call : RefreshCall) (user : User) (rawToken : String)
      (now : Instant) (tokens : RefreshTokens)
      (present : state.procs pid = .refresh call (.issue (.create user rawToken now)))
      (stored : RefreshTokenRepository.create state.users state.tokens
        (newToken settings call.client user rawToken now id) = .ok tokens) :
      Transition settings state (.create pid id)
        { state with
          tokens
          procs := state.move pid (.refresh call
            (.issue (.returned user (authTokens settings user rawToken state.clock))))
          ids := id :: state.ids }
  | revoked (pid : Nat) (call : RefreshCall) (now : Instant) (row : RefreshToken)
      (present : state.procs pid = .refresh call (.revokeIfActive now))
      (member : row ∈ state.tokens.rows)
      (selected : selectsActive (hashRefreshToken call.rawRefreshToken) now row = true) :
      Transition settings state (.advance pid)
        { state with
          tokens := setRevokedAt state.tokens row.id (some now)
          procs := state.move pid (.refresh call (.getById { row with revokedAt := some now })) }
  | saved (pid : Nat) (call : LogoutCall) (token : RefreshToken) (now : Instant)
      (present : state.procs pid = .logout call (.save token now)) :
      Transition settings state (.advance pid)
        { state with
          tokens := setRevokedAt state.tokens token.id (token.revoke now).revokedAt
          procs := state.move pid (.logout call .returned) }
  | deleted (pid : Nat) (ids : List UUID)
      (present : state.procs pid = .purge (.delete ids)) :
      Transition settings state (.purge pid)
        { state with
          tokens := deleteByIds state.tokens ids
          procs := state.move pid (.purge (.returned ids.length)) }

section Inversion

variable {state next : State} {label : Label}

theorem Transition.local {pid : Nat} {before proc : Proc} {users : Users}
    (mine : label.pid = some pid) (present : state.procs pid = before)
    (own : Local settings state before proc) :
    Transition settings state label { state with users, procs := state.move pid proc } :=
  .moved label pid proc users mine (present ▸ own)

theorem advanceLogin_transition {pid : Nat} {call : LoginCall} {pc : LoginPc}
    (present : state.procs pid = .login call pc)
    (stepped : state.advanceLogin pid call pc = some next) :
    Transition settings state (.advance pid) next := by
  cases pc with
  | getByEmail =>
      cases stepped
      exact .local rfl present (.verifyCredentials call)
  | readClock user =>
      cases stepped
      exact .local rfl present (.loginClock call user)
  | recordLogin user now =>
      simp only [State.advanceLogin] at stepped
      split at stepped
      · cases stepped
        exact .local rfl present (.recordLoginRaised call user now _)
      · cases stepped
        exact .local rfl present (.recordLogin call user now)
  | issue pc => cases stepped

theorem advanceRefresh_transition {pid : Nat} {call : RefreshCall} {pc : RefreshPc}
    (present : state.procs pid = .refresh call pc)
    (stepped : state.advanceRefresh pid call pc = some next) :
    Transition settings state (.advance pid) next := by
  cases pc with
  | readClock =>
      cases stepped
      exact .local rfl present (.refreshClock call)
  | revokeIfActive now =>
      simp only [State.advanceRefresh] at stepped
      split at stepped
      next missed =>
        cases stepped
        exact .local rfl present (.notRevoked call now missed)
      next token revoked =>
        rcases revokeIfActive_some revoked with ⟨row, member, selected, same, written⟩
        rw [same, written] at stepped
        cases stepped
        exact .revoked pid call now row present member selected
  | getById token =>
      cases stepped
      exact .local rfl present (.getById call token)
  | issue pc => cases stepped

theorem advanceLogout_transition {pid : Nat} {call : LogoutCall} {pc : LogoutPc}
    (present : state.procs pid = .logout call pc)
    (stepped : state.advanceLogout pid call pc = some next) :
    Transition settings state (.advance pid) next := by
  cases pc with
  | getByTokenHash =>
      cases stepped
      exact .local rfl present (.checkOwner call)
  | readClock token =>
      cases stepped
      exact .local rfl present (.logoutClock call token)
  | save token now =>
      simp only [State.advanceLogout] at stepped
      split at stepped
      next raised _ =>
        cases stepped
        exact .local rfl present (.saveRaised call token now raised)
      next tokens written =>
        cases stepped
        rw [save_eq_ok written, RefreshToken.revoke_id]
        exact .saved pid call token now present
  | returned | raised _ => cases stepped

theorem advancePurge_transition {pid : Nat} {pc : PurgePc}
    (present : state.procs pid = .purge pc)
    (stepped : state.advancePurge settings pid pc = some next) :
    Transition settings state (.purge pid) next := by
  cases pc with
  | readClock =>
      cases stepped
      exact .local rfl present .purgeClock
  | select cutoff =>
      simp only [State.advancePurge] at stepped
      split at stepped
      next none =>
        cases stepped
        exact .local rfl present (.selectNone cutoff none)
      next id ids some =>
        cases stepped
        rw [← some]
        exact .local rfl present (.select cutoff)
  | delete ids =>
      cases stepped
      exact .deleted pid ids present
  | returned count => cases stepped

omit [PyUnicode] [Collation] [Crypto] in
/-- An execution in `_issue_refresh_token` is a `Login` or a `RefreshAccessToken`. -/
theorem issuing_cases {proc : Proc} {client : Client} {pc : IssuePc} {resume : IssuePc → Proc}
    (reached : State.issuing proc = some (client, pc, resume)) :
    (∃ call : LoginCall, proc = .login call (.issue pc) ∧ client = call.client ∧
      resume = fun next => .login call (.issue next)) ∨
    (∃ call : RefreshCall, proc = .refresh call (.issue pc) ∧ client = call.client ∧
      resume = fun next => .refresh call (.issue next)) := by
  simp only [State.issuing] at reached
  split at reached
  next call _ =>
    cases reached
    exact .inl ⟨call, rfl, rfl, rfl⟩
  next call _ =>
    cases reached
    exact .inr ⟨call, rfl, rfl, rfl⟩
  next => cases reached

theorem generate_transition {pid : Nat} {rawToken : String}
    (stepped : state.generate pid rawToken = some next) :
    Transition settings state (.generate pid rawToken) next := by
  simp only [State.generate] at stepped
  split at stepped
  next client user resume reached =>
    cases stepped
    rcases issuing_cases reached with ⟨call, present, _, rfl⟩ | ⟨call, present, _, rfl⟩
    · exact .generatedLogin pid rawToken call user present
    · exact .generatedRefresh pid rawToken call user present
  next => cases stepped

theorem create_transition {pid : Nat} {id : UUID}
    (stepped : state.create settings pid id = some next) :
    Transition settings state (.create pid id) next := by
  simp only [State.create] at stepped
  split at stepped
  next client user rawToken now resume reached =>
    rcases issuing_cases reached with ⟨call, present, rfl, rfl⟩ | ⟨call, present, rfl, rfl⟩
    · split at stepped
      next raised _ =>
        cases stepped
        exact .local rfl present (.loginCreateRaised call user rawToken now raised)
      next tokens stored =>
        cases stepped
        exact .createdLogin pid id call user rawToken now tokens present stored
    · split at stepped
      next raised _ =>
        cases stepped
        exact .local rfl present (.refreshCreateRaised call user rawToken now raised)
      next tokens stored =>
        cases stepped
        exact .createdRefresh pid id call user rawToken now tokens present stored
  next => cases stepped

/-- A step is one of the transitions. -/
theorem step_transition (stepped : step settings state label = some next) :
    Transition settings state label next := by
  cases label with
  | tick clock =>
      simp only [step] at stepped
      split at stepped
      next forward =>
        cases stepped
        exact .tick clock forward
      next => cases stepped
  | users users =>
      cases stepped
      exact .users users
  | call pid request =>
      simp only [step] at stepped
      split at stepped
      next idle =>
        cases stepped
        exact .local rfl idle (.call request)
      next => cases stepped
  | advance pid =>
      simp only [step] at stepped
      split at stepped
      next present => exact advanceLogin_transition present stepped
      next present => exact advanceRefresh_transition present stepped
      next present => exact advanceLogout_transition present stepped
      next => cases stepped
      next => cases stepped
  | generate pid rawToken => exact generate_transition stepped
  | create pid id => exact create_transition stepped
  | purge pid =>
      simp only [step] at stepped
      split at stepped
      next present => exact advancePurge_transition present stepped
      next => cases stepped

end Inversion

end ChTech.Auth
