import ChTech.Auth.Sessions

/-!
# Logging out of a session

A logout revokes the row of the presented token and no other.  When that token is the
last one of its chain the whole session is closed for good; when it has already been
exchanged the logout still succeeds, and its successor stays active.
-/

namespace ChTech.Auth

open Foundation Relation RefreshTokenRepository

section Closing

variable [PyUnicode] [Collation] [Crypto] {settings : Settings}

theorem Local.issued_before {state : State} {before after : Proc}
    (own : Local settings state before after) : before.issued = none := by
  cases own <;> rfl

/-- An execution that has returned tokens does not move any more. -/
theorem Transition.issued_stays {state next : State} {label : Label} {pid : Nat}
    {value : String × UUID} (transition : Transition settings state label next)
    (issued : (state.procs pid).issued = some value) : next.procs pid = state.procs pid := by
  have other : ∀ {mover : Nat} {proc : Proc}, (state.procs mover).issued = none →
      state.move mover proc pid = state.procs pid := by
    intro mover proc waiting
    rw [move_eq, if_neg]
    intro same
    subst same
    rw [waiting] at issued
    cases issued
  cases transition with
  | tick | users => rfl
  | moved _ mover proc users _ own => exact other own.issued_before
  | generatedLogin _ _ _ _ present | generatedRefresh _ _ _ _ present
  | createdLogin _ _ _ _ _ _ _ present | createdRefresh _ _ _ _ _ _ _ present
  | revoked _ _ _ _ present | saved _ _ _ _ present | deleted _ _ present =>
      refine other ?_
      rw [present]
      rfl

/-- The tokens of a session that is over: dead, and exchanged only by executions that
had already returned. -/
structure Closed (state : State) (pid : Nat) (user : User) (later : State) : Prop where
  login : later.procs pid = state.procs pid
  dead : ∀ {hash}, Descends state pid user hash → Dead later hash
  exchanged : ∀ {refresher hash userId}, Descends state pid user hash →
    (later.procs refresher).exchanging = some (hash, userId) →
    later.procs refresher = state.procs refresher
  returned : ∀ {refresher hash userId}, Descends state pid user hash →
    (state.procs refresher).exchanging = some (hash, userId) →
    ∃ value, (state.procs refresher).issued = some value

theorem Closed.step {state later next : State} {pid : Nat} {user : User} {label : Label}
    {value : String × UUID} (closed : Closed state pid user later)
    (loggedIn : (state.procs pid).issued = some value)
    (fresh : FreshTokens later label) (transition : Transition settings later label next) :
    Closed state pid user next where
  login := (transition.issued_stays (closed.login ▸ loggedIn)).trans closed.login
  dead := fun descends => (closed.dead descends).step fresh transition
  exchanged := by
    intro refresher hash userId descends seen
    rcases transition.exchanging seen with before | ⟨row, member, _, hashed, _, unrevoked, _⟩
    · have same := closed.exchanged descends before
      rcases closed.returned descends (same ▸ before) with ⟨value, issued⟩
      exact (transition.issued_stays (same ▸ issued)).trans same
    · exact absurd unrevoked ((closed.dead descends).2 row member hashed)
  returned := closed.returned

omit [PyUnicode] in
/-- A closed session has no new tokens. -/
theorem Closed.descends {state later : State} {pid : Nat} {user : User} {hash : String}
    (closed : Closed state pid user later) (descends : Descends later pid user hash) :
    Descends state pid user hash := by
  rcases descends with ⟨call, tokens, present, chain⟩
  rw [closed.login] at present
  induction chain with
  | refl => exact ⟨call, tokens, present, .refl⟩
  | @tail middle last _ exchanged ih =>
      refine ⟨call, tokens, present, ?_⟩
      rcases ih with ⟨_, _, samePresent, chain⟩
      rw [present] at samePresent
      cases samePresent
      refine chain.tail ?_
      rcases exchanged with ⟨refresher, refresh, owner, pair, refreshed, rfl, rfl⟩
      have seen := exchanging_of_returned refreshed
      rw [closed.exchanged ⟨call, tokens, present, chain⟩ seen] at refreshed
      exact ⟨refresher, refresh, owner, pair, refreshed, rfl, rfl⟩

omit [PyUnicode] in
theorem issued_of_descends {state : State} {pid : Nat} {user : User} {hash : String}
    (descends : Descends state pid user hash) : ∃ value, (state.procs pid).issued = some value := by
  rcases descends with ⟨call, tokens, present, _⟩
  refine ⟨(hashRefreshToken tokens.refreshToken, user.id), ?_⟩
  rw [present]
  rfl

omit [PyUnicode] [Collation] in
/-- A refresh past its revocation is in flight or has returned. -/
theorem inFlight_or_issued {proc : Proc} {hash : String} {userId : UUID}
    (exchanging : proc.exchanging = some (hash, userId)) :
    (∃ call pc, proc = .refresh call pc ∧ pc.inFlight = true ∧
      hashRefreshToken call.rawRefreshToken = hash) ∨ ∃ value, proc.issued = some value := by
  cases proc with
  | refresh call pc =>
      cases pc with
      | getById token =>
          cases exchanging
          exact .inl ⟨call, _, rfl, rfl, rfl⟩
      | issue pc =>
          cases pc with
          | generate user | create user _ _ =>
              cases exchanging
              exact .inl ⟨call, _, rfl, rfl, rfl⟩
          | returned user tokens => exact .inr ⟨_, rfl⟩
          | raised => cases exchanging
      | readClock | revokeIfActive => cases exchanging
  | idle | login | logout | purge => cases exchanging

/-- A logout of the last token of a chain, with no refresh of the chain in flight, closes
the session: no token of it is active, and no refresh of it succeeds any more. -/
theorem logout_closes_session {clock : Instant} {users : Users} {tokens : RefreshTokens}
    {state : State} {closer pid : Nat} {logout : LogoutCall} {user : User}
    (run : Machine.Reaches (step settings) FreshTokens (State.init clock users tokens) state)
    (returned : state.procs closer = .logout logout .returned)
    (member : Descends state pid user (hashRefreshToken logout.rawRefreshToken))
    (notExchanged : ∀ new,
      ¬ExchangedFor state (hashRefreshToken logout.rawRefreshToken) new)
    (noneInFlight : ∀ other call pc, state.procs other = .refresh call pc →
      pc.inFlight = true → ¬Descends state pid user (hashRefreshToken call.rawRefreshToken)) :
    (∀ row ∈ state.tokens.rows, Descends state pid user row.tokenHash →
        row.isActive state.clock = false) ∧
      ∀ later, Machine.Reaches (step settings) FreshTokens state later →
        ∀ refresher call owner tokens,
          later.procs refresher = .refresh call (.issue (.returned owner tokens)) →
          Descends later pid user (hashRefreshToken call.rawRefreshToken) →
          state.procs refresher = later.procs refresher := by
  have inv := reachable_rotation run
  have dead : Dead state (hashRefreshToken logout.rawRefreshToken) := by
    refine inv.closed (?_ : (state.procs closer).closed = _)
    rw [returned]
    rfl
  have chain : ∀ {hash}, Descends state pid user hash → Dead state hash :=
    fun descends => inv.chain_dead_of_last member dead notExchanged descends
  constructor
  · intro row rowMem descends
    by_contra active
    rw [Bool.not_eq_false, RefreshToken.isActive_iff] at active
    exact (chain descends).2 row rowMem rfl active.1
  · intro later onward refresher call owner pair present descends
    rcases issued_of_descends member with ⟨value, loggedIn⟩
    have start : Closed state pid user state := by
      refine ⟨rfl, chain, fun _ _ => rfl, ?_⟩
      intro refresher hash userId descends seen
      rcases inFlight_or_issued seen with ⟨call, pc, present, flying, rfl⟩ | issued
      · exact absurd descends (noneInFlight refresher call pc present flying)
      · exact issued
    have closed : Closed state pid user later :=
      onward.invariant _
        (fun held fresh stepped => held.step loggedIn fresh (step_transition stepped)) start
    exact (closed.exchanged (closed.descends descends) (exchanging_of_returned present)).symm

end Closing

namespace Sample

attribute [local instance] unicode collation crypto

/-- A logout with the given token. -/
def logout (rawToken : String) : List Label :=
  [.call 2 (.logout ⟨rawToken, admin.id⟩), .advance 2, .advance 2, .advance 2]

/-- A login whose only token is logged out. -/
theorem logout_closes_session_login :
    ∃ state, Machine.execIf (step settings) FreshTokens start (login ++ logout firstToken) =
        some state ∧
      ∀ row ∈ state.tokens.rows, Descends state 0 adminUser row.tokenHash →
        row.isActive state.clock = false := by
  obtain ⟨state, executed⟩ := Option.isSome_iff_exists.mp (by decide :
    (Machine.execIf (step settings) FreshTokens start (login ++ logout firstToken)).isSome)
  have run : Machine.Reaches (step settings) FreshTokens start state :=
    ⟨_, Machine.Runs.of_execIf executed⟩
  have loggedIn : state.procs 0 = .login ⟨"Admin@CH-TECH.dev", "U*U", client⟩
      (.issue (.returned adminUser (authTokens settings adminUser firstToken clock))) :=
    Machine.read_of_map (fun state => state.procs 0) executed rfl
  have loggedOut : state.procs 2 = .logout ⟨firstToken, admin.id⟩ .returned :=
    Machine.read_of_map (fun state => state.procs 2) executed rfl
  have noRefresh : ∀ other call pc, state.procs other ≠ .refresh call pc := by
    intro other call pc present
    by_cases first : other = 0
    · rw [first, loggedIn] at present
      cases present
    · by_cases second : other = 2
      · rw [second, loggedOut] at present
        cases present
      · rw [runs_frame (Machine.Runs.of_execIf executed) (by
          simp [login, logout, Label.pid, Ne.symm first, Ne.symm second])] at present
        cases present
  refine ⟨state, executed,
    (logout_closes_session run loggedOut ⟨_, _, loggedIn, .refl⟩ ?_ ?_).1⟩
  · rintro new ⟨other, call, user, tokens, present, _⟩
    exact noRefresh other call _ present
  · intro other call pc present
    exact absurd present (noRefresh other call pc)

/-- The session goes on when the token presented at logout has already been exchanged. -/
theorem logout_leaves_successor :
    ¬ ∀ (state : State) (closer pid : Nat) (call : LogoutCall) (user : User),
      Machine.Reaches (step settings) FreshTokens start state →
      state.procs closer = .logout call .returned →
      Descends state pid user (hashRefreshToken call.rawRefreshToken) →
      (∀ other refresh pc, state.procs other = .refresh refresh pc → pc.inFlight = true →
        ¬Descends state pid user (hashRefreshToken refresh.rawRefreshToken)) →
      ∀ row ∈ state.tokens.rows, Descends state pid user row.tokenHash →
        row.isActive state.clock = false := by
  intro claim
  obtain ⟨state, executed⟩ := Option.isSome_iff_exists.mp (by decide :
    (Machine.execIf (step settings) FreshTokens start
      (login ++ exchange ++ store ++ logout firstToken)).isSome)
  have loggedIn : state.procs 0 = .login ⟨"Admin@CH-TECH.dev", "U*U", client⟩
      (.issue (.returned adminUser (authTokens settings adminUser firstToken clock))) :=
    Machine.read_of_map (fun state => state.procs 0) executed rfl
  have refreshed : state.procs 1 = .refresh ⟨firstToken, client⟩
      (.issue (.returned { adminUser with lastLogin := some clock, updatedAt := clock }
        (authTokens settings adminUser secondToken clock))) :=
    Machine.read_of_map (fun state => state.procs 1) executed rfl
  have loggedOut : state.procs 2 = .logout ⟨firstToken, admin.id⟩ .returned :=
    Machine.read_of_map (fun state => state.procs 2) executed rfl
  have rows : state.tokens.rows = [
      { newToken settings client adminUser firstToken clock 11 with revokedAt := some clock },
      newToken settings client adminUser secondToken clock 12] :=
    Machine.read_of_map (fun state => state.tokens.rows) executed rfl
  have reading : state.clock = clock :=
    Machine.read_of_map (fun state => state.clock) executed rfl
  have session : Descends state 0 adminUser firstHash := ⟨_, _, loggedIn, .refl⟩
  have successor : Descends state 0 adminUser secondHash :=
    ⟨_, _, loggedIn, .single ⟨1, _, _, _, refreshed, rfl, rfl⟩⟩
  have inactive := claim state 2 0 ⟨firstToken, admin.id⟩ adminUser
    ⟨_, Machine.Runs.of_execIf executed⟩ loggedOut session (by
      intro other refresh pc present flying
      by_cases first : other = 0
      · rw [first, loggedIn] at present
        cases present
      · by_cases second : other = 1
        · rw [second, refreshed] at present
          cases present
          cases flying
        · by_cases third : other = 2
          · rw [third, loggedOut] at present
            cases present
          · rw [runs_frame (Machine.Runs.of_execIf executed) (by
              simp [login, exchange, store, logout, Label.pid, Ne.symm first, Ne.symm second,
                Ne.symm third])] at present
            cases present)
    (newToken settings client adminUser secondToken clock 12) (by simp [rows]) successor
  rw [reading] at inactive
  cases inactive

end Sample

end ChTech.Auth
