import Mathlib.Logic.Relation
import ChTech.Auth.Rotation

/-!
# Sessions

A session is the chain of tokens that descends from one successful `Login`: the token
it returned, and every token that a refresh has returned for a token of the chain.
-/

namespace ChTech.Auth

open Foundation Relation

section Chains

variable [Collation] [Crypto]

/-- A `RefreshAccessToken` has returned the token with hash `new` for the one with
hash `old`. -/
def ExchangedFor (state : State) (old new : String) : Prop :=
  ∃ pid call user tokens, state.procs pid = .refresh call (.issue (.returned user tokens)) ∧
    hashRefreshToken call.rawRefreshToken = old ∧ hashRefreshToken tokens.refreshToken = new

/-- The token with this hash descends from the `Login` execution `pid` of `user`. -/
def Descends (state : State) (pid : Nat) (user : User) (hash : String) : Prop :=
  ∃ call tokens, state.procs pid = .login call (.issue (.returned user tokens)) ∧
    ReflTransGen (ExchangedFor state) (hashRefreshToken tokens.refreshToken) hash

/-- A refresh that has revoked its token and not yet stored the new one. -/
def RefreshPc.inFlight : RefreshPc → Bool
  | .getById _ | .issue (.generate _) | .issue (.create _ _ _) => true
  | .readClock | .revokeIfActive _ | .issue (.returned _ _) | .issue (.raised _) => false

variable {state : State}

theorem exchanging_of_returned {pid : Nat} {call : RefreshCall} {user : User}
    {tokens : AuthTokens}
    (present : state.procs pid = .refresh call (.issue (.returned user tokens))) :
    (state.procs pid).exchanging = some (hashRefreshToken call.rawRefreshToken, user.id) := by
  rw [present]
  rfl

theorem exchanging_of_inFlight {pid : Nat} {call : RefreshCall} {pc : RefreshPc}
    (present : state.procs pid = .refresh call pc) (flying : pc.inFlight = true) :
    ∃ userId, (state.procs pid).exchanging =
      some (hashRefreshToken call.rawRefreshToken, userId) := by
  rw [present]
  cases pc with
  | getById token => exact ⟨token.userId, rfl⟩
  | issue pc =>
      cases pc with
      | generate user | create user _ _ => exact ⟨user.id, rfl⟩
      | returned | raised => cases flying
  | readClock | revokeIfActive => cases flying

namespace Rotation

/-- A token is exchanged for one token only. -/
theorem exchangedFor_unique (inv : Rotation state) :
    Relator.RightUnique (ExchangedFor state) := by
  rintro old first second ⟨pid, call, user, tokens, present, hashed, rfl⟩
    ⟨other, otherCall, otherUser, otherTokens, otherPresent, otherHashed, rfl⟩
  have mine := exchanging_of_returned present
  have theirs := exchanging_of_returned otherPresent
  rw [hashed] at mine
  rw [otherHashed] at theirs
  cases inv.exchangedOnce mine theirs
  rw [present] at otherPresent
  cases otherPresent
  rfl

/-- An exchanged token is dead. -/
theorem dead_of_exchangedFor (inv : Rotation state) {old new : String}
    (exchanged : ExchangedFor state old new) : Dead state old := by
  rcases exchanged with ⟨pid, call, user, tokens, present, rfl, _⟩
  exact inv.exchanged (exchanging_of_returned present)

/-- Of two different tokens of a chain, the earlier one is dead. -/
theorem dead_of_ahead (inv : Rotation state) {old new : String}
    (ahead : ReflTransGen (ExchangedFor state) old new) (different : old ≠ new) :
    Dead state old := by
  rcases ahead.cases_head with same | ⟨middle, exchanged, _⟩
  · exact absurd same different
  · exact inv.dead_of_exchangedFor exchanged

/-- Tokens of one chain stand one after the other. -/
theorem chain_total (inv : Rotation state) {pid : Nat} {user : User} {first second : String}
    (left : Descends state pid user first) (right : Descends state pid user second) :
    ReflTransGen (ExchangedFor state) first second ∨
      ReflTransGen (ExchangedFor state) second first := by
  rcases left with ⟨call, tokens, present, left⟩
  rcases right with ⟨otherCall, otherTokens, otherPresent, right⟩
  rw [present] at otherPresent
  cases otherPresent
  exact left.total_of_right_unique inv.exchangedFor_unique right

/-- Every token of a chain was returned for the user who logged in. -/
theorem issued_of_descends (inv : Rotation state) {pid : Nat} {user : User} {hash : String}
    (descends : Descends state pid user hash) :
    ∃ issuer, (state.procs issuer).issued = some (hash, user.id) := by
  rcases descends with ⟨call, tokens, present, chain⟩
  induction chain with
  | refl =>
      refine ⟨pid, ?_⟩
      rw [present]
      rfl
  | tail _ exchanged ih =>
      rcases ih with ⟨issuer, issued⟩
      rcases exchanged with ⟨other, otherCall, otherUser, otherTokens, otherPresent, rfl, rfl⟩
      refine ⟨other, ?_⟩
      rw [← inv.exchangedUser issued (exchanging_of_returned otherPresent), otherPresent]
      rfl

/-- At most one row of a chain is unrevoked. -/
theorem unrevoked_unique (inv : Rotation state) {pid : Nat} {user : User}
    {first second : RefreshToken} (firstMem : first ∈ state.tokens.rows)
    (secondMem : second ∈ state.tokens.rows) (left : Descends state pid user first.tokenHash)
    (right : Descends state pid user second.tokenHash) (firstLive : first.revokedAt = none)
    (secondLive : second.revokedAt = none) : first = second := by
  by_contra different
  have hashes : first.tokenHash ≠ second.tokenHash := fun same =>
    different (RefreshTokenRepository.eq_of_tokenHash firstMem secondMem same)
  rcases inv.chain_total left right with ahead | behind
  · exact (inv.dead_of_ahead ahead hashes).2 first firstMem rfl firstLive
  · exact (inv.dead_of_ahead behind hashes.symm).2 second secondMem rfl secondLive

/-- While a token of a chain is being exchanged, or has no successor and is dead, no row
of the chain is unrevoked. -/
theorem chain_dead_of_last (inv : Rotation state) {pid : Nat} {user : User} {last : String}
    (descends : Descends state pid user last) (dead : Dead state last)
    (final : ∀ new, ¬ExchangedFor state last new) {hash : String}
    (other : Descends state pid user hash) : Dead state hash := by
  rcases inv.chain_total other descends with ahead | behind
  · by_cases same : hash = last
    · rw [same]
      exact dead
    · exact inv.dead_of_ahead ahead same
  · rcases behind.cases_head with same | ⟨middle, exchanged, _⟩
    · rw [← same]
      exact dead
    · exact absurd exchanged (final middle)

/-- A token being exchanged has not been exchanged. -/
theorem not_exchangedFor_of_inFlight (inv : Rotation state) {pid : Nat} {call : RefreshCall}
    {pc : RefreshPc} (present : state.procs pid = .refresh call pc) (flying : pc.inFlight = true)
    (new : String) : ¬ExchangedFor state (hashRefreshToken call.rawRefreshToken) new := by
  rintro ⟨other, otherCall, user, tokens, otherPresent, hashed, _⟩
  rcases exchanging_of_inFlight present flying with ⟨userId, exchanging⟩
  have theirs := exchanging_of_returned otherPresent
  rw [hashed] at theirs
  cases inv.exchangedOnce exchanging theirs
  rw [present] at otherPresent
  cases otherPresent
  cases flying

end Rotation

/-! ## A closed token stays closed -/

variable [PyUnicode]

/-- The execution has not got past the revocation of a token with this hash. -/
def NotExchanging (state : State) (pid : Nat) (hash : String) : Prop :=
  ∀ userId, (state.procs pid).exchanging ≠ some (hash, userId)

theorem notExchanging_of_dead {settings : Settings} {later : State} {hash : String} {pid : Nat}
    (run : Machine.Reaches (step settings) FreshTokens state later) (dead : Dead state hash)
    (before : NotExchanging state pid hash) : NotExchanging later pid hash := by
  refine (run.invariant (fun state => Dead state hash ∧ NotExchanging state pid hash) ?_
    ⟨dead, before⟩).2
  intro state label next held fresh stepped
  have transition := step_transition stepped
  refine ⟨held.1.step fresh transition, ?_⟩
  intro userId seen
  rcases transition.exchanging seen with earlier | ⟨row, member, _, hashed, _, unrevoked, _⟩
  · exact held.2 userId earlier
  · exact held.1.2 row member hashed unrevoked

/-- Refresh-token rotation is safe for any interleaving: a token is exchanged at most
once; the tokens of a session carry its user, at most one of them is active, and none
while one is being exchanged; and a refresh that starts after a logout of its token has
returned does not succeed. -/
theorem rotation_safe {settings : Settings} {clock : Instant} {users : Users}
    {tokens : RefreshTokens} {state : State}
    (run : Machine.Reaches (step settings) FreshTokens (State.init clock users tokens) state) :
    (∀ first second firstCall secondCall firstUser secondUser firstTokens secondTokens,
        state.procs first = .refresh firstCall (.issue (.returned firstUser firstTokens)) →
        state.procs second = .refresh secondCall (.issue (.returned secondUser secondTokens)) →
        firstCall.rawRefreshToken = secondCall.rawRefreshToken → first = second) ∧
      (∀ pid user,
        (∀ row ∈ state.tokens.rows, Descends state pid user row.tokenHash →
          row.userId = user.id) ∧
        (∀ first ∈ state.tokens.rows, ∀ second ∈ state.tokens.rows,
          Descends state pid user first.tokenHash → Descends state pid user second.tokenHash →
          first.isActive state.clock = true → second.isActive state.clock = true →
          first = second) ∧
        ∀ other call pc, state.procs other = .refresh call pc → pc.inFlight = true →
          Descends state pid user (hashRefreshToken call.rawRefreshToken) →
          ∀ row ∈ state.tokens.rows, Descends state pid user row.tokenHash →
            row.isActive state.clock = false) ∧
      ∀ closer logout refresher later refresh user tokens,
        state.procs closer = .logout logout .returned → state.procs refresher = .idle →
        Machine.Reaches (step settings) FreshTokens state later →
        later.procs refresher = .refresh refresh (.issue (.returned user tokens)) →
        refresh.rawRefreshToken ≠ logout.rawRefreshToken := by
  have inv := reachable_rotation run
  refine ⟨?_, ?_, ?_⟩
  · intro first second firstCall secondCall firstUser secondUser _ _ firstPresent secondPresent same
    have mine := exchanging_of_returned firstPresent
    rw [same] at mine
    exact inv.exchangedOnce mine (exchanging_of_returned secondPresent)
  · intro pid user
    refine ⟨?_, ?_, ?_⟩
    · intro row member descends
      rcases inv.issued_of_descends descends with ⟨issuer, issued⟩
      exact inv.issuedRows issued row member rfl
    · intro first firstMem second secondMem left right firstActive secondActive
      exact inv.unrevoked_unique firstMem secondMem left right
        (RefreshToken.isActive_iff.mp firstActive).1 (RefreshToken.isActive_iff.mp secondActive).1
    · intro other call pc present flying descends row member rowDescends
      rcases exchanging_of_inFlight present flying with ⟨userId, exchanging⟩
      have dead := inv.chain_dead_of_last descends (inv.exchanged exchanging)
        (inv.not_exchangedFor_of_inFlight present flying) rowDescends
      by_contra active
      rw [Bool.not_eq_false, RefreshToken.isActive_iff] at active
      exact dead.2 row member rfl active.1
  · intro closer logout refresher later refresh user tokens closed idle onward present same
    have dead : Dead state (hashRefreshToken logout.rawRefreshToken) := by
      refine inv.closed (?_ : (state.procs closer).closed = _)
      rw [closed]
      rfl
    have before : NotExchanging state refresher (hashRefreshToken logout.rawRefreshToken) := by
      intro userId seen
      rw [idle] at seen
      cases seen
    refine notExchanging_of_dead onward dead before user.id ?_
    rw [exchanging_of_returned present, same]

end Chains

namespace Sample

/-- The case mapping of ASCII. -/
@[reducible] def unicode : PyUnicode where
  lower value := String.ofList (value.toList.map Char.toLower)
  netlocAccepted _ := true

/-- Equality of code points. -/
@[reducible] def collation : Collation where
  weight value := value.toList.map Char.toNat

def firstToken : String := "3vTq0mYF8Zk2rLwXo5bHc9JdSgNpUeA1iQ7tKxRyMzE"

def secondToken : String := "Wm4JhC0pVtB7sGqLz2fXyR9nKdUaTeI6oE3ZxQ8rNvY"

def firstHash : String := "8ce225c82b4eac3e5c7bd1d37b7c60920e5446be650582a33ac7f9b04cd1af56"

def secondHash : String := "01e58348a1ea1f415541b7aeccc772fdefe594a876a43c4d803ac3dde18257ab"

def passwordHash : String := "$2a$05$CCCCCCCCCCCCCCCCCCCCC.E5YPO9kmyuRGyh0XouQYb4YMJKvyOeW"

/-- What the libraries return for the values of the run. -/
@[reducible] def crypto : Crypto where
  sha256Hex value :=
    if value = firstToken then firstHash else if value = secondToken then secondHash else ""
  checkpw password hash := some (decide (password = "U*U" ∧ hash = passwordHash))
  jwtEncode _ _ _ :=
    "eyJhbGciOiJIUzI1NiIsInR5cCI6IkpXVCJ9.eyJzdWIiOiI2Zjk2MTlmZi04Yjg2LTRkMDEtYjQy" ++
    "ZC0wMGNmNGZjOTY0ZmYiLCJyb2xlIjoiQURNSU4iLCJpYXQiOjE3NjcyMjU2MDAsImV4cCI6MTc2NzIyNjUwMH0." ++
    "si05fiRkj1B-98TGlqZTr8NHQv4dH072NhXjiukChs0"

attribute [local instance] unicode collation crypto

def settings : Settings where
  jwtSecretKey := "0123456789abcdef0123456789abcdef"
  jwtAlgorithm := "HS256"
  accessTokenTtl := 900000000
  refreshTokenTtl := 604800000000
  refreshTokenRetention := 2592000000000

def clock : Instant := 1767225600000000

def admin : UserModel where
  id := 148323679367508194544413127265212785919
  name := "Admin"
  email := "admin@ch-tech.dev"
  passwordHash := passwordHash
  role := "ADMIN"
  isActive := true
  lastLogin := none
  createdAt := 1764547200000000
  updatedAt := 1764547200000000

def start : State := State.init clock (.singleton admin) .empty

def client : Client := ⟨some "Mozilla/5.0", some "203.0.113.7"⟩

/-- A whole `Login`. -/
def login : List Label :=
  [.call 0 (.login ⟨"Admin@CH-TECH.dev", "U*U", client⟩), .advance 0, .advance 0, .advance 0,
    .generate 0 firstToken, .create 0 11]

/-- A refresh of its token, up to the user lookup. -/
def exchange : List Label :=
  [.call 1 (.refresh ⟨firstToken, client⟩), .advance 1, .advance 1, .advance 1]

/-- The rest of the refresh. -/
def store : List Label := [.generate 1 secondToken, .create 1 12]

/-- The user as `Login` has read it. -/
def adminUser : User where
  id := admin.id
  name := admin.name
  email := ⟨"admin@ch-tech.dev", by decide⟩
  passwordHash := passwordHash
  role := .admin
  isActive := true
  lastLogin := none
  createdAt := admin.createdAt
  updatedAt := admin.updatedAt

/-- No token of the session is active while its only one is being exchanged. -/
theorem rotation_safe_exchange :
    ∃ state, Machine.execIf (step settings) FreshTokens start (login ++ exchange) = some state ∧
      ∀ row ∈ state.tokens.rows, Descends state 0 adminUser row.tokenHash →
        row.isActive state.clock = false := by
  obtain ⟨state, executed⟩ := Option.isSome_iff_exists.mp
    (by decide : (Machine.execIf (step settings) FreshTokens start (login ++ exchange)).isSome)
  refine ⟨state, executed, ?_⟩
  have run : Machine.Reaches (step settings) FreshTokens start state :=
    ⟨_, Machine.Runs.of_execIf executed⟩
  have loggedIn : state.procs 0 = .login ⟨"Admin@CH-TECH.dev", "U*U", client⟩
      (.issue (.returned adminUser (authTokens settings adminUser firstToken clock))) :=
    Machine.read_of_map (fun state => state.procs 0) executed rfl
  have flying : state.procs 1 = .refresh ⟨firstToken, client⟩
      (.issue (.generate { adminUser with lastLogin := some clock, updatedAt := clock })) :=
    Machine.read_of_map (fun state => state.procs 1) executed rfl
  exact ((rotation_safe run).2.1 0 adminUser).2.2 1 _ _ flying rfl ⟨_, _, loggedIn, .refl⟩

end Sample

end ChTech.Auth
