import ChTech.Core.Security
import ChTech.Foundation.Transition
import ChTech.Infrastructure.RefreshTokenRepository

/-!
# Concurrent authentication requests

Any number of `Login`, `RefreshAccessToken`, `Logout` and `PurgeExpiredRefreshTokens`
executions run at once.  Each is split where it reads the clock, generates a value or
runs a transaction, and the parts of different executions interleave freely.

The state also records every hash and every row id ever generated.
-/

namespace ChTech.Auth

open Foundation

structure AuthTokens where
  accessToken : String
  refreshToken : String
  deriving DecidableEq, Repr

/-- What the request tells about the client. -/
structure Client where
  userAgent : Option String
  ipAddress : Option String
  deriving DecidableEq, Repr

/-- `_issue_refresh_token`, the access token and the result: the end that `Login` and
`RefreshAccessToken` share. -/
inductive IssuePc where
  | generate (user : User)
  | create (user : User) (rawToken : String) (now : Instant)
  | returned (user : User) (tokens : AuthTokens)
  | raised (error : Raised)
  deriving DecidableEq

structure LoginCall where
  email : String
  password : String
  client : Client
  deriving DecidableEq, Repr

inductive LoginPc where
  | getByEmail
  | readClock (user : User)
  | recordLogin (user : User) (now : Instant)
  | issue (pc : IssuePc)
  deriving DecidableEq

structure RefreshCall where
  rawRefreshToken : String
  client : Client
  deriving DecidableEq, Repr

inductive RefreshPc where
  | readClock
  | revokeIfActive (now : Instant)
  | getById (token : RefreshToken)
  | issue (pc : IssuePc)
  deriving DecidableEq

structure LogoutCall where
  rawRefreshToken : String
  currentUserId : UUID
  deriving DecidableEq, Repr

inductive LogoutPc where
  | getByTokenHash
  | readClock (token : RefreshToken)
  | save (token : RefreshToken) (now : Instant)
  | returned
  | raised (error : Raised)
  deriving DecidableEq, Repr

inductive PurgePc where
  | readClock
  | select (cutoff : Instant)
  | delete (ids : List UUID)
  | returned (count : Nat)
  deriving DecidableEq, Repr

/-- An execution: its arguments and where it stands. -/
inductive Proc where
  | idle
  | login (call : LoginCall) (pc : LoginPc)
  | refresh (call : RefreshCall) (pc : RefreshPc)
  | logout (call : LogoutCall) (pc : LogoutPc)
  | purge (pc : PurgePc)
  deriving DecidableEq

inductive Request where
  | login (call : LoginCall)
  | refresh (call : RefreshCall)
  | logout (call : LogoutCall)
  | purge
  deriving DecidableEq, Repr

def Request.start : Request → Proc
  | .login call => .login call .getByEmail
  | .refresh call => .refresh call .readClock
  | .logout call => .logout call .getByTokenHash
  | .purge => .purge .readClock

structure State [Collation] where
  clock : Instant
  users : Users
  tokens : RefreshTokens
  procs : Nat → Proc
  hashes : List String
  ids : List UUID

/-- No execution yet, over any stored rows. -/
def State.init [Collation] (clock : Instant) (users : Users) (tokens : RefreshTokens) : State :=
  ⟨clock, users, tokens, fun _ => .idle, tokens.rows.map RefreshToken.tokenHash,
    tokens.rows.map RefreshToken.id⟩

inductive Label [Collation] where
  | tick (clock : Instant)
  /-- A write to `users` from outside. -/
  | users (users : Users)
  | call (pid : Nat) (request : Request)
  /-- The next part of a `Login`, `RefreshAccessToken` or `Logout`. -/
  | advance (pid : Nat)
  /-- `generate_refresh_token` returns the given value. -/
  | generate (pid : Nat) (rawToken : String)
  /-- The transaction of `create`, with the row id generated for it. -/
  | create (pid : Nat) (id : UUID)
  /-- The next part of a `PurgeExpiredRefreshTokens`. -/
  | purge (pid : Nat)

/-- The execution that a label moves. -/
def Label.pid [Collation] : Label → Option Nat
  | .tick _ | .users _ => none
  | .call pid _ | .advance pid | .generate pid _ | .create pid _ | .purge pid => some pid

/-! ## Their parts -/

section Parts

variable [PyUnicode] [Collation] [Crypto]

def invalidEmailOrPassword : Raised := .app (.unauthorizedError "Invalid email or password")

def invalidRefreshToken : Raised := .app (.unauthorizedError "Invalid refresh token")

def invalidOrExpiredRefreshToken : Raised :=
  .app (.unauthorizedError "Invalid or expired refresh token")

/-- The user lookup of `Login` and the one error for all its refusals. -/
def verifyCredentials (users : Users) (call : LoginCall) : LoginPc :=
  match UserRepository.getByEmail users (PyUnicode.lower (PyString.strip call.email)) with
  | .error raised => .issue (.raised raised)
  | .ok none => .issue (.raised invalidEmailOrPassword)
  | .ok (some user) =>
      if user.isActive && verifyPassword call.password user.passwordHash then .readClock user
      else .issue (.raised invalidEmailOrPassword)

/-- The user lookup of `RefreshAccessToken`. -/
def lookUpUser (users : Users) (token : RefreshToken) : IssuePc :=
  match UserRepository.getById users token.userId with
  | .error raised => .raised raised
  | .ok none => .raised invalidOrExpiredRefreshToken
  | .ok (some user) =>
      if user.isActive then .generate user else .raised invalidOrExpiredRefreshToken

/-- The ownership check of `Logout`. -/
def checkOwner (tokens : RefreshTokens) (call : LogoutCall) : LogoutPc :=
  match RefreshTokenRepository.getByTokenHash tokens (hashRefreshToken call.rawRefreshToken) with
  | none => .raised invalidRefreshToken
  | some token =>
      if token.userId = call.currentUserId then .readClock token else .raised invalidRefreshToken

/-- The row that `_issue_refresh_token` stores. -/
def newToken (settings : Settings) (client : Client) (user : User) (rawToken : String)
    (now : Instant) (id : UUID) : RefreshToken where
  id := id
  userId := user.id
  tokenHash := hashRefreshToken rawToken
  issuedAt := now
  expiresAt := now + settings.refreshTokenTtl
  revokedAt := none
  userAgent := client.userAgent
  ipAddress := client.ipAddress

/-- The result of `Login` and `RefreshAccessToken`. -/
def authTokens (settings : Settings) (user : User) (rawToken : String) (now : Instant) :
    AuthTokens :=
  ⟨createAccessToken settings now user.id.str user.role.value, rawToken⟩

end Parts

namespace State

variable [PyUnicode] [Collation] [Crypto]

/-- Move an execution on. -/
def move (state : State) (pid : Nat) (proc : Proc) : Nat → Proc :=
  Function.update state.procs pid proc

/-- A transaction that raises moves the execution to its end. -/
def advanceLogin (state : State) (pid : Nat) (call : LoginCall) : LoginPc → Option State
  | .getByEmail =>
      some { state with procs := state.move pid (.login call (verifyCredentials state.users call)) }
  | .readClock user =>
      some { state with procs := state.move pid (.login call (.recordLogin user state.clock)) }
  | .recordLogin user now =>
      match UserRepository.recordLogin state.users user.id now state.clock with
      | .error raised =>
          some { state with procs := state.move pid (.login call (.issue (.raised raised))) }
      | .ok users =>
          some { state with
            users
            procs := state.move pid (.login call (.issue (.generate user))) }
  | .issue _ => none

def advanceRefresh (state : State) (pid : Nat) (call : RefreshCall) : RefreshPc → Option State
  | .readClock =>
      some { state with procs := state.move pid (.refresh call (.revokeIfActive state.clock)) }
  | .revokeIfActive now =>
      match (RefreshTokenRepository.revokeIfActive state.tokens
          (hashRefreshToken call.rawRefreshToken) now).2 with
      | none =>
          some { state with
            procs := state.move pid
              (.refresh call (.issue (.raised invalidOrExpiredRefreshToken))) }
      | some token =>
          some { state with
            tokens := (RefreshTokenRepository.revokeIfActive state.tokens
              (hashRefreshToken call.rawRefreshToken) now).1
            procs := state.move pid (.refresh call (.getById token)) }
  | .getById token =>
      some { state with
        procs := state.move pid (.refresh call (.issue (lookUpUser state.users token))) }
  | .issue _ => none

def advanceLogout (state : State) (pid : Nat) (call : LogoutCall) : LogoutPc → Option State
  | .getByTokenHash =>
      some { state with procs := state.move pid (.logout call (checkOwner state.tokens call)) }
  | .readClock token =>
      some { state with procs := state.move pid (.logout call (.save token state.clock)) }
  | .save token now =>
      match RefreshTokenRepository.save state.tokens (token.revoke now) with
      | .error raised =>
          some { state with procs := state.move pid (.logout call (.raised raised)) }
      | .ok tokens =>
          some { state with
            tokens
            procs := state.move pid (.logout call .returned) }
  | .returned | .raised _ => none

def advancePurge (settings : Settings) (state : State) (pid : Nat) : PurgePc → Option State
  | .readClock =>
      some { state with
        procs := state.move pid (.purge (.select (state.clock - settings.refreshTokenRetention))) }
  | .select cutoff =>
      match RefreshTokenRepository.selectPurgeable state.tokens cutoff with
      | [] => some { state with procs := state.move pid (.purge (.returned 0)) }
      | id :: ids => some { state with procs := state.move pid (.purge (.delete (id :: ids))) }
  | .delete ids =>
      some { state with
        tokens := RefreshTokenRepository.deleteByIds state.tokens ids
        procs := state.move pid (.purge (.returned ids.length)) }
  | .returned _ => none

/-- An execution that has reached `_issue_refresh_token`: its client, where it stands
there, and how to put it elsewhere. -/
def issuing : Proc → Option (Client × IssuePc × (IssuePc → Proc))
  | .login call (.issue pc) => some (call.client, pc, fun next => .login call (.issue next))
  | .refresh call (.issue pc) => some (call.client, pc, fun next => .refresh call (.issue next))
  | _ => none

/-- `generate_refresh_token`, and the clock reading after it. -/
def generate (state : State) (pid : Nat) (rawToken : String) : Option State :=
  match issuing (state.procs pid) with
  | some (_, .generate user, resume) =>
      some { state with
        procs := state.move pid (resume (.create user rawToken state.clock))
        hashes := hashRefreshToken rawToken :: state.hashes }
  | _ => none

/-- The transaction of `create`; what follows it raises nothing. -/
def create (settings : Settings) (state : State) (pid : Nat) (id : UUID) : Option State :=
  match issuing (state.procs pid) with
  | some (client, .create user rawToken now, resume) =>
      match RefreshTokenRepository.create state.users state.tokens
          (newToken settings client user rawToken now id) with
      | .error raised => some { state with procs := state.move pid (resume (.raised raised)) }
      | .ok tokens =>
          some { state with
            tokens
            procs := state.move pid
              (resume (.returned user (authTokens settings user rawToken state.clock)))
            ids := id :: state.ids }
  | _ => none

end State

/-- The machine.  Clock readings never go backwards. -/
def step [PyUnicode] [Collation] [Crypto] (settings : Settings) : Machine State Label
  | state, .tick clock => if state.clock ≤ clock then some { state with clock } else none
  | state, .users users => some { state with users }
  | state, .call pid request =>
      match state.procs pid with
      | .idle => some { state with procs := state.move pid request.start }
      | _ => none
  | state, .advance pid =>
      match state.procs pid with
      | .login call pc => state.advanceLogin pid call pc
      | .refresh call pc => state.advanceRefresh pid call pc
      | .logout call pc => state.advanceLogout pid call pc
      | .idle | .purge _ => none
  | state, .generate pid rawToken => state.generate pid rawToken
  | state, .create pid id => state.create settings pid id
  | state, .purge pid =>
      match state.procs pid with
      | .purge pc => state.advancePurge settings pid pc
      | _ => none

end ChTech.Auth
