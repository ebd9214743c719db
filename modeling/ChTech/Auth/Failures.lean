import Mathlib.Data.Set.Insert
import ChTech.Auth.Sessions
import ChTech.Foundation.Program

/-!
# Rotation with failing operations

One `RefreshAccessToken` execution alone, with every statement and every commit an
operation that may fail.  The revocation is committed first and on its own, so a failure
after it, or a user who is missing or deactivated, ends the session instead of undoing
the revocation.
-/

namespace ChTech.Auth

open Foundation RefreshTokenRepository

section Execution

variable [PyUnicode] [Collation] [Crypto]

/-- The database as the execution sees it. -/
structure Db where
  users : Users
  tokens : RefreshTokens

/-- The operations of one execution, in their order. -/
inductive Operation where
  | selectForUpdate
  | commitNothing
  | commitRevocation
  | refreshRevoked
  | selectUser
  | commitCreate
  | refreshCreated
  deriving DecidableEq, Repr

abbrev Faults := Operation → Option Fault

/-- What the environment hands the execution: clock readings and generated values. -/
structure Inputs where
  revocation : Instant
  issue : Instant
  access : Instant
  rawToken : String
  id : UUID
  deriving DecidableEq, Repr

abbrev Session := Program Db Raised

def operation {α : Type} (faults : Faults) (name : Operation)
    (effect : Db → Except Raised (α × Db)) : Session α :=
  Program.perform faults .operationalError name effect

/-- `session.refresh(model)`: read the row again by its key. -/
def refreshModel (faults : Faults) (name : Operation) (id : UUID) : Session RefreshToken :=
  operation faults name fun db =>
    match db.tokens.find? fun row => row.id == id with
    | none => .error .operationalError
    | some row => .ok (row, db)

/-- `revoke_if_active`, operation by operation. -/
def revokeIfActiveOps (faults : Faults) (tokenHash : String) (now : Instant) :
    Session (Option RefreshToken) := do
  let found ← operation faults .selectForUpdate fun db =>
    .ok (db.tokens.find? (selectsActive tokenHash now), db)
  match found with
  | none =>
      operation faults .commitNothing fun db => .ok ((), db)
      return none
  | some row =>
      operation faults .commitRevocation fun db =>
        .ok ((), { db with tokens := setRevokedAt db.tokens row.id (some now) })
      let token ← refreshModel faults .refreshRevoked row.id
      return some token

/-- `create`, operation by operation. -/
def createOps (faults : Faults) (row : RefreshToken) : Session RefreshToken := do
  operation faults .commitCreate fun db =>
    (RefreshTokenRepository.create db.users db.tokens row).map fun tokens =>
      ((), { db with tokens })
  refreshModel faults .refreshCreated row.id

/-- The part of `execute` after the revocation. -/
def issueFor (settings : Settings) (faults : Faults) (call : RefreshCall) (inputs : Inputs)
    (token : RefreshToken) : Session AuthTokens := do
  let found ← operation faults .selectUser fun db =>
    (UserRepository.getById db.users token.userId).map fun user => (user, db)
  match found with
  | none => Program.raise invalidOrExpiredRefreshToken
  | some user =>
      if user.isActive then
        let _ ← createOps faults
          (newToken settings call.client user inputs.rawToken inputs.issue inputs.id)
        return authTokens settings user inputs.rawToken inputs.access
      else
        Program.raise invalidOrExpiredRefreshToken

/-- `RefreshAccessToken.execute`. -/
def execute (settings : Settings) (faults : Faults) (call : RefreshCall) (inputs : Inputs) :
    Session AuthTokens := do
  let found ← revokeIfActiveOps faults (hashRefreshToken call.rawRefreshToken) inputs.revocation
  match found with
  | none => Program.raise invalidOrExpiredRefreshToken
  | some token => issueFor settings faults call inputs token

/-- The active tokens at an instant. -/
def ActiveAt (tokens : RefreshTokens) (instant : Instant) : Set RefreshToken :=
  { row | row ∈ tokens.rows ∧ row.isActive instant = true }

/-- The row is revoked, and nothing else has changed. -/
def Revoked (before : Db) (row : RefreshToken) (now : Instant) (after : Db) : Prop :=
  after.tokens = setRevokedAt before.tokens row.id (some now)

/-- The row is revoked and one new row is stored. -/
def Rotated (before : Db) (row new : RefreshToken) (now : Instant) (after : Db) : Prop :=
  after.tokens.rows = (setRevokedAt before.tokens row.id (some now)).rows ++ [new]

/-- The row is revoked and a new one for its user is stored, by the issue of `inputs`. -/
def Reissued (settings : Settings) (inputs : Inputs) (before : Db) (row : RefreshToken)
    (after : Db) : Prop :=
  ∃ new : RefreshToken, Rotated before row new inputs.revocation after ∧
    new.userId = row.userId ∧ new.tokenHash = hashRefreshToken inputs.rawToken ∧
    new.revokedAt = none ∧ new.expiresAt = inputs.issue + settings.refreshTokenTtl

/-- The answer to the insertion, or the re-read after it, fails. -/
def lostAfterCreate (faults : Faults) : Prop :=
  faults .commitCreate = some .after ∨ faults .refreshCreated ≠ none

variable {settings : Settings} {faults : Faults} {call : RefreshCall} {inputs : Inputs}

omit [PyUnicode] [Crypto] in
theorem refreshModel_ensures {name : Operation} {id : UUID} {db : Db} {row : RefreshToken}
    {returns : RefreshToken → Db → Prop} {raises : Raised → Db → Prop}
    (found : (db.tokens.find? fun stored => stored.id == id) = some row)
    (answered : returns row db) (failed : faults name ≠ none → raises .operationalError db) :
    Program.Ensures (refreshModel faults name id) db returns raises := by
  apply Program.Ensures.perform
  · intro value next _ read
    simp only [found] at read
    cases read
    exact answered
  · intro value next fault read
    simp only [found] at read
    cases read
    exact failed (by simp [fault])
  · intro raised _ read
    simp [found] at read
  · intro fault
    exact failed (by simp [fault])

/-- The part after the revocation returns with the new row stored, or raises: with the new
row stored only when the failure came after the insertion. -/
theorem issueFor_ensures {before db : Db} {row token : RefreshToken}
    (revoked : Revoked before row inputs.revocation db) (sameUser : token.userId = row.userId) :
    Program.Ensures (issueFor settings faults call inputs token) db
      (fun tokens after => tokens.refreshToken = inputs.rawToken ∧
        Reissued settings inputs before row after)
      (fun _ after => Revoked before row inputs.revocation after ∨
        lostAfterCreate faults ∧ Reissued settings inputs before row after) := by
  apply Program.Ensures.bind
  apply Program.Ensures.perform
  · intro found middle _ read
    rcases Result.map_eq_ok.mp read with ⟨_, looked, pair⟩
    cases pair
    cases found with
    | none => exact Program.Ensures.raise (.inl revoked)
    | some user =>
        have sameId := UserRepository.getById_id looked
        simp only
        split
        · let new := newToken settings call.client user inputs.rawToken inputs.issue inputs.id
          have reissued : ∀ tokens : RefreshTokens, tokens.rows = db.tokens.rows ++ [new] →
              Reissued settings inputs before row { db with tokens } := by
            intro tokens rows
            refine ⟨new, ?_, sameId.trans sameUser, rfl, rfl, rfl⟩
            rw [Rotated, rows, revoked]
          apply Program.Ensures.bind
          apply Program.Ensures.bind
          apply Program.Ensures.perform
          · intro _ next _ inserted
            rcases Result.map_eq_ok.mp inserted with ⟨tokens, created, pair⟩
            cases pair
            have rows := create_eq_ok created
            exact refreshModel_ensures (find?_created rows) ⟨rfl, reissued tokens rows⟩
              (fun fault => .inr ⟨.inr fault, reissued tokens rows⟩)
          · intro _ next fault inserted
            rcases Result.map_eq_ok.mp inserted with ⟨tokens, created, pair⟩
            cases pair
            exact .inr ⟨.inl fault, reissued tokens (create_eq_ok created)⟩
          · intro raised _ _
            exact .inl revoked
          · intro _
            exact .inl revoked
        · exact Program.Ensures.raise (.inl revoked)
  · intro found middle _ read
    rcases Result.map_eq_ok.mp read with ⟨_, _, pair⟩
    cases pair
    exact .inl revoked
  · intro raised _ _
    exact .inl revoked
  · intro _
    exact .inl revoked

/-- The revocation reaches the database. -/
def commitsRevocation (faults : Faults) : Prop :=
  faults .selectForUpdate = none ∧ faults .commitRevocation ≠ some .before

/-- The row that the execution finds active. -/
def presented (db : Db) (call : RefreshCall) (inputs : Inputs) : Option RefreshToken :=
  db.tokens.find? (selectsActive (hashRefreshToken call.rawRefreshToken) inputs.revocation)

/-- Without an active row, or with a failure before the revocation is committed, nothing
changes; otherwise the row is revoked, whatever happens next. -/
theorem execute_ensures (db : Db) :
    Program.Ensures (execute settings faults call inputs) db
      (fun tokens after => ∃ row, presented db call inputs = some row ∧ commitsRevocation faults ∧
        tokens.refreshToken = inputs.rawToken ∧ Reissued settings inputs db row after)
      (fun _ after =>
        (presented db call inputs = none ∨ ¬commitsRevocation faults) ∧
          after.tokens = db.tokens ∨
        ∃ row, presented db call inputs = some row ∧ commitsRevocation faults ∧
          (Revoked db row inputs.revocation after ∨
            lostAfterCreate faults ∧ Reissued settings inputs db row after)) := by
  apply Program.Ensures.bind
  apply Program.Ensures.bind
  apply Program.Ensures.perform
  · intro found middle selected read
    cases read
    cases chosen : presented db call inputs with
    | none =>
        simp only [presented] at chosen
        simp only [chosen]
        apply Program.Ensures.bind
        apply Program.Ensures.perform
        · intro _ next _ nothing
          cases nothing
          exact .inl ⟨.inl trivial, rfl⟩
        · intro _ next _ nothing
          cases nothing
          exact .inl ⟨.inl trivial, rfl⟩
        · intro raised _ nothing
          cases nothing
        · intro _
          exact .inl ⟨.inl trivial, rfl⟩
    | some row =>
        have member := (Table.mem_of_find? chosen).1
        simp only [presented] at chosen
        simp only [chosen]
        apply Program.Ensures.bind
        apply Program.Ensures.perform
        · intro _ next fault written
          cases written
          have commits : commitsRevocation faults := ⟨selected, by simp [fault]⟩
          apply Program.Ensures.bind
          apply refreshModel_ensures (find?_setRevokedAt member)
          · have revoked : Revoked db row inputs.revocation
                { db with tokens := setRevokedAt db.tokens row.id (some inputs.revocation) } := rfl
            apply Program.Ensures.pure
            refine Program.Ensures.mono (issueFor_ensures revoked rfl) ?_ ?_
            · exact fun _ _ returned => ⟨row, rfl, commits, returned⟩
            · exact fun _ _ raised => .inr ⟨row, rfl, commits, raised⟩
          · intro _
            exact .inr ⟨row, rfl, commits, .inl rfl⟩
        · intro _ next fault written
          cases written
          exact .inr ⟨row, rfl, ⟨selected, by simp [fault]⟩, .inl rfl⟩
        · intro raised _ written
          cases written
        · intro fault
          exact .inl ⟨.inr fun commits => commits.2 fault, rfl⟩
  · intro found middle fault read
    cases read
    refine .inl ⟨.inr ?_, rfl⟩
    intro commits
    cases fault.symm.trans commits.1
  · intro raised _ read
    cases read
  · intro fault
    refine .inl ⟨.inr ?_, rfl⟩
    intro commits
    cases fault.symm.trans commits.1

end Execution

/-- Revoking a row takes it out of the active tokens. -/
theorem activeAt_revoked {tokens : RefreshTokens} {row : RefreshToken} {now instant : Instant}
    (member : row ∈ tokens.rows) :
    ActiveAt (setRevokedAt tokens row.id (some now)) instant =
      ActiveAt tokens instant \ {row} := by
  ext other
  constructor
  · rintro ⟨otherMem, active⟩
    rcases mem_setRevokedAt.mp otherMem with ⟨stored, storedMem, rfl⟩
    have unrevoked := (RefreshToken.isActive_iff.mp active).1
    rw [withRevokedAt_revokedAt] at unrevoked
    split at unrevoked
    next => cases unrevoked
    next different =>
      have kept : withRevokedAt row.id (some now) stored = stored := by
        simp [withRevokedAt, different]
      rw [kept] at active ⊢
      refine ⟨⟨storedMem, active⟩, ?_⟩
      intro same
      subst same
      exact different rfl
  · rintro ⟨⟨otherMem, active⟩, different⟩
    have apart : other.id ≠ row.id := fun same => different (eq_of_id otherMem member same)
    refine ⟨mem_setRevokedAt.mpr ⟨other, otherMem, ?_⟩, active⟩
    simp [withRevokedAt, apart]

section Rotation

variable [Collation] {before after : Db} {row new : RefreshToken} {now instant : Instant}

/-- A rotation replaces one active token by another. -/
theorem activeAt_rotated (rotated : Rotated before row new now after)
    (member : row ∈ before.tokens.rows) (active : new.isActive instant = true) :
    ActiveAt after.tokens instant = insert new (ActiveAt before.tokens instant \ {row}) := by
  have rows : ∀ other, other ∈ after.tokens.rows ↔
      other ∈ (setRevokedAt before.tokens row.id (some now)).rows ∨ other = new := by
    intro other
    rw [rotated, List.mem_append, List.mem_singleton]
  rw [← @activeAt_revoked before.tokens row now instant member]
  ext other
  constructor
  · rintro ⟨stored, live⟩
    rcases (rows other).mp stored with old | same
    · exact .inr ⟨old, live⟩
    · exact .inl same
  · rintro (rfl | ⟨old, live⟩)
    · exact ⟨(rows other).mpr (.inr rfl), active⟩
    · exact ⟨(rows other).mpr (.inl old), live⟩

/-- The new token of a rotation was not stored before. -/
theorem new_of_rotated (rotated : Rotated before row new now after) :
    new ∉ before.tokens.rows := by
  intro member
  have distinct := after.tokens.distinct
  rw [rotated] at distinct
  have apart := (List.pairwise_append.mp distinct).2.2 _ (mem_setRevokedAt.mpr ⟨new, member, rfl⟩)
    new (List.mem_singleton_self new)
  simp [RefreshToken.clash] at apart

end Rotation

section Outcome

variable [PyUnicode] [Collation] [Crypto] {settings : Settings} {faults : Faults}
  {call : RefreshCall} {inputs : Inputs}

/-- The active tokens after an execution that has stored a new row. -/
def Exchanged (settings : Settings) (inputs : Inputs) (before : Db) (row : RefreshToken)
    (after : Db) : Prop :=
  { row with revokedAt := some inputs.revocation } ∈ after.tokens.rows ∧
    ∃ new ∉ before.tokens.rows, new.userId = row.userId ∧
      new.tokenHash = hashRefreshToken inputs.rawToken ∧
      ∀ instant < inputs.issue + settings.refreshTokenTtl,
        ActiveAt after.tokens instant = insert new (ActiveAt before.tokens instant \ {row})

omit [PyUnicode] in
theorem exchanged_of_reissued {before after : Db} {row : RefreshToken}
    (member : row ∈ before.tokens.rows) (reissued : Reissued settings inputs before row after) :
    Exchanged settings inputs before row after := by
  rcases reissued with ⟨new, rotated, sameUser, hashed, unrevoked, expires⟩
  refine ⟨?_, new, new_of_rotated rotated, sameUser, hashed, ?_⟩
  · rw [rotated]
    refine List.mem_append_left _ (mem_setRevokedAt.mpr ⟨row, member, ?_⟩)
    simp [withRevokedAt]
  · intro instant early
    apply activeAt_rotated rotated member
    exact RefreshToken.isActive_iff.mpr ⟨unrevoked, expires ▸ early⟩

/-- What a refresh leaves behind.  If it returns, the presented token is revoked and one new
active token of the same user is stored, the one returned.  If it raises, the active tokens
are the same when there was no active token or the revocation was not committed; otherwise
the presented token is no longer active, and a new one is stored only when the failure
came after its insertion. -/
theorem rotation_outcome (db : Db) :
    (∀ tokens, (execute settings faults call inputs db).1 = .ok tokens →
      tokens.refreshToken = inputs.rawToken ∧
        ∃ row, presented db call inputs = some row ∧
          Exchanged settings inputs db row (execute settings faults call inputs db).2) ∧
      ∀ raised, (execute settings faults call inputs db).1 = .error raised →
        ((presented db call inputs = none ∨ ¬commitsRevocation faults) →
          ∀ instant, ActiveAt (execute settings faults call inputs db).2.tokens instant =
            ActiveAt db.tokens instant) ∧
        ∀ row, presented db call inputs = some row → commitsRevocation faults →
          (∀ instant, ActiveAt (execute settings faults call inputs db).2.tokens instant =
            ActiveAt db.tokens instant \ {row}) ∨
          lostAfterCreate faults ∧
            Exchanged settings inputs db row (execute settings faults call inputs db).2 := by
  have ensured : Program.Ensures (execute settings faults call inputs) db _ _ :=
    execute_ensures db
  constructor
  · intro tokens returned
    rcases ensured.of_returned returned with ⟨row, found, _, same, reissued⟩
    exact ⟨same, row, found, exchanged_of_reissued (Table.mem_of_find? found).1 reissued⟩
  · intro raised ended
    have outcome := ensured.of_raised ended
    constructor
    · intro unreached instant
      rcases outcome with ⟨_, same⟩ | ⟨row, found, commits, _⟩
      · rw [same]
      · rcases unreached with missing | failed
        · rw [found] at missing
          cases missing
        · exact absurd commits failed
    · intro row found commits
      have member := (Table.mem_of_find? found).1
      rcases outcome with ⟨missing | failed, _⟩ | ⟨other, otherFound, _, result⟩
      · rw [found] at missing
        cases missing
      · exact absurd commits failed
      · rw [found] at otherFound
        cases otherFound
        rcases result with revoked | ⟨lost, reissued⟩
        · refine .inl fun instant => ?_
          rw [revoked]
          exact activeAt_revoked member
        · exact .inr ⟨lost, exchanged_of_reissued member reissued⟩

end Outcome

namespace Sample

attribute [local instance] unicode collation crypto

def firstRow : RefreshToken := newToken settings client adminUser firstToken clock 11

def stored : Db := ⟨.singleton admin, .singleton firstRow⟩

def inputs : Inputs := ⟨clock, clock, clock, secondToken, 12⟩

/-- The connection is lost at the user lookup. -/
def lostUserLookup : Faults
  | .selectUser => some .before
  | _ => none

theorem rotation_half_done :
    ¬ ∀ (settings : Settings) (faults : Faults) (call : RefreshCall) (inputs : Inputs) (db : Db)
        (raised : Raised),
      (execute settings faults call inputs db).1 = .error raised →
      ∀ instant, ActiveAt (execute settings faults call inputs db).2.tokens instant =
        ActiveAt db.tokens instant := by
  intro claim
  have same := claim settings lostUserLookup ⟨firstToken, client⟩ inputs stored
    .operationalError rfl clock
  have active : firstRow ∈ ActiveAt stored.tokens clock := ⟨List.mem_cons_self, by decide⟩
  rw [← same] at active
  exact absurd active.1 (by decide)

end Sample

end ChTech.Auth
