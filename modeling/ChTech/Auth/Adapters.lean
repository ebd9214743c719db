import Mathlib.Data.List.Nodup
import ChTech.Auth.Failures
import ChTech.Foundation.Coupling

/-!
# The two refresh token adapters

The use cases depend on the `RefreshTokenRepository` port.  Here they run over the SQL
adapter and over the in-memory one of the tests, one execution after the other.  The SQL
adapter hands out copies of its rows, the in-memory one the very objects it stores, so that
`token.revoke` is an operation of the port as well.
-/

namespace ChTech.Auth

open Foundation RefreshTokenRepository

/-- The operations that the use cases have on tokens. -/
structure RefreshTokenPort [Collation] where
  Store : Type
  create : Users → RefreshToken → Store → Except Raised (RefreshToken × Store)
  getByTokenHash : Store → String → Option RefreshToken
  /-- `token.revoke`, on a token that was handed out. -/
  revoke : Store → RefreshToken → Instant → RefreshToken × Store
  save : Store → RefreshToken → Except Raised Store
  revokeIfActive : Store → String → Instant → Option RefreshToken × Store
  purgeOlderThan : Store → Instant → Nat × Store

/-- `SQLAlchemyRefreshTokenRepository`. -/
def sqlAlchemy [Collation] : RefreshTokenPort where
  Store := RefreshTokens
  create users row tokens :=
    (RefreshTokenRepository.create users tokens row).map fun next => (row, next)
  getByTokenHash := RefreshTokenRepository.getByTokenHash
  revoke tokens token instant := (token.revoke instant, tokens)
  save := RefreshTokenRepository.save
  revokeIfActive tokens tokenHash instant :=
    ((RefreshTokenRepository.revokeIfActive tokens tokenHash instant).2,
      (RefreshTokenRepository.revokeIfActive tokens tokenHash instant).1)
  purgeOlderThan tokens cutoff :=
    match selectPurgeable tokens cutoff with
    | [] => (0, tokens)
    | id :: ids => ((id :: ids).length, deleteByIds tokens (id :: ids))

/-- `_rows`: the stored objects by their ids, in the order of their insertion. -/
abbrev InMemory := Table RefreshToken fun first second => first.id == second.id

namespace InMemory

/-- A change of the object with the given id. -/
def alter (id : UUID) (change : RefreshToken → RefreshToken) (row : RefreshToken) :
    RefreshToken :=
  if row.id == id then { change row with id := row.id } else row

theorem alter_id (id : UUID) (change : RefreshToken → RefreshToken) (row : RefreshToken) :
    (alter id change row).id = row.id := by
  simp only [alter]
  split <;> rfl

/-- The stored object changes in place. -/
def mutate (rows : InMemory) (id : UUID) (change : RefreshToken → RefreshToken) : InMemory :=
  rows.modify (alter id change) fun first second => by rw [alter_id, alter_id]

theorem mem_mutate {rows : InMemory} {id : UUID} {change : RefreshToken → RefreshToken}
    {row : RefreshToken} :
    row ∈ (rows.mutate id change).rows ↔ ∃ stored ∈ rows.rows, alter id change stored = row := by
  simp [mutate]

/-- `self._rows[token.id] = token`. -/
def put (rows : InMemory) (token : RefreshToken) : InMemory :=
  match rows.insert? token with
  | some next => next
  | none => rows.mutate token.id fun _ => token

theorem put_of_stored {rows : InMemory} {token object : RefreshToken} (member : object ∈ rows.rows)
    (same : object.id = token.id) : rows.put token = rows.mutate token.id fun _ => token := by
  have refused : rows.insert? token = none := by
    apply dif_neg
    intro free
    have apart : (object.id == token.id) = false := free object member
    rw [beq_iff_eq.mpr same] at apart
    cases apart
  simp only [put, refused]

/-- Storing an object replaces what an earlier change made of it. -/
theorem mutate_mutate {rows : InMemory} {id : UUID} {change : RefreshToken → RefreshToken}
    {token : RefreshToken} :
    ((rows.mutate id change).mutate id fun _ => token) = rows.mutate id fun _ => token := by
  apply Table.ext
  simp only [mutate, Table.modify, List.map_map]
  apply List.map_congr_left
  intro row _
  simp only [Function.comp, alter]
  by_cases same : row.id = id
  · simp only [same, beq_self_eq_true, if_true]
  · simp only [beq_eq_false_iff_ne.mpr same, Bool.false_eq_true, if_false]

/-- The condition of `purge_older_than`. -/
def toDelete (cutoff : Instant) (token : RefreshToken) : Bool :=
  decide (token.expiresAt < cutoff) ||
    token.revokedAt.isSome && token.revokedAt.any fun revokedAt => decide (revokedAt < cutoff)

/-- The object that was handed out, as it is now. -/
def current (rows : InMemory) (token : RefreshToken) : RefreshToken :=
  (rows.find? fun row => row.id == token.id).getD token

theorem current_of_mem {rows : InMemory} {token : RefreshToken} (member : token ∈ rows.rows) :
    rows.current token = token := by
  have found : (rows.find? fun row => row.id == token.id) = some token :=
    Table.find?_of_unique member (beq_self_eq_true token.id) fun other otherMem same =>
      Table.eq_of_clash otherMem member same (beq_iff_eq.mpr (beq_iff_eq.mp same).symm)
  rw [current, found, Option.getD_some]

end InMemory

/-- `InMemoryRefreshTokenRepository`. -/
def inMemory [Collation] : RefreshTokenPort where
  Store := InMemory
  create _ token rows := .ok (token, rows.put token)
  getByTokenHash rows tokenHash := rows.find? fun token => token.tokenHash == tokenHash
  revoke rows token instant :=
    ((rows.current token).revoke instant,
      rows.mutate token.id fun stored => stored.revoke instant)
  save rows token := .ok (rows.put token)
  revokeIfActive rows tokenHash instant :=
    match rows.find? fun token => token.tokenHash == tokenHash && token.isActive instant with
    | none => (none, rows)
    | some token =>
        (some (token.revoke instant), rows.mutate token.id fun stored => stored.revoke instant)
  purgeOlderThan rows cutoff :=
    let gone := rows.rows.filter (InMemory.toDelete cutoff)
    (gone.length, rows.delete fun row => (gone.map RefreshToken.id).contains row.id)

structure World [Collation] (store : Type) where
  users : Users
  store : store

/-- What an execution is handed: its clock readings in their order, the time of the
`UPDATE`, and the generated token. -/
structure Draws where
  now : Instant
  updatedAt : Instant
  issued : Instant
  access : Instant
  rawToken : String
  deriving DecidableEq, Repr

/-- What an execution returns. -/
inductive Answer where
  | tokens (tokens : AuthTokens)
  | done
  | purged (count : Nat)
  deriving DecidableEq, Repr

section UseCases

variable [PyUnicode] [Collation] [Crypto] (port : RefreshTokenPort) (settings : Settings)
  (draws : Draws) (id : UUID)

/-- `_issue_refresh_token`, the access token and the result. -/
def issueTokens (client : Client) (user : User) : Program (World port.Store) Raised Answer := do
  let _ ← Program.transact fun world =>
    (port.create world.users (newToken settings client user draws.rawToken draws.issued id)
      world.store).map fun (token, store) => (token, { world with store })
  return .tokens (authTokens settings user draws.rawToken draws.access)

/-- `Login.execute`. -/
def login (call : LoginCall) : Program (World port.Store) Raised Answer := do
  let found ← Program.read fun world =>
    UserRepository.getByEmail world.users (PyUnicode.lower (PyString.strip call.email))
  match found with
  | none => Program.raise invalidEmailOrPassword
  | some user =>
      if user.isActive && verifyPassword call.password user.passwordHash then do
        Program.transact fun world =>
          (UserRepository.recordLogin world.users user.id draws.now draws.updatedAt).map
            fun users => ((), { world with users })
        issueTokens port settings draws id call.client user
      else
        Program.raise invalidEmailOrPassword

/-- `RefreshAccessToken.execute`. -/
def refreshAccessToken (call : RefreshCall) : Program (World port.Store) Raised Answer := do
  let revoked ← Program.transact fun world =>
    let (token, store) :=
      port.revokeIfActive world.store (hashRefreshToken call.rawRefreshToken) draws.now
    .ok (token, { world with store })
  match revoked with
  | none => Program.raise invalidOrExpiredRefreshToken
  | some token => do
      let found ← Program.read fun world => UserRepository.getById world.users token.userId
      match found with
      | none => Program.raise invalidOrExpiredRefreshToken
      | some user =>
          if user.isActive then
            issueTokens port settings draws id call.client user
          else
            Program.raise invalidOrExpiredRefreshToken

/-- `Logout.execute`. -/
def logout (call : LogoutCall) : Program (World port.Store) Raised Answer := do
  let found ← Program.read fun world =>
    .ok (port.getByTokenHash world.store (hashRefreshToken call.rawRefreshToken))
  match found with
  | none => Program.raise invalidRefreshToken
  | some token =>
      if token.userId = call.currentUserId then do
        let revoked ← Program.transact fun world =>
          let (token, store) := port.revoke world.store token draws.now
          .ok (token, { world with store })
        Program.transact fun world =>
          (port.save world.store revoked).map fun store => ((), { world with store })
        return .done
      else
        Program.raise invalidRefreshToken

/-- `PurgeExpiredRefreshTokens.execute`. -/
def purgeExpiredRefreshTokens : Program (World port.Store) Raised Answer := do
  let count ← Program.transact fun world =>
    let (count, store) :=
      port.purgeOlderThan world.store (draws.now - settings.refreshTokenRetention)
    .ok (count, { world with store })
  return .purged count

/-- One execution. -/
def perform : Request → Program (World port.Store) Raised Answer
  | .login call => login port settings draws id call
  | .refresh call => refreshAccessToken port settings draws id call
  | .logout call => logout port draws call
  | .purge => purgeExpiredRefreshTokens port settings draws

end UseCases

/-! ## Related stores -/

/-- A row but for its id. -/
def anonymous (row : RefreshToken) : RefreshToken := { row with id := 0 }

/-- The stores hold the same rows, up to their ids. -/
def Related (memory : InMemory) (tokens : RefreshTokens) : Prop :=
  memory.rows.map anonymous = tokens.rows.map anonymous

namespace Related

variable {memory : InMemory} {tokens : RefreshTokens}

/-- A condition that does not look at the id finds the same row. -/
theorem find? (related : Related memory tokens) (selects : RefreshToken → Bool)
    (blind : ∀ row, selects (anonymous row) = selects row) :
    (memory.find? selects).map anonymous = (tokens.find? selects).map anonymous := by
  have through : selects ∘ anonymous = selects := funext blind
  simp only [Table.find?]
  rw [← through, ← List.find?_map, ← List.find?_map, related]

/-- It finds a row on both sides or on neither. -/
theorem found (related : Related memory tokens) (selects : RefreshToken → Bool)
    (blind : ∀ row, selects (anonymous row) = selects row) :
    memory.find? selects = none ∧ tokens.find? selects = none ∨
      ∃ object row, memory.find? selects = some object ∧ tokens.find? selects = some row ∧
        anonymous object = anonymous row := by
  have same := related.find? selects blind
  cases left : memory.find? selects with
  | none =>
      cases right : tokens.find? selects with
      | none => exact .inl ⟨rfl, rfl⟩
      | some row => simp [left, right] at same
  | some object =>
      cases right : tokens.find? selects with
      | none => simp [left, right] at same
      | some row =>
          simp only [left, right, Option.map_some, Option.some.injEq] at same
          exact .inr ⟨object, row, rfl, rfl, same⟩

/-- Different rows have different hashes in memory as well. -/
theorem eq_of_tokenHash (related : Related memory tokens) {first second : RefreshToken}
    (firstMem : first ∈ memory.rows) (secondMem : second ∈ memory.rows)
    (same : first.tokenHash = second.tokenHash) : first = second := by
  have hashes : memory.rows.map RefreshToken.tokenHash =
      tokens.rows.map RefreshToken.tokenHash := by
    have mapped := congrArg (List.map RefreshToken.tokenHash) related
    rw [List.map_map, List.map_map] at mapped
    exact mapped
  have distinct : (tokens.rows.map RefreshToken.tokenHash).Nodup := by
    rw [List.Nodup, List.pairwise_map]
    refine tokens.distinct.imp ?_
    intro first second apart equal
    simp [RefreshToken.clash, equal] at apart
  rw [← hashes] at distinct
  exact List.inj_on_of_nodup_map distinct firstMem secondMem same

/-- A change of the row with a hash, seen from outside. -/
def withHash (tokenHash : String) (revokedAt : Option Instant) (row : RefreshToken) :
    RefreshToken :=
  if row.tokenHash = tokenHash then { row with revokedAt } else row

theorem anonymous_withHash (tokenHash : String) (revokedAt : Option Instant) :
    anonymous ∘ withHash tokenHash revokedAt = withHash tokenHash revokedAt ∘ anonymous := by
  funext row
  by_cases hash : row.tokenHash = tokenHash
  · simp [withHash, anonymous, hash]
  · simp [withHash, anonymous, hash]

/-- Changing the object in place and changing the row by its key come to the same. -/
theorem revoked (related : Related memory tokens) {object row : RefreshToken}
    {revokedAt : Option Instant} {change : RefreshToken → RefreshToken}
    (objectMem : object ∈ memory.rows) (rowMem : row ∈ tokens.rows)
    (same : object.tokenHash = row.tokenHash)
    (changed : change object = { object with revokedAt }) :
    Related (memory.mutate object.id change) (setRevokedAt tokens row.id revokedAt) := by
  have left : (memory.mutate object.id change).rows =
      memory.rows.map (withHash row.tokenHash revokedAt) := by
    apply List.map_congr_left
    intro other member
    by_cases hash : other.tokenHash = row.tokenHash
    · rw [related.eq_of_tokenHash member objectMem (hash.trans same.symm)]
      simp only [InMemory.alter, beq_self_eq_true, if_true, withHash, same, changed]
    · have apart : other.id ≠ object.id := by
        intro equal
        have stored : other = object :=
          Table.eq_of_clash member objectMem (beq_iff_eq.mpr equal) (beq_iff_eq.mpr equal.symm)
        exact hash (stored ▸ same)
      simp only [InMemory.alter, withHash, if_neg hash, beq_eq_false_iff_ne.mpr apart,
        Bool.false_eq_true, if_false]
  have right : (setRevokedAt tokens row.id revokedAt).rows =
      tokens.rows.map (withHash row.tokenHash revokedAt) := by
    apply List.map_congr_left
    intro other member
    by_cases hash : other.tokenHash = row.tokenHash
    · rw [RefreshTokenRepository.eq_of_tokenHash member rowMem hash]
      simp only [withRevokedAt, beq_self_eq_true, if_true, withHash]
    · have apart : other.id ≠ row.id := fun equal =>
        hash (congrArg RefreshToken.tokenHash (eq_of_id member rowMem equal))
      simp only [withRevokedAt, withHash, if_neg hash, beq_eq_false_iff_ne.mpr apart,
        Bool.false_eq_true, if_false]
  simp only [Related, left, right, List.map_map, anonymous_withHash]
  rw [← List.map_map, ← List.map_map, related]

/-- Two new rows that differ in their ids only. -/
theorem inserted (related : Related memory tokens) {object row : RefreshToken}
    {memory' : InMemory} {tokens' : RefreshTokens}
    (left : memory'.rows = memory.rows ++ [object]) (right : tokens'.rows = tokens.rows ++ [row])
    (same : anonymous object = anonymous row) : Related memory' tokens' := by
  simp only [Related, left, right, List.map_append, List.map_cons, List.map_nil, same]
  rw [related]

/-- Removing the rows that a condition selects which does not look at the id. -/
theorem deleted (related : Related memory tokens) (selects : RefreshToken → Bool)
    {memory' : InMemory} {tokens' : RefreshTokens}
    (blind : ∀ row, selects (anonymous row) = selects row)
    (left : memory'.rows = memory.rows.filter selects)
    (right : tokens'.rows = tokens.rows.filter selects) : Related memory' tokens' := by
  have through : selects ∘ anonymous = selects := funext blind
  simp only [Related, left, right]
  rw [← through, ← List.filter_map, ← List.filter_map, related]

end Related

/-- What does not read the id is the same of both. -/
theorem field_eq {β : Type} {object row : RefreshToken} (same : anonymous object = anonymous row)
    (field : RefreshToken → β) (blind : ∀ token, field (anonymous token) = field token) :
    field object = field row := by
  rw [← blind object, ← blind row, same]

/-- `is_active` on the entity and the `WHERE` clause select the same tokens. -/
theorem isActive_eq_selectsActive (tokenHash : String) (instant : Instant) :
    (fun token : RefreshToken => token.tokenHash == tokenHash && token.isActive instant) =
      selectsActive tokenHash instant := by
  funext token
  simp only [selectsActive, RefreshToken.isActive, Bool.and_assoc]

/-- So do the two conditions of the purge. -/
theorem toDelete_eq_purgeable (cutoff : Instant) :
    InMemory.toDelete cutoff = purgeable cutoff := by
  funext token
  simp only [InMemory.toDelete, purgeable]
  cases token.revokedAt <;> rfl

namespace Related

variable [Collation] {memory : InMemory} {tokens : RefreshTokens}

theorem getByTokenHash (related : Related memory tokens) (tokenHash : String) :
    inMemory.getByTokenHash memory tokenHash = none ∧
        sqlAlchemy.getByTokenHash tokens tokenHash = none ∨
      ∃ object row, inMemory.getByTokenHash memory tokenHash = some object ∧
        sqlAlchemy.getByTokenHash tokens tokenHash = some row ∧ object ∈ memory.rows ∧
        row ∈ tokens.rows ∧ anonymous object = anonymous row := by
  rcases related.found (fun row => row.tokenHash == tokenHash) (fun _ => rfl) with
    missing | ⟨object, row, left, right, same⟩
  · exact .inl missing
  · exact .inr ⟨object, row, left, right, (Table.mem_of_find? left).1,
      (Table.mem_of_find? right).1, same⟩

theorem revokeIfActive (related : Related memory tokens) (tokenHash : String)
    (instant : Instant) :
    Related (inMemory.revokeIfActive memory tokenHash instant).2
        (sqlAlchemy.revokeIfActive tokens tokenHash instant).2 ∧
      (inMemory.revokeIfActive memory tokenHash instant).1.map anonymous =
        (sqlAlchemy.revokeIfActive tokens tokenHash instant).1.map anonymous := by
  simp only [inMemory, sqlAlchemy, RefreshTokenRepository.revokeIfActive,
    isActive_eq_selectsActive]
  rcases related.found (selectsActive tokenHash instant) (fun _ => rfl) with
    ⟨left, right⟩ | ⟨object, row, left, right, same⟩
  · simp only [left, right]
    exact ⟨related, trivial⟩
  · simp only [left, right, Option.map_some, Option.some.injEq]
    have hash := field_eq same RefreshToken.tokenHash fun _ => rfl
    have unrevoked := (selectsActive_iff.mp (Table.mem_of_find? left).2).2.1
    have changed : object.revoke instant = { object with revokedAt := some instant } := by
      simp [RefreshToken.revoke, unrevoked]
    refine ⟨related.revoked (Table.mem_of_find? left).1 (Table.mem_of_find? right).1 hash
      changed, ?_⟩
    rw [changed]
    exact congrArg (fun token : RefreshToken => { token with revokedAt := some instant }) same

theorem purgeOlderThan (related : Related memory tokens) (cutoff : Instant) :
    (inMemory.purgeOlderThan memory cutoff).1 = (sqlAlchemy.purgeOlderThan tokens cutoff).1 ∧
      Related (inMemory.purgeOlderThan memory cutoff).2
        (sqlAlchemy.purgeOlderThan tokens cutoff).2 := by
  have counted : (memory.rows.filter (purgeable cutoff)).length =
      (selectPurgeable tokens cutoff).length := by
    have through : purgeable cutoff ∘ anonymous = purgeable cutoff := rfl
    have lengths := congrArg List.length (congrArg (List.filter (purgeable cutoff)) related)
    rw [List.filter_map, List.filter_map, through, List.length_map, List.length_map] at lengths
    rw [lengths, selectPurgeable, List.length_map]
  have left : (memory.delete fun row => ((memory.rows.filter (purgeable cutoff)).map
      RefreshToken.id).contains row.id).rows =
        memory.rows.filter fun row => !purgeable cutoff row := by
    apply List.filter_congr
    intro row member
    congr 1
    rw [Bool.eq_iff_iff, List.contains_iff_mem, List.mem_map]
    constructor
    · rintro ⟨other, selected, equal⟩
      rcases List.mem_filter.mp selected with ⟨otherMem, dead⟩
      have stored : other = row :=
        Table.eq_of_clash otherMem member (beq_iff_eq.mpr equal) (beq_iff_eq.mpr equal.symm)
      exact stored ▸ dead
    · intro dead
      exact ⟨row, List.mem_filter.mpr ⟨member, dead⟩, rfl⟩
  have right : (sqlAlchemy.purgeOlderThan tokens cutoff).2.rows =
      tokens.rows.filter fun row => !purgeable cutoff row := by
    have deleted : (deleteByIds tokens (selectPurgeable tokens cutoff)).rows =
        tokens.rows.filter fun row => !purgeable cutoff row := by
      apply List.filter_congr
      intro row member
      congr 1
      rw [Bool.eq_iff_iff, List.contains_iff_mem, mem_selectPurgeable]
      constructor
      · rintro ⟨other, otherMem, dead, equal⟩
        exact eq_of_id otherMem member equal ▸ dead
      · intro dead
        exact ⟨row, member, dead, rfl⟩
    simp only [sqlAlchemy]
    cases selected : selectPurgeable tokens cutoff with
    | nil =>
        have none : deleteByIds tokens [] = tokens := Table.ext (List.filter_eq_self.mpr (by simp))
        rw [selected, none] at deleted
        exact deleted
    | cons id ids =>
        rw [selected] at deleted
        exact deleted
  constructor
  · simp only [inMemory, sqlAlchemy, toDelete_eq_purgeable, counted]
    cases selectPurgeable tokens cutoff with
    | nil => rfl
    | cons id ids => rfl
  · refine related.deleted (fun row => !purgeable cutoff row) (fun _ => rfl) ?_ right
    simp only [inMemory, toDelete_eq_purgeable]
    exact left

end Related

/-! ## The use cases, side by side -/

/-- What the client sends fits the columns of a token. -/
def Client.fits (client : Client) : Bool :=
  client.userAgent.all (fun value => decide (value.utf8ByteSize ≤ textBytes)) &&
  client.ipAddress.all (fun value => decide (value.length ≤ 45))

section

variable [PyUnicode] [Collation] [Crypto] {settings : Settings} {draws : Draws}
  {memoryId rowId : UUID}

/-- The same users, and the same tokens up to their ids. -/
structure Alike (left : World InMemory) (right : World RefreshTokens) : Prop where
  users : left.users = right.users
  store : Related left.store right.store

/-- The generated values are new. -/
structure New (draws : Draws) (memoryId rowId : UUID) (left : World InMemory)
    (right : World RefreshTokens) : Prop where
  memoryId : ∀ object ∈ left.store.rows, object.id ≠ memoryId
  rowId : ∀ row ∈ right.store.rows, row.id ≠ rowId
  tokenHash : ∀ row ∈ right.store.rows, row.tokenHash ≠ hashRefreshToken draws.rawToken

/-- Both return the same, or raise the same, and stay alike. -/
abbrev Together (left : Program (World InMemory) Raised Answer)
    (right : Program (World RefreshTokens) Raised Answer) (first : World InMemory)
    (second : World RefreshTokens) : Prop :=
  Program.Coupled left right first second (fun answer answer' last last' =>
    answer = answer' ∧ Alike last last') fun _ last last' => Alike last last'

variable {left : World InMemory} {right : World RefreshTokens}

omit [PyUnicode] in
theorem issueTokens_together (alike : Alike left right)
    (new : New draws memoryId rowId left right) {client : Client} (fitting : client.fits = true)
    {user : User} (known : (right.users.find? fun model => model.id == user.id).isSome = true) :
    Together (issueTokens inMemory settings draws memoryId client user)
      (issueTokens sqlAlchemy settings draws rowId client user) left right := by
  apply Program.Coupled.bind
  apply Program.Coupled.transact
  obtain ⟨memory, inserted⟩ : ∃ memory, left.store.insert?
      (newToken settings client user draws.rawToken draws.issued memoryId) = some memory := by
    have free : ∀ object ∈ left.store.rows, (object.id ==
        (newToken settings client user draws.rawToken draws.issued memoryId).id) = false :=
      fun object member => beq_eq_false_iff_ne.mpr (new.memoryId object member)
    exact ⟨_, dif_pos free⟩
  have free : ∀ row ∈ right.store.rows,
      row.clash (newToken settings client user draws.rawToken draws.issued rowId) = false := by
    intro row member
    have newId := new.rowId row member
    have newHash := new.tokenHash row member
    simp [RefreshToken.clash, newToken, newId, newHash]
  rcases create_of_free right.users free with ⟨tokens, rows, created⟩
  have accepted : refusal right.users
      (newToken settings client user draws.rawToken draws.issued rowId) = none := by
    obtain ⟨model, found⟩ := Option.isSome_iff_exists.mp known
    have fits : fits (newToken settings client user draws.rawToken draws.issued rowId) = true :=
      fitting
    simp only [refusal, fits, if_true]
    simp only [newToken, found]
  rw [accepted] at created
  refine .inl ⟨newToken settings client user draws.rawToken draws.issued memoryId,
    newToken settings client user draws.rawToken draws.issued rowId,
    { left with store := memory }, { right with store := tokens }, ?_, ?_, ?_⟩
  · simp only [inMemory, InMemory.put, inserted]
    rfl
  · simp only [sqlAlchemy, created]
    rfl
  · exact ⟨rfl, alike.users,
      alike.store.inserted (Table.insert?_eq_some.mp inserted).2 rows rfl⟩

omit [PyUnicode] [Crypto] in
/-- The user whose login is recorded is stored. -/
theorem known_of_recordLogin {users next : Users} {userId : UUID} {instant now : Instant}
    (recorded : UserRepository.recordLogin users userId instant now = .ok next) :
    (next.find? fun model => model.id == userId).isSome = true := by
  simp only [UserRepository.recordLogin] at recorded
  split at recorded
  next => cases recorded
  next model found =>
    cases recorded
    rcases Table.mem_of_find? found with ⟨member, same⟩
    apply List.find?_isSome.mpr
    refine ⟨UserRepository.recordedLogin userId instant now model, ?_, ?_⟩
    · exact List.mem_map_of_mem member
    · simp only [UserRepository.recordedLogin]
      split <;> exact same

omit [Crypto] in
theorem known_of_getById {users : Users} {userId : UUID} {user : User}
    (found : UserRepository.getById users userId = .ok (some user)) :
    (users.find? fun model => model.id == user.id).isSome = true := by
  rw [UserRepository.getById_id found]
  simp only [UserRepository.getById] at found
  split at found
  next => cases found
  next model present =>
    rw [present]
    rfl

theorem login_together (alike : Alike left right) (new : New draws memoryId rowId left right)
    {call : LoginCall} (fitting : call.client.fits = true) :
    Together (login inMemory settings draws memoryId call)
      (login sqlAlchemy settings draws rowId call) left right := by
  apply Program.Coupled.bind
  apply Program.Coupled.read
  rw [alike.users]
  cases UserRepository.getByEmail right.users (PyUnicode.lower (PyString.strip call.email)) with
  | error error => exact .inr ⟨error, rfl, rfl, alike⟩
  | ok found =>
      refine .inl ⟨found, found, rfl, rfl, ?_⟩
      cases found with
      | none => exact Program.Coupled.raise alike
      | some user =>
          simp only
          split
          · apply Program.Coupled.bind
            apply Program.Coupled.transact
            simp only [alike.users]
            cases recorded : UserRepository.recordLogin right.users user.id draws.now
                draws.updatedAt with
            | error error => exact .inr ⟨error, rfl, rfl, alike⟩
            | ok users =>
                have alike' : Alike ⟨users, left.store⟩ ⟨users, right.store⟩ := ⟨rfl, alike.store⟩
                have new' : New draws memoryId rowId ⟨users, left.store⟩ ⟨users, right.store⟩ :=
                  ⟨new.memoryId, new.rowId, new.tokenHash⟩
                exact .inl ⟨(), (), _, _, rfl, rfl,
                  issueTokens_together alike' new' fitting (known_of_recordLogin recorded)⟩
          · exact Program.Coupled.raise alike

omit [PyUnicode] in
/-- Revoking a token adds no row and no hash. -/
theorem New.revokeIfActive (new : New draws memoryId rowId left right) (tokenHash : String)
    (instant : Instant) :
    New draws memoryId rowId
      ⟨left.users, (inMemory.revokeIfActive left.store tokenHash instant).2⟩
      ⟨right.users, (sqlAlchemy.revokeIfActive right.store tokenHash instant).2⟩ := by
  constructor
  · intro object member
    simp only [inMemory] at member
    split at member
    · exact new.memoryId object member
    · obtain ⟨stored, storedMem, equal⟩ := InMemory.mem_mutate.mp member
      rw [← equal, InMemory.alter_id]
      exact new.memoryId stored storedMem
  · intro row member
    simp only [sqlAlchemy, RefreshTokenRepository.revokeIfActive] at member
    split at member
    · exact new.rowId row member
    · obtain ⟨stored, storedMem, equal⟩ := mem_setRevokedAt.mp member
      rw [← equal, withRevokedAt_id]
      exact new.rowId stored storedMem
  · intro row member
    simp only [sqlAlchemy, RefreshTokenRepository.revokeIfActive] at member
    split at member
    · exact new.tokenHash row member
    · obtain ⟨stored, storedMem, equal⟩ := mem_setRevokedAt.mp member
      rw [← equal, withRevokedAt_tokenHash]
      exact new.tokenHash stored storedMem

theorem refreshAccessToken_together (alike : Alike left right)
    (new : New draws memoryId rowId left right) {call : RefreshCall}
    (fitting : call.client.fits = true) :
    Together (refreshAccessToken inMemory settings draws memoryId call)
      (refreshAccessToken sqlAlchemy settings draws rowId call) left right := by
  apply Program.Coupled.bind
  apply Program.Coupled.transact
  obtain ⟨store, same⟩ :=
    alike.store.revokeIfActive (hashRefreshToken call.rawRefreshToken) draws.now
  have new' := new.revokeIfActive (hashRefreshToken call.rawRefreshToken) draws.now
  have alike' : Alike
      ⟨left.users, (inMemory.revokeIfActive left.store (hashRefreshToken call.rawRefreshToken)
        draws.now).2⟩
      ⟨right.users, (sqlAlchemy.revokeIfActive right.store (hashRefreshToken call.rawRefreshToken)
        draws.now).2⟩ := ⟨alike.users, store⟩
  refine .inl ⟨_, _, _, _, rfl, rfl, ?_⟩
  cases object : (inMemory.revokeIfActive left.store (hashRefreshToken call.rawRefreshToken)
      draws.now).1 with
  | none =>
      cases row : (sqlAlchemy.revokeIfActive right.store (hashRefreshToken call.rawRefreshToken)
          draws.now).1 with
      | none => exact Program.Coupled.raise alike'
      | some row' => simp [object, row] at same
  | some object' =>
      cases row : (sqlAlchemy.revokeIfActive right.store (hashRefreshToken call.rawRefreshToken)
          draws.now).1 with
      | none => simp [object, row] at same
      | some row' =>
          simp only [object, row, Option.map_some, Option.some.injEq] at same
          have lookup : UserRepository.getById left.users object'.userId =
              UserRepository.getById right.users row'.userId := by
            rw [alike.users, field_eq same RefreshToken.userId fun _ => rfl]
          apply Program.Coupled.bind
          apply Program.Coupled.read
          cases found : UserRepository.getById right.users row'.userId with
          | error error => exact .inr ⟨error, lookup.trans found, rfl, alike'⟩
          | ok user =>
              refine .inl ⟨user, user, lookup.trans found, rfl, ?_⟩
              cases user with
              | none => exact Program.Coupled.raise alike'
              | some user =>
                  simp only
                  split
                  · exact issueTokens_together alike' new' fitting (known_of_getById found)
                  · exact Program.Coupled.raise alike'

omit [PyUnicode] in
theorem logout_together (alike : Alike left right) {call : LogoutCall} :
    Together (logout inMemory draws call) (logout sqlAlchemy draws call) left right := by
  apply Program.Coupled.bind
  apply Program.Coupled.read
  rcases alike.store.getByTokenHash (hashRefreshToken call.rawRefreshToken) with
    ⟨missing, missing'⟩ | ⟨object, row, found, found', objectMem, rowMem, same⟩
  · exact .inl ⟨none, none, congrArg _ missing, congrArg _ missing', Program.Coupled.raise alike⟩
  · refine .inl ⟨some object, some row, congrArg _ found, congrArg _ found', ?_⟩
    simp only [field_eq same RefreshToken.userId fun _ => rfl]
    split
    · apply Program.Coupled.bind
      apply Program.Coupled.transact
      refine .inl ⟨_, _, _, _, rfl, rfl, ?_⟩
      apply Program.Coupled.bind
      apply Program.Coupled.transact
      have current : left.store.current object = object := InMemory.current_of_mem objectMem
      have put : InMemory.put (left.store.mutate object.id fun stored => stored.revoke draws.now)
          (object.revoke draws.now) =
          left.store.mutate object.id fun _ => object.revoke draws.now := by
        have changed : InMemory.alter object.id (fun stored => stored.revoke draws.now) object ∈
            (left.store.mutate object.id fun stored => stored.revoke draws.now).rows :=
          InMemory.mem_mutate.mpr ⟨object, objectMem, rfl⟩
        rw [InMemory.put_of_stored changed ((InMemory.alter_id ..).trans (object.revoke_id _).symm),
          object.revoke_id, InMemory.mutate_mutate]
      have stored : (right.store.find? fun row' => row'.id == (row.revoke draws.now).id) =
          some row := by
        rw [row.revoke_id]
        exact Table.find?_of_unique rowMem (beq_self_eq_true row.id) fun other otherMem equal =>
          eq_of_id otherMem rowMem (beq_iff_eq.mp equal)
      have revoked : object.revoke draws.now =
          { object with revokedAt := (row.revoke draws.now).revokedAt } := by
        have moment := field_eq same RefreshToken.revokedAt fun _ => rfl
        simp only [RefreshToken.revoke, moment]
        split
        · rfl
        · rw [← moment]
      refine .inl ⟨(), (),
        ⟨left.users, left.store.mutate object.id fun _ => object.revoke draws.now⟩,
        ⟨right.users, setRevokedAt right.store (row.revoke draws.now).id
          (row.revoke draws.now).revokedAt⟩, ?_, ?_, ?_⟩
      · simp only [inMemory, current, put]
        rfl
      · simp only [sqlAlchemy, save, stored]
        rfl
      · refine ⟨rfl, alike.users, ?_⟩
        rw [row.revoke_id]
        exact alike.store.revoked objectMem rowMem
          (field_eq same RefreshToken.tokenHash fun _ => rfl) revoked
    · exact Program.Coupled.raise alike

omit [PyUnicode] [Crypto] in
theorem purgeExpiredRefreshTokens_together (alike : Alike left right) :
    Together (purgeExpiredRefreshTokens inMemory settings draws)
      (purgeExpiredRefreshTokens sqlAlchemy settings draws) left right := by
  apply Program.Coupled.bind
  apply Program.Coupled.transact
  obtain ⟨count, store⟩ :=
    alike.store.purgeOlderThan (draws.now - settings.refreshTokenRetention)
  exact .inl ⟨_, _, _, _, rfl, rfl, congrArg Answer.purged count, alike.users, store⟩

/-- The generated values are new in both stores. -/
def fresh (memory : InMemory) (tokens : RefreshTokens) (draws : Draws)
    (memoryId rowId : UUID) : Bool :=
  memory.rows.all (fun object => object.id != memoryId) &&
  tokens.rows.all (fun row => row.id != rowId) &&
  tokens.rows.all (fun row => row.tokenHash != hashRefreshToken draws.rawToken)

/-- One execution with what it is handed; each adapter generates an id of its own. -/
structure Execution where
  request : Request
  draws : Draws
  memoryId : UUID
  rowId : UUID

/-- Both deployments, and what they have answered so far. -/
structure Both where
  memory : World InMemory
  sql : World RefreshTokens
  answers : List (Except Raised Answer × Except Raised Answer)

/-- The same execution over both adapters. -/
def both (settings : Settings) : Machine Both Execution
  | state, execution =>
      let left := perform inMemory settings execution.draws execution.memoryId
        execution.request state.memory
      let right := perform sqlAlchemy settings execution.draws execution.rowId
        execution.request state.sql
      some ⟨left.2, right.2, state.answers ++ [(left.1, right.1)]⟩

/-- A request that may create a token tells about the client what fits, and its generated
values are new. -/
def admissible (state : Both) (execution : Execution) : Bool :=
  match execution.request with
  | .login call => call.client.fits &&
      fresh state.memory.store state.sql.store execution.draws execution.memoryId execution.rowId
  | .refresh call => call.client.fits &&
      fresh state.memory.store state.sql.store execution.draws execution.memoryId execution.rowId
  | .logout _ => true
  | .purge => true

abbrev Admissible (state : Both) (execution : Execution) : Prop := admissible state execution = true

omit [PyUnicode] in
theorem new_of_fresh
    (generated : fresh left.store right.store draws memoryId rowId = true) :
    New draws memoryId rowId left right := by
  simp only [fresh, Bool.and_eq_true, List.all_eq_true, bne_iff_ne] at generated
  exact ⟨generated.1.1, generated.1.2, generated.2⟩

theorem perform_together {state : Both} {execution : Execution}
    (alike : Alike state.memory state.sql)
    (met : Admissible state execution) :
    Together (perform inMemory settings execution.draws execution.memoryId execution.request)
      (perform sqlAlchemy settings execution.draws execution.rowId execution.request)
      state.memory state.sql := by
  cases request : execution.request with
  | login call =>
      simp only [Admissible, admissible, request, Bool.and_eq_true] at met
      exact login_together alike (new_of_fresh met.2) met.1
  | refresh call =>
      simp only [Admissible, admissible, request, Bool.and_eq_true] at met
      exact refreshAccessToken_together alike (new_of_fresh met.2) met.1
  | logout call => exact logout_together alike
  | purge => exact purgeExpiredRefreshTokens_together alike

/-- The answers so far are the same, and the stores hold the same. -/
structure Interchanged (state : Both) : Prop where
  answers : ∀ pair ∈ state.answers, pair.1 = pair.2
  alike : Alike state.memory state.sql

theorem both_interchanged {state next : Both} {execution : Execution} (same : Interchanged state)
    (met : Admissible state execution) (stepped : both settings state execution = some next) :
    Interchanged next := by
  cases stepped
  have together : Together (perform inMemory settings execution.draws execution.memoryId
      execution.request) (perform sqlAlchemy settings execution.draws execution.rowId
      execution.request) state.memory state.sql := perform_together same.alike met
  have ended := together.result_eq
  constructor
  · intro pair member
    rcases List.mem_append.mp member with before | now
    · exact same.answers pair before
    · rw [List.mem_singleton.mp now]
      exact ended.1
  · exact ended.2

/-- Executions whose client values fit their columns and whose generated values are new
answer alike over both adapters, and leave the same rows up to their ids; what is active and
what is purgeable is the same in both. -/
theorem adapters_interchangeable {start last : Both}
    (run : Machine.Reaches (both settings) Admissible start last)
    (initially : Alike start.memory start.sql) (unanswered : start.answers = []) :
    (∀ pair ∈ last.answers, pair.1 = pair.2) ∧
      last.memory.users = last.sql.users ∧
      last.memory.store.rows.map anonymous = last.sql.store.rows.map anonymous ∧
      (∀ tokenHash instant token, selectsActive tokenHash instant token =
        (token.tokenHash == tokenHash && token.isActive instant)) ∧
      ∀ cutoff token, purgeable cutoff token = InMemory.toDelete cutoff token := by
  have same : Interchanged last := by
    apply run.invariant Interchanged both_interchanged
    constructor
    · intro pair member
      rw [unanswered] at member
      cases member
    · exact initially
  refine ⟨same.answers, same.alike.users, same.alike.store, ?_, ?_⟩
  · intro tokenHash instant token
    exact (congrFun (isActive_eq_selectsActive tokenHash instant) token).symm
  · intro cutoff token
    exact (congrFun (toDelete_eq_purgeable cutoff) token).symm

end

namespace Sample

attribute [local instance] unicode collation crypto

/-- An address with a zone is longer than its column. -/
def linkLocal : Client :=
  ⟨some "Mozilla/5.0", some "fe80:0000:0000:0000:0202:b3ff:fe1e:8329%enp0s31f6"⟩

def draws (rawToken : String) : Draws := ⟨clock, clock, clock, clock, rawToken⟩

def unused : Both := ⟨⟨.singleton admin, .empty⟩, ⟨.singleton admin, .empty⟩, []⟩

theorem unused_alike : Alike unused.memory unused.sql := ⟨rfl, rfl⟩

def loginFrom (client : Client) : Execution :=
  ⟨.login ⟨"Admin@CH-TECH.dev", "U*U", client⟩, draws firstToken, 21, 11⟩

theorem adapters_differ :
    ¬ ∀ (settings : Settings) (start last : Both),
        Machine.Reaches (both settings) Machine.Any start last →
        Alike start.memory start.sql → start.answers = [] →
        ∀ pair ∈ last.answers, pair.1 = pair.2 := by
  intro claim
  obtain ⟨last, executed⟩ := Option.isSome_iff_exists.mp
    (rfl : (Machine.exec (both settings) unused [loginFrom linkLocal]).isSome = true)
  have run : Machine.Reaches (both settings) Machine.Any unused last :=
    ⟨_, Machine.Runs.of_exec (fun _ _ _ => trivial) executed⟩
  have answers : last.answers.map (fun pair => (pair.1.isOk, pair.2.isOk)) = [(true, false)] :=
    Machine.read_of_map (fun last : Both =>
      last.answers.map fun pair => (pair.1.isOk, pair.2.isOk)) executed (by decide)
  obtain ⟨pair, member, ends⟩ := List.mem_map.mp (answers ▸ List.mem_singleton_self _)
  have same := claim settings unused last run unused_alike rfl pair member
  rw [same] at ends
  cases (congrArg Prod.fst ends).symm.trans (congrArg Prod.snd ends)

/-- A login, an exchange of its token, a logout and a purge. -/
def session : List Execution := [
  loginFrom client,
  ⟨.refresh ⟨firstToken, client⟩, draws secondToken, 22, 12⟩,
  ⟨.logout ⟨secondToken, admin.id⟩, draws "", 0, 0⟩,
  ⟨.purge, { draws "" with now := clock + 5184000000000 }, 0, 0⟩]

theorem adapters_interchangeable_session :
    ∃ last, Machine.execIf (both settings) Admissible unused session = some last ∧
      last.answers.length = 4 ∧
      (∀ pair ∈ last.answers, pair.1 = pair.2) ∧
      last.memory.users = last.sql.users ∧
      last.memory.store.rows.map anonymous = last.sql.store.rows.map anonymous ∧
      (∀ tokenHash instant token, selectsActive tokenHash instant token =
        (token.tokenHash == tokenHash && token.isActive instant)) ∧
      ∀ cutoff token, purgeable cutoff token = InMemory.toDelete cutoff token := by
  obtain ⟨last, executed⟩ := Option.isSome_iff_exists.mp
    (by decide : (Machine.execIf (both settings) Admissible unused session).isSome)
  have counted : last.answers.length = 4 :=
    Machine.read_of_map (fun last : Both => last.answers.length) executed (by decide)
  exact ⟨last, executed, counted,
    adapters_interchangeable ⟨_, Machine.Runs.of_execIf executed⟩ unused_alike rfl⟩

end Sample

end ChTech.Auth
