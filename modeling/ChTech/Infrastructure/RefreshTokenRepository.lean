import ChTech.Db.Types
import ChTech.Domain.RefreshToken
import ChTech.Infrastructure.UserRepository

/-!
# The refresh token repository

Each function is one transaction on the `refresh_tokens` table; `create` also checks
the reference to `users`.  The re-read after a commit is part of it.
-/

namespace ChTech

open Foundation

/-- The primary key and the unique `token_hash` column. -/
def RefreshToken.clash (first second : RefreshToken) : Bool :=
  first.id == second.id || first.tokenHash == second.tokenHash

abbrev RefreshTokens := Table RefreshToken RefreshToken.clash

namespace RefreshTokenRepository

/-- What the client has sent fits its columns; the other values always do. -/
def fits (row : RefreshToken) : Bool :=
  row.userAgent.all (fun value => decide (value.utf8ByteSize ≤ textBytes)) &&
  row.ipAddress.all (fun value => decide (value.length ≤ 45))

/-- Insert a row; its columns, the reference and the uniqueness constraints may reject it. -/
def create [Collation] (users : Users) (tokens : RefreshTokens) (row : RefreshToken) :
    Except Raised RefreshTokens :=
  if fits row then
    match users.find? fun model => model.id == row.userId with
    | none => .error .integrityError
    | some _ =>
        match tokens.insert? row with
        | none => .error .integrityError
        | some next => .ok next
  else
    .error .dataError

def getByTokenHash (tokens : RefreshTokens) (tokenHash : String) : Option RefreshToken :=
  tokens.find? fun row => row.tokenHash == tokenHash

/-- Write `revoked_at` of the row with the given id. -/
def withRevokedAt (id : UUID) (revokedAt : Option Instant) (row : RefreshToken) : RefreshToken :=
  if row.id == id then { row with revokedAt } else row

theorem withRevokedAt_clash (id : UUID) (revokedAt : Option Instant)
    (first second : RefreshToken) :
    (withRevokedAt id revokedAt first).clash (withRevokedAt id revokedAt second) =
      first.clash second := by
  simp only [withRevokedAt]
  split <;> split <;> rfl

/-- `UPDATE refresh_tokens SET revoked_at`, by primary key. -/
def setRevokedAt (tokens : RefreshTokens) (id : UUID) (revokedAt : Option Instant) :
    RefreshTokens :=
  tokens.modify (withRevokedAt id revokedAt) (withRevokedAt_clash id revokedAt)

/-- The copy's `revoked_at` is written whatever the row now holds. -/
def save (tokens : RefreshTokens) (token : RefreshToken) : Except Raised RefreshTokens :=
  match tokens.find? fun row => row.id == token.id with
  | none => .error .noResultFound
  | some _ => .ok (setRevokedAt tokens token.id token.revokedAt)

/-- The condition of `SELECT ... FOR UPDATE`. -/
def selectsActive (tokenHash : String) (instant : Instant) (row : RefreshToken) : Bool :=
  row.tokenHash == tokenHash && row.revokedAt.isNone && decide (instant < row.expiresAt)

/-- The row stays locked from the `SELECT` to the commit. -/
def revokeIfActive (tokens : RefreshTokens) (tokenHash : String) (instant : Instant) :
    RefreshTokens × Option RefreshToken :=
  match tokens.find? (selectsActive tokenHash instant) with
  | none => (tokens, none)
  | some row =>
      (setRevokedAt tokens row.id (some instant), some { row with revokedAt := some instant })

/-- Expired or revoked before the cutoff. -/
def purgeable (cutoff : Instant) (row : RefreshToken) : Bool :=
  decide (row.expiresAt < cutoff) || row.revokedAt.any fun revokedAt => decide (revokedAt < cutoff)

/-- The first statement of `purge_older_than`. -/
def selectPurgeable (tokens : RefreshTokens) (cutoff : Instant) : List UUID :=
  (tokens.rows.filter (purgeable cutoff)).map RefreshToken.id

/-- Its second statement. -/
def deleteByIds (tokens : RefreshTokens) (ids : List UUID) : RefreshTokens :=
  tokens.delete fun row => ids.contains row.id

/-! ## What each transaction does to the rows -/

variable {tokens next : RefreshTokens} {row : RefreshToken}

@[simp] theorem withRevokedAt_id (id : UUID) (revokedAt : Option Instant) (row : RefreshToken) :
    (withRevokedAt id revokedAt row).id = row.id := by
  simp only [withRevokedAt]
  split <;> rfl

@[simp] theorem withRevokedAt_tokenHash (id : UUID) (revokedAt : Option Instant)
    (row : RefreshToken) : (withRevokedAt id revokedAt row).tokenHash = row.tokenHash := by
  simp only [withRevokedAt]
  split <;> rfl

@[simp] theorem withRevokedAt_userId (id : UUID) (revokedAt : Option Instant)
    (row : RefreshToken) : (withRevokedAt id revokedAt row).userId = row.userId := by
  simp only [withRevokedAt]
  split <;> rfl

@[simp] theorem withRevokedAt_expiresAt (id : UUID) (revokedAt : Option Instant)
    (row : RefreshToken) : (withRevokedAt id revokedAt row).expiresAt = row.expiresAt := by
  simp only [withRevokedAt]
  split <;> rfl

theorem withRevokedAt_revokedAt (id : UUID) (revokedAt : Option Instant) (row : RefreshToken) :
    (withRevokedAt id revokedAt row).revokedAt =
      if row.id = id then revokedAt else row.revokedAt := by
  simp only [withRevokedAt]
  by_cases same : row.id = id
  · simp [same]
  · simp [same]

theorem mem_setRevokedAt {id : UUID} {revokedAt : Option Instant} :
    row ∈ (setRevokedAt tokens id revokedAt).rows ↔
      ∃ stored ∈ tokens.rows, withRevokedAt id revokedAt stored = row := by
  simp [setRevokedAt]

/-- Two rows with one id are one row. -/
theorem eq_of_id {first second : RefreshToken} (firstMem : first ∈ tokens.rows)
    (secondMem : second ∈ tokens.rows) (same : first.id = second.id) : first = second :=
  Table.eq_of_clash firstMem secondMem (by simp [RefreshToken.clash, same])
    (by simp [RefreshToken.clash, same])

/-- Two rows with one hash are one row. -/
theorem eq_of_tokenHash {first second : RefreshToken} (firstMem : first ∈ tokens.rows)
    (secondMem : second ∈ tokens.rows) (same : first.tokenHash = second.tokenHash) :
    first = second :=
  Table.eq_of_clash firstMem secondMem (by simp [RefreshToken.clash, same])
    (by simp [RefreshToken.clash, same])

theorem create_eq_ok [Collation] {users : Users} (created : create users tokens row = .ok next) :
    next.rows = tokens.rows ++ [row] := by
  simp only [create] at created
  split at created
  · split at created
    · cases created
    · split at created
      · cases created
      next inserted =>
        cases created
        exact (Table.insert?_eq_some.mp inserted).2
  · cases created

/-- What rejects a row with a new id and a new hash. -/
def refusal [Collation] (users : Users) (row : RefreshToken) : Option Raised :=
  if fits row then
    match users.find? fun model => model.id == row.userId with
    | none => some .integrityError
    | some _ => none
  else
    some .dataError

/-- A row with a new id and a new hash is stored if it fits and its user exists. -/
theorem create_of_free [Collation] (users : Users)
    (free : ∀ stored ∈ tokens.rows, stored.clash row = false) :
    ∃ stored : RefreshTokens, stored.rows = tokens.rows ++ [row] ∧
      create users tokens row = match refusal users row with
        | some raised => .error raised
        | none => .ok stored := by
  cases inserted : tokens.insert? row with
  | none => simp [Table.insert?, dif_pos free] at inserted
  | some stored =>
      refine ⟨stored, (Table.insert?_eq_some.mp inserted).2, ?_⟩
      simp only [create, refusal, inserted]
      split
      · cases users.find? fun model => model.id == row.userId <;> rfl
      · rfl

theorem getByTokenHash_eq_some {tokenHash : String}
    (found : getByTokenHash tokens tokenHash = some row) :
    row ∈ tokens.rows ∧ row.tokenHash = tokenHash := by
  rcases Table.mem_of_find? found with ⟨member, selected⟩
  exact ⟨member, beq_iff_eq.mp selected⟩

theorem save_eq_ok {token : RefreshToken} (saved : save tokens token = .ok next) :
    next = setRevokedAt tokens token.id token.revokedAt := by
  simp only [save] at saved
  split at saved
  · cases saved
  · cases saved
    rfl

theorem selectsActive_iff {tokenHash : String} {instant : Instant} :
    selectsActive tokenHash instant row = true ↔
      row.tokenHash = tokenHash ∧ row.revokedAt = none ∧ instant < row.expiresAt := by
  simp [selectsActive, and_assoc]

/-- The revoked row was active and is the only one that changes. -/
theorem revokeIfActive_some {tokenHash : String} {instant : Instant} {token : RefreshToken}
    (revoked : (revokeIfActive tokens tokenHash instant).2 = some token) :
    ∃ row ∈ tokens.rows, selectsActive tokenHash instant row = true ∧
      token = { row with revokedAt := some instant } ∧
      (revokeIfActive tokens tokenHash instant).1 =
        setRevokedAt tokens row.id (some instant) := by
  simp only [revokeIfActive] at revoked ⊢
  cases found : tokens.find? (selectsActive tokenHash instant) with
  | none => simp [found] at revoked
  | some row =>
      simp only [found, Option.some.injEq] at revoked
      rcases Table.mem_of_find? found with ⟨member, selected⟩
      exact ⟨row, member, selected, revoked.symm, rfl⟩

/-- After an insertion the row is found by its key. -/
theorem find?_created (rows : next.rows = tokens.rows ++ [row]) :
    (next.find? fun stored => stored.id == row.id) = some row := by
  have added : row ∈ next.rows := by
    rw [rows]
    exact List.mem_append_right _ (List.mem_singleton_self row)
  apply Table.find?_of_unique added (beq_self_eq_true row.id)
  intro other member same
  exact eq_of_id member added (beq_iff_eq.mp same)

theorem find?_setRevokedAt {now : Instant}
    (member : row ∈ tokens.rows) :
    ((setRevokedAt tokens row.id (some now)).find? fun stored => stored.id == row.id) =
      some { row with revokedAt := some now } := by
  have revoked : withRevokedAt row.id (some now) row = { row with revokedAt := some now } := by
    simp [withRevokedAt]
  apply Table.find?_of_unique
  · exact mem_setRevokedAt.mpr ⟨row, member, revoked⟩
  · exact beq_self_eq_true row.id
  · intro other otherMem same
    exact eq_of_id otherMem (mem_setRevokedAt.mpr ⟨row, member, revoked⟩) (beq_iff_eq.mp same)

theorem mem_selectPurgeable {cutoff : Instant} {id : UUID} :
    id ∈ selectPurgeable tokens cutoff ↔
      ∃ row ∈ tokens.rows, purgeable cutoff row = true ∧ row.id = id := by
  simp [selectPurgeable, and_assoc]

theorem mem_deleteByIds {ids : List UUID} :
    row ∈ (deleteByIds tokens ids).rows ↔ row ∈ tokens.rows ∧ row.id ∉ ids := by
  simp [deleteByIds]

end RefreshTokenRepository

end ChTech
