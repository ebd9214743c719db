import ChTech.Core.Types

/-!
# Refresh tokens

A token is active while it is neither revoked nor expired.
-/

namespace ChTech

/-- The `RefreshToken` entity; the table's row has the same columns. -/
structure RefreshToken where
  id : UUID
  userId : UUID
  tokenHash : String
  issuedAt : Instant
  expiresAt : Instant
  revokedAt : Option Instant
  userAgent : Option String
  ipAddress : Option String
  deriving DecidableEq, Repr

namespace RefreshToken

def isActive (token : RefreshToken) (instant : Instant) : Bool :=
  token.revokedAt.isNone && decide (instant < token.expiresAt)

/-- Revoking again does not move `revoked_at`. -/
def revoke (token : RefreshToken) (instant : Instant) : RefreshToken :=
  if token.revokedAt.isNone then { token with revokedAt := some instant } else token

theorem isActive_iff {token : RefreshToken} {instant : Instant} :
    token.isActive instant = true ↔ token.revokedAt = none ∧ instant < token.expiresAt := by
  simp [isActive]

@[simp] theorem revoke_id (token : RefreshToken) (instant : Instant) :
    (token.revoke instant).id = token.id := by
  simp only [revoke]
  split <;> rfl

theorem revoke_of_active {token : RefreshToken} {instant : Instant}
    (unrevoked : token.revokedAt = none) :
    (token.revoke instant).revokedAt = some instant := by
  simp [revoke, unrevoked]

theorem revoke_of_revoked {token : RefreshToken} {first instant : Instant}
    (revoked : token.revokedAt = some first) : token.revoke instant = token := by
  simp [revoke, revoked]

theorem revokedAt_revoke_ne_none (token : RefreshToken) (instant : Instant) :
    (token.revoke instant).revokedAt ≠ none := by
  cases revoked : token.revokedAt with
  | none => simp [revoke_of_active revoked]
  | some first => simp [revoke_of_revoked revoked, revoked]

end RefreshToken

end ChTech
