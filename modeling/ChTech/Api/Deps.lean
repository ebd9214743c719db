import ChTech.Core.Errors
import ChTech.Core.Security

/-!
# The bearer token of a request

`app.api.deps` and `decode_access_token`.  What `jwt.decode` does to a token is a parameter; what
is documented of a token that `jwt.encode` has made is said beside it.
-/

namespace ChTech

/-- A value of a decoded payload, as far as the code looks at it. -/
inductive JsonValue where
  | str (value : String)
  | other
  deriving DecidableEq, Repr

/-- What the code reads of a decoded payload. -/
structure DecodedPayload where
  sub : Option JsonValue
  deriving DecidableEq, Repr

class Jwt where
  /-- `jwt.decode(token, key, algorithms=[algorithm])` at an instant; `none` when it raises
  `InvalidTokenError`. -/
  decode : Instant → String → String → String → Option DecodedPayload

/-- `iat` and `exp` are written in whole seconds. -/
def wholeSeconds (instant : Instant) : Instant := instant / 1000000 * 1000000

/-- A token made by `jwt.encode` that is accepted has the subject it was made with, at an instant
from its `iat` until before its `exp`. -/
def Jwt.Documented [Crypto] [Jwt] : Prop :=
  ∀ claims key algorithm now payload,
    Jwt.decode now (Crypto.jwtEncode claims key algorithm) key algorithm = some payload →
      payload.sub = some (.str claims.sub) ∧ wholeSeconds claims.iat ≤ now ∧
        now < wholeSeconds claims.exp

theorem wholeSeconds_le (instant : Instant) : wholeSeconds instant ≤ instant :=
  Int.ediv_mul_le instant (by decide)

variable [Jwt]

def decodeAccessToken (settings : Settings) (now : Instant) (token : String) :
    Option DecodedPayload :=
  Jwt.decode now token settings.jwtSecretKey settings.jwtAlgorithm

/-- The credentials are those of an `Authorization: Bearer` header. -/
def getCurrentUserId (settings : Settings) (now : Instant) : Option String → Except Raised String
  | none => .error (.app (.unauthorizedError "Missing bearer token"))
  | some token =>
      match decodeAccessToken settings now token with
      | none => .error (.app (.unauthorizedError "Invalid or expired access token"))
      | some payload =>
          match payload.sub with
          | some (.str subject) => .ok subject
          | _ => .error (.app (.unauthorizedError "Invalid access token"))

theorem getCurrentUserId_eq_ok {settings : Settings} {now : Instant} {credentials : Option String}
    {subject : String} (authenticated : getCurrentUserId settings now credentials = .ok subject) :
    ∃ token payload, credentials = some token ∧
      decodeAccessToken settings now token = some payload ∧ payload.sub = some (.str subject) := by
  cases credentials with
  | none => cases authenticated
  | some token =>
      simp only [getCurrentUserId] at authenticated
      split at authenticated
      next => cases authenticated
      next payload decoded =>
        split at authenticated
        next other read =>
          cases authenticated
          exact ⟨token, payload, rfl, decoded, read⟩
        next => cases authenticated

end ChTech
