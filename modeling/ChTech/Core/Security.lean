import ChTech.Core.Types

/-!
# Passwords and tokens

`app.core.security` over three libraries whose code is elsewhere: `hashlib`, `bcrypt`
and `jwt`.
-/

namespace ChTech

/-- The payload of an access token. -/
structure Claims where
  sub : String
  role : String
  iat : Instant
  exp : Instant
  deriving DecidableEq, Repr

/-- The libraries. -/
class Crypto where
  /-- `hashlib.sha256(value.encode()).hexdigest()`. -/
  sha256Hex : String → String
  /-- `bcrypt.checkpw`; `none` when it raises `ValueError`. -/
  checkpw : String → String → Option Bool
  /-- `jwt.encode(payload, key, algorithm)`. -/
  jwtEncode : Claims → String → String → String

/-- The settings of the authentication code. -/
structure Settings where
  jwtSecretKey : String
  jwtAlgorithm : String
  accessTokenTtl : Duration
  refreshTokenTtl : Duration
  refreshTokenRetention : Duration
  deriving DecidableEq, Repr

variable [Crypto]

/-- A password that `bcrypt` refuses does not match. -/
def verifyPassword (password passwordHash : String) : Bool :=
  (Crypto.checkpw password passwordHash).getD false

def createAccessToken (settings : Settings) (now : Instant) (subject role : String) : String :=
  Crypto.jwtEncode ⟨subject, role, now, now + settings.accessTokenTtl⟩
    settings.jwtSecretKey settings.jwtAlgorithm

def hashRefreshToken (rawToken : String) : String :=
  Crypto.sha256Hex rawToken

end ChTech
