import ChTech.Api.Deps
import ChTech.Application.Reading
import ChTech.Application.Requests
import ChTech.Auth.Oracle

/-!
# Requests and responses

The routes of the API, what each does with a request before its use case runs, and the exception
handlers.  FastAPI reads the body of a request first, then runs the dependencies of the route in
their order, and validates the parameters after them.
-/

namespace ChTech.Api

open Foundation Content Application

inductive Route where
  /-- `GET` of a public router. -/
  | publicRead
  /-- `GET` of an admin router. -/
  | adminRead
  /-- `POST` of an admin router. -/
  | create
  /-- `PUT` of an admin router. -/
  | update
  /-- `DELETE` of an admin router. -/
  | delete
  | contact
  | login
  | refresh
  | logout
  deriving DecidableEq, Repr

/-- What happens to a request, one after the other. -/
inductive Stage where
  /-- The body is read as JSON. -/
  | parse
  /-- `check_rate_limit`. -/
  | limit
  /-- `get_current_user_id`. -/
  | authenticate
  /-- Parameters and payload are validated. -/
  | validate
  /-- The endpoint runs its use case. -/
  | execute
  deriving DecidableEq, Repr

namespace Route

/-- `login` is limited by a field of its payload, in the endpoint. -/
def stages : Route → List Stage
  | publicRead => [.limit, .validate, .execute]
  | adminRead => [.authenticate, .validate, .execute]
  | create | update => [.parse, .limit, .authenticate, .validate, .execute]
  | delete => [.limit, .authenticate, .validate, .execute]
  | contact | refresh => [.parse, .limit, .validate, .execute]
  | login => [.parse, .validate, .limit, .execute]
  | logout => [.parse, .authenticate, .validate, .execute]

/-- The status of a request that is carried out. -/
def successStatus : Route → Nat
  | create | contact => 201
  | delete | logout => 204
  | publicRead | adminRead | update | login | refresh => 200

end Route

/-- What a validated request asks for, with what the environment adds to it. -/
inductive Action where
  | read (read : Read) (ties : Ties)
  | change (change : Change)
  | login (email password : String)
  | refresh (rawRefreshToken : String)
  | logout (rawRefreshToken : String)

def changeRoute : Change → Route
  | .project _ (.post _) _ | .article _ (.post _) _ _ | .service (.post _) _
  | .serviceLine (.post _) _ | .product (.post _) _ | .technology (.post _) _
  | .client (.post _) _ | .partner (.post _) _ | .teamMember (.post _) _
  | .caseStudy _ (.post _) _ | .testimonial _ (.post _) _ => .create
  | .project _ (.put ..) _ | .article _ (.put ..) _ _ | .service (.put ..) _
  | .serviceLine (.put ..) _ | .product (.put ..) _ | .technology (.put ..) _
  | .client (.put ..) _ | .partner (.put ..) _ | .teamMember (.put ..) _
  | .caseStudy _ (.put ..) _ | .testimonial _ (.put ..) _ | .company .. => .update
  | .delete _ => .delete
  | .contact .. => .contact

def Action.route : Action → Route
  | read asked _ => if asked.isPublic then .publicRead else .adminRead
  | change asked => changeRoute asked
  | login .. => .login
  | refresh _ => .refresh
  | logout _ => .logout

/-- What arrives on a route. -/
inductive Sent where
  /-- Bytes that are no text. -/
  | undecodable (route : Route)
  /-- A text that is not JSON. -/
  | malformed (route : Route)
  /-- Values that are not of their declared types. -/
  | mistyped (route : Route)
  | action (action : Action)

def Sent.route : Sent → Route
  | undecodable route | malformed route | mistyped route => route
  | action asked => asked.route

structure Request where
  /-- `request.client.host`. -/
  client : Option String
  userAgent : Option String
  /-- The token of an `Authorization: Bearer` header. -/
  credentials : Option String
  sent : Sent

namespace Request

def route (request : Request) : Route := request.sent.route

/-- `client` of the `Login` and `RefreshAccessToken` calls. -/
def origin (request : Request) : Auth.Client := ⟨request.userAgent, request.client⟩

/-- The payload is of its schema and the query within its bounds. -/
def accepted [PyUnicode] [EmailStr] (request : Request) : Bool :=
  match request.sent with
  | .action (.read read _) => Reading.queryAccepted read
  | .action (.change change) => change.accepted
  | .action (.login email password) =>
      EmailStr.produces email && decide (1 ≤ password.length) && maxLength 72 password
  | .action (.refresh _) | .action (.logout _) => true
  | .undecodable _ | .malformed _ | .mistyped _ => false

/-- The `check_rate_limit` call of the route. -/
def limitCall [PyUnicode] (request : Request) : Option RateLimit.Call :=
  match request.route with
  | .publicRead => some (RateLimit.ipRateLimiter 100 60 "public-api" request.client)
  | .create | .update | .delete =>
      some (RateLimit.ipRateLimiter 60 60 "admin-write" request.client)
  | .contact => some (RateLimit.ipRateLimiter 10 3600 "contact" request.client)
  | .refresh => some (RateLimit.ipRateLimiter 20 60 "refresh" request.client)
  | .login =>
      match request.sent with
      | .action (.login email _) => some (Auth.loginLimit email)
      | _ => none
  | .adminRead | .logout => none

/-- A body that cannot be read belongs to a route that has one, and a read to a route. -/
def wellFormed (request : Request) : Bool :=
  match request.sent with
  | .undecodable route | .malformed route => route.stages.contains .parse
  | .action (.read read _) => Reading.routed read
  | .mistyped _ | .action _ => true

end Request

/-! ## Responses -/

inductive Body [PyUnicode] where
  | read (response : Content.Response)
  | change (answer : Answer)
  | tokens (tokens : Auth.AuthTokens)
  /-- `ContactReceived`. -/
  | received
  | empty
  | error (code message : String)

structure Response [PyUnicode] where
  status : Nat
  body : Body

section

variable [PyUnicode]

/-- `_error_response`. -/
def errorResponse (statusCode : Nat) (code message : String) : Response :=
  ⟨statusCode, .error code message⟩

def appErrorHandler (error : AppError) : Response :=
  errorResponse error.statusCode error.code error.message

/-- `_STATUS_CODE_TO_ERROR_CODE`. -/
def statusCodeToErrorCode : Nat → Option String
  | 400 => some "BAD_REQUEST"
  | 401 => some "UNAUTHORIZED"
  | 403 => some "FORBIDDEN"
  | 404 => some "RESOURCE_NOT_FOUND"
  | 409 => some "CONFLICT"
  | 422 => some "VALIDATION_ERROR"
  | _ => none

def httpExceptionHandler (statusCode : Nat) (detail : String) : Response :=
  errorResponse statusCode ((statusCodeToErrorCode statusCode).getD "HTTP_ERROR") detail

def validationExceptionHandler : Response :=
  errorResponse 422 "VALIDATION_ERROR" "Invalid request data"

def unhandledExceptionHandler : Response :=
  errorResponse 500 "INTERNAL_SERVER_ERROR" "Internal server error"

/-- The handler that an exception reaches. -/
def handle : Raised → Response
  | .app error => appErrorHandler error
  | .valueError _ | .integrityError | .noResultFound | .multipleResultsFound | .dataError
  | .overflowError | .operationalError => unhandledExceptionHandler

/-- The response of an endpoint. -/
def respond (status : Nat) : Except Raised Body → Response
  | .ok body => ⟨status, body⟩
  | .error raised => handle raised

end

end ChTech.Api
