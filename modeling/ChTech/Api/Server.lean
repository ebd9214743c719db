import ChTech.Api.Requests
import ChTech.Auth.AccessTokens
import ChTech.Core.Uuid

/-!
# The server

Any number of requests at once, each going through the stages of its route.  The commands of the
limiter and the parts of the authentication use cases are steps of their own and interleave.  The
use case of a content request is one step, so content use cases come one at a time here, and no
command of the limiter fails; what overlapping statements and failing commands do is in the
models of single components.  The task of a contact request runs after its response.
-/

namespace ChTech.Api

open Foundation Content Application

/-- The settings of `app.core.email`. -/
structure EmailSettings where
  resendApiKey : Option String
  contactNotificationEmail : Option String
  contactNotificationFrom : String
  deriving DecidableEq, Repr

/-- What is posted to Resend. -/
structure Mail where
  authorization : String
  sender : String
  recipients : List String
  subject : String
  text : String
  deriving DecidableEq, Repr

/-- `value or other`. -/
def orElse (value : Option String) (other : String) : String :=
  match value with
  | none => other
  | some value => if value.isEmpty then other else value

/-- `send_contact_notification_email`; whatever becomes of the post changes nothing here. -/
def contactNotification (settings : EmailSettings) (contact : ContactRequest) : Option Mail :=
  match settings.resendApiKey, settings.contactNotificationEmail with
  | some key, some address => some {
      authorization := "Bearer " ++ key
      sender := settings.contactNotificationFrom
      recipients := [address]
      subject := "Nueva solicitud de contacto: " ++ orElse contact.subject contact.name
      text := "Nombre: " ++ contact.name ++ "\nEmail: " ++ contact.email.value ++ "\nEmpresa: " ++
        orElse contact.company "-" ++ "\n\n" ++ contact.message }
  | _, _ => none

/-- A request on its way. -/
structure Exchange [PyUnicode] where
  request : Request
  /-- The stages it has not passed. -/
  todo : List Stage
  /-- `current_user_id`. -/
  subject : Option String
  response : Option Response
  /-- The task in `background_tasks`. -/
  background : Option ContactRequest

/-- What the server is configured with, and the order in which its database returns rows that a
public read leaves tied: it depends on what the read may see. -/
structure Deployment where
  settings : Settings
  email : EmailSettings
  engine : Engine

section

variable [PyUnicode] [Collation]

/-- `users` and `refresh_tokens` are those of `auth`. -/
structure State where
  limiter : RateLimit.State
  auth : Auth.State
  content : Store
  exchanges : Nat → Option Exchange
  /-- The mails posted, and for which request, newest first. -/
  mails : List (Nat × Mail)

/-- No request yet, over any stored rows. -/
def State.init (clock : Nat) (now : Instant) (store : Store) : State where
  limiter := RateLimit.State.init clock
  auth := Auth.State.init now store.users store.refreshTokens
  content := store
  exchanges _ := none
  mails := []

inductive Label where
  /-- The time of the limiter's server. -/
  | tick (clock : Nat)
  /-- The next Redis command of a request. -/
  | command (pid : Nat)
  /-- The next part of an authentication use case, the time, or a write to `users`. -/
  | auth (label : Auth.Label)
  | receive (pid : Nat) (request : Request)
  /-- The next stage of a request. -/
  | advance (pid : Nat)
  /-- Its background task. -/
  | notify (pid : Nat)

namespace State

/-- The whole database. -/
def store (state : State) : Store :=
  { state.content with users := state.auth.users, refreshTokens := state.auth.tokens }

def put (state : State) (pid : Nat) (exchange : Exchange) : Nat → Option Exchange :=
  Function.update state.exchanges pid (some exchange)

/-- The request goes on to its next stage. -/
def pass (state : State) (pid : Nat) (exchange : Exchange) (rest : List Stage)
    (subject : Option String) : State :=
  { state with exchanges := state.put pid { exchange with todo := rest, subject } }

/-- The request is answered at the stage it is in. -/
def refuse (state : State) (pid : Nat) (exchange : Exchange) (response : Response) : State :=
  { state with exchanges := state.put pid { exchange with response := some response } }

/-- The endpoint returns or raises. -/
def finish (state : State) (pid : Nat) (exchange : Exchange) (result : Except Raised Body) :
    State :=
  { state with
    exchanges := state.put pid { exchange with
      todo := []
      response := some (respond exchange.request.route.successStatus result) } }

end State

/-! ## Endpoints -/

/-- `create_article` takes the author from the token. -/
def signed [PyDecimal] (subject : Option String) : Change → Except Raised Change
  | .article ties (.post defaults) _ payload =>
      (PyUuid.ofText (subject.getD "")).map fun authorId =>
        .article ties (.post defaults) authorId payload
  | change => .ok change

def answerBody : Answer → Body
  | .contact _ => .received
  | .deleted => .empty
  | answer => .change answer

/-- `background_tasks.add_task(send_contact_notification_email, contact)`. -/
def scheduled : Except Raised Answer → Option ContactRequest
  | .ok (.contact contact) => contact
  | _ => none

/-- The end of an authentication use case. -/
def outcome : Auth.Proc → Option (Except Raised Body)
  | .login _ (.issue (.returned _ tokens)) | .refresh _ (.issue (.returned _ tokens)) =>
      some (.ok (.tokens tokens))
  | .login _ (.issue (.raised raised)) | .refresh _ (.issue (.raised raised)) =>
      some (.error raised)
  | .logout _ .returned => some (.ok .empty)
  | .logout _ (.raised raised) => some (.error raised)
  | _ => none

namespace State

variable [Crypto] [Jwt] [PyDecimal] [Mysql] [EmailStr]

/-- An authentication use case is started, and awaited. -/
def await (deployment : Deployment) (state : State) (pid : Nat) (exchange : Exchange)
    (request : Auth.Request) : Option State :=
  match state.auth.procs pid with
  | .idle =>
      (Auth.step deployment.settings state.auth (.call pid request)).map fun auth =>
        { state with auth }
  | proc => (outcome proc).map (state.finish pid exchange)

/-- A content use case runs, with no statement of another one in between. -/
def carryOut (state : State) (pid : Nat) (exchange : Exchange) (change : Change) : State :=
  { state with
    content := (change.execute state.store).2
    exchanges := state.put pid { exchange with
      todo := []
      response := some (respond exchange.request.route.successStatus
        ((change.execute state.store).1.map answerBody))
      background := scheduled (change.execute state.store).1 } }

def execute (deployment : Deployment) (state : State) (pid : Nat) (exchange : Exchange) :
    Action → Option State
  | .read asked ties =>
      let ranks :=
        if asked.isPublic then deployment.engine.ranks asked state.store.toDb.visible else ties
      some (state.finish pid exchange ((Reading.execute ranks state.store.toDb asked).map .read))
  | .change change =>
      match signed exchange.subject change with
      | .error raised => some (state.finish pid exchange (.error raised))
      | .ok change => some (state.carryOut pid exchange change)
  | .login email password =>
      state.await deployment pid exchange (.login ⟨email, password, exchange.request.origin⟩)
  | .refresh rawRefreshToken =>
      state.await deployment pid exchange (.refresh ⟨rawRefreshToken, exchange.request.origin⟩)
  | .logout rawRefreshToken =>
      match PyUuid.ofText (exchange.subject.getD "") with
      | .error raised => some (state.finish pid exchange (.error raised))
      | .ok currentUserId =>
          state.await deployment pid exchange (.logout ⟨rawRefreshToken, currentUserId⟩)

/-- The call to the limiter is made, and awaited. -/
def checkLimit (state : State) (pid : Nat) (exchange : Exchange) (rest : List Stage)
    (call : RateLimit.Call) : Option State :=
  match state.limiter.calls pid with
  | none =>
      (RateLimit.step state.limiter (.call pid call)).map fun limiter => { state with limiter }
  | some ⟨_, .admitted⟩ => some (state.pass pid exchange rest exchange.subject)
  | some ⟨_, .refused error⟩ =>
      some (state.refuse pid exchange (appErrorHandler error.toAppError))
  | some _ => none

/-- One stage of a request; `rest` comes after it. -/
def perform (deployment : Deployment) (state : State) (pid : Nat) (exchange : Exchange)
    (rest : List Stage) : Stage → Option State
  | .parse =>
      match exchange.request.sent with
      | .undecodable _ => some (state.refuse pid exchange
          (httpExceptionHandler 400 "There was an error parsing the body"))
      | .malformed _ => some (state.refuse pid exchange validationExceptionHandler)
      | .mistyped _ | .action _ => some (state.pass pid exchange rest exchange.subject)
  | .limit => exchange.request.limitCall.bind (state.checkLimit pid exchange rest)
  | .authenticate =>
      match getCurrentUserId deployment.settings state.auth.clock exchange.request.credentials with
      | .ok subject => some (state.pass pid exchange rest (some subject))
      | .error raised => some (state.refuse pid exchange (handle raised))
  | .validate =>
      if exchange.request.accepted then some (state.pass pid exchange rest exchange.subject)
      else some (state.refuse pid exchange validationExceptionHandler)
  | .execute =>
      match exchange.request.sent with
      | .action action => state.execute deployment pid exchange action
      | .undecodable _ | .malformed _ | .mistyped _ => none

end State

/-- A request that has not been answered goes through its next stage. -/
def State.advance [Crypto] [Jwt] [PyDecimal] [Mysql] [EmailStr] (deployment : Deployment)
    (state : State) (pid : Nat) (exchange : Exchange) : Option State :=
  match exchange.response, exchange.todo with
  | none, stage :: rest => state.perform deployment pid exchange rest stage
  | _, _ => none

/-- Only the endpoints call `Login`, `RefreshAccessToken` and `Logout`; a purge is no request. -/
def State.reserved (state : State) : Auth.Label → Bool
  | .call pid .purge => (state.exchanges pid).isSome
  | .call _ (.login _) | .call _ (.refresh _) | .call _ (.logout _) => true
  | .tick _ | .users _ | .advance _ | .generate .. | .create .. | .purge _ => false

def step [Crypto] [Jwt] [PyDecimal] [Mysql] [EmailStr] (deployment : Deployment) :
    Machine State Label
  | state, .tick clock =>
      (RateLimit.step state.limiter (.tick clock)).map fun limiter => { state with limiter }
  | state, .command pid =>
      (RateLimit.step state.limiter (.command pid)).map fun limiter => { state with limiter }
  | state, .auth label =>
      if state.reserved label then none
      else (Auth.step deployment.settings state.auth label).map fun auth => { state with auth }
  | state, .receive pid request =>
      match state.exchanges pid, state.auth.procs pid with
      | none, .idle =>
          if request.wellFormed then
            some { state with
              exchanges := state.put pid ⟨request, request.route.stages, none, none, none⟩ }
          else none
      | _, _ => none
  | state, .advance pid => (state.exchanges pid).bind (state.advance deployment pid)
  | state, .notify pid =>
      (state.exchanges pid).bind fun exchange =>
        exchange.background.map fun contact => { state with
          exchanges := state.put pid { exchange with background := none }
          mails := ((contactNotification deployment.email contact).map (pid, ·)).toList ++
            state.mails }

end

namespace Sample

open Auth.Sample (unicode collation signing jwt admin settings firstToken accessToken)
open Content.Sample (mysql engine)

@[reducible] def decimal : PyDecimal where
  decimal _ := none

@[reducible] def emailStr : EmailStr where
  produces value := value == "admin@ch-tech.dev" || value == "contact@ch-tech.dev"

attribute [local instance] unicode collation signing jwt mysql decimal emailStr

def deployment : Deployment where
  settings := settings
  email := ⟨some "re_8kQ2", some "contact@ch-tech.dev", "CH Tech <no-reply@ch-tech.dev>"⟩
  engine := engine

def start : State := State.init 0 Auth.Sample.clock (emptyStore (.singleton admin))

def signIn : Request where
  client := some "203.0.113.7"
  userAgent := some "Mozilla/5.0"
  credentials := none
  sent := .action (.login "admin@ch-tech.dev" "U*U")

def login : List Label :=
  [.receive 0 signIn, .advance 0, .advance 0, .advance 0, .command 0, .command 0, .advance 0,
    .advance 0, .auth (.advance 0), .auth (.advance 0), .auth (.advance 0),
    .auth (.generate 0 firstToken), .auth (.create 0 11), .advance 0]

end Sample

end ChTech.Api
