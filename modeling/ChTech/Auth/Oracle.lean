import ChTech.Auth.Adapters
import ChTech.Content.Fields
import ChTech.RateLimit.Limiter

/-!
# What failed logins tell

The login endpoint, one request after the other, over two tables of users.  A request
that does not authenticate is refused by the limiter, refused by `Login`, or ends with
the error of a stored row that no `User` can be built from.  The last one is the only
one that depends on the table.
-/

namespace ChTech.RateLimit

open Foundation

/-- What one call works on. -/
structure LimiterStore where
  clock : Nat
  redis : Redis.Store String

namespace LimiterStore

/-- A request arrives at `clock`, or now when that is past. -/
def tick (limiter : LimiterStore) (clock : Nat) : LimiterStore :=
  ⟨max limiter.clock clock, Redis.sweep limiter.redis (max limiter.clock clock)⟩

end LimiterStore

/-- The end of `check_rate_limit`, once the counter is known. -/
def compareCount (call : Call) (count : Nat) : Program LimiterStore RateLimitExceededError Unit :=
  if count > call.limit then do
    let ttl ← Program.read fun limiter => .ok (Redis.ttl limiter.redis limiter.clock call.key)
    Program.raise ⟨max ttl 1⟩
  else
    return ()

/-- `check_rate_limit`. -/
def checkRateLimit (call : Call) : Program LimiterStore RateLimitExceededError Unit := do
  let count ← Program.transact fun limiter =>
    .ok ((Redis.incr limiter.redis call.key).2,
      { limiter with redis := (Redis.incr limiter.redis call.key).1 })
  if count = 1 then do
    Program.transact fun limiter =>
      .ok ((), { limiter with
        redis := Redis.expire limiter.redis limiter.clock call.key call.windowSeconds })
    compareCount call count
  else
    compareCount call count

end ChTech.RateLimit

namespace ChTech.Auth

open Foundation RateLimit

/-- What the client gets. -/
inductive Response where
  | answered (answer : Answer)
  | error (status : Nat) (code message : String)
  deriving DecidableEq, Repr

/-- The exception handlers. -/
def Raised.response : Raised → Response
  | .app error => .error error.statusCode error.code error.message
  | _ => .error 500 "INTERNAL_SERVER_ERROR" "Internal server error"

section

variable [PyUnicode] [Collation] [Crypto]

/-- The limiter and the database. -/
structure Deployment where
  limiter : LimiterStore
  world : World sqlAlchemy.Store

/-- A login request, when it arrives and what its execution is handed. -/
structure Attempt where
  clock : Nat
  call : LoginCall
  draws : Draws
  id : UUID

/-- The key of the address. -/
def loginKey (email : String) : String := "ratelimit:login:" ++ PyUnicode.lower email

/-- The limit on the address. -/
def loginLimit (email : String) : RateLimit.Call := ⟨loginKey email, 5, 900⟩

/-- The address that `Login` looks for. -/
def lookupEmail (email : String) : String := PyUnicode.lower (PyString.strip email)

/-- The limiter's part of a request. -/
def limited (limiter : LimiterStore) (attempt : Attempt) :
    Except RateLimitExceededError Unit × LimiterStore :=
  checkRateLimit (loginLimit attempt.call.email) (limiter.tick attempt.clock)

/-- The `login` endpoint. -/
def loginEndpoint (settings : Settings) (attempt : Attempt) (deployment : Deployment) :
    Response × Deployment :=
  let (checked, limiter) := limited deployment.limiter attempt
  match checked with
  | .error error => (Raised.response (.app error.toAppError), { deployment with limiter })
  | .ok () =>
      let (executed, world) :=
        login sqlAlchemy settings attempt.draws attempt.id attempt.call deployment.world
      match executed with
      | .ok answer => (.answered answer, ⟨limiter, world⟩)
      | .error raised => (Raised.response raised, ⟨limiter, world⟩)

/-- One request after the other. -/
def serve (settings : Settings) : List Attempt → Deployment → List Response × Deployment
  | [], deployment => ([], deployment)
  | attempt :: rest, deployment =>
      let (response, next) := loginEndpoint settings attempt deployment
      let (responses, last) := serve settings rest next
      (response :: responses, last)

/-- The credentials belong to an active user. -/
def authenticates (users : Users) (call : LoginCall) : Bool :=
  match UserRepository.getByEmail users (lookupEmail call.email) with
  | .ok (some user) => user.isActive && verifyPassword call.password user.passwordHash
  | _ => false

/-- No request of the sequence authenticates when the limiter lets it through. -/
def NoneAuthenticates (settings : Settings) : List Attempt → Deployment → Prop
  | [], _ => True
  | attempt :: rest, deployment =>
      ((limited deployment.limiter attempt).1.isOk = true →
        authenticates deployment.world.users attempt.call = false) ∧
      NoneAuthenticates settings rest (loginEndpoint settings attempt deployment).2

/-- The row that the address finds, if there is one, is that of a `User`. -/
def readable (users : Users) (email : String) : Bool :=
  match users.find? fun model => Collation.equal model.email (lookupEmail email) with
  | none => true
  | some model => model.toEntity.isOk

/-- Each request that the limiter lets through finds a readable row, or none, in both
tables or in neither. -/
def EquallyReadable (users users' : Users) : List Attempt → LimiterStore → Prop
  | [], _ => True
  | attempt :: rest, limiter =>
      ((limited limiter attempt).1.isOk = true →
        readable users attempt.call.email = readable users' attempt.call.email) ∧
      EquallyReadable users users' rest (limited limiter attempt).2

/-! ## What a failed login answers -/

/-- The response to a request that does not authenticate. -/
def refusal (users : Users) (limiter : LimiterStore) (attempt : Attempt) : Response :=
  match (limited limiter attempt).1 with
  | .error error => Raised.response (.app error.toAppError)
  | .ok () =>
      if readable users attempt.call.email then Raised.response invalidEmailOrPassword
      else .error 500 "INTERNAL_SERVER_ERROR" "Internal server error"

variable {settings : Settings} {attempt : Attempt} {deployment left right : Deployment}
  {attempts : List Attempt}

omit [Collation] [Crypto] in
/-- Whatever keeps a row from being a `User` is a server error. -/
theorem toEntity_error {model : UserModel} {raised : Raised}
    (failed : model.toEntity = .error raised) :
    Raised.response raised = .error 500 "INTERNAL_SERVER_ERROR" "Internal server error" := by
  simp only [UserModel.toEntity] at failed
  cases email : Email.postInit model.email with
  | error error =>
      simp only [email, bind, Except.bind, Except.error.injEq] at failed
      simp only [Email.postInit] at email
      split at email
      · cases email
      · cases email
        rw [← failed]
        rfl
  | ok address =>
      simp only [email, bind, Except.bind] at failed
      cases role : UserRole.ofValue model.role with
      | ok value =>
          rw [role] at failed
          cases failed
      | error error =>
          simp only [role, Except.error.injEq] at failed
          simp only [UserRole.ofValue] at role
          split at role
          · cases role
          · cases role
            rw [← failed]
            rfl

/-- A login that does not authenticate ends at the lookup. -/
theorem login_apply {world : World sqlAlchemy.Store}
    (unknown : authenticates world.users attempt.call = false) :
    login sqlAlchemy settings attempt.draws attempt.id attempt.call world =
      match UserRepository.getByEmail world.users (lookupEmail attempt.call.email) with
      | .error raised => (.error raised, world)
      | .ok _ => (.error invalidEmailOrPassword, world) := by
  unfold login
  change Program.bind _ _ _ = _
  simp only [Program.bind, Program.read]
  simp only [authenticates, lookupEmail] at unknown ⊢
  cases looked : UserRepository.getByEmail world.users
      (PyUnicode.lower (PyString.strip attempt.call.email)) with
  | error raised => rfl
  | ok found =>
      cases found with
      | none => rfl
      | some user =>
          simp only [looked] at unknown
          simp only [unknown, Bool.false_eq_true, if_false]
          rfl

/-- It writes nothing, and only an unreadable row changes its answer. -/
theorem login_refused {world : World sqlAlchemy.Store}
    (unknown : authenticates world.users attempt.call = false) :
    ∃ raised, login sqlAlchemy settings attempt.draws attempt.id attempt.call world =
        (.error raised, world) ∧
      Raised.response raised =
        if readable world.users attempt.call.email then Raised.response invalidEmailOrPassword
        else .error 500 "INTERNAL_SERVER_ERROR" "Internal server error" := by
  rw [login_apply unknown]
  cases present : world.users.find? fun model =>
      Collation.equal model.email (lookupEmail attempt.call.email) with
  | none =>
      simp only [UserRepository.getByEmail, readable, present, if_true]
      exact ⟨invalidEmailOrPassword, rfl, rfl⟩
  | some model =>
      cases built : model.toEntity with
      | error raised =>
          simp only [UserRepository.getByEmail, readable, present, built, Except.map,
            Result.isOk_error, Bool.false_eq_true, if_false]
          exact ⟨raised, rfl, toEntity_error built⟩
      | ok user =>
          simp only [UserRepository.getByEmail, readable, present, built, Except.map,
            Result.isOk_ok, if_true]
          exact ⟨invalidEmailOrPassword, rfl, rfl⟩

theorem loginEndpoint_refused
    (unknown : (limited deployment.limiter attempt).1.isOk = true →
      authenticates deployment.world.users attempt.call = false) :
    loginEndpoint settings attempt deployment =
      (refusal deployment.world.users deployment.limiter attempt,
        ⟨(limited deployment.limiter attempt).2, deployment.world⟩) := by
  simp only [loginEndpoint, refusal]
  cases checked : (limited deployment.limiter attempt).1 with
  | error error => rfl
  | ok done =>
      have refused := unknown (by rw [checked]; rfl)
      rcases @login_refused _ _ _ settings attempt deployment.world refused with
        ⟨raised, executed, response⟩
      rw [executed]
      exact congrArg (·, _) response

/-- The responses to a sequence of requests that do not authenticate. -/
def refusals (users : Users) : List Attempt → LimiterStore → List Response
  | [], _ => []
  | attempt :: rest, limiter =>
      refusal users limiter attempt :: refusals users rest (limited limiter attempt).2

theorem serve_refused (none : NoneAuthenticates settings attempts deployment) :
    (serve settings attempts deployment).1 =
        refusals deployment.world.users attempts deployment.limiter ∧
      (serve settings attempts deployment).2.world = deployment.world := by
  induction attempts generalizing deployment with
  | nil => exact ⟨rfl, rfl⟩
  | cons attempt rest ih =>
      simp only [NoneAuthenticates, loginEndpoint_refused none.1] at none
      have later := ih none.2
      simp only [serve, loginEndpoint_refused none.1, refusals]
      exact ⟨congrArg _ later.1, later.2⟩

omit [Crypto] in
/-- One request is answered alike exactly when its row is as readable in both tables. -/
theorem refusal_eq_iff {users users' : Users} {limiter : LimiterStore} :
    refusal users limiter attempt = refusal users' limiter attempt ↔
      ((limited limiter attempt).1.isOk = true →
        readable users attempt.call.email = readable users' attempt.call.email) := by
  simp only [refusal]
  cases (limited limiter attempt).1 with
  | error error => simp
  | ok done =>
      simp only [Result.isOk_ok, forall_true_left]
      cases readable users attempt.call.email <;> cases readable users' attempt.call.email <;>
        decide

omit [Crypto] in
theorem refusals_eq_iff {users users' : Users} {limiter : LimiterStore} :
    refusals users attempts limiter = refusals users' attempts limiter ↔
      EquallyReadable users users' attempts limiter := by
  induction attempts generalizing limiter with
  | nil => simp only [refusals, EquallyReadable]
  | cons attempt rest ih =>
      simp only [refusals, EquallyReadable, List.cons.injEq, refusal_eq_iff, ih]

/-- Two tables in which no request authenticates answer the same, and stay as they are,
exactly when no request finds a row that is readable in one of them only. -/
theorem login_no_oracle (same : left.limiter = right.limiter)
    (noneLeft : NoneAuthenticates settings attempts left)
    (noneRight : NoneAuthenticates settings attempts right) :
    ((serve settings attempts left).1 = (serve settings attempts right).1 ∧
        (serve settings attempts left).2.world = left.world ∧
        (serve settings attempts right).2.world = right.world) ↔
      EquallyReadable left.world.users right.world.users attempts left.limiter := by
  rcases serve_refused noneLeft with ⟨answersLeft, keptLeft⟩
  rcases serve_refused noneRight with ⟨answersRight, keptRight⟩
  rw [answersLeft, answersRight, same, refusals_eq_iff]
  exact ⟨fun ⟨readable, _⟩ => readable, fun readable => ⟨readable, keptLeft, keptRight⟩⟩

end

namespace Sample

attribute [local instance] unicode crypto

/-- Characters that have no weight in the collation of the database. -/
def ignorable (char : Char) : Bool :=
  let code := char.toNat
  decide (code ≤ 8) || decide (14 ≤ code ∧ code ≤ 31) || decide (0xFE00 ≤ code ∧ code ≤ 0xFE0F)

/-- Equality of the characters that have a weight. -/
@[reducible] def ignoring : Collation where
  weight value := (value.toList.filter fun char => !ignorable char).map Char.toNat

/-- Addresses that `Email` accepts. -/
@[reducible] def emailStr : Content.EmailStr where
  produces value := (Email.postInit value).isOk

attribute [local instance] ignoring emailStr

/-- What `LoginRequest` accepts. -/
def accepted [Content.EmailStr] (call : LoginCall) : Prop :=
  Content.EmailStr.produces call.email = true ∧ 1 ≤ call.password.length ∧
    call.password.length ≤ 72

/-- A row written without the value object. -/
def separated : UserModel := { admin with email := "admin\x1f@ch-tech.dev" }

def deployed (users : Users) : Deployment := ⟨⟨0, fun _ => none⟩, ⟨users, Table.empty⟩⟩

def guess (clock : Nat) : Attempt where
  clock := clock
  call := ⟨"admin@ch-tech.dev", "guess", client⟩
  draws := ⟨Sample.clock, Sample.clock, Sample.clock, Sample.clock, firstToken⟩
  id := 11

theorem unreadable_row :
    ¬ ∀ (settings : Settings) (attempts : List Attempt) (left right : Deployment),
        left.limiter = right.limiter →
        (∀ attempt ∈ attempts, accepted attempt.call) →
        (∀ email, Content.EmailStr.produces email = true → (Email.postInit email).isOk = true) →
        NoneAuthenticates settings attempts left →
        NoneAuthenticates settings attempts right →
        (serve settings attempts left).1 = (serve settings attempts right).1 ∧
          (serve settings attempts left).2.world = left.world ∧
          (serve settings attempts right).2.world = right.world := by
  intro claim
  have same := claim settings [guess 0] (deployed (.singleton separated)) (deployed .empty) rfl
    (by simp only [List.mem_singleton, forall_eq]; exact ⟨by decide, by decide, by decide⟩)
    (fun _ produced => produced) ⟨fun _ => by decide, trivial⟩ ⟨fun _ => by decide, trivial⟩
  exact absurd same.1 (by decide)

/-- Five guesses and one more within the window. -/
def guesses : List Attempt := [guess 1, guess 2, guess 3, guess 4, guess 5, guess 6]

theorem login_no_oracle_guesses :
    (serve settings guesses (deployed (.singleton admin))).1 =
        (serve settings guesses (deployed .empty)).1 ∧
      (serve settings guesses (deployed (.singleton admin))).2.world =
        (deployed (.singleton admin)).world ∧
      (serve settings guesses (deployed .empty)).2.world = (deployed .empty).world := by
  have same : (deployed (.singleton admin)).limiter = (deployed .empty).limiter := rfl
  refine (login_no_oracle same ?_ ?_).mpr ?_
  · exact ⟨fun _ => by decide, fun _ => by decide, fun _ => by decide, fun _ => by decide,
      fun _ => by decide, fun _ => by decide, trivial⟩
  · exact ⟨fun _ => by decide, fun _ => by decide, fun _ => by decide, fun _ => by decide,
      fun _ => by decide, fun _ => by decide, trivial⟩
  · exact ⟨fun _ => by decide, fun _ => by decide, fun _ => by decide, fun _ => by decide,
      fun _ => by decide, fun _ => by decide, trivial⟩

end Sample

end ChTech.Auth
