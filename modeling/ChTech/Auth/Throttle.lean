import Mathlib.Data.List.Perm.Subperm
import ChTech.Auth.Oracle
import ChTech.RateLimit.Windows

/-!
# Login attempts against one account

The limiter counts requests by the lower-cased address, `Login` finds the account by the
collation of the database.  Any number of login requests run at once, each through the
limiter's commands and then through `Login`.  Where the collation equates two lower-cased
addresses with one stored one only when they are the same, an account has one budget.
-/

namespace ChTech.Auth.Throttle

open Foundation

section

variable [PyUnicode] [Collation] [Crypto]

structure Request where
  pid : Nat
  call : LoginCall
  deriving DecidableEq, Repr

/-- A comparison of a request's password with the hash of a user. -/
structure Comparison where
  pid : Nat
  userId : UUID
  deriving DecidableEq, Repr

/-- The limiter and the executions, with the requests and the comparisons so far, newest
first. -/
structure State where
  limiter : RateLimit.State
  auth : Auth.State
  requests : List Request
  comparisons : List Comparison

/-- No request yet, over any stored rows. -/
def State.init (clock : Nat) (now : Instant) (users : Users) (tokens : RefreshTokens) : State :=
  ⟨RateLimit.State.init clock, Auth.State.init now users tokens, [], []⟩

inductive Label where
  /-- The time of the limiter's server. -/
  | tick (clock : Nat)
  /-- The time of the application. -/
  | now (clock : Instant)
  | request (pid : Nat) (call : LoginCall)
  | command (pid : Nat)
  /-- `use_case.execute`, after the limiter has let the request through. -/
  | execute (pid : Nat)
  | advance (pid : Nat)
  | generate (pid : Nat) (rawToken : String)
  | create (pid : Nat) (id : UUID)

/-- The user that the lookup of `Login` finds. -/
def resolves (users : Users) (call : LoginCall) : Option UUID :=
  (users.find? fun model => Collation.equal model.email (lookupEmail call.email)).map UserModel.id

/-- The comparison that the next part of an execution makes. -/
def comparison (auth : Auth.State) (pid : Nat) : List Comparison :=
  match auth.procs pid with
  | .login call .getByEmail =>
      match UserRepository.getByEmail auth.users (lookupEmail call.email) with
      | .ok (some user) => if user.isActive then [⟨pid, user.id⟩] else []
      | _ => []
  | _ => []

def step (settings : Settings) : Machine State Label
  | state, .tick clock =>
      (RateLimit.step state.limiter (.tick clock)).map fun limiter => { state with limiter }
  | state, .now clock =>
      (Auth.step settings state.auth (.tick clock)).map fun auth => { state with auth }
  | state, .request pid call =>
      (RateLimit.step state.limiter (.call pid (loginLimit call.email))).map fun limiter =>
        { state with limiter, requests := ⟨pid, call⟩ :: state.requests }
  | state, .command pid =>
      (RateLimit.step state.limiter (.command pid)).map fun limiter => { state with limiter }
  | state, .execute pid =>
      match state.limiter.calls pid, state.requests.find? fun request => request.pid == pid with
      | some ⟨_, .admitted⟩, some request =>
          (Auth.step settings state.auth (.call pid (.login request.call))).map fun auth =>
            { state with auth }
      | _, _ => none
  | state, .advance pid =>
      (Auth.step settings state.auth (.advance pid)).map fun auth =>
        { state with auth, comparisons := comparison state.auth pid ++ state.comparisons }
  | state, .generate pid rawToken =>
      (Auth.step settings state.auth (.generate pid rawToken)).map fun auth => { state with auth }
  | state, .create pid id =>
      (Auth.step settings state.auth (.create pid id)).map fun auth => { state with auth }

/-- Two addresses that the collation equates with one stored address are the same in lower
case. -/
def spelledAlike (users : Users) (first second : LoginCall) : Bool :=
  users.rows.all fun model =>
    !(Collation.equal model.email (lookupEmail first.email) &&
        Collation.equal model.email (lookupEmail second.email)) ||
      PyUnicode.lower first.email == PyUnicode.lower second.email

omit [Crypto] in
theorem spelledAlike_refl (users : Users) (call : LoginCall) :
    spelledAlike users call call = true := by
  simp [spelledAlike]

omit [Crypto] in
theorem spelledAlike_symm (users : Users) (first second : LoginCall) :
    spelledAlike users first second = spelledAlike users second first := by
  simp only [spelledAlike]
  congr 1
  funext model
  rw [Bool.and_comm, BEq.comm]

/-- A request spells an account as the earlier ones have. -/
def oneSpelling (state : State) : Label → Bool
  | .request _ call =>
      state.requests.all fun earlier => spelledAlike state.auth.users call earlier.call
  | _ => true

abbrev OneSpelling (state : State) (label : Label) : Prop := oneSpelling state label = true

/-- The requests for an account count on one key, and of those counted in one of its windows
at most five reach the comparison with the account's hash. -/
structure OneBudget (state : State) (userId : UUID) (key : String) : Prop where
  counted : ∀ request ∈ state.requests, resolves state.auth.users request.call = some userId →
    loginKey request.call.email = key
  requested : ∀ compared ∈ state.comparisons, compared.userId = userId →
    ∃ request ∈ state.requests, request.pid = compared.pid ∧
      resolves state.auth.users request.call = some userId
  hit : ∀ compared ∈ state.comparisons, compared.userId = userId →
    ∃ hit ∈ (RateLimit.windows (state.limiter.history key)).flatten, hit.pid = compared.pid
  bounded : ∀ window ∈ RateLimit.windows (state.limiter.history key),
    (state.comparisons.filter fun compared =>
      compared.userId == userId && window.any fun hit => hit.pid == compared.pid).length ≤ 5

variable {settings : Settings} {state next : State} {auth auth' : Auth.State}

/-- The accounts have the same addresses. -/
def SameAddresses (users users' : Users) : Prop :=
  users.rows.map (fun model => (model.id, model.email)) =
    users'.rows.map fun model => (model.id, model.email)

omit [Crypto] in
theorem SameAddresses.resolves {users users' : Users} (same : SameAddresses users users')
    (call : LoginCall) : resolves users call = resolves users' call := by
  have through : ∀ rows : List UserModel,
      (rows.find? fun model => Collation.equal model.email (lookupEmail call.email)).map
          UserModel.id =
        ((rows.map fun model => (model.id, model.email)).find? fun pair =>
          Collation.equal pair.2 (lookupEmail call.email)).map Prod.fst := by
    intro rows
    rw [List.find?_map, Option.map_map]
    rfl
  simp only [Throttle.resolves, Table.find?]
  rw [through, through, same]

omit [Crypto] in
theorem SameAddresses.spelledAlike {users users' : Users} (same : SameAddresses users users')
    (first second : LoginCall) :
    spelledAlike users first second = spelledAlike users' first second := by
  have through : ∀ rows : List UserModel,
      (rows.all fun model =>
        !(Collation.equal model.email (lookupEmail first.email) &&
            Collation.equal model.email (lookupEmail second.email)) ||
          PyUnicode.lower first.email == PyUnicode.lower second.email) =
        (rows.map fun model => (model.id, model.email)).all fun pair =>
          !(Collation.equal pair.2 (lookupEmail first.email) &&
              Collation.equal pair.2 (lookupEmail second.email)) ||
            PyUnicode.lower first.email == PyUnicode.lower second.email := by
    intro rows
    rw [List.all_map]
    rfl
  simp only [Throttle.spelledAlike]
  rw [through, through, same]

omit [PyUnicode] [Crypto] in
theorem SameAddresses.recordLogin {users users' : Users} {userId : UUID} {instant now : Instant}
    (recorded : UserRepository.recordLogin users userId instant now = .ok users') :
    SameAddresses users' users := by
  simp only [UserRepository.recordLogin] at recorded
  split at recorded
  · cases recorded
  · cases recorded
    simp only [SameAddresses, Table.modify, List.map_map]
    apply List.map_congr_left
    intro model _
    simp only [Function.comp, UserRepository.recordedLogin]
    split <;> rfl

/-- A login is one part further, past its lookup. -/
def Advanced (auth auth' : Auth.State) (pid : Nat) : Prop :=
  ∃ call pc, pc ≠ .getByEmail ∧ (∃ before, auth.procs pid = .login call before) ∧
    auth'.procs = auth.move pid (.login call pc) ∧ SameAddresses auth'.users auth.users

/-- Every execution is a login. -/
def Logins (auth : Auth.State) : Prop :=
  ∀ pid, auth.procs pid = .idle ∨ ∃ call pc, auth.procs pid = .login call pc

theorem advanced_of_advance {pid : Nat} (logins : Logins auth)
    (stepped : Auth.step settings auth (.advance pid) = some auth') : Advanced auth auth' pid := by
  rcases logins pid with idle | ⟨call, pc, present⟩
  · simp [Auth.step, idle] at stepped
  · simp only [Auth.step, present] at stepped
    cases pc with
    | getByEmail =>
        cases stepped
        refine ⟨call, _, ?_, ⟨_, present⟩, rfl, rfl⟩
        simp only [verifyCredentials]
        split
        · simp
        · simp
        · split <;> simp
    | readClock user =>
        cases stepped
        exact ⟨call, _, by simp, ⟨_, present⟩, rfl, rfl⟩
    | recordLogin user now =>
        simp only [Auth.State.advanceLogin] at stepped
        split at stepped
        · cases stepped
          exact ⟨call, _, by simp, ⟨_, present⟩, rfl, rfl⟩
        next users recorded =>
          cases stepped
          exact ⟨call, _, by simp, ⟨_, present⟩, rfl, SameAddresses.recordLogin recorded⟩
    | issue pc => cases stepped

theorem advanced_of_generate {pid : Nat} {rawToken : String} (logins : Logins auth)
    (stepped : Auth.step settings auth (.generate pid rawToken) = some auth') :
    Advanced auth auth' pid := by
  rcases logins pid with idle | ⟨call, pc, present⟩
  · simp [Auth.step, Auth.State.generate, idle, Auth.State.issuing] at stepped
  · cases pc with
    | issue pc =>
        simp only [Auth.step, Auth.State.generate, present, Auth.State.issuing] at stepped
        split at stepped
        next found =>
          cases found
          cases stepped
          exact ⟨call, _, by simp, ⟨_, present⟩, rfl, rfl⟩
        next => cases stepped
    | getByEmail | readClock _ | recordLogin _ _ =>
        simp [Auth.step, Auth.State.generate, present, Auth.State.issuing] at stepped

theorem advanced_of_create {pid : Nat} {id : UUID} (logins : Logins auth)
    (stepped : Auth.step settings auth (.create pid id) = some auth') :
    Advanced auth auth' pid := by
  rcases logins pid with idle | ⟨call, pc, present⟩
  · simp [Auth.step, Auth.State.create, idle, Auth.State.issuing] at stepped
  · cases pc with
    | issue pc =>
        simp only [Auth.step, Auth.State.create, present, Auth.State.issuing] at stepped
        split at stepped
        next found =>
          cases found
          split at stepped
          · cases stepped
            exact ⟨call, _, by simp, ⟨_, present⟩, rfl, rfl⟩
          · cases stepped
            exact ⟨call, _, by simp, ⟨_, present⟩, rfl, rfl⟩
        next => cases stepped
    | getByEmail | readClock _ | recordLogin _ _ =>
        simp [Auth.step, Auth.State.create, present, Auth.State.issuing] at stepped

/-! ## The invariant -/

/-- What holds in every reached state. -/
structure Inv (clock : Nat) (state : State) : Prop where
  limiter : ∀ key, Machine.Reaches RateLimit.step (RateLimit.Uniform key 5 900)
    (RateLimit.State.init clock) state.limiter
  hits : RateLimit.Counted state.limiter
  logins : Logins state.auth
  requested : ∀ request ∈ state.requests, ∃ pc,
    state.limiter.calls request.pid = some ⟨loginLimit request.call.email, pc⟩
  admitted : ∀ pid call pc, state.auth.procs pid = .login call pc →
    ⟨pid, call⟩ ∈ state.requests ∧
      state.limiter.calls pid = some ⟨loginLimit call.email, .admitted⟩
  spelled : ∀ first ∈ state.requests, ∀ second ∈ state.requests,
    spelledAlike state.auth.users first.call second.call = true
  compared : ∀ compared ∈ state.comparisons, ∃ call pc, pc ≠ .getByEmail ∧
    state.auth.procs compared.pid = .login call pc ∧
    resolves state.auth.users call = some compared.userId
  distinct : (state.comparisons.map Comparison.pid).Nodup

namespace Inv

variable {clock : Nat}

omit [Crypto] in
/-- The limiter moves on, and new requests arrive that are spelled as before. -/
theorem limited (inv : Inv clock state) {label : RateLimit.Label} {limiter : RateLimit.State}
    {requests : List Request} (stepped : RateLimit.step state.limiter label = some limiter)
    (uniform : ∀ key, RateLimit.Uniform key 5 900 state.limiter label)
    (kept : ∀ request ∈ state.requests, request ∈ requests)
    (arrived : ∀ request ∈ requests, request ∈ state.requests ∨
      ∃ pc, limiter.calls request.pid = some ⟨loginLimit request.call.email, pc⟩)
    (spelled : ∀ first ∈ requests, ∀ second ∈ requests,
      spelledAlike state.auth.users first.call second.call = true) :
    Inv clock { state with limiter, requests } := by
  have transition := RateLimit.step_transition stepped
  constructor
  · exact fun key => (inv.limiter key).snoc (uniform key) stepped
  · exact transition.counted inv.hits
  · exact inv.logins
  · intro request member
    rcases arrived request member with before | called
    · rcases inv.requested request before with ⟨pc, present⟩
      rcases transition.keeps present with ⟨pc', present', _⟩
      exact ⟨pc', present'⟩
    · exact called
  · intro pid call pc present
    rcases inv.admitted pid call pc present with ⟨member, finished⟩
    rcases transition.keeps finished with ⟨pc', present', same⟩
    rw [same rfl] at present'
    exact ⟨kept _ member, present'⟩
  · exact spelled
  · exact inv.compared
  · exact inv.distinct

omit [Crypto] in
/-- A request that the limiter has let through begins its execution. -/
theorem executed (inv : Inv clock state) {pid : Nat} {call : LoginCall}
    (idle : state.auth.procs pid = .idle) (member : ⟨pid, call⟩ ∈ state.requests)
    (through : state.limiter.calls pid = some ⟨loginLimit call.email, .admitted⟩) :
    Inv clock { state with
      auth := { state.auth with procs := state.auth.move pid (.login call .getByEmail) } } := by
  have others : ∀ other, other ≠ pid →
      state.auth.move pid (.login call .getByEmail) other = state.auth.procs other :=
    fun other different => Function.update_of_ne different ..
  have mine : state.auth.move pid (.login call .getByEmail) pid = .login call .getByEmail :=
    Function.update_self ..
  constructor
  · exact inv.limiter
  · exact inv.hits
  · intro other
    by_cases different : other = pid
    · exact .inr ⟨call, .getByEmail, different ▸ mine⟩
    · simp only [others other different]
      exact inv.logins other
  · exact inv.requested
  · intro other call' pc present
    by_cases different : other = pid
    · subst different
      simp only [mine, Proc.login.injEq] at present
      rw [← present.1]
      exact ⟨member, through⟩
    · simp only [others other different] at present
      exact inv.admitted other call' pc present
  · exact inv.spelled
  · intro compared compared_mem
    rcases inv.compared compared compared_mem with ⟨call', pc, past, present, found⟩
    have different : compared.pid ≠ pid := by
      intro same
      rw [same, idle] at present
      cases present
    exact ⟨call', pc, past, (others _ different).trans present, found⟩
  · exact inv.distinct

omit [Crypto] in
/-- An execution moves on past its lookup, and may have compared. -/
theorem advanced (inv : Inv clock state) {pid : Nat} {auth : Auth.State}
    {added : List Comparison} (moved : Advanced state.auth auth pid)
    (compared : added = [] ∨ ∃ call userId, state.auth.procs pid = .login call .getByEmail ∧
      resolves state.auth.users call = some userId ∧ added = [⟨pid, userId⟩]) :
    Inv clock { state with auth, comparisons := added ++ state.comparisons } := by
  rcases moved with ⟨call, pc, past, ⟨before, present⟩, procs, same⟩
  have others : ∀ other, other ≠ pid → auth.procs other = state.auth.procs other := by
    intro other different
    rw [procs]
    exact Function.update_of_ne different ..
  have mine : auth.procs pid = .login call pc := by
    rw [procs]
    exact Function.update_self ..
  -- The comparisons so far are those of executions past their lookup.
  have earlier : ∀ compared ∈ state.comparisons, ∃ call pc, pc ≠ .getByEmail ∧
      auth.procs compared.pid = .login call pc ∧
      resolves auth.users call = some compared.userId := by
    intro compared member
    rcases inv.compared compared member with ⟨call', pc', past', present', found⟩
    by_cases same' : compared.pid = pid
    · rw [same', present] at present'
      cases present'
      exact ⟨call, pc, past, same' ▸ mine, (same.resolves call).trans found⟩
    · exact ⟨call', pc', past', (others _ same').trans present',
        (same.resolves call').trans found⟩
  constructor
  · exact inv.limiter
  · exact inv.hits
  · intro other
    by_cases different : other = pid
    · exact .inr ⟨call, pc, different ▸ mine⟩
    · rw [others other different]
      exact inv.logins other
  · exact inv.requested
  · intro other call' pc' present'
    by_cases different : other = pid
    · subst different
      rw [mine] at present'
      cases present'
      exact inv.admitted other call before present
    · rw [others other different] at present'
      exact inv.admitted other call' pc' present'
  · intro first firstMem second secondMem
    rw [same.spelledAlike]
    exact inv.spelled first firstMem second secondMem
  · intro compared' member
    rcases List.mem_append.mp member with new | old
    · rcases compared with none | ⟨call', userId, looking, found, one⟩
      · rw [none] at new
        cases new
      · rw [one] at new
        rw [List.mem_singleton.mp new]
        rw [looking] at present
        cases present
        exact ⟨call, pc, past, mine, (same.resolves call).trans found⟩
    · exact earlier compared' old
  · rcases compared with none | ⟨call', userId, looking, found, one⟩
    · rw [none]
      exact inv.distinct
    · rw [one]
      refine List.nodup_cons.mpr ⟨?_, inv.distinct⟩
      intro again
      rcases List.mem_map.mp again with ⟨compared', member, equal⟩
      rcases inv.compared compared' member with ⟨_, _, past', present', _⟩
      rw [equal, looking] at present'
      cases present'
      exact past' rfl

end Inv

omit [Crypto] in
/-- A comparison is made by an execution at its lookup, with the user that it finds. -/
theorem comparison_cases (auth : Auth.State) (pid : Nat) :
    comparison auth pid = [] ∨ ∃ call userId, auth.procs pid = .login call .getByEmail ∧
      resolves auth.users call = some userId ∧ comparison auth pid = [⟨pid, userId⟩] := by
  simp only [comparison]
  split
  next call looking =>
    split
    next user found =>
      split
      · refine .inr ⟨call, user.id, looking, ?_, rfl⟩
        simp only [UserRepository.getByEmail] at found
        simp only [resolves]
        split at found
        · cases found
        next model present =>
          rcases Result.map_eq_ok.mp found with ⟨entity, built, equal⟩
          cases equal
          rw [present, Option.map_some, UserModel.toEntity_id built]
      · exact .inl rfl
    next => exact .inl rfl
  next => exact .inl rfl

omit [PyUnicode] [Collation] [Crypto] in
theorem mem_of_find? {requests : List Request} {pid : Nat} {request : Request}
    (found : (requests.find? fun request => request.pid == pid) = some request) :
    request ∈ requests ∧ request.pid = pid := by
  have picked := List.find?_some found
  exact ⟨List.mem_of_find?_eq_some found, beq_iff_eq.mp picked⟩

theorem step_inv {clock : Nat} {label : Label} (inv : Inv clock state)
    (met : OneSpelling state label) (stepped : step settings state label = some next) :
    Inv clock next := by
  cases label with
  | tick time =>
      rcases Option.map_eq_some_iff.mp stepped with ⟨limiter, ticked, rfl⟩
      exact inv.limited ticked (fun _ => trivial) (fun _ member => member)
        (fun _ member => .inl member) inv.spelled
  | now time =>
      rcases Option.map_eq_some_iff.mp stepped with ⟨auth, ticked, rfl⟩
      simp only [Auth.step] at ticked
      split at ticked
      · cases ticked
        exact ⟨inv.limiter, inv.hits, inv.logins, inv.requested, inv.admitted, inv.spelled,
          inv.compared, inv.distinct⟩
      · cases ticked
  | request pid call =>
      rcases Option.map_eq_some_iff.mp stepped with ⟨limiter, called, rfl⟩
      simp only [OneSpelling, oneSpelling, List.all_eq_true] at met
      refine inv.limited called ?_ (fun _ member => List.mem_cons_of_mem _ member) ?_ ?_
      · exact fun key keyed => ⟨rfl, rfl⟩
      · intro request member
        rcases List.mem_cons.mp member with new | old
        · subst new
          simp only [RateLimit.step] at called
          split at called
          · cases called
            exact .inr ⟨.incr, Function.update_self ..⟩
          · cases called
        · exact .inl old
      · intro first firstMem second secondMem
        rcases List.mem_cons.mp firstMem with rfl | firstOld
        · rcases List.mem_cons.mp secondMem with rfl | secondOld
          · exact spelledAlike_refl ..
          · exact met second secondOld
        · rcases List.mem_cons.mp secondMem with rfl | secondOld
          · rw [spelledAlike_symm]
            exact met first firstOld
          · exact inv.spelled first firstOld second secondOld
  | command pid =>
      rcases Option.map_eq_some_iff.mp stepped with ⟨limiter, issued, rfl⟩
      exact inv.limited issued (fun _ => trivial) (fun _ member => member)
        (fun _ member => .inl member) inv.spelled
  | execute pid =>
      simp only [step] at stepped
      split at stepped
      next call request through requested =>
        rcases Option.map_eq_some_iff.mp stepped with ⟨auth, called, rfl⟩
        rcases mem_of_find? requested with ⟨member, same⟩
        subst same
        rcases inv.requested request member with ⟨pc, present⟩
        rw [through] at present
        cases present
        simp only [Auth.step] at called
        split at called
        next idle =>
          cases called
          exact inv.executed idle member through
        next => cases called
      next => cases stepped
  | advance pid =>
      rcases Option.map_eq_some_iff.mp stepped with ⟨auth, moved, rfl⟩
      exact inv.advanced (advanced_of_advance inv.logins moved) (comparison_cases state.auth pid)
  | generate pid rawToken =>
      rcases Option.map_eq_some_iff.mp stepped with ⟨auth, moved, rfl⟩
      exact inv.advanced (advanced_of_generate inv.logins moved) (.inl rfl)
  | create pid id =>
      rcases Option.map_eq_some_iff.mp stepped with ⟨auth, moved, rfl⟩
      exact inv.advanced (advanced_of_create inv.logins moved) (.inl rfl)

omit [Crypto] in
/-- Requests for one account that are spelled alike count on one key. -/
theorem key_eq_of_spelledAlike {users : Users} {first second : LoginCall} {userId : UUID}
    (alike : spelledAlike users first second = true)
    (found : resolves users first = some userId) (found' : resolves users second = some userId) :
    loginKey first.email = loginKey second.email := by
  rcases Option.map_eq_some_iff.mp found with ⟨model, present, same⟩
  rcases Option.map_eq_some_iff.mp found' with ⟨model', present', same'⟩
  rcases Table.mem_of_find? present with ⟨member, equal⟩
  rcases Table.mem_of_find? present' with ⟨member', equal'⟩
  have ids : (model.id == model'.id) = true := beq_iff_eq.mpr (same.trans same'.symm)
  have one : model = model' := by
    apply Table.eq_of_clash member member'
    · simp only [UserModel.clash, ids, Bool.true_or]
    · simp only [UserModel.clash, BEq.comm, ids, Bool.true_or]
  subst one
  simp only [spelledAlike, List.all_eq_true] at alike
  have lowered := alike model member
  rw [equal, equal', Bool.and_self, Bool.not_true, Bool.false_or] at lowered
  exact congrArg ("ratelimit:login:" ++ ·) (beq_iff_eq.mp lowered)

omit [Crypto] in
/-- Comparisons by different requests are no more than the admitted hits they belong to. -/
theorem Inv.bounded {clock : Nat} (inv : Inv clock state) {userId : UUID} {key : String}
    (counted : ∀ request ∈ state.requests,
      resolves state.auth.users request.call = some userId →
        loginKey request.call.email = key)
    {window : List RateLimit.Hit}
    (member : window ∈ RateLimit.windows (state.limiter.history key)) :
    (state.comparisons.filter fun compared =>
      compared.userId == userId && window.any fun hit => hit.pid == compared.pid).length ≤ 5 := by
  rcases RateLimit.reachable_inv (by decide) (inv.limiter key) with ⟨_, current, closed, keyInv⟩
  have capped : (window.filter (state.limiter.admits key)).length ≤ 5 := by
    rw [keyInv.split] at member
    exact (keyInv.ranked window member).length_admits_le
  have distinct := (inv.distinct.sublist (List.Sublist.map _
    (List.filter_sublist (p := fun compared : Comparison =>
      compared.userId == userId && window.any fun hit => hit.pid == compared.pid))))
  have within : ∀ pid ∈ (state.comparisons.filter fun compared => compared.userId == userId &&
      window.any fun hit => hit.pid == compared.pid).map Comparison.pid,
      pid ∈ (window.filter (state.limiter.admits key)).map RateLimit.Hit.pid := by
    intro pid pidMem
    rcases List.mem_map.mp pidMem with ⟨compared, selected, same⟩
    rcases List.mem_filter.mp selected with ⟨comparedMem, both⟩
    rcases Bool.and_eq_true_iff.mp both with ⟨mine, inside⟩
    rcases List.any_eq_true.mp inside with ⟨hit, hitMem, own⟩
    rcases inv.compared compared comparedMem with ⟨call, pc, _, present, found⟩
    rcases inv.admitted _ call pc present with ⟨requestMem, through⟩
    rw [beq_iff_eq.mp mine] at found
    have keyed := counted _ requestMem found
    subst same
    refine List.mem_map.mpr ⟨hit, List.mem_filter.mpr ⟨hitMem, ?_⟩, beq_iff_eq.mp own⟩
    rw [beq_iff_eq.mp own |>.symm] at through
    have same : (loginLimit call.email).key = key := keyed
    simp only [RateLimit.State.admits, RateLimit.State.verdict, through, same, if_true,
      RateLimit.Pc.verdict, beq_self_eq_true]
  have fewer := (List.Nodup.subperm distinct within).length_le
  rw [List.length_map, List.length_map] at fewer
  exact fewer.trans capped

omit [Crypto] in
theorem Inv.oneBudget {clock : Nat} (inv : Inv clock state) {userId : UUID} {key : String}
    (counted : ∀ request ∈ state.requests,
      resolves state.auth.users request.call = some userId →
        loginKey request.call.email = key) : OneBudget state userId key := by
  constructor
  · exact counted
  · intro compared member mine
    rcases inv.compared compared member with ⟨call, pc, _, present, found⟩
    rcases inv.admitted _ call pc present with ⟨requestMem, _⟩
    rw [mine] at found
    exact ⟨_, requestMem, rfl, found⟩
  · intro compared member mine
    rcases inv.compared compared member with ⟨call, pc, _, present, found⟩
    rcases inv.admitted _ call pc present with ⟨requestMem, through⟩
    rw [mine] at found
    rw [← counted _ requestMem found]
    exact inv.hits _ _ _ through (by simp) (by simp)
  · exact fun window member => inv.bounded counted member

omit [Crypto] in
theorem inv_init (clock : Nat) (now : Instant) (users : Users) (tokens : RefreshTokens) :
    Inv clock (State.init clock now users tokens) where
  limiter := fun _ => .refl _
  hits := RateLimit.counted_init clock
  logins := fun _ => .inl rfl
  requested := by simp [State.init]
  admitted := by simp [State.init, Auth.State.init]
  spelled := by simp [State.init]
  compared := by simp [State.init]
  distinct := .nil

/-- While the collation equates two requested addresses with one stored one only when they
are the same in lower case, each account has one budget: its requests count on one key, and
of those counted between two disappearances of the key at most five reach its hash. -/
theorem throttled_per_account {clock : Nat} {now : Instant} {users : Users}
    {tokens : RefreshTokens}
    (run : Machine.Reaches (step settings) OneSpelling (State.init clock now users tokens) state)
    (userId : UUID) : ∃ key, OneBudget state userId key := by
  have inv : Inv clock state :=
    run.invariant (Inv clock) step_inv (inv_init clock now users tokens)
  by_cases requested : ∃ request ∈ state.requests,
      resolves state.auth.users request.call = some userId
  · rcases requested with ⟨request, member, found⟩
    refine ⟨loginKey request.call.email, inv.oneBudget ?_⟩
    intro other otherMem found'
    exact key_eq_of_spelledAlike (inv.spelled other otherMem request member) found' found
  · refine ⟨"", inv.oneBudget ?_⟩
    intro request member found
    exact absurd ⟨request, member, found⟩ requested

end

namespace Sample

open Auth.Sample

attribute [local instance] unicode crypto ignoring emailStr

def start : State := State.init 0 Auth.Sample.clock (.singleton admin) .empty

/-- A request that gets through the limiter to the comparison. -/
def attempt (pid : Nat) (email : String) : List Label :=
  [.request pid ⟨email, "guess", client⟩, .command pid, .command pid, .execute pid, .advance pid]

/-- The collation ignores what `str.lower` keeps. -/
def selectors : List Label :=
  attempt 0 "admin@ch-tech.dev" ++ attempt 1 "admin\ufe0f@ch-tech.dev"

/-- The accounts that the requests are for. -/
def accounts (state : State) : List (Option UUID) :=
  state.requests.map fun request => resolves state.auth.users request.call

theorem two_budgets :
    ¬ ∀ (settings : Settings) (clock : Nat) (now : Instant) (users : Users)
        (tokens : RefreshTokens) (state : State),
        Machine.Reaches (step settings) Machine.Any (State.init clock now users tokens) state →
        (∀ request ∈ state.requests,
          Content.EmailStr.produces request.call.email = true ∧
            PyString.strip request.call.email = request.call.email) →
        ∀ userId, ∃ key, OneBudget state userId key := by
  intro claim
  obtain ⟨state, executed⟩ := Option.isSome_iff_exists.mp
    (by decide +kernel : (Machine.exec (step settings) start selectors).isSome)
  have requests : state.requests = [⟨1, ⟨"admin\ufe0f@ch-tech.dev", "guess", client⟩⟩,
      ⟨0, ⟨"admin@ch-tech.dev", "guess", client⟩⟩] :=
    Machine.read_of_map (fun state : State => state.requests) executed (by decide +kernel)
  have found : accounts state = [some admin.id, some admin.id] :=
    Machine.read_of_map accounts executed (by decide +kernel)
  have run : Machine.Reaches (step settings) Machine.Any start state :=
    ⟨_, Machine.Runs.of_exec (fun _ _ _ => trivial) executed⟩
  rw [accounts, requests, List.map_cons, List.map_cons, List.map_nil, List.cons.injEq,
    List.cons.injEq] at found
  obtain ⟨key, budget⟩ := claim settings 0 Auth.Sample.clock (.singleton admin) .empty state run
    (by rw [requests]; decide +kernel) admin.id
  have counted := budget.counted
  rw [requests] at counted
  have first := counted _ List.mem_cons_self found.1
  have second := counted _ (List.mem_cons_of_mem _ List.mem_cons_self) found.2.1
  exact absurd (first.trans second.symm) (by decide +kernel)

/-- Two spellings that `str.lower` makes one. -/
def capitals : List Label :=
  attempt 0 "admin@ch-tech.dev" ++
    [.request 1 ⟨"Admin@CH-TECH.dev", "guess", client⟩, .command 1, .execute 1, .advance 1]

theorem throttled_per_account_capitals :
    ∃ state, Machine.execIf (step settings) OneSpelling start capitals = some state ∧
      state.comparisons.length = 2 ∧ ∃ key, OneBudget state admin.id key := by
  obtain ⟨state, executed⟩ := Option.isSome_iff_exists.mp
    (by decide +kernel : (Machine.execIf (step settings) OneSpelling start capitals).isSome)
  have compared : state.comparisons.length = 2 :=
    Machine.read_of_map (fun state : State => state.comparisons.length) executed (by decide +kernel)
  exact ⟨state, executed, compared,
    throttled_per_account ⟨_, Machine.Runs.of_execIf executed⟩ admin.id⟩

end Sample

end ChTech.Auth.Throttle
