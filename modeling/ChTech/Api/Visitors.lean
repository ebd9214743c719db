import ChTech.Api.Disclosures

/-!
# What visitors can tell

A run of requests that do not go to the admin pages, over two databases that differ in drafts
only.  Both servers take the same steps, so no such run tells the two databases apart.
-/

namespace ChTech.Api

open Foundation Content Application

section

variable [PyUnicode] [Collation] [Crypto] [Jwt] [PyDecimal] [Mysql] [EmailStr]
  {deployment : Deployment} {state next : State} {label : Label} {pid : Nat}
  {exchange : Exchange} {rest : List Stage} {content : Store}

/-- Its action is not one of the admin pages. -/
def Action.visits : Action → Bool
  | .read asked _ => asked.isPublic
  | .change (.contact ..) | .login .. | .refresh _ | .logout _ => true
  | .change _ => false

def Request.visits (request : Request) : Prop :=
  ∀ action, request.sent = .action action → action.visits = true

/-- The databases differ in drafts only. -/
structure Alike (first second : Store) : Prop where
  visible : first.toDb.visible = second.toDb.visible
  contactRequests : first.contactRequests = second.contactRequests

omit [Crypto] [Jwt] [PyDecimal] [EmailStr] in
/-- A contact request is stored in both, or in neither. -/
theorem Alike.submit {first second : Store} (alike : Alike first second) (defaults : Defaults)
    (payload : ContactCreate) :
    ((Change.contact defaults payload).execute first).1 =
        ((Change.contact defaults payload).execute second).1 ∧
      Alike ((Change.contact defaults payload).execute first).2
        ((Change.contact defaults payload).execute second).2 := by
  have same : Part.contactRequests.get first = Part.contactRequests.get second :=
    alike.contactRequests
  simp only [Change.execute, Program.map_apply, SubmitContactRequest.execute, savePlain,
    Program.on_result, Program.on_store, same]
  exact ⟨trivial, alike.visible, rfl⟩

/-- The same server over another database. -/
def State.over (state : State) (content : Store) : State := { state with content }

omit [Crypto] [Jwt] [PyDecimal] [Mysql] [EmailStr] in
@[simp] theorem State.over_limiter : (state.over content).limiter = state.limiter := rfl

omit [Crypto] [Jwt] [PyDecimal] [Mysql] [EmailStr] in
@[simp] theorem State.over_auth : (state.over content).auth = state.auth := rfl

omit [Crypto] [Jwt] [PyDecimal] [Mysql] [EmailStr] in
@[simp] theorem State.over_exchanges : (state.over content).exchanges = state.exchanges := rfl

omit [Crypto] [Jwt] [PyDecimal] [Mysql] [EmailStr] in
/-- The accounts are those of the server. -/
theorem Alike.store (alike : Alike state.content content) :
    Alike state.store (state.over content).store :=
  ⟨alike.visible, alike.contactRequests⟩

/-- The step can be taken over a database that is alike, and leaves them alike. -/
def Followed (next : State) (result : Option State) : Prop :=
  ∃ content, Alike next.content content ∧ result = some (next.over content)

/-! ## The stages -/

omit [Crypto] [Jwt] [PyDecimal] [Mysql] [EmailStr] in
theorem State.checkLimit_over {call : RateLimit.Call} (alike : Alike state.content content)
    (stepped : state.checkLimit pid exchange rest call = some next) :
    Followed next ((state.over content).checkLimit pid exchange rest call) := by
  simp only [State.checkLimit, State.over_limiter] at stepped ⊢
  split at stepped
  next idle =>
    rcases Option.map_eq_some_iff.mp stepped with ⟨limiter, moved, same⟩
    subst same
    refine ⟨content, alike, ?_⟩
    rw [moved]
    rfl
  next running admitted =>
    cases stepped
    exact ⟨content, alike, rfl⟩
  next running error refused =>
    cases stepped
    exact ⟨content, alike, rfl⟩
  next => cases stepped

omit [Jwt] [PyDecimal] [Mysql] [EmailStr] in
theorem State.await_over {call : Auth.Request} (alike : Alike state.content content)
    (stepped : state.await deployment pid exchange call = some next) :
    Followed next ((state.over content).await deployment pid exchange call) := by
  cases running : state.auth.procs pid with
  | idle =>
      simp only [State.await, State.over_auth, running] at stepped ⊢
      rcases Option.map_eq_some_iff.mp stepped with ⟨auth, moved, same⟩
      subst same
      rw [moved]
      exact ⟨content, alike, rfl⟩
  | _ =>
      simp only [State.await, State.over_auth, running] at stepped ⊢
      rcases Option.map_eq_some_iff.mp stepped with ⟨result, ended, same⟩
      subst same
      rw [ended]
      exact ⟨content, alike, rfl⟩

omit [Jwt] [EmailStr] in
theorem State.execute_over {action : Action} (alike : Alike state.content content)
    (visits : action.visits = true)
    (stepped : state.execute deployment pid exchange action = some next) :
    Followed next ((state.over content).execute deployment pid exchange action) := by
  cases action with
  | read asked ties =>
      have visits : asked.isPublic = true := visits
      have answered := Reading.execute_visible deployment.engine alike.store.visible visits
      cases stepped
      refine ⟨content, alike, ?_⟩
      rw [State.execute, if_pos visits, ← answered, if_pos visits]
      rfl
  | change asked =>
      cases asked with
      | contact defaults payload =>
          rcases alike.store.submit defaults payload with ⟨answered, left⟩
          cases stepped
          refine ⟨_, left, ?_⟩
          simp only [State.execute, signed, State.carryOut]
          rw [← answered]
          rfl
      | _ => cases visits
  | login email password => exact State.await_over alike stepped
  | refresh rawRefreshToken => exact State.await_over alike stepped
  | logout rawRefreshToken =>
      simp only [State.execute] at stepped ⊢
      cases named : PyUuid.ofText (exchange.subject.getD "") with
      | error raised =>
          rw [named] at stepped
          cases stepped
          exact ⟨content, alike, rfl⟩
      | ok currentUserId =>
          rw [named] at stepped
          exact State.await_over alike stepped

theorem State.perform_over {stage : Stage} (alike : Alike state.content content)
    (visits : exchange.request.visits)
    (stepped : state.perform deployment pid exchange rest stage = some next) :
    Followed next ((state.over content).perform deployment pid exchange rest stage) := by
  cases stage with
  | parse =>
      simp only [State.perform] at stepped ⊢
      cases sent : exchange.request.sent with
      | _ =>
          rw [sent] at stepped
          cases stepped
          exact ⟨content, alike, rfl⟩
  | limit =>
      rcases Option.bind_eq_some_iff.mp stepped with ⟨call, called, stepped⟩
      rw [State.perform, called]
      exact State.checkLimit_over alike stepped
  | authenticate =>
      simp only [State.perform, State.over_auth] at stepped ⊢
      cases known : getCurrentUserId deployment.settings state.auth.clock
          exchange.request.credentials with
      | _ =>
          rw [known] at stepped
          cases stepped
          exact ⟨content, alike, rfl⟩
  | validate =>
      simp only [State.perform] at stepped ⊢
      split at stepped
      next accepted =>
        cases stepped
        rw [if_pos accepted]
        exact ⟨content, alike, rfl⟩
      next rejected =>
        cases stepped
        rw [if_neg rejected]
        exact ⟨content, alike, rfl⟩
  | execute =>
      simp only [State.perform] at stepped ⊢
      cases sent : exchange.request.sent with
      | action action =>
          rw [sent] at stepped
          exact State.execute_over alike (visits action sent) stepped
      | undecodable | malformed | mistyped =>
          rw [sent] at stepped
          cases stepped

/-- Every request is one of a visitor. -/
def Visited (state : State) : Prop :=
  ∀ pid exchange, state.exchanges pid = some exchange → exchange.request.visits

theorem State.advance_over (alike : Alike state.content content) (visits : exchange.request.visits)
    (stepped : state.advance deployment pid exchange = some next) :
    Followed next ((state.over content).advance deployment pid exchange) := by
  simp only [State.advance] at stepped ⊢
  split at stepped
  next stage rest _ _ =>
    exact State.perform_over alike visits stepped
  next => cases stepped

/-- A server over a database that is alike takes the same step. -/
theorem step_over (alike : Alike state.content content) (visited : Visited state)
    (stepped : step deployment state label = some next) :
    Followed next (step deployment (state.over content) label) := by
  cases label with
  | tick clock | command pid =>
      rcases Option.map_eq_some_iff.mp stepped with ⟨limiter, moved, same⟩
      subst same
      refine ⟨content, alike, ?_⟩
      rw [step, State.over_limiter, moved]
      rfl
  | auth inner =>
      simp only [step] at stepped ⊢
      split at stepped
      next => cases stepped
      next free =>
        rcases Option.map_eq_some_iff.mp stepped with ⟨auth, moved, same⟩
        subst same
        refine ⟨content, alike, ?_⟩
        rw [if_neg (show ¬(state.over content).reserved inner = true from free),
          State.over_auth, moved]
        rfl
  | receive pid request =>
      simp only [step, State.over_exchanges, State.over_auth] at stepped ⊢
      split at stepped
      next new idle =>
        split at stepped
        next wellFormed =>
          cases stepped
          exact ⟨content, alike, if_pos wellFormed⟩
        next => cases stepped
      next => cases stepped
  | advance pid =>
      rcases Option.bind_eq_some_iff.mp stepped with ⟨exchange, present, stepped⟩
      rw [step, State.over_exchanges, present]
      exact State.advance_over alike (visited pid exchange present) stepped
  | notify pid =>
      rcases Option.bind_eq_some_iff.mp stepped with ⟨exchange, present, stepped⟩
      rcases Option.map_eq_some_iff.mp stepped with ⟨contact, pending, same⟩
      subst same
      refine ⟨content, alike, ?_⟩
      rw [step, State.over_exchanges, present, Option.bind_some, pending]
      rfl

/-- Only visitors send requests. -/
def Visiting (_ : State) : Label → Prop
  | .receive _ request => request.visits
  | .tick _ | .command _ | .auth _ | .advance _ | .notify _ => True

theorem Visited.step (visited : Visited state) (met : Visiting state label)
    (transition : Transition deployment state label next) : Visited next := by
  refine transition.exchanges visited (fun _ _ _ visits => visits) ?_ ?_
  · intro pid request received _ _
    subst received
    exact met
  · intro pid before after _ visits moved
    generalize next.content = content at moved
    cases moved with
    | _ => exact visits

/-- The other server is the same over a database that is alike, and only visitors use them. -/
def Mirrored (state other : State) : Prop :=
  Visited state ∧ ∃ content, Alike state.content content ∧ other = state.over content

theorem Mirrored.step {other : State} (mirrored : Mirrored state other)
    (met : Visiting state label) (stepped : Api.step deployment state label = some next) :
    ∃ next', Api.step deployment other label = some next' ∧ Mirrored next next' := by
  rcases mirrored with ⟨visited, content, alike, same⟩
  subst same
  rcases step_over alike visited stepped with ⟨content', left, followed⟩
  exact ⟨next.over content', followed, visited.step met (step_transition stepped), content', left,
    rfl⟩

/-- Over two databases that differ in drafts only, every run in which only visitors send requests
can be taken with the same labels, and ends with the same responses, the same mails and the same
accounts and counters. -/
theorem drafts_indistinguishable {clock : Nat} {now : Instant} {first second : Store}
    (alike : Alike first second) (users : first.users = second.users)
    (tokens : first.refreshTokens = second.refreshTokens) {labels : List Label} {last : State}
    (run : Machine.Runs (step deployment) Visiting (State.init clock now first) labels last) :
    ∃ other, Machine.Runs (step deployment) Machine.Any (State.init clock now second) labels other ∧
      other.exchanges = last.exchanges ∧ other.mails = last.mails ∧ other.auth = last.auth ∧
      other.limiter = last.limiter ∧ Alike last.content other.content := by
  have mirrored : Mirrored (State.init clock now first) (State.init clock now second) := by
    refine ⟨?_, second, alike, ?_⟩
    · intro pid exchange present
      cases present
    · rw [State.init, State.init, users, tokens]
      rfl
  rcases run.erase (fun _ => true) (fun mirrored met _ stepped => mirrored.step met stepped)
    (fun _ _ dropped _ => nomatch dropped) mirrored with
    ⟨other, followed, _, content, left, same⟩
  rw [List.filter_true] at followed
  subst same
  exact ⟨last.over content, followed, rfl, rfl, rfl, rfl, left⟩

end

namespace Sample

open Auth.Sample (unicode collation signing jwt admin clock)
open Content.Sample (mysql)

attribute [local instance] unicode collation signing jwt mysql decimal emailStr

def retired : ServiceModel where
  id := 9
  title := "Fax"
  slug := "fax"
  description := none
  featured := false
  active := false
  serviceLineId := none
  createdAt := 1767225600000000
  updatedAt := 1767225600000000

/-- A site with an inactive service. -/
def draftStore : Store :=
  { emptyStore (.singleton admin) with services := ⟨[retired], List.pairwise_singleton _ _⟩ }

def look : Request where
  client := some "203.0.113.9"
  userAgent := some "Mozilla/5.0"
  credentials := none
  sent := .action (.read (.serviceList true) fun _ => 0)

def looking : List Label :=
  [.receive 0 look, .advance 0, .command 0, .command 0, .advance 0, .advance 0, .advance 0]

/-- A visitor reads the services of a site with an inactive one. -/
theorem drafts_indistinguishable_service : ∃ last other : State,
    Machine.exec (step deployment) start looking = some last ∧
      Machine.Runs (step deployment) Machine.Any (State.init 0 clock draftStore) looking other ∧
      other.exchanges = last.exchanges ∧ ((last.exchanges 0).bind Exchange.response).isSome := by
  obtain ⟨last, executed⟩ := Option.isSome_iff_exists.mp
    (by decide +kernel : (Machine.exec (step deployment) start looking).isSome)
  have answered : ((last.exchanges 0).bind Exchange.response).isSome = true :=
    Machine.read_of_map (fun last => ((last.exchanges 0).bind Exchange.response).isSome) executed
      (by decide +kernel)
  have visiting : ∀ label ∈ looking, ∀ state, Visiting state label := by
    simp only [looking, List.forall_mem_cons, List.not_mem_nil, Visiting]
    refine ⟨fun _ => ?_, by simp⟩
    intro action sent
    cases sent
    rfl
  have alike : Alike (emptyStore (.singleton admin)) draftStore := ⟨rfl, rfl⟩
  rcases drafts_indistinguishable alike rfl rfl (Machine.Runs.of_exec visiting executed) with
    ⟨other, run, same, _⟩
  exact ⟨last, other, executed, run, same, answered⟩

end Sample

end ChTech.Api
