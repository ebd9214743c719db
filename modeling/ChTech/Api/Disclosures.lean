import ChTech.Api.Authorized
import ChTech.Api.Notifications

/-!
# Who is shown content

Content is shown by the endpoints of reads and of changes.  A request without a user sends a public
read, and sees of the store what its visible part determines: no draft leaves a trace in a response
to a visitor.
-/

namespace ChTech.Api

open Foundation Content Application

section

variable [PyUnicode]

/-- The body has rows of the store. -/
def Body.shows : Body → Bool
  | .read _ | .change _ => true
  | .tokens _ | .received | .empty | .error .. => false

theorem shows_handle (raised : Raised) : (handle raised).body.shows = false := by
  cases raised <;> rfl

theorem shows_of_refuses [Collation] [Crypto] [Jwt] [PyDecimal] [Mysql] [EmailStr]
    {deployment : Deployment} {state : State} {pid : Nat} {exchange : Exchange} {stage : Stage}
    {response : Response} (refuses : Refuses deployment state pid exchange stage response) :
    response.body.shows = false := by
  cases refuses with
  | authenticate raised failed => exact shows_handle raised
  | undecodable | malformed | limit | validate => rfl

/-- A response that shows content is that of an endpoint that has returned. -/
theorem returned_of_shows {status : Nat} {result : Except Raised Body}
    (shown : (respond status result).body.shows = true) :
    ∃ body, result = .ok body ∧ respond status result = ⟨status, body⟩ ∧ body.shows = true := by
  cases result with
  | error raised =>
      rw [respond, shows_handle] at shown
      cases shown
  | ok body => exact ⟨body, rfl, rfl, shown⟩

theorem shows_of_outcome {proc : Auth.Proc} {body : Body}
    (ended : outcome proc = some (.ok body)) : body.shows = false := by
  simp only [outcome] at ended
  split at ended
  all_goals cases ended
  all_goals rfl

/-- A contact request is answered by its receipt alone. -/
theorem guarded_of_shows [Collation] [PyDecimal] [Mysql] {subject : Option String}
    {asked change : Change} {store : Store} {answer : Answer}
    (authored : signed subject asked = .ok change)
    (answered : (change.execute store).1 = .ok answer) (shown : (answerBody answer).shows = true) :
    .authenticate ∈ (changeRoute asked).stages := by
  refine guarded_of_changeRoute ?_
  intro contact
  rcases contact_of_route contact with ⟨defaults, payload, same⟩
  subst same
  cases authored
  rcases returned_of_map answered with ⟨row, _, same⟩
  subst same
  cases shown

end

section

variable [PyUnicode] [Collation] [Crypto] [Jwt] [PyDecimal] [Mysql] [EmailStr]
  {deployment : Deployment} {state next : State} {label : Label} {pid : Nat}
  {before exchange : Exchange}

/-! ## Visitors -/

/-- A public read of the store has this response, and of any other whose visible part is the
same. -/
def Displays (deployment : Deployment) (asked : Read) (response : Response) (state : State) :
    Prop :=
  ∃ content, response = ⟨200, .read content⟩ ∧ ∀ db : Db, db.visible = state.store.toDb.visible →
    Reading.execute (deployment.engine.ranks asked db.visible) db asked = .ok content

omit [Crypto] [Jwt] [PyDecimal] [EmailStr] in
theorem displays_of_read {asked : Read} {content : Content.Response}
    (shown : asked.isPublic = true)
    (executed : Reading.execute (deployment.engine.ranks asked state.store.toDb.visible)
      state.store.toDb asked = .ok content) :
    Displays deployment asked ⟨200, .read content⟩ state := by
  refine ⟨content, rfl, ?_⟩
  intro db same
  rw [Reading.execute_visible deployment.engine same shown]
  exact executed

/-- The response to a request without a user shows no more than a public read of a state that
the run went through. -/
def Discreet (deployment : Deployment) (start state : State) (exchange : Exchange) : Prop :=
  ∀ response, exchange.response = some response → response.body.shows = true →
    exchange.subject.isSome = true ∨
      ∃ asked ties, exchange.request.sent = .action (.read asked ties) ∧ asked.isPublic = true ∧
        Machine.Earlier (step deployment) (Unforged deployment) start
          (Displays deployment asked response) state

theorem Discreet.later {start : State} (discreet : Discreet deployment start state exchange)
    (met : Unforged deployment state label) (stepped : step deployment state label = some next) :
    Discreet deployment start next exchange := by
  intro response answered shown
  rcases discreet response answered shown with user | ⟨asked, ties, sent, visible, earlier⟩
  · exact .inl user
  · exact .inr ⟨asked, ties, sent, visible, earlier.step met stepped⟩

/-- A stage shows no more than it may. -/
theorem Discreet.moved {start : State} {content : Store}
    (reached : Machine.Reaches (step deployment) (Unforged deployment) start state)
    (inOrder : InOrder before) (discreet : Discreet deployment start state before)
    (moved : Moved deployment state pid before label content exchange) :
    Discreet deployment start state exchange := by
  intro response answered shown
  cases moved with
  | passed stage rest subject waiting passes =>
      rw [waiting.unanswered] at answered
      cases answered
  | refused stage rest response waiting refuses =>
      cases answered
      rw [shows_of_refuses refuses] at shown
      cases shown
  | finished rest result waiting ends =>
      cases answered
      rcases returned_of_shows shown with ⟨body, returned, same, rows⟩
      cases ends with
      | read asked ties sent =>
          rcases Result.map_eq_ok.mp returned with ⟨content, executed, made⟩
          subst made
          by_cases visible : asked.isPublic = true
          · rw [if_pos visible] at executed
            have status : before.request.route.successStatus = 200 := by
              rw [Request.route, sent, Sent.route, Action.route, if_pos visible]
              rfl
            refine .inr ⟨asked, ties, sent, visible, .now reached ?_⟩
            rw [same, status]
            exact displays_of_read visible executed
          · refine .inl (inOrder.user waiting.todo ?_)
            rw [Request.route, sent, Sent.route, Action.route, if_neg visible]
            decide
      | unsigned | unnamed => cases returned
      | auth call result starts ended =>
          rw [returned] at ended
          rw [shows_of_outcome ended] at rows
          cases rows
  | carriedOut rest asked change waiting sent authored =>
      cases answered
      rcases returned_of_shows shown with ⟨body, returned, _, rows⟩
      rcases Result.map_eq_ok.mp returned with ⟨answer, executed, made⟩
      subst made
      refine .inl (inOrder.user waiting.todo ?_)
      rw [Request.route, sent]
      exact guarded_of_shows authored executed rows
  | notified contact pending => exact discreet response answered shown

structure Discretion (deployment : Deployment) (start state : State) : Prop where
  reached : Machine.Reaches (step deployment) (Unforged deployment) start state
  inOrder : AllInOrder state
  discreet : ∀ pid exchange, state.exchanges pid = some exchange →
    Discreet deployment start state exchange

theorem Discretion.step {start : State} (discretion : Discretion deployment start state)
    (met : Unforged deployment state label)
    (stepped : Api.step deployment state label = some next) :
    Discretion deployment start next := by
  have transition := step_transition stepped
  refine ⟨discretion.reached.snoc met stepped, discretion.inOrder.step transition, ?_⟩
  refine transition.exchanges discretion.discreet
    (fun _ _ _ discreet => discreet.later met stepped) ?_ ?_
  · intro pid request _ _ _ response answered
    cases answered
  · intro pid before after present discreet moved
    have inOrder := discretion.inOrder pid before present
    exact (discreet.moved discretion.reached inOrder moved).later met stepped

theorem discretion_reached {clock : Nat} {now : Instant} {store : Store}
    (run : Machine.Reaches (step deployment) (Unforged deployment) (State.init clock now store)
      state) : Discretion deployment (State.init clock now store) state := by
  refine run.invariant (Discretion deployment (State.init clock now store)) ?_
    ⟨.refl _, allInOrder_init clock now store, ?_⟩
  · intro before label after discretion met stepped
    exact discretion.step met stepped
  · intro pid exchange present
    cases present

/-- In every run in which no token is forged, a response shows content to a visitor only as a
public read of a state that the run went through, and would be the same over any other content
with the same visible part.  Any other response with content goes to a request sent with an access
token that the server has issued to a user whom it had read active and who has logged in. -/
theorem content_shown_to_active_users (documented : Jwt.Documented) {clock : Nat} {now : Instant}
    {store : Store}
    (run : Machine.Reaches (step deployment) (Unforged deployment) (State.init clock now store)
      state)
    (present : state.exchanges pid = some exchange) {response : Response}
    (answered : exchange.response = some response) (shown : response.body.shows = true) :
    (∃ asked ties, exchange.request.sent = .action (.read asked ties) ∧ asked.isPublic = true ∧
      Machine.Earlier (step deployment) (Unforged deployment) (State.init clock now store)
        (Displays deployment asked response) state) ∨
      ∃ user token, exchange.request.credentials = some token ∧
        Credited deployment.settings state.auth user token ∧
        HasLoggedIn deployment now store state user.id := by
  rcases (discretion_reached run).discreet pid exchange present response answered shown with
    known | visible
  · right
    rcases Option.isSome_iff_exists.mp known with ⟨subject, some⟩
    rcases user_of_subject documented run present some with
      ⟨user, token, _, presented, credited, logged⟩
    exact ⟨user, token, presented, credited, logged⟩
  · exact .inl visible

end

namespace Sample

open Auth.Sample (unicode collation signing jwt)
open Content.Sample (mysql)

attribute [local instance] unicode collation signing jwt mysql decimal emailStr

def browse : Request where
  client := some "203.0.113.9"
  userAgent := some "Mozilla/5.0"
  credentials := none
  sent := .action (.read (.technologyList ⟨none⟩) fun _ => 0)

def browsing : List Label :=
  [.receive 2 browse, .advance 2, .command 2, .command 2, .advance 2, .advance 2, .advance 2]

/-- A user creates a technology, and a visitor reads the list. -/
theorem content_shown_to_active_users_visitor : ∃ state exchange response asked,
    Machine.execIf (step deployment) Genuine start (login ++ writing ++ .advance 1 :: browsing) =
      some state ∧ state.exchanges 2 = some exchange ∧ exchange.response = some response ∧
      Machine.Earlier (step deployment) (Unforged deployment) start
        (Displays deployment asked response) state := by
  obtain ⟨state, executed⟩ := Option.isSome_iff_exists.mp (by decide +kernel :
    (Machine.execIf (step deployment) Genuine start
      (login ++ writing ++ .advance 1 :: browsing)).isSome)
  have visitor : (state.exchanges 2).map (fun exchange => exchange.request.credentials) =
      some none :=
    Machine.read_of_map (fun state => (state.exchanges 2).map fun exchange =>
      exchange.request.credentials) executed (by decide +kernel)
  have shown : ((state.exchanges 2).bind Exchange.response).map (fun response =>
      response.body.shows) = some true :=
    Machine.read_of_map (fun state => ((state.exchanges 2).bind Exchange.response).map
      fun response => response.body.shows) executed (by decide +kernel)
  rcases Option.map_eq_some_iff.mp shown with ⟨response, answered, shown⟩
  rcases Option.bind_eq_some_iff.mp answered with ⟨exchange, present, answered⟩
  have run := (Machine.Runs.of_execIf executed).mono fun _ _ genuine => genuine.unforged
  rcases content_shown_to_active_users Auth.Sample.documented ⟨_, run⟩ present answered shown with
    ⟨asked, ties, sent, visible, earlier⟩ | ⟨user, token, presented, _⟩
  · exact ⟨state, exchange, response, asked, executed, present, answered, earlier⟩
  · rw [present, Option.map_some, presented] at visitor
    cases visitor

end Sample

end ChTech.Api
