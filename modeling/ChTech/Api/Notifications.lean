import ChTech.Api.Exchanges
import ChTech.Application.Frames

/-!
# Contact requests and their mails

A contact request that is answered is stored as it was sent, and stays.  Its notification is due
from then on until its task runs, which posts it once; no other mail is posted.
-/

namespace ChTech.Api

open Foundation Content Application

section

variable [PyUnicode] [Collation]

/-- A row of the store is the contact request as it was sent, and reads back as the entity. -/
def Filed (store : Store) (sent : Sent) (contact : ContactRequest) : Prop :=
  ∃ defaults payload, sent = .action (.change (.contact defaults payload)) ∧
    ∃ row ∈ store.contactRequests.rows, row.toEntity = .ok contact ∧
      row = ContactRequestRepository.repository.construct defaults payload

theorem Filed.mono {before after : Store} {sent : Sent} {contact : ContactRequest}
    (filed : Filed before sent contact)
    (appended : before.contactRequests.rows <+: after.contactRequests.rows) :
    Filed after sent contact := by
  rcases filed with ⟨defaults, payload, asked, row, stored, built, same⟩
  exact ⟨defaults, payload, asked, row, appended.subset stored, built, same⟩

variable [Mysql]

theorem stored_of_submitted {store : Store} {defaults : Defaults} {payload : ContactCreate}
    {answer : Option ContactRequest}
    (returned : (SubmitContactRequest.execute defaults payload store).1 = .ok answer) :
    ∃ contact, answer = some contact ∧
      ∃ row ∈ (SubmitContactRequest.execute defaults payload store).2.contactRequests.rows,
        row.toEntity = .ok contact ∧
          row = ContactRequestRepository.repository.construct defaults payload := by
  rw [SubmitContactRequest.execute, savePlain, Program.on_result, Repository.save_post] at returned
  rw [SubmitContactRequest.execute, savePlain, Program.on_store, Repository.save_post]
  split at returned
  next raised failed => cases returned
  next model rows committed =>
    rcases Result.map_eq_ok.mp returned with ⟨contact, built, same⟩
    refine ⟨contact, same.symm, ?_⟩
    rcases Result.map_eq_ok.mp committed with ⟨added, inserted, pair⟩
    cases pair
    have written := (Repository.flush_eq_ok (Repository.reported_eq_ok inserted)).2
    refine ⟨_, ?_, built, rfl⟩
    change _ ∈ rows.rows
    rw [(Table.insert?_eq_some.mp written).2]
    exact List.mem_append_right _ List.mem_cons_self

omit [Mysql] in
theorem returned_of_map {α : Type} {build : α → Answer} {program : Program Store Raised α}
    {store : Store} {answer : Answer} (returned : ((build <$> program) store).1 = .ok answer) :
    ∃ value, (program store).1 = .ok value ∧ build value = answer := by
  rw [Program.map_apply] at returned
  exact Result.map_eq_ok.mp returned

/-- Only a contact request is answered with one. -/
theorem contact_of_answer {store : Store} {change : Change} {answer : Option ContactRequest}
    (returned : (change.execute store).1 = .ok (.contact answer)) :
    ∃ defaults payload, change = .contact defaults payload ∧
      (SubmitContactRequest.execute defaults payload store).1 = .ok answer := by
  cases change with
  | contact defaults payload =>
      rcases returned_of_map returned with ⟨row, submitted, same⟩
      cases same
      exact ⟨defaults, payload, rfl, submitted⟩
  | company | delete =>
      rcases returned_of_map returned with ⟨_, _, same⟩
      cases same
  | project _ target _ | article _ target _ _ | service target _ | serviceLine target _
  | product target _ | technology target _ | client target _ | partner target _
  | teamMember target _ | caseStudy _ target _ | testimonial _ target _ =>
      cases target with
      | post | put =>
          rcases returned_of_map returned with ⟨_, _, same⟩
          cases same

end

section

variable [PyUnicode] [Collation] [Crypto] [Jwt] [PyDecimal] [Mysql] [EmailStr]
  {deployment : Deployment} {state next : State} {label : Label} {pid : Nat}
  {before exchange : Exchange}

omit [Crypto] [Jwt] [PyDecimal] [Mysql] [EmailStr] [Collation] in
theorem handle_ne_received (raised : Raised) : (handle raised).body ≠ .received := by
  cases raised with
  | _ => intro same; cases same

omit [Crypto] [PyDecimal] [Mysql] in
/-- A request is not received by the stage that answers it early. -/
theorem Refuses.ne_received {stage : Stage} {response : Response}
    (refuses : Refuses deployment state pid exchange stage response) :
    response.body ≠ .received := by
  cases refuses with
  | authenticate raised _ => exact handle_ne_received raised
  | _ => intro same; cases same

omit [Collation] [Crypto] [Jwt] [PyDecimal] [Mysql] [EmailStr] in
theorem outcome_ne_received {proc : Auth.Proc} {result : Except Raised Body}
    (ended : outcome proc = some result) : result ≠ .ok .received := by
  intro same
  subst same
  simp only [outcome] at ended
  split at ended <;> cases ended

omit [Crypto] [Jwt] [EmailStr] in
theorem Ends.ne_received {result : Except Raised Body}
    (ends : Ends deployment state pid exchange result) (status : Nat) :
    (respond status result).body ≠ .received := by
  cases result with
  | error raised => exact handle_ne_received raised
  | ok body =>
      intro same
      have same : body = .received := same
      subst same
      generalize ended : (Except.ok Body.received : Except Raised Body) = result at ends
      cases ends with
      | read asked ties sent =>
          rcases Result.map_eq_ok.mp ended.symm with ⟨_, _, same⟩
          cases same
      | unsigned | unnamed => cases ended
      | auth call result starts done => exact outcome_ne_received done ended.symm

/-! ## Notifications -/

/-- The mails posted for a request. -/
def mailsOf (state : State) (pid : Nat) : List Mail :=
  (state.mails.filter fun posted => posted.1 == pid).map Prod.snd

/-- How far the notification of a request is. -/
inductive Notified (deployment : Deployment) (state : State) (pid : Nat) (exchange : Exchange) :
    Prop where
  | none (unscheduled : exchange.background = none) (unsent : mailsOf state pid = [])
      (other : ∀ response, exchange.response = some response → response.body ≠ .received)
  | due (contact : ContactRequest) (received : exchange.response = some ⟨201, .received⟩)
      (filed : Filed state.content exchange.request.sent contact)
      (scheduled : exchange.background = some contact) (unsent : mailsOf state pid = [])
  | done (contact : ContactRequest) (received : exchange.response = some ⟨201, .received⟩)
      (filed : Filed state.content exchange.request.sent contact)
      (run : exchange.background = Option.none)
      (sent : mailsOf state pid = (contactNotification deployment.email contact).toList)

/-- The contact requests stored are not touched. -/
theorem Transition.contactRequests (transition : Transition deployment state label next) :
    state.content.contactRequests.rows <+: next.content.contactRequests.rows := by
  rcases transition.content_cases with same | ⟨_, _, _, _, change, _, _, _, _, carried⟩
  · rw [same]
  · have leaves : Leaves state.store _ := execute_leaves change
    rw [carried]
    exact leaves.contactRequests

/-- Mails are posted by the tasks of the requests. -/
theorem Transition.mails_cases (transition : Transition deployment state label next) :
    ((∀ pid, label ≠ .notify pid) ∧ next.mails = state.mails) ∨
      ∃ pid exchange contact, state.exchanges pid = some exchange ∧
        exchange.background = some contact ∧
        next.exchanges = state.put pid { exchange with background := none } ∧
        next.mails = ((contactNotification deployment.email contact).map (pid, ·)).toList ++
          state.mails := by
  cases transition with
  | notified pid exchange contact present pending =>
      exact .inr ⟨pid, exchange, contact, present, pending, rfl, rfl⟩
  | _ =>
      refine .inl ⟨?_, rfl⟩
      intro pid same
      cases same

omit [Crypto] [Jwt] [EmailStr] in
/-- What the endpoint of a request that changes content leaves of it. -/
theorem notified_carriedOut {asked change : Change}
    (sent : before.request.sent = .action (.change asked))
    (authored : signed before.subject asked = .ok change)
    (carried : next.content = (change.execute state.store).2) (unsent : mailsOf next pid = []) :
    Notified deployment next pid { before with
      todo := []
      response := some (respond before.request.route.successStatus
        ((change.execute state.store).1.map answerBody))
      background := scheduled (change.execute state.store).1 } := by
  cases ended : (change.execute state.store).1 with
  | error raised =>
      refine .none rfl unsent ?_
      intro response same
      cases same
      exact handle_ne_received raised
  | ok answer =>
      cases answer with
      | contact answer =>
          rcases contact_of_answer ended with ⟨defaults, payload, same, returned⟩
          rcases stored_of_submitted returned with ⟨contact, given, row, stored, built, written⟩
          subst given same
          rcases signed_cases authored with ⟨own, _⟩ | ⟨_, _, _, _, _, _, other, _⟩
          · subst own
            refine .due contact ?_ ⟨defaults, payload, sent, row, ?_, built, written⟩ rfl unsent
            · rw [Request.route, sent]
              rfl
            · rw [carried, Change.execute, Program.map_apply]
              exact stored
          · cases other
      | _ =>
          refine .none rfl unsent ?_
          intro response same
          cases same
          intro same
          cases same

structure AllNotified (deployment : Deployment) (state : State) : Prop where
  notified : ∀ pid exchange, state.exchanges pid = some exchange →
    Notified deployment state pid exchange
  unknown : ∀ pid, state.exchanges pid = none → mailsOf state pid = []

omit [Crypto] [Jwt] [PyDecimal] [Mysql] [EmailStr] in
/-- An answer that is there stays what it is, whatever other requests do. -/
theorem Notified.later (notified : Notified deployment state pid exchange)
    (appended : state.content.contactRequests.rows <+: next.content.contactRequests.rows)
    (mails : mailsOf next pid = mailsOf state pid) : Notified deployment next pid exchange := by
  cases notified with
  | none unscheduled unsent other => exact .none unscheduled (mails.trans unsent) other
  | due contact received filed scheduled unsent =>
      exact .due contact received (filed.mono appended) scheduled (mails.trans unsent)
  | done contact received filed run sent =>
      exact .done contact received (filed.mono appended) run (mails.trans sent)

omit [Crypto] [Jwt] [PyDecimal] [Mysql] [EmailStr] in
/-- Nothing has been scheduled or posted for a request that is not answered. -/
theorem Notified.unsent_of_unanswered (notified : Notified deployment state pid exchange)
    (unanswered : exchange.response = Option.none) :
    exchange.background = Option.none ∧ mailsOf state pid = [] := by
  cases notified with
  | none unscheduled unsent _ => exact ⟨unscheduled, unsent⟩
  | due contact received | done contact received =>
      rw [unanswered] at received
      cases received

omit [Crypto] in
/-- A step that is not the task of a request keeps what holds of its notification. -/
theorem Notified.moved (notified : Notified deployment state pid before)
    (other : label ≠ .notify pid) (mails : mailsOf next pid = mailsOf state pid)
    (moved : Moved deployment state pid before label next.content exchange) :
    Notified deployment next pid exchange := by
  have fresh : before.response = Option.none →
      before.background = Option.none ∧ mailsOf next pid = [] := by
    intro unanswered
    rw [mails]
    exact notified.unsent_of_unanswered unanswered
  generalize left : next.content = content at moved
  cases moved with
  | passed stage rest subject waiting passes =>
      rcases fresh waiting.unanswered with ⟨unscheduled, unsent⟩
      refine .none unscheduled unsent ?_
      intro response answered
      rw [waiting.unanswered] at answered
      cases answered
  | refused stage rest response waiting refuses =>
      rcases fresh waiting.unanswered with ⟨unscheduled, unsent⟩
      refine .none unscheduled unsent ?_
      intro answer answered
      cases answered
      exact refuses.ne_received
  | finished rest result waiting ends =>
      rcases fresh waiting.unanswered with ⟨unscheduled, unsent⟩
      refine .none unscheduled unsent ?_
      intro answer answered
      cases answered
      exact ends.ne_received _
  | carriedOut rest asked change waiting sent authored =>
      exact notified_carriedOut sent authored left (fresh waiting.unanswered).2
  | notified contact pending => exact absurd rfl other

omit [Crypto] [Jwt] [PyDecimal] [Mysql] [EmailStr] in
theorem mailsOf_posted {mover : Nat} {mail : Option Mail}
    (mails : next.mails = (mail.map (mover, ·)).toList ++ state.mails) :
    mailsOf next pid = (if mover = pid then mail.toList else []) ++ mailsOf state pid := by
  rw [mailsOf, mails, List.filter_append, List.map_append]
  congr 1
  cases mail with
  | none => simp
  | some mail =>
      by_cases same : mover = pid
      · simp [same]
      · simp [same]

theorem AllNotified.step (all : AllNotified deployment state)
    (transition : Transition deployment state label next) : AllNotified deployment next := by
  have appended := transition.contactRequests
  rcases transition.mails_cases with ⟨other, mails⟩ | ⟨mover, before, contact, present, pending,
    exchanges, mails⟩
  · have same : ∀ pid, mailsOf next pid = mailsOf state pid := by
      intro pid
      rw [mailsOf, mails]
      rfl
    refine ⟨transition.exchanges all.notified
      (fun pid _ _ notified => notified.later appended (same pid)) ?_
      (fun pid _ _ _ notified moved => notified.moved (other pid) (same pid) moved),
      fun pid new => (same pid).trans (all.unknown pid (transition.new new))⟩
    intro pid request _ new _
    refine .none rfl ((same pid).trans (all.unknown pid new)) ?_
    intro response answered
    cases answered
  · have others : ∀ pid, pid ≠ mover → mailsOf next pid = mailsOf state pid := by
      intro pid different
      rw [mailsOf_posted mails, if_neg (fun same => different same.symm)]
      rfl
    refine ⟨?_, ?_⟩
    · intro pid exchange moved
      rw [exchanges] at moved
      by_cases same : pid = mover
      · subst same
        rw [State.put, Function.update_self] at moved
        cases moved
        rcases all.notified pid before present with ⟨unscheduled, _, _⟩ |
          ⟨due, received, filed, scheduled, unsent⟩ | ⟨_, _, _, run, _⟩
        · rw [pending] at unscheduled
          cases unscheduled
        · rw [pending] at scheduled
          cases scheduled
          refine .done contact received (filed.mono appended) rfl ?_
          rw [mailsOf_posted mails, if_pos rfl, unsent, List.append_nil]
        · rw [pending] at run
          cases run
      · rw [State.put, Function.update_of_ne same] at moved
        exact (all.notified pid exchange moved).later appended (others pid same)
    · intro pid new
      have unknown := transition.new new
      have different : pid ≠ mover := by
        intro same
        rw [same, present] at unknown
        cases unknown
      exact (others pid different).trans (all.unknown pid unknown)

/-- In every run: a contact request that is answered 201 is stored as it was sent; its mail is
due until its task has run, and has been posted once from then on; and nothing is posted for
any other request. -/
theorem contact_requests_notified {clock : Nat} {now : Instant} {store : Store}
    (run : Machine.Reaches (step deployment) Machine.Any (State.init clock now store) state) :
    (∀ pid exchange, state.exchanges pid = some exchange →
      Notified deployment state pid exchange) ∧
      ∀ pid, state.exchanges pid = none → mailsOf state pid = [] := by
  have all : AllNotified deployment state := by
    refine run.invariant (AllNotified deployment) ?_ ⟨?_, fun _ _ => rfl⟩
    · intro before label after all _ stepped
      exact all.step (step_transition stepped)
    · intro pid exchange present
      cases present
  exact ⟨all.notified, all.unknown⟩

end

namespace Sample

open Auth.Sample (unicode collation signing jwt)
open Content.Sample (mysql)

attribute [local instance] unicode collation signing jwt mysql decimal emailStr

def quote : ContactCreate where
  name := "Ana"
  email := "contact@ch-tech.dev"
  company := none
  subject := none
  message := "A quote for an online shop, please."

def askForQuote : Request where
  client := some "203.0.113.9"
  userAgent := none
  credentials := none
  sent := .action (.change (.contact ⟨21, 1767225600000000, 1767225600000000⟩ quote))

def asking : List Label :=
  [.receive 0 askForQuote, .advance 0, .advance 0, .command 0, .command 0, .advance 0,
    .advance 0, .advance 0]

theorem contact_requests_notified_quote : ∃ state exchange contact,
    Machine.exec (step deployment) start (asking ++ [.notify 0]) = some state ∧
      state.exchanges 0 = some exchange ∧ Filed state.content exchange.request.sent contact ∧
      mailsOf state 0 = (contactNotification deployment.email contact).toList := by
  obtain ⟨state, executed⟩ := Option.isSome_iff_exists.mp
    (by decide +kernel : (Machine.exec (step deployment) start (asking ++ [.notify 0])).isSome)
  obtain ⟨exchange, present⟩ := Option.isSome_iff_exists.mp (Machine.read_of_map
    (fun state => (state.exchanges 0).isSome) executed (by decide +kernel))
  have posted : (mailsOf state 0).length = 1 :=
    Machine.read_of_map (fun state => (mailsOf state 0).length) executed (by decide +kernel)
  have notified := (contact_requests_notified
    ⟨_, Machine.Runs.of_exec (fun _ _ _ => trivial) executed⟩).1 0 exchange present
  cases notified with
  | none _ unsent | due _ _ _ _ unsent =>
      rw [unsent] at posted
      cases posted
  | done contact _ filed _ sent => exact ⟨state, exchange, contact, executed, present, filed, sent⟩

end Sample

end ChTech.Api
