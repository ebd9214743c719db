import ChTech.Api.Transitions
import ChTech.RateLimit.Windows

/-!
# One exchange

How a step may change an exchange, and what follows for its stages: they are passed in the order
of its route, a request of a guarded route is identified before its endpoint runs, and one of a
limited route has been admitted by its own call to the limiter.
-/

namespace ChTech.Api

open Foundation Content Application

variable [PyUnicode] [Collation] [Crypto] [Jwt] [PyDecimal] [Mysql] [EmailStr]

/-- An exchange before and after the step that moves it, with the content after it. -/
inductive Moved (deployment : Deployment) (state : State) (pid : Nat) (before : Exchange) :
    Label → Store → Exchange → Prop where
  | passed (stage : Stage) (rest : List Stage) (subject : Option String)
      (waiting : At state pid before stage rest)
      (passes : Passes deployment state pid before stage subject) :
      Moved deployment state pid before (.advance pid) state.content
        { before with todo := rest, subject }
  | refused (stage : Stage) (rest : List Stage) (response : Response)
      (waiting : At state pid before stage rest)
      (refuses : Refuses deployment state pid before stage response) :
      Moved deployment state pid before (.advance pid) state.content
        { before with response := some response }
  | finished (rest : List Stage) (result : Except Raised Body)
      (waiting : At state pid before .execute rest)
      (ends : Ends deployment state pid before result) :
      Moved deployment state pid before (.advance pid) state.content { before with
        todo := []
        response := some (respond before.request.route.successStatus result) }
  | carriedOut (rest : List Stage) (asked change : Change)
      (waiting : At state pid before .execute rest)
      (sent : before.request.sent = .action (.change asked))
      (authored : signed before.subject asked = .ok change) :
      Moved deployment state pid before (.advance pid) (change.execute state.store).2
        { before with
          todo := []
          response := some (respond before.request.route.successStatus
            ((change.execute state.store).1.map answerBody))
          background := scheduled (change.execute state.store).1 }
  | notified (contact : ContactRequest) (pending : before.background = some contact) :
      Moved deployment state pid before (.notify pid) state.content
        { before with background := none }

variable {deployment : Deployment} {state next : State} {label : Label} {pid : Nat}
  {before exchange : Exchange}

omit [Crypto] [Jwt] [PyDecimal] [Mysql] [EmailStr] in
theorem put_cases {other : Nat} {put : Exchange}
    (present : state.put other put pid = some exchange) :
    (pid = other ∧ exchange = put) ∨ state.exchanges pid = some exchange := by
  by_cases same : pid = other
  · subst same
    rw [State.put, Function.update_self] at present
    cases present
    exact .inl ⟨rfl, rfl⟩
  · rw [State.put, Function.update_of_ne same] at present
    exact .inr present

/-- An exchange is as it was, has just arrived, or has moved. -/
theorem Transition.exchange_cases (transition : Transition deployment state label next)
    (present : next.exchanges pid = some exchange) :
    state.exchanges pid = some exchange ∨
      (∃ request, label = .receive pid request ∧ state.exchanges pid = none ∧
        state.auth.procs pid = .idle ∧
        exchange = ⟨request, request.route.stages, none, none, none⟩) ∨
      ∃ before, state.exchanges pid = some before ∧
        Moved deployment state pid before label next.content exchange := by
  cases transition with
  | ticked | commanded | auth | limitCalled | authCalled => exact .inl present
  | received other request new idle wellFormed =>
      rcases put_cases present with ⟨same, arrived⟩ | kept
      · subst same
        exact .inr (.inl ⟨request, rfl, new, idle, arrived⟩)
      · exact .inl kept
  | passed other before stage rest subject waiting passes =>
      rcases put_cases present with ⟨same, moved⟩ | kept
      · subst same moved
        exact .inr (.inr ⟨before, waiting.present, .passed stage rest subject waiting passes⟩)
      · exact .inl kept
  | refused other before stage rest response waiting refuses =>
      rcases put_cases present with ⟨same, moved⟩ | kept
      · subst same moved
        exact .inr (.inr ⟨before, waiting.present, .refused stage rest response waiting refuses⟩)
      · exact .inl kept
  | finished other before rest result waiting ends =>
      rcases put_cases present with ⟨same, moved⟩ | kept
      · subst same moved
        exact .inr (.inr ⟨before, waiting.present, .finished rest result waiting ends⟩)
      · exact .inl kept
  | carriedOut other before rest asked change waiting sent authored =>
      rcases put_cases present with ⟨same, moved⟩ | kept
      · subst same moved
        exact .inr (.inr ⟨before, waiting.present,
          .carriedOut rest asked change waiting sent authored⟩)
      · exact .inl kept
  | notified other before contact here pending =>
      rcases put_cases present with ⟨same, moved⟩ | kept
      · subst same moved
        exact .inr (.inr ⟨before, here, .notified contact pending⟩)
      · exact .inl kept

/-- What holds of an exchange that arrives and of one that has moved if it held before it did,
holds of every exchange after a step. -/
theorem Transition.exchanges (transition : Transition deployment state label next)
    {holds holds' : Nat → Exchange → Prop}
    (held : ∀ pid exchange, state.exchanges pid = some exchange → holds pid exchange)
    (kept : ∀ pid exchange, state.exchanges pid = some exchange → holds pid exchange →
      holds' pid exchange)
    (arrives : ∀ pid (request : Request), label = .receive pid request →
      state.exchanges pid = none → state.auth.procs pid = .idle →
      holds' pid ⟨request, request.route.stages, none, none, none⟩)
    (moves : ∀ pid before after, state.exchanges pid = some before → holds pid before →
      Moved deployment state pid before label next.content after → holds' pid after) :
    ∀ pid exchange, next.exchanges pid = some exchange → holds' pid exchange := by
  intro pid exchange present
  rcases transition.exchange_cases present with here | ⟨request, received, new, idle, same⟩ |
    ⟨before, here, moved⟩
  · exact kept pid exchange here (held pid exchange here)
  · rw [same]
    exact arrives pid request received new idle
  · exact moves pid before exchange here (held pid before here) moved

/-- No exchange is forgotten. -/
theorem Transition.new (transition : Transition deployment state label next)
    (new : next.exchanges pid = none) : state.exchanges pid = none := by
  have kept : ∀ {other put}, state.put other put pid = none → state.exchanges pid = none := by
    intro other put absent
    by_cases same : pid = other
    · subst same
      rw [State.put, Function.update_self] at absent
      cases absent
    · rw [State.put, Function.update_of_ne same] at absent
      exact absent
  cases transition with
  | ticked | commanded | auth | limitCalled | authCalled => exact new
  | _ => exact kept new

/-! ## The stages of its route -/

omit [PyUnicode] [Collation] [Crypto] [Jwt] [PyDecimal] [Mysql] [EmailStr] in
/-- The endpoint is the last stage. -/
theorem Route.after_execute {route : Route} {rest : List Stage}
    (suffix : .execute :: rest <:+ route.stages) : rest = [] := by
  have last : route.stages = route.stages.dropLast ++ [.execute] := by
    cases route <;> rfl
  have once : Stage.execute ∉ route.stages.dropLast := by
    cases route <;> decide
  rcases suffix with ⟨before, same⟩
  rcases List.eq_nil_or_concat rest with none | ⟨init, stage, some⟩
  · exact none
  · rw [some, last, List.concat_eq_append, ← List.cons_append, ← List.append_assoc] at same
    have inside : before ++ .execute :: init = route.stages.dropLast :=
      (List.append_inj' same rfl).1
    rw [← inside] at once
    exact absurd (List.mem_append_right _ List.mem_cons_self) once

/-- A request is not changed, its stages are the last ones of its route, and the ones that admit
and identify it have done so when they are behind it. -/
structure InOrder (exchange : Exchange) : Prop where
  stages : exchange.todo <:+ exchange.request.route.stages
  guarded : .authenticate ∈ exchange.request.route.stages →
    .authenticate ∈ exchange.todo ∨ exchange.subject.isSome = true

omit [Collation] [Crypto] [Jwt] [PyDecimal] [Mysql] [EmailStr] in
/-- At the endpoint of a guarded route the user is known. -/
theorem InOrder.user {rest : List Stage} (inOrder : InOrder exchange)
    (todo : exchange.todo = .execute :: rest)
    (guarded : .authenticate ∈ exchange.request.route.stages) :
    exchange.subject.isSome = true := by
  have done : rest = [] := Route.after_execute (todo ▸ inOrder.stages)
  rcases inOrder.guarded guarded with ahead | known
  · rw [todo, done] at ahead
    cases List.mem_singleton.mp ahead
  · exact known

omit [Crypto] in
theorem InOrder.moved {content : Store} (inOrder : InOrder before)
    (moved : Moved deployment state pid before label content exchange) : InOrder exchange := by
  have behind : ∀ {stage rest}, before.todo = stage :: rest →
      rest <:+ before.request.route.stages ∧
        (.authenticate ∈ before.request.route.stages →
          stage = .authenticate ∨ .authenticate ∈ rest ∨ before.subject.isSome = true) := by
    intro stage rest todo
    refine ⟨(List.suffix_cons stage rest).trans (todo ▸ inOrder.stages), ?_⟩
    intro guard
    rcases inOrder.guarded guard with ahead | known
    · rw [todo] at ahead
      rcases List.mem_cons.mp ahead with here | later
      · exact .inl here.symm
      · exact .inr (.inl later)
    · exact .inr (.inr known)
  cases moved with
  | passed stage rest subject waiting passes =>
      rcases behind waiting.todo with ⟨stages, guarded⟩
      refine ⟨stages, ?_⟩
      intro guard
      cases passes with
      | authenticate subject authenticated => exact .inr rfl
      | parse | limit _ _ _ _ | validate _ =>
          rcases guarded guard with here | later
          · cases here
          · exact later
  | refused stage rest response waiting refuses => exact ⟨inOrder.stages, inOrder.guarded⟩
  | finished rest result waiting ends =>
      exact ⟨List.nil_suffix, fun guard => .inr (inOrder.user waiting.todo guard)⟩
  | carriedOut rest asked change waiting sent authored =>
      exact ⟨List.nil_suffix, fun guard => .inr (inOrder.user waiting.todo guard)⟩
  | notified contact pending => exact ⟨inOrder.stages, inOrder.guarded⟩

/-- What an exchange says of the stages behind it, in every state. -/
def AllInOrder (state : State) : Prop :=
  ∀ pid exchange, state.exchanges pid = some exchange → InOrder exchange

theorem AllInOrder.step (inOrder : AllInOrder state)
    (transition : Transition deployment state label next) : AllInOrder next := by
  refine transition.exchanges inOrder (fun _ _ _ held => held) ?_
    (fun _ _ _ _ held moved => held.moved moved)
  intro pid request _ _ _
  exact ⟨List.suffix_refl _, fun guard => .inl guard⟩

omit [Crypto] [Jwt] [PyDecimal] [Mysql] [EmailStr] in
theorem allInOrder_init (clock : Nat) (now : Instant) (store : Store) :
    AllInOrder (State.init clock now store) := by
  intro pid exchange present
  cases present

omit [PyUnicode] [Collation] [Crypto] [Jwt] [PyDecimal] [Mysql] [EmailStr] in
theorem Route.validates (route : Route) : .validate ∈ route.stages := by
  cases route <;> decide

/-- A request that has been validated was accepted. -/
def Validated (exchange : Exchange) : Prop :=
  .validate ∈ exchange.todo ∨ exchange.request.accepted = true

omit [Collation] [Crypto] [Jwt] [PyDecimal] [Mysql] in
/-- At its endpoint a request has been accepted. -/
theorem Validated.accepted (validated : Validated exchange) (inOrder : InOrder exchange)
    {rest : List Stage} (todo : exchange.todo = .execute :: rest) :
    exchange.request.accepted = true := by
  have done : rest = [] := Route.after_execute (todo ▸ inOrder.stages)
  rcases validated with ahead | accepted
  · rw [todo, done] at ahead
    cases List.mem_singleton.mp ahead
  · exact accepted

omit [Crypto] in
theorem Validated.moved {content : Store} (validated : Validated before) (inOrder : InOrder before)
    (moved : Moved deployment state pid before label content exchange) : Validated exchange := by
  cases moved with
  | passed stage rest subject waiting passes =>
      cases passes with
      | validate accepted => exact .inr accepted
      | parse | limit _ _ _ _ | authenticate _ _ =>
          rcases validated with ahead | accepted
          · rw [waiting.todo] at ahead
            rcases List.mem_cons.mp ahead with here | later
            · cases here
            · exact .inl later
          · exact .inr accepted
  | refused => exact validated
  | finished rest result waiting ends => exact .inr (validated.accepted inOrder waiting.todo)
  | carriedOut rest asked change waiting sent authored =>
      exact .inr (validated.accepted inOrder waiting.todo)
  | notified => exact validated

/-- The authentication moves by its own steps. -/
theorem Transition.auth_cases (transition : Transition deployment state label next) :
    next.auth = state.auth ∨
      ∃ inner, Auth.step deployment.settings state.auth inner = some next.auth := by
  cases transition with
  | auth inner auth _ stepped => exact .inr ⟨inner, stepped⟩
  | authCalled pid exchange rest call auth waiting starts stepped => exact .inr ⟨_, stepped⟩
  | _ => exact .inl rfl

/-- What every step of the authentication keeps, every step of the server keeps. -/
theorem Transition.auth_invariant (transition : Transition deployment state label next)
    {holds : Auth.State → Prop} (held : holds state.auth)
    (kept : ∀ {inner auth}, Auth.step deployment.settings state.auth inner = some auth →
      holds auth) : holds next.auth := by
  rcases transition.auth_cases with same | ⟨inner, stepped⟩
  · rw [same]
    exact held
  · exact kept stepped

/-- Content is changed by the endpoints of writing requests only. -/
theorem Transition.content_cases (transition : Transition deployment state label next) :
    next.content = state.content ∨ ∃ pid exchange rest asked change, label = .advance pid ∧
      At state pid exchange .execute rest ∧ exchange.request.sent = .action (.change asked) ∧
      signed exchange.subject asked = .ok change ∧
      next.content = (change.execute state.store).2 := by
  cases transition with
  | carriedOut pid exchange rest asked change waiting sent authored =>
      exact .inr ⟨pid, exchange, rest, asked, change, rfl, waiting, sent, authored, rfl⟩
  | _ => exact .inl rfl

omit [Crypto] [Jwt] [Mysql] [EmailStr] [Collation] [PyUnicode] in
/-- A change is carried out as asked for, but a new article is signed. -/
theorem signed_cases {subject : Option String} {asked change : Change}
    (authored : signed subject asked = .ok change) :
    (change = asked ∧ ∀ ties defaults authorId payload,
        asked ≠ .article ties (.post defaults) authorId payload) ∨
      ∃ ties defaults given authorId payload, asked = .article ties (.post defaults) given payload ∧
        change = .article ties (.post defaults) authorId payload ∧
        PyUuid.ofText (subject.getD "") = .ok authorId := by
  cases asked with
  | article ties target given payload =>
      cases target with
      | post defaults =>
          rcases Result.map_eq_ok.mp authored with ⟨authorId, read, same⟩
          exact .inr ⟨ties, defaults, given, authorId, payload, rfl, same.symm, read⟩
      | put id now =>
          cases authored
          refine .inl ⟨rfl, ?_⟩
          intro ties defaults authorId payload same
          cases same
  | _ =>
      cases authored
      refine .inl ⟨rfl, ?_⟩
      intro ties defaults authorId payload same
      cases same

end ChTech.Api
