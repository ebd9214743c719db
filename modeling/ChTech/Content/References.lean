import ChTech.Content.Deletes
import ChTech.Content.Linked
import ChTech.Content.Database
import ChTech.Foundation.Transition

/-!
# The references of case studies and testimonials

Creates and updates look the project and the client up that they name, with a statement
each, and commit with a later one; deletes of projects and clients come in between.  The
foreign keys are checked at the commit, against what is stored by then.
-/

namespace ChTech.Content.References

open Foundation

open TechnologyRepository (Technologies)

section

variable [PyUnicode] [Collation]

structure Tables where
  technologies : Technologies
  projects : ProjectRepository.Projects
  clients : ClientRepository.Clients
  caseStudies : CaseStudyRepository.CaseStudies
  testimonials : TestimonialRepository.Testimonials

namespace Tables

variable (tables : Tables)

/-- The foreign keys that an `INSERT` or an `UPDATE` writes. -/
def references (clientId projectId : Option UUID) : Bool :=
  clientId.all (hasClient tables.clients) && projectId.all (hasProject tables.projects)

end Tables

inductive Request where
  | createCaseStudy (data : CaseStudyWrite)
  | updateCaseStudy (id : UUID) (data : CaseStudyWrite)
  | createTestimonial (data : TestimonialWrite)
  | updateTestimonial (id : UUID) (data : TestimonialWrite)
  | deleteProject (id : UUID)
  | deleteClient (id : UUID)
  deriving DecidableEq, Repr

/-- `await ….get_by_id(…) is None`, and the error there. -/
inductive Check where
  | caseStudy (id : UUID)
  | project (id : UUID)
  | client (id : UUID)
  deriving DecidableEq, Repr

def Check.found (tables : Tables) (ties : Ties) : Check → Except Raised Bool
  | .caseStudy id =>
      (CaseStudyRepository.getById tables.caseStudies tables.projects id false).map Option.isSome
  | .project id =>
      (ProjectRepository.getById tables.projects tables.technologies ties id).map Option.isSome
  | .client id => (ClientRepository.getById tables.clients id).map Option.isSome

def Check.message : Check → String
  | .caseStudy _ => "Case study not found"
  | .project _ => "Project not found"
  | .client _ => "Client not found"

/-- `_validate_references`. -/
def validateReferences (data : TestimonialWrite) : List Check :=
  (data.clientId.map Check.client).toList ++ (data.projectId.map Check.project).toList

namespace Request

/-- What a use case looks up before it calls its repository. -/
def checks : Request → List Check
  | .createCaseStudy data => [.project data.projectId]
  | .updateCaseStudy id data => [.caseStudy id, .project data.projectId]
  | .createTestimonial data | .updateTestimonial _ data => validateReferences data
  | .deleteProject _ | .deleteClient _ => []

/-- Its message when the repository finds no row. -/
def message : Request → String
  | .createCaseStudy _ | .updateCaseStudy .. => "Case study not found"
  | .createTestimonial _ | .updateTestimonial .. => "Testimonial not found"
  | .deleteProject _ => "Project not found"
  | .deleteClient _ => "Client not found"

end Request

/-- What a session holds when it commits. -/
inductive Pending where
  | addCaseStudy (data : CaseStudyWrite)
  | changeCaseStudy (model : CaseStudyModel) (data : CaseStudyWrite)
  | addTestimonial (data : TestimonialWrite)
  | changeTestimonial (model : TestimonialModel) (data : TestimonialWrite)
  | deleteProject (project : Loaded ProjectModel)
  | deleteClient (client : ClientModel)
  deriving DecidableEq

/-- What the repository selects; a create selects nothing. -/
def Request.select (tables : Tables) (ties : Ties) : Request → Except Raised (Option Pending)
  | .createCaseStudy data => .ok (some (.addCaseStudy data))
  | .updateCaseStudy id data =>
      (CaseStudyRepository.repository.select tables.caseStudies id).map fun found =>
        found.map fun model => .changeCaseStudy model data
  | .createTestimonial data => .ok (some (.addTestimonial data))
  | .updateTestimonial id data =>
      (TestimonialRepository.repository.select tables.testimonials id).map fun found =>
        found.map fun model => .changeTestimonial model data
  | .deleteProject id =>
      (Loaded.byId tables.projects tables.technologies ties id).map fun found =>
        found.map .deleteProject
  | .deleteClient id =>
      (ClientRepository.repository.select tables.clients id).map fun found =>
        found.map .deleteClient

/-- The row that `refresh` reads after the commit. -/
inductive Written where
  | caseStudy (id : UUID)
  | testimonial (id : UUID)
  deriving DecidableEq, Repr

/-- An `UPDATE` writes a foreign key only to change it. -/
def changed (loaded assigned : Option UUID) : Option UUID :=
  if loaded = assigned then none else assigned

namespace Pending

def clientId : Pending → Option UUID
  | .addTestimonial data => data.clientId
  | .changeTestimonial model data => changed model.clientId data.clientId
  | .addCaseStudy _ | .changeCaseStudy .. | .deleteProject _ | .deleteClient _ => none

def projectId : Pending → Option UUID
  | .addCaseStudy data => some data.projectId
  | .changeCaseStudy model data => changed (some model.projectId) (some data.projectId)
  | .addTestimonial data => data.projectId
  | .changeTestimonial model data => changed model.projectId data.projectId
  | .deleteProject _ | .deleteClient _ => none

variable [Mysql]

/-- The commit.  Only the deletes have an `except IntegrityError`. -/
def commit (defaults : Defaults) (now : Instant) (tables : Tables) (pending : Pending) :
    Except Raised (Option Written × Tables) :=
  let referenced := tables.references pending.clientId pending.projectId
  match pending with
  | .addCaseStudy data =>
      (CaseStudyRepository.repository.commitNew (fun _ => referenced) defaults data
        tables.caseStudies).map fun (model, caseStudies) =>
          (some (.caseStudy model.id), { tables with caseStudies })
  | .changeCaseStudy model data =>
      (CaseStudyRepository.repository.reported (Repository.updateLoaded
        CaseStudyRepository.columns (fun _ => referenced) now model
        (CaseStudyRepository.repository.assign data model) tables.caseStudies)).map
          fun (model, caseStudies) => (some (.caseStudy model.id), { tables with caseStudies })
  | .addTestimonial data =>
      (TestimonialRepository.repository.commitNew (fun _ => referenced) defaults data
        tables.testimonials).map fun (model, testimonials) =>
          (some (.testimonial model.id), { tables with testimonials })
  | .changeTestimonial model data =>
      (TestimonialRepository.repository.reported (Repository.updateLoaded
        TestimonialRepository.columns (fun _ => referenced) now model
        (TestimonialRepository.repository.assign data model) tables.testimonials)).map
          fun (model, testimonials) => (some (.testimonial model.id), { tables with testimonials })
  | .deleteProject project =>
      (refusedAs (.app (.conflictError
        "Project is referenced by an existing case study or testimonial"))
        (tables.projects.commitDelete
          (holdsProject tables.caseStudies tables.testimonials) project.model.id
          project.technologyIds)).map fun projects => (none, { tables with projects })
  | .deleteClient client =>
      (refusedAs (.app (.conflictError
        "Client is referenced by an existing project or testimonial"))
        (Repository.commitDelete (holdsClient tables.projects tables.testimonials) client.id
          tables.clients)).map
          fun clients => (none, { tables with clients })

end Pending

/-- `refresh`; the conversions to entities do not fail. -/
def Written.refresh (tables : Tables) : Written → Except Raised Unit
  | .caseStudy id => do
      match ← CaseStudyRepository.repository.select tables.caseStudies id with
      | none => .error .operationalError
      | some model => model.toEntity.map fun _ => ()
  | .testimonial id => do
      match ← TestimonialRepository.repository.select tables.testimonials id with
      | none => .error .operationalError
      | some model => model.toEntity.map fun _ => ()

/-! ## The machine -/

/-- Where a request stands.  Its transaction has a snapshot from its first read on. -/
inductive Pc where
  | checking (snapshot : Option Tables) (remaining : List Check)
  | committing (pending : Pending)
  | refreshing (written : Written)
  | returned
  | raised (error : Raised)

/-- A step of a request, with the tables before and after it. -/
structure Entry where
  pid : Nat
  before : Tables
  after : Tables

structure State where
  tables : Tables
  requests : Nat → Option (Request × Pc)
  journal : List Entry

/-- No request yet. -/
def State.init (tables : Tables) : State := ⟨tables, fun _ => none, []⟩

inductive Label where
  | call (pid : Nat) (request : Request)
  /-- The next `SELECT` of a request. -/
  | read (pid : Nat) (ties : Ties)
  | commit (pid : Nat) (defaults : Defaults) (now : Instant)

def Label.pid : Label → Nat
  | .call pid _ | .read pid _ | .commit pid _ _ => pid

/-- A request moves on. -/
def State.move (state : State) (pid : Nat) (request : Request) (pc : Pc) (tables : Tables) :
    State where
  tables
  requests := Function.update state.requests pid (some (request, pc))
  journal := state.journal ++ [⟨pid, state.tables, tables⟩]

/-- What a transaction sees of the tables. -/
def view (isolation : Isolation) (current : Tables) : Option Tables → Tables
  | none => current
  | some snapshot => isolation.read snapshot current

/-- After the next lookup. -/
def Request.next (isolation : Isolation) (ties : Ties) (current : Tables)
    (snapshot : Option Tables) (request : Request) : List Check → Pc
  | check :: remaining =>
      match check.found (view isolation current snapshot) ties with
      | .error error => .raised error
      | .ok false => .raised (.app (.resourceNotFoundError check.message))
      | .ok true => .checking (some (snapshot.getD current)) remaining
  | [] =>
      match request.select (view isolation current snapshot) ties with
      | .error error => .raised error
      | .ok none => .raised (.app (.resourceNotFoundError request.message))
      | .ok (some pending) => .committing pending

variable [Mysql]

def step (isolation : Isolation) : Machine State Label
  | state, .call pid request =>
      match state.requests pid with
      | none => some (state.move pid request (.checking none request.checks) state.tables)
      | some _ => none
  | state, .read pid ties =>
      match state.requests pid with
      | some (request, .checking snapshot remaining) =>
          some (state.move pid request
            (request.next isolation ties state.tables snapshot remaining) state.tables)
      | some (request, .refreshing written) =>
          match written.refresh state.tables with
          | .error error => some (state.move pid request (.raised error) state.tables)
          | .ok _ => some (state.move pid request .returned state.tables)
      | _ => none
  | state, .commit pid defaults now =>
      match state.requests pid with
      | some (request, .committing pending) =>
          match pending.commit defaults now state.tables with
          | .error error => some (state.move pid request (.raised error) state.tables)
          | .ok (none, tables) => some (state.move pid request .returned tables)
          | .ok (some written, tables) =>
              some (state.move pid request (.refreshing written) tables)
      | _ => none

/-- Errors that a request may answer with. -/
def Anticipated (error : Raised) : Prop :=
  ∃ message, error = .app (.resourceNotFoundError message) ∨
    error = .app (.conflictError message)

/-- The payload has been validated, and its values fit their columns. -/
def acceptedCaseStudy (data : CaseStudyWrite) : Bool :=
  data.accepted && (Cell.json data.metrics).storable

def Request.accepted : Request → Bool
  | .createCaseStudy data | .updateCaseStudy _ data => acceptedCaseStudy data
  | .createTestimonial data | .updateTestimonial _ data => data.accepted
  | .deleteProject _ | .deleteClient _ => true

namespace Pending

def accepted : Pending → Bool
  | .addCaseStudy data | .changeCaseStudy _ data => acceptedCaseStudy data
  | .addTestimonial data | .changeTestimonial _ data => data.accepted
  | .deleteProject _ | .deleteClient _ => true

/-- The project and the client that a commit writes are still stored, a new key is new,
and the links that a delete has loaded are still there. -/
def ready (defaults : Defaults) (tables : Tables) (pending : Pending) : Bool :=
  tables.references pending.clientId pending.projectId &&
    match pending with
    | .addCaseStudy _ => !tables.caseStudies.rows.any fun row => row.id == defaults.id
    | .addTestimonial _ => !tables.testimonials.rows.any fun row => row.id == defaults.id
    | .deleteProject project =>
        project.technologyIds.all fun id =>
          tables.projects.links.rows.contains (project.model.id, id)
    | .changeCaseStudy .. | .changeTestimonial .. | .deleteClient _ => true

end Pending

/-- Requests arrive with a validated payload. -/
def Label.validated : Label → Bool
  | .call _ request => request.accepted
  | .read .. | .commit .. => true

abbrev Validated (_ : State) (label : Label) : Prop := label.validated = true

/-- And commits are ready. -/
def sound (state : State) : Label → Bool
  | .commit pid defaults _ =>
      match state.requests pid with
      | some (_, .committing pending) => pending.ready defaults state.tables
      | _ => true
  | .call _ request => request.accepted
  | .read .. => true

abbrev Sound (state : State) (label : Label) : Prop := sound state label = true

/-! ## How the tables develop -/

/-- Projects and clients only go, case studies and testimonials only come. -/
structure Tables.Follows (before after : Tables) : Prop where
  technologies : after.technologies = before.technologies
  projects : ∀ row ∈ after.projects.rows.rows, row ∈ before.projects.rows.rows
  clients : ∀ row ∈ after.clients.rows, row ∈ before.clients.rows
  caseStudies : ∀ id ∈ before.caseStudies.rows.map CaseStudyModel.id,
    id ∈ after.caseStudies.rows.map CaseStudyModel.id
  testimonials : ∀ id ∈ before.testimonials.rows.map TestimonialModel.id,
    id ∈ after.testimonials.rows.map TestimonialModel.id

/-- The rows that the lookups convert are readable. -/
structure Tables.Readable (tables : Tables) : Prop where
  technologies : TechnologyRepository.repository.Readable tables.technologies
  projects : ProjectRepository.repository.Readable tables.projects.rows
  clients : ClientRepository.repository.Readable tables.clients

/-- The stored ratings meet their `CHECK`. -/
def Tables.Rated (tables : Tables) : Prop :=
  ∀ row ∈ tables.testimonials.rows, TestimonialRepository.repository.checks row = true

/-- The row of an update is stored. -/
def Pending.Present (tables : Tables) : Pending → Prop
  | .changeCaseStudy model _ => model.id ∈ tables.caseStudies.rows.map CaseStudyModel.id
  | .changeTestimonial model _ => model.id ∈ tables.testimonials.rows.map TestimonialModel.id
  | .addCaseStudy _ | .addTestimonial _ | .deleteProject _ | .deleteClient _ => True

def Written.Present (tables : Tables) : Written → Prop
  | .caseStudy id => id ∈ tables.caseStudies.rows.map CaseStudyModel.id
  | .testimonial id => id ∈ tables.testimonials.rows.map TestimonialModel.id

omit [Mysql] in
theorem Tables.Follows.refl (tables : Tables) : tables.Follows tables :=
  ⟨rfl, fun _ => id, fun _ => id, fun _ => id, fun _ => id⟩

omit [Mysql] in
theorem Tables.Follows.trans {first second third : Tables} (left : first.Follows second)
    (right : second.Follows third) : first.Follows third where
  technologies := right.technologies.trans left.technologies
  projects row member := left.projects row (right.projects row member)
  clients row member := left.clients row (right.clients row member)
  caseStudies id member := right.caseStudies id (left.caseStudies id member)
  testimonials id member := right.testimonials id (left.testimonials id member)

omit [Mysql] in
theorem Tables.Follows.readable {before after : Tables} (follows : before.Follows after)
    (readable : before.Readable) : after.Readable where
  technologies := follows.technologies ▸ readable.technologies
  projects row member := readable.projects row (follows.projects row member)
  clients row member := readable.clients row (follows.clients row member)

omit [Mysql] in
theorem Pending.Present.follows {before after : Tables} {pending : Pending}
    (present : pending.Present before) (follows : before.Follows after) :
    pending.Present after := by
  cases pending with
  | changeCaseStudy model data => exact follows.caseStudies model.id present
  | changeTestimonial model data => exact follows.testimonials model.id present
  | addCaseStudy | addTestimonial | deleteProject | deleteClient => trivial

omit [Mysql] in
theorem Written.Present.follows {before after : Tables} {written : Written}
    (present : written.Present before) (follows : before.Follows after) :
    written.Present after := by
  cases written with
  | caseStudy id => exact follows.caseStudies id present
  | testimonial id => exact follows.testimonials id present

section

variable {defaults : Defaults} {now : Instant} {tables next : Tables} {pending : Pending}
  {written : Option Written}

/-- What a commit leaves of the tables; the row to refresh is one of theirs. -/
theorem Pending.commit_follows (present : pending.Present tables)
    (committed : pending.commit defaults now tables = .ok (written, next)) :
    tables.Follows next ∧ ∀ row, written = some row → row.Present next := by
  cases pending with
  | addCaseStudy data =>
      rcases Result.map_eq_ok.mp committed with ⟨⟨model, caseStudies⟩, inserted, pair⟩
      cases pair
      rcases Repository.commitNew_keys (fun _ => rfl) inserted with ⟨kept, added⟩
      constructor
      · exact { Tables.Follows.refl tables with caseStudies := kept }
      · intro row equal
        cases equal
        exact added
  | changeCaseStudy model data =>
      rcases Result.map_eq_ok.mp committed with ⟨⟨changed, caseStudies⟩, updated, pair⟩
      cases pair
      have updated := Repository.reported_eq_ok updated
      have keys : caseStudies.rows.map CaseStudyModel.id =
          tables.caseStudies.rows.map CaseStudyModel.id :=
        Repository.updateLoaded_keys updated
      have key := Repository.updateLoaded_key updated rfl fun _ => rfl
      change changed.id = model.id at key
      constructor
      · exact { Tables.Follows.refl tables with caseStudies := fun _ member => keys ▸ member }
      · intro row equal
        cases equal
        simp only [Written.Present, keys, key]
        exact present
  | addTestimonial data =>
      rcases Result.map_eq_ok.mp committed with ⟨⟨model, testimonials⟩, inserted, pair⟩
      cases pair
      rcases Repository.commitNew_keys (fun _ => rfl) inserted with ⟨kept, added⟩
      constructor
      · exact { Tables.Follows.refl tables with testimonials := kept }
      · intro row equal
        cases equal
        exact added
  | changeTestimonial model data =>
      rcases Result.map_eq_ok.mp committed with ⟨⟨changed, testimonials⟩, updated, pair⟩
      cases pair
      have updated := Repository.reported_eq_ok updated
      have keys : testimonials.rows.map TestimonialModel.id =
          tables.testimonials.rows.map TestimonialModel.id :=
        Repository.updateLoaded_keys updated
      have key := Repository.updateLoaded_key updated rfl fun _ => rfl
      change changed.id = model.id at key
      constructor
      · exact { Tables.Follows.refl tables with testimonials := fun _ member => keys ▸ member }
      · intro row equal
        cases equal
        simp only [Written.Present, keys, key]
        exact present
  | deleteProject project =>
      rcases Result.map_eq_ok.mp committed with ⟨projects, deleted, pair⟩
      cases pair
      constructor
      · refine { Tables.Follows.refl tables with projects := ?_ }
        exact Tagged.commitDelete_rows (refusedAs_eq_ok deleted)
      · intro row impossible
        cases impossible
  | deleteClient client =>
      rcases Result.map_eq_ok.mp committed with ⟨clients, deleted, pair⟩
      cases pair
      constructor
      · refine { Tables.Follows.refl tables with clients := ?_ }
        exact Repository.commitDelete_rows (refusedAs_eq_ok deleted)
      · intro row impossible
        cases impossible

omit [PyUnicode] [Collation] in
/-- A validated rating meets its `CHECK` in the row that an update makes. -/
theorem overlay_checks {data : TestimonialWrite} {model current : TestimonialModel}
    (accepted : data.accepted = true)
    (rated : TestimonialRepository.repository.checks current = true) :
    TestimonialRepository.repository.checks (TestimonialRepository.columns.overlay model
      (TestimonialRepository.repository.touch now
        (TestimonialRepository.repository.assign data model)) current) = true := by
  simp only [TestimonialWrite.accepted, Bool.and_eq_true] at accepted
  simp only [TestimonialRepository.repository, TestimonialRepository.columns, overlay]
  split
  · exact rated
  · exact accepted.2

theorem Pending.commit_rated (accepted : pending.accepted = true) (rated : tables.Rated)
    (committed : pending.commit defaults now tables = .ok (written, next)) : next.Rated := by
  cases pending with
  | addTestimonial data =>
      rcases Result.map_eq_ok.mp committed with ⟨⟨model, testimonials⟩, inserted, pair⟩
      cases pair
      rcases Result.map_eq_ok.mp inserted with ⟨rows, inserted, pair⟩
      cases pair
      rcases Repository.flush_eq_ok (Repository.reported_eq_ok inserted) with ⟨_, added⟩
      intro row member
      rw [(Table.insert?_eq_some.mp added).2] at member
      rcases List.mem_append.mp member with before | new
      · exact rated row before
      · rw [List.mem_singleton.mp new]
        exact (Bool.and_eq_true_iff.mp accepted).2
  | changeTestimonial model data =>
      rcases Result.map_eq_ok.mp committed with ⟨⟨changed, testimonials⟩, updated, pair⟩
      cases pair
      intro row member
      rcases Repository.mem_updateLoaded (Repository.reported_eq_ok updated) member with
        before | ⟨current, currentMem, equal⟩
      · exact rated row before
      · rw [equal]
        exact overlay_checks accepted (rated current currentMem)
  | addCaseStudy data | changeCaseStudy model data | deleteProject project | deleteClient client =>
      rcases Result.map_eq_ok.mp committed with ⟨_, _, pair⟩
      cases pair
      exact rated

omit [PyUnicode] [Collation] in
theorem changeCaseStudy_isOk {caseStudies : CaseStudyRepository.CaseStudies}
    {model : CaseStudyModel} {data : CaseStudyWrite} {referenced : Bool} (now : Instant)
    (accepted : acceptedCaseStudy data = true)
    (present : model.id ∈ caseStudies.rows.map CaseStudyModel.id)
    (references : referenced = true) :
    (Repository.updateLoaded CaseStudyRepository.columns (fun _ => referenced) now model
      (CaseStudyRepository.repository.assign data model) caseStudies).isOk = true := by
  rcases Bool.and_eq_true_iff.mp accepted with ⟨validated, metrics⟩
  have fits := CaseStudyRepository.fits validated
  apply Repository.updateLoaded_isOk
  · exact fun _ _ => rfl
  · exact present
  · exact (fits.assign model).trans metrics
  · exact fun _ _ => rfl
  · exact fun _ => references

omit [PyUnicode] [Collation] in
theorem changeTestimonial_isOk {testimonials : TestimonialRepository.Testimonials}
    {model : TestimonialModel} {data : TestimonialWrite} {referenced : Bool} (now : Instant)
    (accepted : data.accepted = true)
    (present : model.id ∈ testimonials.rows.map TestimonialModel.id)
    (rated : ∀ row ∈ testimonials.rows, TestimonialRepository.repository.checks row = true)
    (references : referenced = true) :
    (Repository.updateLoaded TestimonialRepository.columns (fun _ => referenced) now model
      (TestimonialRepository.repository.assign data model) testimonials).isOk = true := by
  apply Repository.updateLoaded_isOk
  · exact fun _ _ => rfl
  · exact present
  · exact (TestimonialRepository.fits accepted).assign model
  · exact fun current member => overlay_checks accepted (rated current member)
  · exact fun _ => references

/-- A commit that is ready is refused only to a delete of a row that is still named. -/
theorem Pending.commit_anticipated {error : Raised} (accepted : pending.accepted = true)
    (present : pending.Present tables) (rated : tables.Rated)
    (ready : pending.ready defaults tables = true)
    (refused : pending.commit defaults now tables = .error error) : Anticipated error := by
  rcases Bool.and_eq_true_iff.mp ready with ⟨references, ready⟩
  cases pending with
  | addCaseStudy data =>
      rcases Bool.and_eq_true_iff.mp accepted with ⟨validated, metrics⟩
      have fits := CaseStudyRepository.fits validated
      have free : ∀ row ∈ tables.caseStudies.rows, CaseStudyRepository.repository.clash row
          (CaseStudyRepository.repository.construct defaults data) = false := by
        simp only [Bool.not_eq_true', List.any_eq_false] at ready
        exact fun row member => Bool.eq_false_iff.mpr (ready row member)
      have inserted := Repository.commitNew_isOk ((fits.construct defaults).trans metrics) rfl
        (fun _ => references) free
      rw [Result.map_eq_error.mp refused] at inserted
      cases inserted
  | changeCaseStudy model data =>
      have updated := changeCaseStudy_isOk now accepted present references
      rw [← Repository.isOk_reported, Result.map_eq_error.mp refused] at updated
      cases updated
  | addTestimonial data =>
      have fits := TestimonialRepository.fits accepted
      have free : ∀ row ∈ tables.testimonials.rows, TestimonialRepository.repository.clash row
          (TestimonialRepository.repository.construct defaults data) = false := by
        simp only [Bool.not_eq_true', List.any_eq_false] at ready
        exact fun row member => Bool.eq_false_iff.mpr (ready row member)
      have inserted := Repository.commitNew_isOk (fits.construct defaults)
        (Bool.and_eq_true_iff.mp accepted).2 (fun _ => references) free
      rw [Result.map_eq_error.mp refused] at inserted
      cases inserted
  | changeTestimonial model data =>
      have updated := changeTestimonial_isOk now accepted present rated references
      rw [← Repository.isOk_reported, Result.map_eq_error.mp refused] at updated
      cases updated
  | deleteProject project =>
      have refused := Tagged.refused_commitDelete ready (Result.map_eq_error.mp refused)
      exact ⟨_, .inr refused⟩
  | deleteClient client =>
      have refused := Repository.refused_commitDelete (Result.map_eq_error.mp refused)
      exact ⟨_, .inr refused⟩

end

section

omit [Mysql]

variable {ties : Ties} {tables : Tables}

theorem Check.found_isOk {check : Check} (readable : tables.Readable) :
    (check.found tables ties).isOk = true := by
  cases check with
  | caseStudy id => exact Result.isOk_map.trans CaseStudyRepository.getById_isOk
  | project id =>
      exact Result.isOk_map.trans
        (ProjectRepository.getById_isOk readable.technologies readable.projects)
  | client id => exact Result.isOk_map.trans (ClientRepository.getById_isOk readable.clients)

theorem Request.select_isOk {request : Request} : (request.select tables ties).isOk = true := by
  cases request with
  | createCaseStudy data => rfl
  | updateCaseStudy id data =>
      simp only [select, Repository.select_eq, Result.isOk_map, Result.isOk_ok]
  | createTestimonial data => rfl
  | updateTestimonial id data =>
      simp only [select, Repository.select_eq, Result.isOk_map, Result.isOk_ok]
  | deleteProject id =>
      simp only [select, Loaded.byId, Repository.select_eq, Result.isOk_map, Result.isOk_ok]
  | deleteClient id =>
      simp only [select, Repository.select_eq, Result.isOk_map, Result.isOk_ok]

/-- What a repository selects is stored, and the payload comes along. -/
theorem Request.select_pending [Mysql] {request : Request} {pending : Pending}
    (accepted : request.accepted = true)
    (selected : request.select tables ties = .ok (some pending)) :
    pending.accepted = true ∧ pending.Present tables := by
  cases request with
  | createCaseStudy data =>
      cases selected
      exact ⟨accepted, trivial⟩
  | updateCaseStudy id data =>
      rcases Result.map_eq_ok.mp selected with ⟨found, read, equal⟩
      rcases Option.map_eq_some_iff.mp equal with ⟨model, rfl, rfl⟩
      exact ⟨accepted, List.mem_map_of_mem (Repository.mem_of_select read)⟩
  | createTestimonial data =>
      cases selected
      exact ⟨accepted, trivial⟩
  | updateTestimonial id data =>
      rcases Result.map_eq_ok.mp selected with ⟨found, read, equal⟩
      rcases Option.map_eq_some_iff.mp equal with ⟨model, rfl, rfl⟩
      exact ⟨accepted, List.mem_map_of_mem (Repository.mem_of_select read)⟩
  | deleteProject id =>
      rcases Result.map_eq_ok.mp selected with ⟨found, _, equal⟩
      rcases Option.map_eq_some_iff.mp equal with ⟨project, rfl, rfl⟩
      exact ⟨rfl, trivial⟩
  | deleteClient id =>
      rcases Result.map_eq_ok.mp selected with ⟨found, _, equal⟩
      rcases Option.map_eq_some_iff.mp equal with ⟨client, rfl, rfl⟩
      exact ⟨rfl, trivial⟩

/-- A row that is stored is refreshed. -/
theorem Written.refresh_of_present {written : Written} (present : written.Present tables) :
    written.refresh tables = .ok () := by
  cases written with
  | caseStudy id =>
      rcases List.mem_map.mp present with ⟨model, member, rfl⟩
      have selected := Repository.select_of_mem member
      change CaseStudyRepository.repository.select tables.caseStudies model.id = _ at selected
      simp only [refresh, selected]
      rfl
  | testimonial id =>
      rcases List.mem_map.mp present with ⟨model, member, rfl⟩
      have selected := Repository.select_of_mem member
      change TestimonialRepository.repository.select tables.testimonials model.id = _ at selected
      simp only [refresh, selected]
      rfl

end

/-- What holds of a request wherever it stands. -/
def Pc.Settled (start current : Tables) (request : Request) : Pc → Prop
  | .checking snapshot _ => request.accepted = true ∧
      ∀ seen, snapshot = some seen → start.Follows seen ∧ seen.Follows current
  | .committing pending => pending.accepted = true ∧ pending.Present current
  | .refreshing written => written.Present current
  | .returned => True
  | .raised error => Anticipated error

/-- The commit has succeeded. -/
def Pc.Committed : Pc → Prop
  | .refreshing _ | .returned => True
  | .checking .. | .committing _ | .raised _ => False

structure Invariant (start : Tables) (state : State) : Prop where
  follows : start.Follows state.tables
  rated : state.tables.Rated
  requests : ∀ pid request pc, state.requests pid = some (request, pc) →
    pc.Settled start state.tables request
  /-- Only commits change the tables. -/
  journal : ∀ entry ∈ state.journal, entry.after = entry.before ∨
    ∃ request pc, state.requests entry.pid = some (request, pc) ∧ pc.Committed

section

variable {start : Tables}

theorem Pc.Settled.follows {before after : Tables} {request : Request} {pc : Pc}
    (settled : pc.Settled start before request) (follows : before.Follows after) :
    pc.Settled start after request := by
  cases pc with
  | checking snapshot remaining =>
      rcases settled with ⟨accepted, seen⟩
      constructor
      · exact accepted
      · intro tables equal
        rcases seen tables equal with ⟨first, last⟩
        exact ⟨first, last.trans follows⟩
  | committing pending => exact ⟨settled.1, settled.2.follows follows⟩
  | refreshing written => exact Written.Present.follows settled follows
  | returned => trivial
  | raised error => exact settled

/-- A request that moves on keeps the invariant. -/
theorem Invariant.move {state : State} {pid : Nat} {request : Request} {pc : Pc} {tables : Tables}
    (invariant : Invariant start state) (follows : state.tables.Follows tables)
    (rated : tables.Rated) (settled : pc.Settled start tables request)
    (committed : tables = state.tables ∨ pc.Committed)
    (earlier : ∀ request' pc', state.requests pid = some (request', pc') → pc'.Committed →
      pc.Committed) :
    Invariant start (state.move pid request pc tables) where
  follows := invariant.follows.trans follows
  rated := rated
  requests := by
    intro other request' pc' present
    by_cases same : other = pid
    · subst same
      simp only [State.move, Function.update_self] at present
      cases present
      exact settled
    · simp only [State.move, Function.update_of_ne same] at present
      exact (invariant.requests other request' pc' present).follows follows
  journal := by
    have kept : ∀ other, (∃ request' pc', state.requests other = some (request', pc') ∧
        pc'.Committed) → ∃ request' pc', (state.move pid request pc tables).requests other =
          some (request', pc') ∧ pc'.Committed := by
      rintro other ⟨request', pc', present, done⟩
      by_cases same : other = pid
      · subst same
        exact ⟨request, pc, Function.update_self .., earlier request' pc' present done⟩
      · exact ⟨request', pc', (Function.update_of_ne same ..).trans present, done⟩
    intro entry member
    rcases List.mem_append.mp member with before | new
    · rcases invariant.journal entry before with same | done
      · exact .inl same
      · exact .inr (kept entry.pid done)
    · rw [List.mem_singleton.mp new]
      rcases committed with same | done
      · exact .inl same
      · exact .inr ⟨request, pc, Function.update_self .., done⟩

omit [Mysql] in
theorem view_follows {isolation : Isolation} {current : Tables} {snapshot : Option Tables}
    (follows : start.Follows current)
    (seen : ∀ tables, snapshot = some tables → start.Follows tables ∧ tables.Follows current) :
    start.Follows (view isolation current snapshot) ∧
      (view isolation current snapshot).Follows current := by
  cases snapshot with
  | none => exact ⟨follows, .refl current⟩
  | some tables =>
      cases isolation with
      | readCommitted => exact ⟨follows, .refl current⟩
      | repeatableRead => exact seen tables rfl

theorem Request.next_settled {isolation : Isolation} {ties : Ties} {current : Tables}
    {snapshot : Option Tables} {request : Request} {remaining : List Check}
    (readable : start.Readable) (follows : start.Follows current)
    (settled : (Pc.checking snapshot remaining).Settled start current request) :
    (request.next isolation ties current snapshot remaining).Settled start current request := by
  rcases settled with ⟨accepted, seen⟩
  have viewed : start.Follows (view isolation current snapshot) ∧
      (view isolation current snapshot).Follows current := view_follows follows seen
  cases remaining with
  | cons check remaining =>
      simp only [next]
      have found : (check.found (view isolation current snapshot) ties).isOk = true :=
        Check.found_isOk (viewed.1.readable readable)
      split
      next error failed =>
        rw [failed] at found
        cases found
      next => exact ⟨_, .inl rfl⟩
      next =>
        constructor
        · exact accepted
        · intro tables equal
          cases snapshot with
          | none =>
              cases equal
              exact ⟨follows, .refl current⟩
          | some earlier =>
              cases equal
              exact seen earlier rfl
  | nil =>
      simp only [next]
      have selected : (request.select (view isolation current snapshot) ties).isOk = true :=
        Request.select_isOk
      split
      next error failed =>
        rw [failed] at selected
        cases selected
      next => exact ⟨_, .inl rfl⟩
      next pending found =>
        rcases Request.select_pending accepted found with ⟨payload, present⟩
        exact ⟨payload, present.follows viewed.2⟩

/-- One more request. -/
theorem Invariant.call {state : State} {pid : Nat} {request : Request}
    (invariant : Invariant start state) (absent : state.requests pid = none)
    (accepted : request.accepted = true) :
    Invariant start (state.move pid request (.checking none request.checks) state.tables) := by
  apply invariant.move (.refl state.tables) invariant.rated
  · constructor
    · exact accepted
    · intro seen impossible
      cases impossible
  · exact .inl rfl
  · intro request' pc' present
    rw [absent] at present
    cases present

/-- A request that has not committed goes on without writing. -/
theorem Invariant.advance {state : State} {pid : Nat} {request : Request} {old pc : Pc}
    (invariant : Invariant start state) (present : state.requests pid = some (request, old))
    (unfinished : ¬ old.Committed) (settled : pc.Settled start state.tables request) :
    Invariant start (state.move pid request pc state.tables) := by
  apply invariant.move (.refl state.tables) invariant.rated settled (.inl rfl)
  intro request' pc' present' done
  rw [present] at present'
  cases present'
  exact (unfinished done).elim

/-- A request that has committed. -/
theorem Invariant.commit {state : State} {pid : Nat} {request : Request} {pc : Pc}
    {tables : Tables} (invariant : Invariant start state) (follows : state.tables.Follows tables)
    (rated : tables.Rated) (settled : pc.Settled start tables request) (done : pc.Committed) :
    Invariant start (state.move pid request pc tables) :=
  invariant.move follows rated settled (.inr done) fun _ _ _ _ => done

theorem step_invariant {isolation : Isolation} {state next : State} {label : Label}
    (readable : start.Readable) (invariant : Invariant start state) (met : Sound state label)
    (stepped : step isolation state label = some next) : Invariant start next := by
  cases label with
  | call pid request =>
      simp only [step] at stepped
      split at stepped
      next absent =>
        cases stepped
        exact invariant.call absent met
      next => cases stepped
  | read pid ties =>
      simp only [step] at stepped
      split at stepped
      next request snapshot remaining present =>
        cases stepped
        have settled := invariant.requests pid request _ present
        exact invariant.advance present id
          (Request.next_settled readable invariant.follows settled)
      next request written present =>
        have settled := invariant.requests pid request _ present
        rw [Written.refresh_of_present settled] at stepped
        cases stepped
        exact invariant.commit (.refl state.tables) invariant.rated trivial trivial
      next => cases stepped
  | commit pid defaults now =>
      simp only [step] at stepped
      split at stepped
      next request pending present =>
        rcases invariant.requests pid request _ present with ⟨accepted, stored⟩
        simp only [Sound, sound, present] at met
        split at stepped
        next error refused =>
          cases stepped
          exact invariant.advance present id
            (Pending.commit_anticipated accepted stored invariant.rated met refused)
        next tables committed =>
          cases stepped
          rcases Pending.commit_follows stored committed with ⟨follows, _⟩
          have rated := Pending.commit_rated accepted invariant.rated committed
          exact invariant.commit follows rated trivial trivial
        next written tables committed =>
          cases stepped
          rcases Pending.commit_follows stored committed with ⟨follows, refreshable⟩
          have rated := Pending.commit_rated accepted invariant.rated committed
          exact invariant.commit follows rated (refreshable written rfl) trivial
      next => cases stepped

end

/-! ## Every request is answered -/

/-- How many steps a request may still take. -/
def Pc.remaining : Pc → Nat
  | .checking _ remaining => remaining.length + 3
  | .committing _ => 2
  | .refreshing _ => 1
  | .returned | .raised _ => 0

/-- A request has succeeded, or it has been refused as it may be and has changed nothing,
or it has a step left and every step brings it closer to its end. -/
inductive Answered (isolation : Isolation) (state : State) (pid : Nat) (request : Request) :
    Pc → Prop where
  | returned : Answered isolation state pid request .returned
  | refused {error : Raised} : Anticipated error →
      (∀ entry ∈ state.journal, entry.pid = pid → entry.after = entry.before) →
      Answered isolation state pid request (.raised error)
  | running {pc : Pc} :
      (∃ label, label.pid = pid ∧ (step isolation state label).isSome = true) →
      (∀ label next, label.pid = pid → step isolation state label = some next →
        ∃ pc', next.requests pid = some (request, pc') ∧ pc'.remaining < pc.remaining) →
      Answered isolation state pid request pc

omit [Mysql] in
theorem Request.next_remaining {isolation : Isolation} {ties : Ties} {current : Tables}
    {snapshot : Option Tables} {request : Request} {remaining : List Check} :
    (request.next isolation ties current snapshot remaining).remaining < remaining.length + 3 := by
  cases remaining with
  | cons check remaining =>
      simp only [next]
      split
      · simp [Pc.remaining]
      · simp [Pc.remaining]
      · simp [Pc.remaining]
  | nil =>
      simp only [next]
      split
      · simp [Pc.remaining]
      · simp [Pc.remaining]
      · simp [Pc.remaining]

theorem step_remaining {isolation : Isolation} {state next : State} {label : Label}
    {request : Request} {pc : Pc} (present : state.requests label.pid = some (request, pc))
    (stepped : step isolation state label = some next) :
    ∃ pc', next.requests label.pid = some (request, pc') ∧ pc'.remaining < pc.remaining := by
  cases label with
  | call pid request =>
      simp only [Label.pid] at present
      simp only [step, present] at stepped
      cases stepped
  | read pid ties =>
      simp only [Label.pid] at present
      simp only [step, present] at stepped
      cases pc with
      | checking snapshot remaining =>
          cases stepped
          exact ⟨_, Function.update_self .., Request.next_remaining⟩
      | refreshing written =>
          simp only at stepped
          split at stepped
          · cases stepped
            exact ⟨_, Function.update_self .., Nat.zero_lt_one⟩
          · cases stepped
            exact ⟨_, Function.update_self .., Nat.zero_lt_one⟩
      | committing | returned | raised => cases stepped
  | commit pid defaults now =>
      simp only [Label.pid] at present
      simp only [step, present] at stepped
      cases pc with
      | committing pending =>
          simp only at stepped
          split at stepped
          · cases stepped
            exact ⟨_, Function.update_self .., Nat.zero_lt_two⟩
          · cases stepped
            exact ⟨_, Function.update_self .., Nat.zero_lt_two⟩
          · cases stepped
            exact ⟨_, Function.update_self .., Nat.one_lt_two⟩
      | checking | refreshing | returned | raised => cases stepped

theorem step_enabled {isolation : Isolation} {state : State} {pid : Nat} {request : Request}
    {pc : Pc} (present : state.requests pid = some (request, pc)) (unfinished : 0 < pc.remaining) :
    ∃ label, label.pid = pid ∧ (step isolation state label).isSome = true := by
  cases pc with
  | checking snapshot remaining =>
      refine ⟨.read pid fun _ => 0, rfl, ?_⟩
      simp only [step, present, Option.isSome_some]
  | committing pending =>
      refine ⟨.commit pid ⟨0, 0, 0⟩ 0, rfl, ?_⟩
      simp only [step, present]
      split
      · rfl
      · rfl
      · rfl
  | refreshing written =>
      refine ⟨.read pid fun _ => 0, rfl, ?_⟩
      simp only [step, present]
      split
      · rfl
      · rfl
  | returned | raised => cases unfinished

/-- When every commit is ready, every request succeeds or is refused with a
`ResourceNotFoundError` or a `ConflictError` and then has changed nothing. -/
theorem requests_answered {isolation : Isolation} {start : Tables} (readable : start.Readable)
    (rated : start.Rated) {last : State}
    (run : Machine.Reaches (step isolation) Sound (State.init start) last) :
    ∀ pid request pc, last.requests pid = some (request, pc) →
      Answered isolation last pid request pc := by
  have initially : Invariant start (State.init start) := by
    constructor
    · exact .refl start
    · exact rated
    · intro pid request pc impossible
      cases impossible
    · intro entry member
      cases member
  have invariant : Invariant start last :=
    run.invariant (Invariant start) (step_invariant readable) initially
  intro pid request pc present
  by_cases unfinished : 0 < pc.remaining
  · apply Answered.running
    · exact step_enabled present unfinished
    · intro label next own stepped
      subst own
      exact step_remaining present stepped
  · cases pc with
    | returned => exact .returned
    | raised error =>
        apply Answered.refused
        · exact invariant.requests pid request _ present
        · intro entry member own
          rcases invariant.journal entry member with same | ⟨request', pc', present', done⟩
          · exact same
          · rw [own, present] at present'
            cases present'
            cases done
    | checking | committing | refreshing => simp [Pc.remaining] at unfinished

end

namespace Sample

open Content.Sample

attribute [local instance] unicode collation mysql

def start : Tables where
  technologies := .empty
  projects := ⟨.singleton showcase, .empty⟩
  clients := .empty
  caseStudies := .empty
  testimonials := .empty

/-- A write-up of the project. -/
def payload : CaseStudyWrite where
  projectId := 1
  challenge := none
  solution := none
  architecture := none
  lessonsLearned := none
  metrics := none

def looking : List Label := [
  .call 0 (.createCaseStudy payload), .call 1 (.deleteProject 1),
  .read 0 (fun _ => 0), .read 0 (fun _ => 0), .read 1 (fun _ => 0)]

def deleting : List Label := [.commit 1 ⟨0, 0, 0⟩ 0]

def creating : List Label := [.commit 0 ⟨2, 0, 0⟩ 0]

/-- The project is deleted after it has been looked up. -/
def overlapping : List Label := looking ++ deleting ++ creating

theorem dangling_reference :
    ¬ ∀ last, Machine.Reaches (step .repeatableRead) Validated (State.init start) last →
      ∀ pid request pc, last.requests pid = some (request, pc) →
        Answered .repeatableRead last pid request pc := by
  intro claim
  obtain ⟨last, executed⟩ := Option.isSome_iff_exists.mp
    (by decide : (Machine.execIf (step .repeatableRead) Validated (.init start)
      overlapping).isSome)
  have escaped : last.requests 0 = some (.createCaseStudy payload, .raised .integrityError) :=
    Machine.read_of_map (fun state => state.requests 0) executed rfl
  cases claim last ⟨_, Machine.Runs.of_execIf executed⟩ 0 _ _ escaped with
  | refused anticipated _ =>
      rcases anticipated with ⟨message, impossible | impossible⟩
      · cases impossible
      · cases impossible
  | running enabled _ =>
      rcases enabled with ⟨label, own, enabled⟩
      rcases Option.isSome_iff_exists.mp enabled with ⟨next, stepped⟩
      rcases step_remaining (own ▸ escaped) stepped with ⟨_, _, impossible⟩
      cases impossible

/-- The project is deleted after the write-up has been stored. -/
def ordered : List Label := looking ++ creating ++ [.read 0 (fun _ => 0)] ++ deleting

theorem requests_answered_ordered :
    ∃ last, Machine.execIf (step .repeatableRead) Sound (.init start) ordered = some last ∧
      last.requests 1 = some (.deleteProject 1, .raised (.app (.conflictError
        "Project is referenced by an existing case study or testimonial"))) ∧
      ∀ pid request pc, last.requests pid = some (request, pc) →
        Answered .repeatableRead last pid request pc := by
  obtain ⟨last, executed⟩ := Option.isSome_iff_exists.mp
    (by decide : (Machine.execIf (step .repeatableRead) Sound (.init start) ordered).isSome)
  have readable : start.Readable := by
    constructor
    · exact Repository.readable_empty
    · exact fun row member => List.mem_singleton.mp member ▸ rfl
    · exact Repository.readable_empty
  have rated : start.Rated := by
    intro row member
    cases member
  refine ⟨last, executed, ?_, ?_⟩
  · exact Machine.read_of_map (fun state => state.requests 1) executed rfl
  · exact requests_answered readable rated ⟨_, Machine.Runs.of_execIf executed⟩

end Sample

end ChTech.Content.References
