import ChTech.Application.Requests
import ChTech.Content.Saves
import ChTech.Content.StoredRows

/-!
# Integrity of the stored content

No request leaves a reference dangling.  A save only adds keys to its table, and what its
rows refer to is checked when they are written; a delete takes a row only when nothing
names it.
-/

namespace ChTech.Application

open Foundation Content

section

variable {σ α : Type} {program : Program σ Raised (Option α)} {start : σ}

theorem orNotDeleted_store (message : String) (program : Program σ Raised Bool) :
    (orNotDeleted message program start).2 = (program start).2 := by
  simp only [orNotDeleted, Program.bind_apply]
  cases (program start).1 with
  | error raised => rfl
  | ok deleted => cases deleted <;> rfl

theorem require_store (message : String) (lookup : σ → Except Raised (Option α)) :
    (require message lookup start).2 = start := by
  simp only [require, Program.bind_apply, Program.read]
  cases lookup start with
  | error raised => rfl
  | ok found => cases found <;> rfl

theorem requireGiven_store (message : String) (reference : Option UUID)
    (lookup : UUID → σ → Except Raised (Option α)) :
    (requireGiven message reference lookup start).2 = start := by
  cases reference with
  | none => rfl
  | some id => exact require_store message (lookup id)

/-- A use case goes on in the store that its lookups leave, or stays there. -/
theorem bind_store {β : Type} {first : Program σ Raised β} {second : β → Program σ Raised α}
    (kept : (first start).2 = start) :
    ((first >>= second) start).2 = start ∨
      ∃ value, (first start).1 = .ok value ∧ (first >>= second) start = second value start := by
  rw [Program.bind_apply]
  cases ended : (first start).1 with
  | error raised => exact .inl kept
  | ok value => exact .inr ⟨value, rfl, by rw [kept]⟩

end

section

variable [PyUnicode] [Collation]

variable {store : Store}

theorem foreignKeys_saveProject {projects : ProjectRepository.Projects} {target : Target}
    {data : ProjectWrite} (keys : ForeignKeys store)
    (left : Tagged.Left store.technologies (fun _ => true) target data store.projects projects) :
    ForeignKeys { store with projects } := by
  have grown := left.rows.keys
  refine { keys with
    projectLinks := ?_, projects := ?_, caseStudies := ?_, testimonialProjects := ?_ }
  · intro link linked
    rcases left.links link linked with before | new
    · rcases keys.projectLinks link before with ⟨project, technology⟩
      exact ⟨grown _ project, technology⟩
    · exact new
  · apply left.rows.forall_rows keys.projects
    · intro defaults _ id names
      cases names
    · exact fun old stored _ _ => keys.projects old stored
  · exact fun row stored => grown _ (keys.caseStudies row stored)
  · exact fun row stored id names => grown _ (keys.testimonialProjects row stored id names)

theorem foreignKeys_saveArticle {articles : ArticleRepository.Articles} {target : Target}
    {data : UUID × ArticleWrite} (keys : ForeignKeys store)
    (left : Tagged.Left store.technologies (ArticleRepository.referenced store.users) target data
      store.articles articles) : ForeignKeys { store with articles } := by
  have grown := left.rows.keys
  refine { keys with articles := ?_, articleLinks := ?_ }
  · apply left.rows.forall_rows keys.articles
    · exact fun defaults references => any_key.mp references
    · exact fun old stored _ _ => keys.articles old stored
  · intro link linked
    rcases left.links link linked with before | new
    · rcases keys.articleLinks link before with ⟨article, technology⟩
      exact ⟨grown _ article, technology⟩
    · exact new

theorem foreignKeys_saveService {services : ServiceRepository.Services} {target : Target}
    {data : ServiceWrite} (keys : ForeignKeys store)
    (left : ServiceRepository.repository.Left (fun _ => true) target data store.services
      services) : ForeignKeys { store with services } := by
  refine { keys with services := ?_ }
  apply left.forall_rows keys.services
  · intro defaults _ id names
    cases names
  · exact fun old stored _ _ => keys.services old stored

theorem foreignKeys_saveServiceLine {serviceLines : ServiceLineRepository.ServiceLines}
    {target : Target} {data : ServiceLineWrite} (keys : ForeignKeys store)
    (left : ServiceLineRepository.repository.Left (fun _ => true) target data
      store.serviceLines serviceLines) : ForeignKeys { store with serviceLines } := by
  have grown := left.keys
  exact { keys with
    services := fun row stored id names => grown _ (keys.services row stored id names)
    contactRequests := fun row stored id names =>
      grown _ (keys.contactRequests row stored id names) }

theorem foreignKeys_saveTechnology {technologies : TechnologyRepository.Technologies}
    {target : Target} {data : TechnologyWrite} (keys : ForeignKeys store)
    (left : TechnologyRepository.repository.Left (fun _ => true) target data
      store.technologies technologies) : ForeignKeys { store with technologies } := by
  have grown := left.keys
  exact { keys with
    articleLinks := fun link stored =>
      ⟨(keys.articleLinks link stored).1, grown _ (keys.articleLinks link stored).2⟩
    projectLinks := fun link stored =>
      ⟨(keys.projectLinks link stored).1, grown _ (keys.projectLinks link stored).2⟩ }

theorem foreignKeys_saveClient {clients : ClientRepository.Clients} {target : Target}
    {data : ClientWrite} (keys : ForeignKeys store)
    (left : ClientRepository.repository.Left (fun _ => true) target data store.clients clients) :
    ForeignKeys { store with clients } := by
  have grown := left.keys
  exact { keys with
    projects := fun row stored id names => grown _ (keys.projects row stored id names)
    testimonialClients := fun row stored id names =>
      grown _ (keys.testimonialClients row stored id names) }

theorem foreignKeys_saveTeamMember {teamMembers : TeamMemberRepository.TeamMembers}
    {target : Target} {data : TeamMemberWrite} (keys : ForeignKeys store)
    (left : TeamMemberRepository.repository.Left (TeamMemberRepository.referenced store.users)
      target data store.teamMembers teamMembers) : ForeignKeys { store with teamMembers } := by
  have named : ∀ model : TeamMemberModel,
      TeamMemberRepository.referenced store.users model = true →
        ∀ id ∈ model.userId, id ∈ store.users.rows.map UserModel.id := by
    intro model references id names
    rw [TeamMemberRepository.referenced, Option.mem_def.mp names] at references
    exact any_key.mp references
  refine { keys with teamMembers := ?_ }
  apply left.forall_rows keys.teamMembers
  · exact fun defaults references => named _ references
  · exact fun old _ now references => named _ references

theorem foreignKeys_saveCaseStudy {caseStudies : CaseStudyRepository.CaseStudies}
    {target : Target} {data : CaseStudyWrite} (keys : ForeignKeys store)
    (left : CaseStudyRepository.repository.Left (caseStudyReferenced store) target data
      store.caseStudies caseStudies) : ForeignKeys { store with caseStudies } := by
  refine { keys with caseStudies := ?_ }
  apply left.forall_rows keys.caseStudies
  · exact fun defaults references => any_key.mp references
  · exact fun old _ now references => any_key.mp references

theorem foreignKeys_saveTestimonial {testimonials : TestimonialRepository.Testimonials}
    {target : Target} {data : TestimonialWrite} (keys : ForeignKeys store)
    (left : TestimonialRepository.repository.Left (testimonialReferenced store) target data
      store.testimonials testimonials) : ForeignKeys { store with testimonials } := by
  have client : ∀ model : TestimonialModel, testimonialReferenced store model = true →
      ∀ id ∈ model.clientId, id ∈ store.clients.rows.map ClientModel.id := by
    intro model references id names
    have clients := (Bool.and_eq_true_iff.mp references).1
    rw [Option.mem_def.mp names] at clients
    exact any_key.mp clients
  have project : ∀ model : TestimonialModel, testimonialReferenced store model = true →
      ∀ id ∈ model.projectId, id ∈ store.projects.rows.rows.map ProjectModel.id := by
    intro model references id names
    have projects := (Bool.and_eq_true_iff.mp references).2
    rw [Option.mem_def.mp names] at projects
    exact any_key.mp projects
  refine { keys with testimonialClients := ?_, testimonialProjects := ?_ }
  · apply left.forall_rows keys.testimonialClients
    · exact fun defaults references => client _ references
    · exact fun old _ now references => client _ references
  · apply left.forall_rows keys.testimonialProjects
    · exact fun defaults references => project _ references
    · exact fun old _ now references => project _ references

theorem foreignKeys_saveContact {contactRequests : ContactRequestRepository.ContactRequests}
    {target : Target} {data : ContactCreate} (keys : ForeignKeys store)
    (left : ContactRequestRepository.repository.Left (fun _ => true) target data
      store.contactRequests contactRequests) : ForeignKeys { store with contactRequests } := by
  refine { keys with contactRequests := ?_ }
  apply left.forall_rows keys.contactRequests
  · intro defaults _ id names
    cases names
  · exact fun old stored _ _ => keys.contactRequests old stored

/-- What a delete makes of the schema. -/
theorem delete_run (keys : ForeignKeys store) (delete : Delete) :
    (delete.run store).2 = store ∨ (delete.run store).2 = delete.removed store := by
  have exactly := delete.exactly keys
  cases known : delete.known store with
  | false => exact .inl (congrArg Prod.snd (exactly.unknown known))
  | true =>
      cases held : delete.held store with
      | true => exact .inl (exactly.refused known held).1
      | false => exact .inr (congrArg Prod.snd (exactly.removed known held))

theorem executeDelete_eq (delete : Delete) :
    ∃ message, executeDelete delete = orNotDeleted message delete.run := by
  cases delete with
  | _ => exact ⟨_, rfl⟩

theorem executeDelete_store (delete : Delete) :
    (executeDelete delete store).2 = (delete.run store).2 := by
  rcases executeDelete_eq delete with ⟨message, same⟩
  rw [same, orNotDeleted_store]

/-! ## Every request -/

theorem foreignKeys_empty (users : Users) : ForeignKeys (emptyStore users) := by
  constructor <;> intro row member <;> cases member

section

variable [Mysql]

section

variable {α : Type} {wrap : Option α → Answer} {message : String}
  (execute : Target → Program Store Raised Answer)
  (save : Target → Program Store Raised (Option α)) (target : Target)

omit [Mysql]

/-- A create and an update leave what their save leaves. -/
theorem execute_store (post : ∀ defaults, execute (.post defaults) = wrap <$> save (.post defaults))
    (put : ∀ id now, execute (.put id now) = wrap <$> orNotFound message (save (.put id now))) :
    (execute target store).2 = (save target store).2 := by
  cases target with
  | post defaults => rw [post, Program.map_apply]
  | put id now => rw [put, Program.map_apply, orNotFound]

/-- A lookup that comes before a save may end the request. -/
theorem checked_store {lookup : Program Store Raised Unit} (kept : (lookup store).2 = store)
    (post : ∀ defaults, execute (.post defaults) =
      wrap <$> (lookup >>= fun _ => save (.post defaults)))
    (put : ∀ id now, execute (.put id now) =
      wrap <$> (lookup >>= fun _ => orNotFound message (save (.put id now)))) :
    (execute target store).2 = store ∨ (execute target store).2 = (save target store).2 := by
  cases target with
  | post defaults =>
      rw [post, Program.map_apply]
      rcases bind_store kept with same | ⟨_, _, bound⟩
      · exact .inl same
      · exact .inr (by rw [bound])
  | put id now =>
      rw [put, Program.map_apply]
      rcases bind_store kept with same | ⟨_, _, bound⟩
      · exact .inl same
      · exact .inr (by rw [bound, orNotFound])

end

theorem project_store (ties : Ties) (target : Target) (payload : ProjectWrite) :
    ((Change.project ties target payload).execute store).2 =
      (saveProject ties target payload store).2 :=
  execute_store (fun target => (Change.project ties target payload).execute)
    (fun target => saveProject ties target payload) target (fun _ => rfl) fun _ _ => rfl

/-- An update goes without the author. -/
theorem article_store (ties : Ties) (target : Target) (authorId : UUID) (payload : ArticleWrite) :
    ∃ author, ((Change.article ties target authorId payload).execute store).2 =
      (saveArticle ties target author payload store).2 := by
  cases target with
  | post defaults =>
      exact ⟨authorId, by rw [Change.execute, Program.map_apply, CreateArticle.execute]⟩
  | put id now =>
      exact ⟨0, by rw [Change.execute, Program.map_apply, UpdateArticle.execute, orNotFound]⟩

theorem service_store (target : Target) (payload : ServiceWrite) :
    ((Change.service target payload).execute store).2 =
      (savePlain ServiceRepository.repository Part.services target payload store).2 :=
  execute_store (fun target => (Change.service target payload).execute)
    (fun target => savePlain ServiceRepository.repository Part.services target payload)
    target (fun _ => rfl) fun _ _ => rfl

theorem serviceLine_store (target : Target) (payload : ServiceLineWrite) :
    ((Change.serviceLine target payload).execute store).2 =
      (savePlain ServiceLineRepository.repository Part.serviceLines target payload store).2 :=
  execute_store (fun target => (Change.serviceLine target payload).execute)
    (fun target => savePlain ServiceLineRepository.repository Part.serviceLines target payload)
    target (fun _ => rfl) fun _ _ => rfl

theorem product_store (target : Target) (payload : ProductWrite) :
    ((Change.product target payload).execute store).2 =
      (savePlain ProductRepository.repository Part.products target payload store).2 :=
  execute_store (fun target => (Change.product target payload).execute)
    (fun target => savePlain ProductRepository.repository Part.products target payload)
    target (fun _ => rfl) fun _ _ => rfl

theorem technology_store (target : Target) (payload : TechnologyWrite) :
    ((Change.technology target payload).execute store).2 =
      (savePlain TechnologyRepository.repository Part.technologies target payload store).2 :=
  execute_store (fun target => (Change.technology target payload).execute)
    (fun target => savePlain TechnologyRepository.repository Part.technologies target payload)
    target (fun _ => rfl) fun _ _ => rfl

theorem client_store (target : Target) (payload : ClientWrite) :
    ((Change.client target payload).execute store).2 =
      (savePlain ClientRepository.repository Part.clients target payload store).2 :=
  execute_store (fun target => (Change.client target payload).execute)
    (fun target => savePlain ClientRepository.repository Part.clients target payload)
    target (fun _ => rfl) fun _ _ => rfl

theorem partner_store (target : Target) (payload : PartnerWrite) :
    ((Change.partner target payload).execute store).2 =
      (savePlain PartnerRepository.repository Part.partners target payload store).2 :=
  execute_store (fun target => (Change.partner target payload).execute)
    (fun target => savePlain PartnerRepository.repository Part.partners target payload)
    target (fun _ => rfl) fun _ _ => rfl

theorem teamMember_store (target : Target) (payload : TeamMemberWrite) :
    ((Change.teamMember target payload).execute store).2 = store ∨
      ((Change.teamMember target payload).execute store).2 =
        (saveTeamMember target payload store).2 :=
  checked_store (fun target => (Change.teamMember target payload).execute)
    (fun target => saveTeamMember target payload) target
    (requireGiven_store _ _ _ : (requireUser payload.userId store).2 = store) (fun _ => rfl)
    fun _ _ => rfl

/-- The update looks at the case study, too, before it looks at the project. -/
theorem caseStudy_store (ties : Ties) (target : Target) (payload : CaseStudyWrite) :
    ((Change.caseStudy ties target payload).execute store).2 = store ∨
      ((Change.caseStudy ties target payload).execute store).2 =
        (saveCaseStudy target payload store).2 := by
  have kept : (requireProject ties payload.projectId store).2 = store := require_store _ _
  cases target with
  | post defaults =>
      rw [Change.execute, Program.map_apply, CreateCaseStudy.execute]
      rcases bind_store kept with same | ⟨_, _, bound⟩
      · exact .inl same
      · exact .inr (by rw [bound])
  | put id now =>
      rw [Change.execute, Program.map_apply, UpdateCaseStudy.execute]
      rcases bind_store (require_store _ _) with same | ⟨_, _, bound⟩
      · exact .inl same
      · rw [bound]
        rcases bind_store kept with same | ⟨_, _, bound⟩
        · exact .inl same
        · exact .inr (by rw [bound, orNotFound])

omit [Mysql] in
theorem validateReferences_store (ties : Ties) (payload : TestimonialWrite) :
    (validateReferences ties payload store).2 = store := by
  rw [validateReferences]
  rcases bind_store (requireGiven_store _ _ _) with same | ⟨_, _, bound⟩
  · exact same
  · rw [bound]
    exact requireGiven_store _ _ _

theorem testimonial_store (ties : Ties) (target : Target) (payload : TestimonialWrite) :
    ((Change.testimonial ties target payload).execute store).2 = store ∨
      ((Change.testimonial ties target payload).execute store).2 =
        (saveTestimonial target payload store).2 :=
  checked_store (fun target => (Change.testimonial ties target payload).execute)
    (fun target => saveTestimonial target payload) target (validateReferences_store ties payload)
    (fun _ => rfl) fun _ _ => rfl

theorem foreignKeys_execute (keys : ForeignKeys store) (change : Change) :
    ForeignKeys (change.execute store).2 := by
  cases change with
  | project ties target payload =>
      rw [project_store]
      exact foreignKeys_saveProject keys Tagged.save_left
  | article ties target authorId payload =>
      rcases article_store ties target authorId payload with ⟨author, same⟩
      rw [same]
      exact foreignKeys_saveArticle keys Tagged.save_left
  | service target payload =>
      rw [service_store]
      exact foreignKeys_saveService keys Repository.save_left
  | serviceLine target payload =>
      rw [serviceLine_store]
      exact foreignKeys_saveServiceLine keys Repository.save_left
  | product target payload =>
      rw [product_store]
      exact { keys with }
  | technology target payload =>
      rw [technology_store]
      exact foreignKeys_saveTechnology keys Repository.save_left
  | client target payload =>
      rw [client_store]
      exact foreignKeys_saveClient keys Repository.save_left
  | partner target payload =>
      rw [partner_store]
      exact { keys with }
  | teamMember target payload =>
      rcases teamMember_store target payload with same | saved
      · exact same ▸ keys
      · rw [saved]
        exact foreignKeys_saveTeamMember keys Repository.save_left
  | company ties defaults now payload =>
      rw [Change.execute, Program.map_apply, UpdateCompany.execute]
      exact { keys with }
  | caseStudy ties target payload =>
      rcases caseStudy_store ties target payload with same | saved
      · exact same ▸ keys
      · rw [saved]
        exact foreignKeys_saveCaseStudy keys Repository.save_left
  | testimonial ties target payload =>
      rcases testimonial_store ties target payload with same | saved
      · exact same ▸ keys
      · rw [saved]
        exact foreignKeys_saveTestimonial keys Repository.save_left
  | contact defaults payload =>
      rw [Change.execute, Program.map_apply, SubmitContactRequest.execute]
      exact foreignKeys_saveContact keys Repository.save_left
  | delete delete =>
      rw [Change.execute, Program.map_apply, executeDelete_store]
      exact keys.run delete

theorem foreignKeys_reached [EmailStr] {users : Users}
    (run : Machine.Reaches site Machine.Any (emptyStore users) store) : ForeignKeys store := by
  refine run.invariant ForeignKeys ?_ (foreignKeys_empty users)
  intro before change after keys _ stepped
  simp only [site] at stepped
  split at stepped
  next =>
    cases stepped
    exact foreignKeys_execute keys change
  next => cases stepped

/-- Whatever is sent, no reference dangles, and so every delete does exactly what it is to. -/
theorem references_intact [EmailStr] {users : Users}
    (run : Machine.Reaches site Machine.Any (emptyStore users) store) :
    ForeignKeys store ∧ ∀ delete : Delete, DeletesExactly (delete.known store)
      (delete.held store) (delete.removed store) store (delete.run store) := by
  have keys : ForeignKeys store := foreignKeys_reached run
  exact ⟨keys, fun delete => delete.exactly keys⟩

end

end

namespace Sample

open Content.Sample (unicode collation mysql emailStr)

attribute [local instance] unicode collation mysql emailStr

def defaults (id : UUID) : Defaults := ⟨id, 1767225600000000, 1767225600000000⟩

def createProject : Change :=
  .project (fun _ => 0) (.post (defaults 1)) {
    slug := "crm"
    title := "CRM"
    shortDescription := none
    fullDescription := none
    repositoryUrl := none
    liveDemoUrl := none
    coverImage := none
    status := .completed
    visibility := .isPublic
    featured := false
    startedAt := none
    finishedAt := none
    technologyIds := [] }

def createCaseStudy : Change :=
  .caseStudy (fun _ => 0) (.post (defaults 2)) {
    projectId := 1
    challenge := none
    solution := none
    architecture := none
    lessonsLearned := none
    metrics := none }

/-- A project and its case study: the project is kept. -/
theorem references_intact_referenced :
    ∃ store, Machine.exec site (emptyStore .empty) [createProject, createCaseStudy] =
        some store ∧ (ProjectRepository.delete (fun _ => 0) 1 store).2 = store := by
  obtain ⟨store, executed⟩ := Option.isSome_iff_exists.mp
    (by decide : (Machine.exec site (emptyStore .empty)
      [createProject, createCaseStudy]).isSome)
  refine ⟨store, executed, ?_⟩
  have exactly := (references_intact ⟨_, Machine.Runs.of_exec (fun _ _ _ => trivial) executed⟩).2
    (.project (fun _ => 0) 1)
  have known : (Delete.project (fun _ => 0) 1).known store = true :=
    Machine.read_of_map (fun store => (Delete.project (fun _ => 0) 1).known store) executed
      (by decide)
  have held : (Delete.project (fun _ => 0) 1).held store = true :=
    Machine.read_of_map (fun store => (Delete.project (fun _ => 0) 1).held store) executed
      (by decide)
  exact (exactly.refused known held).1

end Sample

end ChTech.Application
