import ChTech.Application.Integrity
import ChTech.Content.ArticleAnswers
import ChTech.Content.ProjectEcho
import ChTech.Content.References

/-!
# Answers to writing requests

A request whose payload its schema accepts ends with an answer, with `ResourceNotFoundError`
or with `ConflictError`, as long as the payload is sound: its slug is one, its values fit
their columns, and no other row is in its way.  What it leaves is read back.
-/

namespace ChTech.Application

open Foundation Content

open Content.References (Anticipated)

/-- The computation fails only with errors that a request may answer with. -/
abbrev Anticipates {α : Type} (result : Except Raised α) : Prop :=
  Result.RaisesOnly Anticipated result

section

variable {σ α : Type} {program : Program σ Raised (Option α)} {start : σ}

theorem anticipates_of_isOk {result : Except Raised α} (returned : result.isOk = true) :
    Anticipates result := by
  rcases Result.isOk_iff.mp returned with ⟨value, ended⟩
  rw [ended]
  exact .ok

theorem anticipates_of_conflict {result : Except Raised α} {conflict : Raised}
    (anticipated : Anticipated conflict)
    (raises : Result.RaisesOnly (fun raised => raised = conflict) result) :
    Anticipates result := by
  intro raised ended
  rw [raises raised ended]
  exact anticipated

theorem anticipated_notFound (message : String) :
    Anticipated (.app (.resourceNotFoundError message)) := ⟨message, .inl rfl⟩

theorem anticipated_conflict (message : String) :
    Anticipated (.app (.conflictError message)) := ⟨message, .inr rfl⟩

theorem orNotFound_anticipates (message : String) (saved : Anticipates (program start).1) :
    Anticipates (orNotFound message program start).1 := by
  simp only [orNotFound, existing]
  cases ended : (program start).1 with
  | error raised => exact .error (saved raised ended)
  | ok found =>
      cases found with
      | none => exact .error (anticipated_notFound message)
      | some value => exact .ok

theorem orNotDeleted_anticipates (message : String) {program : Program σ Raised Bool}
    (gone : Anticipates (program start).1) :
    Anticipates (orNotDeleted message program start).1 := by
  simp only [orNotDeleted, Program.bind_apply]
  cases ended : (program start).1 with
  | error raised => exact .error (gone raised ended)
  | ok deleted =>
      cases deleted with
      | false => exact .error (anticipated_notFound message)
      | true => exact .ok

theorem require_anticipates (message : String) {lookup : σ → Except Raised (Option α)}
    (read : (lookup start).isOk = true) : Anticipates (require message lookup start).1 := by
  simp only [require, Program.bind_apply, Program.read]
  rcases Result.isOk_iff.mp read with ⟨found, ended⟩
  rw [ended]
  cases found with
  | none => exact .error (anticipated_notFound message)
  | some value => exact .ok

theorem requireGiven_anticipates (message : String) (reference : Option UUID)
    {lookup : UUID → σ → Except Raised (Option α)}
    (read : ∀ id, reference = some id → (lookup id start).isOk = true) :
    Anticipates (requireGiven message reference lookup start).1 := by
  cases reference with
  | none => exact .ok
  | some id => exact require_anticipates message (read id rfl)

/-- A lookup that lets the use case go on has found its row. -/
theorem require_ok {message : String} {lookup : σ → Except Raised (Option α)}
    (passed : (require message lookup start).1 = .ok ()) :
    ∃ value, lookup start = .ok (some value) := by
  simp only [require, Program.bind_apply, Program.read] at passed
  cases ended : lookup start with
  | error raised =>
      rw [ended] at passed
      cases passed
  | ok found =>
      cases found with
      | none =>
          rw [ended] at passed
          cases passed
      | some value => exact ⟨value, rfl⟩

theorem requireGiven_ok {message : String} {reference : Option UUID}
    {lookup : UUID → σ → Except Raised (Option α)}
    (passed : (requireGiven message reference lookup start).1 = .ok ()) :
    ∀ id, reference = some id → ∃ value, lookup id start = .ok (some value) := by
  intro id given
  subst given
  exact require_ok passed

theorem bind_anticipates {β : Type} {first : Program σ Raised β} {second : β → Program σ Raised α}
    (kept : (first start).2 = start) (left : Anticipates (first start).1)
    (right : ∀ value, (first start).1 = .ok value → Anticipates (second value start).1) :
    Anticipates ((first >>= second) start).1 := by
  rw [Program.bind_apply]
  cases ended : (first start).1 with
  | error raised => exact .error (left raised ended)
  | ok value =>
      rw [kept]
      exact right value ended

theorem map_anticipates {β : Type} {change : α → β} {program : Program σ Raised α}
    (raises : Anticipates (program start).1) :
    Anticipates ((change <$> program) start).1 := by
  rw [Program.map_apply]
  exact raises.map

end

section

variable [PyUnicode] [Collation] {store : Store}

/-- No reference dangles, and every row is read back. -/
structure Intact (store : Store) : Prop where
  keys : ForeignKeys store
  readable : store.toDb.Readable

theorem intact_empty (users : Users) : Intact (emptyStore users) :=
  ⟨foreignKeys_empty users, Db.readable_empty users⟩

theorem readable_removed (readable : store.toDb.Readable) (delete : Delete) :
    (delete.removed store).toDb.Readable := by
  cases delete with
  | project ties id =>
      exact { readable with
        projects := fun row left => readable.projects row (Table.mem_delete.mp left).1 }
  | client id =>
      exact { readable with
        clients := fun row left => readable.clients row (Table.mem_delete.mp left).1 }
  | serviceLine id =>
      exact { readable with
        serviceLines := fun row left => readable.serviceLines row (Table.mem_delete.mp left).1 }
  | technology id =>
      exact { readable with
        technologies := fun row left => readable.technologies row (Table.mem_delete.mp left).1 }
  | article ties id =>
      exact { readable with
        articles := fun row left => readable.articles row (Table.mem_delete.mp left).1 }
  | service id =>
      exact { readable with
        services := fun row left => readable.services row (Table.mem_delete.mp left).1 }
  | product id =>
      exact { readable with
        products := fun row left => readable.products row (Table.mem_delete.mp left).1 }
  | partner id =>
      exact { readable with
        partners := fun row left => readable.partners row (Table.mem_delete.mp left).1 }
  | teamMember id =>
      exact { readable with
        teamMembers := fun row left => readable.teamMembers row (Table.mem_delete.mp left).1 }
  | caseStudy id | testimonial id => exact { readable with }

theorem delete_anticipates (keys : ForeignKeys store) (delete : Delete) :
    Anticipates (delete.run store).1 := by
  have exactly := delete.exactly keys
  cases known : delete.known store with
  | false =>
      rw [exactly.unknown known]
      exact .ok
  | true =>
      cases held : delete.held store with
      | true =>
          rcases (exactly.refused known held).2 with ⟨message, refused⟩
          rw [refused]
          exact .error (anticipated_conflict message)
      | false =>
          rw [exactly.removed known held]
          exact .ok

theorem readable_run (keys : ForeignKeys store) (readable : store.toDb.Readable)
    (delete : Delete) : (delete.run store).2.toDb.Readable := by
  rcases delete_run keys delete with same | removed
  · rw [same]
    exact readable
  · rw [removed]
    exact readable_removed readable delete

variable [Mysql] [EmailStr]

/-- The admin write of a change, as the repositories see it. -/
theorem readable_save
    (emailStr : ∀ value, EmailStr.produces value = true → (Email.postInit value).isOk = true)
    (readable : store.toDb.Readable) (write : AdminWrite) (accepted : write.accepted = true)
    (slugged : write.wellSlugged = true) : (write.save store.toDb).2.Readable :=
  (write.save_outcome emailStr accepted readable).readable slugged

/-- A change with a slug that is one leaves every row readable. -/
theorem readable_execute
    (emailStr : ∀ value, EmailStr.produces value = true → (Email.postInit value).isOk = true)
    (intact : Intact store) {change : Change} (accepted : change.accepted = true)
    (slugged : change.slug.all slugRe = true) : (change.execute store).2.toDb.Readable := by
  have readable := intact.readable
  cases change with
  | project ties target payload =>
      rw [project_store]
      exact readable_save emailStr readable (.project target ties payload) accepted slugged
  | article ties target authorId payload =>
      rcases article_store ties target authorId payload with ⟨author, same⟩
      rw [same]
      exact readable_save emailStr readable (.article target ties author payload) accepted
        slugged
  | service target payload =>
      rw [service_store]
      exact readable_save emailStr readable (.service target payload) accepted slugged
  | serviceLine target payload =>
      rw [serviceLine_store]
      exact readable_save emailStr readable (.serviceLine target payload) accepted slugged
  | product target payload =>
      rw [product_store]
      exact readable_save emailStr readable (.product target payload) accepted slugged
  | technology target payload =>
      rw [technology_store]
      exact readable_save emailStr readable (.technology target payload) accepted rfl
  | client target payload =>
      rw [client_store]
      exact readable_save emailStr readable (.client target payload) accepted rfl
  | partner target payload =>
      rw [partner_store]
      exact readable_save emailStr readable (.partner target payload) accepted rfl
  | teamMember target payload =>
      rcases teamMember_store target payload with same | saved
      · rw [same]
        exact readable
      · rw [saved]
        exact readable_save emailStr readable (.teamMember target payload) accepted rfl
  | company ties defaults now payload =>
      rw [Change.execute, Program.map_apply, UpdateCompany.execute]
      exact readable_save emailStr readable (.company defaults now ties payload) accepted
        rfl
  | caseStudy ties target payload =>
      rcases caseStudy_store ties target payload with same | saved
      · rw [same]
        exact readable
      · rw [saved]
        exact { readable with }
  | testimonial ties target payload =>
      rcases testimonial_store ties target payload with same | saved
      · rw [same]
        exact readable
      · rw [saved]
        exact { readable with }
  | contact defaults payload =>
      rw [Change.execute, Program.map_apply, SubmitContactRequest.execute]
      exact { readable with }
  | delete delete =>
      rw [Change.execute, Program.map_apply, executeDelete_store]
      exact readable_run intact.keys readable delete

/-! ## What is answered -/

section

omit [EmailStr]

omit [PyUnicode] [Collation] [Mysql] in
/-- The key of a new row is new. -/
theorem notMem_of_freshIn {keys : List UUID} {target : Target}
    (fresh : Change.freshIn keys target = true) :
    ∀ defaults, target = .post defaults → defaults.id ∉ keys := by
  intro defaults posted known
  subst posted
  rw [Change.freshIn, List.contains_iff_mem.mpr known] at fresh
  cases fresh

/-- A save on one table that has only its primary key to clash with. -/
theorem savePlain_isOk {Model Input Entity : Type} {repo : Repository Model Input Entity}
    {part : Lens Store repo.Rows} {target : Target} {data : Input} (steady : repo.Steady)
    (plain : repo.Plain)
    (clash : ∀ first second, repo.clash first second = (repo.key first == repo.key second))
    (fits : repo.Fits data true) (verdict : repo.Verdict data true)
    (checks : ∀ model, repo.checks model = true)
    (fresh : Change.freshIn ((part.get store).rows.map repo.key) target = true) :
    (savePlain repo part target data store).1.isOk = true := by
  exact Repository.save_isOk_of_keys steady plain clash
    ⟨fits.construct, verdict.construct, fun _ => checks _, fun _ => rfl⟩
    ⟨fits.assign, verdict.assign, fun _ _ _ => checks _, fun _ _ _ => rfl⟩
    (notMem_of_freshIn fresh)

/-- A save on one table whose constraints are reported as a conflict. -/
theorem savePlain_anticipates {Model Input Entity : Type} {repo : Repository Model Input Entity}
    {part : Lens Store repo.Rows} {target : Target} {data : Input} (steady : repo.Steady)
    (plain : repo.Plain) (conflict : Anticipated repo.conflict)
    (fits : repo.Fits data true) (verdict : repo.Verdict data true)
    (construct : ∀ defaults, repo.checks (repo.construct defaults data) = true)
    (assign : ∀ now model, repo.checks (repo.touch now (repo.assign data model)) = true) :
    Anticipates (savePlain repo part target data store).1 :=
  anticipates_of_conflict conflict (Repository.save_raises steady plain
    ⟨fits.construct, verdict.construct, construct, fun _ => rfl⟩
    ⟨fits.assign, verdict.assign, fun now model _ => assign now model, fun _ _ _ => rfl⟩)

theorem saveProject_anticipates {ties : Ties} {target : Target} {payload : ProjectWrite}
    (readable : store.toDb.Readable) (accepted : payload.accepted = true)
    (slug : slugRe payload.slug = true) (small : (Payload.project payload).fits = true)
    (unopposed : (Change.project ties target payload).unopposed store = true) :
    Anticipates (saveProject ties target payload store).1 := by
  have fits : ProjectRepository.repository.Fits payload true :=
    small ▸ ProjectRepository.fits accepted
  have verdict : ProjectRepository.repository.Verdict payload true :=
    slug ▸ ProjectRepository.verdict accepted
  have conflict : Anticipated ProjectRepository.repository.conflict := anticipated_conflict _
  refine anticipates_of_conflict conflict ?_
  cases target with
  | post defaults =>
      exact Tagged.save_post_raises ⟨fits.construct, verdict.construct,
        fun _ => ProjectRepository.checks_of_enums rfl rfl, fun _ => rfl⟩ readable.technologies
  | put id now =>
      have selected : ProjectRepository.slugged.taken store.projects.rows id payload.slug = true →
          payload.technologyIds = [] := by
        intro taken
        rw [Change.unopposed, taken, Bool.not_true, Bool.or_false] at unopposed
        exact List.isEmpty_iff.mp unopposed
      exact Tagged.save_put_raises ProjectRepository.steady ProjectRepository.plain
        ⟨fits.assign, verdict.assign,
          fun _ _ _ => ProjectRepository.checks_of_enums rfl rfl, fun _ _ _ => rfl⟩
        readable.technologies selected

theorem createArticle_anticipates {ties : Ties} {defaults : Defaults} {authorId : UUID}
    {payload : ArticleWrite} (readable : store.toDb.Readable) (accepted : payload.accepted = true)
    (slug : slugRe payload.slug = true) (small : (Payload.article authorId payload).fits = true)
    (authored : (store.users.rows.any fun user => user.id == authorId) = true) :
    Anticipates (CreateArticle.execute ties defaults payload authorId store).1 := by
  have fits : ArticleRepository.repository.Fits (authorId, payload) true :=
    small ▸ Payload.article_fits authorId accepted
  have verdict : ArticleRepository.repository.Verdict (authorId, payload) true :=
    slug ▸ ArticleRepository.verdict accepted
  have conflict : Anticipated ArticleRepository.repository.conflict := anticipated_conflict _
  refine anticipates_of_conflict conflict ?_
  exact Tagged.save_post_raises ⟨fits.construct, verdict.construct,
    fun _ => ArticleRepository.checks_of_accepted accepted ⟨rfl, rfl⟩, fun _ => authored⟩
    readable.technologies

/-- The author of a stored article is stored. -/
theorem updateArticle_anticipates {ties : Ties} {id : UUID} {now : Instant} {authorId : UUID}
    {payload : ArticleWrite} (intact : Intact store) (accepted : payload.accepted = true)
    (slug : slugRe payload.slug = true) (small : (Payload.article authorId payload).fits = true)
    (unopposed : (Change.article ties (.put id now) authorId payload).unopposed store = true) :
    Anticipates (UpdateArticle.execute ties id now payload store).1 := by
  have fits : ArticleRepository.repository.Fits ((0 : UUID), payload) true :=
    small ▸ Payload.article_fits 0 accepted
  have verdict : ArticleRepository.repository.Verdict ((0 : UUID), payload) true :=
    slug ▸ ArticleRepository.verdict accepted
  have conflict : Anticipated ArticleRepository.repository.conflict := anticipated_conflict _
  have selected : ArticleRepository.slugged.taken store.articles.rows id payload.slug = true →
      payload.technologyIds = [] := by
    intro taken
    rw [Change.unopposed, taken, Bool.not_true, Bool.or_false] at unopposed
    exact List.isEmpty_iff.mp unopposed
  apply orNotFound_anticipates
  refine anticipates_of_conflict conflict ?_
  exact Tagged.save_put_raises ArticleRepository.steady ArticleRepository.plain
    ⟨fits.assign, verdict.assign,
      fun _ _ _ => ArticleRepository.checks_of_accepted accepted ⟨rfl, rfl⟩,
      fun _ row stored => any_key.mpr (intact.keys.articles row stored)⟩
    intact.readable.technologies selected

theorem saveService_anticipates {target : Target} {payload : ServiceWrite}
    (accepted : payload.accepted = true) (slug : slugRe payload.slug = true) :
    Anticipates (savePlain ServiceRepository.repository Part.services target payload store).1 :=
  savePlain_anticipates ServiceRepository.steady ServiceRepository.plain (anticipated_conflict _)
    (ServiceRepository.fits accepted) (slug ▸ ServiceRepository.verdict) (fun _ => rfl)
    fun _ _ => rfl

theorem saveServiceLine_anticipates {target : Target} {payload : ServiceLineWrite}
    (accepted : payload.accepted = true) (slug : slugRe payload.slug = true)
    (small : (Payload.serviceLine payload).fits = true) :
    Anticipates
      (savePlain ServiceLineRepository.repository Part.serviceLines target payload store).1 :=
  savePlain_anticipates ServiceLineRepository.steady ServiceLineRepository.plain
    (anticipated_conflict _) (small ▸ ServiceLineRepository.fits accepted)
    (slug ▸ ServiceLineRepository.verdict accepted) (fun _ => rfl) fun _ _ => rfl

theorem saveProduct_anticipates {target : Target} {payload : ProductWrite}
    (accepted : payload.accepted = true) (slug : slugRe payload.slug = true)
    (small : (Payload.product payload).fits = true) :
    Anticipates (savePlain ProductRepository.repository Part.products target payload store).1 := by
  have checks : ∀ model : ProductModel, model.status = payload.status.value →
      ProductRepository.repository.checks model = true := by
    intro model same
    have reflexive : ∀ text, Collation.equal text text = true := fun text => beq_self_eq_true _
    simp only [ProductRepository.repository, same]
    cases payload.status <;> simp [ProductStatus.value, reflexive]
  exact savePlain_anticipates ProductRepository.steady ProductRepository.plain
    (anticipated_conflict _) (small ▸ ProductRepository.fits accepted)
    (slug ▸ ProductRepository.verdict accepted) (fun _ => checks _ rfl) fun _ _ => checks _ rfl

/-- The unique key of the names is not reported, so the name has to be free. -/
theorem saveTechnology_isOk {target : Target} {payload : TechnologyWrite}
    (accepted : payload.accepted = true)
    (unopposed : (Change.technology target payload).unopposed store = true) :
    (savePlain TechnologyRepository.repository Part.technologies target payload store).1.isOk =
      true := by
  cases target with
  | post defaults =>
      rcases Bool.and_eq_true_iff.mp unopposed with ⟨fresh, named⟩
      rcases TechnologyRepository.create_eq accepted defaults store.technologies with
        ⟨taken, _⟩ | ⟨_, returned⟩
      · rcases taken with known | held
        · exact absurd (any_key.mp known) (notMem_of_freshIn fresh defaults rfl)
        · rw [held] at named
          cases named
      · exact returned
  | put id now =>
      have free : TechnologyRepository.holdsName store.technologies id payload.name = false := by
        simpa [Change.unopposed] using unopposed
      have saved : (savePlain TechnologyRepository.repository Part.technologies (.put id now)
          payload store).1 = (TechnologyRepository.repository.save (fun _ => true) (.put id now) payload
            store.technologies).1 := rfl
      rw [saved]
      cases found : store.technologies.find? fun row => TechnologyRepository.repository.key row = id
      with
      | none =>
          rw [Repository.save_put_of_none found]
          rfl
      | some model =>
          rcases Table.mem_of_find? found with ⟨member, selected⟩
          have key : TechnologyRepository.repository.key model = id := of_decide_eq_true selected
          subst key
          rw [Repository.save_put member]
          rcases TechnologyRepository.commitChange_eq accepted now member with
            ⟨held, _⟩ | ⟨_, changed, next, committed, converts⟩
          · rw [show TechnologyRepository.holdsName store.technologies model.id payload.name = false
              from free] at held
            cases held
          · rw [committed]
            exact Result.isOk_map.trans converts

theorem saveTeamMember_isOk {target : Target} {payload : TeamMemberWrite}
    (accepted : payload.accepted = true) (small : (Payload.teamMember payload).fits = true)
    (fresh : Change.freshIn (store.teamMembers.rows.map TeamMemberModel.id) target = true)
    (named : (requireUser payload.userId store).1 = .ok ()) :
    (saveTeamMember target payload store).1.isOk = true := by
  have fits : TeamMemberRepository.repository.Fits payload true :=
    small ▸ TeamMemberRepository.fits accepted
  have verdict := TeamMemberRepository.verdict accepted
  have references : ∀ model : TeamMemberModel, model.userId = payload.userId →
      TeamMemberRepository.referenced store.users model = true := by
    intro model same
    rw [TeamMemberRepository.referenced, same]
    cases given : payload.userId with
    | none => rfl
    | some id =>
        rcases requireGiven_ok named id given with ⟨user, found⟩
        rw [Option.all_some, List.any_eq_true]
        simp only [UserRepository.getById] at found
        split at found
        next => cases found
        next row read =>
          rcases Table.mem_of_find? read with ⟨stored, same⟩
          exact ⟨row, stored, same⟩
  exact Repository.save_isOk_of_keys TeamMemberRepository.steady TeamMemberRepository.plain
    (fun _ _ => rfl)
    ⟨fits.construct, verdict.construct, fun _ => rfl, fun _ => references _ rfl⟩
    ⟨fits.assign, verdict.assign, fun _ _ _ => rfl, fun _ _ _ => references _ rfl⟩
    (notMem_of_freshIn fresh)

omit [Collation] [Mysql] [PyUnicode] in
theorem exists_of_readOne {Model Input Entity : Type} {repo : Repository Model Input Entity}
    {selected : List Model} {entity : Entity}
    (found : repo.readOne selected = .ok (some entity)) : ∃ row, row ∈ selected := by
  cases selected with
  | nil => cases found
  | cons row rest => exact ⟨row, List.mem_cons_self⟩

omit [Mysql] in
theorem hasClient_of_getById {id : UUID} {client : Client}
    (found : ClientRepository.getById store.clients id = .ok (some client)) :
    hasClient store.clients id = true := by
  rcases exists_of_readOne found with ⟨row, member⟩
  rcases List.mem_filter.mp member with ⟨stored, same⟩
  exact List.any_eq_true.mpr ⟨row, stored, beq_iff_eq.mpr (of_decide_eq_true same)⟩

omit [Mysql] in
theorem hasProject_of_getById {ties : Ties} {id : UUID} {project : WithTechnologies Project}
    (found : ProjectRepository.getById store.projects store.technologies ties id =
      .ok (some project)) : hasProject store.projects id = true := by
  cases selected : store.projects.rows.rows.filter fun model => model.id = id with
  | nil =>
      rw [ProjectRepository.getById, selected] at found
      cases found
  | cons row rest =>
      have member : row ∈ store.projects.rows.rows.filter fun model => model.id = id := by
        rw [selected]
        exact List.mem_cons_self
      rcases List.mem_filter.mp member with ⟨stored, same⟩
      exact List.any_eq_true.mpr ⟨row, stored, beq_iff_eq.mpr (of_decide_eq_true same)⟩

omit [PyUnicode] [Collation] in
theorem caseStudies_steady : CaseStudyRepository.repository.Steady :=
  .of_plain (fun _ _ => rfl) (fun _ => rfl) (fun _ _ => eq_of_beq)

omit [PyUnicode] [Collation] in
theorem testimonials_steady : TestimonialRepository.repository.Steady :=
  .of_plain (fun _ _ => rfl) (fun _ => rfl) (fun _ _ => eq_of_beq)

theorem saveCaseStudy_isOk {ties : Ties} {target : Target} {payload : CaseStudyWrite}
    (accepted : payload.accepted = true) (small : (Payload.caseStudy payload).fits = true)
    (fresh : Change.freshIn (store.caseStudies.rows.map CaseStudyModel.id) target = true)
    (named : (requireProject ties payload.projectId store).1 = .ok ()) :
    (saveCaseStudy target payload store).1.isOk = true := by
  have fits : CaseStudyRepository.repository.Fits payload true :=
    small ▸ CaseStudyRepository.fits accepted
  rcases require_ok named with ⟨project, found⟩
  have references : ∀ model : CaseStudyModel, model.projectId = payload.projectId →
      caseStudyReferenced store model = true := by
    intro model same
    rw [caseStudyReferenced, same]
    exact hasProject_of_getById found
  exact Repository.save_isOk_of_keys caseStudies_steady CaseStudyRepository.plain
    (fun _ _ => rfl)
    ⟨fits.construct, fun _ => rfl, fun _ => rfl, fun _ => references _ rfl⟩
    ⟨fits.assign, fun _ => rfl, fun _ _ _ => rfl, fun _ _ _ => references _ rfl⟩
    (notMem_of_freshIn fresh)

omit [Mysql] in
theorem validateReferences_ok {ties : Ties} {payload : TestimonialWrite}
    (passed : (validateReferences ties payload store).1 = .ok ()) :
    payload.clientId.all (hasClient store.clients) = true ∧
      payload.projectId.all (hasProject store.projects) = true := by
  rw [validateReferences, Program.bind_apply, requireGiven_store] at passed
  cases clients : (requireGiven "Client not found" payload.clientId
      (fun id (store : Store) => ClientRepository.getById store.clients id) store).1 with
  | error raised =>
      rw [clients] at passed
      cases passed
  | ok value =>
      rw [clients] at passed
      constructor
      · rw [Option.all_eq_true]
        intro id given
        rcases requireGiven_ok clients id given with ⟨client, found⟩
        exact hasClient_of_getById found
      · rw [Option.all_eq_true]
        intro id given
        rcases requireGiven_ok passed id given with ⟨project, found⟩
        exact hasProject_of_getById found

theorem saveTestimonial_isOk {ties : Ties} {target : Target} {payload : TestimonialWrite}
    (accepted : payload.accepted = true)
    (fresh : Change.freshIn (store.testimonials.rows.map TestimonialModel.id) target = true)
    (named : (validateReferences ties payload store).1 = .ok ()) :
    (saveTestimonial target payload store).1.isOk = true := by
  have fits := TestimonialRepository.fits accepted
  rcases validateReferences_ok named with ⟨client, project⟩
  have references : ∀ model : TestimonialModel, model.clientId = payload.clientId →
      model.projectId = payload.projectId → testimonialReferenced store model = true := by
    intro model sameClient sameProject
    rw [testimonialReferenced, sameClient, sameProject, client, project]
    rfl
  have rated := (Bool.and_eq_true_iff.mp accepted).2
  exact Repository.save_isOk_of_keys testimonials_steady TestimonialRepository.plain
    (fun _ _ => rfl)
    ⟨fits.construct, fun _ => rfl, fun _ => rated, fun _ => references _ rfl rfl⟩
    ⟨fits.assign, fun _ => rfl, fun _ _ _ => rated, fun _ _ _ => references _ rfl rfl⟩
    (notMem_of_freshIn fresh)

variable [EmailStr]

omit [Collation] in
theorem updateCompany_isOk
    (built : ∀ value, EmailStr.produces value = true → (Email.postInit value).isOk = true)
    (short : ∀ value, EmailStr.produces value = true → value.length ≤ 254)
    {ties : Ties} {defaults : Defaults} {now : Instant} {payload : CompanyWrite}
    {companies : CompanyRepository.Companies} (accepted : payload.accepted = true)
    (small : (Payload.company payload).fits = true)
    (fresh : Change.freshIn (companies.rows.map CompanyModel.id) (.post defaults) = true) :
    (CompanyRepository.update ties defaults now payload companies).1.isOk = true := by
  have fits : CompanyRepository.repository.Fits payload true :=
    small ▸ CompanyRepository.fits short accepted
  have verdict := CompanyRepository.verdict built accepted
  rcases CompanyRepository.update_eq_save ties defaults now payload companies with
    ⟨target, targets, same, _⟩
  rw [same]
  refine Repository.save_isOk_of_keys CompanyRepository.steady CompanyRepository.plain
    (fun _ _ => rfl)
    ⟨fits.construct, verdict.construct, fun _ => rfl, fun _ => rfl⟩
    ⟨fits.assign, verdict.assign, fun _ _ _ => rfl, fun _ _ _ => rfl⟩ ?_
  intro other posted
  rcases targets with created | ⟨_, _, updated⟩
  · rw [created] at posted
    cases posted
    exact notMem_of_freshIn fresh defaults rfl
  · rw [updated] at posted
    cases posted

theorem submitContactRequest_isOk
    (built : ∀ value, EmailStr.produces value = true → (Email.postInit value).isOk = true)
    (short : ∀ value, EmailStr.produces value = true → value.length ≤ 254)
    {defaults : Defaults} {payload : ContactCreate} (accepted : payload.accepted = true)
    (fresh : Change.freshIn (store.contactRequests.rows.map ContactRequestModel.id)
      (.post defaults) = true) :
    (SubmitContactRequest.execute defaults payload store).1.isOk = true := by
  have stored := ContactRequestRepository.fits short accepted
  have converts : ∀ defaults, (ContactRequestRepository.repository.toEntity
      (ContactRequestRepository.repository.construct defaults payload)).isOk = true := by
    intro defaults
    simp only [ContactCreate.accepted, Bool.and_eq_true] at accepted
    rcases Result.isOk_iff.mp (built payload.email accepted.1.1.1.1.2) with ⟨email, equal⟩
    simp only [ContactRequestRepository.repository, ContactRequestModel.toEntity, equal]
    rfl
  have checks : ∀ defaults, ContactRequestRepository.repository.checks
      (ContactRequestRepository.repository.construct defaults payload) = true := by
    intro defaults
    have reflexive : ∀ text, Collation.equal text text = true := fun text => beq_self_eq_true _
    simp [ContactRequestRepository.repository, ContactStatus.value, reflexive]
  cases ended : (SubmitContactRequest.execute defaults payload store).1 with
  | ok row => rfl
  | error raised =>
      have refused := Repository.save_post_raises
        ⟨stored, converts, checks, fun _ => rfl⟩ ended
      rcases refused.2 with ⟨row, member, same⟩
      have known : defaults.id ∈ store.contactRequests.rows.map ContactRequestModel.id :=
        List.mem_map.mpr ⟨row, member, eq_of_beq same⟩
      exact absurd known (notMem_of_freshIn fresh defaults rfl)

omit [Mysql] [EmailStr] in
theorem executeDelete_anticipates (keys : ForeignKeys store) (delete : Delete) :
    Anticipates (executeDelete delete store).1 := by
  rcases executeDelete_eq delete with ⟨message, same⟩
  rw [same]
  exact orNotDeleted_anticipates message (delete_anticipates keys delete)

theorem execute_anticipates
    (built : ∀ value, EmailStr.produces value = true → (Email.postInit value).isOk = true)
    (short : ∀ value, EmailStr.produces value = true → value.length ≤ 254)
    (intact : Intact store) {change : Change} (accepted : change.accepted = true)
    (sound : Sound store change) : Anticipates (change.execute store).1 := by
  rcases Bool.and_eq_true_iff.mp sound with ⟨formed, unopposed⟩
  rcases Bool.and_eq_true_iff.mp formed with ⟨slug, small⟩
  have readable := intact.readable
  cases change with
  | project ties target payload =>
      have saved := saveProject_anticipates readable accepted slug small unopposed
      cases target with
      | post defaults => exact map_anticipates saved
      | put id now => exact map_anticipates (orNotFound_anticipates _ saved)
  | article ties target authorId payload =>
      cases target with
      | post defaults =>
          exact map_anticipates
            (createArticle_anticipates readable accepted slug small unopposed)
      | put id now =>
          exact map_anticipates
            (updateArticle_anticipates intact accepted slug small unopposed)
  | service target payload =>
      have saved : Anticipates
          (savePlain ServiceRepository.repository Part.services target payload store).1 :=
        saveService_anticipates accepted slug
      cases target with
      | post defaults => exact map_anticipates saved
      | put id now => exact map_anticipates (orNotFound_anticipates _ saved)
  | serviceLine target payload =>
      have saved : Anticipates (savePlain ServiceLineRepository.repository Part.serviceLines
          target payload store).1 := saveServiceLine_anticipates accepted slug small
      cases target with
      | post defaults => exact map_anticipates saved
      | put id now => exact map_anticipates (orNotFound_anticipates _ saved)
  | product target payload =>
      have saved : Anticipates
          (savePlain ProductRepository.repository Part.products target payload store).1 :=
        saveProduct_anticipates accepted slug small
      cases target with
      | post defaults => exact map_anticipates saved
      | put id now => exact map_anticipates (orNotFound_anticipates _ saved)
  | technology target payload =>
      have saved := anticipates_of_isOk (saveTechnology_isOk accepted unopposed)
      cases target with
      | post defaults => exact map_anticipates saved
      | put id now => exact map_anticipates (orNotFound_anticipates _ saved)
  | client target payload =>
      have saved : Anticipates
          (savePlain ClientRepository.repository Part.clients target payload store).1 :=
        anticipates_of_isOk (savePlain_isOk ClientRepository.steady ClientRepository.plain
          (fun _ _ => rfl) (ClientRepository.fits accepted)
          (ClientRepository.verdict accepted) (fun _ => rfl) unopposed)
      cases target with
      | post defaults => exact map_anticipates saved
      | put id now => exact map_anticipates (orNotFound_anticipates _ saved)
  | partner target payload =>
      have saved : Anticipates
          (savePlain PartnerRepository.repository Part.partners target payload store).1 :=
        anticipates_of_isOk (savePlain_isOk PartnerRepository.steady PartnerRepository.plain
          (fun _ _ => rfl) (PartnerRepository.fits accepted)
          (PartnerRepository.verdict accepted) (fun _ => rfl) unopposed)
      cases target with
      | post defaults => exact map_anticipates saved
      | put id now => exact map_anticipates (orNotFound_anticipates _ saved)
  | teamMember target payload =>
      rcases Bool.and_eq_true_iff.mp unopposed with ⟨fresh, user⟩
      have kept : (requireUser payload.userId store).2 = store := requireGiven_store _ _ _
      have named : Anticipates (requireUser payload.userId store).1 := by
        apply requireGiven_anticipates
        intro id given
        rw [given] at user
        exact user
      have saved : ∀ value, (requireUser payload.userId store).1 = .ok value →
          Anticipates (saveTeamMember target payload store).1 := fun value passed =>
        anticipates_of_isOk (saveTeamMember_isOk accepted small fresh passed)
      cases target with
      | post defaults => exact map_anticipates (bind_anticipates kept named saved)
      | put id now =>
          exact map_anticipates (bind_anticipates kept named fun value passed =>
            orNotFound_anticipates _ (saved value passed))
  | company ties defaults now payload =>
      exact map_anticipates
        (anticipates_of_isOk (updateCompany_isOk built short accepted small unopposed))
  | caseStudy ties target payload =>
      have kept : (requireProject ties payload.projectId store).2 = store := require_store _ _
      have named : Anticipates (requireProject ties payload.projectId store).1 :=
        require_anticipates _
          (ProjectRepository.getById_isOk readable.technologies readable.projects)
      have saved : ∀ value, (requireProject ties payload.projectId store).1 = .ok value →
          Anticipates (saveCaseStudy target payload store).1 := fun value passed =>
        anticipates_of_isOk (saveCaseStudy_isOk accepted small unopposed passed)
      cases target with
      | post defaults => exact map_anticipates (bind_anticipates kept named saved)
      | put id now =>
          refine map_anticipates (bind_anticipates (require_store _ _)
            (require_anticipates _ CaseStudyRepository.getById_isOk) fun _ _ => ?_)
          exact bind_anticipates kept named fun value passed =>
            orNotFound_anticipates _ (saved value passed)
  | testimonial ties target payload =>
      have kept : (validateReferences ties payload store).2 = store :=
        validateReferences_store ties payload
      have named : Anticipates (validateReferences ties payload store).1 := by
        rw [validateReferences]
        apply bind_anticipates (requireGiven_store _ _ _)
        · exact requireGiven_anticipates _ _ fun id _ =>
            ClientRepository.getById_isOk readable.clients
        · intro _ _
          exact requireGiven_anticipates _ _ fun id _ =>
            ProjectRepository.getById_isOk readable.technologies readable.projects
      have saved : ∀ value, (validateReferences ties payload store).1 = .ok value →
          Anticipates (saveTestimonial target payload store).1 := fun value passed =>
        anticipates_of_isOk (saveTestimonial_isOk accepted unopposed passed)
      cases target with
      | post defaults => exact map_anticipates (bind_anticipates kept named saved)
      | put id now =>
          exact map_anticipates (bind_anticipates kept named fun value passed =>
            orNotFound_anticipates _ (saved value passed))
  | contact defaults payload =>
      exact map_anticipates
        (anticipates_of_isOk (submitContactRequest_isOk built short accepted unopposed))
  | delete delete => exact map_anticipates (executeDelete_anticipates intact.keys delete)

/-! ## Runs -/

theorem intact_step
    (built : ∀ value, EmailStr.produces value = true → (Email.postInit value).isOk = true)
    {next : Store} {change : Change} (intact : Intact store) (sound : Sound store change)
    (stepped : site store change = some next) : Intact next := by
  simp only [site] at stepped
  split at stepped
  next accepted =>
    cases stepped
    have slug := (Bool.and_eq_true_iff.mp (Bool.and_eq_true_iff.mp sound).1).1
    exact ⟨foreignKeys_execute intact.keys change, readable_execute built intact accepted slug⟩
  next => cases stepped

end

end

namespace Sample

open Content.Sample (unicode collation mysql emailStr)

attribute [local instance] unicode collation mysql emailStr

theorem produced {value : String} (produces : EmailStr.produces value = true) :
    value = "contact@ch-tech.dev" := eq_of_beq produces

def deleteProject : Change := .delete (.project (fun _ => 0) 1)

end Sample

end ChTech.Application
