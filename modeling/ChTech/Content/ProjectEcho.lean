import ChTech.Content.Payloads
import ChTech.Content.ProjectList
import ChTech.Content.Updates

/-!
# What a project request answers

A payload becomes the input of the repository, the input a row, the row an entity and the
entity a response.  The response to a later lookup has every field of the payload, and the
technologies that were asked for.
-/

namespace ChTech.Content

open Foundation

open TechnologyRepository (Technologies)

structure TechnologySummary where
  id : UUID
  name : String
  category : Option String
  deriving DecidableEq, Repr

structure ProjectDetail where
  id : UUID
  slug : String
  title : String
  shortDescription : Option String
  fullDescription : Option String
  repositoryUrl : Option String
  liveDemoUrl : Option String
  coverImage : Option String
  status : String
  visibility : String
  featured : Bool
  startedAt : Option Date
  finishedAt : Option Date
  technologies : List TechnologySummary
  createdAt : Instant
  updatedAt : Instant
  deriving DecidableEq, Repr

/-- The technology, as far as a response shows it. -/
def TechnologyModel.summary (model : TechnologyModel) : TechnologySummary :=
  ⟨model.id, model.name, model.category⟩

/-- The response that repeats a payload. -/
def ProjectWrite.echo (payload : ProjectWrite) (id : UUID) (createdAt updatedAt : Instant)
    (technologies : List TechnologySummary) : ProjectDetail where
  id
  slug := payload.slug
  title := payload.title
  shortDescription := payload.shortDescription
  fullDescription := payload.fullDescription
  repositoryUrl := payload.repositoryUrl
  liveDemoUrl := payload.liveDemoUrl
  coverImage := payload.coverImage
  status := payload.status.value
  visibility := payload.visibility.value
  featured := payload.featured
  startedAt := payload.startedAt
  finishedAt := payload.finishedAt
  technologies
  createdAt
  updatedAt

/-- The stored technologies with one of the given ids, each of them once. -/
def chosen (technologies : List TechnologyModel) (technologyIds : List UUID) :
    List TechnologySummary :=
  (technologies.filter fun technology => technologyIds.contains technology.id).map
    TechnologyModel.summary

section

variable [PyUnicode]

/-- `_to_technology_summary`. -/
def toTechnologySummary (technology : Technology) : TechnologySummary where
  id := technology.id
  name := technology.name
  category := technology.category

/-- `_to_detail`. -/
def toDetail (row : WithTechnologies Project) : ProjectDetail where
  id := row.entity.id
  slug := row.entity.slug.value
  title := row.entity.title
  shortDescription := row.entity.shortDescription
  fullDescription := row.entity.fullDescription
  repositoryUrl := row.entity.repositoryUrl.map Url.value
  liveDemoUrl := row.entity.liveDemoUrl.map Url.value
  coverImage := row.entity.coverImage.map Image.value
  status := row.entity.status.value
  visibility := row.entity.visibility.value
  featured := row.entity.featured
  startedAt := row.entity.startedAt
  finishedAt := row.entity.finishedAt
  technologies := row.technologies.map toTechnologySummary
  createdAt := row.entity.createdAt
  updatedAt := row.entity.updatedAt

/-- `_to_project_input`; the input of the port has the fields of the payload. -/
def toProjectInput (payload : ProjectWrite) : Except Raised ProjectWrite := do
  let status ← ProjectStatus.ofValue payload.status.value
  let visibility ← Visibility.ofValue payload.visibility.value
  return {
    slug := payload.slug
    title := payload.title
    shortDescription := payload.shortDescription
    fullDescription := payload.fullDescription
    repositoryUrl := payload.repositoryUrl
    liveDemoUrl := payload.liveDemoUrl
    coverImage := payload.coverImage
    status
    visibility
    featured := payload.featured
    startedAt := payload.startedAt
    finishedAt := payload.finishedAt
    technologyIds := payload.technologyIds }

omit [PyUnicode] in
theorem toProjectInput_eq (payload : ProjectWrite) : toProjectInput payload = .ok payload := by
  simp only [toProjectInput, ProjectStatus.ofValue_value, Visibility.ofValue_value]
  rfl

/-- The response that shows a row. -/
def ProjectModel.detail (model : ProjectModel) (technologies : List TechnologySummary) :
    ProjectDetail where
  id := model.id
  slug := model.slug
  title := model.title
  shortDescription := model.shortDescription
  fullDescription := model.fullDescription
  repositoryUrl := model.repositoryUrl
  liveDemoUrl := model.liveDemoUrl
  coverImage := model.coverImage
  status := model.status
  visibility := model.visibility
  featured := model.featured
  startedAt := model.startedAt
  finishedAt := model.finishedAt
  technologies
  createdAt := model.createdAt
  updatedAt := model.updatedAt

omit [PyUnicode] in
/-- An optional field comes back as it was, unless it was empty. -/
theorem map_value_of_orNone {α : Type} {build : String → Except Raised α} {value : α → String}
    {given : Option String} {result : Option α}
    (keeps : ∀ text built, build text = .ok built → value built = text)
    (nonempty : given ≠ some "") (converted : orNone build given = .ok result) :
    result.map value = given := by
  cases given with
  | none =>
      cases converted
      rfl
  | some text =>
      simp only [orNone] at converted
      split at converted
      next empty =>
        rw [String.isEmpty_iff.mp empty] at nonempty
        exact (nonempty rfl).elim
      next =>
        rcases Result.map_eq_ok.mp converted with ⟨built, builds, equal⟩
        rw [← equal, Option.map_some, keeps text built builds]

/-- The empty text is no URL. -/
theorem ne_empty_of_isUrl {value : Option String} (valid : ifGiven isUrl value = true) :
    value ≠ some "" := by
  intro same
  subst same
  have refused : isUrl "" = false := rfl
  rw [ifGiven, Option.all_some, refused] at valid
  cases valid

theorem ne_empty_of_isImage {value : Option String} (valid : ifGiven isImage value = true) :
    value ≠ some "" := by
  intro same
  subst same
  have refused : isImage "" = false := rfl
  rw [ifGiven, Option.all_some, refused] at valid
  cases valid

/-- A row whose URLs are not empty is shown as it is. -/
theorem toDetail_eq {model : ProjectModel} {entity : Project} {technologies : List Technology}
    (repositoryUrl : model.repositoryUrl ≠ some "") (liveDemoUrl : model.liveDemoUrl ≠ some "")
    (coverImage : model.coverImage ≠ some "") (converted : model.toEntity = .ok entity) :
    toDetail ⟨entity, technologies⟩ = model.detail (technologies.map toTechnologySummary) := by
  rcases Result.bind_eq_ok.mp converted with ⟨slug, slugged, converted⟩
  rcases Result.bind_eq_ok.mp converted with ⟨repository, repositoryBuilt, converted⟩
  rcases Result.bind_eq_ok.mp converted with ⟨liveDemo, liveDemoBuilt, converted⟩
  rcases Result.bind_eq_ok.mp converted with ⟨cover, coverBuilt, converted⟩
  rcases Result.bind_eq_ok.mp converted with ⟨status, statusFound, converted⟩
  rcases Result.bind_eq_ok.mp converted with ⟨visibility, visibilityFound, last⟩
  cases last
  have sameSlug : slug.value = model.slug := (Slug.postInit_eq_ok slugged).1
  have sameStatus : status.value = model.status := ofMembers_eq_ok statusFound
  have sameVisibility : visibility.value = model.visibility := ofMembers_eq_ok visibilityFound
  have sameRepository : repository.map Url.value = model.repositoryUrl :=
    map_value_of_orNone (fun _ _ => Url.postInit_eq_ok) repositoryUrl repositoryBuilt
  have sameLiveDemo : liveDemo.map Url.value = model.liveDemoUrl :=
    map_value_of_orNone (fun _ _ => Url.postInit_eq_ok) liveDemoUrl liveDemoBuilt
  have sameCover : cover.map Image.value = model.coverImage :=
    map_value_of_orNone (fun _ _ => Image.postInit_eq_ok) coverImage coverBuilt
  simp only [toDetail, ProjectModel.detail, sameSlug, sameStatus, sameVisibility, sameRepository,
    sameLiveDemo, sameCover]

/-- A technology is shown as the row it is made from. -/
theorem toTechnologySummary_eq {model : TechnologyModel} {technology : Technology}
    (converted : model.toEntity = .ok technology) :
    toTechnologySummary technology = model.summary := by
  rcases Result.bind_eq_ok.mp converted with ⟨icon, _, converted⟩
  rcases Result.bind_eq_ok.mp converted with ⟨officialUrl, _, last⟩
  cases last
  rfl

variable [Collation]

/-- `get_by_id`, and what the endpoint makes of it. -/
def getDetail (ties : Ties) (db : Db) (projectId : UUID) : Except Raised (Option ProjectDetail) :=
  (ProjectRepository.getById db.projects db.technologies ties projectId).map fun row =>
    row.map toDetail

variable [Mysql]

/-- `POST` and `PUT` of a payload. -/
def saveProject (ties : Ties) (target : Target) (payload : ProjectWrite) :
    Program Db Raised (Option (WithTechnologies Project)) := fun db =>
  match toProjectInput payload with
  | .error raised => (.error raised, db)
  | .ok data =>
      let (saved, projects) := Tagged.save db.technologies ties data.technologyIds
        (fun _ => true) target data db.projects
      (saved, { db with projects })

theorem saveProject_eq (ties : Ties) (target : Target) (payload : ProjectWrite) (db : Db) :
    saveProject ties target payload db =
      ((Tagged.save db.technologies ties payload.technologyIds (fun _ => true) target payload
        db.projects).1, { db with
          projects := (Tagged.save db.technologies ties payload.technologyIds (fun _ => true)
            target payload db.projects).2 }) := by
  simp only [saveProject, toProjectInput_eq]

/-- What a full replacement of a stored project comes to. -/
structure Replaces (payload : ProjectWrite) (old : ProjectModel) (before : Db)
    (ended : Except Raised (Option (WithTechnologies Project)) × Db) : Prop where
  returned : ended.1.isOk = true
  /-- A later lookup repeats the payload. -/
  echoed : ∀ ties, ∃ updatedAt technologies,
    getDetail ties ended.2 old.id =
        .ok (some (payload.echo old.id old.createdAt updatedAt technologies)) ∧
      technologies.Perm (chosen before.technologies.rows payload.technologyIds)
  /-- One row has changed, and not in these columns. -/
  kept : ∃ row : ProjectModel, row.id = old.id ∧ row.clientId = old.clientId ∧
    row.createdAt = old.createdAt ∧ ended.2.projects.rows.rows =
      before.projects.rows.rows.map fun other => if other.id = old.id then row else other
  links : (ended.2.projects.links.rows.filter fun link => link.1 != old.id) =
    before.projects.links.rows.filter fun link => link.1 != old.id
  others : { ended.2 with projects := before.projects } = before
  /-- The same payload again changes nothing. -/
  again : ∀ ties now, (saveProject ties (.put old.id now) payload ended.2).1.isOk = true ∧
    (saveProject ties (.put old.id now) payload ended.2).2 = ended.2

/-- What the creation of a project comes to. -/
structure Creates (payload : ProjectWrite) (defaults : Defaults) (before : Db)
    (ended : Except Raised (Option (WithTechnologies Project)) × Db) : Prop where
  returned : ended.1.isOk = true
  echoed : ∀ ties, ∃ technologies,
    getDetail ties ended.2 defaults.id = .ok (some (payload.echo defaults.id
        defaults.createdAt defaults.updatedAt technologies)) ∧
      technologies.Perm (chosen before.technologies.rows payload.technologyIds)
  stored : ∃ row : ProjectModel, row.id = defaults.id ∧ row.clientId = none ∧
    ended.2.projects.rows.rows = before.projects.rows.rows ++ [row]
  links : (ended.2.projects.links.rows.filter fun link => link.1 != defaults.id) =
    before.projects.links.rows
  others : { ended.2 with projects := before.projects } = before

omit [Mysql] in
/-- A stored project is shown as it is, with the technologies that it is linked to. -/
theorem getDetail_eq {db : Db} {model : ProjectModel} {technologyIds : List UUID}
    (member : model ∈ db.projects.rows.rows) (repositoryUrl : model.repositoryUrl ≠ some "")
    (liveDemoUrl : model.liveDemoUrl ≠ some "") (coverImage : model.coverImage ≠ some "")
    (linked : ∀ technology ∈ db.technologies.rows,
      (model.id, technology.id) ∈ db.projects.links.rows ↔ technology.id ∈ technologyIds)
    (readable : converts ProjectRepository.repository db.technologies technologyIds model = true)
    (ties : Ties) : ∃ technologies,
      getDetail ties db model.id = .ok (some (model.detail technologies)) ∧
        technologies.Perm (chosen db.technologies.rows technologyIds) := by
  have found : ProjectRepository.getById db.projects db.technologies ties model.id =
      (db.projects.toRow db.technologies ties model).map some := Tagged.readOne_of_mem member
  have returned : (db.projects.toRow db.technologies ties model).isOk = true := by
    rw [toRow_isOk_of_links linked]
    exact readable
  rcases Result.isOk_iff.mp returned with ⟨row, converted⟩
  rcases Tagged.toRow_eq_ok converted with ⟨entity, technologies⟩
  refine ⟨row.technologies.map toTechnologySummary, ?_, ?_⟩
  · rw [getDetail, found, converted, ← toDetail_eq repositoryUrl liveDemoUrl coverImage entity]
    rfl
  · rw [Result.map_of_mapM (fun _ _ => toTechnologySummary_eq) technologies]
    exact (Tagged.technologiesOf_perm linked).map TechnologyModel.summary

/-! ## Replacing -/

section

variable {payload : ProjectWrite} {old : ProjectModel} {db : Db} {ties : Ties} {now : Instant}

/-- The payload leaves the row as it is. -/
def unaltered (payload : ProjectWrite) (old : ProjectModel) : Bool :=
  ProjectRepository.repository.same old (ProjectRepository.repository.assign payload old)

/-- The description fits its column. -/
def describes (payload : ProjectWrite) : Bool := (Cell.text payload.fullDescription).storable

omit [PyUnicode] [Collation] [Mysql] in
/-- Links of other owners stay. -/
theorem relinked_others {links : Links} {owner : UUID} {loaded assigned : List UUID} :
    ((relinked links owner loaded assigned).filter fun link => link.1 != owner) =
      links.rows.filter fun link => link.1 != owner := by
  rw [relinked, List.filter_append, List.filter_filter]
  have added : (((assigned.filter fun technologyId => !loaded.contains technologyId).map
      fun technologyId => (owner, technologyId)).filter fun link => link.1 != owner) = [] := by
    apply List.filter_eq_nil_iff.mpr
    intro link member
    rcases List.mem_map.mp member with ⟨technologyId, _, rfl⟩
    simp
  rw [added, List.append_nil]
  apply List.filter_congr
  intro link _
  cases own : link.1 == owner with
  | true => simp [bne, own]
  | false => simp [bne, own]

/-- What the row becomes. -/
def replacement (payload : ProjectWrite) (old : ProjectModel) (updatedAt : Instant) :
    ProjectModel :=
  { ProjectRepository.repository.assign payload old with updatedAt }

omit [Mysql] in
/-- The links of the project are those that were asked for. -/
theorem linked_of_relinked {links : Links}
    (relinks : links.rows = relinked db.projects.links old.id
      (loadedIds db.projects db.technologies ties old.id)
      (Tagged.getTechnologies db.technologies payload.technologyIds)) :
    ∀ technology ∈ db.technologies.rows,
      (old.id, technology.id) ∈ links.rows ↔ technology.id ∈ payload.technologyIds := by
  intro technology stored
  rw [relinks]
  exact mem_relinked stored

/-- The row that an update leaves, in the place of the old one. -/
theorem Rewritten.project {rows next : ProjectRepository.repository.Rows} {changed : ProjectModel}
    (member : old ∈ rows.rows)
    (rewritten : Rewritten ProjectRepository.repository now payload old rows next changed) :
    (∃ updatedAt, changed = replacement payload old updatedAt) ∧
      next.rows = rows.rows.map fun other => if other.id = old.id then changed else other := by
  cases rewritten with
  | unchanged same kept =>
      have equal : old = ProjectRepository.repository.assign payload old := eq_of_beq same
      refine ⟨⟨old.updatedAt, rfl⟩, ?_⟩
      rw [kept]
      exact ((map_written_eq_iff member).mpr equal.symm).symm
  | updated _ _ written => exact ⟨⟨now, rfl⟩, written⟩

omit [Mysql] in
theorem replacement_again (updatedAt : Instant) :
    unaltered payload (replacement payload old updatedAt) = true := by
  apply beq_iff_eq.mpr
  rfl

theorem replacement_converts (accepted : payload.accepted = true)
    (valid : slugRe payload.slug = true)
    (readable : readableChoice db.technologies payload.technologyIds = true)
    (old : ProjectModel) (updatedAt : Instant) :
    converts ProjectRepository.repository db.technologies payload.technologyIds
      (replacement payload old updatedAt) = true := by
  have own : (ProjectRepository.repository.toEntity (replacement payload old updatedAt)).isOk =
      slugRe payload.slug := (ProjectRepository.steady.touch updatedAt _).trans
    ((ProjectRepository.verdict accepted).assign old)
  rw [converts, own, valid, Bool.true_and]
  exact readable

/-- A payload that the project has already changes nothing. -/
theorem saveProject_again (member : old ∈ db.projects.rows.rows)
    (same : unaltered payload old = true)
    (linked : ∀ technology ∈ db.technologies.rows,
      (old.id, technology.id) ∈ db.projects.links.rows ↔ technology.id ∈ payload.technologyIds)
    (readable : converts ProjectRepository.repository db.technologies payload.technologyIds old =
      true) :
    (saveProject ties (.put old.id now) payload db).1.isOk = true ∧
      (saveProject ties (.put old.id now) payload db).2 = db := by
  have equal : old = ProjectRepository.repository.assign payload old := eq_of_beq same
  have kept : ProjectRepository.repository.updateRow (fun _ => true) now old
      (ProjectRepository.repository.assign payload old) db.projects.rows =
        .ok (ProjectRepository.repository.assign payload old, db.projects.rows) :=
    updateRow_same same db.projects.rows
  have committed : ∃ links : Links,
      links.rows = relinked db.projects.links old.id
        (loadedIds db.projects db.technologies ties old.id)
        (Tagged.getTechnologies db.technologies payload.technologyIds) ∧
      db.projects.commitChange db.technologies ties payload.technologyIds (fun _ => true) now old
        payload = .ok (ProjectRepository.repository.assign payload old,
          ⟨db.projects.rows, links⟩) := commitChange_ok kept
  rcases committed with ⟨links, relinks, committed⟩
  have unlinked : LinksKept db.technologies payload.technologyIds db.projects old.id :=
    fun technology stored => (linked technology stored).symm
  rw [relinked_eq_iff.mpr unlinked] at relinks
  have next : (⟨db.projects.rows, links⟩ : ProjectRepository.Projects) = db.projects :=
    tagged_eq_iff.mpr ⟨rfl, relinks⟩
  have saved : Tagged.save db.technologies ties payload.technologyIds (fun _ => true)
      (.put old.id now) payload db.projects =
        ((db.projects.toRow db.technologies ties old).map some, db.projects) := by
    rw [← equal, next] at committed
    refine (save_put member).trans ?_
    rw [committed]
  rw [saveProject_eq, saved]
  refine ⟨?_, rfl⟩
  rw [Result.isOk_map, toRow_isOk_of_links linked]
  exact readable

theorem replaces_of_saved (accepted : payload.accepted = true)
    (valid : slugRe payload.slug = true)
    (readable : readableChoice db.technologies payload.technologyIds = true)
    (member : old ∈ db.projects.rows.rows) {answer : WithTechnologies Project}
    {changed : ProjectModel} {next : ProjectRepository.Projects}
    (saved : Saved db.technologies ties payload.technologyIds now payload old db.projects next
      answer changed) :
    Replaces payload old db (.ok (some answer), { db with projects := next }) := by
  rcases saved.rows.project member with ⟨⟨updatedAt, rfl⟩, rows⟩
  have linked := linked_of_relinked saved.links
  have stored : replacement payload old updatedAt ∈
      ({ db with projects := next } : Db).projects.rows.rows := by
    change _ ∈ next.rows.rows
    rw [rows]
    exact List.mem_map.mpr ⟨old, member, if_pos rfl⟩
  have converts := replacement_converts accepted valid readable old updatedAt
  have fields := accepted
  simp only [ProjectWrite.accepted, Bool.and_eq_true] at fields
  rcases fields with ⟨⟨⟨_, repositoryUrl⟩, liveDemoUrl⟩, coverImage⟩
  constructor
  · rfl
  · intro ties
    rcases getDetail_eq stored (ne_empty_of_isUrl repositoryUrl) (ne_empty_of_isUrl liveDemoUrl)
      (ne_empty_of_isImage coverImage) linked converts ties with ⟨technologies, shown, chosen⟩
    exact ⟨updatedAt, technologies, shown, chosen⟩
  · exact ⟨replacement payload old updatedAt, rfl, rfl, rfl, rows⟩
  · change (next.links.rows.filter _) = _
    rw [saved.links]
    exact relinked_others
  · rfl
  · intro ties now
    have again : (saveProject ties (.put (replacement payload old updatedAt).id now) payload
        { db with projects := next }).1.isOk = true ∧
      (saveProject ties (.put (replacement payload old updatedAt).id now) payload
        { db with projects := next }).2 = { db with projects := next } :=
      saveProject_again stored (replacement_again updatedAt) linked converts
    exact again

omit [Mysql] in
/-- The columns of enumerations hold their values. -/
theorem ProjectRepository.checks_of_enums {model : ProjectModel} {status : ProjectStatus}
    {visibility : Visibility} (sameStatus : model.status = status.value)
    (sameVisibility : model.visibility = visibility.value) :
    repository.checks model = true := by
  have reflexive : ∀ text, Collation.equal text text = true := fun text => beq_self_eq_true _
  simp only [repository, sameStatus, sameVisibility, Bool.and_eq_true]
  constructor
  · cases status <;> simp [ProjectStatus.value, reflexive]
  · cases visibility <;> simp [Visibility.value, reflexive]

theorem save_isOk_iff (accepted : payload.accepted = true) (valid : slugRe payload.slug = true)
    (member : old ∈ db.projects.rows.rows)
    (free : ProjectRepository.slugged.taken db.projects.rows old.id payload.slug = false) :
    (Tagged.save db.technologies ties payload.technologyIds (fun _ => true) (.put old.id now)
        payload db.projects).1.isOk = true ↔
      (unaltered payload old = true ∨ describes payload = true) ∧
        readableChoice db.technologies payload.technologyIds = true := by
  have returns : (Tagged.save db.technologies ties payload.technologyIds (fun _ => true)
        (.put old.id now) payload db.projects).1.isOk = true ↔
      (unaltered payload old = true ∨ _ ∧ _) ∧ slugRe payload.slug = true ∧ _ :=
    put_isOk_iff ProjectRepository.steady (ProjectRepository.verdict accepted) member rfl free
  have stored := (ProjectRepository.fits accepted).assign old
  have checks : ProjectRepository.repository.checks
      (ProjectRepository.slugged.touched now payload old) = true :=
    ProjectRepository.checks_of_enums rfl rfl
  have fits : ((ProjectRepository.repository.cells
      (ProjectRepository.slugged.touched now payload old)).all Cell.storable = true ∧
        ProjectRepository.repository.checks
          (ProjectRepository.slugged.touched now payload old) = true) ↔
      describes payload = true := by
    rw [describes, ← stored]
    exact and_iff_left checks
  rw [returns, fits, and_iff_right valid]

theorem replaces_iff (accepted : payload.accepted = true) (valid : slugRe payload.slug = true)
    (member : old ∈ db.projects.rows.rows)
    (free : ProjectRepository.slugged.taken db.projects.rows old.id payload.slug = false) :
    Replaces payload old db (saveProject ties (.put old.id now) payload db) ↔
      (unaltered payload old = true ∨ describes payload = true) ∧
        readableChoice db.technologies payload.technologyIds = true := by
  rw [saveProject_eq]
  constructor
  · intro replaces
    exact (save_isOk_iff accepted valid member free).mp replaces.returned
  · intro settled
    have returned : (Tagged.save db.technologies ties payload.technologyIds (fun _ => true)
        (.put old.id now) payload db.projects).1.isOk = true :=
      (save_isOk_iff accepted valid member free).mpr settled
    rcases Result.isOk_iff.mp returned with ⟨row, returned⟩
    rcases Saved.of_save member (Prod.ext returned rfl) with ⟨answer, changed, rfl, saved⟩
    rw [returned]
    exact replaces_of_saved accepted valid settled.2 member saved

end

/-! ## Creating -/

section

variable {payload : ProjectWrite} {db : Db} {ties : Ties} {defaults : Defaults}

/-- What a create makes of a payload. -/
def creation (payload : ProjectWrite) (defaults : Defaults) : ProjectModel :=
  ProjectRepository.repository.construct defaults payload

omit [Mysql] in
theorem linked_of_added {links : Links} (unlinked : ∀ link ∈ db.projects.links.rows,
      link.1 ≠ defaults.id)
    (added : links.rows = db.projects.links.rows ++
      (Tagged.getTechnologies db.technologies payload.technologyIds).map
        fun technologyId => (defaults.id, technologyId)) :
    ∀ technology ∈ db.technologies.rows,
      ((creation payload defaults).id, technology.id) ∈ links.rows ↔
        technology.id ∈ payload.technologyIds := by
  intro technology stored
  rw [added]
  exact mem_added unlinked stored

omit [Mysql] in
theorem creation_converts (accepted : payload.accepted = true)
    (valid : slugRe payload.slug = true)
    (readable : readableChoice db.technologies payload.technologyIds = true)
    (defaults : Defaults) : converts ProjectRepository.repository db.technologies
      payload.technologyIds (creation payload defaults) = true := by
  have own : (ProjectRepository.repository.toEntity (creation payload defaults)).isOk =
      slugRe payload.slug := (ProjectRepository.verdict accepted).construct defaults
  rw [converts, own, valid, Bool.true_and]
  exact readable

theorem creates_of_added (accepted : payload.accepted = true)
    (valid : slugRe payload.slug = true)
    (readable : readableChoice db.technologies payload.technologyIds = true)
    (unlinked : ∀ link ∈ db.projects.links.rows, link.1 ≠ defaults.id)
    {answer : WithTechnologies Project} {next : ProjectRepository.Projects}
    (added : Added db.technologies ties payload.technologyIds defaults payload db.projects next
      answer) : Creates payload defaults db (.ok (some answer), { db with projects := next }) := by
  have stored : creation payload defaults ∈
      ({ db with projects := next } : Db).projects.rows.rows := by
    change _ ∈ next.rows.rows
    rw [added.rows]
    exact List.mem_append_right _ (List.mem_singleton_self _)
  have linked := linked_of_added unlinked added.links
  have converts := creation_converts accepted valid readable defaults
  have fields := accepted
  simp only [ProjectWrite.accepted, Bool.and_eq_true] at fields
  rcases fields with ⟨⟨⟨_, repositoryUrl⟩, liveDemoUrl⟩, coverImage⟩
  constructor
  · rfl
  · intro ties
    rcases getDetail_eq stored (ne_empty_of_isUrl repositoryUrl) (ne_empty_of_isUrl liveDemoUrl)
      (ne_empty_of_isImage coverImage) linked converts ties with ⟨technologies, shown, chosen⟩
    exact ⟨technologies, shown, chosen⟩
  · exact ⟨creation payload defaults, rfl, rfl, added.rows⟩
  · change (next.links.rows.filter _) = _
    rw [added.links, List.filter_append]
    have own : (((Tagged.getTechnologies db.technologies payload.technologyIds).map
        fun technologyId => (defaults.id, technologyId)).filter
          fun link => link.1 != defaults.id) = [] := by
      apply List.filter_eq_nil_iff.mpr
      intro link member
      rcases List.mem_map.mp member with ⟨technologyId, _, rfl⟩
      simp
    have kept : (db.projects.links.rows.filter fun link => link.1 != defaults.id) =
        db.projects.links.rows := by
      apply List.filter_eq_self.mpr
      intro link member
      exact bne_iff_ne.mpr (unlinked link member)
    exact (congrArg _ own).trans ((List.append_nil _).trans kept)
  · rfl

theorem creates_iff (accepted : payload.accepted = true) (valid : slugRe payload.slug = true)
    (new : ∀ row ∈ db.projects.rows.rows, row.id ≠ defaults.id)
    (unlinked : ∀ link ∈ db.projects.links.rows, link.1 ≠ defaults.id)
    (free : ∀ row ∈ db.projects.rows.rows, Collation.equal row.slug payload.slug = false) :
    Creates payload defaults db (saveProject ties (.post defaults) payload db) ↔
      describes payload = true ∧ readableChoice db.technologies payload.technologyIds = true := by
  have stored := (ProjectRepository.fits accepted).construct defaults
  have apart : ∀ row ∈ db.projects.rows.rows, ProjectRepository.repository.clash row
      (ProjectRepository.repository.stored (creation payload defaults)) = false := by
    intro row member
    exact Bool.or_eq_false_iff.mpr ⟨beq_eq_false_iff_ne.mpr (new row member), free row member⟩
  have returns : (Tagged.save db.technologies ties payload.technologyIds (fun _ => true)
        (.post defaults) payload db.projects).1.isOk = true ↔
      describes payload = true ∧
        readableChoice db.technologies payload.technologyIds = true := by
    rw [post_isOk_iff (ProjectRepository.verdict accepted)
      (ProjectRepository.checks_of_enums rfl rfl) rfl apart unlinked, stored, describes,
      and_iff_right valid]
  rw [saveProject_eq]
  constructor
  · intro creates
    exact returns.mp creates.returned
  · intro settled
    rcases Result.isOk_iff.mp (returns.mpr settled) with ⟨row, returned⟩
    rcases Added.of_save unlinked (Prod.ext returned rfl) with ⟨answer, rfl, added⟩
    rw [returned]
    exact creates_of_added accepted valid settled.2 unlinked added

end

/-- With a slug that no other project holds, `PUT` is a full replacement and `POST` a creation
that later lookups repeat, if and only if the description fits its column, or nothing is to
be written, and the technologies that are asked for can be read back. -/
theorem project_echo_iff {payload : ProjectWrite} (accepted : payload.accepted = true)
    (valid : slugRe payload.slug = true) (db : Db) (ties : Ties) :
    (∀ old ∈ db.projects.rows.rows, ∀ now,
      ProjectRepository.slugged.taken db.projects.rows old.id payload.slug = false →
        (Replaces payload old db (saveProject ties (.put old.id now) payload db) ↔
          (unaltered payload old = true ∨ describes payload = true) ∧
            readableChoice db.technologies payload.technologyIds = true)) ∧
      ∀ defaults : Defaults, (∀ row ∈ db.projects.rows.rows, row.id ≠ defaults.id) →
        (∀ link ∈ db.projects.links.rows, link.1 ≠ defaults.id) →
        (∀ row ∈ db.projects.rows.rows, Collation.equal row.slug payload.slug = false) →
          (Creates payload defaults db (saveProject ties (.post defaults) payload db) ↔
            describes payload = true ∧
              readableChoice db.technologies payload.technologyIds = true) :=
  ⟨fun _ member _ free => replaces_iff accepted valid member free,
    fun _ new unlinked free => creates_iff accepted valid new unlinked free⟩

end

namespace Sample

open ProjectRepository.Sample (projects technologies)

attribute [local instance] unicode collation mysql

def catalogue : Db := { Db.empty Table.empty with technologies, projects }

/-- The first project, with Python twice and without FastAPI. -/
theorem project_echo_showcase :
    Replaces (replaced "showcase" [10, 10]) showcase catalogue
      (saveProject (fun _ => 0) (.put 1 5) (replaced "showcase" [10, 10]) catalogue) := by
  have accepted : (replaced "showcase" [10, 10]).accepted = true := by decide
  exact ((project_echo_iff accepted (by decide) catalogue (fun _ => 0)).1 showcase (by decide) 5
    (by decide)).mpr ⟨.inr (by decide), by decide⟩

/-- A payload with a description of the given number of emoji. -/
def described (count : Nat) : ProjectWrite :=
  { replaced "described" [] with fullDescription := some (emoji count) }

theorem described_accepted {count : Nat} (short : count ≤ 20000) :
    (described count).accepted = true := by
  have description : ifGiven (maxLength 20000) (some (emoji count)) = true := by
    rw [ifGiven, Option.all_some, maxLength, emoji_length]
    exact decide_eq_true short
  simp only [ProjectWrite.accepted, described, description]
  decide

theorem describes_described (count : Nat) :
    describes (described count) = decide (4 * count ≤ textBytes) := by
  rw [← emoji_utf8ByteSize]
  rfl

theorem unaltered_described (count : Nat) : unaltered (described count) showcase = false := by
  apply beq_eq_false_iff_ne.mpr
  intro same
  cases congrArg ProjectModel.fullDescription same

/-- A description of 16,384 emoji is accepted, but takes 65,536 bytes. -/
theorem long_description_refused :
    (described 16384).accepted = true ∧ slugRe (described 16384).slug = true ∧
      ProjectRepository.slugged.taken catalogue.projects.rows 1 (described 16384).slug = false ∧
      ¬Replaces (described 16384) showcase catalogue
        (saveProject (fun _ => 0) (.put 1 5) (described 16384) catalogue) ∧
      ¬Creates (described 16384) ⟨3, 0, 0⟩ catalogue
        (saveProject (fun _ => 0) (.post ⟨3, 0, 0⟩) (described 16384) catalogue) := by
  have accepted : (described 16384).accepted = true := described_accepted (by decide)
  have valid : slugRe (described 16384).slug = true := by decide
  have member : showcase ∈ catalogue.projects.rows.rows := by decide
  have free : ProjectRepository.slugged.taken catalogue.projects.rows showcase.id
      (described 16384).slug = false := by decide
  have large : describes (described 16384) = false := by
    rw [describes_described]
    decide
  refine ⟨accepted, valid, free, ?_, ?_⟩
  · intro replaces
    rcases (replaces_iff accepted valid member free).mp replaces with ⟨same | fits, _⟩
    · rw [unaltered_described] at same
      cases same
    · rw [large] at fits
      cases fits
  · intro creates
    have fits := ((creates_iff accepted valid (by decide) (by decide) (by decide)).mp creates).1
    rw [large] at fits
    cases fits

end Sample

end ChTech.Content
