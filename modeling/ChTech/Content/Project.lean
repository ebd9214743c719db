import ChTech.Content.Tagged
import ChTech.Domain.Enums

/-!
# Projects and case studies
-/

namespace ChTech.Content

open Foundation

open TechnologyRepository (Technologies)

/-! ## Projects -/

/-- A row of `projects`. -/
structure ProjectModel where
  id : UUID
  slug : String
  title : String
  shortDescription : Option String
  fullDescription : Option String
  repositoryUrl : Option String
  liveDemoUrl : Option String
  coverImage : Option String
  status : String
  visibility : String
  featured : Bool
  startedAt : Option Date
  finishedAt : Option Date
  clientId : Option UUID
  createdAt : Instant
  updatedAt : Instant
  deriving DecidableEq, Repr

/-- A project shown in the portfolio. -/
structure Project [PyUnicode] where
  id : UUID
  slug : Slug
  title : String
  shortDescription : Option String
  fullDescription : Option String
  repositoryUrl : Option Url
  liveDemoUrl : Option Url
  coverImage : Option Image
  status : ProjectStatus
  visibility : Visibility
  featured : Bool
  clientId : Option UUID
  startedAt : Option Date
  finishedAt : Option Date
  createdAt : Instant
  updatedAt : Instant

structure ProjectWrite where
  slug : String
  title : String
  shortDescription : Option String
  fullDescription : Option String
  repositoryUrl : Option String
  liveDemoUrl : Option String
  coverImage : Option String
  status : ProjectStatus
  visibility : Visibility
  featured : Bool
  startedAt : Option Date
  finishedAt : Option Date
  technologyIds : List UUID
  deriving DecidableEq, Repr

/-- The query parameters of the list. -/
structure ProjectFilters where
  technology : Option String
  featured : Option Bool
  status : Option String
  search : Option String
  sort : String
  page : Query.Page
  deriving DecidableEq, Repr

section

variable [PyUnicode]

def ProjectWrite.accepted (payload : ProjectWrite) : Bool :=
  maxLength 150 payload.slug &&
  maxLength 255 payload.title &&
  ifGiven (maxLength 500) payload.shortDescription &&
  ifGiven (maxLength 20000) payload.fullDescription &&
  ifGiven isUrl payload.repositoryUrl &&
  ifGiven isUrl payload.liveDemoUrl &&
  ifGiven isImage payload.coverImage

/-- The entity that `_to_row` builds. -/
def ProjectModel.toEntity (model : ProjectModel) : Except Raised Project := do
  let slug ← Slug.postInit model.slug
  let repositoryUrl ← orNone Url.postInit model.repositoryUrl
  let liveDemoUrl ← orNone Url.postInit model.liveDemoUrl
  let coverImage ← orNone Image.postInit model.coverImage
  let status ← ProjectStatus.ofValue model.status
  let visibility ← Visibility.ofValue model.visibility
  return {
    id := model.id
    slug
    title := model.title
    shortDescription := model.shortDescription
    fullDescription := model.fullDescription
    repositoryUrl
    liveDemoUrl
    coverImage
    status
    visibility
    featured := model.featured
    clientId := model.clientId
    startedAt := model.startedAt
    finishedAt := model.finishedAt
    createdAt := model.createdAt
    updatedAt := model.updatedAt }

theorem ProjectModel.toEntity_isOk (model : ProjectModel) :
    model.toEntity.isOk =
      ((Slug.postInit model.slug).isOk && ((orNone Url.postInit model.repositoryUrl).isOk &&
        ((orNone Url.postInit model.liveDemoUrl).isOk &&
          ((orNone Image.postInit model.coverImage).isOk &&
            ((ProjectStatus.ofValue model.status).isOk &&
              (Visibility.ofValue model.visibility).isOk))))) :=
  Result.isOk_bind_const fun _ => Result.isOk_bind_const fun _ =>
    Result.isOk_bind_const fun _ => Result.isOk_bind_const fun _ =>
      Result.isOk_bind_const fun _ => Result.isOk_bind_pure

end

namespace ProjectRepository

variable [PyUnicode] [Collation]

def repository : Repository ProjectModel ProjectWrite Project where
  key := ProjectModel.id
  clash first second := first.id == second.id || Collation.equal first.slug second.slug
  keyed first second equal := by simp [equal]
  keeps := ⟨fun _ _ => rfl, fun _ _ => rfl, fun _ _ => rfl, fun _ => rfl⟩
  construct defaults data := {
    id := defaults.id
    slug := data.slug
    title := data.title
    shortDescription := data.shortDescription
    fullDescription := data.fullDescription
    repositoryUrl := data.repositoryUrl
    liveDemoUrl := data.liveDemoUrl
    coverImage := data.coverImage
    status := data.status.value
    visibility := data.visibility.value
    featured := data.featured
    startedAt := data.startedAt
    finishedAt := data.finishedAt
    clientId := none
    createdAt := defaults.createdAt
    updatedAt := defaults.updatedAt }
  assign data model := { model with
    slug := data.slug
    title := data.title
    shortDescription := data.shortDescription
    fullDescription := data.fullDescription
    repositoryUrl := data.repositoryUrl
    liveDemoUrl := data.liveDemoUrl
    coverImage := data.coverImage
    status := data.status.value
    visibility := data.visibility.value
    featured := data.featured
    startedAt := data.startedAt
    finishedAt := data.finishedAt }
  touch now model := { model with updatedAt := now }
  same first second := first == second
  stored := id
  cells model := [
    .guid model.id,
    .varchar 150 model.slug,
    .varchar 255 model.title,
    .text model.shortDescription,
    .text model.fullDescription,
    .text model.repositoryUrl,
    .text model.liveDemoUrl,
    .text model.coverImage,
    .varchar 50 model.status,
    .varchar 50 model.visibility,
    .boolean model.featured,
    .date model.startedAt,
    .date model.finishedAt,
    .guid model.clientId]
  checks model :=
    ["PLANNING", "IN_PROGRESS", "COMPLETED", "ARCHIVED"].any (Collation.equal model.status) &&
    ["PUBLIC", "PRIVATE"].any (Collation.equal model.visibility)
  conflict := .app (.conflictError "A project with this slug already exists")
  toEntity := ProjectModel.toEntity

abbrev Projects := Tagged repository

/-- The condition `visibility = 'PUBLIC'`. -/
def isPublic (model : ProjectModel) : Bool := Collation.equal model.visibility "PUBLIC"

/-- `FROM projects`, joined with the links and the technologies when a technology is
asked for; a row comes with the primary keys it is made of. -/
def joined (projects : Projects) (technologies : Technologies) (technology : Option String)
    (rows : List ProjectModel) : List (ProjectModel × List UUID) :=
  match technology with
  | none => rows.map fun model => (model, [model.id])
  | some name =>
      rows.flatMap fun model =>
        (technologies.rows.filter fun technology =>
          projects.links.rows.contains (model.id, technology.id) &&
            Collation.equal technology.name name).map
          fun technology => (model, [model.id, technology.id])

/-- `title.ilike(f"%{search}%")`. -/
def titleMatches [Mysql] (search : String) (model : ProjectModel) : Bool :=
  sqlLike Mysql.sameChar (Mysql.lower ("%" ++ search ++ "%")).toList
    (Mysql.lower model.title).toList

/-- The filters on columns of the project. -/
def meets [Mysql] (filters : ProjectFilters) (model : ProjectModel) : Bool :=
  filters.featured.all (· == model.featured) &&
  filters.status.all (Collation.equal model.status) &&
  filters.search.all fun search => titleMatches search model

/-- `ORDER BY` the sort column. -/
def sorted (ties : Ties) (sort : String) (rows : List (ProjectModel × List UUID)) :
    List (ProjectModel × List UUID) :=
  if sort = "title" then
    Query.orderBy
      (Query.ranked (fun row => Collation.weight row.1.title) fun row => ties row.2) rows
  else
    Query.orderBy (Query.ranked (fun row => row.1.createdAt) fun row => ties row.2) rows

variable [Mysql]

def list (projects : Projects) (technologies : Technologies) (ties : Ties)
    (filters : ProjectFilters) (publicOnly : Bool) :
    Except Raised (List (WithTechnologies Project)) :=
  let visible := projects.rows.rows.filter fun model => !publicOnly || isPublic model
  let found := (joined projects technologies filters.technology visible).filter
    fun row => meets filters row.1
  let page := Query.paginate filters.page (sorted ties filters.sort found)
  projects.readAll technologies ties (page.map Prod.fst).eraseDups

omit [Mysql]

def getBySlug (projects : Projects) (technologies : Technologies) (ties : Ties) (slug : String)
    (publicOnly : Bool) : Except Raised (Option (WithTechnologies Project)) :=
  projects.readOne technologies ties (projects.rows.rows.filter fun model =>
    Collation.equal model.slug slug && (!publicOnly || isPublic model))

def getById (projects : Projects) (technologies : Technologies) (ties : Ties)
    (projectId : UUID) : Except Raised (Option (WithTechnologies Project)) :=
  projects.readOne technologies ties (projects.rows.rows.filter fun model =>
    model.id = projectId)

theorem steady [Mysql] : repository.Steady :=
  .of_plain (fun _ model => (ProjectModel.toEntity_isOk _).trans model.toEntity_isOk.symm)
    (fun _ => rfl) (fun _ _ => eq_of_beq)

theorem verdict {payload : ProjectWrite} (accepted : payload.accepted = true) :
    repository.Verdict payload (slugRe payload.slug) := by
  simp only [ProjectWrite.accepted, Bool.and_eq_true] at accepted
  obtain ⟨⟨⟨_, repositoryUrl⟩, liveDemoUrl⟩, coverImage⟩ := accepted
  have converted : ((Slug.postInit payload.slug).isOk &&
      ((orNone Url.postInit payload.repositoryUrl).isOk &&
        ((orNone Url.postInit payload.liveDemoUrl).isOk &&
          ((orNone Image.postInit payload.coverImage).isOk &&
            ((ProjectStatus.ofValue payload.status.value).isOk &&
              (Visibility.ofValue payload.visibility.value).isOk))))) = slugRe payload.slug := by
    rw [orNone_isOk repositoryUrl, orNone_isOk liveDemoUrl, orNone_isOk coverImage,
      Slug.postInit_isOk, ProjectStatus.ofValue_value, Visibility.ofValue_value]
    exact Bool.and_true _
  exact ⟨fun _ => (ProjectModel.toEntity_isOk _).trans converted,
    fun _ => (ProjectModel.toEntity_isOk _).trans converted⟩

/-- The rows a query keeps are stored ones. -/
theorem mem_of_joined {projects : Projects}
    {technologies : Technologies} {technology : Option String}
    {rows : List ProjectModel} {row : ProjectModel × List UUID}
    (member : row ∈ joined projects technologies technology rows) : row.1 ∈ rows := by
  simp only [joined] at member
  split at member
  next =>
    obtain ⟨model, stored, equal⟩ := List.mem_map.mp member
    rw [← equal]
    exact stored
  next =>
    obtain ⟨model, stored, linked⟩ := List.mem_flatMap.mp member
    obtain ⟨technology, _, equal⟩ := List.mem_map.mp linked
    rw [← equal]
    exact stored

omit [PyUnicode] in
theorem mem_of_sorted {ties : Ties} {sort : String} {rows : List (ProjectModel × List UUID)}
    {row : ProjectModel × List UUID} (member : row ∈ sorted ties sort rows) : row ∈ rows := by
  simp only [sorted] at member
  split at member
  · exact Query.mem_orderBy.mp member
  · exact Query.mem_orderBy.mp member

theorem list_isOk [Mysql] {projects : Projects} {technologies : Technologies} {ties : Ties}
    {filters : ProjectFilters} {publicOnly : Bool}
    (linked : TechnologyRepository.repository.Readable technologies)
    (readable : repository.Readable projects.rows) :
    (list projects technologies ties filters publicOnly).isOk = true := by
  apply Tagged.readAll_isOk linked readable
  intro model member
  obtain ⟨row, paged, equal⟩ := List.mem_map.mp (List.mem_eraseDups.mp member)
  have found := List.mem_of_mem_filter (mem_of_sorted (Query.mem_of_paginate paged))
  rw [← equal]
  exact List.mem_of_mem_filter (mem_of_joined found)

theorem getBySlug_isOk {projects : Projects} {technologies : Technologies} {ties : Ties}
    {slug : String} {publicOnly : Bool}
    (linked : TechnologyRepository.repository.Readable technologies)
    (readable : repository.Readable projects.rows) :
    (getBySlug projects technologies ties slug publicOnly).isOk = true := by
  apply Tagged.readOne_isOk linked readable
  intro first second firstSelected secondSelected
  rw [Bool.and_eq_true] at firstSelected secondSelected
  simp [repository, Collation.equal_trans firstSelected.1 secondSelected.1]

theorem getById_isOk {projects : Projects} {technologies : Technologies} {ties : Ties}
    {id : UUID} (linked : TechnologyRepository.repository.Readable technologies)
    (readable : repository.Readable projects.rows) :
    (getById projects technologies ties id).isOk = true := by
  apply Tagged.readOne_isOk linked readable
  exact repository.clash_of_key fun _ => of_decide_eq_true

theorem plain : repository.Plain := ⟨fun _ _ => rfl, fun equal => by cases equal⟩

theorem fits [Mysql] {payload : ProjectWrite} (accepted : payload.accepted = true) :
    repository.Fits payload (Cell.text payload.fullDescription).storable := by
  simp only [ProjectWrite.accepted, Bool.and_eq_true] at accepted
  obtain ⟨⟨⟨⟨⟨⟨slug, title⟩, shortDescription⟩, _⟩, repositoryUrl⟩, liveDemoUrl⟩, coverImage⟩ :=
    accepted
  have slug : (Cell.varchar 150 payload.slug).storable = true :=
    Cell.storable_varchar slug (Nat.le_refl 150)
  have title : (Cell.varchar 255 payload.title).storable = true :=
    Cell.storable_varchar title (Nat.le_refl 255)
  have shortDescription : (Cell.text payload.shortDescription).storable = true :=
    Cell.storable_text shortDescription (by decide)
  have repositoryUrl : (Cell.text payload.repositoryUrl).storable = true :=
    Cell.storable_url repositoryUrl
  have liveDemoUrl : (Cell.text payload.liveDemoUrl).storable = true :=
    Cell.storable_url liveDemoUrl
  have coverImage : (Cell.text payload.coverImage).storable = true :=
    Cell.storable_image coverImage
  have status : (Cell.varchar 50 payload.status.value).storable = true := by
    cases payload.status <;> rfl
  have visibility : (Cell.varchar 50 payload.visibility.value).storable = true := by
    cases payload.visibility <;> rfl
  constructor
  · intro _
    simp [repository, slug, title, shortDescription, repositoryUrl, liveDemoUrl, coverImage,
      status, visibility]
  · intro _
    simp [repository, slug, title, shortDescription, repositoryUrl, liveDemoUrl, coverImage,
      status, visibility]

end ProjectRepository

/-! ## Case studies -/

/-- A row of `case_studies`. -/
structure CaseStudyModel where
  id : UUID
  projectId : UUID
  challenge : Option String
  solution : Option String
  architecture : Option String
  lessonsLearned : Option String
  metrics : Option Json
  createdAt : Instant
  updatedAt : Instant
  deriving DecidableEq, Repr

/-- The technical write-up of a project. -/
structure CaseStudy where
  id : UUID
  projectId : UUID
  challenge : Option String
  solution : Option String
  architecture : Option String
  lessonsLearned : Option String
  metrics : Option Json
  createdAt : Instant
  updatedAt : Instant
  deriving DecidableEq, Repr

structure CaseStudyWrite where
  projectId : UUID
  challenge : Option String
  solution : Option String
  architecture : Option String
  lessonsLearned : Option String
  metrics : Option Json
  deriving DecidableEq, Repr

def CaseStudyWrite.accepted (payload : CaseStudyWrite) : Bool :=
  ifGiven (maxLength 10000) payload.challenge &&
  ifGiven (maxLength 10000) payload.solution &&
  ifGiven (maxLength 10000) payload.architecture &&
  ifGiven (maxLength 10000) payload.lessonsLearned

/-- `_to_entity`. -/
def CaseStudyModel.toEntity (model : CaseStudyModel) : Except Raised CaseStudy :=
  .ok {
    id := model.id
    projectId := model.projectId
    challenge := model.challenge
    solution := model.solution
    architecture := model.architecture
    lessonsLearned := model.lessonsLearned
    metrics := model.metrics
    createdAt := model.createdAt
    updatedAt := model.updatedAt }

namespace CaseStudyRepository

def repository : Repository CaseStudyModel CaseStudyWrite CaseStudy where
  key := CaseStudyModel.id
  clash first second := first.id == second.id
  keyed first second equal := by simp [equal]
  keeps := ⟨fun _ _ => rfl, fun _ _ => rfl, fun _ _ => rfl, fun _ => rfl⟩
  construct defaults data := {
    id := defaults.id
    projectId := data.projectId
    challenge := data.challenge
    solution := data.solution
    architecture := data.architecture
    lessonsLearned := data.lessonsLearned
    metrics := data.metrics
    createdAt := defaults.createdAt
    updatedAt := defaults.updatedAt }
  assign data model := { model with
    projectId := data.projectId
    challenge := data.challenge
    solution := data.solution
    architecture := data.architecture
    lessonsLearned := data.lessonsLearned
    metrics := data.metrics }
  touch now model := { model with updatedAt := now }
  same first second := first == second
  stored := id
  cells model := [
    .guid model.id,
    .guid model.projectId,
    .text model.challenge,
    .text model.solution,
    .text model.architecture,
    .text model.lessonsLearned,
    .json model.metrics]
  checks _ := true
  conflict := .integrityError
  toEntity := CaseStudyModel.toEntity

abbrev CaseStudies := repository.Rows

theorem plain : repository.Plain := ⟨fun _ _ => rfl, fun equal => by cases equal⟩

theorem fits [Mysql] {payload : CaseStudyWrite} (accepted : payload.accepted = true) :
    repository.Fits payload (Cell.json payload.metrics).storable := by
  simp only [CaseStudyWrite.accepted, Bool.and_eq_true] at accepted
  obtain ⟨⟨⟨challenge, solution⟩, architecture⟩, lessonsLearned⟩ := accepted
  have challenge : (Cell.text payload.challenge).storable = true :=
    Cell.storable_text challenge (by decide)
  have solution : (Cell.text payload.solution).storable = true :=
    Cell.storable_text solution (by decide)
  have architecture : (Cell.text payload.architecture).storable = true :=
    Cell.storable_text architecture (by decide)
  have lessonsLearned : (Cell.text payload.lessonsLearned).storable = true :=
    Cell.storable_text lessonsLearned (by decide)
  constructor
  · intro _
    simp [repository, challenge, solution, architecture, lessonsLearned]
  · intro _
    simp [repository, challenge, solution, architecture, lessonsLearned]

variable [PyUnicode] [Collation]

open ProjectRepository (Projects isPublic)

/-- `JOIN projects … WHERE projects.visibility = 'PUBLIC'`; a row comes with the primary
keys it is made of. -/
def joinedPublic (caseStudies : List CaseStudyModel) (projects : Projects) :
    List (CaseStudyModel × List UUID) :=
  caseStudies.flatMap fun model =>
    (projects.rows.rows.filter fun project =>
      decide (model.projectId = project.id) && isPublic project).map
      fun project => (model, [model.id, project.id])

/-- The rows of a query, restricted to those of public projects or not. -/
def visible (caseStudies : List CaseStudyModel) (projects : Projects) (publicOnly : Bool) :
    List (CaseStudyModel × List UUID) :=
  if publicOnly then
    joinedPublic caseStudies projects
  else
    caseStudies.map fun model => (model, [model.id])

def list (caseStudies : CaseStudies) (projects : Projects) (ties : Ties) (publicOnly : Bool) :
    Except Raised (List CaseStudy) :=
  repository.readAll ((Query.orderBy
    (Query.ranked (fun row => row.1.createdAt) fun row => ties row.2)
    (visible caseStudies.rows projects publicOnly)).map Prod.fst)

def getById (caseStudies : CaseStudies) (projects : Projects) (caseStudyId : UUID)
    (publicOnly : Bool) : Except Raised (Option CaseStudy) :=
  repository.readOne ((visible
    (caseStudies.rows.filter fun model => model.id = caseStudyId) projects publicOnly).map Prod.fst)

/-- A case study joins at most its one project. -/
theorem visible_length_le {caseStudies : List CaseStudyModel}
    {projects : Projects} {publicOnly : Bool} (single : caseStudies.length ≤ 1) :
    (visible caseStudies projects publicOnly).length ≤ 1 := by
  simp only [visible]
  split
  · match caseStudies with
    | [] => exact Nat.zero_le 1
    | [model] =>
        simp only [joinedPublic, List.flatMap_cons, List.flatMap_nil, List.append_nil,
          List.length_map]
        apply Table.length_filter_le_one
        apply ProjectRepository.repository.clash_of_key
        intro project selected
        exact (of_decide_eq_true (Bool.and_eq_true_iff.mp selected).1).symm
    | _ :: _ :: _ => simp at single
  · rw [List.length_map]
    exact single

theorem list_isOk {caseStudies : CaseStudies} {projects : Projects} {ties : Ties}
    {publicOnly : Bool} : (list caseStudies projects ties publicOnly).isOk = true :=
  Result.isOk_mapM fun _ _ => rfl

theorem getById_isOk {caseStudies : CaseStudies} {projects : Projects} {caseStudyId : UUID}
    {publicOnly : Bool} : (getById caseStudies projects caseStudyId publicOnly).isOk = true := by
  have single : (caseStudies.rows.filter fun model => model.id = caseStudyId).length ≤ 1 :=
    Table.length_filter_le_one (repository.clash_of_key fun _ => of_decide_eq_true)
  simp only [getById, Repository.readOne]
  rw [Query.scalarOneOrNone_eq (by rw [List.length_map]; exact visible_length_le single)]
  cases List.head? _ <;> rfl

end CaseStudyRepository

end ChTech.Content
