import ChTech.Content.Conversions
import ChTech.Content.Deletes
import ChTech.Content.Visibility
import ChTech.Foundation.Coupling

/-!
# The in-memory repositories of projects and articles

The tests run the use cases over dictionaries.  `create` looks for the slug there, while
the database has a constraint for it; `update` does not look.  As long as no update takes
the slug of another row, and what a call writes is taken by the columns and converts back,
the dictionaries answer as the tables do.
-/

namespace ChTech.Content.InMemory

open Foundation

open TechnologyRepository (Technologies)

section

variable [PyUnicode]

/-- `self._rows`: a row of the response by its key. -/
abbrev Store (Entity : Type) := List (UUID × WithTechnologies Entity)

/-- What a fake does with an entity. -/
structure Fake (Input Entity : Type) where
  slug : Entity → String
  wanted : Input → String
  isVisible : Entity → Bool
  /-- The constructor of the entity, as `create` calls it. -/
  construct : UUID → Instant → Input → Except Raised Entity
  /-- `replace`, as `update` calls it. -/
  replace : Instant → Input → Entity → Except Raised Entity
  conflict : Raised

variable {Input Entity : Type}

/-- `self._rows[id] = row`. -/
def put (rows : Store Entity) (id : UUID) (row : WithTechnologies Entity) : Store Entity :=
  if rows.any fun entry => entry.1 == id then
    rows.map fun entry => if entry.1 == id then (id, row) else entry
  else
    rows ++ [(id, row)]

/-- `self._rows.get(id)`. -/
def lookup (rows : Store Entity) (id : UUID) : Option (WithTechnologies Entity) :=
  (rows.find? fun entry => entry.1 == id).map Prod.snd

namespace Fake

variable (fake : Fake Input Entity)

def create (id : UUID) (now : Instant) (data : Input) (rows : Store Entity) :
    Except Raised (Option (WithTechnologies Entity) × Store Entity) :=
  if rows.any fun entry => fake.slug entry.2.entity == fake.wanted data then
    .error fake.conflict
  else
    (fake.construct id now data).map fun entity => (some ⟨entity, []⟩, put rows id ⟨entity, []⟩)

def update (id : UUID) (now : Instant) (data : Input) (rows : Store Entity) :
    Except Raised (Option (WithTechnologies Entity) × Store Entity) :=
  match lookup rows id with
  | none => .ok (none, rows)
  | some existing =>
      (fake.replace now data existing.entity).map fun entity =>
        (some ⟨entity, []⟩, put rows id ⟨entity, []⟩)

/-- `self._rows.pop(id, None) is not None`. -/
def delete (id : UUID) (rows : Store Entity) : Bool × Store Entity :=
  (rows.any (fun entry => entry.1 == id), rows.filter fun entry => entry.1 != id)

/-- The first row with the slug decides. -/
def getBySlug (slug : String) (visibleOnly : Bool) (rows : Store Entity) :
    Option (WithTechnologies Entity) :=
  (rows.find? fun entry => fake.slug entry.2.entity == slug).bind fun entry =>
    if visibleOnly && !fake.isVisible entry.2.entity then none else some entry.2

end Fake

/-- A call; a row is named by its keys in the dictionary and in the table. -/
inductive Call (Input : Type) where
  | create (data : Input)
  | update (id rowId : UUID) (data : Input)
  | delete (id rowId : UUID)
  | getBySlug (slug : String) (visibleOnly : Bool)
  | getById (id rowId : UUID)

/-- A call with what its environment adds: a generated key and the clock of each side. -/
structure Execution (Input : Type) where
  call : Call Input
  id : UUID
  now : Instant
  defaults : Defaults
  rowNow : Instant
  ties : Ties

inductive Answer (Entity : Type) where
  | row (found : Option (WithTechnologies Entity))
  | deleted (found : Bool)

/-- A call of the fake. -/
def Fake.perform (fake : Fake Input Entity) (execution : Execution Input) :
    Program (Store Entity) Raised (Answer Entity) :=
  match execution.call with
  | .create data =>
      Program.transact fun rows =>
        (fake.create execution.id execution.now data rows).map (Prod.map .row id)
  | .update id _ data =>
      Program.transact fun rows =>
        (fake.update id execution.now data rows).map (Prod.map .row fun next => next)
  | .delete id _ => fun rows => ((.ok (.deleted (Fake.delete id rows).1)), (Fake.delete id rows).2)
  | .getBySlug slug visibleOnly =>
      Program.read fun rows => .ok (.row (fake.getBySlug slug visibleOnly rows))
  | .getById id _ => Program.read fun rows => .ok (.row (lookup rows id))

variable [Collation] [Mysql] {Model : Type}

/-- What the calls of a SQLAlchemy repository take from their table. -/
structure Sql (repo : Repository Model Input Entity) where
  technologyIds : Input → List UUID
  referenced : Model → Bool
  /-- What the `IntegrityError` of a delete is reported as. -/
  inUse : Raised
  getBySlug : Tagged repo → Technologies → Ties → String → Bool →
    Except Raised (Option (WithTechnologies Entity))
  getById : Tagged repo → Technologies → Ties → UUID →
    Except Raised (Option (WithTechnologies Entity))

/-- A call of the SQLAlchemy repository; nothing but links names its rows. -/
def Sql.perform {repo : Repository Model Input Entity} (sql : Sql repo)
    (technologies : Technologies) (execution : Execution Input) :
    Program (Tagged repo) Raised (Answer Entity) :=
  match execution.call with
  | .create data => fun tagged =>
      Prod.map (Except.map .row) id (Tagged.save technologies execution.ties
        (sql.technologyIds data) sql.referenced (.post execution.defaults) data tagged)
  | .update _ rowId data => fun tagged =>
      Prod.map (Except.map .row) id (Tagged.save technologies execution.ties
        (sql.technologyIds data) sql.referenced (.put rowId execution.rowNow) data tagged)
  | .delete _ rowId => fun tagged =>
      Prod.map (Except.map .deleted) id (Tagged.deleteRow technologies execution.ties
        (fun _ => false) sql.inUse rowId tagged)
  | .getBySlug slug visibleOnly =>
      Program.read fun tagged =>
        (sql.getBySlug tagged technologies execution.ties slug visibleOnly).map .row
  | .getById _ rowId =>
      Program.read fun tagged => (sql.getById tagged technologies execution.ties rowId).map .row

end

/-! ## Projects -/

section

variable [PyUnicode]

namespace InMemoryProjectRepository

def construct (id : UUID) (now : Instant) (data : ProjectWrite) : Except Raised Project := do
  let slug ← Slug.postInit data.slug
  let repositoryUrl ← orNone Url.postInit data.repositoryUrl
  let liveDemoUrl ← orNone Url.postInit data.liveDemoUrl
  let coverImage ← orNone Image.postInit data.coverImage
  return {
    id
    slug
    title := data.title
    shortDescription := data.shortDescription
    fullDescription := data.fullDescription
    repositoryUrl
    liveDemoUrl
    coverImage
    status := data.status
    visibility := data.visibility
    featured := data.featured
    clientId := none
    startedAt := data.startedAt
    finishedAt := data.finishedAt
    createdAt := now
    updatedAt := now }

def replace (now : Instant) (data : ProjectWrite) (existing : Project) :
    Except Raised Project := do
  let slug ← Slug.postInit data.slug
  let repositoryUrl ← orNone Url.postInit data.repositoryUrl
  let liveDemoUrl ← orNone Url.postInit data.liveDemoUrl
  let coverImage ← orNone Image.postInit data.coverImage
  return { existing with
    slug
    title := data.title
    shortDescription := data.shortDescription
    fullDescription := data.fullDescription
    repositoryUrl
    liveDemoUrl
    coverImage
    status := data.status
    visibility := data.visibility
    featured := data.featured
    startedAt := data.startedAt
    finishedAt := data.finishedAt
    updatedAt := now }

def fake : Fake ProjectWrite Project where
  slug project := project.slug.value
  wanted := ProjectWrite.slug
  isVisible project := project.visibility.value == "PUBLIC"
  construct := construct
  replace := replace
  conflict := .app (.conflictError "A project with this slug already exists")

end InMemoryProjectRepository

/-! ## Articles -/

namespace InMemoryArticleRepository

/-- `Article.__post_init__`. -/
def checkDated (published : Bool) (publishedAt : Option Datetime) :
    Except Raised (PLift ((published && publishedAt.isNone) = false)) :=
  if dated : (published && publishedAt.isNone) = false then
    .ok ⟨dated⟩
  else
    .error (.valueError "A published article requires published_at")

def construct (id : UUID) (now : Instant) (data : UUID × ArticleWrite) :
    Except Raised Article := do
  let slug ← Slug.postInit data.2.slug
  let content ← MarkdownContent.postInit data.2.content
  let coverImage ← orNone Image.postInit data.2.coverImage
  let dated ← checkDated data.2.published data.2.publishedAt
  return {
    id
    authorId := data.1
    slug
    title := data.2.title
    summary := data.2.summary
    content
    coverImage
    readingTime := data.2.readingTime
    published := data.2.published
    publishedAt := data.2.publishedAt
    createdAt := now
    updatedAt := now
    dated := dated.down }

def replace (now : Instant) (data : UUID × ArticleWrite) (existing : Article) :
    Except Raised Article := do
  let slug ← Slug.postInit data.2.slug
  let content ← MarkdownContent.postInit data.2.content
  let coverImage ← orNone Image.postInit data.2.coverImage
  let dated ← checkDated data.2.published data.2.publishedAt
  return { existing with
    slug
    title := data.2.title
    summary := data.2.summary
    content
    coverImage
    readingTime := data.2.readingTime
    published := data.2.published
    publishedAt := data.2.publishedAt
    updatedAt := now
    dated := dated.down }

def fake : Fake (UUID × ArticleWrite) Article where
  slug article := article.slug.value
  wanted data := data.2.slug
  isVisible := Article.published
  construct := construct
  replace := replace
  conflict := .app (.conflictError "An article with this slug already exists")

end InMemoryArticleRepository

variable [Collation]

/-- `SQLAlchemyProjectRepository`. -/
def sqlProjects : Sql ProjectRepository.repository where
  technologyIds := ProjectWrite.technologyIds
  referenced _ := true
  inUse := .app (.conflictError "Project is referenced by an existing case study or testimonial")
  getBySlug := ProjectRepository.getBySlug
  getById := ProjectRepository.getById

/-- `SQLAlchemyArticleRepository`; its delete lets an `IntegrityError` through. -/
def sqlArticles (users : Users) : Sql ArticleRepository.repository where
  technologyIds data := data.2.technologyIds
  referenced := ArticleRepository.referenced users
  inUse := .integrityError
  getBySlug := ArticleRepository.getBySlug
  getById := ArticleRepository.getById

end

end ChTech.Content.InMemory
