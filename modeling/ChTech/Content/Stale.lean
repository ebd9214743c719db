import ChTech.Content.Article
import ChTech.Content.People
import ChTech.Content.Project
import ChTech.Foundation.Merge

/-!
# Objects loaded earlier

A request loads an object with one statement and writes it with a later one, and other
transactions may commit in between.  The `UPDATE` names only the columns whose assigned
value differs from the loaded one, so that the others keep what the row holds by then.
The row stays locked until the commit, so that a flush and its commit are one step.  While
the row is the loaded one this is the `UPDATE` of the whole object.
-/

namespace ChTech.Content

open Foundation

/-- `transaction_isolation`. -/
inductive Isolation where
  | readCommitted
  | repeatableRead
  deriving DecidableEq, Repr

/-- What a later read of a transaction sees. -/
def Isolation.read {α : Type} : Isolation → α → α → α
  | .readCommitted, _, current => current
  | .repeatableRead, snapshot, _ => snapshot

section

variable {Model Input Entity : Type}

/-- The row that an `UPDATE` of a loaded object makes of the one it finds. -/
structure Columns [Mysql] (repo : Repository Model Input Entity) where
  overlay : Model → Model → Model → Model
  key : ∀ loaded assigned current, repo.key (overlay loaded assigned current) = repo.key current

namespace Repository

variable [Mysql] {repo : Repository Model Input Entity}

/-- `UPDATE` of an object loaded earlier; its row has to be there still. -/
def updateLoaded (columns : Columns repo) (referenced : Model → Bool) (now : Instant)
    (model assigned : Model) (table : repo.Rows) : Except Raised (Model × repo.Rows) :=
  if repo.same model assigned then
    .ok (assigned, table)
  else
    match table.find? fun row => repo.key row = repo.key model with
    | none => .error .operationalError
    | some current =>
        let touched := repo.touch now assigned
        let written := columns.overlay model touched current
        (repo.flush (repo.cells touched) (repo.checks written) (referenced written)
          (table.update? fun row =>
            if repo.key row = repo.key model then repo.stored written else row)).map
          fun next => (touched, next)

/-- The rows keep their primary keys. -/
theorem updateLoaded_keys {columns : Columns repo} {referenced : Model → Bool} {now : Instant}
    {model assigned changed : Model} {table next : repo.Rows}
    (updated : updateLoaded columns referenced now model assigned table = .ok (changed, next)) :
    next.rows.map repo.key = table.rows.map repo.key := by
  simp only [updateLoaded] at updated
  split at updated
  next =>
    cases updated
    rfl
  next =>
    split at updated
    next => cases updated
    next current found =>
      rcases Result.map_eq_ok.mp updated with ⟨rows, flushed, pair⟩
      cases pair
      rw [Table.update?_eq_some (flush_eq_ok flushed).2, List.map_map]
      apply List.map_congr_left
      intro row _
      simp only [Function.comp_apply]
      split
      next same =>
        rw [repo.keeps.stored, columns.key, of_decide_eq_true (Table.mem_of_find? found).2, same]
      next => rfl

/-- So does the object. -/
theorem updateLoaded_key {columns : Columns repo} {referenced : Model → Bool} {now : Instant}
    {model assigned changed : Model} {table next : repo.Rows}
    (updated : updateLoaded columns referenced now model assigned table = .ok (changed, next))
    (assign : repo.key assigned = repo.key model)
    (touch : ∀ model, repo.key (repo.touch now model) = repo.key model) :
    repo.key changed = repo.key model := by
  simp only [updateLoaded] at updated
  split at updated
  next =>
    cases updated
    exact assign
  next =>
    split at updated
    next => cases updated
    next =>
      rcases Result.map_eq_ok.mp updated with ⟨rows, _, pair⟩
      cases pair
      exact (touch assigned).trans assign

/-- The changed row is made of a stored one. -/
theorem mem_updateLoaded {columns : Columns repo} {referenced : Model → Bool} {now : Instant}
    {model assigned changed row : Model} {table next : repo.Rows}
    (updated : updateLoaded columns referenced now model assigned table = .ok (changed, next))
    (member : row ∈ next.rows) :
    row ∈ table.rows ∨ ∃ current ∈ table.rows,
      row = repo.stored (columns.overlay model (repo.touch now assigned) current) := by
  simp only [updateLoaded] at updated
  split at updated
  next =>
    cases updated
    exact .inl member
  next =>
    split at updated
    next => cases updated
    next current found =>
      rcases Result.map_eq_ok.mp updated with ⟨rows, flushed, pair⟩
      cases pair
      rw [Table.update?_eq_some (flush_eq_ok flushed).2] at member
      rcases List.mem_map.mp member with ⟨old, oldMem, equal⟩
      split at equal
      next => exact .inr ⟨current, (Table.mem_of_find? found).1, equal.symm⟩
      next => exact .inl (equal ▸ oldMem)

omit [Mysql] in
/-- Where the primary key is the only constraint, rows that keep their keys meet none. -/
theorem update?_of_keys {change : Model → Model} (table : repo.Rows)
    (clash : ∀ first second, repo.clash first second = (repo.key first == repo.key second))
    (kept : ∀ row, repo.key (change row) = repo.key row) :
    ∃ next, table.update? change = some next := by
  have distinct : (table.rows.map change).Pairwise
      fun first second => repo.clash first second = false := by
    rw [List.pairwise_map]
    refine table.distinct.imp ?_
    intro first second apart
    rw [clash, kept, kept, ← clash]
    exact apart
  exact ⟨_, dif_pos distinct⟩

/-- So a change of a row that is still there is stored, when it fits and names stored rows. -/
theorem updateLoaded_isOk {columns : Columns repo} {referenced : Model → Bool} {now : Instant}
    {model assigned : Model} {table : repo.Rows}
    (clash : ∀ first second, repo.clash first second = (repo.key first == repo.key second))
    (present : repo.key model ∈ table.rows.map repo.key)
    (storable : (repo.cells (repo.touch now assigned)).all Cell.storable = true)
    (checks : ∀ current ∈ table.rows,
      repo.checks (columns.overlay model (repo.touch now assigned) current) = true)
    (references : ∀ written, referenced written = true) :
    (updateLoaded columns referenced now model assigned table).isOk = true := by
  simp only [updateLoaded]
  split
  · rfl
  · rcases List.mem_map.mp present with ⟨row, member, same⟩
    cases found : table.find? fun row => repo.key row = repo.key model with
    | none =>
        have missing := Table.find?_eq_none.mp found row member
        exact absurd same (of_decide_eq_false missing)
    | some current =>
        rcases Table.mem_of_find? found with ⟨currentMem, own⟩
        have kept : ∀ row, repo.key (if repo.key row = repo.key model then
            repo.stored (columns.overlay model (repo.touch now assigned) current)
            else row) = repo.key row := by
          intro row
          split
          next same => rw [repo.keeps.stored, columns.key, of_decide_eq_true own, same]
          next => rfl
        rcases update?_of_keys table clash kept with ⟨next, updated⟩
        simp only [updated]
        rw [flush_ok storable (checks current currentMem) (references _)]
        rfl

end Repository

end

namespace ProjectRepository

variable [PyUnicode] [Collation] [Mysql]

def columns : Columns repository where
  overlay loaded assigned current := {
    id := current.id
    slug := overlay loaded.slug assigned.slug current.slug
    title := overlay loaded.title assigned.title current.title
    shortDescription :=
      overlay loaded.shortDescription assigned.shortDescription current.shortDescription
    fullDescription :=
      overlay loaded.fullDescription assigned.fullDescription current.fullDescription
    repositoryUrl := overlay loaded.repositoryUrl assigned.repositoryUrl current.repositoryUrl
    liveDemoUrl := overlay loaded.liveDemoUrl assigned.liveDemoUrl current.liveDemoUrl
    coverImage := overlay loaded.coverImage assigned.coverImage current.coverImage
    status := overlay loaded.status assigned.status current.status
    visibility := overlay loaded.visibility assigned.visibility current.visibility
    featured := overlay loaded.featured assigned.featured current.featured
    startedAt := overlay loaded.startedAt assigned.startedAt current.startedAt
    finishedAt := overlay loaded.finishedAt assigned.finishedAt current.finishedAt
    clientId := current.clientId
    createdAt := current.createdAt
    updatedAt := assigned.updatedAt }
  key _ _ _ := rfl

end ProjectRepository

namespace ArticleRepository

/-- A date as it comes back from its column. -/
def storedDate (value : Option Datetime) : Option Datetime :=
  match UTCDateTime.processBindParam value with
  | .ok bound => UTCDateTime.processResultValue bound
  | .error _ => none

theorem utc_withinDay : ∀ offset ∈ (some 0 : Option Duration),
    -dayLength < offset ∧ offset < dayLength := by
  simp [dayLength]

theorem naive_withinDay : ∀ offset ∈ (none : Option Duration),
    -dayLength < offset ∧ offset < dayLength := by
  simp

/-- An aware date comes back as the same instant in UTC. -/
theorem storedDate_aware {value : Datetime} (aware : value.utcoffset.isSome = true)
    (inCalendar : 0 ≤ value.instant ∧ value.instant < calendarEnd) :
    storedDate (some value) = some ⟨value.instant, some 0, inCalendar, utc_withinDay⟩ := by
  simp [storedDate, UTCDateTime.processBindParam, aware, Datetime.toNaiveUtc, inCalendar,
    UTCDateTime.processResultValue, Except.map]

/-- Two dates are the same value when `==` finds them equal. -/
def overlayDate (loaded assigned current : Option Datetime) : Option Datetime :=
  match loaded, assigned with
  | none, none => current
  | some before, some after => if before.pyEq after then current else assigned
  | _, _ => assigned

variable [PyUnicode] [Collation] [Mysql]

def columns : Columns repository where
  overlay loaded assigned current := {
    id := current.id
    authorId := current.authorId
    slug := overlay loaded.slug assigned.slug current.slug
    title := overlay loaded.title assigned.title current.title
    summary := overlay loaded.summary assigned.summary current.summary
    content := overlay loaded.content assigned.content current.content
    coverImage := overlay loaded.coverImage assigned.coverImage current.coverImage
    readingTime := overlay loaded.readingTime assigned.readingTime current.readingTime
    published := overlay loaded.published assigned.published current.published
    publishedAt := overlayDate loaded.publishedAt assigned.publishedAt current.publishedAt
    createdAt := current.createdAt
    updatedAt := assigned.updatedAt }
  key _ _ _ := rfl

end ArticleRepository

namespace CaseStudyRepository

variable [Mysql]

def columns : Columns repository where
  overlay loaded assigned current := {
    id := current.id
    projectId := overlay loaded.projectId assigned.projectId current.projectId
    challenge := overlay loaded.challenge assigned.challenge current.challenge
    solution := overlay loaded.solution assigned.solution current.solution
    architecture := overlay loaded.architecture assigned.architecture current.architecture
    lessonsLearned := overlay loaded.lessonsLearned assigned.lessonsLearned current.lessonsLearned
    metrics := overlay loaded.metrics assigned.metrics current.metrics
    createdAt := current.createdAt
    updatedAt := assigned.updatedAt }
  key _ _ _ := rfl

end CaseStudyRepository

namespace TestimonialRepository

variable [Mysql]

def columns : Columns repository where
  overlay loaded assigned current := {
    id := current.id
    authorName := overlay loaded.authorName assigned.authorName current.authorName
    authorRole := overlay loaded.authorRole assigned.authorRole current.authorRole
    clientId := overlay loaded.clientId assigned.clientId current.clientId
    projectId := overlay loaded.projectId assigned.projectId current.projectId
    content := overlay loaded.content assigned.content current.content
    rating := overlay loaded.rating assigned.rating current.rating
    featured := overlay loaded.featured assigned.featured current.featured
    createdAt := current.createdAt
    updatedAt := assigned.updatedAt }
  key _ _ _ := rfl

end TestimonialRepository

namespace CompanyRepository

variable [PyUnicode] [Mysql]

def columns : Columns repository where
  overlay loaded assigned current := {
    id := current.id
    legalName := overlay loaded.legalName assigned.legalName current.legalName
    displayName := overlay loaded.displayName assigned.displayName current.displayName
    tagline := overlay loaded.tagline assigned.tagline current.tagline
    mission := overlay loaded.mission assigned.mission current.mission
    vision := overlay loaded.vision assigned.vision current.vision
    email := overlay loaded.email assigned.email current.email
    phone := overlay loaded.phone assigned.phone current.phone
    address := overlay loaded.address assigned.address current.address
    socialLinks := overlay loaded.socialLinks assigned.socialLinks current.socialLinks
    createdAt := current.createdAt
    updatedAt := assigned.updatedAt }
  key _ _ _ := rfl

end CompanyRepository

end ChTech.Content
