import ChTech.Content.Tagged

/-!
# Articles
-/

namespace ChTech.Content

open Foundation

open TechnologyRepository (Technologies)

/-- A row of `articles`, or a loaded model of one. -/
structure ArticleModel where
  id : UUID
  authorId : UUID
  slug : String
  title : String
  summary : Option String
  content : String
  coverImage : Option String
  readingTime : Option Int
  published : Bool
  publishedAt : Option Datetime
  createdAt : Instant
  updatedAt : Instant
  deriving DecidableEq

/-- A technical publication; a published one has a date. -/
structure Article [PyUnicode] where
  id : UUID
  authorId : UUID
  slug : Slug
  title : String
  summary : Option String
  content : MarkdownContent
  coverImage : Option Image
  readingTime : Option Int
  published : Bool
  publishedAt : Option Datetime
  createdAt : Instant
  updatedAt : Instant
  dated : (published && publishedAt.isNone) = false

structure ArticleWrite where
  slug : String
  title : String
  summary : Option String
  content : String
  coverImage : Option String
  readingTime : Option Int
  published : Bool
  publishedAt : Option Datetime
  technologyIds : List UUID
  deriving DecidableEq

section

variable [PyUnicode]

def ArticleWrite.accepted (payload : ArticleWrite) : Bool :=
  maxLength 150 payload.slug &&
  maxLength 255 payload.title &&
  ifGiven (maxLength 500) payload.summary &&
  maxLength 50000 payload.content &&
  isMarkdown payload.content &&
  ifGiven isImage payload.coverImage &&
  !(payload.published && payload.publishedAt.isNone)

/-- The entity that `_to_row` builds. -/
def ArticleModel.toEntity (model : ArticleModel) : Except Raised Article := do
  let slug ← Slug.postInit model.slug
  let content ← MarkdownContent.postInit model.content
  let coverImage ← orNone Image.postInit model.coverImage
  if dated : (model.published && model.publishedAt.isNone) = false then
    .ok {
      id := model.id
      authorId := model.authorId
      slug
      title := model.title
      summary := model.summary
      content
      coverImage
      readingTime := model.readingTime
      published := model.published
      publishedAt := model.publishedAt
      createdAt := model.createdAt
      updatedAt := model.updatedAt
      dated }
  else
    .error (.valueError "A published article requires published_at")

theorem ArticleModel.toEntity_isOk (model : ArticleModel) :
    model.toEntity.isOk =
      ((Slug.postInit model.slug).isOk && ((MarkdownContent.postInit model.content).isOk &&
        ((orNone Image.postInit model.coverImage).isOk &&
          !(model.published && model.publishedAt.isNone)))) := by
  apply Result.isOk_bind_const
  intro slug
  apply Result.isOk_bind_const
  intro content
  apply Result.isOk_bind_const
  intro coverImage
  split
  next dated => simp [dated]
  next undated => simp [Bool.eq_true_of_not_eq_false undated]

end

namespace ArticleRepository

variable [PyUnicode] [Collation]

/-- The input comes with the author that `create` is given; `update` does not use it. -/
def repository : Repository ArticleModel (UUID × ArticleWrite) Article where
  key := ArticleModel.id
  clash first second := first.id == second.id || Collation.equal first.slug second.slug
  keyed first second equal := by simp [equal]
  keeps := ⟨fun _ _ => rfl, fun _ _ => rfl, fun _ _ => rfl, fun _ => rfl⟩
  construct defaults input := {
    id := defaults.id
    authorId := input.1
    slug := input.2.slug
    title := input.2.title
    summary := input.2.summary
    content := input.2.content
    coverImage := input.2.coverImage
    readingTime := input.2.readingTime
    published := input.2.published
    publishedAt := input.2.publishedAt
    createdAt := defaults.createdAt
    updatedAt := defaults.updatedAt }
  assign input model := { model with
    slug := input.2.slug
    title := input.2.title
    summary := input.2.summary
    content := input.2.content
    coverImage := input.2.coverImage
    readingTime := input.2.readingTime
    published := input.2.published
    publishedAt := input.2.publishedAt }
  touch now model := { model with updatedAt := now }
  same first second :=
    { first with publishedAt := none } == { second with publishedAt := none } &&
      (match first.publishedAt, second.publishedAt with
      | none, none => true
      | some before, some after => before.pyEq after
      | _, _ => false)
  stored model := { model with
    publishedAt := match UTCDateTime.processBindParam model.publishedAt with
      | .ok bound => UTCDateTime.processResultValue bound
      | .error _ => none }
  cells model := [
    .guid model.id,
    .guid model.authorId,
    .varchar 150 model.slug,
    .varchar 255 model.title,
    .text model.summary,
    .text model.content,
    .text model.coverImage,
    .integer model.readingTime,
    .boolean model.published,
    .utcDateTime model.publishedAt]
  checks model := !model.published || model.publishedAt.isSome
  conflict := .app (.conflictError "An article with this slug already exists")
  toEntity := ArticleModel.toEntity

abbrev Articles := Tagged repository

/-- The foreign key of `author_id`. -/
def referenced (users : Users) (model : ArticleModel) : Bool :=
  users.rows.any fun user => user.id == model.authorId

/-- The key of `published_at.desc()`: the latest first, and `NULL` last. -/
def latestFirst (model : ArticleModel) : Bool ×ₗ Int :=
  toLex (model.publishedAt.isNone, -(model.publishedAt.map Datetime.instant).getD 0)

def list (articles : Articles) (technologies : Technologies) (ties : Ties)
    (page : Query.Page) (publishedOnly : Bool) : Except Raised (List (WithTechnologies Article)) :=
  let visible := articles.rows.rows.filter fun model => !publishedOnly || model.published
  let ordered := Query.orderBy (Query.ranked latestFirst fun model => ties [model.id]) visible
  articles.readAll technologies ties (Query.paginate page ordered).eraseDups

def getBySlug (articles : Articles) (technologies : Technologies) (ties : Ties) (slug : String)
    (publishedOnly : Bool) : Except Raised (Option (WithTechnologies Article)) :=
  articles.readOne technologies ties (articles.rows.rows.filter fun model =>
    Collation.equal model.slug slug && (!publishedOnly || model.published))

def getById (articles : Articles) (technologies : Technologies) (ties : Ties)
    (articleId : UUID) : Except Raised (Option (WithTechnologies Article)) :=
  articles.readOne technologies ties (articles.rows.rows.filter fun model =>
    model.id = articleId)

/-- The date may come back in another form, but it comes back. -/
theorem steady [Mysql] : repository.Steady where
  touch _ model := (ArticleModel.toEntity_isOk _).trans model.toEntity_isOk.symm
  stored model storable := by
    have bindable : (UTCDateTime.processBindParam model.publishedAt).isOk = true :=
      List.all_eq_true.mp storable (.utcDateTime model.publishedAt) (by simp [repository])
    obtain ⟨bound, stored⟩ := Result.isOk_iff.mp bindable
    refine (ArticleModel.toEntity_isOk _).trans (Eq.trans ?_ model.toEntity_isOk.symm)
    simp only [repository, stored, UTCDateTime.roundTrip_isNone stored]
  same first second equal := by
    simp only [repository, Bool.and_eq_true, beq_iff_eq] at equal
    obtain ⟨others, dates⟩ := equal
    have dated : first.publishedAt.isNone = second.publishedAt.isNone := by
      cases before : first.publishedAt with
      | none =>
          cases after : second.publishedAt with
          | none => rfl
          | some _ => simp [before, after] at dates
      | some _ =>
          cases after : second.publishedAt with
          | none => simp [before, after] at dates
          | some _ => rfl
    have slug := congrArg ArticleModel.slug others
    have content := congrArg ArticleModel.content others
    have coverImage := congrArg ArticleModel.coverImage others
    have published := congrArg ArticleModel.published others
    refine (ArticleModel.toEntity_isOk first).trans (Eq.trans ?_ second.toEntity_isOk.symm)
    rw [dated, show first.slug = second.slug from slug,
      show first.content = second.content from content,
      show first.coverImage = second.coverImage from coverImage,
      show first.published = second.published from published]

theorem verdict {authorId : UUID} {payload : ArticleWrite} (accepted : payload.accepted = true) :
    repository.Verdict (authorId, payload) (slugRe payload.slug) := by
  simp only [ArticleWrite.accepted, Bool.and_eq_true] at accepted
  obtain ⟨⟨⟨_, content⟩, coverImage⟩, dated⟩ := accepted
  have converted : ((Slug.postInit payload.slug).isOk &&
      ((MarkdownContent.postInit payload.content).isOk &&
        ((orNone Image.postInit payload.coverImage).isOk &&
          !(payload.published && payload.publishedAt.isNone)))) = slugRe payload.slug := by
    simp only [isMarkdown] at content
    rw [content, orNone_isOk coverImage, dated, Slug.postInit_isOk]
    exact Bool.and_true _
  exact ⟨fun _ => (ArticleModel.toEntity_isOk _).trans converted,
    fun _ => (ArticleModel.toEntity_isOk _).trans converted⟩

theorem list_isOk {articles : Articles} {technologies : Technologies} {ties : Ties}
    {page : Query.Page} {publishedOnly : Bool}
    (linked : TechnologyRepository.repository.Readable technologies)
    (readable : repository.Readable articles.rows) :
    (list articles technologies ties page publishedOnly).isOk = true := by
  apply Tagged.readAll_isOk linked readable
  intro model member
  have ordered := Query.mem_of_paginate (List.mem_eraseDups.mp member)
  exact List.mem_of_mem_filter (Query.mem_orderBy.mp ordered)

theorem getBySlug_isOk {articles : Articles} {technologies : Technologies} {ties : Ties}
    {slug : String} {publishedOnly : Bool}
    (linked : TechnologyRepository.repository.Readable technologies)
    (readable : repository.Readable articles.rows) :
    (getBySlug articles technologies ties slug publishedOnly).isOk = true := by
  apply Tagged.readOne_isOk linked readable
  intro first second firstSelected secondSelected
  rw [Bool.and_eq_true] at firstSelected secondSelected
  simp [repository, Collation.equal_trans firstSelected.1 secondSelected.1]

theorem getById_isOk {articles : Articles} {technologies : Technologies} {ties : Ties}
    {id : UUID} (linked : TechnologyRepository.repository.Readable technologies)
    (readable : repository.Readable articles.rows) :
    (getById articles technologies ties id).isOk = true := by
  apply Tagged.readOne_isOk linked readable
  exact repository.clash_of_key fun _ => of_decide_eq_true

theorem plain : repository.Plain := ⟨fun _ _ => rfl, fun equal => by cases equal⟩

theorem fits [Mysql] {authorId : UUID} {payload : ArticleWrite}
    (accepted : payload.accepted = true) :
    repository.Fits (authorId, payload) ((Cell.text payload.content).storable &&
      ((Cell.integer payload.readingTime).storable &&
        (Cell.utcDateTime payload.publishedAt).storable)) := by
  simp only [ArticleWrite.accepted, Bool.and_eq_true] at accepted
  obtain ⟨⟨⟨⟨⟨⟨slug, title⟩, summary⟩, _⟩, _⟩, coverImage⟩, _⟩ := accepted
  have slug : (Cell.varchar 150 payload.slug).storable = true :=
    Cell.storable_varchar slug (Nat.le_refl 150)
  have title : (Cell.varchar 255 payload.title).storable = true :=
    Cell.storable_varchar title (Nat.le_refl 255)
  have summary : (Cell.text payload.summary).storable = true :=
    Cell.storable_text summary (by decide)
  have coverImage : (Cell.text payload.coverImage).storable = true :=
    Cell.storable_image coverImage
  constructor
  · intro _
    simp [repository, slug, title, summary, coverImage]
  · intro _
    simp [repository, slug, title, summary, coverImage]

end ArticleRepository

end ChTech.Content
