import ChTech.Content.Mirrors
import ChTech.Content.Stale

/-!
# Both pairs of repositories
-/

namespace ChTech.Content.InMemory

open Foundation

open TechnologyRepository (Technologies)

section

variable [PyUnicode]

/-! ## Projects -/

/-- A project up to its id and timestamps. -/
def projectFace (project : Project) : Project :=
  { project with id := 0, createdAt := 0, updatedAt := 0 }

theorem ProjectModel.toEntity_eq_ok {model : ProjectModel} {project : Project}
    (converted : model.toEntity = .ok project) :
    (project.slug.value = model.slug ∧ slugRe model.slug = true) ∧
      project.visibility.value = model.visibility ∧ project.clientId = model.clientId := by
  rcases Result.bind_eq_ok.mp converted with ⟨slug, slugged, converted⟩
  rcases Result.bind_eq_ok.mp converted with ⟨repositoryUrl, _, converted⟩
  rcases Result.bind_eq_ok.mp converted with ⟨liveDemoUrl, _, converted⟩
  rcases Result.bind_eq_ok.mp converted with ⟨coverImage, _, converted⟩
  rcases Result.bind_eq_ok.mp converted with ⟨status, _, converted⟩
  rcases Result.bind_eq_ok.mp converted with ⟨visibility, visible, converted⟩
  cases converted
  exact ⟨Slug.postInit_eq_ok slugged, ofMembers_eq_ok visible, rfl⟩

variable [Collation] [Mysql]

def projectMirrors (visibilities : Collation.equal "PRIVATE" "PUBLIC" = false) :
    Mirrors InMemoryProjectRepository.fake sqlProjects Project where
  toSlugged := ProjectRepository.slugged
  face := projectFace
  visible := ProjectRepository.isPublic
  conflictSame := rfl
  wantedSame _ := rfl
  faceSlug first second same := by
    have slug := congrArg Project.slug same
    exact congrArg Slug.value slug
  faceVisible first second same := by
    have visibility := congrArg Project.visibility same
    exact congrArg (fun visibility => Visibility.value visibility == "PUBLIC") visibility
  readsSlug model project converted := (ProjectModel.toEntity_eq_ok converted).1
  readsVisible model project converted := by
    have visibility := (ProjectModel.toEntity_eq_ok converted).2.1
    simp only [InMemoryProjectRepository.fake, ProjectRepository.isPublic, ← visibility]
    cases project.visibility with
    | isPublic => exact BEq.rfl.symm
    | isPrivate => exact visibilities.symm
  touches now model := by
    refine Result.map_bind_congr fun slug => Result.map_bind_congr fun repositoryUrl =>
      Result.map_bind_congr fun liveDemoUrl => Result.map_bind_congr fun coverImage =>
        Result.map_bind_congr fun status => Result.map_bind_congr fun visibility => rfl
  stores model _ := rfl
  sames first second same := by rw [eq_of_beq same]
  constructs id now defaults data := by
    refine Result.map_bind_congr fun slug => Result.map_bind_congr fun repositoryUrl =>
      Result.map_bind_congr fun liveDemoUrl => Result.map_bind_congr fun coverImage => ?_
    simp only [ProjectRepository.repository, ProjectStatus.ofValue_value, Visibility.ofValue_value]
    rfl
  replaces now data project model same := by
    have kept : project.clientId = model.clientId := by
      obtain ⟨project', converted, face⟩ := Result.map_eq_ok.mp same
      have clientId := congrArg Project.clientId face
      exact clientId.symm.trans (ProjectModel.toEntity_eq_ok converted).2.2
    refine Result.map_bind_congr fun slug => Result.map_bind_congr fun repositoryUrl =>
      Result.map_bind_congr fun liveDemoUrl => Result.map_bind_congr fun coverImage => ?_
    simp only [ProjectRepository.repository, ProjectStatus.ofValue_value, Visibility.ofValue_value]
    change Except.ok (projectFace _) = Except.ok (projectFace _)
    simp only [projectFace, kept]
  refersTouched _ _ _ := rfl
  refersStored _ := rfl
  getBySlug_eq _ _ _ _ _ := rfl
  getById_eq _ _ _ _ := rfl

end

/-! ## Articles -/

section

variable [PyUnicode]

/-- The beginning of the calendar. -/
def epoch : Datetime :=
  ⟨0, none, by simp [calendarEnd, dayLength], ArticleRepository.naive_withinDay⟩

/-- An article up to its id and timestamps, and the instant of its publication. -/
def articleFace (article : Article) : Article × Option Instant :=
  ({ article with
      id := 0
      publishedAt := article.publishedAt.map fun _ => epoch
      createdAt := 0
      updatedAt := 0
      dated := by rw [Option.isNone_map]; exact article.dated },
    article.publishedAt.map Datetime.instant)

theorem ArticleModel.toEntity_eq_ok {model : ArticleModel} {article : Article}
    (converted : model.toEntity = .ok article) :
    (article.slug.value = model.slug ∧ slugRe model.slug = true) ∧
      article.published = model.published ∧ article.authorId = model.authorId := by
  rcases Result.bind_eq_ok.mp converted with ⟨slug, slugged, converted⟩
  rcases Result.bind_eq_ok.mp converted with ⟨content, _, converted⟩
  rcases Result.bind_eq_ok.mp converted with ⟨coverImage, _, converted⟩
  split at converted
  next =>
    cases converted
    exact ⟨Slug.postInit_eq_ok slugged, rfl, rfl⟩
  next => cases converted

/-- The columns that show, but for the date. -/
structure ShowsSame (first second : ArticleModel) : Prop where
  others : { first with id := 0, publishedAt := none, createdAt := 0, updatedAt := 0 } =
    { second with id := 0, publishedAt := none, createdAt := 0, updatedAt := 0 }
  instant : first.publishedAt.map Datetime.instant = second.publishedAt.map Datetime.instant

theorem ShowsSame.toEntity {first second : ArticleModel} (same : ShowsSame first second) :
    first.toEntity.map articleFace = second.toEntity.map articleFace := by
  obtain ⟨others, instant⟩ := same
  simp only [ArticleModel.mk.injEq] at others
  have missing : first.publishedAt.isNone = second.publishedAt.isNone := by
    have none := congrArg Option.isNone instant
    rw [Option.isNone_map, Option.isNone_map] at none
    exact none
  have epochs : (first.publishedAt.map fun _ => epoch) = second.publishedAt.map fun _ => epoch := by
    cases before : first.publishedAt with
    | none =>
        rw [before] at missing
        cases after : second.publishedAt with
        | none => rfl
        | some _ =>
            rw [after] at missing
            cases missing
    | some _ =>
        rw [before] at missing
        cases after : second.publishedAt with
        | none =>
            rw [after] at missing
            cases missing
        | some _ => rfl
  simp only [ArticleModel.toEntity, others]
  refine Result.map_bind_congr fun slug => Result.map_bind_congr fun content =>
    Result.map_bind_congr fun coverImage => ?_
  by_cases dated : (second.published && second.publishedAt.isNone) = false
  · have dated' : (second.published && first.publishedAt.isNone) = false := by rw [missing, dated]
    rw [dif_pos dated', dif_pos dated]
    change Except.ok (articleFace _) = Except.ok (articleFace _)
    simp only [articleFace, epochs, instant]
  · have undated : ¬(second.published && first.publishedAt.isNone) = false := missing ▸ dated
    rw [dif_neg undated, dif_neg dated]

open InMemoryArticleRepository (checkDated)

/-- The check of the entity comes last. -/
theorem ArticleModel.toEntity_eq (model : ArticleModel) : model.toEntity = (do
    let slug ← Slug.postInit model.slug
    let content ← MarkdownContent.postInit model.content
    let coverImage ← orNone Image.postInit model.coverImage
    let dated ← checkDated model.published model.publishedAt
    return {
      id := model.id
      authorId := model.authorId
      slug
      title := model.title
      summary := model.summary
      content
      coverImage
      readingTime := model.readingTime
      published := model.published
      publishedAt := model.publishedAt
      createdAt := model.createdAt
      updatedAt := model.updatedAt
      dated := dated.down }) := by
  refine congrArg (Slug.postInit model.slug >>= ·) (funext fun slug => ?_)
  refine congrArg (MarkdownContent.postInit model.content >>= ·) (funext fun content => ?_)
  refine congrArg (orNone Image.postInit model.coverImage >>= ·) (funext fun coverImage => ?_)
  simp only [checkDated]
  split
  · rfl
  · rfl

omit [PyUnicode] in
/-- A date that is stored comes back as the same instant. -/
theorem instant_stored {value : Option Datetime}
    (bound : (UTCDateTime.processBindParam value).isOk = true) :
    (ArticleRepository.storedDate value).map Datetime.instant = value.map Datetime.instant := by
  cases value with
  | none => rfl
  | some value =>
      cases aware : value.utcoffset with
      | none =>
          simp [ArticleRepository.storedDate, UTCDateTime.processBindParam, aware,
            UTCDateTime.processResultValue, Datetime.instant]
      | some offset =>
          have inCalendar : 0 ≤ value.instant ∧ value.instant < calendarEnd := by
            simp only [UTCDateTime.processBindParam, aware, Option.isSome_some, if_true,
              Result.isOk_map, Datetime.toNaiveUtc] at bound
            split at bound
            next inCalendar => exact inCalendar
            next => cases bound
          rw [ArticleRepository.storedDate_aware (by rw [aware]; rfl) inCalendar]
          simp [Datetime.instant]

variable [Collation] [Mysql]

omit [Mysql] in
theorem showsSame_of_same {first second : ArticleModel}
    (same : ArticleRepository.repository.same first second = true) : ShowsSame first second := by
  simp only [ArticleRepository.repository, Bool.and_eq_true, beq_iff_eq] at same
  obtain ⟨others, dates⟩ := same
  constructor
  · simp only [ArticleModel.mk.injEq] at others ⊢
    simp [others]
  · cases before : first.publishedAt with
    | none =>
        cases after : second.publishedAt with
        | none => rfl
        | some _ => simp [before, after] at dates
    | some _ =>
        cases after : second.publishedAt with
        | none => simp [before, after] at dates
        | some _ =>
            simp only [before, after, Datetime.pyEq, Bool.and_eq_true, beq_iff_eq] at dates
            exact congrArg some dates.1

def articleMirrors (users : Users) :
    Mirrors InMemoryArticleRepository.fake (sqlArticles users) (Article × Option Instant) where
  toSlugged := ArticleRepository.slugged
  face := articleFace
  visible := ArticleModel.published
  conflictSame := rfl
  wantedSame _ := rfl
  faceSlug first second same := by
    have slug := congrArg (fun face => face.1.slug) same
    exact congrArg Slug.value slug
  faceVisible first second same := by
    have published := congrArg (fun face => face.1.published) same
    exact published
  readsSlug model article converted := (ArticleModel.toEntity_eq_ok converted).1
  readsVisible model article converted := (ArticleModel.toEntity_eq_ok converted).2.1
  touches now model := ShowsSame.toEntity ⟨rfl, rfl⟩
  stores model storable := by
    have bound : (UTCDateTime.processBindParam model.publishedAt).isOk = true :=
      List.all_eq_true.mp storable (.utcDateTime model.publishedAt)
        (by simp [ArticleRepository.repository])
    exact ShowsSame.toEntity ⟨rfl, instant_stored bound⟩
  sames first second same := (showsSame_of_same same).toEntity
  constructs id now defaults data := by
    refine Eq.trans ?_ (congrArg (Except.map articleFace) (ArticleModel.toEntity_eq _).symm)
    exact Result.map_bind_congr fun slug => Result.map_bind_congr fun content =>
      Result.map_bind_congr fun coverImage => Result.map_bind_congr fun dated => rfl
  replaces now data article model same := by
    have kept : article.authorId = model.authorId := by
      obtain ⟨article', converted, face⟩ := Result.map_eq_ok.mp same
      have authorId := congrArg (fun face => face.1.authorId) face
      exact authorId.symm.trans (ArticleModel.toEntity_eq_ok converted).2.2
    refine Eq.trans ?_ (congrArg (Except.map articleFace) (ArticleModel.toEntity_eq _).symm)
    refine Result.map_bind_congr fun slug => Result.map_bind_congr fun content =>
      Result.map_bind_congr fun coverImage => Result.map_bind_congr fun dated => ?_
    change Except.ok (articleFace _) = Except.ok (articleFace _)
    simp only [articleFace, ArticleRepository.repository, kept]
  refersTouched _ _ _ := rfl
  refersStored _ := rfl
  getBySlug_eq _ _ _ _ _ := rfl
  getById_eq _ _ _ _ := rfl

/-- As long as the collation tells well-formed slugs and the two visibilities apart, any
calls on well-formed slugs, without technologies, show the same over the dictionaries and
the tables, when each create fits its columns and either has a slug that is held or refers
to a stored author and converts back, and each update has a slug that no other row holds,
fits its columns and converts back; and no two rows share a slug. -/
theorem fakes_follow (apart : SlugsApart)
    (visibilities : Collation.equal "PRIVATE" "PUBLIC" = false) {technologies : Technologies}
    {users : Users} :
    (∀ last, Machine.Reaches (both InMemoryProjectRepository.fake sqlProjects technologies)
        (projectMirrors visibilities).Allowed .empty last →
      (projectMirrors visibilities).Follows last) ∧
    ∀ last, Machine.Reaches (both InMemoryArticleRepository.fake (sqlArticles users) technologies)
        (articleMirrors users).Allowed .empty last →
      (articleMirrors users).Follows last :=
  ⟨fun _ => Mirrors.reaches_follows apart, fun _ => Mirrors.reaches_follows apart⟩

end

namespace Sample

open Content.Sample

attribute [local instance] unicode collation mysql

theorem slugsApart : SlugsApart := by
  intro first second _ _ equal
  have weights : first.toList.map Char.toNat = second.toList.map Char.toNat := eq_of_beq equal
  have chars := List.map_injective_iff.mpr (fun left right same => Char.toNat_inj.mp same) weights
  exact String.toList_inj.mp chars

theorem visibilities : Collation.equal "PRIVATE" "PUBLIC" = false := by decide

def execution (call : Call ProjectWrite) (id : UUID) : Execution ProjectWrite :=
  ⟨call, id, 0, ⟨id + 100, 0, 0⟩, 0, fun _ => 0⟩

/-- The second project is given the slug of the first one. -/
def takeover : List (Execution ProjectWrite) := [
  execution (.create (replaced "showcase" [])) 1,
  execution (.create (replaced "prototype" [])) 2,
  execution (.update 2 102 (replaced "showcase" [])) 0]

theorem fake_takes_slug :
    ¬ ∀ last, Machine.Reaches (both InMemoryProjectRepository.fake sqlProjects .empty)
        (projectMirrors visibilities).WellFormed .empty last →
      (projectMirrors visibilities).Follows last := by
  intro claim
  obtain ⟨last, executed⟩ := Option.isSome_iff_exists.mp
    (by decide : (Machine.execIf (both InMemoryProjectRepository.fake sqlProjects .empty)
      (projectMirrors visibilities).WellFormed .empty takeover).isSome)
  have slugs : (last.memory.map fun entry => entry.2.entity.slug.value) =
      ["showcase", "showcase"] :=
    Machine.read_of_map (fun last : Both ProjectRepository.repository =>
      last.memory.map fun entry => entry.2.entity.slug.value) executed (by decide)
  have follows := claim last ⟨_, Machine.Runs.of_execIf executed⟩
  have distinct := follows.memory
  change (last.memory.map fun entry => entry.2.entity.slug.value).Nodup at distinct
  rw [slugs] at distinct
  exact absurd distinct (by decide)

/-- A slug that is held, an update, lookups and a delete. -/
def session : List (Execution ProjectWrite) := [
  execution (.create (replaced "showcase" [])) 1,
  execution (.create (replaced "showcase" [])) 2,
  execution (.update 1 101 (replaced "prototype" [])) 0,
  execution (.getBySlug "prototype" true) 0,
  execution (.getById 1 101) 0,
  execution (.delete 1 101) 0,
  execution (.getBySlug "prototype" false) 0]

theorem fakes_follow_session :
    ∃ last, Machine.execIf (both InMemoryProjectRepository.fake sqlProjects .empty)
        (projectMirrors visibilities).Allowed .empty session = some last ∧
      last.answers.length = 7 ∧ (projectMirrors visibilities).Follows last := by
  obtain ⟨last, executed⟩ := Option.isSome_iff_exists.mp
    (by decide : (Machine.execIf (both InMemoryProjectRepository.fake sqlProjects .empty)
      (projectMirrors visibilities).Allowed .empty session).isSome)
  have counted : last.answers.length = 7 :=
    Machine.read_of_map (fun last : Both ProjectRepository.repository => last.answers.length)
      executed (by decide)
  have follows := (@fakes_follow _ _ _ slugsApart visibilities .empty .empty).1 last
    ⟨_, Machine.Runs.of_execIf executed⟩
  exact ⟨last, executed, counted, follows⟩

end Sample

end ChTech.Content.InMemory
