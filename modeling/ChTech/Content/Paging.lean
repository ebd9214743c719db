import ChTech.Content.Search
import ChTech.Content.Updates
import ChTech.Foundation.Paging

/-!
# Page after page

Reading the pages of a list until one is empty, while the engine orders the rows that the
sort column leaves tied anew for every query.  Neither list sorts by a key: titles repeat,
and the drafts among the articles have no date.
-/

namespace ChTech.Content

open Foundation

open TechnologyRepository (Technologies)

section

variable [PyUnicode] [Collation]

namespace Tagged

variable {Model Input Entity : Type} {repo : Repository Model Input Entity}

/-- The row is read back, with every technology that it is linked to. -/
def convertible (tagged : Tagged repo) (technologies : Technologies) (model : Model) : Bool :=
  (repo.toEntity model).isOk && technologies.rows.all fun technology =>
    !tagged.links.rows.contains (repo.key model, technology.id) || technology.toEntity.isOk

theorem toRow_isOk_eq (tagged : Tagged repo) (technologies : Technologies) (ties : Ties)
    (model : Model) :
    (tagged.toRow technologies ties model).isOk = tagged.convertible technologies model := by
  rw [toRow, convertible, Result.isOk_bind_const fun _ => Result.isOk_bind_pure,
    Result.isOk_mapM_eq]
  apply congrArg
  rw [Bool.eq_iff_iff, List.all_eq_true, List.all_eq_true]
  simp only [technologiesOf, Query.mem_orderBy, List.mem_filter, Bool.or_eq_true,
    Bool.not_eq_true']
  constructor
  · intro each technology stored
    cases linked : tagged.links.rows.contains (repo.key model, technology.id) with
    | false => exact .inl rfl
    | true => exact .inr (each technology ⟨stored, linked⟩)
  · rintro each technology ⟨stored, linked⟩
    rcases each technology stored with unlinked | converts
    · rw [linked] at unlinked
      cases unlinked
    · exact converts

end Tagged

omit [Collation] in
theorem ProjectModel.id_of_toEntity {model : ProjectModel} {project : Project}
    (converted : model.toEntity = .ok project) : project.id = model.id := by
  rcases Result.bind_eq_ok.mp converted with ⟨slug, _, converted⟩
  rcases Result.bind_eq_ok.mp converted with ⟨repositoryUrl, _, converted⟩
  rcases Result.bind_eq_ok.mp converted with ⟨liveDemoUrl, _, converted⟩
  rcases Result.bind_eq_ok.mp converted with ⟨coverImage, _, converted⟩
  rcases Result.bind_eq_ok.mp converted with ⟨status, _, converted⟩
  rcases Result.bind_eq_ok.mp converted with ⟨visibility, _, last⟩
  cases last
  rfl

omit [Collation] in
theorem ArticleModel.id_of_toEntity {model : ArticleModel} {article : Article}
    (converted : model.toEntity = .ok article) : article.id = model.id := by
  rcases Result.bind_eq_ok.mp converted with ⟨slug, _, converted⟩
  rcases Result.bind_eq_ok.mp converted with ⟨content, _, converted⟩
  rcases Result.bind_eq_ok.mp converted with ⟨coverImage, _, last⟩
  split at last
  next =>
    cases last
    rfl
  next => cases last

/-! ## Projects -/

namespace ProjectRepository

/-- No page of the projects, sorted, ends between two with the same value of the sort
column. -/
def Uncut (sort : String) (limit : Nat) (rows : List ProjectModel) : Prop :=
  if sort = "title" then Query.Uncut (fun model => Collation.weight model.title) limit rows
  else Query.Uncut ProjectModel.createdAt limit rows

variable [Mysql]

/-- The projects that meet every filter, the search included. -/
def meeting (projects : Projects) (technologies : Technologies) (filters : ProjectFilters)
    (publicOnly : Bool) : List ProjectModel :=
  (matching projects technologies filters publicOnly).filter (searched filters)

/-- The pages of the list from the first on; each query has its own order of ties. -/
def pages (projects : Projects) (technologies : Technologies) (ties : Nat → Ties)
    (filters : ProjectFilters) (publicOnly : Bool) (number : Nat) :
    Except Raised (List (WithTechnologies Project)) :=
  list projects technologies (ties number)
    { filters with page := Query.pageAt filters.page.limit filters.page.positive number }
    publicOnly

theorem meeting_nodup (projects : Projects) (technologies : Technologies)
    (filters : ProjectFilters) (publicOnly : Bool) :
    ((meeting projects technologies filters publicOnly).map ProjectModel.id).Nodup := by
  refine List.pairwise_map.mpr ((((projects.rows.distinct).filter _).filter _).imp ?_)
  intro first second apart equal
  simp [repository, equal] at apart

/-- A page is cut from the joined rows; no project is in it twice. -/
theorem list_eq_mapM (projects : Projects) (technologies : Technologies) (ties : Ties)
    (filters : ProjectFilters) (publicOnly : Bool) :
    list projects technologies ties filters publicOnly =
      (Query.paginate filters.page (sorted ties filters.sort
        (found projects technologies filters publicOnly))).mapM
          fun row => projects.toRow technologies ties row.1 := by
  have same : (sorted ties filters.sort (found projects technologies filters publicOnly)).Perm
      (found projects technologies filters publicOnly) := by
    simp only [sorted]
    split
    · exact List.perm_insertionSort _ _
    · exact List.perm_insertionSort _ _
  have once : ((found projects technologies filters publicOnly).map Prod.fst).Nodup := by
    rw [found_eq, List.map_map]
    apply List.Nodup.of_map ProjectModel.id
    rw [List.map_map]
    exact meeting_nodup projects technologies filters publicOnly
  have once : (Query.paginate filters.page ((sorted ties filters.sort
      (found projects technologies filters publicOnly)).map Prod.fst)).Nodup :=
    Query.nodup_paginate ((same.map Prod.fst).nodup_iff.mpr once)
  rw [Query.paginate_map] at once
  change projects.readAll technologies ties ((Query.paginate filters.page
    (sorted ties filters.sort (found projects technologies filters publicOnly))).map
      Prod.fst).eraseDups = _
  rw [Query.eraseDups_of_nodup once, Tagged.readAll, List.mapM_map]
  rfl

/-- What the engine answers, sorted by either column. -/
theorem pages_eq (projects : Projects) (technologies : Technologies) (ties : Nat → Ties)
    (filters : ProjectFilters) (publicOnly : Bool) :
    pages projects technologies ties filters publicOnly =
      if filters.sort = "title" then
        Query.answered (fun row => Collation.weight row.1.title) Prod.snd
          (fun ties row => projects.toRow technologies ties row.1) filters.page.limit
          (found projects technologies filters publicOnly) ties
      else
        Query.answered (fun row => row.1.createdAt) Prod.snd
          (fun ties row => projects.toRow technologies ties row.1) filters.page.limit
          (found projects technologies filters publicOnly) ties := by
  funext number
  rw [pages, list_eq_mapM]
  by_cases byTitle : filters.sort = "title"
  · simp only [sorted, if_pos byTitle, Query.paginate_pageAt]
    rfl
  · simp only [sorted, if_neg byTitle, Query.paginate_pageAt]
    rfl

/-- Sorted by a column, the pages have the projects exactly once if and only if none of
them cuts a tie. -/
theorem reads_iff {κ : Type} [LinearOrder κ] (key : ProjectModel → κ) (projects : Projects)
    (technologies : Technologies) (filters : ProjectFilters) (publicOnly : Bool) :
    (∀ ties, ∃ result, Query.Reads (Query.answered (fun row => key row.1) Prod.snd
          (fun ties row => projects.toRow technologies ties row.1) filters.page.limit
          (found projects technologies filters publicOnly) ties) 0 result ∧
        (result.map fun row => row.entity.id).Perm
          ((meeting projects technologies filters publicOnly).map ProjectModel.id)) ↔
      Query.Uncut key filters.page.limit (meeting projects technologies filters publicOnly) ∧
        ∀ model ∈ meeting projects technologies filters publicOnly,
          projects.convertible technologies model = true := by
  have rows := found_eq projects technologies filters publicOnly
  have idents := meeting_nodup projects technologies filters publicOnly
  change found projects technologies filters publicOnly =
    (meeting projects technologies filters publicOnly).map _ at rows
  rw [rows]
  have same : ((meeting projects technologies filters publicOnly).map fun model =>
      (model, joinedKeys projects technologies filters.technology model)).map
        (fun row => row.1.id) =
      (meeting projects technologies filters publicOnly).map ProjectModel.id := by
    rw [List.map_map]
    rfl
  have labels : (((meeting projects technologies filters publicOnly).map fun model =>
      (model, joinedKeys projects technologies filters.technology model)).map
        Prod.snd).Nodup := by
    apply List.Nodup.of_map fun keys : List UUID => keys.headD 0
    rw [List.map_map, List.map_map]
    have first : (((fun keys : List UUID => keys.headD 0) ∘ Prod.snd) ∘ fun model : ProjectModel =>
        (model, joinedKeys projects technologies filters.technology model)) = ProjectModel.id := by
      funext model
      cases technology : filters.technology with
      | none => rfl
      | some name => rfl
    rw [first]
    exact idents
  rw [← same] at idents ⊢
  rw [Query.reads_perm_iff filters.page.positive labels idents
    (fun _ _ _ converted => ProjectModel.id_of_toEntity (Tagged.toRow_eq_ok converted).1)]
  apply and_congr
  · simp only [Query.Uncut, Query.orderBy_map, List.getElem?_map, Option.map_eq_some_iff]
    constructor
    · intro uncut page last next before after
      exact uncut page _ _ ⟨last, before, rfl⟩ ⟨next, after, rfl⟩
    · rintro uncut page _ _ ⟨last, before, rfl⟩ ⟨next, after, rfl⟩
      exact uncut page last next before after
  · simp only [Tagged.toRow_isOk_eq, List.forall_mem_map]
    exact ⟨fun each => each fun _ => 0, fun each _ => each⟩

theorem pages_iff (projects : Projects) (technologies : Technologies)
    (filters : ProjectFilters) (publicOnly : Bool) :
    (∀ ties, ∃ result,
      Query.Reads (pages projects technologies ties filters publicOnly) 0 result ∧
        (result.map fun row => row.entity.id).Perm
          ((meeting projects technologies filters publicOnly).map ProjectModel.id)) ↔
      Uncut filters.sort filters.page.limit
          (meeting projects technologies filters publicOnly) ∧
        ∀ model ∈ meeting projects technologies filters publicOnly,
          projects.convertible technologies model = true := by
  simp only [pages_eq, Uncut]
  split
  · exact reads_iff (fun model => Collation.weight model.title) projects technologies filters
      publicOnly
  · exact reads_iff ProjectModel.createdAt projects technologies filters publicOnly

end ProjectRepository

/-! ## Articles -/

namespace ArticleRepository

/-- The articles that the list is about. -/
def listed (articles : Articles) (publishedOnly : Bool) : List ArticleModel :=
  articles.rows.rows.filter fun model => !publishedOnly || model.published

/-- The pages of the list from the first on; each query has its own order of ties. -/
def pages (articles : Articles) (technologies : Technologies) (ties : Nat → Ties)
    (page : Query.Page) (publishedOnly : Bool) (number : Nat) :
    Except Raised (List (WithTechnologies Article)) :=
  list articles technologies (ties number) (Query.pageAt page.limit page.positive number)
    publishedOnly

theorem listed_nodup (articles : Articles) (publishedOnly : Bool) :
    ((listed articles publishedOnly).map ArticleModel.id).Nodup := by
  refine List.pairwise_map.mpr ((articles.rows.distinct.filter _).imp ?_)
  intro first second apart equal
  simp [repository, equal] at apart

theorem pages_eq (articles : Articles) (technologies : Technologies) (ties : Nat → Ties)
    (page : Query.Page) (publishedOnly : Bool) :
    pages articles technologies ties page publishedOnly =
      Query.answered latestFirst (fun model => [model.id])
        (fun ties model => articles.toRow technologies ties model) page.limit
        (listed articles publishedOnly) ties := by
  funext number
  have once : (Query.paginate (Query.pageAt page.limit page.positive number)
      (Query.orderBy (Query.ranked latestFirst fun model => ties number [model.id])
        (listed articles publishedOnly))).Nodup := by
    apply Query.nodup_paginate
    apply (List.perm_insertionSort _ _).nodup_iff.mpr
    exact List.Nodup.of_map _ (listed_nodup articles publishedOnly)
  change articles.readAll technologies (ties number) (Query.paginate
    (Query.pageAt page.limit page.positive number)
    (Query.orderBy (Query.ranked latestFirst fun model => ties number [model.id])
      (listed articles publishedOnly))).eraseDups = _
  rw [Query.eraseDups_of_nodup once, Query.paginate_pageAt]
  rfl

theorem pages_iff (articles : Articles) (technologies : Technologies) (page : Query.Page)
    (publishedOnly : Bool) :
    (∀ ties, ∃ result,
      Query.Reads (pages articles technologies ties page publishedOnly) 0 result ∧
        (result.map fun row => row.entity.id).Perm
          ((listed articles publishedOnly).map ArticleModel.id)) ↔
      Query.Uncut latestFirst page.limit (listed articles publishedOnly) ∧
        ∀ model ∈ listed articles publishedOnly,
          articles.convertible technologies model = true := by
  have idents := listed_nodup articles publishedOnly
  have labels : ((listed articles publishedOnly).map fun model => [model.id]).Nodup := by
    have pairs := idents.map (f := fun id => [id]) List.singleton_injective
    rw [List.map_map] at pairs
    exact pairs
  simp only [pages_eq]
  rw [Query.reads_perm_iff page.positive labels idents
    (fun _ _ _ converted => ArticleModel.id_of_toEntity (Tagged.toRow_eq_ok converted).1)]
  apply and_congr_right
  intro _
  simp only [Tagged.toRow_isOk_eq]
  exact ⟨fun each => each fun _ => 0, fun each _ => each⟩

end ArticleRepository

/-- Every matching row is read exactly once, whatever the engine does with ties, if and only
if no page ends between two rows that the sort column does not tell apart, and every row is
read back at all. -/
theorem paging_exact_iff [Mysql] :
    (∀ (projects : ProjectRepository.Projects) (technologies : Technologies)
      (filters : ProjectFilters) (publicOnly : Bool),
      (∀ ties, ∃ result, Query.Reads
          (ProjectRepository.pages projects technologies ties filters publicOnly) 0 result ∧
        (result.map fun row => row.entity.id).Perm
          ((ProjectRepository.meeting projects technologies filters publicOnly).map
            ProjectModel.id)) ↔
        ProjectRepository.Uncut filters.sort filters.page.limit
            (ProjectRepository.meeting projects technologies filters publicOnly) ∧
          ∀ model ∈ ProjectRepository.meeting projects technologies filters publicOnly,
            projects.convertible technologies model = true) ∧
      ∀ (articles : ArticleRepository.Articles) (technologies : Technologies)
        (page : Query.Page) (publishedOnly : Bool),
        (∀ ties, ∃ result, Query.Reads
            (ArticleRepository.pages articles technologies ties page publishedOnly) 0 result ∧
          (result.map fun row => row.entity.id).Perm
            ((ArticleRepository.listed articles publishedOnly).map ArticleModel.id)) ↔
          Query.Uncut ArticleRepository.latestFirst page.limit
              (ArticleRepository.listed articles publishedOnly) ∧
            ∀ model ∈ ArticleRepository.listed articles publishedOnly,
              articles.convertible technologies model = true :=
  ⟨ProjectRepository.pages_iff, ArticleRepository.pages_iff⟩

end

namespace Sample

open ProjectRepository.Sample (first_page technologies projects)

attribute [local instance] unicode collation mysql

/-- One row to a page, sorted by the given column. -/
def single (sort : String) : ProjectFilters :=
  ⟨none, none, none, none, sort, ⟨1, 1, first_page, first_page⟩⟩

/-- The two projects were created at different times. -/
theorem paging_exact_byAge : ∀ ties, ∃ result,
    Query.Reads (ProjectRepository.pages projects technologies ties (single "created_at") false) 0
        result ∧ (result.map fun row => row.entity.id).Perm [1, 2] := by
  have ages : ((ProjectRepository.meeting projects technologies (single "created_at") false).map
      ProjectModel.createdAt).Nodup := by decide
  exact (paging_exact_iff.1 projects technologies (single "created_at") false).mpr
    ⟨Query.Uncut.of_nodup first_page ages, by decide⟩

/-- Another draft by the author. -/
def sequel : ArticleModel := { essay with id := 6, slug := "sequel" }

def drafts : ArticleRepository.Articles where
  rows := ((Table.singleton essay).insert? sequel).getD .empty
  links := .empty

/-- The engine puts a row first on the first page, and the other rows first afterwards. -/
def unsteady (first : UUID) (number : Nat) (keys : List UUID) : Nat :=
  if (keys.headD 0 == first) == (number == 0) then 0 else 1

theorem reads_twice {α : Type} {page : Nat → Except Raised (List α)} {shown : α → UUID}
    (id : UUID) (first : (page 0).map (List.map shown) = .ok [id])
    (second : (page 1).map (List.map shown) = .ok [id])
    (third : (page 2).map (List.map shown) = .ok []) {result : List α}
    (reads : Query.Reads page 0 result) : result.map shown = [id, id] := by
  rcases Result.map_eq_ok.mp first with ⟨front, firstPage, shownFirst⟩
  rcases Result.map_eq_ok.mp second with ⟨back, secondPage, shownSecond⟩
  rcases Result.map_eq_ok.mp third with ⟨rest, thirdPage, shownThird⟩
  rw [List.map_eq_nil_iff.mp shownThird] at thirdPage
  have nonempty : ∀ rows : List α, rows.map shown = [id] → rows ≠ [] := by
    rintro rows shownRows rfl
    cases shownRows
  have collected : Query.Reads page 0 (front ++ (back ++ [])) :=
    .more firstPage (nonempty front shownFirst)
      (.more secondPage (nonempty back shownSecond) (.stop thirdPage))
  rw [reads.unique collected, List.map_append, List.map_append, shownFirst, shownSecond]
  rfl

/-- One of two drafts is read twice and the other never, and so with two projects of the
same title. -/
theorem tied_rows_repeat :
    (¬∀ (articles : ArticleRepository.Articles) (technologies : Technologies)
      (ties : Nat → Ties) (page : Query.Page) (publishedOnly : Bool), ∃ result,
      Query.Reads (ArticleRepository.pages articles technologies ties page publishedOnly) 0
          result ∧
        (result.map fun row => row.entity.id).Perm
          ((ArticleRepository.listed articles publishedOnly).map ArticleModel.id)) ∧
      ¬∀ (projects : ProjectRepository.Projects) (technologies : Technologies)
        (ties : Nat → Ties) (filters : ProjectFilters) (publicOnly : Bool), ∃ result,
        Query.Reads (ProjectRepository.pages projects technologies ties filters publicOnly) 0
            result ∧
          (result.map fun row => row.entity.id).Perm
            ((ProjectRepository.meeting projects technologies filters publicOnly).map
              ProjectModel.id) := by
  constructor
  · intro claim
    rcases claim drafts .empty (unsteady 5) ⟨1, 1, first_page, first_page⟩ false with
      ⟨result, reads, same⟩
    rw [reads_twice 5 (by decide) (by decide) (by decide) reads] at same
    revert same
    decide
  · intro claim
    rcases claim projects technologies (unsteady 1) (single "title") false with
      ⟨result, reads, same⟩
    rw [reads_twice 1 (by decide) (by decide) (by decide) reads] at same
    revert same
    decide

end Sample

end ChTech.Content
