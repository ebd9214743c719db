import ChTech.Content.Visibility

/-!
# The project list

What the list answers without a search term, said of the stored rows: the projects that
meet every filter, in the order of the sort column, cut to the page, each with all of its
technologies.  The query joins the technologies, cuts the joined rows and removes
duplicates afterwards.  It comes to the same because a project carries at most one
technology of a name.  Names and values are equal when the database finds them equal.
-/

namespace ChTech.Content.ProjectRepository

open Foundation

open TechnologyRepository (Technologies)

section

variable [PyUnicode] [Collation]

/-- The project carries a technology of the given name. -/
def carries (projects : Projects) (technologies : Technologies) (name : String)
    (model : ProjectModel) : Bool :=
  technologies.rows.any fun technology =>
    projects.links.rows.contains (model.id, technology.id) && Collation.equal technology.name name

/-- The project meets every given filter. -/
def satisfies (projects : Projects) (technologies : Technologies) (filters : ProjectFilters)
    (publicOnly : Bool) (model : ProjectModel) : Bool :=
  (!publicOnly || isPublic model) &&
  filters.technology.all (fun name => carries projects technologies name model) &&
  filters.featured.all (· == model.featured) &&
  filters.status.all (Collation.equal model.status)

/-- The projects that the list is about, in no particular order. -/
def matching (projects : Projects) (technologies : Technologies) (filters : ProjectFilters)
    (publicOnly : Bool) : List ProjectModel :=
  projects.rows.rows.filter (satisfies projects technologies filters publicOnly)

/-- The value of the sort column. -/
def sortKey (sort : String) (model : ProjectModel) : List Nat ⊕ Instant :=
  if sort = "title" then .inl (Collation.weight model.title) else .inr model.createdAt

/-- Ascending by the sort column. -/
def ascending (sort : String) (rows : List ProjectModel) : List ProjectModel :=
  if sort = "title" then Query.orderBy (fun model => Collation.weight model.title) rows
  else Query.orderBy ProjectModel.createdAt rows

/-- `limit` of them after `(page - 1) * limit`. -/
def specified (projects : Projects) (technologies : Technologies) (filters : ProjectFilters)
    (publicOnly : Bool) : List ProjectModel :=
  Query.paginate filters.page
    (ascending filters.sort (matching projects technologies filters publicOnly))

/-- The row of an answer that a project makes: its entity, and those of the technologies that it is
linked to, each once. -/
structure Listed (projects : Projects) (technologies : Technologies) (model : ProjectModel)
    (row : WithTechnologies Project) : Prop where
  entity : model.toEntity = .ok row.entity
  technologies : ∃ linked : List TechnologyModel, linked.Nodup ∧
    (∀ technology, technology ∈ linked ↔
      technology ∈ technologies.rows ∧ (model.id, technology.id) ∈ projects.links.rows) ∧
    linked.mapM TechnologyModel.toEntity = .ok row.technologies

/-- The technologies that join a project when one is asked for. -/
def joining (projects : Projects) (technologies : Technologies) (name : String)
    (model : ProjectModel) : List TechnologyModel :=
  technologies.rows.filter fun technology =>
    projects.links.rows.contains (model.id, technology.id) && Collation.equal technology.name name

/-- The primary keys of the row that a project makes in the join. -/
def joinedKeys (projects : Projects) (technologies : Technologies) (technology : Option String)
    (model : ProjectModel) : List UUID :=
  match technology with
  | none => [model.id]
  | some name => model.id :: (joining projects technologies name model).map TechnologyModel.id

/-- Technology names are unique, so a project joins at most one of them. -/
theorem joining_length (projects : Projects) (technologies : Technologies) (name : String)
    (model : ProjectModel) : (joining projects technologies name model).length ≤ 1 := by
  apply Table.length_filter_le_one
  intro first second firstSelected secondSelected
  rw [Bool.and_eq_true] at firstSelected secondSelected
  simp [TechnologyRepository.repository,
    Collation.equal_trans firstSelected.2 secondSelected.2]

theorem carries_eq (projects : Projects) (technologies : Technologies) (name : String)
    (model : ProjectModel) :
    carries projects technologies name model =
      !(joining projects technologies name model).isEmpty := by
  rw [Bool.eq_iff_iff]
  simp [carries, joining, List.filter_eq_nil_iff]

/-- The join has one row for each project that carries the technology. -/
theorem joined_eq (projects : Projects) (technologies : Technologies)
    (technology : Option String) (rows : List ProjectModel) :
    joined projects technologies technology rows =
      (rows.filter fun model =>
        technology.all fun name => carries projects technologies name model).map
        fun model => (model, joinedKeys projects technologies technology model) := by
  cases technology with
  | none => simp [joined, joinedKeys]
  | some name =>
      change rows.flatMap (fun model => (joining projects technologies name model).map
        fun technology => (model, [model.id, technology.id])) = _
      induction rows with
      | nil => rfl
      | cons model rest ih =>
          rw [List.flatMap_cons, ih]
          have single := joining_length projects technologies name model
          have carried := carries_eq projects technologies name model
          rcases found : joining projects technologies name model with
            _ | ⟨technology, _ | ⟨other, others⟩⟩
          · rw [found] at carried
            simp [carried]
          · rw [found] at carried
            simp [carried, joinedKeys, found]
          · rw [found] at single
            simp at single

/-! ## The query -/

omit [PyUnicode] in
/-- Without ties the joined rows are sorted as the projects they are made of. -/
theorem sorted_map {ties : Ties} {sort : String} {rows : List ProjectModel}
    (keys : ProjectModel → List UUID) (distinct : (rows.map (sortKey sort)).Nodup) :
    sorted ties sort (rows.map fun model => (model, keys model)) =
      (ascending sort rows).map fun model => (model, keys model) := by
  by_cases byTitle : sort = "title"
  · have unlike : (rows.map fun model => Collation.weight model.title).Nodup := by
      have key : sortKey sort = fun model => Sum.inl (Collation.weight model.title) := by
        funext model
        exact if_pos byTitle
      rw [key] at distinct
      apply List.Nodup.of_map Sum.inl
      rw [List.map_map]
      exact distinct
    simp only [sorted, ascending, if_pos byTitle]
    rw [Query.orderBy_map]
    exact congrArg _ (Query.orderBy_ranked unlike)
  · have unlike : (rows.map ProjectModel.createdAt).Nodup := by
      have key : sortKey sort = fun model => Sum.inr model.createdAt := by
        funext model
        exact if_neg byTitle
      rw [key] at distinct
      apply List.Nodup.of_map Sum.inr
      rw [List.map_map]
      exact distinct
    simp only [sorted, ascending, if_neg byTitle]
    rw [Query.orderBy_map]
    exact congrArg _ (Query.orderBy_ranked unlike)

omit [PyUnicode] in
theorem ascending_perm (sort : String) (rows : List ProjectModel) :
    (ascending sort rows).Perm rows := by
  simp only [ascending]
  split
  · exact List.perm_insertionSort _ rows
  · exact List.perm_insertionSort _ rows

/-- No project is stored twice. -/
theorem rows_nodup (projects : Projects) : projects.rows.rows.Nodup := by
  refine projects.rows.distinct.imp ?_
  intro first second apart equal
  rw [equal] at apart
  simp [repository] at apart

theorem specified_nodup (projects : Projects) (technologies : Technologies)
    (filters : ProjectFilters) (publicOnly : Bool) :
    (specified projects technologies filters publicOnly).Nodup := by
  apply Query.nodup_paginate
  apply (ascending_perm filters.sort _).nodup_iff.mpr
  exact (rows_nodup projects).filter _

theorem mem_technologiesOf {projects : Projects} {technologies : Technologies} {ties : Ties}
    {owner : UUID} {technology : TechnologyModel} :
    technology ∈ projects.technologiesOf technologies ties owner ↔
      technology ∈ technologies.rows ∧ (owner, technology.id) ∈ projects.links.rows := by
  simp only [Tagged.technologiesOf, Query.mem_orderBy, List.mem_filter, List.contains_iff_mem]

theorem technologiesOf_nodup (projects : Projects) (technologies : Technologies) (ties : Ties)
    (owner : UUID) : (projects.technologiesOf technologies ties owner).Nodup := by
  have rows : technologies.rows.Nodup := by
    refine technologies.distinct.imp ?_
    intro first second apart equal
    rw [equal] at apart
    simp [TechnologyRepository.repository] at apart
  exact (List.perm_insertionSort _ _).nodup_iff.mpr (rows.filter _)

/-- Every row that is read carries what its project is linked to. -/
theorem listed_of_readAll {projects : Projects} {technologies : Technologies} {ties : Ties}
    {selected : List ProjectModel} {rows : List (WithTechnologies Project)}
    (read : projects.readAll technologies ties selected = .ok rows) :
    List.Forall₂ (Listed projects technologies) selected rows := by
  refine (Result.forall₂_of_mapM read).imp ?_
  intro model row converted
  rcases Tagged.toRow_eq_ok converted with ⟨entity, linked⟩
  exact ⟨entity, _, technologiesOf_nodup projects technologies ties model.id,
    fun _ => mem_technologiesOf, linked⟩

variable [Mysql]

/-- The joined rows that the `WHERE` clauses keep. -/
def found (projects : Projects) (technologies : Technologies) (filters : ProjectFilters)
    (publicOnly : Bool) : List (ProjectModel × List UUID) :=
  (joined projects technologies filters.technology
    (projects.rows.rows.filter fun model => !publicOnly || isPublic model)).filter
      fun row => meets filters row.1

/-- The title meets the search term, if there is one. -/
def searched (filters : ProjectFilters) (model : ProjectModel) : Bool :=
  filters.search.all fun search => titleMatches search model

/-- They are the matching projects with the searched title. -/
theorem found_eq (projects : Projects) (technologies : Technologies) (filters : ProjectFilters)
    (publicOnly : Bool) : found projects technologies filters publicOnly =
      ((matching projects technologies filters publicOnly).filter (searched filters)).map
        fun model => (model, joinedKeys projects technologies filters.technology model) := by
  rw [found, joined_eq, List.filter_map, List.filter_filter, List.filter_filter, matching,
    List.filter_filter]
  apply congrArg
  apply List.filter_congr
  intro model _
  rw [Bool.eq_iff_iff]
  simp only [Function.comp_apply, meets, satisfies, searched, Bool.and_eq_true]
  tauto

end

namespace Sample

open Content.Sample

attribute [local instance] unicode collation mysql

def python : TechnologyModel where
  id := 10
  name := "Python"
  category := some "Language"
  icon := none
  officialUrl := none
  createdAt := 0
  updatedAt := 0

def fastApi : TechnologyModel :=
  { python with id := 11, name := "FastAPI", category := some "Framework" }

def technologies : Technologies :=
  ((Table.singleton python).insert? fastApi).getD .empty

/-- Two projects that share a technology; the first one carries another besides. -/
def projects : Projects where
  rows := ((Table.singleton showcase).insert? prototype).getD .empty
  links := [(1, 10), (1, 11), (2, 10)].foldl
    (fun links link => (links.insert? link).getD .empty) .empty

theorem first_page : 1 ≤ 1 := Nat.le_refl 1

/-- All projects in Python, by their age. -/
def filters : ProjectFilters where
  technology := some "Python"
  featured := none
  status := none
  search := none
  sort := "created_at"
  page := ⟨1, 20, first_page, by decide⟩

/-- Both projects are found, the older one first. -/
example : specified projects technologies filters false = [prototype, showcase] := by decide

end Sample

end ChTech.Content.ProjectRepository
