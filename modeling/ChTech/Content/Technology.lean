import ChTech.Content.Readable
import ChTech.Content.Storable
import ChTech.Infrastructure.UserRepository

/-!
# Technologies
-/

namespace ChTech.Content

open Foundation

/-- A row of `technologies`. -/
structure TechnologyModel where
  id : UUID
  name : String
  category : Option String
  icon : Option String
  officialUrl : Option String
  createdAt : Instant
  updatedAt : Instant
  deriving DecidableEq, Repr

structure Technology [PyUnicode] where
  id : UUID
  name : String
  category : Option String
  icon : Option Image
  officialUrl : Option Url
  createdAt : Instant
  updatedAt : Instant

structure TechnologyWrite where
  name : String
  category : Option String
  icon : Option String
  officialUrl : Option String
  deriving DecidableEq, Repr

/-- The query parameters of the list. -/
structure TechnologyFilters where
  category : Option String
  deriving DecidableEq, Repr

section

variable [PyUnicode]

def TechnologyWrite.accepted (payload : TechnologyWrite) : Bool :=
  maxLength 100 payload.name &&
  ifGiven (maxLength 100) payload.category &&
  ifGiven isImage payload.icon &&
  ifGiven isUrl payload.officialUrl

/-- `_to_entity`, and the `_to_technology_entity` of projects and articles. -/
def TechnologyModel.toEntity (model : TechnologyModel) : Except Raised Technology := do
  let icon ← orNone Image.postInit model.icon
  let officialUrl ← orNone Url.postInit model.officialUrl
  return {
    id := model.id
    name := model.name
    category := model.category
    icon
    officialUrl
    createdAt := model.createdAt
    updatedAt := model.updatedAt }

theorem TechnologyModel.toEntity_isOk (model : TechnologyModel) :
    model.toEntity.isOk =
      ((orNone Image.postInit model.icon).isOk && (orNone Url.postInit model.officialUrl).isOk) :=
  Result.isOk_bind_const fun _ => Result.isOk_bind_pure

end

namespace TechnologyRepository

variable [PyUnicode] [Collation]

def repository : Repository TechnologyModel TechnologyWrite Technology where
  key := TechnologyModel.id
  clash first second := first.id == second.id || Collation.equal first.name second.name
  keyed first second equal := by simp [equal]
  keeps := ⟨fun _ _ => rfl, fun _ _ => rfl, fun _ _ => rfl, fun _ => rfl⟩
  construct defaults data := {
    id := defaults.id
    name := data.name
    category := data.category
    icon := data.icon
    officialUrl := data.officialUrl
    createdAt := defaults.createdAt
    updatedAt := defaults.updatedAt }
  assign data model := { model with
    name := data.name
    category := data.category
    icon := data.icon
    officialUrl := data.officialUrl }
  touch now model := { model with updatedAt := now }
  same first second := first == second
  stored := id
  cells model := [
    .guid model.id,
    .varchar 100 model.name,
    .varchar 100 model.category,
    .text model.icon,
    .text model.officialUrl]
  checks _ := true
  conflict := .integrityError
  toEntity := TechnologyModel.toEntity

abbrev Technologies := repository.Rows

def list (technologies : Technologies) (ties : Ties) (filters : TechnologyFilters) :
    Except Raised (List Technology) :=
  repository.readAll (Query.orderBy
    (Query.ranked (fun model => Collation.weight model.name) fun model => ties [model.id])
    (technologies.rows.filter fun model =>
      filters.category.all fun category => model.category.any (Collation.equal category)))

def getById (technologies : Technologies) (technologyId : UUID) :
    Except Raised (Option Technology) :=
  repository.readOne (technologies.rows.filter fun model => model.id = technologyId)

theorem steady [Mysql] : repository.Steady :=
  .of_plain (fun _ model => (TechnologyModel.toEntity_isOk _).trans model.toEntity_isOk.symm)
    (fun _ => rfl) (fun _ _ => eq_of_beq)

theorem verdict {payload : TechnologyWrite} (accepted : payload.accepted = true) :
    repository.Verdict payload true := by
  simp only [TechnologyWrite.accepted, Bool.and_eq_true] at accepted
  obtain ⟨⟨_, icon⟩, officialUrl⟩ := accepted
  have converted : ((orNone Image.postInit payload.icon).isOk &&
      (orNone Url.postInit payload.officialUrl).isOk) = true := by
    rw [orNone_isOk icon, orNone_isOk officialUrl]
    rfl
  exact ⟨fun _ => (TechnologyModel.toEntity_isOk _).trans converted,
    fun _ => (TechnologyModel.toEntity_isOk _).trans converted⟩

theorem list_isOk {technologies : Technologies} {ties : Ties} {filters : TechnologyFilters}
    (readable : repository.Readable technologies) : (list technologies ties filters).isOk = true :=
  Repository.readAll_isOk readable fun _ member =>
    List.mem_of_mem_filter (Query.mem_orderBy.mp member)

theorem getById_isOk {technologies : Technologies} {id : UUID}
    (readable : repository.Readable technologies) : (getById technologies id).isOk = true := by
  apply Repository.readOne_isOk readable
  exact repository.clash_of_key fun _ => of_decide_eq_true

theorem plain : repository.Plain := ⟨fun _ _ => rfl, fun equal => by cases equal⟩

theorem fits [Mysql] {payload : TechnologyWrite} (accepted : payload.accepted = true) :
    repository.Fits payload true := by
  simp only [TechnologyWrite.accepted, Bool.and_eq_true] at accepted
  obtain ⟨⟨⟨name, category⟩, icon⟩, officialUrl⟩ := accepted
  have name : (Cell.varchar 100 payload.name).storable = true :=
    Cell.storable_varchar name (Nat.le_refl 100)
  have category : (Cell.varchar 100 payload.category).storable = true :=
    Cell.storable_varchar category (Nat.le_refl 100)
  have icon : (Cell.text payload.icon).storable = true :=
    Cell.storable_image icon
  have officialUrl : (Cell.text payload.officialUrl).storable = true :=
    Cell.storable_url officialUrl
  constructor
  · intro _
    simp [repository, name, category, icon, officialUrl]
  · intro _
    simp [repository, name, category, icon, officialUrl]

end TechnologyRepository

end ChTech.Content
