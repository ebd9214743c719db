import ChTech.Content.Technology
import ChTech.Domain.Enums

/-!
# Service lines, services and products
-/

namespace ChTech.Content

open Foundation

/-! ## Service lines -/

/-- A row of `service_lines`. -/
structure ServiceLineModel where
  id : UUID
  slug : String
  name : String
  description : Option String
  icon : Option String
  displayOrder : Int
  createdAt : Instant
  updatedAt : Instant
  deriving DecidableEq, Repr

/-- One of the business lines. -/
structure ServiceLine [PyUnicode] where
  id : UUID
  slug : Slug
  name : String
  description : Option String
  icon : Option Image
  displayOrder : Int
  createdAt : Instant
  updatedAt : Instant

structure ServiceLineWrite where
  slug : String
  name : String
  description : Option String
  icon : Option String
  displayOrder : Int
  deriving DecidableEq, Repr

section

variable [PyUnicode]

def ServiceLineWrite.accepted (payload : ServiceLineWrite) : Bool :=
  maxLength 150 payload.slug &&
  maxLength 150 payload.name &&
  ifGiven (maxLength 2000) payload.description &&
  ifGiven isImage payload.icon

/-- `_to_entity`. -/
def ServiceLineModel.toEntity (model : ServiceLineModel) : Except Raised ServiceLine := do
  let slug ← Slug.postInit model.slug
  let icon ← orNone Image.postInit model.icon
  return {
    id := model.id
    slug
    name := model.name
    description := model.description
    icon
    displayOrder := model.displayOrder
    createdAt := model.createdAt
    updatedAt := model.updatedAt }

theorem ServiceLineModel.toEntity_isOk (model : ServiceLineModel) :
    model.toEntity.isOk =
      ((Slug.postInit model.slug).isOk && (orNone Image.postInit model.icon).isOk) :=
  Result.isOk_bind_const fun _ => Result.isOk_bind_pure

end

namespace ServiceLineRepository

variable [PyUnicode] [Collation]

def repository : Repository ServiceLineModel ServiceLineWrite ServiceLine where
  key := ServiceLineModel.id
  clash first second := first.id == second.id || Collation.equal first.slug second.slug
  keyed first second equal := by simp [equal]
  keeps := ⟨fun _ _ => rfl, fun _ _ => rfl, fun _ _ => rfl, fun _ => rfl⟩
  construct defaults data := {
    id := defaults.id
    slug := data.slug
    name := data.name
    description := data.description
    icon := data.icon
    displayOrder := data.displayOrder
    createdAt := defaults.createdAt
    updatedAt := defaults.updatedAt }
  assign data model := { model with
    slug := data.slug
    name := data.name
    description := data.description
    icon := data.icon
    displayOrder := data.displayOrder }
  touch now model := { model with updatedAt := now }
  same first second := first == second
  stored := id
  cells model := [
    .guid model.id,
    .varchar 150 model.slug,
    .varchar 150 model.name,
    .text model.description,
    .text model.icon,
    .integer model.displayOrder]
  checks _ := true
  conflict := .app (.conflictError "A service line with this slug already exists")
  toEntity := ServiceLineModel.toEntity

abbrev ServiceLines := repository.Rows

def list (serviceLines : ServiceLines) (ties : Ties) : Except Raised (List ServiceLine) :=
  repository.readAll (Query.orderBy
    (Query.ranked ServiceLineModel.displayOrder fun model => ties [model.id]) serviceLines.rows)

def getBySlug (serviceLines : ServiceLines) (slug : String) :
    Except Raised (Option ServiceLine) :=
  repository.readOne (serviceLines.rows.filter fun model => Collation.equal model.slug slug)

theorem steady [Mysql] : repository.Steady :=
  .of_plain (fun _ model => (ServiceLineModel.toEntity_isOk _).trans model.toEntity_isOk.symm)
    (fun _ => rfl) (fun _ _ => eq_of_beq)

theorem verdict {payload : ServiceLineWrite} (accepted : payload.accepted = true) :
    repository.Verdict payload (slugRe payload.slug) := by
  simp only [ServiceLineWrite.accepted, Bool.and_eq_true] at accepted
  obtain ⟨_, icon⟩ := accepted
  have converted : ((Slug.postInit payload.slug).isOk &&
      (orNone Image.postInit payload.icon).isOk) = slugRe payload.slug := by
    rw [orNone_isOk icon, Slug.postInit_isOk, Bool.and_true]
  exact ⟨fun _ => (ServiceLineModel.toEntity_isOk _).trans converted,
    fun _ => (ServiceLineModel.toEntity_isOk _).trans converted⟩

theorem list_isOk {serviceLines : ServiceLines} {ties : Ties}
    (readable : repository.Readable serviceLines) : (list serviceLines ties).isOk = true :=
  Repository.readAll_isOk readable fun _ member => Query.mem_orderBy.mp member

theorem getBySlug_isOk {serviceLines : ServiceLines} {slug : String}
    (readable : repository.Readable serviceLines) : (getBySlug serviceLines slug).isOk = true := by
  apply Repository.readOne_isOk readable
  intro first second firstSelected secondSelected
  simp [repository, Collation.equal_trans firstSelected secondSelected]

theorem plain : repository.Plain := ⟨fun _ _ => rfl, fun equal => by cases equal⟩

theorem fits [Mysql] {payload : ServiceLineWrite} (accepted : payload.accepted = true) :
    repository.Fits payload (Cell.integer payload.displayOrder).storable := by
  simp only [ServiceLineWrite.accepted, Bool.and_eq_true] at accepted
  obtain ⟨⟨⟨slug, name⟩, description⟩, icon⟩ := accepted
  have slug : (Cell.varchar 150 payload.slug).storable = true :=
    Cell.storable_varchar slug (Nat.le_refl 150)
  have name : (Cell.varchar 150 payload.name).storable = true :=
    Cell.storable_varchar name (Nat.le_refl 150)
  have description : (Cell.text payload.description).storable = true :=
    Cell.storable_text description (by decide)
  have icon : (Cell.text payload.icon).storable = true :=
    Cell.storable_image icon
  constructor
  · intro _
    simp [repository, slug, name, description, icon]
  · intro _
    simp [repository, slug, name, description, icon]

end ServiceLineRepository

/-! ## Services -/

/-- A row of `services`. -/
structure ServiceModel where
  id : UUID
  title : String
  slug : String
  description : Option String
  featured : Bool
  active : Bool
  serviceLineId : Option UUID
  createdAt : Instant
  updatedAt : Instant
  deriving DecidableEq, Repr

/-- A professional service offered. -/
structure Service where
  id : UUID
  serviceLineId : Option UUID
  title : String
  slug : Slug
  description : Option String
  featured : Bool
  active : Bool
  createdAt : Instant
  updatedAt : Instant
  deriving DecidableEq

structure ServiceWrite where
  slug : String
  title : String
  description : Option String
  featured : Bool
  active : Bool
  deriving DecidableEq, Repr

def ServiceWrite.accepted (payload : ServiceWrite) : Bool :=
  maxLength 150 payload.slug &&
  maxLength 255 payload.title &&
  ifGiven (maxLength 2000) payload.description

/-- `_to_entity`. -/
def ServiceModel.toEntity (model : ServiceModel) : Except Raised Service := do
  let slug ← Slug.postInit model.slug
  return {
    id := model.id
    serviceLineId := model.serviceLineId
    title := model.title
    slug
    description := model.description
    featured := model.featured
    active := model.active
    createdAt := model.createdAt
    updatedAt := model.updatedAt }

theorem ServiceModel.toEntity_isOk (model : ServiceModel) :
    model.toEntity.isOk = (Slug.postInit model.slug).isOk :=
  Result.isOk_bind_pure

namespace ServiceRepository

variable [Collation]

def repository : Repository ServiceModel ServiceWrite Service where
  key := ServiceModel.id
  clash first second := first.id == second.id || Collation.equal first.slug second.slug
  keyed first second equal := by simp [equal]
  keeps := ⟨fun _ _ => rfl, fun _ _ => rfl, fun _ _ => rfl, fun _ => rfl⟩
  construct defaults data := {
    id := defaults.id
    title := data.title
    slug := data.slug
    description := data.description
    featured := data.featured
    active := data.active
    serviceLineId := none
    createdAt := defaults.createdAt
    updatedAt := defaults.updatedAt }
  assign data model := { model with
    slug := data.slug
    title := data.title
    description := data.description
    featured := data.featured
    active := data.active }
  touch now model := { model with updatedAt := now }
  same first second := first == second
  stored := id
  cells model := [
    .guid model.id,
    .varchar 255 model.title,
    .varchar 150 model.slug,
    .text model.description,
    .boolean model.featured,
    .boolean model.active,
    .guid model.serviceLineId]
  checks _ := true
  conflict := .app (.conflictError "A service with this slug already exists")
  toEntity := ServiceModel.toEntity

abbrev Services := repository.Rows

def list (services : Services) (ties : Ties) (activeOnly : Bool) : Except Raised (List Service) :=
  repository.readAll (Query.orderBy
    (Query.ranked (fun model => Collation.weight model.title) fun model => ties [model.id])
    (services.rows.filter fun model => !activeOnly || model.active))

def getBySlug (services : Services) (slug : String) (activeOnly : Bool) :
    Except Raised (Option Service) :=
  repository.readOne (services.rows.filter fun model =>
    Collation.equal model.slug slug && (!activeOnly || model.active))

def getById (services : Services) (serviceId : UUID) : Except Raised (Option Service) :=
  repository.readOne (services.rows.filter fun model => model.id = serviceId)

theorem steady [Mysql] : repository.Steady :=
  .of_plain (fun _ model => (ServiceModel.toEntity_isOk _).trans model.toEntity_isOk.symm)
    (fun _ => rfl) (fun _ _ => eq_of_beq)

theorem verdict {payload : ServiceWrite} :
    repository.Verdict payload (slugRe payload.slug) where
  construct _ := (ServiceModel.toEntity_isOk _).trans (Slug.postInit_isOk payload.slug)
  assign _ := (ServiceModel.toEntity_isOk _).trans (Slug.postInit_isOk payload.slug)

theorem list_isOk {services : Services} {ties : Ties} {activeOnly : Bool}
    (readable : repository.Readable services) : (list services ties activeOnly).isOk = true :=
  Repository.readAll_isOk readable fun _ member =>
    List.mem_of_mem_filter (Query.mem_orderBy.mp member)

theorem getBySlug_isOk {services : Services} {slug : String} {activeOnly : Bool}
    (readable : repository.Readable services) :
    (getBySlug services slug activeOnly).isOk = true := by
  apply Repository.readOne_isOk readable
  intro first second firstSelected secondSelected
  rw [Bool.and_eq_true] at firstSelected secondSelected
  simp [repository, Collation.equal_trans firstSelected.1 secondSelected.1]

theorem getById_isOk {services : Services} {id : UUID}
    (readable : repository.Readable services) : (getById services id).isOk = true := by
  apply Repository.readOne_isOk readable
  exact repository.clash_of_key fun _ => of_decide_eq_true

theorem plain : repository.Plain := ⟨fun _ _ => rfl, fun equal => by cases equal⟩

theorem fits [Mysql] {payload : ServiceWrite} (accepted : payload.accepted = true) :
    repository.Fits payload true := by
  simp only [ServiceWrite.accepted, Bool.and_eq_true] at accepted
  obtain ⟨⟨slug, title⟩, description⟩ := accepted
  have slug : (Cell.varchar 150 payload.slug).storable = true :=
    Cell.storable_varchar slug (Nat.le_refl 150)
  have title : (Cell.varchar 255 payload.title).storable = true :=
    Cell.storable_varchar title (Nat.le_refl 255)
  have description : (Cell.text payload.description).storable = true :=
    Cell.storable_text description (by decide)
  constructor
  · intro _
    simp [repository, slug, title, description]
  · intro _
    simp [repository, slug, title, description]

end ServiceRepository

/-! ## Products -/

/-- A row of `products`. -/
structure ProductModel where
  id : UUID
  slug : String
  name : String
  shortDescription : Option String
  fullDescription : Option String
  status : String
  url : Option String
  logo : Option String
  featured : Bool
  createdAt : Instant
  updatedAt : Instant
  deriving DecidableEq, Repr

/-- An entry of the product catalog. -/
structure Product [PyUnicode] where
  id : UUID
  slug : Slug
  name : String
  shortDescription : Option String
  fullDescription : Option String
  status : ProductStatus
  url : Option Url
  logo : Option Image
  featured : Bool
  createdAt : Instant
  updatedAt : Instant

structure ProductWrite where
  slug : String
  name : String
  shortDescription : Option String
  fullDescription : Option String
  status : ProductStatus
  url : Option String
  logo : Option String
  featured : Bool
  deriving DecidableEq, Repr

section

variable [PyUnicode]

def ProductWrite.accepted (payload : ProductWrite) : Bool :=
  maxLength 150 payload.slug &&
  maxLength 255 payload.name &&
  ifGiven (maxLength 500) payload.shortDescription &&
  ifGiven (maxLength 20000) payload.fullDescription &&
  ifGiven isUrl payload.url &&
  ifGiven isImage payload.logo

/-- `_to_entity`. -/
def ProductModel.toEntity (model : ProductModel) : Except Raised Product := do
  let slug ← Slug.postInit model.slug
  let status ← ProductStatus.ofValue model.status
  let url ← orNone Url.postInit model.url
  let logo ← orNone Image.postInit model.logo
  return {
    id := model.id
    slug
    name := model.name
    shortDescription := model.shortDescription
    fullDescription := model.fullDescription
    status
    url
    logo
    featured := model.featured
    createdAt := model.createdAt
    updatedAt := model.updatedAt }

theorem ProductModel.toEntity_isOk (model : ProductModel) :
    model.toEntity.isOk =
      ((Slug.postInit model.slug).isOk && ((ProductStatus.ofValue model.status).isOk &&
        ((orNone Url.postInit model.url).isOk && (orNone Image.postInit model.logo).isOk))) :=
  Result.isOk_bind_const fun _ => Result.isOk_bind_const fun _ =>
    Result.isOk_bind_const fun _ => Result.isOk_bind_pure

end

namespace ProductRepository

variable [PyUnicode] [Collation]

def repository : Repository ProductModel ProductWrite Product where
  key := ProductModel.id
  clash first second := first.id == second.id || Collation.equal first.slug second.slug
  keyed first second equal := by simp [equal]
  keeps := ⟨fun _ _ => rfl, fun _ _ => rfl, fun _ _ => rfl, fun _ => rfl⟩
  construct defaults data := {
    id := defaults.id
    slug := data.slug
    name := data.name
    shortDescription := data.shortDescription
    fullDescription := data.fullDescription
    status := data.status.value
    url := data.url
    logo := data.logo
    featured := data.featured
    createdAt := defaults.createdAt
    updatedAt := defaults.updatedAt }
  assign data model := { model with
    slug := data.slug
    name := data.name
    shortDescription := data.shortDescription
    fullDescription := data.fullDescription
    status := data.status.value
    url := data.url
    logo := data.logo
    featured := data.featured }
  touch now model := { model with updatedAt := now }
  same first second := first == second
  stored := id
  cells model := [
    .guid model.id,
    .varchar 150 model.slug,
    .varchar 255 model.name,
    .text model.shortDescription,
    .text model.fullDescription,
    .varchar 50 model.status,
    .text model.url,
    .text model.logo,
    .boolean model.featured]
  checks model := ["WAITLIST", "BETA", "LIVE"].any (Collation.equal model.status)
  conflict := .app (.conflictError "A product with this slug already exists")
  toEntity := ProductModel.toEntity

abbrev Products := repository.Rows

def list (products : Products) (ties : Ties) : Except Raised (List Product) :=
  repository.readAll (Query.orderBy
    (Query.ranked (fun model => Collation.weight model.name) fun model => ties [model.id])
    products.rows)

def getBySlug (products : Products) (slug : String) : Except Raised (Option Product) :=
  repository.readOne (products.rows.filter fun model => Collation.equal model.slug slug)

theorem steady [Mysql] : repository.Steady :=
  .of_plain (fun _ model => (ProductModel.toEntity_isOk _).trans model.toEntity_isOk.symm)
    (fun _ => rfl) (fun _ _ => eq_of_beq)

theorem verdict {payload : ProductWrite} (accepted : payload.accepted = true) :
    repository.Verdict payload (slugRe payload.slug) := by
  simp only [ProductWrite.accepted, Bool.and_eq_true] at accepted
  obtain ⟨⟨_, url⟩, logo⟩ := accepted
  have converted : ((Slug.postInit payload.slug).isOk &&
      ((ProductStatus.ofValue payload.status.value).isOk &&
        ((orNone Url.postInit payload.url).isOk && (orNone Image.postInit payload.logo).isOk))) =
      slugRe payload.slug := by
    rw [orNone_isOk url, orNone_isOk logo, Slug.postInit_isOk, ProductStatus.ofValue_value,
      Result.isOk_ok, Bool.and_true, Bool.and_true, Bool.and_true]
  exact ⟨fun _ => (ProductModel.toEntity_isOk _).trans converted,
    fun _ => (ProductModel.toEntity_isOk _).trans converted⟩

theorem list_isOk {products : Products} {ties : Ties}
    (readable : repository.Readable products) : (list products ties).isOk = true :=
  Repository.readAll_isOk readable fun _ member => Query.mem_orderBy.mp member

theorem getBySlug_isOk {products : Products} {slug : String}
    (readable : repository.Readable products) : (getBySlug products slug).isOk = true := by
  apply Repository.readOne_isOk readable
  intro first second firstSelected secondSelected
  simp [repository, Collation.equal_trans firstSelected secondSelected]

theorem plain : repository.Plain := ⟨fun _ _ => rfl, fun equal => by cases equal⟩

theorem fits [Mysql] {payload : ProductWrite} (accepted : payload.accepted = true) :
    repository.Fits payload (Cell.text payload.fullDescription).storable := by
  simp only [ProductWrite.accepted, Bool.and_eq_true] at accepted
  obtain ⟨⟨⟨⟨⟨slug, name⟩, shortDescription⟩, _⟩, url⟩, logo⟩ := accepted
  have slug : (Cell.varchar 150 payload.slug).storable = true :=
    Cell.storable_varchar slug (Nat.le_refl 150)
  have name : (Cell.varchar 255 payload.name).storable = true :=
    Cell.storable_varchar name (Nat.le_refl 255)
  have shortDescription : (Cell.text payload.shortDescription).storable = true :=
    Cell.storable_text shortDescription (by decide)
  have status : (Cell.varchar 50 payload.status.value).storable = true := by
    cases payload.status <;> rfl
  have url : (Cell.text payload.url).storable = true :=
    Cell.storable_url url
  have logo : (Cell.text payload.logo).storable = true :=
    Cell.storable_image logo
  constructor
  · intro _
    simp [repository, slug, name, shortDescription, status, url, logo]
  · intro _
    simp [repository, slug, name, shortDescription, status, url, logo]

end ProductRepository

end ChTech.Content
