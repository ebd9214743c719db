import ChTech.Content.Technology

/-!
# Clients and partners
-/

namespace ChTech.Content

open Foundation

/-! ## Clients -/

/-- A row of `clients`. -/
structure ClientModel where
  id : UUID
  name : String
  logo : Option String
  industry : Option String
  websiteUrl : Option String
  createdAt : Instant
  updatedAt : Instant
  deriving DecidableEq, Repr

/-- A company CH-TECH has worked with. -/
structure Client [PyUnicode] where
  id : UUID
  name : String
  logo : Option Image
  industry : Option String
  websiteUrl : Option Url
  createdAt : Instant
  updatedAt : Instant

structure ClientWrite where
  name : String
  logo : Option String
  industry : Option String
  websiteUrl : Option String
  deriving DecidableEq, Repr

section

variable [PyUnicode]

def ClientWrite.accepted (payload : ClientWrite) : Bool :=
  maxLength 255 payload.name &&
  ifGiven isImage payload.logo &&
  ifGiven (maxLength 150) payload.industry &&
  ifGiven isUrl payload.websiteUrl

/-- `_to_entity`. -/
def ClientModel.toEntity (model : ClientModel) : Except Raised Client := do
  let logo ← orNone Image.postInit model.logo
  let websiteUrl ← orNone Url.postInit model.websiteUrl
  return {
    id := model.id
    name := model.name
    logo
    industry := model.industry
    websiteUrl
    createdAt := model.createdAt
    updatedAt := model.updatedAt }

theorem ClientModel.toEntity_isOk (model : ClientModel) :
    model.toEntity.isOk =
      ((orNone Image.postInit model.logo).isOk && (orNone Url.postInit model.websiteUrl).isOk) :=
  Result.isOk_bind_const fun _ => Result.isOk_bind_pure

end

namespace ClientRepository

variable [PyUnicode]

def repository : Repository ClientModel ClientWrite Client where
  key := ClientModel.id
  clash first second := first.id == second.id
  keyed first second equal := by simp [equal]
  keeps := ⟨fun _ _ => rfl, fun _ _ => rfl, fun _ _ => rfl, fun _ => rfl⟩
  construct defaults data := {
    id := defaults.id
    name := data.name
    logo := data.logo
    industry := data.industry
    websiteUrl := data.websiteUrl
    createdAt := defaults.createdAt
    updatedAt := defaults.updatedAt }
  assign data model := { model with
    name := data.name
    logo := data.logo
    industry := data.industry
    websiteUrl := data.websiteUrl }
  touch now model := { model with updatedAt := now }
  same first second := first == second
  stored := id
  cells model := [
    .guid model.id,
    .varchar 255 model.name,
    .text model.logo,
    .varchar 150 model.industry,
    .text model.websiteUrl]
  checks _ := true
  conflict := .integrityError
  toEntity := ClientModel.toEntity

abbrev Clients := repository.Rows

def list [Collation] (clients : Clients) (ties : Ties) : Except Raised (List Client) :=
  repository.readAll (Query.orderBy
    (Query.ranked (fun model => Collation.weight model.name) fun model => ties [model.id])
    clients.rows)

def getById (clients : Clients) (clientId : UUID) : Except Raised (Option Client) :=
  repository.readOne (clients.rows.filter fun model => model.id = clientId)

theorem steady [Mysql] : repository.Steady :=
  .of_plain (fun _ model => (ClientModel.toEntity_isOk _).trans model.toEntity_isOk.symm)
    (fun _ => rfl) (fun _ _ => eq_of_beq)

theorem verdict {payload : ClientWrite} (accepted : payload.accepted = true) :
    repository.Verdict payload true := by
  simp only [ClientWrite.accepted, Bool.and_eq_true] at accepted
  obtain ⟨⟨⟨_, logo⟩, _⟩, websiteUrl⟩ := accepted
  have converted : ((orNone Image.postInit payload.logo).isOk &&
      (orNone Url.postInit payload.websiteUrl).isOk) = true := by
    rw [orNone_isOk logo, orNone_isOk websiteUrl]
    rfl
  exact ⟨fun _ => (ClientModel.toEntity_isOk _).trans converted,
    fun _ => (ClientModel.toEntity_isOk _).trans converted⟩

theorem list_isOk [Collation] {clients : Clients} {ties : Ties}
    (readable : repository.Readable clients) : (list clients ties).isOk = true :=
  Repository.readAll_isOk readable fun _ member => Query.mem_orderBy.mp member

theorem getById_isOk {clients : Clients} {id : UUID}
    (readable : repository.Readable clients) : (getById clients id).isOk = true := by
  apply Repository.readOne_isOk readable
  exact repository.clash_of_key fun _ => of_decide_eq_true

theorem plain : repository.Plain := ⟨fun _ _ => rfl, fun equal => by cases equal⟩

theorem fits [Mysql] {payload : ClientWrite} (accepted : payload.accepted = true) :
    repository.Fits payload true := by
  simp only [ClientWrite.accepted, Bool.and_eq_true] at accepted
  obtain ⟨⟨⟨name, logo⟩, industry⟩, websiteUrl⟩ := accepted
  have name : (Cell.varchar 255 payload.name).storable = true :=
    Cell.storable_varchar name (Nat.le_refl 255)
  have logo : (Cell.text payload.logo).storable = true :=
    Cell.storable_image logo
  have industry : (Cell.varchar 150 payload.industry).storable = true :=
    Cell.storable_varchar industry (Nat.le_refl 150)
  have websiteUrl : (Cell.text payload.websiteUrl).storable = true :=
    Cell.storable_url websiteUrl
  constructor
  · intro _
    simp [repository, name, logo, industry, websiteUrl]
  · intro _
    simp [repository, name, logo, industry, websiteUrl]

end ClientRepository

/-! ## Partners -/

/-- A row of `partners`. -/
structure PartnerModel where
  id : UUID
  name : String
  logo : Option String
  partnershipType : Option String
  websiteUrl : Option String
  createdAt : Instant
  updatedAt : Instant
  deriving DecidableEq, Repr

/-- A technology or business alliance. -/
structure Partner [PyUnicode] where
  id : UUID
  name : String
  logo : Option Image
  partnershipType : Option String
  websiteUrl : Option Url
  createdAt : Instant
  updatedAt : Instant

structure PartnerWrite where
  name : String
  logo : Option String
  partnershipType : Option String
  websiteUrl : Option String
  deriving DecidableEq, Repr

section

variable [PyUnicode]

def PartnerWrite.accepted (payload : PartnerWrite) : Bool :=
  maxLength 255 payload.name &&
  ifGiven isImage payload.logo &&
  ifGiven (maxLength 100) payload.partnershipType &&
  ifGiven isUrl payload.websiteUrl

/-- `_to_entity`. -/
def PartnerModel.toEntity (model : PartnerModel) : Except Raised Partner := do
  let logo ← orNone Image.postInit model.logo
  let websiteUrl ← orNone Url.postInit model.websiteUrl
  return {
    id := model.id
    name := model.name
    logo
    partnershipType := model.partnershipType
    websiteUrl
    createdAt := model.createdAt
    updatedAt := model.updatedAt }

theorem PartnerModel.toEntity_isOk (model : PartnerModel) :
    model.toEntity.isOk =
      ((orNone Image.postInit model.logo).isOk && (orNone Url.postInit model.websiteUrl).isOk) :=
  Result.isOk_bind_const fun _ => Result.isOk_bind_pure

end

namespace PartnerRepository

variable [PyUnicode]

def repository : Repository PartnerModel PartnerWrite Partner where
  key := PartnerModel.id
  clash first second := first.id == second.id
  keyed first second equal := by simp [equal]
  keeps := ⟨fun _ _ => rfl, fun _ _ => rfl, fun _ _ => rfl, fun _ => rfl⟩
  construct defaults data := {
    id := defaults.id
    name := data.name
    logo := data.logo
    partnershipType := data.partnershipType
    websiteUrl := data.websiteUrl
    createdAt := defaults.createdAt
    updatedAt := defaults.updatedAt }
  assign data model := { model with
    name := data.name
    logo := data.logo
    partnershipType := data.partnershipType
    websiteUrl := data.websiteUrl }
  touch now model := { model with updatedAt := now }
  same first second := first == second
  stored := id
  cells model := [
    .guid model.id,
    .varchar 255 model.name,
    .text model.logo,
    .varchar 100 model.partnershipType,
    .text model.websiteUrl]
  checks _ := true
  conflict := .integrityError
  toEntity := PartnerModel.toEntity

abbrev Partners := repository.Rows

def list [Collation] (partners : Partners) (ties : Ties) : Except Raised (List Partner) :=
  repository.readAll (Query.orderBy
    (Query.ranked (fun model => Collation.weight model.name) fun model => ties [model.id])
    partners.rows)

def getById (partners : Partners) (partnerId : UUID) : Except Raised (Option Partner) :=
  repository.readOne (partners.rows.filter fun model => model.id = partnerId)

theorem steady [Mysql] : repository.Steady :=
  .of_plain (fun _ model => (PartnerModel.toEntity_isOk _).trans model.toEntity_isOk.symm)
    (fun _ => rfl) (fun _ _ => eq_of_beq)

theorem verdict {payload : PartnerWrite} (accepted : payload.accepted = true) :
    repository.Verdict payload true := by
  simp only [PartnerWrite.accepted, Bool.and_eq_true] at accepted
  obtain ⟨⟨⟨_, logo⟩, _⟩, websiteUrl⟩ := accepted
  have converted : ((orNone Image.postInit payload.logo).isOk &&
      (orNone Url.postInit payload.websiteUrl).isOk) = true := by
    rw [orNone_isOk logo, orNone_isOk websiteUrl]
    rfl
  exact ⟨fun _ => (PartnerModel.toEntity_isOk _).trans converted,
    fun _ => (PartnerModel.toEntity_isOk _).trans converted⟩

theorem list_isOk [Collation] {partners : Partners} {ties : Ties}
    (readable : repository.Readable partners) : (list partners ties).isOk = true :=
  Repository.readAll_isOk readable fun _ member => Query.mem_orderBy.mp member

theorem getById_isOk {partners : Partners} {id : UUID}
    (readable : repository.Readable partners) : (getById partners id).isOk = true := by
  apply Repository.readOne_isOk readable
  exact repository.clash_of_key fun _ => of_decide_eq_true

theorem plain : repository.Plain := ⟨fun _ _ => rfl, fun equal => by cases equal⟩

theorem fits [Mysql] {payload : PartnerWrite} (accepted : payload.accepted = true) :
    repository.Fits payload true := by
  simp only [PartnerWrite.accepted, Bool.and_eq_true] at accepted
  obtain ⟨⟨⟨name, logo⟩, partnershipType⟩, websiteUrl⟩ := accepted
  have name : (Cell.varchar 255 payload.name).storable = true :=
    Cell.storable_varchar name (Nat.le_refl 255)
  have logo : (Cell.text payload.logo).storable = true :=
    Cell.storable_image logo
  have partnershipType : (Cell.varchar 100 payload.partnershipType).storable = true :=
    Cell.storable_varchar partnershipType (Nat.le_refl 100)
  have websiteUrl : (Cell.text payload.websiteUrl).storable = true :=
    Cell.storable_url websiteUrl
  constructor
  · intro _
    simp [repository, name, logo, partnershipType, websiteUrl]
  · intro _
    simp [repository, name, logo, partnershipType, websiteUrl]

end PartnerRepository

end ChTech.Content
