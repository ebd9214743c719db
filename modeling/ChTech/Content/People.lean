import ChTech.Content.Technology
import ChTech.Domain.Enums

/-!
# Team members, the company, testimonials and contact requests
-/

namespace ChTech.Content

open Foundation

/-! ## Team members -/

/-- A row of `team_members`. -/
structure TeamMemberModel where
  id : UUID
  userId : Option UUID
  name : String
  role : String
  bio : Option String
  photo : Option String
  linkedinUrl : Option String
  githubUrl : Option String
  displayOrder : Int
  active : Bool
  createdAt : Instant
  updatedAt : Instant
  deriving DecidableEq, Repr

/-- A person shown on the team page. -/
structure TeamMember [PyUnicode] where
  id : UUID
  userId : Option UUID
  name : String
  role : String
  bio : Option String
  photo : Option Image
  linkedinUrl : Option Url
  githubUrl : Option Url
  displayOrder : Int
  active : Bool
  createdAt : Instant
  updatedAt : Instant

structure TeamMemberWrite where
  userId : Option UUID
  name : String
  role : String
  bio : Option String
  photo : Option String
  linkedinUrl : Option String
  githubUrl : Option String
  displayOrder : Int
  active : Bool
  deriving DecidableEq, Repr

section

variable [PyUnicode]

def TeamMemberWrite.accepted (payload : TeamMemberWrite) : Bool :=
  maxLength 150 payload.name &&
  maxLength 150 payload.role &&
  ifGiven (maxLength 2000) payload.bio &&
  ifGiven isImage payload.photo &&
  ifGiven isUrl payload.linkedinUrl &&
  ifGiven isUrl payload.githubUrl

/-- `_to_entity`. -/
def TeamMemberModel.toEntity (model : TeamMemberModel) : Except Raised TeamMember := do
  let photo ← orNone Image.postInit model.photo
  let linkedinUrl ← orNone Url.postInit model.linkedinUrl
  let githubUrl ← orNone Url.postInit model.githubUrl
  return {
    id := model.id
    userId := model.userId
    name := model.name
    role := model.role
    bio := model.bio
    photo
    linkedinUrl
    githubUrl
    displayOrder := model.displayOrder
    active := model.active
    createdAt := model.createdAt
    updatedAt := model.updatedAt }

theorem TeamMemberModel.toEntity_isOk (model : TeamMemberModel) :
    model.toEntity.isOk =
      ((orNone Image.postInit model.photo).isOk &&
        ((orNone Url.postInit model.linkedinUrl).isOk &&
          (orNone Url.postInit model.githubUrl).isOk)) :=
  Result.isOk_bind_const fun _ => Result.isOk_bind_const fun _ => Result.isOk_bind_pure

end

namespace TeamMemberRepository

variable [PyUnicode]

def repository : Repository TeamMemberModel TeamMemberWrite TeamMember where
  key := TeamMemberModel.id
  clash first second := first.id == second.id
  keyed first second equal := by simp [equal]
  keeps := ⟨fun _ _ => rfl, fun _ _ => rfl, fun _ _ => rfl, fun _ => rfl⟩
  construct defaults data := {
    id := defaults.id
    userId := data.userId
    name := data.name
    role := data.role
    bio := data.bio
    photo := data.photo
    linkedinUrl := data.linkedinUrl
    githubUrl := data.githubUrl
    displayOrder := data.displayOrder
    active := data.active
    createdAt := defaults.createdAt
    updatedAt := defaults.updatedAt }
  assign data model := { model with
    userId := data.userId
    name := data.name
    role := data.role
    bio := data.bio
    photo := data.photo
    linkedinUrl := data.linkedinUrl
    githubUrl := data.githubUrl
    displayOrder := data.displayOrder
    active := data.active }
  touch now model := { model with updatedAt := now }
  same first second := first == second
  stored := id
  cells model := [
    .guid model.id,
    .guid model.userId,
    .varchar 150 model.name,
    .varchar 150 model.role,
    .text model.bio,
    .text model.photo,
    .text model.linkedinUrl,
    .text model.githubUrl,
    .integer model.displayOrder,
    .boolean model.active]
  checks _ := true
  conflict := .integrityError
  toEntity := TeamMemberModel.toEntity

abbrev TeamMembers := repository.Rows

/-- The foreign key of `user_id`. -/
def referenced [Collation] (users : Users) (model : TeamMemberModel) : Bool :=
  model.userId.all fun userId => users.rows.any fun user => user.id == userId

def list (teamMembers : TeamMembers) (ties : Ties) (activeOnly : Bool) :
    Except Raised (List TeamMember) :=
  repository.readAll (Query.orderBy
    (Query.ranked TeamMemberModel.displayOrder fun model => ties [model.id])
    (teamMembers.rows.filter fun model => !activeOnly || model.active))

def getById (teamMembers : TeamMembers) (teamMemberId : UUID) (activeOnly : Bool) :
    Except Raised (Option TeamMember) :=
  repository.readOne (teamMembers.rows.filter fun model =>
    decide (model.id = teamMemberId) && (!activeOnly || model.active))

theorem steady [Mysql] : repository.Steady :=
  .of_plain (fun _ model => (TeamMemberModel.toEntity_isOk _).trans model.toEntity_isOk.symm)
    (fun _ => rfl) (fun _ _ => eq_of_beq)

theorem verdict {payload : TeamMemberWrite} (accepted : payload.accepted = true) :
    repository.Verdict payload true := by
  simp only [TeamMemberWrite.accepted, Bool.and_eq_true] at accepted
  obtain ⟨⟨⟨_, photo⟩, linkedinUrl⟩, githubUrl⟩ := accepted
  have converted : ((orNone Image.postInit payload.photo).isOk &&
      ((orNone Url.postInit payload.linkedinUrl).isOk &&
        (orNone Url.postInit payload.githubUrl).isOk)) = true := by
    rw [orNone_isOk photo, orNone_isOk linkedinUrl, orNone_isOk githubUrl]
    rfl
  exact ⟨fun _ => (TeamMemberModel.toEntity_isOk _).trans converted,
    fun _ => (TeamMemberModel.toEntity_isOk _).trans converted⟩

theorem list_isOk {teamMembers : TeamMembers} {ties : Ties} {activeOnly : Bool}
    (readable : repository.Readable teamMembers) : (list teamMembers ties activeOnly).isOk = true :=
  Repository.readAll_isOk readable fun _ member =>
    List.mem_of_mem_filter (Query.mem_orderBy.mp member)

theorem getById_isOk {teamMembers : TeamMembers} {id : UUID} {activeOnly : Bool}
    (readable : repository.Readable teamMembers) :
    (getById teamMembers id activeOnly).isOk = true := by
  apply Repository.readOne_isOk readable
  apply repository.clash_of_key
  intro row selected
  exact of_decide_eq_true (Bool.and_eq_true_iff.mp selected).1

theorem plain : repository.Plain := ⟨fun _ _ => rfl, fun equal => by cases equal⟩

theorem fits [Mysql] {payload : TeamMemberWrite} (accepted : payload.accepted = true) :
    repository.Fits payload (Cell.integer payload.displayOrder).storable := by
  simp only [TeamMemberWrite.accepted, Bool.and_eq_true] at accepted
  obtain ⟨⟨⟨⟨⟨name, role⟩, bio⟩, photo⟩, linkedinUrl⟩, githubUrl⟩ := accepted
  have name : (Cell.varchar 150 payload.name).storable = true :=
    Cell.storable_varchar name (Nat.le_refl 150)
  have role : (Cell.varchar 150 payload.role).storable = true :=
    Cell.storable_varchar role (Nat.le_refl 150)
  have bio : (Cell.text payload.bio).storable = true :=
    Cell.storable_text bio (by decide)
  have photo : (Cell.text payload.photo).storable = true :=
    Cell.storable_image photo
  have linkedinUrl : (Cell.text payload.linkedinUrl).storable = true :=
    Cell.storable_url linkedinUrl
  have githubUrl : (Cell.text payload.githubUrl).storable = true :=
    Cell.storable_url githubUrl
  constructor
  · intro _
    simp [repository, name, role, bio, photo, linkedinUrl, githubUrl]
  · intro _
    simp [repository, name, role, bio, photo, linkedinUrl, githubUrl]

end TeamMemberRepository

/-! ## The company -/

/-- A row of `companies`. -/
structure CompanyModel where
  id : UUID
  legalName : String
  displayName : String
  tagline : Option String
  mission : Option String
  vision : Option String
  email : Option String
  phone : Option String
  address : Option String
  socialLinks : Option Json
  createdAt : Instant
  updatedAt : Instant
  deriving DecidableEq, Repr

/-- The company's public profile. -/
structure Company where
  id : UUID
  legalName : String
  displayName : String
  tagline : Option String
  mission : Option String
  vision : Option String
  email : Option Email
  phone : Option String
  address : Option String
  socialLinks : Option Json
  createdAt : Instant
  updatedAt : Instant
  deriving DecidableEq

structure CompanyWrite where
  legalName : String
  displayName : String
  tagline : Option String
  mission : Option String
  vision : Option String
  email : Option String
  phone : Option String
  address : Option String
  socialLinks : Option Json
  deriving DecidableEq, Repr

def CompanyWrite.accepted [EmailStr] (payload : CompanyWrite) : Bool :=
  maxLength 255 payload.legalName &&
  maxLength 150 payload.displayName &&
  ifGiven (maxLength 255) payload.tagline &&
  ifGiven (maxLength 2000) payload.mission &&
  ifGiven (maxLength 2000) payload.vision &&
  ifGiven EmailStr.produces payload.email &&
  ifGiven (maxLength 50) payload.phone &&
  ifGiven (maxLength 500) payload.address

/-- `_to_entity`. -/
def CompanyModel.toEntity [PyUnicode] (model : CompanyModel) : Except Raised Company := do
  let email ← orNone Email.postInit model.email
  return {
    id := model.id
    legalName := model.legalName
    displayName := model.displayName
    tagline := model.tagline
    mission := model.mission
    vision := model.vision
    email
    phone := model.phone
    address := model.address
    socialLinks := model.socialLinks
    createdAt := model.createdAt
    updatedAt := model.updatedAt }

theorem CompanyModel.toEntity_isOk [PyUnicode] (model : CompanyModel) :
    model.toEntity.isOk = (orNone Email.postInit model.email).isOk :=
  Result.isOk_bind_pure

namespace CompanyRepository

variable [PyUnicode]

def repository : Repository CompanyModel CompanyWrite Company where
  key := CompanyModel.id
  clash first second := first.id == second.id
  keyed first second equal := by simp [equal]
  keeps := ⟨fun _ _ => rfl, fun _ _ => rfl, fun _ _ => rfl, fun _ => rfl⟩
  construct defaults data := {
    id := defaults.id
    legalName := data.legalName
    displayName := data.displayName
    tagline := data.tagline
    mission := data.mission
    vision := data.vision
    email := data.email
    phone := data.phone
    address := data.address
    socialLinks := data.socialLinks
    createdAt := defaults.createdAt
    updatedAt := defaults.updatedAt }
  assign data model := { model with
    legalName := data.legalName
    displayName := data.displayName
    tagline := data.tagline
    mission := data.mission
    vision := data.vision
    email := data.email
    phone := data.phone
    address := data.address
    socialLinks := data.socialLinks }
  touch now model := { model with updatedAt := now }
  same first second := first == second
  stored := id
  cells model := [
    .guid model.id,
    .varchar 255 model.legalName,
    .varchar 150 model.displayName,
    .varchar 255 model.tagline,
    .text model.mission,
    .text model.vision,
    .varchar 255 model.email,
    .varchar 50 model.phone,
    .text model.address,
    .json model.socialLinks]
  checks _ := true
  conflict := .integrityError
  toEntity := CompanyModel.toEntity

abbrev Companies := repository.Rows

/-- `SELECT … LIMIT 1`, in the engine's order. -/
def selectFirst (companies : Companies) (ties : Ties) : List CompanyModel :=
  (Query.orderBy (fun model : CompanyModel => ties [model.id]) companies.rows).take 1

def get (companies : Companies) (ties : Ties) : Except Raised (Option Company) :=
  repository.readOne (selectFirst companies ties)

variable [Mysql]

/-- The first row changes, or a first row is added. -/
def upsert (ties : Ties) (defaults : Defaults) (now : Instant) (data : CompanyWrite)
    (companies : Companies) : Except Raised (CompanyModel × Companies) := do
  match ← Query.scalarOneOrNone .multipleResultsFound (selectFirst companies ties) with
  | none => repository.commitNew (fun _ => true) defaults data companies
  | some model => repository.commitChange (fun _ => true) now model data companies

/-- `update` up to its commit. -/
def commit (ties : Ties) (defaults : Defaults) (now : Instant) (data : CompanyWrite) :
    Program Companies Raised CompanyModel :=
  Program.transact (upsert ties defaults now data)

def update (ties : Ties) (defaults : Defaults) (now : Instant) (data : CompanyWrite) :
    Program Companies Raised Company := do
  let model ← commit ties defaults now data
  Program.read fun _ => model.toEntity

theorem steady : repository.Steady :=
  .of_plain (fun _ model => (CompanyModel.toEntity_isOk _).trans model.toEntity_isOk.symm)
    (fun _ => rfl) (fun _ _ => eq_of_beq)

omit [Mysql] in
/-- `Email` rebuilds what `EmailStr` has produced. -/
theorem verdict [EmailStr]
    (emailStr : ∀ value, EmailStr.produces value = true → (Email.postInit value).isOk = true)
    {payload : CompanyWrite} (accepted : payload.accepted = true) :
    repository.Verdict payload true := by
  simp only [CompanyWrite.accepted, Bool.and_eq_true] at accepted
  obtain ⟨⟨⟨_, email⟩, _⟩, _⟩ := accepted
  have converted : (orNone Email.postInit payload.email).isOk = true := by
    apply orNone_isOk
    cases given : payload.email with
    | none => rfl
    | some value =>
        rw [given] at email
        exact emailStr value email
  exact ⟨fun _ => (CompanyModel.toEntity_isOk _).trans converted,
    fun _ => (CompanyModel.toEntity_isOk _).trans converted⟩

omit [Mysql] in
/-- There is at most one row to read. -/
theorem get_isOk {companies : Companies} {ties : Ties}
    (readable : repository.Readable companies) : (get companies ties).isOk = true := by
  simp only [get, Repository.readOne]
  have single : (selectFirst companies ties).length ≤ 1 := List.length_take_le 1 _
  rw [Query.scalarOneOrNone_eq single]
  cases found : (selectFirst companies ties).head? with
  | none => rfl
  | some model =>
      have member := List.mem_of_mem_head? (Option.mem_def.mpr found)
      change ((repository.toEntity model).map some).isOk = true
      rw [Result.isOk_map]
      exact readable model (Query.mem_orderBy.mp (List.mem_of_mem_take member))

/-- The committed model has been written. -/
theorem commit_ensures {ties : Ties} {defaults : Defaults} {now : Instant} {data : CompanyWrite}
    {companies : Companies} :
    (commit ties defaults now data).Ensures companies
      (fun model next => repository.Written data companies next model)
      (fun _ next => next = companies) := by
  apply Program.Ensures.transact
  · intro model next returned
    obtain ⟨first, selected, returned⟩ := Result.bind_eq_ok.mp returned
    cases first with
    | none => exact Repository.commitNew_written returned
    | some old =>
        have single : (selectFirst companies ties).length ≤ 1 := List.length_take_le 1 _
        rw [Query.scalarOneOrNone_eq single] at selected
        have member := List.mem_of_mem_head? (Option.mem_def.mpr (Except.ok.inj selected))
        exact Repository.commitChange_written
          (Query.mem_orderBy.mp (List.mem_of_mem_take member)) returned
  · intro raised _
    rfl

theorem update_outcome [EmailStr]
    (emailStr : ∀ value, EmailStr.produces value = true → (Email.postInit value).isOk = true)
    {ties : Ties} {defaults : Defaults} {now : Instant} {data : CompanyWrite}
    {companies : Companies} (accepted : data.accepted = true)
    (readable : repository.Readable companies) :
    Outcome repository.Readable true
      ((commit ties defaults now data companies).1.map fun _ => true)
      ((update ties defaults now data companies).1.map fun _ => ())
      (update ties defaults now data companies).2 := by
  apply Outcome.of_commit (fun (model : CompanyModel) _ => model.toEntity) readable
  apply commit_ensures.mono
  · intro model next written
    exact ⟨written.readable_iff steady (verdict emailStr accepted) readable,
      written.isOk steady (verdict emailStr accepted)⟩
  · exact fun _ _ kept => kept

omit [Mysql] in
theorem plain : repository.Plain := ⟨fun _ _ => rfl, fun equal => by cases equal⟩

theorem fits [EmailStr] {payload : CompanyWrite}
    (emailStr : ∀ value, EmailStr.produces value = true → value.length ≤ 254)
    (accepted : payload.accepted = true) :
    repository.Fits payload (Cell.json payload.socialLinks).storable := by
  simp only [CompanyWrite.accepted, Bool.and_eq_true] at accepted
  obtain ⟨⟨⟨⟨⟨⟨⟨legalName, displayName⟩, tagline⟩, mission⟩, vision⟩, email⟩, phone⟩, address⟩ :=
    accepted
  have legalName : (Cell.varchar 255 payload.legalName).storable = true :=
    Cell.storable_varchar legalName (Nat.le_refl 255)
  have displayName : (Cell.varchar 150 payload.displayName).storable = true :=
    Cell.storable_varchar displayName (Nat.le_refl 150)
  have tagline : (Cell.varchar 255 payload.tagline).storable = true :=
    Cell.storable_varchar tagline (Nat.le_refl 255)
  have mission : (Cell.text payload.mission).storable = true :=
    Cell.storable_text mission (by decide)
  have vision : (Cell.text payload.vision).storable = true :=
    Cell.storable_text vision (by decide)
  have email : (Cell.varchar 255 payload.email).storable = true :=
    Cell.storable_email emailStr email (by decide)
  have phone : (Cell.varchar 50 payload.phone).storable = true :=
    Cell.storable_varchar phone (Nat.le_refl 50)
  have address : (Cell.text payload.address).storable = true :=
    Cell.storable_text address (by decide)
  constructor
  · intro _
    simp [repository, legalName, displayName, tagline, mission, vision, email, phone, address]
  · intro _
    simp [repository, legalName, displayName, tagline, mission, vision, email, phone, address]

/-- Creating or updating the company fails with a data error exactly when it does not fit. -/
theorem undisturbed_iff {data : CompanyWrite} {fits : Bool} (decided : repository.Fits data fits) :
    (∀ ties defaults now companies, Undisturbed (commit ties defaults now data companies).1) ↔
      fits = true := by
  cases fits with
  | true =>
      refine ⟨fun _ => rfl, fun _ ties defaults now companies => ?_⟩
      have single : (selectFirst companies ties).length ≤ 1 := List.length_take_le 1 _
      apply Repository.transact_undisturbed
      simp only [upsert]
      rw [Query.scalarOneOrNone_eq single]
      cases (selectFirst companies ties).head? with
      | none => exact Repository.commitNew_undisturbed plain decided
      | some model =>
          exact Repository.reported_undisturbed plain
            (Repository.updateRow_undisturbed plain decided)
  | false =>
      constructor
      · intro clean
        have failed : upsert (fun _ => 0) ⟨0, 0, 0⟩ 0 data Table.empty = .error .dataError :=
          Repository.commitNew_disturbed decided
        exact (clean (fun _ => 0) ⟨0, 0, 0⟩ 0 .empty (Program.transact_error failed)).elim
      · intro impossible
        cases impossible

end CompanyRepository

/-! ## Testimonials -/

/-- A row of `testimonials`. -/
structure TestimonialModel where
  id : UUID
  authorName : String
  authorRole : Option String
  clientId : Option UUID
  projectId : Option UUID
  content : String
  rating : Option Int
  featured : Bool
  createdAt : Instant
  updatedAt : Instant
  deriving DecidableEq, Repr

/-- A client quote. -/
structure Testimonial where
  id : UUID
  authorName : String
  authorRole : Option String
  clientId : Option UUID
  projectId : Option UUID
  content : String
  rating : Option Int
  featured : Bool
  createdAt : Instant
  updatedAt : Instant
  deriving DecidableEq, Repr

structure TestimonialWrite where
  authorName : String
  authorRole : Option String
  clientId : Option UUID
  projectId : Option UUID
  content : String
  rating : Option Int
  featured : Bool
  deriving DecidableEq, Repr

def TestimonialWrite.accepted (payload : TestimonialWrite) : Bool :=
  maxLength 150 payload.authorName &&
  ifGiven (maxLength 150) payload.authorRole &&
  maxLength 2000 payload.content &&
  ifGiven (fun rating => decide (1 ≤ rating) && decide (rating ≤ 5)) payload.rating

/-- `_to_entity`. -/
def TestimonialModel.toEntity (model : TestimonialModel) : Except Raised Testimonial :=
  .ok {
    id := model.id
    authorName := model.authorName
    authorRole := model.authorRole
    clientId := model.clientId
    projectId := model.projectId
    content := model.content
    rating := model.rating
    featured := model.featured
    createdAt := model.createdAt
    updatedAt := model.updatedAt }

namespace TestimonialRepository

def repository : Repository TestimonialModel TestimonialWrite Testimonial where
  key := TestimonialModel.id
  clash first second := first.id == second.id
  keyed first second equal := by simp [equal]
  keeps := ⟨fun _ _ => rfl, fun _ _ => rfl, fun _ _ => rfl, fun _ => rfl⟩
  construct defaults data := {
    id := defaults.id
    authorName := data.authorName
    authorRole := data.authorRole
    clientId := data.clientId
    projectId := data.projectId
    content := data.content
    rating := data.rating
    featured := data.featured
    createdAt := defaults.createdAt
    updatedAt := defaults.updatedAt }
  assign data model := { model with
    authorName := data.authorName
    authorRole := data.authorRole
    clientId := data.clientId
    projectId := data.projectId
    content := data.content
    rating := data.rating
    featured := data.featured }
  touch now model := { model with updatedAt := now }
  same first second := first == second
  stored := id
  cells model := [
    .guid model.id,
    .varchar 150 model.authorName,
    .varchar 150 model.authorRole,
    .guid model.clientId,
    .guid model.projectId,
    .text model.content,
    .smallInteger model.rating,
    .boolean model.featured]
  checks model := model.rating.all fun rating => decide (1 ≤ rating) && decide (rating ≤ 5)
  conflict := .integrityError
  toEntity := TestimonialModel.toEntity

abbrev Testimonials := repository.Rows

def list (testimonials : Testimonials) (ties : Ties) : Except Raised (List Testimonial) :=
  repository.readAll (Query.orderBy
    (Query.ranked TestimonialModel.createdAt fun model => ties [model.id]) testimonials.rows)

theorem list_isOk {testimonials : Testimonials} {ties : Ties} :
    (list testimonials ties).isOk = true :=
  Result.isOk_mapM fun _ _ => rfl

theorem plain : repository.Plain := ⟨fun _ _ => rfl, fun equal => by cases equal⟩

theorem fits [Mysql] {payload : TestimonialWrite} (accepted : payload.accepted = true) :
    repository.Fits payload true := by
  simp only [TestimonialWrite.accepted, Bool.and_eq_true] at accepted
  obtain ⟨⟨⟨authorName, authorRole⟩, content⟩, rating⟩ := accepted
  have authorName : (Cell.varchar 150 payload.authorName).storable = true :=
    Cell.storable_varchar authorName (Nat.le_refl 150)
  have authorRole : (Cell.varchar 150 payload.authorRole).storable = true :=
    Cell.storable_varchar authorRole (Nat.le_refl 150)
  have content : (Cell.text payload.content).storable = true :=
    Cell.storable_text content (by decide)
  have rating : (Cell.smallInteger payload.rating).storable = true := by
    cases given : payload.rating with
    | none => rfl
    | some value =>
        simp only [given, ifGiven, Option.all_some, Bool.and_eq_true, decide_eq_true_eq] at rating
        simp only [Cell.storable, Option.all_some, Bool.and_eq_true, decide_eq_true_eq]
        omega
  constructor
  · intro _
    simp [repository, authorName, authorRole, content, rating]
  · intro _
    simp [repository, authorName, authorRole, content, rating]

end TestimonialRepository

/-! ## Contact requests -/

/-- A row of `contact_requests`; `created_at` is its only timestamp. -/
structure ContactRequestModel where
  id : UUID
  name : String
  email : String
  company : Option String
  subject : Option String
  message : String
  interestedServiceLineId : Option UUID
  source : Option String
  status : String
  createdAt : Instant
  deriving DecidableEq, Repr

/-- A submission of the contact form. -/
structure ContactRequest where
  id : UUID
  name : String
  email : Email
  company : Option String
  subject : Option String
  message : String
  interestedServiceLineId : Option UUID
  source : Option String
  status : ContactStatus
  createdAt : Instant
  deriving DecidableEq

structure ContactCreate where
  name : String
  email : String
  company : Option String
  subject : Option String
  message : String
  deriving DecidableEq, Repr

def ContactCreate.accepted [EmailStr] (payload : ContactCreate) : Bool :=
  maxLength 255 payload.name &&
  EmailStr.produces payload.email &&
  ifGiven (maxLength 255) payload.company &&
  ifGiven (maxLength 255) payload.subject &&
  maxLength 5000 payload.message &&
  decide (20 ≤ payload.message.length)

/-- `_to_entity`. -/
def ContactRequestModel.toEntity [PyUnicode] (model : ContactRequestModel) :
    Except Raised ContactRequest := do
  let email ← Email.postInit model.email
  let status ← ContactStatus.ofValue model.status
  return {
    id := model.id
    name := model.name
    email
    company := model.company
    subject := model.subject
    message := model.message
    interestedServiceLineId := model.interestedServiceLineId
    source := model.source
    status
    createdAt := model.createdAt }

namespace ContactRequestRepository

variable [PyUnicode] [Collation]

/-- There is no `update`: a request is only created. -/
def repository : Repository ContactRequestModel ContactCreate ContactRequest where
  key := ContactRequestModel.id
  clash first second := first.id == second.id
  keyed first second equal := by simp [equal]
  keeps := ⟨fun _ _ => rfl, fun _ _ => rfl, fun _ _ => rfl, fun _ => rfl⟩
  construct defaults data := {
    id := defaults.id
    name := data.name
    email := data.email
    company := data.company
    subject := data.subject
    message := data.message
    interestedServiceLineId := none
    source := none
    status := ContactStatus.new.value
    createdAt := defaults.createdAt }
  assign _ model := model
  touch _ model := model
  same first second := first == second
  stored := id
  cells model := [
    .guid model.id,
    .varchar 255 model.name,
    .varchar 255 model.email,
    .varchar 255 model.company,
    .varchar 255 model.subject,
    .text model.message,
    .guid model.interestedServiceLineId,
    .varchar 100 model.source,
    .varchar 50 model.status]
  checks model :=
    ["NEW", "READ", "REPLIED", "ARCHIVED"].any (Collation.equal model.status)
  conflict := .integrityError
  toEntity := ContactRequestModel.toEntity

abbrev ContactRequests := repository.Rows

theorem plain : repository.Plain := ⟨fun _ _ => rfl, fun equal => by cases equal⟩

/-- There is no update of a request. -/
theorem fits [Mysql] [EmailStr]
    (emailStr : ∀ value, EmailStr.produces value = true → value.length ≤ 254)
    {payload : ContactCreate} (accepted : payload.accepted = true) (defaults : Defaults) :
    (repository.cells (repository.construct defaults payload)).all Cell.storable = true := by
  simp only [ContactCreate.accepted, Bool.and_eq_true] at accepted
  obtain ⟨⟨⟨⟨⟨name, email⟩, company⟩, subject⟩, message⟩, _⟩ := accepted
  have name : (Cell.varchar 255 payload.name).storable = true :=
    Cell.storable_varchar name (Nat.le_refl 255)
  have email : (Cell.varchar 255 payload.email).storable = true :=
    Cell.storable_email emailStr email (by decide)
  have company : (Cell.varchar 255 payload.company).storable = true :=
    Cell.storable_varchar company (Nat.le_refl 255)
  have subject : (Cell.varchar 255 payload.subject).storable = true :=
    Cell.storable_varchar subject (Nat.le_refl 255)
  have message : (Cell.text payload.message).storable = true :=
    Cell.storable_text message (by decide)
  have source : (Cell.varchar 100 none).storable = true := rfl
  have status : (Cell.varchar 50 ContactStatus.new.value).storable = true := rfl
  simp [repository, name, email, company, subject, message, source, status]

end ContactRequestRepository

end ChTech.Content
