import ChTech.Content.DeleteFrames

/-!
# Use cases

The use cases of the content, over the whole schema.  A repository writes its own tables; a
use case adds the lookups that come before it and `ResourceNotFoundError` where there is no
row.  Each runs alone.
-/

namespace ChTech.Application

open Foundation Content

open TechnologyRepository (Technologies)

variable [PyUnicode] [Collation]

def caseStudyReferenced (store : Store) (model : CaseStudyModel) : Bool :=
  hasProject store.projects model.projectId

/-- The two foreign keys of a testimonial. -/
def testimonialReferenced (store : Store) (model : TestimonialModel) : Bool :=
  model.clientId.all (hasClient store.clients) && model.projectId.all (hasProject store.projects)

section

omit [PyUnicode] [Collation]

variable {σ α : Type}

/-- `if not deleted: raise ResourceNotFoundError(message)`. -/
def orNotDeleted (message : String) (program : Program σ Raised Bool) :
    Program σ Raised Unit := do
  match ← program with
  | false => Program.raise (.app (.resourceNotFoundError message))
  | true => return ()

/-- A lookup whose row has to exist before the use case goes on. -/
def require (message : String) (lookup : σ → Except Raised (Option α)) :
    Program σ Raised Unit := do
  match ← Program.read lookup with
  | none => Program.raise (.app (.resourceNotFoundError message))
  | some _ => return ()

/-- The same for an optional reference; without one there is no lookup. -/
def requireGiven (message : String) (reference : Option UUID)
    (lookup : UUID → σ → Except Raised (Option α)) : Program σ Raised Unit :=
  match reference with
  | none => return ()
  | some id => require message (lookup id)

end

variable [Mysql]

def saveProject (ties : Ties) (target : Target) (data : ProjectWrite) :
    Program Store Raised (Option (WithTechnologies Project)) :=
  Program.on Part.projects fun store =>
    Tagged.save store.technologies ties data.technologyIds (fun _ => true) target data

def CreateProject.execute (ties : Ties) (defaults : Defaults) (data : ProjectWrite) :
    Program Store Raised (Option (WithTechnologies Project)) :=
  saveProject ties (.post defaults) data

def UpdateProject.execute (ties : Ties) (projectId : UUID) (now : Instant)
    (data : ProjectWrite) : Program Store Raised (Option (WithTechnologies Project)) :=
  orNotFound "Project not found" (saveProject ties (.put projectId now) data)

def DeleteProject.execute (ties : Ties) (projectId : UUID) : Program Store Raised Unit :=
  orNotDeleted "Project not found" (ProjectRepository.delete ties projectId)

def saveArticle (ties : Ties) (target : Target) (authorId : UUID) (data : ArticleWrite) :
    Program Store Raised (Option (WithTechnologies Article)) :=
  Program.on Part.articles fun store =>
    Tagged.save store.technologies ties data.technologyIds
      (ArticleRepository.referenced store.users) target (authorId, data)

def CreateArticle.execute (ties : Ties) (defaults : Defaults) (data : ArticleWrite)
    (authorId : UUID) : Program Store Raised (Option (WithTechnologies Article)) :=
  saveArticle ties (.post defaults) authorId data

/-- The author is not part of an update. -/
def UpdateArticle.execute (ties : Ties) (articleId : UUID) (now : Instant)
    (data : ArticleWrite) : Program Store Raised (Option (WithTechnologies Article)) :=
  orNotFound "Article not found" (saveArticle ties (.put articleId now) 0 data)

def DeleteArticle.execute (ties : Ties) (articleId : UUID) : Program Store Raised Unit :=
  orNotDeleted "Article not found" (ArticleRepository.delete ties articleId)

section

variable {Model Input Entity : Type}

/-- `create` and `update` of a table that refers to no other. -/
def savePlain (repo : Repository Model Input Entity) (part : Lens Store repo.Rows)
    (target : Target) (data : Input) : Program Store Raised (Option Entity) :=
  Program.on part fun _ => repo.save (fun _ => true) target data

end

def CreateService.execute (defaults : Defaults) (data : ServiceWrite) :
    Program Store Raised (Option Service) :=
  savePlain ServiceRepository.repository Part.services (.post defaults) data

def UpdateService.execute (serviceId : UUID) (now : Instant) (data : ServiceWrite) :
    Program Store Raised (Option Service) :=
  orNotFound "Service not found"
    (savePlain ServiceRepository.repository Part.services (.put serviceId now) data)

def DeleteService.execute (serviceId : UUID) : Program Store Raised Unit :=
  orNotDeleted "Service not found" (ServiceRepository.delete serviceId)

def CreateServiceLine.execute (defaults : Defaults) (data : ServiceLineWrite) :
    Program Store Raised (Option ServiceLine) :=
  savePlain ServiceLineRepository.repository Part.serviceLines (.post defaults) data

def UpdateServiceLine.execute (serviceLineId : UUID) (now : Instant) (data : ServiceLineWrite) :
    Program Store Raised (Option ServiceLine) :=
  orNotFound "Service line not found"
    (savePlain ServiceLineRepository.repository Part.serviceLines (.put serviceLineId now) data)

def DeleteServiceLine.execute (serviceLineId : UUID) : Program Store Raised Unit :=
  orNotDeleted "Service line not found" (ServiceLineRepository.delete serviceLineId)

def CreateProduct.execute (defaults : Defaults) (data : ProductWrite) :
    Program Store Raised (Option Product) :=
  savePlain ProductRepository.repository Part.products (.post defaults) data

def UpdateProduct.execute (productId : UUID) (now : Instant) (data : ProductWrite) :
    Program Store Raised (Option Product) :=
  orNotFound "Product not found"
    (savePlain ProductRepository.repository Part.products (.put productId now) data)

def DeleteProduct.execute (productId : UUID) : Program Store Raised Unit :=
  orNotDeleted "Product not found" (ProductRepository.delete productId)

def DeleteTechnology.execute (technologyId : UUID) : Program Store Raised Unit :=
  orNotDeleted "Technology not found" (TechnologyRepository.delete technologyId)

def CreateClient.execute (defaults : Defaults) (data : ClientWrite) :
    Program Store Raised (Option Client) :=
  savePlain ClientRepository.repository Part.clients (.post defaults) data

def UpdateClient.execute (clientId : UUID) (now : Instant) (data : ClientWrite) :
    Program Store Raised (Option Client) :=
  orNotFound "Client not found"
    (savePlain ClientRepository.repository Part.clients (.put clientId now) data)

def DeleteClient.execute (clientId : UUID) : Program Store Raised Unit :=
  orNotDeleted "Client not found" (ClientRepository.delete clientId)

def CreatePartner.execute (defaults : Defaults) (data : PartnerWrite) :
    Program Store Raised (Option Partner) :=
  savePlain PartnerRepository.repository Part.partners (.post defaults) data

def UpdatePartner.execute (partnerId : UUID) (now : Instant) (data : PartnerWrite) :
    Program Store Raised (Option Partner) :=
  orNotFound "Partner not found"
    (savePlain PartnerRepository.repository Part.partners (.put partnerId now) data)

def DeletePartner.execute (partnerId : UUID) : Program Store Raised Unit :=
  orNotDeleted "Partner not found" (PartnerRepository.delete partnerId)

def requireUser (userId : Option UUID) : Program Store Raised Unit :=
  requireGiven "User not found" userId fun id store => UserRepository.getById store.users id

def saveTeamMember (target : Target) (data : TeamMemberWrite) :
    Program Store Raised (Option TeamMember) :=
  Program.on Part.teamMembers fun store => TeamMemberRepository.repository.save
    (TeamMemberRepository.referenced store.users) target data

def CreateTeamMember.execute (defaults : Defaults) (data : TeamMemberWrite) :
    Program Store Raised (Option TeamMember) := do
  requireUser data.userId
  saveTeamMember (.post defaults) data

def UpdateTeamMember.execute (teamMemberId : UUID) (now : Instant) (data : TeamMemberWrite) :
    Program Store Raised (Option TeamMember) := do
  requireUser data.userId
  orNotFound "Team member not found" (saveTeamMember (.put teamMemberId now) data)

def DeleteTeamMember.execute (teamMemberId : UUID) : Program Store Raised Unit :=
  orNotDeleted "Team member not found" (TeamMemberRepository.delete teamMemberId)

def UpdateCompany.execute (ties : Ties) (defaults : Defaults) (now : Instant)
    (data : CompanyWrite) : Program Store Raised Company :=
  Program.on Part.companies fun _ => CompanyRepository.update ties defaults now data

def requireProject (ties : Ties) (projectId : UUID) : Program Store Raised Unit :=
  require "Project not found" fun store =>
    ProjectRepository.getById store.projects store.technologies ties projectId

def saveCaseStudy (target : Target) (data : CaseStudyWrite) :
    Program Store Raised (Option CaseStudy) :=
  Program.on Part.caseStudies fun store =>
    CaseStudyRepository.repository.save (caseStudyReferenced store) target data

def CreateCaseStudy.execute (ties : Ties) (defaults : Defaults) (data : CaseStudyWrite) :
    Program Store Raised (Option CaseStudy) := do
  requireProject ties data.projectId
  saveCaseStudy (.post defaults) data

def UpdateCaseStudy.execute (ties : Ties) (caseStudyId : UUID) (now : Instant)
    (data : CaseStudyWrite) : Program Store Raised (Option CaseStudy) := do
  require "Case study not found" fun store : Store =>
    CaseStudyRepository.getById store.caseStudies store.projects caseStudyId false
  requireProject ties data.projectId
  orNotFound "Case study not found" (saveCaseStudy (.put caseStudyId now) data)

def DeleteCaseStudy.execute (caseStudyId : UUID) : Program Store Raised Unit :=
  orNotDeleted "Case study not found" (CaseStudyRepository.delete caseStudyId)

/-- `_validate_references`. -/
def validateReferences (ties : Ties) (data : TestimonialWrite) : Program Store Raised Unit := do
  requireGiven "Client not found" data.clientId fun id store =>
    ClientRepository.getById store.clients id
  requireGiven "Project not found" data.projectId fun id store =>
    ProjectRepository.getById store.projects store.technologies ties id

def saveTestimonial (target : Target) (data : TestimonialWrite) :
    Program Store Raised (Option Testimonial) :=
  Program.on Part.testimonials fun store =>
    TestimonialRepository.repository.save (testimonialReferenced store) target data

def CreateTestimonial.execute (ties : Ties) (defaults : Defaults) (data : TestimonialWrite) :
    Program Store Raised (Option Testimonial) := do
  validateReferences ties data
  saveTestimonial (.post defaults) data

def UpdateTestimonial.execute (ties : Ties) (testimonialId : UUID) (now : Instant)
    (data : TestimonialWrite) : Program Store Raised (Option Testimonial) := do
  validateReferences ties data
  orNotFound "Testimonial not found" (saveTestimonial (.put testimonialId now) data)

def DeleteTestimonial.execute (testimonialId : UUID) : Program Store Raised Unit :=
  orNotDeleted "Testimonial not found" (TestimonialRepository.delete testimonialId)

def SubmitContactRequest.execute (defaults : Defaults) (data : ContactCreate) :
    Program Store Raised (Option ContactRequest) :=
  savePlain ContactRequestRepository.repository Part.contactRequests (.post defaults) data

end ChTech.Application
