import ChTech.Application.UseCases
import ChTech.Content.Payloads
import ChTech.Content.TechnologyNames

/-!
# Writing requests

Every request of the API that writes content: the creates, updates and deletes of the admin
routers and the contact form.  They come one at a time.
-/

namespace ChTech.Application

open Foundation Content

variable [PyUnicode] [Collation]

/-- A writing request with a payload of its schema, and what the environment adds to it. -/
inductive Change where
  | project (ties : Ties) (target : Target) (payload : ProjectWrite)
  | article (ties : Ties) (target : Target) (authorId : UUID) (payload : ArticleWrite)
  | service (target : Target) (payload : ServiceWrite)
  | serviceLine (target : Target) (payload : ServiceLineWrite)
  | product (target : Target) (payload : ProductWrite)
  | technology (target : Target) (payload : TechnologyWrite)
  | client (target : Target) (payload : ClientWrite)
  | partner (target : Target) (payload : PartnerWrite)
  | teamMember (target : Target) (payload : TeamMemberWrite)
  | company (ties : Ties) (defaults : Defaults) (now : Instant) (payload : CompanyWrite)
  | caseStudy (ties : Ties) (target : Target) (payload : CaseStudyWrite)
  | testimonial (ties : Ties) (target : Target) (payload : TestimonialWrite)
  | contact (defaults : Defaults) (payload : ContactCreate)
  | delete (asked : Delete)

/-- What a use case returns. -/
inductive Answer where
  | project (row : Option (WithTechnologies Project))
  | article (row : Option (WithTechnologies Article))
  | service (row : Option Service)
  | serviceLine (row : Option ServiceLine)
  | product (row : Option Product)
  | technology (row : Option Technology)
  | client (row : Option Client)
  | partner (row : Option Partner)
  | teamMember (row : Option TeamMember)
  | company (row : Company)
  | caseStudy (row : Option CaseStudy)
  | testimonial (row : Option Testimonial)
  | contact (row : Option ContactRequest)
  | deleted

variable [Mysql]

/-- The use case of a delete. -/
def executeDelete : Delete → Program Store Raised Unit
  | .project ties id => DeleteProject.execute ties id
  | .client id => DeleteClient.execute id
  | .serviceLine id => DeleteServiceLine.execute id
  | .technology id => DeleteTechnology.execute id
  | .article ties id => DeleteArticle.execute ties id
  | .service id => DeleteService.execute id
  | .product id => DeleteProduct.execute id
  | .partner id => DeletePartner.execute id
  | .teamMember id => DeleteTeamMember.execute id
  | .caseStudy id => DeleteCaseStudy.execute id
  | .testimonial id => DeleteTestimonial.execute id

namespace Change

@[simp]
def execute : Change → Program Store Raised Answer
  | project ties (.post defaults) payload =>
      .project <$> CreateProject.execute ties defaults payload
  | project ties (.put id now) payload => .project <$> UpdateProject.execute ties id now payload
  | article ties (.post defaults) authorId payload =>
      .article <$> CreateArticle.execute ties defaults payload authorId
  | article ties (.put id now) _ payload => .article <$> UpdateArticle.execute ties id now payload
  | service (.post defaults) payload => .service <$> CreateService.execute defaults payload
  | service (.put id now) payload => .service <$> UpdateService.execute id now payload
  | serviceLine (.post defaults) payload =>
      .serviceLine <$> CreateServiceLine.execute defaults payload
  | serviceLine (.put id now) payload => .serviceLine <$> UpdateServiceLine.execute id now payload
  | product (.post defaults) payload => .product <$> CreateProduct.execute defaults payload
  | product (.put id now) payload => .product <$> UpdateProduct.execute id now payload
  | technology (.post defaults) payload =>
      .technology <$>
        Program.on Part.technologies fun _ => CreateTechnology.execute defaults payload
  | technology (.put id now) payload =>
      .technology <$> Program.on Part.technologies fun _ => UpdateTechnology.execute id now payload
  | client (.post defaults) payload => .client <$> CreateClient.execute defaults payload
  | client (.put id now) payload => .client <$> UpdateClient.execute id now payload
  | partner (.post defaults) payload => .partner <$> CreatePartner.execute defaults payload
  | partner (.put id now) payload => .partner <$> UpdatePartner.execute id now payload
  | teamMember (.post defaults) payload =>
      .teamMember <$> CreateTeamMember.execute defaults payload
  | teamMember (.put id now) payload => .teamMember <$> UpdateTeamMember.execute id now payload
  | company ties defaults now payload =>
      .company <$> UpdateCompany.execute ties defaults now payload
  | caseStudy ties (.post defaults) payload =>
      .caseStudy <$> CreateCaseStudy.execute ties defaults payload
  | caseStudy ties (.put id now) payload =>
      .caseStudy <$> UpdateCaseStudy.execute ties id now payload
  | testimonial ties (.post defaults) payload =>
      .testimonial <$> CreateTestimonial.execute ties defaults payload
  | testimonial ties (.put id now) payload =>
      .testimonial <$> UpdateTestimonial.execute ties id now payload
  | contact defaults payload => .contact <$> SubmitContactRequest.execute defaults payload
  | delete asked => (fun _ => .deleted) <$> executeDelete asked

/-! ## Payloads -/

def payload : Change → Option Payload
  | project _ _ payload => some (.project payload)
  | article _ _ authorId payload => some (.article authorId payload)
  | service _ payload => some (.service payload)
  | serviceLine _ payload => some (.serviceLine payload)
  | product _ payload => some (.product payload)
  | technology _ payload => some (.technology payload)
  | client _ payload => some (.client payload)
  | partner _ payload => some (.partner payload)
  | teamMember _ payload => some (.teamMember payload)
  | company _ _ _ payload => some (.company payload)
  | caseStudy _ _ payload => some (.caseStudy payload)
  | testimonial _ _ payload => some (.testimonial payload)
  | contact _ payload => some (.contact payload)
  | delete _ => none

/-- The slug that the payload asks for. -/
def slug : Change → Option String
  | project _ _ payload => some payload.slug
  | article _ _ _ payload => some payload.slug
  | service _ payload => some payload.slug
  | serviceLine _ payload => some payload.slug
  | product _ payload => some payload.slug
  | technology .. | client .. | partner .. | teamMember .. | company .. | caseStudy ..
  | testimonial .. | contact .. | delete _ => none

/-- The schema accepts the payload. -/
def accepted [EmailStr] (change : Change) : Bool := change.payload.all Payload.accepted

/-- The generated key is new. -/
def freshIn (keys : List UUID) : Target → Bool
  | .post defaults => !keys.contains defaults.id
  | .put .. => true

/-- No other row is in the way of the request: a new key is new, a technology's name is not
held, an update that selects technologies does not take a slug that is held, the author of
a new article is stored, and the user of a team member can be read. -/
def unopposed (store : Store) : Change → Bool
  | project _ (.put id _) payload =>
      payload.technologyIds.isEmpty ||
        !ProjectRepository.slugged.taken store.projects.rows id payload.slug
  | article _ (.put id _) _ payload =>
      payload.technologyIds.isEmpty ||
        !ArticleRepository.slugged.taken store.articles.rows id payload.slug
  | article _ (.post _) authorId _ => store.users.rows.any fun user => user.id == authorId
  | project _ (.post _) _ | service .. | serviceLine .. | product .. | delete _ => true
  | technology (.post defaults) payload =>
      freshIn (store.technologies.rows.map TechnologyModel.id) (.post defaults) &&
        !TechnologyRepository.anyName store.technologies payload.name
  | technology (.put id _) payload =>
      !TechnologyRepository.holdsName store.technologies id payload.name
  | client target _ => freshIn (store.clients.rows.map ClientModel.id) target
  | partner target _ => freshIn (store.partners.rows.map PartnerModel.id) target
  | teamMember target payload =>
      freshIn (store.teamMembers.rows.map TeamMemberModel.id) target &&
        payload.userId.all fun id => (UserRepository.getById store.users id).isOk
  | company _ defaults _ _ => freshIn (store.companies.rows.map CompanyModel.id) (.post defaults)
  | caseStudy _ target _ => freshIn (store.caseStudies.rows.map CaseStudyModel.id) target
  | testimonial _ target _ => freshIn (store.testimonials.rows.map TestimonialModel.id) target
  | contact defaults _ =>
      freshIn (store.contactRequests.rows.map ContactRequestModel.id) (.post defaults)

/-- Moreover the slug is one, and the payload fits its columns. -/
def sound (store : Store) (change : Change) : Bool :=
  change.slug.all slugRe && change.payload.all Payload.fits && change.unopposed store

end Change

/-- One writing request after the other; a payload that its schema rejects gets nowhere. -/
def site [EmailStr] : Machine Store Change := fun store change =>
  if change.accepted then some (change.execute store).2 else none

/-- No content yet. -/
def emptyStore (users : Users) : Store where
  toDb := Db.empty users
  refreshTokens := .empty

abbrev Sound (store : Store) (change : Change) : Prop := change.sound store = true

end ChTech.Application
