import ChTech.Content.Alliances
import ChTech.Content.Article
import ChTech.Content.Offering
import ChTech.Content.People
import ChTech.Content.Project
import ChTech.Foundation.Transition

/-!
# The content database

The tables behind the site, the admin writes that change them and the reads that answer
from them.  Writes come one at a time; each is a `POST` or `PUT` endpoint with an accepted
payload.
-/

namespace ChTech.Content

open Foundation

structure Db [PyUnicode] [Collation] where
  users : Users
  technologies : TechnologyRepository.Technologies
  projects : ProjectRepository.Projects
  articles : ArticleRepository.Articles
  services : ServiceRepository.Services
  serviceLines : ServiceLineRepository.ServiceLines
  products : ProductRepository.Products
  clients : ClientRepository.Clients
  partners : PartnerRepository.Partners
  teamMembers : TeamMemberRepository.TeamMembers
  companies : CompanyRepository.Companies
  caseStudies : CaseStudyRepository.CaseStudies
  testimonials : TestimonialRepository.Testimonials
  contactRequests : ContactRequestRepository.ContactRequests

/-- The empty schema, but for the administrators. -/
def Db.empty [PyUnicode] [Collation] (users : Users) : Db where
  users
  technologies := .empty
  projects := ⟨.empty, .empty⟩
  articles := ⟨.empty, .empty⟩
  services := .empty
  serviceLines := .empty
  products := .empty
  clients := .empty
  partners := .empty
  teamMembers := .empty
  companies := .empty
  caseStudies := .empty
  testimonials := .empty
  contactRequests := .empty

section

variable [PyUnicode] [Collation]

def hasProject (projects : ProjectRepository.Projects) (id : UUID) : Bool :=
  projects.rows.rows.any fun project => project.id == id

def hasClient (clients : ClientRepository.Clients) (id : UUID) : Bool :=
  clients.rows.any fun client => client.id == id

/-- A foreign key names the project; the links to technologies do not count. -/
def holdsProject (caseStudies : CaseStudyRepository.CaseStudies)
    (testimonials : TestimonialRepository.Testimonials) (id : UUID) : Bool :=
  caseStudies.rows.any (fun caseStudy => caseStudy.projectId == id) ||
    testimonials.rows.any fun testimonial => testimonial.projectId == some id

def holdsClient (projects : ProjectRepository.Projects)
    (testimonials : TestimonialRepository.Testimonials) (id : UUID) : Bool :=
  projects.rows.rows.any (fun project => project.clientId == some id) ||
    testimonials.rows.any fun testimonial => testimonial.clientId == some id

end

/-! ## Admin writes -/

/-- A `POST` or `PUT` of the admin API, with what the environment adds to it. -/
inductive AdminWrite where
  | project (target : Target) (ties : Ties) (payload : ProjectWrite)
  | article (target : Target) (ties : Ties) (authorId : UUID) (payload : ArticleWrite)
  | service (target : Target) (payload : ServiceWrite)
  | product (target : Target) (payload : ProductWrite)
  | serviceLine (target : Target) (payload : ServiceLineWrite)
  | technology (target : Target) (payload : TechnologyWrite)
  | client (target : Target) (payload : ClientWrite)
  | partner (target : Target) (payload : PartnerWrite)
  | teamMember (target : Target) (payload : TeamMemberWrite)
  | company (defaults : Defaults) (now : Instant) (ties : Ties) (payload : CompanyWrite)

namespace AdminWrite

variable [PyUnicode] [EmailStr]

/-- The schema accepts the payload. -/
def accepted : AdminWrite → Bool
  | project _ _ payload => payload.accepted
  | article _ _ _ payload => payload.accepted
  | service _ payload => payload.accepted
  | product _ payload => payload.accepted
  | serviceLine _ payload => payload.accepted
  | technology _ payload => payload.accepted
  | client _ payload => payload.accepted
  | partner _ payload => payload.accepted
  | teamMember _ payload => payload.accepted
  | company _ _ _ payload => payload.accepted

/-- The slug in the payload. -/
def slug : AdminWrite → Option String
  | project _ _ payload => some payload.slug
  | article _ _ _ payload => some payload.slug
  | service _ payload => some payload.slug
  | product _ payload => some payload.slug
  | serviceLine _ payload => some payload.slug
  | technology .. | client .. | partner .. | teamMember .. | company .. => none

variable [Collation] [Mysql]

omit [EmailStr]

/-- The write up to its commit; whether there is a row that it has written. -/
def commit (write : AdminWrite) (db : Db) : Except Raised Bool :=
  match write with
  | project target ties payload =>
      (Tagged.commit db.technologies ties payload.technologyIds (fun _ => true) target payload
        db.projects).1.map Option.isSome
  | article target ties authorId payload =>
      (Tagged.commit db.technologies ties payload.technologyIds
        (ArticleRepository.referenced db.users) target (authorId, payload)
        db.articles).1.map Option.isSome
  | service target payload =>
      (ServiceRepository.repository.commit (fun _ => true) target payload
        db.services).1.map Option.isSome
  | product target payload =>
      (ProductRepository.repository.commit (fun _ => true) target payload
        db.products).1.map Option.isSome
  | serviceLine target payload =>
      (ServiceLineRepository.repository.commit (fun _ => true) target payload
        db.serviceLines).1.map Option.isSome
  | technology target payload =>
      (TechnologyRepository.repository.commit (fun _ => true) target payload
        db.technologies).1.map Option.isSome
  | client target payload =>
      (ClientRepository.repository.commit (fun _ => true) target payload
        db.clients).1.map Option.isSome
  | partner target payload =>
      (PartnerRepository.repository.commit (fun _ => true) target payload
        db.partners).1.map Option.isSome
  | teamMember target payload =>
      (TeamMemberRepository.repository.commit (TeamMemberRepository.referenced db.users) target
        payload db.teamMembers).1.map Option.isSome
  | company defaults now ties payload =>
      (CompanyRepository.commit ties defaults now payload db.companies).1.map fun _ => true

/-- The whole repository call. -/
def save (write : AdminWrite) (db : Db) : Except Raised Unit × Db :=
  match write with
  | project target ties payload =>
      let (saved, projects) := Tagged.save db.technologies ties payload.technologyIds
        (fun _ => true) target payload db.projects
      (saved.map fun _ => (), { db with projects })
  | article target ties authorId payload =>
      let (saved, articles) := Tagged.save db.technologies ties payload.technologyIds
        (ArticleRepository.referenced db.users) target (authorId, payload) db.articles
      (saved.map fun _ => (), { db with articles })
  | service target payload =>
      let (saved, services) :=
        ServiceRepository.repository.save (fun _ => true) target payload db.services
      (saved.map fun _ => (), { db with services })
  | product target payload =>
      let (saved, products) :=
        ProductRepository.repository.save (fun _ => true) target payload db.products
      (saved.map fun _ => (), { db with products })
  | serviceLine target payload =>
      let (saved, serviceLines) :=
        ServiceLineRepository.repository.save (fun _ => true) target payload db.serviceLines
      (saved.map fun _ => (), { db with serviceLines })
  | technology target payload =>
      let (saved, technologies) :=
        TechnologyRepository.repository.save (fun _ => true) target payload db.technologies
      (saved.map fun _ => (), { db with technologies })
  | client target payload =>
      let (saved, clients) :=
        ClientRepository.repository.save (fun _ => true) target payload db.clients
      (saved.map fun _ => (), { db with clients })
  | partner target payload =>
      let (saved, partners) :=
        PartnerRepository.repository.save (fun _ => true) target payload db.partners
      (saved.map fun _ => (), { db with partners })
  | teamMember target payload =>
      let (saved, teamMembers) := TeamMemberRepository.repository.save
        (TeamMemberRepository.referenced db.users) target payload db.teamMembers
      (saved.map fun _ => (), { db with teamMembers })
  | company defaults now ties payload =>
      let (saved, companies) := CompanyRepository.update ties defaults now payload db.companies
      (saved.map fun _ => (), { db with companies })

end AdminWrite

/-- One admin request after the other; a payload its schema rejects gets nowhere. -/
def admin [PyUnicode] [Collation] [Mysql] [EmailStr] : Machine Db AdminWrite := fun db write =>
  if write.accepted then some (write.save db).2 else none

/-! ## Reads -/

/-- The lists and lookups of the repositories. -/
inductive Read where
  | projectList (filters : ProjectFilters) (publicOnly : Bool)
  | projectBySlug (slug : String) (publicOnly : Bool)
  | projectById (projectId : UUID)
  | articleList (page : Query.Page) (publishedOnly : Bool)
  | articleBySlug (slug : String) (publishedOnly : Bool)
  | articleById (articleId : UUID)
  | serviceList (activeOnly : Bool)
  | serviceBySlug (slug : String) (activeOnly : Bool)
  | serviceById (serviceId : UUID)
  | caseStudyList (publicOnly : Bool)
  | caseStudyById (caseStudyId : UUID) (publicOnly : Bool)
  | teamMemberList (activeOnly : Bool)
  | teamMemberById (teamMemberId : UUID) (activeOnly : Bool)
  | productList
  | productBySlug (slug : String)
  | serviceLineList
  | serviceLineBySlug (slug : String)
  | technologyList (filters : TechnologyFilters)
  | technologyById (technologyId : UUID)
  | clientList
  | clientById (clientId : UUID)
  | partnerList
  | partnerById (partnerId : UUID)
  | company
  | testimonialList

/-- What a read returns. -/
inductive Response [PyUnicode] where
  | projects (rows : List (WithTechnologies Project))
  | project (row : Option (WithTechnologies Project))
  | articles (rows : List (WithTechnologies Article))
  | article (row : Option (WithTechnologies Article))
  | services (rows : List Service)
  | service (row : Option Service)
  | caseStudies (rows : List CaseStudy)
  | caseStudy (row : Option CaseStudy)
  | teamMembers (rows : List TeamMember)
  | teamMember (row : Option TeamMember)
  | products (rows : List Product)
  | product (row : Option Product)
  | serviceLines (rows : List ServiceLine)
  | serviceLine (row : Option ServiceLine)
  | technologies (rows : List Technology)
  | technology (row : Option Technology)
  | clients (rows : List Client)
  | client (row : Option Client)
  | partners (rows : List Partner)
  | partner (row : Option Partner)
  | company (row : Option Company)
  | testimonials (rows : List Testimonial)

namespace Read

/-- The reads of the public routers. -/
def isPublic : Read → Bool
  | projectList _ publicOnly | projectBySlug _ publicOnly => publicOnly
  | articleList _ publishedOnly | articleBySlug _ publishedOnly => publishedOnly
  | serviceList activeOnly | serviceBySlug _ activeOnly => activeOnly
  | caseStudyList publicOnly | caseStudyById _ publicOnly => publicOnly
  | teamMemberList activeOnly | teamMemberById _ activeOnly => activeOnly
  | productList | productBySlug _ | serviceLineList | serviceLineBySlug _ => true
  | technologyList _ | technologyById _ | clientList | partnerList => true
  | company | testimonialList => true
  | projectById _ | articleById _ | serviceById _ | clientById _ | partnerById _ => false

variable [PyUnicode] [Collation] [Mysql]

/-- The repository call, with the engine's ranks for the rows it ties. -/
def run (ties : Ties) (db : Db) : Read → Except Raised Response
  | projectList filters publicOnly =>
      (ProjectRepository.list db.projects db.technologies ties filters publicOnly).map .projects
  | projectBySlug slug publicOnly =>
      (ProjectRepository.getBySlug db.projects db.technologies ties slug publicOnly).map .project
  | projectById projectId =>
      (ProjectRepository.getById db.projects db.technologies ties projectId).map .project
  | articleList page publishedOnly =>
      (ArticleRepository.list db.articles db.technologies ties page publishedOnly).map .articles
  | articleBySlug slug publishedOnly =>
      (ArticleRepository.getBySlug db.articles db.technologies ties slug publishedOnly).map .article
  | articleById articleId =>
      (ArticleRepository.getById db.articles db.technologies ties articleId).map .article
  | serviceList activeOnly => (ServiceRepository.list db.services ties activeOnly).map .services
  | serviceBySlug slug activeOnly =>
      (ServiceRepository.getBySlug db.services slug activeOnly).map .service
  | serviceById serviceId => (ServiceRepository.getById db.services serviceId).map .service
  | caseStudyList publicOnly =>
      (CaseStudyRepository.list db.caseStudies db.projects ties publicOnly).map .caseStudies
  | caseStudyById caseStudyId publicOnly =>
      (CaseStudyRepository.getById db.caseStudies db.projects caseStudyId publicOnly).map .caseStudy
  | teamMemberList activeOnly =>
      (TeamMemberRepository.list db.teamMembers ties activeOnly).map .teamMembers
  | teamMemberById teamMemberId activeOnly =>
      (TeamMemberRepository.getById db.teamMembers teamMemberId activeOnly).map .teamMember
  | productList => (ProductRepository.list db.products ties).map .products
  | productBySlug slug => (ProductRepository.getBySlug db.products slug).map .product
  | serviceLineList => (ServiceLineRepository.list db.serviceLines ties).map .serviceLines
  | serviceLineBySlug slug =>
      (ServiceLineRepository.getBySlug db.serviceLines slug).map .serviceLine
  | technologyList filters =>
      (TechnologyRepository.list db.technologies ties filters).map .technologies
  | technologyById technologyId =>
      (TechnologyRepository.getById db.technologies technologyId).map .technology
  | clientList => (ClientRepository.list db.clients ties).map .clients
  | clientById clientId => (ClientRepository.getById db.clients clientId).map .client
  | partnerList => (PartnerRepository.list db.partners ties).map .partners
  | partnerById partnerId => (PartnerRepository.getById db.partners partnerId).map .partner
  | company => (CompanyRepository.get db.companies ties).map .company
  | testimonialList => (TestimonialRepository.list db.testimonials ties).map .testimonials

end Read

namespace Sample

@[reducible] def unicode : PyUnicode where
  lower value := String.ofList (value.toList.map Char.toLower)
  netlocAccepted _ := true

@[reducible] def collation : Collation where
  weight value := value.toList.map Char.toNat

@[reducible] def mysql : Mysql where
  lower value := String.ofList (value.toList.map Char.toLower)
  sameChar first second := first == second
  acceptsJson _ := true

@[reducible] def emailStr : EmailStr where
  produces value := value == "contact@ch-tech.dev"

end Sample

end ChTech.Content
