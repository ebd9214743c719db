import ChTech.Content.Visibility

/-!
# Reading use cases

The `List` use cases return what the repository does; the `Get` use cases raise
`ResourceNotFoundError` where it finds no row.
-/

namespace ChTech.Application

open Foundation Content

/-- What two lookups answer alike, they find alike. -/
theorem existing_congr {α β : Type} {message : String} {build : Option α → β}
    (injective : Function.Injective build) {first second : Except Raised (Option α)}
    (same : first.map build = second.map build) :
    (existing message first).map build = (existing message second).map build := by
  have equal : first = second := by
    cases first with
    | error raised =>
        cases second with
        | error other =>
            injection same with same
            rw [same]
        | ok other => cases same
    | ok value =>
        cases second with
        | error other => cases same
        | ok other =>
            injection same with same
            rw [injective same]
  rw [equal]

variable [PyUnicode] [Collation] [Mysql]

def GetProjectBySlug.execute (ties : Ties) (db : Db) (slug : String) (publicOnly : Bool) :
    Except Raised (Option (WithTechnologies Project)) :=
  existing "Project not found"
    (ProjectRepository.getBySlug db.projects db.technologies ties slug publicOnly)

def GetProjectById.execute (ties : Ties) (db : Db) (projectId : UUID) :
    Except Raised (Option (WithTechnologies Project)) :=
  existing "Project not found"
    (ProjectRepository.getById db.projects db.technologies ties projectId)

def GetArticleBySlug.execute (ties : Ties) (db : Db) (slug : String) (publishedOnly : Bool) :
    Except Raised (Option (WithTechnologies Article)) :=
  existing "Article not found"
    (ArticleRepository.getBySlug db.articles db.technologies ties slug publishedOnly)

def GetArticleById.execute (ties : Ties) (db : Db) (articleId : UUID) :
    Except Raised (Option (WithTechnologies Article)) :=
  existing "Article not found"
    (ArticleRepository.getById db.articles db.technologies ties articleId)

def GetServiceBySlug.execute (db : Db) (slug : String) (activeOnly : Bool) :
    Except Raised (Option Service) :=
  existing "Service not found" (ServiceRepository.getBySlug db.services slug activeOnly)

def GetServiceById.execute (db : Db) (serviceId : UUID) : Except Raised (Option Service) :=
  existing "Service not found" (ServiceRepository.getById db.services serviceId)

def GetCaseStudyById.execute (db : Db) (caseStudyId : UUID) (publicOnly : Bool) :
    Except Raised (Option CaseStudy) :=
  existing "Case study not found"
    (CaseStudyRepository.getById db.caseStudies db.projects caseStudyId publicOnly)

def GetTeamMemberById.execute (db : Db) (teamMemberId : UUID) (activeOnly : Bool) :
    Except Raised (Option TeamMember) :=
  existing "Team member not found"
    (TeamMemberRepository.getById db.teamMembers teamMemberId activeOnly)

def GetProductBySlug.execute (db : Db) (slug : String) : Except Raised (Option Product) :=
  existing "Product not found" (ProductRepository.getBySlug db.products slug)

def GetServiceLineBySlug.execute (db : Db) (slug : String) :
    Except Raised (Option ServiceLine) :=
  existing "Service line not found" (ServiceLineRepository.getBySlug db.serviceLines slug)

def GetTechnologyById.execute (db : Db) (technologyId : UUID) :
    Except Raised (Option Technology) :=
  existing "Technology not found" (TechnologyRepository.getById db.technologies technologyId)

def GetCompany.execute (ties : Ties) (db : Db) : Except Raised (Option Company) :=
  existing "Company profile not found" (CompanyRepository.get db.companies ties)

namespace Reading

/-- The use case behind a read; the lookups by id of clients and partners have none. -/
def execute (ties : Ties) (db : Db) : Read → Except Raised Response
  | .projectBySlug slug publicOnly =>
      (GetProjectBySlug.execute ties db slug publicOnly).map .project
  | .projectById projectId => (GetProjectById.execute ties db projectId).map .project
  | .articleBySlug slug publishedOnly =>
      (GetArticleBySlug.execute ties db slug publishedOnly).map .article
  | .articleById articleId => (GetArticleById.execute ties db articleId).map .article
  | .serviceBySlug slug activeOnly => (GetServiceBySlug.execute db slug activeOnly).map .service
  | .serviceById serviceId => (GetServiceById.execute db serviceId).map .service
  | .caseStudyById caseStudyId publicOnly =>
      (GetCaseStudyById.execute db caseStudyId publicOnly).map .caseStudy
  | .teamMemberById teamMemberId activeOnly =>
      (GetTeamMemberById.execute db teamMemberId activeOnly).map .teamMember
  | .productBySlug slug => (GetProductBySlug.execute db slug).map .product
  | .serviceLineBySlug slug => (GetServiceLineBySlug.execute db slug).map .serviceLine
  | .technologyById technologyId => (GetTechnologyById.execute db technologyId).map .technology
  | .company => (GetCompany.execute ties db).map .company
  | read => read.run ties db

/-- There is a route for it. -/
def routed : Read → Bool
  | .clientById _ | .partnerById _ => false
  | _ => true

/-- The bounds of the query parameters. -/
def queryAccepted : Read → Bool
  | .projectList filters _ =>
      decide (filters.page.limit ≤ 100) && ["created_at", "title"].contains filters.sort
  | .articleList page _ => decide (page.limit ≤ 100)
  | _ => true

/-- A public read sees no more than the visible part. -/
theorem execute_visible {first second : Db} (engine : Engine)
    (same : first.visible = second.visible) {read : Read} (shown : read.isPublic = true) :
    execute (engine.ranks read first.visible) first read =
      execute (engine.ranks read second.visible) second read := by
  have answered := public_reads_visible engine same shown
  cases read with
  | projectBySlug | articleBySlug | serviceBySlug | caseStudyById | teamMemberById
  | productBySlug | serviceLineBySlug | technologyById | company =>
      refine existing_congr ?_ answered
      intro left right equal
      injection equal
  | projectById | articleById | serviceById | clientById | partnerById => cases shown
  | _ => exact answered

end Reading

end ChTech.Application
