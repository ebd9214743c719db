import ChTech.Content.Database
import ChTech.Content.Deletes
import ChTech.Content.ProjectList
import ChTech.Foundation.Lens
import ChTech.Infrastructure.RefreshTokenRepository

/-!
# Deletes and what they leave alone

The deletes of the admin API, over the whole schema.  A row goes together with its links, unless
a foreign key of another table names it; every other row stays as it is.
-/

namespace ChTech.Content

open Foundation

open TechnologyRepository (Technologies)

section

variable {Model Input Entity : Type} {repo : Repository Model Input Entity}

/-- `delete` of a row without technologies. -/
def Repository.deleteRow (repo : Repository Model Input Entity) (held : UUID → Bool)
    (conflict : Raised) (id : UUID) : Program repo.Rows Raised Bool :=
  Program.transact fun table => do
    match ← repo.select table id with
    | none => return (false, table)
    | some model =>
        (refusedAs conflict (Repository.commitDelete held (repo.key model) table)).map
          fun next => (true, next)

theorem Repository.select_absent {table : repo.Rows} {id : UUID}
    (absent : id ∉ table.rows.map repo.key) : repo.select table id = .ok none := by
  rw [select_eq, Table.find?_eq_none.mpr]
  intro row member
  exact decide_eq_false fun same => absent (same ▸ List.mem_map_of_mem member)

theorem Repository.deleteRow_absent {table : repo.Rows} {held : UUID → Bool} {conflict : Raised}
    {id : UUID} (absent : id ∉ table.rows.map repo.key) :
    repo.deleteRow held conflict id table = (.ok false, table) := by
  simp only [deleteRow, Program.transact, select_absent absent]
  rfl

theorem Repository.deleteRow_eq {table : repo.Rows} {held : UUID → Bool} {conflict : Raised}
    {id : UUID} (present : id ∈ table.rows.map repo.key) :
    repo.deleteRow held conflict id table =
      if held id then (.error conflict, table)
      else (.ok true, table.delete fun row => repo.key row = id) := by
  rcases List.mem_map.mp present with ⟨model, member, rfl⟩
  simp only [deleteRow, Program.transact, select_of_mem member, bind, Except.bind, commitDelete]
  cases held (repo.key model) with
  | true => rfl
  | false => rfl

variable [PyUnicode] [Collation]

theorem Tagged.deleteRow_absent {tagged : Tagged repo} {technologies : Technologies}
    {ties : Ties} {held : UUID → Bool} {conflict : Raised} {id : UUID}
    (absent : id ∉ tagged.rows.rows.map repo.key) :
    Tagged.deleteRow technologies ties held conflict id tagged = (.ok false, tagged) := by
  simp only [deleteRow, Program.transact, Repository.select_absent absent]
  rfl

/-- All links of the row are among those it was loaded with. -/
theorem Tagged.deleteRow_eq {tagged : Tagged repo} {technologies : Technologies}
    {ties : Ties} {held : UUID → Bool} {conflict : Raised} {id : UUID}
    (present : id ∈ tagged.rows.rows.map repo.key)
    (linked : ∀ link ∈ tagged.links.rows, link.2 ∈ technologies.rows.map TechnologyModel.id) :
    Tagged.deleteRow technologies ties held conflict id tagged =
      if held id then (.error conflict, tagged)
      else (.ok true, ⟨tagged.rows.delete fun row => repo.key row = id,
        tagged.links.delete fun link => link.1 == id⟩) := by
  rcases List.mem_map.mp present with ⟨model, member, rfl⟩
  have found : ((loadedIds tagged technologies ties (repo.key model)).all fun technologyId =>
      tagged.links.rows.contains (repo.key model, technologyId)) = true := by
    rw [List.all_eq_true]
    intro technologyId loaded
    exact List.contains_iff_mem.mpr (mem_loadedIds.mp loaded).1
  have gone : (tagged.links.delete fun link => link.1 == repo.key model &&
      (loadedIds tagged technologies ties (repo.key model)).contains link.2) =
        tagged.links.delete fun link => link.1 == repo.key model := by
    apply Table.delete_congr
    intro link stored
    cases own : link.1 == repo.key model with
    | false => rfl
    | true =>
        have loaded : link.2 ∈ loadedIds tagged technologies ties (repo.key model) := by
          rw [mem_loadedIds, ← eq_of_beq own]
          exact ⟨stored, List.mem_map.mp (linked link stored)⟩
        rw [List.contains_iff_mem.mpr loaded]
        rfl
  have unlinked : ((tagged.links.delete fun link => link.1 == repo.key model).rows.any
      fun link => link.1 == repo.key model) = false := by
    rw [List.any_eq_false]
    intro link left
    rw [Bool.not_eq_true]
    exact (Table.mem_delete.mp left).2
  simp only [deleteRow, Program.transact, Repository.select_of_mem member, bind, Except.bind,
    commitDelete, Repository.commitDelete]
  rw [found, gone, unlinked]
  cases held (repo.key model) with
  | true => rfl
  | false => rfl

end

/-! ## The schema -/

section

variable [PyUnicode] [Collation]

/-- Every table of the schema. -/
structure Store extends Db where
  refreshTokens : RefreshTokens

/-- The `id` columns name what the other columns refer to. -/
structure ForeignKeys (store : Store) : Prop where
  articles : ∀ row ∈ store.articles.rows.rows,
    row.authorId ∈ store.users.rows.map UserModel.id
  articleLinks : ∀ link ∈ store.articles.links.rows,
    link.1 ∈ store.articles.rows.rows.map ArticleModel.id ∧
      link.2 ∈ store.technologies.rows.map TechnologyModel.id
  projectLinks : ∀ link ∈ store.projects.links.rows,
    link.1 ∈ store.projects.rows.rows.map ProjectModel.id ∧
      link.2 ∈ store.technologies.rows.map TechnologyModel.id
  projects : ∀ row ∈ store.projects.rows.rows, ∀ id ∈ row.clientId,
    id ∈ store.clients.rows.map ClientModel.id
  caseStudies : ∀ row ∈ store.caseStudies.rows,
    row.projectId ∈ store.projects.rows.rows.map ProjectModel.id
  services : ∀ row ∈ store.services.rows, ∀ id ∈ row.serviceLineId,
    id ∈ store.serviceLines.rows.map ServiceLineModel.id
  contactRequests : ∀ row ∈ store.contactRequests.rows, ∀ id ∈ row.interestedServiceLineId,
    id ∈ store.serviceLines.rows.map ServiceLineModel.id
  testimonialClients : ∀ row ∈ store.testimonials.rows, ∀ id ∈ row.clientId,
    id ∈ store.clients.rows.map ClientModel.id
  testimonialProjects : ∀ row ∈ store.testimonials.rows, ∀ id ∈ row.projectId,
    id ∈ store.projects.rows.rows.map ProjectModel.id
  teamMembers : ∀ row ∈ store.teamMembers.rows, ∀ id ∈ row.userId,
    id ∈ store.users.rows.map UserModel.id
  refreshTokens : ∀ row ∈ store.refreshTokens.rows,
    row.userId ∈ store.users.rows.map UserModel.id

namespace Store

def holdsProject (store : Store) : UUID → Bool :=
  Content.holdsProject store.caseStudies store.testimonials

def holdsClient (store : Store) : UUID → Bool :=
  Content.holdsClient store.projects store.testimonials

def holdsServiceLine (store : Store) (id : UUID) : Bool :=
  store.services.rows.any (fun row => row.serviceLineId == some id) ||
    store.contactRequests.rows.any fun row => row.interestedServiceLineId == some id

end Store

namespace Part

def projects : Lens Store ProjectRepository.Projects where
  get store := store.projects
  set store projects := { store with projects }
  get_set _ _ := rfl
  set_get _ := rfl

def articles : Lens Store ArticleRepository.Articles where
  get store := store.articles
  set store articles := { store with articles }
  get_set _ _ := rfl
  set_get _ := rfl

def technologies : Lens Store Technologies where
  get store := store.technologies
  set store technologies := { store with technologies }
  get_set _ _ := rfl
  set_get _ := rfl

def services : Lens Store ServiceRepository.Services where
  get store := store.services
  set store services := { store with services }
  get_set _ _ := rfl
  set_get _ := rfl

def serviceLines : Lens Store ServiceLineRepository.ServiceLines where
  get store := store.serviceLines
  set store serviceLines := { store with serviceLines }
  get_set _ _ := rfl
  set_get _ := rfl

def products : Lens Store ProductRepository.Products where
  get store := store.products
  set store products := { store with products }
  get_set _ _ := rfl
  set_get _ := rfl

def clients : Lens Store ClientRepository.Clients where
  get store := store.clients
  set store clients := { store with clients }
  get_set _ _ := rfl
  set_get _ := rfl

def partners : Lens Store PartnerRepository.Partners where
  get store := store.partners
  set store partners := { store with partners }
  get_set _ _ := rfl
  set_get _ := rfl

def teamMembers : Lens Store TeamMemberRepository.TeamMembers where
  get store := store.teamMembers
  set store teamMembers := { store with teamMembers }
  get_set _ _ := rfl
  set_get _ := rfl

def companies : Lens Store CompanyRepository.Companies where
  get store := store.companies
  set store companies := { store with companies }
  get_set _ _ := rfl
  set_get _ := rfl

def caseStudies : Lens Store CaseStudyRepository.CaseStudies where
  get store := store.caseStudies
  set store caseStudies := { store with caseStudies }
  get_set _ _ := rfl
  set_get _ := rfl

def testimonials : Lens Store TestimonialRepository.Testimonials where
  get store := store.testimonials
  set store testimonials := { store with testimonials }
  get_set _ _ := rfl
  set_get _ := rfl

def contactRequests : Lens Store ContactRequestRepository.ContactRequests where
  get store := store.contactRequests
  set store contactRequests := { store with contactRequests }
  get_set _ _ := rfl
  set_get _ := rfl

end Part

/-- `SQLAlchemyProjectRepository.delete`. -/
def ProjectRepository.delete (ties : Ties) (projectId : UUID) : Program Store Raised Bool :=
  fun store =>
    let (deleted, projects) := Tagged.deleteRow store.technologies ties store.holdsProject
      (.app (.conflictError "Project is referenced by an existing case study or testimonial"))
      projectId store.projects
    (deleted, { store with projects })

/-- `SQLAlchemyClientRepository.delete`. -/
def ClientRepository.delete (clientId : UUID) : Program Store Raised Bool := fun store =>
  let (deleted, clients) := ClientRepository.repository.deleteRow store.holdsClient
    (.app (.conflictError "Client is referenced by an existing project or testimonial"))
    clientId store.clients
  (deleted, { store with clients })

/-- `SQLAlchemyServiceLineRepository.delete`. -/
def ServiceLineRepository.delete (serviceLineId : UUID) : Program Store Raised Bool :=
  fun store =>
    let (deleted, serviceLines) := ServiceLineRepository.repository.deleteRow
      store.holdsServiceLine (.app (.conflictError
        "Service line is referenced by an existing service or contact request"))
      serviceLineId store.serviceLines
    (deleted, { store with serviceLines })

/-- `SQLAlchemyArticleRepository.delete`; it commits without a `try`. -/
def ArticleRepository.delete (ties : Ties) (articleId : UUID) : Program Store Raised Bool :=
  fun store =>
    let (deleted, articles) := Tagged.deleteRow store.technologies ties (fun _ => false)
      .integrityError articleId store.articles
    (deleted, { store with articles })

/-- The links of a technology that the flush deletes: those of the owners it loads. -/
def unlinkTechnology {Model Input Entity : Type} {repo : Repository Model Input Entity}
    (tagged : Tagged repo) (technologyId : UUID) : Links :=
  let owners := (tagged.rows.rows.filter fun row =>
    tagged.links.rows.contains (repo.key row, technologyId)).map repo.key
  tagged.links.delete fun link => link.2 == technologyId && owners.contains link.1

/-- The `DELETE` of a technology and of its links in both link tables. -/
def TechnologyRepository.commitDelete (technologyId : UUID) (store : Store) :
    Except Raised Store :=
  let projectLinks := unlinkTechnology store.projects technologyId
  let articleLinks := unlinkTechnology store.articles technologyId
  if projectLinks.rows.any (fun link => link.2 == technologyId) ||
      articleLinks.rows.any fun link => link.2 == technologyId then
    .error .integrityError
  else
    .ok { store with
      technologies := store.technologies.delete fun row => row.id = technologyId
      projects := ⟨store.projects.rows, projectLinks⟩
      articles := ⟨store.articles.rows, articleLinks⟩ }

/-- `SQLAlchemyTechnologyRepository.delete`; it commits without a `try`. -/
def TechnologyRepository.delete (technologyId : UUID) : Program Store Raised Bool :=
  Program.transact fun store => do
    match ← TechnologyRepository.repository.select store.technologies technologyId with
    | none => return (false, store)
    | some model =>
        (TechnologyRepository.commitDelete model.id store).map fun next => (true, next)

section

variable {Model Input Entity : Type}

/-- `delete` of a row that no other table refers to; it commits without a `try`. -/
def deletePlain (repo : Repository Model Input Entity) (part : Lens Store repo.Rows)
    (id : UUID) : Program Store Raised Bool :=
  Program.on part fun _ => repo.deleteRow (fun _ => false) .integrityError id

end

/-- `SQLAlchemyServiceRepository.delete`. -/
def ServiceRepository.delete (serviceId : UUID) : Program Store Raised Bool :=
  deletePlain ServiceRepository.repository Part.services serviceId

/-- `SQLAlchemyProductRepository.delete`. -/
def ProductRepository.delete (productId : UUID) : Program Store Raised Bool :=
  deletePlain ProductRepository.repository Part.products productId

/-- `SQLAlchemyPartnerRepository.delete`. -/
def PartnerRepository.delete (partnerId : UUID) : Program Store Raised Bool :=
  deletePlain PartnerRepository.repository Part.partners partnerId

/-- `SQLAlchemyTeamMemberRepository.delete`. -/
def TeamMemberRepository.delete (teamMemberId : UUID) : Program Store Raised Bool :=
  deletePlain TeamMemberRepository.repository Part.teamMembers teamMemberId

/-- `SQLAlchemyCaseStudyRepository.delete`. -/
def CaseStudyRepository.delete (caseStudyId : UUID) : Program Store Raised Bool :=
  deletePlain CaseStudyRepository.repository Part.caseStudies caseStudyId

/-- `SQLAlchemyTestimonialRepository.delete`. -/
def TestimonialRepository.delete (testimonialId : UUID) : Program Store Raised Bool :=
  deletePlain TestimonialRepository.repository Part.testimonials testimonialId

/-! ## What they are to do -/

/-- One of the eleven deletes. -/
inductive Delete where
  | project (ties : Ties) (id : UUID)
  | client (id : UUID)
  | serviceLine (id : UUID)
  | technology (id : UUID)
  | article (ties : Ties) (id : UUID)
  | service (id : UUID)
  | product (id : UUID)
  | partner (id : UUID)
  | teamMember (id : UUID)
  | caseStudy (id : UUID)
  | testimonial (id : UUID)

namespace Delete

def run : Delete → Program Store Raised Bool
  | project ties id => ProjectRepository.delete ties id
  | client id => ClientRepository.delete id
  | serviceLine id => ServiceLineRepository.delete id
  | technology id => TechnologyRepository.delete id
  | article ties id => ArticleRepository.delete ties id
  | service id => ServiceRepository.delete id
  | product id => ProductRepository.delete id
  | partner id => PartnerRepository.delete id
  | teamMember id => TeamMemberRepository.delete id
  | caseStudy id => CaseStudyRepository.delete id
  | testimonial id => TestimonialRepository.delete id

/-- The row is stored. -/
def known (store : Store) : Delete → Bool
  | project _ id => store.projects.rows.rows.any fun row => row.id == id
  | client id => store.clients.rows.any fun row => row.id == id
  | serviceLine id => store.serviceLines.rows.any fun row => row.id == id
  | technology id => store.technologies.rows.any fun row => row.id == id
  | article _ id => store.articles.rows.rows.any fun row => row.id == id
  | service id => store.services.rows.any fun row => row.id == id
  | product id => store.products.rows.any fun row => row.id == id
  | partner id => store.partners.rows.any fun row => row.id == id
  | teamMember id => store.teamMembers.rows.any fun row => row.id == id
  | caseStudy id => store.caseStudies.rows.any fun row => row.id == id
  | testimonial id => store.testimonials.rows.any fun row => row.id == id

/-- A row of another table, not counting the links, names it. -/
def held (store : Store) : Delete → Bool
  | project _ id => store.holdsProject id
  | client id => store.holdsClient id
  | serviceLine id => store.holdsServiceLine id
  | technology _ | article .. | service _ | product _ | partner _ | teamMember _ | caseStudy _
  | testimonial _ => false

/-- The schema without the row and its links. -/
def removed (store : Store) : Delete → Store
  | project _ id => { store with
      projects := ⟨store.projects.rows.delete fun row => row.id == id,
        store.projects.links.delete fun link => link.1 == id⟩ }
  | client id => { store with clients := store.clients.delete fun row => row.id == id }
  | serviceLine id =>
      { store with serviceLines := store.serviceLines.delete fun row => row.id == id }
  | technology id => { store with
      technologies := store.technologies.delete fun row => row.id == id
      projects := ⟨store.projects.rows, store.projects.links.delete fun link => link.2 == id⟩
      articles := ⟨store.articles.rows, store.articles.links.delete fun link => link.2 == id⟩ }
  | article _ id => { store with
      articles := ⟨store.articles.rows.delete fun row => row.id == id,
        store.articles.links.delete fun link => link.1 == id⟩ }
  | service id => { store with services := store.services.delete fun row => row.id == id }
  | product id => { store with products := store.products.delete fun row => row.id == id }
  | partner id => { store with partners := store.partners.delete fun row => row.id == id }
  | teamMember id => { store with teamMembers := store.teamMembers.delete fun row => row.id == id }
  | caseStudy id => { store with caseStudies := store.caseStudies.delete fun row => row.id == id }
  | testimonial id =>
      { store with testimonials := store.testimonials.delete fun row => row.id == id }

end Delete

/-- An unknown id changes nothing, a row that is named ends in a conflict and changes
nothing, and any other row is removed with its links and nothing else. -/
structure DeletesExactly (known held : Bool) (removed before : Store)
    (ended : Except Raised Bool × Store) : Prop where
  unknown : known = false → ended = (.ok false, before)
  refused : known = true → held = true →
    ended.2 = before ∧ ∃ message, ended.1 = .error (.app (.conflictError message))
  removed : known = true → held = false → ended = (.ok true, removed)

theorem DeletesExactly.of_eq {known held : Bool} {removed before : Store} (message : String)
    {ended : Except Raised Bool × Store}
    (absent : known = false → ended = (.ok false, before))
    (present : known = true → ended =
      if held then (.error (.app (.conflictError message)), before) else (.ok true, removed)) :
    DeletesExactly known held removed before ended where
  unknown := absent
  refused stored named := by
    rw [present stored, if_pos named]
    exact ⟨rfl, message, rfl⟩
  removed stored free := by
    rw [present stored, free]
    rfl

omit [PyUnicode] [Collation] in
theorem any_key {ρ : Type} {rows : List ρ} {key : ρ → UUID} {id : UUID} :
    (rows.any fun row => key row == id) = true ↔ id ∈ rows.map key := by
  simp only [List.any_eq_true, beq_iff_eq, List.mem_map]

omit [PyUnicode] [Collation] in
theorem not_any_key {ρ : Type} {rows : List ρ} {key : ρ → UUID} {id : UUID} :
    (rows.any fun row => key row == id) = false ↔ id ∉ rows.map key := by
  rw [← any_key, Bool.not_eq_true]

omit [PyUnicode] [Collation] in
/-- The owners that are loaded are all that the technology is linked to. -/
theorem unlinkTechnology_eq {Model Input Entity : Type} {repo : Repository Model Input Entity}
    {tagged : Tagged repo} {technologyId : UUID}
    (owned : ∀ link ∈ tagged.links.rows, link.1 ∈ tagged.rows.rows.map repo.key) :
    unlinkTechnology tagged technologyId =
      tagged.links.delete fun link => link.2 == technologyId := by
  apply Table.delete_congr
  intro link stored
  cases linked : link.2 == technologyId with
  | false => rfl
  | true =>
      rcases List.mem_map.mp (owned link stored) with ⟨owner, member, same⟩
      have loaded : link.1 ∈ (tagged.rows.rows.filter fun row =>
          tagged.links.rows.contains (repo.key row, technologyId)).map repo.key := by
        refine List.mem_map.mpr ⟨owner, List.mem_filter.mpr ⟨member, ?_⟩, same⟩
        rw [same, ← eq_of_beq linked]
        exact List.contains_iff_mem.mpr stored
      rw [List.contains_iff_mem.mpr loaded]
      rfl

theorem project_deletes {store : Store} (keys : ForeignKeys store) (ties : Ties) (id : UUID) :
    DeletesExactly ((Delete.project ties id).known store) (store.holdsProject id)
      ((Delete.project ties id).removed store) store (ProjectRepository.delete ties id store) := by
  apply DeletesExactly.of_eq "Project is referenced by an existing case study or testimonial"
  · intro unknown
    unfold ProjectRepository.delete
    rw [Tagged.deleteRow_absent (not_any_key.mp unknown)]
  · intro known
    have linked : ∀ link ∈ store.projects.links.rows,
        link.2 ∈ store.technologies.rows.map TechnologyModel.id :=
      fun link stored => (keys.projectLinks link stored).2
    unfold ProjectRepository.delete
    rw [Tagged.deleteRow_eq (any_key.mp known) linked]
    cases store.holdsProject id with
    | true => rfl
    | false => rfl

theorem article_deletes {store : Store} (keys : ForeignKeys store) (ties : Ties) (id : UUID) :
    DeletesExactly ((Delete.article ties id).known store) false
      ((Delete.article ties id).removed store) store (ArticleRepository.delete ties id store) := by
  apply DeletesExactly.of_eq ""
  · intro unknown
    unfold ArticleRepository.delete
    rw [Tagged.deleteRow_absent (not_any_key.mp unknown)]
  · intro known
    have linked : ∀ link ∈ store.articles.links.rows,
        link.2 ∈ store.technologies.rows.map TechnologyModel.id :=
      fun link stored => (keys.articleLinks link stored).2
    unfold ArticleRepository.delete
    rw [Tagged.deleteRow_eq (any_key.mp known) linked]
    rfl

theorem client_deletes (store : Store) (id : UUID) :
    DeletesExactly ((Delete.client id).known store) (store.holdsClient id)
      ((Delete.client id).removed store) store (ClientRepository.delete id store) := by
  apply DeletesExactly.of_eq "Client is referenced by an existing project or testimonial"
  · intro unknown
    unfold ClientRepository.delete
    rw [Repository.deleteRow_absent (not_any_key.mp unknown)]
  · intro known
    unfold ClientRepository.delete
    rw [Repository.deleteRow_eq (any_key.mp known)]
    cases store.holdsClient id with
    | true => rfl
    | false => rfl

theorem serviceLine_deletes (store : Store) (id : UUID) :
    DeletesExactly ((Delete.serviceLine id).known store) (store.holdsServiceLine id)
      ((Delete.serviceLine id).removed store) store (ServiceLineRepository.delete id store) := by
  apply DeletesExactly.of_eq
    "Service line is referenced by an existing service or contact request"
  · intro unknown
    unfold ServiceLineRepository.delete
    rw [Repository.deleteRow_absent (not_any_key.mp unknown)]
  · intro known
    unfold ServiceLineRepository.delete
    rw [Repository.deleteRow_eq (any_key.mp known)]
    cases store.holdsServiceLine id with
    | true => rfl
    | false => rfl

theorem commitDelete_technology {store : Store} (keys : ForeignKeys store) (id : UUID) :
    TechnologyRepository.commitDelete id store = .ok ((Delete.technology id).removed store) := by
  have projectLinks : unlinkTechnology store.projects id =
      store.projects.links.delete fun link => link.2 == id :=
    unlinkTechnology_eq fun link stored => (keys.projectLinks link stored).1
  have articleLinks : unlinkTechnology store.articles id =
      store.articles.links.delete fun link => link.2 == id :=
    unlinkTechnology_eq fun link stored => (keys.articleLinks link stored).1
  have unlinked : ∀ links : Links,
      ((links.delete fun link => link.2 == id).rows.any fun link => link.2 == id) = false := by
    intro links
    rw [List.any_eq_false]
    intro link left
    rw [Bool.not_eq_true]
    exact (Table.mem_delete.mp left).2
  simp only [TechnologyRepository.commitDelete, projectLinks, articleLinks, unlinked,
    Bool.or_false]
  rfl

theorem technology_deletes {store : Store} (keys : ForeignKeys store) (id : UUID) :
    DeletesExactly ((Delete.technology id).known store) false
      ((Delete.technology id).removed store) store (TechnologyRepository.delete id store) := by
  apply DeletesExactly.of_eq ""
  · intro unknown
    have absent : TechnologyRepository.repository.select store.technologies id = .ok none :=
      Repository.select_absent (not_any_key.mp unknown)
    simp only [TechnologyRepository.delete, Program.transact, absent]
    rfl
  · intro known
    rcases List.mem_map.mp (any_key.mp known) with ⟨model, member, rfl⟩
    have selected : TechnologyRepository.repository.select store.technologies model.id =
        .ok (some model) := Repository.select_of_mem member
    simp only [TechnologyRepository.delete, Program.transact, selected, bind, Except.bind,
      commitDelete_technology keys]
    rfl

/-- A row that no other table refers to. -/
theorem plain_deletes {Model Input Entity : Type} (repo : Repository Model Input Entity)
    (part : Lens Store repo.Rows) (store : Store) (id : UUID) :
    DeletesExactly ((part.get store).rows.any fun row => repo.key row == id) false
      (part.set store ((part.get store).delete fun row => repo.key row == id)) store
      (deletePlain repo part id store) := by
  apply DeletesExactly.of_eq ""
  · intro unknown
    rw [deletePlain, Program.on, Repository.deleteRow_absent (not_any_key.mp unknown),
      part.set_get]
  · intro known
    rw [deletePlain, Program.on, Repository.deleteRow_eq (any_key.mp known)]
    rfl

theorem Delete.exactly (delete : Delete) {store : Store} (keys : ForeignKeys store) :
    DeletesExactly (delete.known store) (delete.held store) (delete.removed store) store
      (delete.run store) := by
  cases delete with
  | project ties id => exact project_deletes keys ties id
  | client id => exact client_deletes store id
  | serviceLine id => exact serviceLine_deletes store id
  | technology id => exact technology_deletes keys id
  | article ties id => exact article_deletes keys ties id
  | service id => exact plain_deletes ServiceRepository.repository Part.services store id
  | product id => exact plain_deletes ProductRepository.repository Part.products store id
  | partner id => exact plain_deletes PartnerRepository.repository Part.partners store id
  | teamMember id => exact plain_deletes TeamMemberRepository.repository Part.teamMembers store id
  | caseStudy id => exact plain_deletes CaseStudyRepository.repository Part.caseStudies store id
  | testimonial id =>
      exact plain_deletes TestimonialRepository.repository Part.testimonials store id

omit [PyUnicode] [Collation] in
theorem mem_ids_delete {ρ : Type} {clash : ρ → ρ → Bool} {table : Table ρ clash} {key : ρ → UUID}
    {gone id : UUID} : id ∈ (table.delete fun row => key row == gone).rows.map key ↔
      id ∈ table.rows.map key ∧ id ≠ gone := by
  simp only [List.mem_map, Table.mem_delete, beq_eq_false_iff_ne]
  constructor
  · rintro ⟨row, ⟨stored, different⟩, rfl⟩
    exact ⟨⟨row, stored, rfl⟩, different⟩
  · rintro ⟨⟨row, stored, rfl⟩, different⟩
    exact ⟨row, ⟨stored, different⟩, rfl⟩

omit [PyUnicode] [Collation] in
/-- Optional references outlast the delete of a row that none of them names. -/
theorem references_removed {ρ σ : Type} {clash : ρ → ρ → Bool} {table : Table ρ clash}
    {key : ρ → UUID} {rows : List σ} {reference : σ → Option UUID} {gone : UUID}
    (held : ∀ row ∈ rows, ∀ id ∈ reference row, id ∈ table.rows.map key)
    (free : ∀ row ∈ rows, ¬(reference row == some gone) = true) :
    ∀ row ∈ rows, ∀ id ∈ reference row,
      id ∈ (table.delete fun row => key row == gone).rows.map key := by
  intro row stored id names
  refine mem_ids_delete.mpr ⟨held row stored id names, ?_⟩
  intro same
  subst same
  have other := free row stored
  rw [Option.mem_def.mp names] at other
  exact other (beq_self_eq_true _)

/-- What is not named may go. -/
theorem ForeignKeys.removed {store : Store} (keys : ForeignKeys store) {delete : Delete}
    (free : delete.held store = false) : ForeignKeys (delete.removed store) := by
  cases delete with
  | project ties id =>
      rcases Bool.or_eq_false_iff.mp free with ⟨caseStudies, testimonials⟩
      rw [List.any_eq_false] at caseStudies testimonials
      refine { keys with
        projectLinks := ?_, projects := ?_, caseStudies := ?_,
        testimonialProjects := references_removed keys.testimonialProjects testimonials }
      · intro link left
        rcases Table.mem_delete.mp left with ⟨stored, other⟩
        rcases keys.projectLinks link stored with ⟨project, technology⟩
        exact ⟨mem_ids_delete.mpr ⟨project, beq_eq_false_iff_ne.mp other⟩, technology⟩
      · intro row left
        exact keys.projects row (Table.mem_delete.mp left).1
      · intro row stored
        refine mem_ids_delete.mpr ⟨keys.caseStudies row stored, ?_⟩
        intro same
        subst same
        exact caseStudies row stored (beq_self_eq_true _)
  | client id =>
      rcases Bool.or_eq_false_iff.mp free with ⟨projects, testimonials⟩
      rw [List.any_eq_false] at projects testimonials
      exact { keys with
        projects := references_removed keys.projects projects
        testimonialClients := references_removed keys.testimonialClients testimonials }
  | serviceLine id =>
      rcases Bool.or_eq_false_iff.mp free with ⟨services, contactRequests⟩
      rw [List.any_eq_false] at services contactRequests
      exact { keys with
        services := references_removed keys.services services
        contactRequests := references_removed keys.contactRequests contactRequests }
  | technology id =>
      refine { keys with articleLinks := ?_, projectLinks := ?_ }
      · intro link left
        rcases Table.mem_delete.mp left with ⟨stored, other⟩
        rcases keys.articleLinks link stored with ⟨article, technology⟩
        exact ⟨article, mem_ids_delete.mpr ⟨technology, beq_eq_false_iff_ne.mp other⟩⟩
      · intro link left
        rcases Table.mem_delete.mp left with ⟨stored, other⟩
        rcases keys.projectLinks link stored with ⟨project, technology⟩
        exact ⟨project, mem_ids_delete.mpr ⟨technology, beq_eq_false_iff_ne.mp other⟩⟩
  | article ties id =>
      refine { keys with articles := ?_, articleLinks := ?_ }
      · intro row left
        exact keys.articles row (Table.mem_delete.mp left).1
      · intro link left
        rcases Table.mem_delete.mp left with ⟨stored, other⟩
        rcases keys.articleLinks link stored with ⟨article, technology⟩
        exact ⟨mem_ids_delete.mpr ⟨article, beq_eq_false_iff_ne.mp other⟩, technology⟩
  | service id =>
      exact { keys with
        services := fun row left => keys.services row (Table.mem_delete.mp left).1 }
  | teamMember id =>
      exact { keys with
        teamMembers := fun row left => keys.teamMembers row (Table.mem_delete.mp left).1 }
  | caseStudy id =>
      exact { keys with
        caseStudies := fun row left => keys.caseStudies row (Table.mem_delete.mp left).1 }
  | testimonial id =>
      exact { keys with
        testimonialClients := fun row left =>
          keys.testimonialClients row (Table.mem_delete.mp left).1
        testimonialProjects := fun row left =>
          keys.testimonialProjects row (Table.mem_delete.mp left).1 }
  | product id | partner id => exact { keys with }

/-- A delete leaves no foreign key dangling. -/
theorem ForeignKeys.run {store : Store} (keys : ForeignKeys store) (delete : Delete) :
    ForeignKeys (delete.run store).2 := by
  have exactly := delete.exactly keys
  cases known : delete.known store with
  | false =>
      rw [exactly.unknown known]
      exact keys
  | true =>
      cases named : delete.held store with
      | true =>
          rw [(exactly.refused known named).1]
          exact keys
      | false =>
          rw [exactly.removed known named]
          exact keys.removed named

/-- Every delete does exactly what it is to do, and leaves the foreign keys intact. -/
theorem deletes_exact {store : Store} (keys : ForeignKeys store) (delete : Delete) :
    DeletesExactly (delete.known store) (delete.held store) (delete.removed store) store
        (delete.run store) ∧ ForeignKeys (delete.run store).2 :=
  ⟨delete.exactly keys, keys.run delete⟩

end

namespace Sample

open ProjectRepository.Sample (projects technologies)

attribute [local instance] unicode collation mysql

/-- Two projects with links, a case study of the second, and a draft. -/
def linkedStore : Store where
  toDb := { Db.empty (Table.singleton author) with
    technologies
    projects
    articles := essays
    caseStudies := Table.singleton writeUp }
  refreshTokens := .empty

theorem foreignKeys_linkedStore : ForeignKeys linkedStore := by
  constructor <;> decide

/-- The first project goes with its links; the second one is kept for its case study. -/
theorem deletes_exact_linked :
    (ProjectRepository.delete (fun _ => 0) 1 linkedStore).1 = .ok true ∧
      (ProjectRepository.delete (fun _ => 0) 2 linkedStore).2 = linkedStore := by
  have first := (deletes_exact foreignKeys_linkedStore (.project (fun _ => 0) 1)).1
  have second := (deletes_exact foreignKeys_linkedStore (.project (fun _ => 0) 2)).1
  have removed := first.removed (by decide) (by decide)
  exact ⟨congrArg Prod.fst removed, (second.refused (by decide) (by decide)).1⟩

end Sample

end ChTech.Content
