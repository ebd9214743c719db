import ChTech.Content.Database

/-!
# Stored rows are read back

Every validator of the write schemas but one repeats the check that rebuilds the value
when the row is read.  The slug is only checked for its length, so a slug that is not one
is committed, and the request then fails, with every later read of the row.
-/

namespace ChTech.Content

open Foundation

section

variable [PyUnicode] [Collation]

/-- Every row of every table converts. -/
structure Db.Readable (db : Db) : Prop where
  technologies : TechnologyRepository.repository.Readable db.technologies
  projects : ProjectRepository.repository.Readable db.projects.rows
  articles : ArticleRepository.repository.Readable db.articles.rows
  services : ServiceRepository.repository.Readable db.services
  serviceLines : ServiceLineRepository.repository.Readable db.serviceLines
  products : ProductRepository.repository.Readable db.products
  clients : ClientRepository.repository.Readable db.clients
  partners : PartnerRepository.repository.Readable db.partners
  teamMembers : TeamMemberRepository.repository.Readable db.teamMembers
  companies : CompanyRepository.repository.Readable db.companies

theorem Db.readable_empty (users : Users) : (Db.empty users).Readable := by
  constructor
  all_goals exact Repository.readable_empty

/-- No read of a readable database raises. -/
theorem Read.run_isOk [Mysql] {db : Db} (readable : db.Readable) (ties : Ties) (read : Read) :
    (read.run ties db).isOk = true := by
  cases read
  all_goals
    simp only [Read.run, Result.isOk_map]
  case projectList => exact ProjectRepository.list_isOk readable.technologies readable.projects
  case projectBySlug =>
    exact ProjectRepository.getBySlug_isOk readable.technologies readable.projects
  case projectById => exact ProjectRepository.getById_isOk readable.technologies readable.projects
  case articleList => exact ArticleRepository.list_isOk readable.technologies readable.articles
  case articleBySlug =>
    exact ArticleRepository.getBySlug_isOk readable.technologies readable.articles
  case articleById => exact ArticleRepository.getById_isOk readable.technologies readable.articles
  case serviceList => exact ServiceRepository.list_isOk readable.services
  case serviceBySlug => exact ServiceRepository.getBySlug_isOk readable.services
  case serviceById => exact ServiceRepository.getById_isOk readable.services
  case caseStudyList => exact CaseStudyRepository.list_isOk
  case caseStudyById => exact CaseStudyRepository.getById_isOk
  case teamMemberList => exact TeamMemberRepository.list_isOk readable.teamMembers
  case teamMemberById => exact TeamMemberRepository.getById_isOk readable.teamMembers
  case productList => exact ProductRepository.list_isOk readable.products
  case productBySlug => exact ProductRepository.getBySlug_isOk readable.products
  case serviceLineList => exact ServiceLineRepository.list_isOk readable.serviceLines
  case serviceLineBySlug => exact ServiceLineRepository.getBySlug_isOk readable.serviceLines
  case technologyList => exact TechnologyRepository.list_isOk readable.technologies
  case technologyById => exact TechnologyRepository.getById_isOk readable.technologies
  case clientList => exact ClientRepository.list_isOk readable.clients
  case clientById => exact ClientRepository.getById_isOk readable.clients
  case partnerList => exact PartnerRepository.list_isOk readable.partners
  case partnerById => exact PartnerRepository.getById_isOk readable.partners
  case company => exact CompanyRepository.get_isOk readable.companies
  case testimonialList => exact TestimonialRepository.list_isOk

variable [Mysql] [EmailStr]

/-- An accepted write ends well exactly when its slug is one. -/
theorem AdminWrite.save_outcome
    (emailStr : ∀ value, EmailStr.produces value = true → (Email.postInit value).isOk = true)
    {db : Db} {write : AdminWrite} (accepted : write.accepted = true) (readable : db.Readable) :
    Outcome Db.Readable (write.slug.all slugRe) (write.commit db) (write.save db).1
      (write.save db).2 := by
  cases write with
  | project target ties payload =>
      exact (Tagged.save_outcome ProjectRepository.steady (ProjectRepository.verdict accepted)
        readable.technologies readable.projects).congr
        ⟨Db.Readable.projects, fun rows => { readable with projects := rows }⟩
  | article target ties authorId payload =>
      exact (Tagged.save_outcome ArticleRepository.steady (ArticleRepository.verdict accepted)
        readable.technologies readable.articles).congr
        ⟨Db.Readable.articles, fun rows => { readable with articles := rows }⟩
  | service target payload =>
      exact (Repository.save_outcome ServiceRepository.steady ServiceRepository.verdict
        readable.services).congr
        ⟨Db.Readable.services, fun rows => { readable with services := rows }⟩
  | product target payload =>
      exact (Repository.save_outcome ProductRepository.steady (ProductRepository.verdict accepted)
        readable.products).congr
        ⟨Db.Readable.products, fun rows => { readable with products := rows }⟩
  | serviceLine target payload =>
      exact (Repository.save_outcome ServiceLineRepository.steady
        (ServiceLineRepository.verdict accepted) readable.serviceLines).congr
        ⟨Db.Readable.serviceLines, fun rows => { readable with serviceLines := rows }⟩
  | technology target payload =>
      exact (Repository.save_outcome TechnologyRepository.steady
        (TechnologyRepository.verdict accepted) readable.technologies).congr
        ⟨Db.Readable.technologies, fun rows => { readable with technologies := rows }⟩
  | client target payload =>
      exact (Repository.save_outcome ClientRepository.steady (ClientRepository.verdict accepted)
        readable.clients).congr
        ⟨Db.Readable.clients, fun rows => { readable with clients := rows }⟩
  | partner target payload =>
      exact (Repository.save_outcome PartnerRepository.steady (PartnerRepository.verdict accepted)
        readable.partners).congr
        ⟨Db.Readable.partners, fun rows => { readable with partners := rows }⟩
  | teamMember target payload =>
      exact (Repository.save_outcome TeamMemberRepository.steady
        (TeamMemberRepository.verdict accepted) readable.teamMembers).congr
        ⟨Db.Readable.teamMembers, fun rows => { readable with teamMembers := rows }⟩
  | company defaults now ties payload =>
      exact (CompanyRepository.update_outcome emailStr accepted readable.companies).congr
        ⟨Db.Readable.companies, fun rows => { readable with companies := rows }⟩

/-- The slug in the payload, if there is one, is a slug. -/
def AdminWrite.wellSlugged (write : AdminWrite) : Bool := write.slug.all slugRe

/-- After writes whose slugs are slugs every row is read back, and no read raises.  A next
write that has written its row returns and leaves every row readable exactly when its slug
is one. -/
theorem stored_rows_readable
    (emailStr : ∀ value, EmailStr.produces value = true → (Email.postInit value).isOk = true)
    {users : Users} {db : Db}
    (run : Machine.Reaches admin (fun _ write => write.wellSlugged = true) (Db.empty users) db) :
    db.Readable ∧ (∀ ties read, (Read.run ties db read).isOk = true) ∧
      ∀ write : AdminWrite, write.accepted = true →
        (write.commit db = .ok true →
          ((write.save db).1.isOk = true ∧ (write.save db).2.Readable ↔
            write.wellSlugged = true)) ∧
        (write.commit db = .ok false →
          (write.save db).1.isOk = true ∧ (write.save db).2.Readable) := by
  have readable : db.Readable := by
    refine run.invariant Db.Readable ?_ (Db.readable_empty users)
    intro before write after earlier slugged stepped
    simp only [admin] at stepped
    split at stepped
    next accepted =>
      cases stepped
      exact (write.save_outcome emailStr accepted earlier).readable slugged
    next => cases stepped
  refine ⟨readable, fun ties read => read.run_isOk readable ties, ?_⟩
  intro write accepted
  have outcome := write.save_outcome emailStr accepted readable
  exact ⟨outcome.written, outcome.absent⟩

end

namespace Sample

attribute [local instance] unicode collation mysql emailStr

def start : Db := Db.empty Table.empty

def company : AdminWrite :=
  .company ⟨1, 1767225600000000, 1767225600000000⟩ 1767225600000000 (fun _ => 0) {
    legalName := "CH-TECH"
    displayName := "CH-TECH"
    tagline := none
    mission := none
    vision := none
    email := some "contact@ch-tech.dev"
    phone := none
    address := none
    socialLinks := none }

def service (slug : String) : AdminWrite :=
  .service (.post ⟨2, 1767225600000001, 1767225600000001⟩) {
    slug
    title := "Consulting"
    description := none
    featured := false
    active := true }

/-- A service whose slug is one is stored after the company, and read back. -/
theorem stored_rows_readable_service :
    ∃ db, Machine.execIf admin (fun _ write => write.wellSlugged = true)
        start [company, service "consulting"] = some db ∧
      (Read.run (fun _ => 0) db (.serviceList true)).isOk = true := by
  obtain ⟨db, executed⟩ := Option.isSome_iff_exists.mp
    (by decide : (Machine.execIf admin (fun _ write => write.wellSlugged = true)
      start [company, service "consulting"]).isSome)
  refine ⟨db, executed, ?_⟩
  have produced : ∀ value, EmailStr.produces value = true → (Email.postInit value).isOk = true := by
    intro value equal
    have same : value = "contact@ch-tech.dev" := eq_of_beq equal
    rw [same]
    decide
  exact (stored_rows_readable produced ⟨_, Machine.Runs.of_execIf executed⟩).2.1 _ _

/-- A service with the slug "Hello World" is accepted and committed; its request raises,
and from then on its row and every list of services do. -/
theorem accepted_slug_unreadable :
    (service "Hello World").accepted = true ∧
      (service "Hello World").commit start = .ok true ∧
      ((service "Hello World").save start).1.isOk = false ∧
      ∃ db, Machine.Reaches admin Machine.Any start db ∧ ¬db.Readable ∧
        ∀ activeOnly, (Read.run (fun _ => 0) db (.serviceList activeOnly)).isOk = false := by
  refine ⟨by decide, by decide, by decide, ((service "Hello World").save start).2, ?_, ?_,
    by decide⟩
  · exact ⟨[service "Hello World"], .cons trivial rfl (.nil _)⟩
  · intro readable
    have services : ∀ row ∈ ((service "Hello World").save start).2.services.rows,
        row.toEntity.isOk = true := readable.services
    revert services
    decide

end Sample

end ChTech.Content
