import ChTech.Content.Database
import Mathlib.Data.List.Perm.Basic
import Mathlib.Logic.Equiv.List

/-!
# Hidden content

The public endpoints read with `public_only`, `published_only` or `active_only`.  Two
databases that agree on the rows these admit answer every public read alike, whatever
else they hold: private projects with their case studies and links, drafts, inactive
services and inactive members do not show, not even in the pages of a list.
-/

namespace ChTech.Content

open Foundation

/-! ## Queries on the rows that are admitted -/

namespace Repository

variable {Model Input Entity : Type} {repo : Repository Model Input Entity}

/-- An engine that leaves no tie puts the same rows in the same order. -/
theorem orderBy_congr {κ : Type} [LinearOrder κ] {order : Model → κ} {ties : Ties}
    (table : repo.Rows) {rows rows' : List Model} (injective : Function.Injective ties)
    (stored : ∀ row ∈ rows, row ∈ table.rows) (same : rows.Perm rows') :
    Query.orderBy (Query.ranked order fun model => ties [repo.key model]) rows =
      Query.orderBy (Query.ranked order fun model => ties [repo.key model]) rows' := by
  apply Query.orderBy_ranked_congr same
  intro first firstMem second secondMem equal
  exact repo.eq_of_key (stored first firstMem) (stored second secondMem)
    (List.singleton_injective (injective equal))

theorem list_congr {κ : Type} [LinearOrder κ] {order : Model → κ} {ties : Ties}
    (table : repo.Rows) {rows rows' : List Model} (injective : Function.Injective ties)
    (stored : ∀ row ∈ rows, row ∈ table.rows) (same : rows.Perm rows') :
    repo.readAll (Query.orderBy (Query.ranked order fun model => ties [repo.key model]) rows) =
      repo.readAll
        (Query.orderBy (Query.ranked order fun model => ties [repo.key model]) rows') := by
  rw [orderBy_congr table injective stored same]

/-- The rows of a join that come from a row of the table, its key first. -/
def Keyed (table : repo.Rows) (rows : List (Model × List UUID)) : Prop :=
  ∀ row ∈ rows, row.1 ∈ table.rows ∧ row.2.head? = some (repo.key row.1)

theorem Keyed.orderBy_congr {κ : Type} [LinearOrder κ] {order : Model × List UUID → κ}
    {ties : Ties} {table : repo.Rows} {rows rows' : List (Model × List UUID)}
    (keyed : repo.Keyed table rows) (injective : Function.Injective ties)
    (same : rows.Perm rows') :
    Query.orderBy (Query.ranked order fun row => ties row.2) rows =
      Query.orderBy (Query.ranked order fun row => ties row.2) rows' := by
  apply Query.orderBy_ranked_congr same
  intro first firstMem second secondMem equal
  have keys : first.2 = second.2 := injective equal
  rcases keyed first firstMem with ⟨firstStored, firstHead⟩
  rcases keyed second secondMem with ⟨secondStored, secondHead⟩
  have heads : some (repo.key first.1) = some (repo.key second.1) := by
    rw [← firstHead, ← secondHead, keys]
  exact Prod.ext (repo.eq_of_key firstStored secondStored (Option.some.inj heads)) keys

theorem readOne_congr {rows rows' : List Model} (same : rows.Perm rows') :
    repo.readOne rows = repo.readOne rows' := by
  simp only [readOne]
  rw [Query.scalarOneOrNone_congr _ same]

/-- A lookup among the rows that a condition admits. -/
theorem readOne_filter_congr {lookup selects : Model → Bool} {rows rows' : List Model}
    (same : (rows.filter selects).Perm (rows'.filter selects)) :
    repo.readOne (rows.filter fun model => lookup model && selects model) =
      repo.readOne (rows'.filter fun model => lookup model && selects model) := by
  rw [← List.filter_filter, ← List.filter_filter]
  exact readOne_congr (same.filter lookup)

end Repository

namespace Tagged

variable [PyUnicode] [Collation]

open TechnologyRepository (Technologies)

variable {Model Input Entity : Type} {repo : Repository Model Input Entity}
  {first second : Tagged repo} {technologies technologies' : Technologies} {ties : Ties}

/-- The owner has the same links in both. -/
def Alike (first second : Tagged repo) (owner : UUID) : Prop :=
  ∀ technologyId, first.links.rows.contains (owner, technologyId) =
    second.links.rows.contains (owner, technologyId)

theorem technologiesOf_congr {owner : UUID} (injective : Function.Injective ties)
    (technologiesSame : technologies.rows.Perm technologies'.rows)
    (alike : Alike first second owner) :
    first.technologiesOf technologies ties owner =
      second.technologiesOf technologies' ties owner := by
  simp only [technologiesOf]
  have linked : (fun technology : TechnologyModel =>
      first.links.rows.contains (owner, technology.id)) =
        fun technology => second.links.rows.contains (owner, technology.id) := by
    funext technology
    exact alike technology.id
  rw [linked]
  apply Query.orderBy_congr (technologiesSame.filter _)
  intro left leftMem right rightMem equal
  have keys := injective equal
  simp only [List.cons.injEq, and_true, true_and] at keys
  exact TechnologyRepository.repository.eq_of_key (List.mem_of_mem_filter leftMem)
    (List.mem_of_mem_filter rightMem) keys

theorem toRow_congr {model : Model} (injective : Function.Injective ties)
    (technologiesSame : technologies.rows.Perm technologies'.rows)
    (alike : Alike first second (repo.key model)) :
    first.toRow technologies ties model = second.toRow technologies' ties model := by
  simp only [toRow]
  rw [technologiesOf_congr injective technologiesSame alike]

theorem readAll_congr {rows : List Model} (injective : Function.Injective ties)
    (technologiesSame : technologies.rows.Perm technologies'.rows)
    (alike : ∀ row ∈ rows, Alike first second (repo.key row)) :
    first.readAll technologies ties rows = second.readAll technologies' ties rows :=
  Result.mapM_congr fun row member => toRow_congr injective technologiesSame (alike row member)

theorem readOne_congr {rows rows' : List Model} (injective : Function.Injective ties)
    (technologiesSame : technologies.rows.Perm technologies'.rows)
    (alike : ∀ row ∈ rows, Alike first second (repo.key row)) (same : rows.Perm rows') :
    first.readOne technologies ties rows = second.readOne technologies' ties rows' := by
  unfold readOne
  rw [← Query.scalarOneOrNone_congr _ same]
  match rows with
  | [] => rfl
  | [row] =>
      change (first.toRow technologies ties row).map some =
        (second.toRow technologies' ties row).map some
      rw [toRow_congr injective technologiesSame (alike row List.mem_cons_self)]
  | _ :: _ :: _ => rfl

/-- The links of the rows that a condition selects. -/
def linksOf (tagged : Tagged repo) (selects : Model → Bool) : List (UUID × UUID) :=
  tagged.links.rows.filter fun link =>
    tagged.rows.rows.any fun model => decide (repo.key model = link.1) && selects model

omit [PyUnicode] [Collation] in
theorem mem_linksOf {tagged : Tagged repo} {selects : Model → Bool} {row : Model}
    {technologyId : UUID} (selected : row ∈ tagged.rows.rows.filter selects) :
    (repo.key row, technologyId) ∈ tagged.linksOf selects ↔
      (repo.key row, technologyId) ∈ tagged.links.rows := by
  simp only [linksOf]
  rw [List.mem_filter, and_iff_left_iff_imp]
  intro _
  rcases List.mem_filter.mp selected with ⟨stored, selected⟩
  exact List.any_eq_true.mpr ⟨row, stored, by simp [selected]⟩

omit [PyUnicode] [Collation] in
/-- Where the selected rows and their links agree, the links of each selected row do. -/
theorem alike_of_linksOf {selects : Model → Bool} {row : Model}
    (rows : (first.rows.rows.filter selects).Perm (second.rows.rows.filter selects))
    (links : (first.linksOf selects).Perm (second.linksOf selects))
    (selected : row ∈ first.rows.rows.filter selects) : Alike first second (repo.key row) := by
  intro technologyId
  rw [Bool.eq_iff_iff, List.contains_iff_mem, List.contains_iff_mem]
  calc (repo.key row, technologyId) ∈ first.links.rows
      ↔ (repo.key row, technologyId) ∈ first.linksOf selects := (mem_linksOf selected).symm
    _ ↔ (repo.key row, technologyId) ∈ second.linksOf selects := links.mem_iff
    _ ↔ (repo.key row, technologyId) ∈ second.links.rows :=
        mem_linksOf (rows.mem_iff.mp selected)

/-- A lookup among the rows that a condition admits. -/
theorem readOne_filter_congr {lookup selects : Model → Bool} (injective : Function.Injective ties)
    (technologiesSame : technologies.rows.Perm technologies'.rows)
    (rows : (first.rows.rows.filter selects).Perm (second.rows.rows.filter selects))
    (links : (first.linksOf selects).Perm (second.linksOf selects)) :
    first.readOne technologies ties
        (first.rows.rows.filter fun model => lookup model && selects model) =
      second.readOne technologies' ties
        (second.rows.rows.filter fun model => lookup model && selects model) := by
  rw [← List.filter_filter, ← List.filter_filter]
  apply readOne_congr injective technologiesSame
  · intro row selected
    exact alike_of_linksOf rows links (List.mem_of_mem_filter selected)
  · exact rows.filter lookup

end Tagged

namespace ProjectRepository

variable [PyUnicode] [Collation]

open TechnologyRepository (Technologies)

variable {first second : Projects} {technologies technologies' : Technologies} {ties : Ties}

theorem joined_congr {technology : Option String} {rows rows' : List ProjectModel}
    (technologiesSame : technologies.rows.Perm technologies'.rows)
    (alike : ∀ row ∈ rows, Tagged.Alike first second row.id) (same : rows.Perm rows') :
    (joined first technologies technology rows).Perm
      (joined second technologies' technology rows') := by
  cases technology with
  | none => exact same.map _
  | some name =>
      apply same.flatMap
      intro model member
      apply List.Perm.map
      have linked : (fun technology : TechnologyModel =>
          first.links.rows.contains (model.id, technology.id) &&
            Collation.equal technology.name name) =
          fun technology => second.links.rows.contains (model.id, technology.id) &&
            Collation.equal technology.name name := by
        funext technology
        rw [alike model member technology.id]
      rw [linked]
      exact technologiesSame.filter _

theorem joined_keyed {technology : Option String} {rows : List ProjectModel}
    (stored : ∀ row ∈ rows, row ∈ first.rows.rows) :
    repository.Keyed first.rows (joined first technologies technology rows) := by
  intro row member
  refine ⟨stored row.1 (mem_of_joined member), ?_⟩
  cases technology with
  | none =>
      rcases List.mem_map.mp member with ⟨model, _, equal⟩
      rw [← equal]
      rfl
  | some name =>
      rcases List.mem_flatMap.mp member with ⟨model, _, linked⟩
      rcases List.mem_map.mp linked with ⟨technology, _, equal⟩
      rw [← equal]
      rfl

theorem sorted_congr {sort : String} {rows rows' : List (ProjectModel × List UUID)}
    (keyed : repository.Keyed first.rows rows) (injective : Function.Injective ties)
    (same : rows.Perm rows') : sorted ties sort rows = sorted ties sort rows' := by
  simp only [sorted]
  split
  · exact keyed.orderBy_congr injective same
  · exact keyed.orderBy_congr injective same

section

variable (injective : Function.Injective ties)
  (technologiesSame : technologies.rows.Perm technologies'.rows)
  (rows : (first.rows.rows.filter isPublic).Perm (second.rows.rows.filter isPublic))
  (links : (first.linksOf isPublic).Perm (second.linksOf isPublic))

include injective technologiesSame rows links

theorem list_congr [Mysql] {filters : ProjectFilters} :
    list first technologies ties filters true = list second technologies' ties filters true := by
  have alike : ∀ row ∈ first.rows.rows.filter isPublic, Tagged.Alike first second row.id :=
    fun row selected => Tagged.alike_of_linksOf rows links selected
  have found : (joined first technologies filters.technology
      (first.rows.rows.filter isPublic)).Perm (joined second technologies' filters.technology
        (second.rows.rows.filter isPublic)) := joined_congr technologiesSame alike rows
  have keys : repository.Keyed first.rows ((joined first technologies filters.technology
      (first.rows.rows.filter isPublic)).filter fun row => meets filters row.1) :=
    fun row member => joined_keyed (fun _ selected => List.mem_of_mem_filter selected) row
      (List.mem_of_mem_filter member)
  simp only [list, Bool.not_true, Bool.false_or]
  rw [← sorted_congr keys injective (found.filter _)]
  apply Tagged.readAll_congr injective technologiesSame
  intro model member
  rcases List.mem_map.mp (List.mem_eraseDups.mp member) with ⟨row, paged, equal⟩
  have selected := mem_of_joined
    (List.mem_of_mem_filter (mem_of_sorted (Query.mem_of_paginate paged)))
  rw [← equal]
  exact alike row.1 selected

theorem getBySlug_congr {slug : String} :
    getBySlug first technologies ties slug true =
      getBySlug second technologies' ties slug true :=
  Tagged.readOne_filter_congr injective technologiesSame rows links

end

end ProjectRepository

namespace CaseStudyRepository

variable [PyUnicode] [Collation]

open ProjectRepository (Projects isPublic)

variable {first second : Projects}

/-- The project of the case study is public. -/
def disclosed (projects : Projects) (model : CaseStudyModel) : Bool :=
  projects.rows.rows.any fun project => decide (model.projectId = project.id) && isPublic project

/-- The join drops the case studies of projects that are not public. -/
theorem joinedPublic_disclosed (caseStudies : List CaseStudyModel) (projects : Projects) :
    joinedPublic caseStudies projects =
      joinedPublic (caseStudies.filter (disclosed projects)) projects := by
  induction caseStudies with
  | nil => rfl
  | cons model rest ih =>
      simp only [joinedPublic] at ih ⊢
      cases shown : disclosed projects model with
      | true => rw [List.filter_cons_of_pos shown, List.flatMap_cons, List.flatMap_cons, ih]
      | false =>
          have none : (projects.rows.rows.filter fun project =>
              decide (model.projectId = project.id) && isPublic project) = [] := by
            rw [List.filter_eq_nil_iff]
            exact List.any_eq_false.mp shown
          rw [List.filter_cons_of_neg (by simp [shown]), List.flatMap_cons, none, ih]
          rfl

theorem joinedPublic_congr {caseStudies caseStudies' : List CaseStudyModel}
    (same : (caseStudies.filter (disclosed first)).Perm (caseStudies'.filter (disclosed second)))
    (rows : (first.rows.rows.filter isPublic).Perm (second.rows.rows.filter isPublic)) :
    (joinedPublic caseStudies first).Perm (joinedPublic caseStudies' second) := by
  rw [joinedPublic_disclosed caseStudies, joinedPublic_disclosed caseStudies']
  apply same.flatMap
  intro model _
  apply List.Perm.map
  rw [← List.filter_filter, ← List.filter_filter]
  exact rows.filter _

theorem joinedPublic_keyed {caseStudies : CaseStudies} :
    repository.Keyed caseStudies (joinedPublic caseStudies.rows first) := by
  intro row member
  rcases List.mem_flatMap.mp member with ⟨model, stored, joined⟩
  rcases List.mem_map.mp joined with ⟨project, _, equal⟩
  rw [← equal]
  exact ⟨stored, rfl⟩

section

variable {caseStudies caseStudies' : CaseStudies}
  (same : (caseStudies.rows.filter (disclosed first)).Perm
    (caseStudies'.rows.filter (disclosed second)))
  (rows : (first.rows.rows.filter isPublic).Perm (second.rows.rows.filter isPublic))

include same rows

theorem list_congr {ties : Ties} (injective : Function.Injective ties) :
    list caseStudies first ties true = list caseStudies' second ties true := by
  simp only [list, visible, if_true]
  rw [joinedPublic_keyed.orderBy_congr injective (joinedPublic_congr same rows)]

theorem getById_congr {caseStudyId : UUID} :
    getById caseStudies first caseStudyId true = getById caseStudies' second caseStudyId true := by
  simp only [getById, visible, if_true]
  apply Repository.readOne_congr
  apply List.Perm.map
  apply joinedPublic_congr _ rows
  rw [List.filter_comm, List.filter_comm (disclosed second)]
  exact same.filter _

end

end CaseStudyRepository

namespace ArticleRepository

variable [PyUnicode] [Collation]

open TechnologyRepository (Technologies)

variable {first second : Articles} {technologies technologies' : Technologies} {ties : Ties}
  (injective : Function.Injective ties)
  (technologiesSame : technologies.rows.Perm technologies'.rows)
  (rows : (first.rows.rows.filter ArticleModel.published).Perm
    (second.rows.rows.filter ArticleModel.published))
  (links : (first.linksOf ArticleModel.published).Perm (second.linksOf ArticleModel.published))

include injective technologiesSame rows links

theorem list_congr {page : Query.Page} :
    list first technologies ties page true = list second technologies' ties page true := by
  have ordered : Query.orderBy (Query.ranked latestFirst fun model => ties [model.id])
      (first.rows.rows.filter ArticleModel.published) =
      Query.orderBy (Query.ranked latestFirst fun model => ties [model.id])
        (second.rows.rows.filter ArticleModel.published) :=
    Repository.orderBy_congr first.rows injective
      (fun _ selected => List.mem_of_mem_filter selected) rows
  simp only [list, Bool.not_true, Bool.false_or]
  rw [← ordered]
  apply Tagged.readAll_congr injective technologiesSame
  intro model member
  have ordered := Query.mem_of_paginate (List.mem_eraseDups.mp member)
  exact Tagged.alike_of_linksOf rows links (Query.mem_orderBy.mp ordered)

theorem getBySlug_congr {slug : String} :
    getBySlug first technologies ties slug true =
      getBySlug second technologies' ties slug true :=
  Tagged.readOne_filter_congr injective technologiesSame rows links

end ArticleRepository

theorem ServiceRepository.list_congr [Collation] {first second : ServiceRepository.Services}
    {ties : Ties} (injective : Function.Injective ties)
    (rows : (first.rows.filter ServiceModel.active).Perm
      (second.rows.filter ServiceModel.active)) :
    ServiceRepository.list first ties true = ServiceRepository.list second ties true :=
  Repository.list_congr first injective (fun _ selected => List.mem_of_mem_filter selected) rows

theorem ServiceRepository.getBySlug_congr [Collation] {first second : ServiceRepository.Services}
    {slug : String} (rows : (first.rows.filter ServiceModel.active).Perm
      (second.rows.filter ServiceModel.active)) :
    ServiceRepository.getBySlug first slug true = ServiceRepository.getBySlug second slug true :=
  Repository.readOne_filter_congr rows

theorem TeamMemberRepository.list_congr [PyUnicode]
    {first second : TeamMemberRepository.TeamMembers} {ties : Ties}
    (injective : Function.Injective ties)
    (rows : (first.rows.filter TeamMemberModel.active).Perm
      (second.rows.filter TeamMemberModel.active)) :
    TeamMemberRepository.list first ties true = TeamMemberRepository.list second ties true :=
  Repository.list_congr first injective (fun _ selected => List.mem_of_mem_filter selected) rows

theorem TeamMemberRepository.getById_congr [PyUnicode]
    {first second : TeamMemberRepository.TeamMembers} {teamMemberId : UUID}
    (rows : (first.rows.filter TeamMemberModel.active).Perm
      (second.rows.filter TeamMemberModel.active)) :
    TeamMemberRepository.getById first teamMemberId true =
      TeamMemberRepository.getById second teamMemberId true :=
  Repository.readOne_filter_congr rows

theorem ProductRepository.list_congr [PyUnicode] [Collation]
    {first second : ProductRepository.Products} {ties : Ties}
    (injective : Function.Injective ties) (rows : first.rows.Perm second.rows) :
    ProductRepository.list first ties = ProductRepository.list second ties :=
  Repository.list_congr first injective (fun _ stored => stored) rows

theorem ServiceLineRepository.list_congr [PyUnicode] [Collation]
    {first second : ServiceLineRepository.ServiceLines} {ties : Ties}
    (injective : Function.Injective ties) (rows : first.rows.Perm second.rows) :
    ServiceLineRepository.list first ties = ServiceLineRepository.list second ties :=
  Repository.list_congr first injective (fun _ stored => stored) rows

theorem TechnologyRepository.list_congr [PyUnicode] [Collation]
    {first second : TechnologyRepository.Technologies} {ties : Ties} {filters : TechnologyFilters}
    (injective : Function.Injective ties) (rows : first.rows.Perm second.rows) :
    TechnologyRepository.list first ties filters = TechnologyRepository.list second ties filters :=
  Repository.list_congr first injective (fun _ selected => List.mem_of_mem_filter selected)
    (rows.filter _)

theorem ClientRepository.list_congr [PyUnicode] [Collation]
    {first second : ClientRepository.Clients} {ties : Ties}
    (injective : Function.Injective ties) (rows : first.rows.Perm second.rows) :
    ClientRepository.list first ties = ClientRepository.list second ties :=
  Repository.list_congr first injective (fun _ stored => stored) rows

theorem PartnerRepository.list_congr [PyUnicode] [Collation]
    {first second : PartnerRepository.Partners} {ties : Ties}
    (injective : Function.Injective ties) (rows : first.rows.Perm second.rows) :
    PartnerRepository.list first ties = PartnerRepository.list second ties :=
  Repository.list_congr first injective (fun _ stored => stored) rows

theorem TestimonialRepository.list_congr {first second : TestimonialRepository.Testimonials}
    {ties : Ties} (injective : Function.Injective ties) (rows : first.rows.Perm second.rows) :
    TestimonialRepository.list first ties = TestimonialRepository.list second ties :=
  Repository.list_congr first injective (fun _ stored => stored) rows

/-- The first row is the same one. -/
theorem CompanyRepository.get_congr [PyUnicode] {first second : CompanyRepository.Companies}
    {ties : Ties} (injective : Function.Injective ties) (rows : first.rows.Perm second.rows) :
    CompanyRepository.get first ties = CompanyRepository.get second ties := by
  have ordered : Query.orderBy (fun model : CompanyModel => ties [model.id]) first.rows =
      Query.orderBy (fun model : CompanyModel => ties [model.id]) second.rows := by
    apply Query.orderBy_congr rows
    intro left leftMem right rightMem equal
    exact repository.eq_of_key leftMem rightMem (List.singleton_injective (injective equal))
  simp only [get, selectFirst]
  rw [ordered]

/-! ## The visible part -/

/-- What the public may see of a database.  The order in which rows are stored is no part
of it. -/
structure Visible where
  projects : Multiset ProjectModel
  projectTechnologies : Multiset (UUID × UUID)
  caseStudies : Multiset CaseStudyModel
  articles : Multiset ArticleModel
  articleTechnologies : Multiset (UUID × UUID)
  services : Multiset ServiceModel
  teamMembers : Multiset TeamMemberModel
  technologies : Multiset TechnologyModel
  serviceLines : Multiset ServiceLineModel
  products : Multiset ProductModel
  clients : Multiset ClientModel
  partners : Multiset PartnerModel
  companies : Multiset CompanyModel
  testimonials : Multiset TestimonialModel

/-- An engine that breaks ties by the visible rows only, and leaves none. -/
structure Engine where
  ranks : Read → Visible → Ties
  injective : ∀ read visible, Function.Injective (ranks read visible)

section

variable [PyUnicode] [Collation]

/-- The public projects with their links, the case studies of public projects, the
published articles with their links, the active services and members, and every row of the
other tables. -/
def Db.visible (db : Db) : Visible where
  projects := db.projects.rows.rows.filter ProjectRepository.isPublic
  projectTechnologies := db.projects.linksOf ProjectRepository.isPublic
  caseStudies := db.caseStudies.rows.filter (CaseStudyRepository.disclosed db.projects)
  articles := db.articles.rows.rows.filter ArticleModel.published
  articleTechnologies := db.articles.linksOf ArticleModel.published
  services := db.services.rows.filter ServiceModel.active
  teamMembers := db.teamMembers.rows.filter TeamMemberModel.active
  technologies := db.technologies.rows
  serviceLines := db.serviceLines.rows
  products := db.products.rows
  clients := db.clients.rows
  partners := db.partners.rows
  companies := db.companies.rows
  testimonials := db.testimonials.rows

variable [Mysql] {first second : Db} {ties : Ties}

/-- A public read sees no more than the visible part. -/
theorem Read.run_congr {read : Read} (injective : Function.Injective ties)
    (same : first.visible = second.visible) (shown : read.isPublic = true) :
    Read.run ties first read = Read.run ties second read := by
  have projects := Multiset.coe_eq_coe.mp (congrArg Visible.projects same)
  have projectLinks := Multiset.coe_eq_coe.mp (congrArg Visible.projectTechnologies same)
  have caseStudies := Multiset.coe_eq_coe.mp (congrArg Visible.caseStudies same)
  have articles := Multiset.coe_eq_coe.mp (congrArg Visible.articles same)
  have articleLinks := Multiset.coe_eq_coe.mp (congrArg Visible.articleTechnologies same)
  have services := Multiset.coe_eq_coe.mp (congrArg Visible.services same)
  have teamMembers := Multiset.coe_eq_coe.mp (congrArg Visible.teamMembers same)
  have technologies := Multiset.coe_eq_coe.mp (congrArg Visible.technologies same)
  cases read with
  | projectList filters publicOnly =>
      cases shown
      exact congrArg (Except.map Response.projects)
        (ProjectRepository.list_congr injective technologies projects projectLinks)
  | projectBySlug slug publicOnly =>
      cases shown
      exact congrArg (Except.map Response.project)
        (ProjectRepository.getBySlug_congr injective technologies projects projectLinks)
  | articleList page publishedOnly =>
      cases shown
      exact congrArg (Except.map Response.articles)
        (ArticleRepository.list_congr injective technologies articles articleLinks)
  | articleBySlug slug publishedOnly =>
      cases shown
      exact congrArg (Except.map Response.article)
        (ArticleRepository.getBySlug_congr injective technologies articles articleLinks)
  | serviceList activeOnly =>
      cases shown
      exact congrArg (Except.map Response.services)
        (ServiceRepository.list_congr injective services)
  | serviceBySlug slug activeOnly =>
      cases shown
      exact congrArg (Except.map Response.service) (ServiceRepository.getBySlug_congr services)
  | caseStudyList publicOnly =>
      cases shown
      exact congrArg (Except.map Response.caseStudies)
        (CaseStudyRepository.list_congr caseStudies projects injective)
  | caseStudyById caseStudyId publicOnly =>
      cases shown
      exact congrArg (Except.map Response.caseStudy)
        (CaseStudyRepository.getById_congr caseStudies projects)
  | teamMemberList activeOnly =>
      cases shown
      exact congrArg (Except.map Response.teamMembers)
        (TeamMemberRepository.list_congr injective teamMembers)
  | teamMemberById teamMemberId activeOnly =>
      cases shown
      exact congrArg (Except.map Response.teamMember)
        (TeamMemberRepository.getById_congr teamMembers)
  | productList =>
      have products := Multiset.coe_eq_coe.mp (congrArg Visible.products same)
      exact congrArg (Except.map Response.products)
        (ProductRepository.list_congr injective products)
  | productBySlug slug =>
      have products := Multiset.coe_eq_coe.mp (congrArg Visible.products same)
      exact congrArg (Except.map Response.product) (Repository.readOne_congr (products.filter _))
  | serviceLineList =>
      have serviceLines := Multiset.coe_eq_coe.mp (congrArg Visible.serviceLines same)
      exact congrArg (Except.map Response.serviceLines)
        (ServiceLineRepository.list_congr injective serviceLines)
  | serviceLineBySlug slug =>
      have serviceLines := Multiset.coe_eq_coe.mp (congrArg Visible.serviceLines same)
      exact congrArg (Except.map Response.serviceLine)
        (Repository.readOne_congr (serviceLines.filter _))
  | technologyList filters =>
      exact congrArg (Except.map Response.technologies)
        (TechnologyRepository.list_congr injective technologies)
  | technologyById technologyId =>
      exact congrArg (Except.map Response.technology)
        (Repository.readOne_congr (technologies.filter _))
  | clientList =>
      have clients := Multiset.coe_eq_coe.mp (congrArg Visible.clients same)
      exact congrArg (Except.map Response.clients)
        (ClientRepository.list_congr injective clients)
  | partnerList =>
      have partners := Multiset.coe_eq_coe.mp (congrArg Visible.partners same)
      exact congrArg (Except.map Response.partners)
        (PartnerRepository.list_congr injective partners)
  | company =>
      have companies := Multiset.coe_eq_coe.mp (congrArg Visible.companies same)
      exact congrArg (Except.map Response.company) (CompanyRepository.get_congr injective companies)
  | testimonialList =>
      have testimonials := Multiset.coe_eq_coe.mp (congrArg Visible.testimonials same)
      exact congrArg (Except.map Response.testimonials)
        (TestimonialRepository.list_congr injective testimonials)
  | projectById _ => cases shown
  | articleById _ => cases shown
  | serviceById _ => cases shown
  | clientById _ => cases shown
  | partnerById _ => cases shown

/-- Hidden content does not show: databases with the same visible part answer every
public read alike. -/
theorem public_reads_visible (engine : Engine) (same : first.visible = second.visible)
    {read : Read} (shown : read.isPublic = true) :
    Read.run (engine.ranks read first.visible) first read =
      Read.run (engine.ranks read second.visible) second read := by
  rw [← same]
  exact read.run_congr (engine.injective read first.visible) same shown

end

namespace Sample

attribute [local instance] unicode collation mysql

/-- Ties are broken by a numbering of the keys. -/
def engine : Engine where
  ranks _ _ := Encodable.encode
  injective _ _ := Encodable.encode_injective

def showcase : ProjectModel where
  id := 1
  slug := "showcase"
  title := "Showcase"
  shortDescription := none
  fullDescription := none
  repositoryUrl := none
  liveDemoUrl := none
  coverImage := none
  status := "COMPLETED"
  visibility := "PUBLIC"
  featured := true
  startedAt := none
  finishedAt := none
  clientId := none
  createdAt := 1767225600000000
  updatedAt := 1767225600000000

/-- An older project, which would be the first on the page. -/
def prototype : ProjectModel :=
  { showcase with id := 2, slug := "prototype", visibility := "PRIVATE", createdAt := 0 }

/-- The write-up of the private project. -/
def writeUp : CaseStudyModel where
  id := 3
  projectId := 2
  challenge := some "Confidential"
  solution := none
  architecture := none
  lessonsLearned := none
  metrics := none
  createdAt := 0
  updatedAt := 0

def portfolio : Db :=
  { Db.empty Table.empty with projects := ⟨⟨[showcase], by decide⟩, .empty⟩ }

def unabridged : Db :=
  { portfolio with
    projects := ⟨⟨[prototype, showcase], by decide⟩, .empty⟩
    caseStudies := ⟨[writeUp], by decide⟩ }

def firstPage : Read :=
  .projectList ⟨none, none, none, none, "created_at", ⟨1, 1, by decide, by decide⟩⟩ true

/-- The private project takes no place on the first page, of one row. -/
theorem public_reads_visible_page :
    Read.run (engine.ranks firstPage portfolio.visible) portfolio firstPage =
      Read.run (engine.ranks firstPage unabridged.visible) unabridged firstPage ∧
    portfolio.projects.rows.rows ≠ unabridged.projects.rows.rows :=
  ⟨public_reads_visible engine rfl rfl, by decide⟩

end Sample

end ChTech.Content
