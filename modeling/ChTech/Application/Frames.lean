import ChTech.Application.Integrity

/-!
# What requests leave alone

A row changes only when a request names it, goes only when a delete does, and keeps its key,
its `created_at` and its author as long as it is there.  A contact request is never touched.
-/

namespace ChTech.Application

open Foundation Content

/-- The tables whose rows can be updated. -/
inductive Kind where
  | project
  | article
  | service
  | serviceLine
  | product
  | technology
  | client
  | partner
  | teamMember
  | company
  | caseStudy
  | testimonial
  deriving DecidableEq, Repr

namespace Kind

/-- The class of its rows. -/
@[reducible] def Model : Kind → Type
  | project => ProjectModel
  | article => ArticleModel
  | service => ServiceModel
  | serviceLine => ServiceLineModel
  | product => ProductModel
  | technology => TechnologyModel
  | client => ClientModel
  | partner => PartnerModel
  | teamMember => TeamMemberModel
  | company => CompanyModel
  | caseStudy => CaseStudyModel
  | testimonial => TestimonialModel

def rows [PyUnicode] [Collation] (store : Store) : (kind : Kind) → List kind.Model
  | project => store.projects.rows.rows
  | article => store.articles.rows.rows
  | service => store.services.rows
  | serviceLine => store.serviceLines.rows
  | product => store.products.rows
  | technology => store.technologies.rows
  | client => store.clients.rows
  | partner => store.partners.rows
  | teamMember => store.teamMembers.rows
  | company => store.companies.rows
  | caseStudy => store.caseStudies.rows
  | testimonial => store.testimonials.rows

def id : (kind : Kind) → kind.Model → UUID
  | project, row => row.id
  | article, row => row.id
  | service, row => row.id
  | serviceLine, row => row.id
  | product, row => row.id
  | technology, row => row.id
  | client, row => row.id
  | partner, row => row.id
  | teamMember, row => row.id
  | company, row => row.id
  | caseStudy, row => row.id
  | testimonial, row => row.id

def createdAt : (kind : Kind) → kind.Model → Instant
  | project, row => row.createdAt
  | article, row => row.createdAt
  | service, row => row.createdAt
  | serviceLine, row => row.createdAt
  | product, row => row.createdAt
  | technology, row => row.createdAt
  | client, row => row.createdAt
  | partner, row => row.createdAt
  | teamMember, row => row.createdAt
  | company, row => row.createdAt
  | caseStudy, row => row.createdAt
  | testimonial, row => row.createdAt

/-- The author of an article. -/
def authorId : (kind : Kind) → kind.Model → Option UUID
  | article, row => some row.authorId
  | project, _ | service, _ | serviceLine, _ | product, _ | technology, _ | client, _
  | partner, _ | teamMember, _ | company, _ | caseStudy, _ | testimonial, _ => none

/-- What is written once. -/
def origin (kind : Kind) (row : kind.Model) : UUID × Instant × Option UUID :=
  (kind.id row, kind.createdAt row, kind.authorId row)

end Kind

/-! ## What a request names -/

/-- The request replaces the row. -/
def aims (id : UUID) : Target → Bool
  | .post _ => false
  | .put other _ => other == id

/-- The row that a delete is about. -/
def named : Delete → Kind × UUID
  | .project _ id => (.project, id)
  | .article _ id => (.article, id)
  | .service id => (.service, id)
  | .serviceLine id => (.serviceLine, id)
  | .product id => (.product, id)
  | .technology id => (.technology, id)
  | .client id => (.client, id)
  | .partner id => (.partner, id)
  | .teamMember id => (.teamMember, id)
  | .caseStudy id => (.caseStudy, id)
  | .testimonial id => (.testimonial, id)

namespace Change

/-- The request may change the row; that of the company does not say which. -/
def replaces (kind : Kind) (id : UUID) : Change → Bool
  | project _ target _ => kind == .project && aims id target
  | article _ target _ _ => kind == .article && aims id target
  | service target _ => kind == .service && aims id target
  | serviceLine target _ => kind == .serviceLine && aims id target
  | product target _ => kind == .product && aims id target
  | technology target _ => kind == .technology && aims id target
  | client target _ => kind == .client && aims id target
  | partner target _ => kind == .partner && aims id target
  | teamMember target _ => kind == .teamMember && aims id target
  | company .. => kind == .company
  | caseStudy _ target _ => kind == .caseStudy && aims id target
  | testimonial _ target _ => kind == .testimonial && aims id target
  | contact .. | delete _ => false

def deletes (kind : Kind) (id : UUID) : Change → Bool
  | delete asked => named asked == (kind, id)
  | project .. | article .. | service .. | serviceLine .. | product .. | technology ..
  | client .. | partner .. | teamMember .. | company .. | caseStudy .. | testimonial ..
  | contact .. => false

end Change

section

variable [PyUnicode] [Collation]

/-- The request does not delete the row. -/
abbrev Keeps (kind : Kind) (id : UUID) (_ : Store) (change : Change) : Prop :=
  change.deletes kind id = false

/-- A row stays, with what is written once, and as it is unless it is replaced. -/
def Stays (kind : Kind) (row : kind.Model) (replaced : Bool) (after : Store) : Prop :=
  ∃ row' ∈ kind.rows after, kind.origin row' = kind.origin row ∧ (replaced = false → row' = row)

theorem Stays.same {kind : Kind} {row : kind.Model} {replaced : Bool} {after : Store}
    (stored : row ∈ kind.rows after) : Stays kind row replaced after :=
  ⟨row, stored, rfl, fun _ => rfl⟩

/-- What a save keeps. -/
theorem Stays.of_kept {kind : Kind} {row : kind.Model} {target : Target} {after : Store}
    (kept : ∃ row' ∈ kind.rows after, kind.origin row' = kind.origin row ∧
      ((∀ now, target ≠ .put (kind.id row) now) → row' = row)) :
    Stays kind row (aims (kind.id row) target) after := by
  rcases kept with ⟨row', stored, origin, same⟩
  refine ⟨row', stored, origin, ?_⟩
  intro other
  apply same
  intro now aimed
  subst aimed
  rw [aims, beq_self_eq_true] at other
  cases other

variable {store : Store}

/-- A row that outlasts the removal outlasts the delete. -/
theorem mem_rows_run (keys : ForeignKeys store) (delete : Delete) {kind : Kind} {row : kind.Model}
    (stored : row ∈ kind.rows store) (left : row ∈ kind.rows (delete.removed store)) :
    row ∈ kind.rows (delete.run store).2 := by
  rcases delete_run keys delete with same | removed
  · rw [same]
    exact stored
  · rw [removed]
    exact left

theorem delete_stays (keys : ForeignKeys store) {delete : Delete} {kind : Kind}
    {row : kind.Model} {replaced : Bool} (stored : row ∈ kind.rows store)
    (other : (named delete == (kind, kind.id row)) = false) :
    Stays kind row replaced (executeDelete delete store).2 := by
  -- the row does not have the deleted key
  have apart : ∀ {id : UUID}, named delete = (kind, id) → kind.id row ≠ id := by
    intro id names same
    rw [names, same, beq_self_eq_true] at other
    cases other
  rw [executeDelete_store]
  refine .same (mem_rows_run keys delete stored ?_)
  cases delete with
  | project ties id =>
      cases kind with
      | project => exact Table.mem_delete.mpr ⟨stored, beq_eq_false_iff_ne.mpr (apart rfl)⟩
      | _ => exact stored
  | article ties id =>
      cases kind with
      | article => exact Table.mem_delete.mpr ⟨stored, beq_eq_false_iff_ne.mpr (apart rfl)⟩
      | _ => exact stored
  | service id =>
      cases kind with
      | service => exact Table.mem_delete.mpr ⟨stored, beq_eq_false_iff_ne.mpr (apart rfl)⟩
      | _ => exact stored
  | serviceLine id =>
      cases kind with
      | serviceLine => exact Table.mem_delete.mpr ⟨stored, beq_eq_false_iff_ne.mpr (apart rfl)⟩
      | _ => exact stored
  | product id =>
      cases kind with
      | product => exact Table.mem_delete.mpr ⟨stored, beq_eq_false_iff_ne.mpr (apart rfl)⟩
      | _ => exact stored
  | technology id =>
      cases kind with
      | technology => exact Table.mem_delete.mpr ⟨stored, beq_eq_false_iff_ne.mpr (apart rfl)⟩
      | _ => exact stored
  | client id =>
      cases kind with
      | client => exact Table.mem_delete.mpr ⟨stored, beq_eq_false_iff_ne.mpr (apart rfl)⟩
      | _ => exact stored
  | partner id =>
      cases kind with
      | partner => exact Table.mem_delete.mpr ⟨stored, beq_eq_false_iff_ne.mpr (apart rfl)⟩
      | _ => exact stored
  | teamMember id =>
      cases kind with
      | teamMember => exact Table.mem_delete.mpr ⟨stored, beq_eq_false_iff_ne.mpr (apart rfl)⟩
      | _ => exact stored
  | caseStudy id =>
      cases kind with
      | caseStudy => exact Table.mem_delete.mpr ⟨stored, beq_eq_false_iff_ne.mpr (apart rfl)⟩
      | _ => exact stored
  | testimonial id =>
      cases kind with
      | testimonial => exact Table.mem_delete.mpr ⟨stored, beq_eq_false_iff_ne.mpr (apart rfl)⟩
      | _ => exact stored

section

variable [Mysql]

theorem execute_stays (keys : ForeignKeys store) {change : Change} {kind : Kind} {row : kind.Model}
    (stored : row ∈ kind.rows store) (kept : change.deletes kind (kind.id row) = false) :
    Stays kind row (change.replaces kind (kind.id row)) (change.execute store).2 := by
  cases change with
  | project ties target payload =>
      rw [project_store]
      cases kind with
      | project =>
          exact .of_kept (Tagged.save_left.rows.kept (fun _ _ => rfl) stored)
      | _ => exact .same stored
  | article ties target authorId payload =>
      rcases article_store ties target authorId payload with ⟨author, saved⟩
      rw [saved]
      cases kind with
      | article =>
          exact .of_kept (Tagged.save_left.rows.kept (fun _ _ => rfl) stored)
      | _ => exact .same stored
  | service target payload =>
      rw [service_store]
      cases kind with
      | service => exact .of_kept (Repository.save_left.kept (fun _ _ => rfl) stored)
      | _ => exact .same stored
  | serviceLine target payload =>
      rw [serviceLine_store]
      cases kind with
      | serviceLine => exact .of_kept (Repository.save_left.kept (fun _ _ => rfl) stored)
      | _ => exact .same stored
  | product target payload =>
      rw [product_store]
      cases kind with
      | product => exact .of_kept (Repository.save_left.kept (fun _ _ => rfl) stored)
      | _ => exact .same stored
  | technology target payload =>
      rw [technology_store]
      cases kind with
      | technology => exact .of_kept (Repository.save_left.kept (fun _ _ => rfl) stored)
      | _ => exact .same stored
  | client target payload =>
      rw [client_store]
      cases kind with
      | client => exact .of_kept (Repository.save_left.kept (fun _ _ => rfl) stored)
      | _ => exact .same stored
  | partner target payload =>
      rw [partner_store]
      cases kind with
      | partner => exact .of_kept (Repository.save_left.kept (fun _ _ => rfl) stored)
      | _ => exact .same stored
  | teamMember target payload =>
      rcases teamMember_store target payload with same | saved
      · rw [same]
        exact .same stored
      · rw [saved]
        cases kind with
        | teamMember => exact .of_kept (Repository.save_left.kept (fun _ _ => rfl) stored)
        | _ => exact .same stored
  | company ties defaults now payload =>
      rw [Change.execute, Program.map_apply, UpdateCompany.execute]
      cases kind with
      | company =>
          rcases CompanyRepository.update_eq_save ties defaults now payload store.companies with
            ⟨target, _, _, saved⟩
          have left : CompanyRepository.repository.Left (fun _ => true) target payload
              store.companies (CompanyRepository.update ties defaults now payload
                store.companies).2 := saved ▸ Repository.save_left
          have kept : Stays .company row (aims row.id target) { store with
              companies := (CompanyRepository.update ties defaults now payload
                store.companies).2 } := .of_kept (left.kept (fun _ _ => rfl) stored)
          rcases kept with ⟨row', stored', origin, _⟩
          refine ⟨row', stored', origin, ?_⟩
          intro impossible
          cases impossible
      | _ => exact .same stored
  | caseStudy ties target payload =>
      rcases caseStudy_store ties target payload with same | saved
      · rw [same]
        exact .same stored
      · rw [saved]
        cases kind with
        | caseStudy => exact .of_kept (Repository.save_left.kept (fun _ _ => rfl) stored)
        | _ => exact .same stored
  | testimonial ties target payload =>
      rcases testimonial_store ties target payload with same | saved
      · rw [same]
        exact .same stored
      · rw [saved]
        cases kind with
        | testimonial => exact .of_kept (Repository.save_left.kept (fun _ _ => rfl) stored)
        | _ => exact .same stored
  | contact defaults payload =>
      rw [Change.execute, Program.map_apply, SubmitContactRequest.execute]
      cases kind with
      | _ => exact .same stored
  | delete delete =>
      rw [Change.execute, Program.map_apply]
      exact delete_stays keys stored kept

/-- What every request leaves: the accounts and their tokens as they are, and the contact
requests, which are only appended to. -/
structure Leaves (before after : Store) : Prop where
  users : after.users = before.users
  refreshTokens : after.refreshTokens = before.refreshTokens
  contactRequests : before.contactRequests.rows <+: after.contactRequests.rows

omit [Mysql] in
theorem Leaves.refl (store : Store) : Leaves store store := ⟨rfl, rfl, List.prefix_refl _⟩

omit [Mysql] in
theorem run_leaves (delete : Delete) : Leaves store (delete.run store).2 := by
  cases delete with
  | technology id =>
      rw [Delete.run, TechnologyRepository.delete, Program.transact]
      split
      next deleted after attempted =>
        rcases Result.bind_eq_ok.mp attempted with ⟨found, _, attempted⟩
        cases found with
        | none =>
            cases attempted
            exact .refl store
        | some model =>
            rcases Result.map_eq_ok.mp attempted with ⟨next, committed, same⟩
            cases same
            simp only [TechnologyRepository.commitDelete] at committed
            split at committed
            next => cases committed
            next =>
              cases committed
              exact ⟨rfl, rfl, List.prefix_refl _⟩
      next => exact .refl store
  | project | client | serviceLine | article | service | product | partner | teamMember
  | caseStudy | testimonial => exact ⟨rfl, rfl, List.prefix_refl _⟩

theorem execute_leaves (change : Change) : Leaves store (change.execute store).2 := by
  cases change with
  | project ties target payload =>
      rw [project_store]
      exact ⟨rfl, rfl, List.prefix_refl _⟩
  | article ties target authorId payload =>
      rcases article_store ties target authorId payload with ⟨author, saved⟩
      rw [saved]
      exact ⟨rfl, rfl, List.prefix_refl _⟩
  | service target payload =>
      rw [service_store]
      exact ⟨rfl, rfl, List.prefix_refl _⟩
  | serviceLine target payload =>
      rw [serviceLine_store]
      exact ⟨rfl, rfl, List.prefix_refl _⟩
  | product target payload =>
      rw [product_store]
      exact ⟨rfl, rfl, List.prefix_refl _⟩
  | technology target payload =>
      rw [technology_store]
      exact ⟨rfl, rfl, List.prefix_refl _⟩
  | client target payload =>
      rw [client_store]
      exact ⟨rfl, rfl, List.prefix_refl _⟩
  | partner target payload =>
      rw [partner_store]
      exact ⟨rfl, rfl, List.prefix_refl _⟩
  | teamMember target payload =>
      rcases teamMember_store target payload with same | saved
      · rw [same]
        exact .refl store
      · rw [saved]
        exact ⟨rfl, rfl, List.prefix_refl _⟩
  | company ties defaults now payload =>
      rw [Change.execute, Program.map_apply, UpdateCompany.execute]
      exact ⟨rfl, rfl, List.prefix_refl _⟩
  | caseStudy ties target payload =>
      rcases caseStudy_store ties target payload with same | saved
      · rw [same]
        exact .refl store
      · rw [saved]
        exact ⟨rfl, rfl, List.prefix_refl _⟩
  | testimonial ties target payload =>
      rcases testimonial_store ties target payload with same | saved
      · rw [same]
        exact .refl store
      · rw [saved]
        exact ⟨rfl, rfl, List.prefix_refl _⟩
  | contact defaults payload =>
      rw [Change.execute, Program.map_apply, SubmitContactRequest.execute]
      have left : ContactRequestRepository.repository.Left (fun _ => true) (.post defaults)
          payload store.contactRequests _ := Repository.save_left
      refine ⟨rfl, rfl, ?_⟩
      cases left with
      | same kept => exact kept ▸ List.prefix_refl _
      | inserted _ _ _ rows => exact rows ▸ List.prefix_append _ _
      | updated _ _ aimed => cases aimed
  | delete delete =>
      rw [Change.execute, Program.map_apply, executeDelete_store]
      exact run_leaves delete

variable [EmailStr]

/-- In a run that does not delete a row, it stays, and is as before unless it is replaced. -/
theorem run_stays {last : Store} {kind : Kind} {row : kind.Model} {labels : List Change}
    (keys : ForeignKeys store)
    (run : Machine.Runs site (Keeps kind (kind.id row)) store labels last)
    (stored : row ∈ kind.rows store) :
    Stays kind row (labels.any (Change.replaces kind (kind.id row))) last := by
  generalize named : kind.id row = id at run ⊢
  induction run generalizing row with
  | nil => exact .same stored
  | @cons state next last change rest kept stepped run ih =>
      simp only [site] at stepped
      split at stepped
      next =>
        cases stepped
        subst named
        rcases execute_stays keys stored kept with ⟨row', stored', origin, same⟩
        have key : kind.id row' = kind.id row := congrArg Prod.fst origin
        rcases ih (foreignKeys_execute keys change) stored' key with ⟨last', member, origin', same'⟩
        refine ⟨last', member, origin'.trans origin, ?_⟩
        intro unnamed
        rw [List.any_cons, Bool.or_eq_false_iff] at unnamed
        exact (same' unnamed.2).trans (same unnamed.1)
      next => cases stepped

theorem run_contactRequests {allowed : Store → Change → Prop} {last : Store}
    {labels : List Change} (run : Machine.Runs site allowed store labels last) :
    store.contactRequests.rows <+: last.contactRequests.rows := by
  induction run with
  | nil => exact List.prefix_refl _
  | @cons state next last change rest _ stepped _ ih =>
      simp only [site] at stepped
      split at stepped
      next =>
        cases stepped
        exact ((execute_leaves change).contactRequests).trans ih
      next => cases stepped

/-- From any state the site can reach: as long as a row is not deleted it is there, with its
key, its `created_at` and its author, and unless a request replaces it it is the same row;
contact requests are only appended. -/
theorem rows_change_when_named {users : Users} {last : Store} {kind : Kind} {row : kind.Model}
    {labels : List Change} (reached : Machine.Reaches site Machine.Any (emptyStore users) store)
    (stored : row ∈ kind.rows store)
    (run : Machine.Runs site (Keeps kind (kind.id row)) store labels last) :
    Stays kind row (labels.any (Change.replaces kind (kind.id row))) last ∧
      store.contactRequests.rows <+: last.contactRequests.rows := by
  have keys := foreignKeys_reached reached
  exact ⟨run_stays keys run stored, run_contactRequests run⟩

end

end

namespace Sample

open Content.Sample (unicode collation mysql emailStr)

attribute [local instance] unicode collation mysql emailStr

def deleteCaseStudy : Change := .delete (.caseStudy 2)

/-- A project is the same row after its case study has come and gone. -/
theorem rows_change_when_named_project : ∃ store last : Store,
    Machine.exec site (emptyStore .empty) [createProject] = some store ∧
      Machine.exec site store [createCaseStudy, deleteCaseStudy] = some last ∧
      ∀ row ∈ store.projects.rows.rows, row ∈ last.projects.rows.rows := by
  obtain ⟨store, created⟩ := Option.isSome_iff_exists.mp
    (by decide : (Machine.exec site (emptyStore .empty) [createProject]).isSome)
  obtain ⟨last, executed⟩ := Option.isSome_iff_exists.mp
    (Machine.read_of_map (fun store =>
      (Machine.exec site store [createCaseStudy, deleteCaseStudy]).isSome) created (by decide))
  refine ⟨store, last, created, executed, ?_⟩
  intro row stored
  have run : Machine.Runs site (Keeps .project row.id) store [createCaseStudy, deleteCaseStudy]
      last := by
    apply Machine.Runs.of_exec _ executed
    intro label member _
    rcases List.mem_pair.mp member with create | delete
    · rw [create]
      rfl
    · rw [delete]
      rfl
  have stays := (rows_change_when_named
    ⟨_, Machine.Runs.of_exec (fun _ _ _ => trivial) created⟩ stored run).1
  rcases stays with ⟨row', stored', _, same⟩
  rw [← same rfl]
  exact stored'

end Sample

end ChTech.Application
