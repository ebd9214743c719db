import ChTech.Application.Integrity
import ChTech.Content.Visibility

/-!
# Work on drafts

Creating, replacing and deleting what the public may not see does not change what it sees,
however many such requests there are.
-/

namespace ChTech.Application

open Foundation Content

section

variable [PyUnicode] [Collation]

/-- No row that is shown has the key. -/
def hidden {Row : Type} (rows : List Row) (key : Row → UUID) (shown : Row → Bool) (id : UUID) :
    Bool :=
  rows.all fun row => key row != id || !shown row

def hidesProject (store : Store) (id : UUID) : Bool :=
  hidden store.projects.rows.rows ProjectModel.id ProjectRepository.isPublic id

namespace Change

/-- The request is about content that is hidden before and after it. -/
def hides (store : Store) : Change → Bool
  | project _ target payload =>
      !Collation.equal payload.visibility.value "PUBLIC" && hidesProject store target.id
  | article _ target _ payload =>
      !payload.published && hidden store.articles.rows.rows ArticleModel.id ArticleModel.published
        target.id
  | service target payload =>
      !payload.active && hidden store.services.rows ServiceModel.id ServiceModel.active target.id
  | teamMember target payload =>
      !payload.active &&
        hidden store.teamMembers.rows TeamMemberModel.id TeamMemberModel.active target.id
  | caseStudy _ target payload =>
      hidesProject store payload.projectId &&
        hidden store.caseStudies.rows CaseStudyModel.id
          (CaseStudyRepository.disclosed store.projects) target.id
  | delete (.project _ id) => hidesProject store id
  | delete (.article _ id) =>
      hidden store.articles.rows.rows ArticleModel.id ArticleModel.published id
  | delete (.service id) => hidden store.services.rows ServiceModel.id ServiceModel.active id
  | delete (.teamMember id) =>
      hidden store.teamMembers.rows TeamMemberModel.id TeamMemberModel.active id
  | delete (.caseStudy id) =>
      hidden store.caseStudies.rows CaseStudyModel.id
        (CaseStudyRepository.disclosed store.projects) id
  | contact .. => true
  | serviceLine .. | product .. | technology .. | client .. | partner .. | company ..
  | testimonial .. | delete (.serviceLine _) | delete (.product _) | delete (.technology _)
  | delete (.client _) | delete (.partner _) | delete (.testimonial _) => false

end Change

abbrev Hides (store : Store) (change : Change) : Prop := change.hides store = true

variable {store : Store}

omit [PyUnicode] [Collation] in
theorem shown_eq_false {Row : Type} {rows : List Row} {key : Row → UUID} {shown : Row → Bool}
    {id : UUID} (unseen : hidden rows key shown id = true) :
    ∀ row ∈ rows, key row = id → shown row = false := by
  intro row member same
  have other := List.all_eq_true.mp unseen row member
  rw [same, bne_self_eq_false, Bool.false_or] at other
  simpa using other

omit [PyUnicode] [Collation] in
/-- The selected links depend on the selected rows only. -/
theorem linksOf_eq {Model Input Entity : Type} {repo : Repository Model Input Entity}
    {before after : Tagged repo} {selects : Model → Bool} {owner : UUID}
    (rows : after.rows.rows.filter selects = before.rows.rows.filter selects)
    (links : Tagged.otherLinks after.links owner = Tagged.otherLinks before.links owner)
    (unseen : ∀ row ∈ before.rows.rows, repo.key row = owner → selects row = false) :
    after.linksOf selects = before.linksOf selects := by
  have owned : ∀ (tagged : Tagged repo) (link : UUID × UUID),
      (tagged.rows.rows.any fun model => decide (repo.key model = link.1) && selects model) =
        (tagged.rows.rows.filter selects).any fun model => decide (repo.key model = link.1) := by
    intro tagged link
    rw [List.any_filter]
    congr 1
    funext model
    exact Bool.and_comm _ _
  have apart : ∀ link : UUID × UUID, ((before.rows.rows.filter selects).any fun model =>
      decide (repo.key model = link.1)) = true → (link.1 != owner) = true := by
    intro link shown
    rcases List.any_eq_true.mp shown with ⟨row, member, same⟩
    rcases List.mem_filter.mp member with ⟨stored, selected⟩
    apply bne_iff_ne.mpr
    intro own
    rw [unseen row stored ((of_decide_eq_true same).trans own)] at selected
    cases selected
  simp only [Tagged.linksOf, owned, rows]
  rw [← filter_filter_hidden fun link _ => apart link, ← Tagged.otherLinks, links,
    Tagged.otherLinks, filter_filter_hidden fun link _ => apart link]

theorem disclosed_congr {before after : ProjectRepository.Projects}
    (rows : after.rows.rows.filter ProjectRepository.isPublic =
      before.rows.rows.filter ProjectRepository.isPublic) :
    CaseStudyRepository.disclosed after = CaseStudyRepository.disclosed before := by
  have shown : ∀ (projects : ProjectRepository.Projects) (model : CaseStudyModel),
      CaseStudyRepository.disclosed projects model =
        (projects.rows.rows.filter ProjectRepository.isPublic).any fun project =>
          decide (model.projectId = project.id) := by
    intro projects model
    rw [List.any_filter, CaseStudyRepository.disclosed]
    congr 1
    funext project
    exact Bool.and_comm _ _
  funext model
  rw [shown, shown, rows]

theorem visible_projects {projects : ProjectRepository.Projects} {owner : UUID}
    (rows : projects.rows.rows.filter ProjectRepository.isPublic =
      store.projects.rows.rows.filter ProjectRepository.isPublic)
    (links : Tagged.otherLinks projects.links owner =
      Tagged.otherLinks store.projects.links owner)
    (unseen : hidesProject store owner = true) :
    ({ store.toDb with projects } : Db).visible = store.toDb.visible := by
  simp only [Db.visible, disclosed_congr rows, rows,
    linksOf_eq rows links (shown_eq_false unseen)]

theorem visible_articles {articles : ArticleRepository.Articles} {owner : UUID}
    (rows : articles.rows.rows.filter ArticleModel.published =
      store.articles.rows.rows.filter ArticleModel.published)
    (links : Tagged.otherLinks articles.links owner =
      Tagged.otherLinks store.articles.links owner)
    (unseen : hidden store.articles.rows.rows ArticleModel.id ArticleModel.published owner =
      true) : ({ store.toDb with articles } : Db).visible = store.toDb.visible := by
  simp only [Db.visible, rows, linksOf_eq rows links (shown_eq_false unseen)]

theorem visible_services {services : ServiceRepository.Services}
    (rows : services.rows.filter ServiceModel.active =
      store.services.rows.filter ServiceModel.active) :
    ({ store.toDb with services } : Db).visible = store.toDb.visible := by
  simp only [Db.visible, rows]

theorem visible_teamMembers {teamMembers : TeamMemberRepository.TeamMembers}
    (rows : teamMembers.rows.filter TeamMemberModel.active =
      store.teamMembers.rows.filter TeamMemberModel.active) :
    ({ store.toDb with teamMembers } : Db).visible = store.toDb.visible := by
  simp only [Db.visible, rows]

theorem visible_caseStudies {caseStudies : CaseStudyRepository.CaseStudies}
    (rows : caseStudies.rows.filter (CaseStudyRepository.disclosed store.projects) =
      store.caseStudies.rows.filter (CaseStudyRepository.disclosed store.projects)) :
    ({ store.toDb with caseStudies } : Db).visible = store.toDb.visible := by
  simp only [Db.visible, rows]

omit [PyUnicode] [Collation] in
/-- The removal of a hidden row. -/
theorem filter_delete_hidden {Row : Type} {clash : Row → Row → Bool} {table : Table Row clash}
    {key : Row → UUID} {shown : Row → Bool} {id : UUID}
    (unseen : hidden table.rows key shown id = true) :
    (table.delete fun row => key row == id).rows.filter shown = table.rows.filter shown := by
  apply filter_filter_hidden
  intro row member selected
  cases same : key row == id with
  | false => simp [same]
  | true =>
      rw [shown_eq_false unseen row member (eq_of_beq same)] at selected
      cases selected

omit [PyUnicode] [Collation] in
theorem otherLinks_delete (links : Links) (id : UUID) :
    Tagged.otherLinks (links.delete fun link => link.1 == id) id = Tagged.otherLinks links id := by
  apply filter_filter_hidden
  intro link _ other
  simpa [bne] using other

/-! ## One request -/

theorem visible_removed {delete : Delete} (hides : (Change.delete delete).hides store = true) :
    (delete.removed store).toDb.visible = store.toDb.visible := by
  cases delete with
  | project ties id =>
      exact visible_projects (filter_delete_hidden hides) (otherLinks_delete _ id) hides
  | article ties id =>
      exact visible_articles (filter_delete_hidden hides) (otherLinks_delete _ id) hides
  | service id => exact visible_services (filter_delete_hidden hides)
  | teamMember id => exact visible_teamMembers (filter_delete_hidden hides)
  | caseStudy id => exact visible_caseStudies (filter_delete_hidden hides)
  | serviceLine id | product id | technology id | client id | partner id | testimonial id =>
      cases hides

theorem visible_delete (keys : ForeignKeys store) {delete : Delete}
    (hides : (Change.delete delete).hides store = true) :
    (executeDelete delete store).2.toDb.visible = store.toDb.visible := by
  rw [executeDelete_store]
  rcases delete_run keys delete with same | removed
  · exact congrArg (fun store : Store => store.toDb.visible) same
  · exact (congrArg (fun store : Store => store.toDb.visible) removed).trans
      (visible_removed hides)

section

variable [Mysql]

theorem visible_execute (keys : ForeignKeys store) {change : Change}
    (hides : Hides store change) :
    (change.execute store).2.toDb.visible = store.toDb.visible := by
  cases change with
  | project ties target payload =>
      rcases Bool.and_eq_true_iff.mp hides with ⟨draft, unseen⟩
      have draft : ∀ model : ProjectModel, model.visibility = payload.visibility.value →
          ProjectRepository.isPublic model = false := by
        intro model same
        rw [ProjectRepository.isPublic, same]
        simpa using draft
      have left : Tagged.Left store.technologies (fun _ => true) target payload store.projects
          (Tagged.save store.technologies ties payload.technologyIds (fun _ => true) target
            payload store.projects).2 := Tagged.save_left
      rw [project_store]
      exact visible_projects (left.rows.filter_eq (shown_eq_false unseen) (fun _ => draft _ rfl)
        fun _ _ => draft _ rfl) left.others unseen
  | article ties target authorId payload =>
      rcases Bool.and_eq_true_iff.mp hides with ⟨draft, unseen⟩
      have draft : payload.published = false := by simpa using draft
      rcases article_store ties target authorId payload with ⟨author, saved⟩
      have left : Tagged.Left store.technologies (ArticleRepository.referenced store.users) target
          (author, payload) store.articles (Tagged.save store.technologies ties
            payload.technologyIds (ArticleRepository.referenced store.users) target
              (author, payload) store.articles).2 := Tagged.save_left
      rw [saved]
      exact visible_articles (left.rows.filter_eq (shown_eq_false unseen) (fun _ => draft)
        fun _ _ => draft) left.others unseen
  | service target payload =>
      rcases Bool.and_eq_true_iff.mp hides with ⟨draft, unseen⟩
      have draft : payload.active = false := by simpa using draft
      rw [service_store]
      exact visible_services (Repository.save_left.filter_eq (shown_eq_false unseen)
        (fun _ => draft) fun _ _ => draft)
  | teamMember target payload =>
      rcases Bool.and_eq_true_iff.mp hides with ⟨draft, unseen⟩
      have draft : payload.active = false := by simpa using draft
      rcases teamMember_store target payload with same | saved
      · rw [same]
      · rw [saved]
        exact visible_teamMembers (Repository.save_left.filter_eq (shown_eq_false unseen)
          (fun _ => draft) fun _ _ => draft)
  | caseStudy ties target payload =>
      rcases Bool.and_eq_true_iff.mp hides with ⟨draft, unseen⟩
      have draft : ∀ model : CaseStudyModel, model.projectId = payload.projectId →
          CaseStudyRepository.disclosed store.projects model = false := by
        intro model same
        rw [CaseStudyRepository.disclosed, List.any_eq_false]
        intro project stored matching
        rcases Bool.and_eq_true_iff.mp matching with ⟨own, shown⟩
        have own : project.id = payload.projectId := (of_decide_eq_true own).symm.trans same
        rw [shown_eq_false draft project stored own] at shown
        cases shown
      rcases caseStudy_store ties target payload with same | saved
      · rw [same]
      · rw [saved]
        exact visible_caseStudies (Repository.save_left.filter_eq (shown_eq_false unseen)
          (fun _ => draft _ rfl) fun _ _ => draft _ rfl)
  | contact defaults payload =>
      rw [Change.execute, Program.map_apply, SubmitContactRequest.execute]
      rfl
  | delete delete =>
      rw [Change.execute, Program.map_apply]
      exact visible_delete keys hides
  | serviceLine | product | technology | client | partner | company | testimonial => cases hides

variable [EmailStr]

/-- From any state the site can reach, requests about hidden content leave every public read as
it was. -/
theorem drafts_unseen {users : Users} {last : Store} {labels : List Change}
    (reached : Machine.Reaches site Machine.Any (emptyStore users) store)
    (run : Machine.Runs site Hides store labels last) :
    last.toDb.visible = store.toDb.visible ∧ ∀ (engine : Engine) (read : Read),
      read.isPublic = true → Read.run (engine.ranks read last.visible) last.toDb read =
        Read.run (engine.ranks read store.visible) store.toDb read := by
  have keys := foreignKeys_reached reached
  have visible : ForeignKeys last ∧ last.toDb.visible = store.toDb.visible := by
    refine run.invariant (fun next => ForeignKeys next ∧ next.toDb.visible = store.toDb.visible)
      ?_ ⟨keys, rfl⟩
    intro before change after holds hides stepped
    simp only [site] at stepped
    split at stepped
    next =>
      cases stepped
      exact ⟨foreignKeys_execute holds.1 change, (visible_execute holds.1 hides).trans holds.2⟩
    next => cases stepped
  exact ⟨visible.2, fun engine read shown => public_reads_visible engine visible.2 shown⟩

end

end

namespace Sample

open Content.Sample (unicode collation mysql emailStr engine firstPage)

attribute [local instance] unicode collation mysql emailStr

def createDraft : Change :=
  .project (fun _ => 0) (.post (defaults 3)) {
    slug := "erp"
    title := "ERP"
    shortDescription := none
    fullDescription := none
    repositoryUrl := none
    liveDemoUrl := none
    coverImage := none
    status := .planning
    visibility := .isPrivate
    featured := true
    startedAt := none
    finishedAt := none
    technologyIds := [] }

def describeDraft : Change :=
  .caseStudy (fun _ => 0) (.post (defaults 4)) {
    projectId := 3
    challenge := some "Confidential"
    solution := none
    architecture := none
    lessonsLearned := none
    metrics := none }

/-- A private project and its case study, beside a public project. -/
theorem drafts_unseen_project : ∃ store last : Store,
    Machine.exec site (emptyStore .empty) [createProject] = some store ∧
      Machine.execIf site Hides store [createDraft, describeDraft] = some last ∧
      Read.run (engine.ranks firstPage last.visible) last.toDb firstPage =
        Read.run (engine.ranks firstPage store.visible) store.toDb firstPage := by
  obtain ⟨store, created⟩ := Option.isSome_iff_exists.mp
    (by decide : (Machine.exec site (emptyStore .empty) [createProject]).isSome)
  obtain ⟨last, executed⟩ := Option.isSome_iff_exists.mp
    (Machine.read_of_map (fun store =>
      (Machine.execIf site Hides store [createDraft, describeDraft]).isSome) created (by decide))
  refine ⟨store, last, created, executed, ?_⟩
  exact (drafts_unseen ⟨_, Machine.Runs.of_exec (fun _ _ _ => trivial) created⟩
    (Machine.Runs.of_execIf executed)).2 engine firstPage rfl

end Sample

end ChTech.Application
