import ChTech.Content.ArticleAnswers

/-!
# When `updated_at` changes

`onupdate` fires with an `UPDATE` of the row, and none is sent when only the technologies of a
project or an article change.
-/

namespace ChTech.Content

open Foundation

open TechnologyRepository (Technologies)

section

variable [PyUnicode] [Collation] {Model Input Entity : Type}
  {repo : Repository Model Input Entity}

/-- The column that `onupdate` writes. -/
structure Stamped (repo : Repository Model Input Entity) where
  updatedAt : Model → Instant
  touched : ∀ now model, updatedAt (repo.touch now model) = now
  stored : ∀ model, updatedAt (repo.stored model) = updatedAt model

def ProjectRepository.stamped : Stamped ProjectRepository.repository where
  updatedAt := ProjectModel.updatedAt
  touched _ _ := rfl
  stored _ := rfl

def ArticleRepository.stamped : Stamped ArticleRepository.repository where
  updatedAt := ArticleModel.updatedAt
  touched _ _ := rfl
  stored _ := rfl

/-- Two lookups return the same, but for the order of the technologies. -/
def LooksSame (first second : Except Raised (Option (WithTechnologies Entity))) : Prop :=
  ∃ before after, first = .ok (some before) ∧ second = .ok (some after) ∧
    after.entity = before.entity ∧ after.technologies.Perm before.technologies

/-- If the lookups before and after look different, the row has the time of the update. -/
def Tracks (stamped : Stamped repo)
    (lookup : Tagged repo → Ties → Except Raised (Option (WithTechnologies Entity)))
    (id : UUID) (now : Instant) (before after : Tagged repo) : Prop :=
  ∀ earlier later, ¬LooksSame (lookup before earlier) (lookup after later) →
    ∃ row ∈ after.rows.rows, repo.key row = id ∧ stamped.updatedAt row = now

/-- No row has an earlier time than before. -/
def Grows (stamped : Stamped repo) (before after : Tagged repo) : Prop :=
  ∀ row ∈ before.rows.rows, ∀ next ∈ after.rows.rows, repo.key next = repo.key row →
    stamped.updatedAt row ≤ stamped.updatedAt next

/-- `get_by_id`. -/
def lookup (technologies : Technologies) (id : UUID) (tagged : Tagged repo) (ties : Ties) :
    Except Raised (Option (WithTechnologies Entity)) :=
  tagged.readOne technologies ties (tagged.rows.rows.filter fun row => repo.key row = id)

variable [Mysql] {stamped : Stamped repo} {slugged : Slugged repo} {technologies : Technologies}
  {ties : Ties} {technologyIds : List UUID} {referenced : Model → Bool} {now : Instant}
  {data : Input} {model : Model} {tagged next : Tagged repo}

omit [PyUnicode] [Collation] [Mysql] in
theorem Grows.refl (tagged : Tagged repo) : Grows stamped tagged tagged := by
  intro row member next stored same
  rw [repo.eq_of_key stored member same]

omit [PyUnicode] in
theorem Rewritten.grows {changed : Model} (slugged : Slugged repo)
    (member : model ∈ tagged.rows.rows) (later : stamped.updatedAt model < now)
    (rewritten : Rewritten repo now data model tagged.rows next.rows changed) :
    Grows stamped tagged next := by
  intro row stored row' stored' same
  cases rewritten with
  | unchanged _ kept =>
      rw [kept] at stored'
      rw [repo.eq_of_key stored' stored same]
  | updated _ _ written =>
      rw [written] at stored'
      rcases List.mem_map.mp stored' with ⟨earlier, present, rfl⟩
      split at same
      next own =>
        have key : repo.key (repo.stored (slugged.touched now data model)) = repo.key model :=
          Slugged.touched_key
        have equal : row = model := repo.eq_of_key stored member (same.symm.trans key)
        rw [if_pos own, stamped.stored, stamped.touched, equal]
        exact Int.le_of_lt later
      next other =>
        rw [if_neg other, repo.eq_of_key present stored same]

/-- No update at a later time, whatever comes of it, takes a row back. -/
theorem save_grows (slugged : Slugged repo) (member : model ∈ tagged.rows.rows)
    (later : stamped.updatedAt model < now) : Grows stamped tagged
      (Tagged.save technologies ties technologyIds referenced (.put (repo.key model) now) data
        tagged).2 := by
  rw [save_put member]
  cases written : repo.updateRow referenced now model (repo.assign data model) tagged.rows with
  | error raised =>
      rw [commitChange_error written]
      exact .refl tagged
  | ok pair =>
      rcases pair with ⟨changed, rows⟩
      have linked : ∃ links : Links, _ ∧ tagged.commitChange technologies ties technologyIds
        referenced now model data = .ok (changed, ⟨rows, links⟩) := commitChange_ok written
      rcases linked with ⟨links, _, committed⟩
      rw [committed]
      exact Rewritten.grows slugged member later (.of_updateRow written)

omit [Mysql] in
theorem lookup_of_mem (member : model ∈ tagged.rows.rows) (ties : Ties) :
    lookup technologies (repo.key model) tagged ties =
      (tagged.toRow technologies ties model).map some :=
  Tagged.readOne_of_mem member

omit [Mysql] in
/-- A row that looks the same before and after has kept its links. -/
theorem linksKept_of_looksSame (before : model ∈ tagged.rows.rows)
    (after : model ∈ next.rows.rows)
    (linked : ∀ technology ∈ technologies.rows,
      (repo.key model, technology.id) ∈ next.links.rows ↔ technology.id ∈ technologyIds)
    (same : LooksSame (lookup technologies (repo.key model) tagged ties)
      (lookup technologies (repo.key model) next ties)) :
    LinksKept technologies technologyIds tagged (repo.key model) := by
  rw [lookup_of_mem before, lookup_of_mem after] at same
  rcases same with ⟨first, second, firstRead, secondRead, _, technologies⟩
  rcases Result.map_eq_ok.mp firstRead with ⟨first, firstRead, equal⟩
  cases equal
  rcases Result.map_eq_ok.mp secondRead with ⟨second, secondRead, equal⟩
  cases equal
  intro technology stored
  rw [← linked technology stored, Tagged.mem_links_iff firstRead stored,
    Tagged.mem_links_iff secondRead stored]
  exact (technologies.map Technology.id).mem_iff

omit [Mysql] in
/-- A row that can be read looks the same, whatever the order of the ties. -/
theorem looksSame_of_read (member : model ∈ tagged.rows.rows)
    (read : (tagged.toRow technologies ties model).isOk = true) (earlier later : Ties) :
    LooksSame (lookup technologies (repo.key model) tagged earlier)
      (lookup technologies (repo.key model) tagged later) := by
  rcases Result.isOk_iff.mp read with ⟨row, converted⟩
  rcases Tagged.toRow_perm converted earlier with ⟨first, firstRead, firstSame, firstPerm⟩
  rcases Tagged.toRow_perm converted later with ⟨second, secondRead, secondSame, secondPerm⟩
  rw [lookup_of_mem member, lookup_of_mem member, firstRead, secondRead]
  exact ⟨first, second, rfl, rfl, secondSame.trans firstSame.symm,
    secondPerm.trans firstPerm.symm⟩

/-- What has been answered could be read before, if nothing but links has changed. -/
theorem Saved.read_before {answer : WithTechnologies Entity} (steady : repo.Steady)
    (saved : Saved technologies ties technologyIds now data model tagged next answer
      (repo.assign data model))
    (same : repo.same model (repo.assign data model) = true) :
    (next.toRow technologies ties model).isOk = true := by
  have key : repo.key (repo.assign data model) = repo.key model := repo.keeps.assign data model
  have linked := saved.linked key
  have answered := saved.converted key
  rw [key] at linked
  rw [converts, ← steady.same _ _ same] at answered
  rw [toRow_isOk_of_links linked]
  exact answered

/-- An update that returns tracks what it has changed if and only if it has changed a column, or
has left the technologies as they were. -/
theorem Saved.tracks_iff {answer : WithTechnologies Entity} {changed : Model}
    (slugged : Slugged repo) (steady : repo.Steady) (member : model ∈ tagged.rows.rows)
    (later : stamped.updatedAt model < now)
    (saved : Saved technologies ties technologyIds now data model tagged next answer changed) :
    Tracks stamped (lookup technologies (repo.key model)) (repo.key model) now tagged next ↔
      repo.same model (repo.assign data model) = false ∨
        LinksKept technologies technologyIds tagged (repo.key model) := by
  cases saved.rows with
  | unchanged same kept =>
      have stored : model ∈ next.rows.rows := by
        rw [kept]
        exact member
      have read := saved.read_before steady same
      rw [same]
      constructor
      · intro tracks
        have linked := saved.linked (repo.keeps.assign data model)
        rw [repo.keeps.assign] at linked
        have looks : LooksSame (lookup technologies (repo.key model) tagged ties)
            (lookup technologies (repo.key model) next ties) := by
          by_contra different
          rcases tracks ties ties different with ⟨row, present, own, time⟩
          rw [repo.eq_of_key present stored own] at time
          rw [time] at later
          exact Int.lt_irrefl now later
        exact .inr (linksKept_of_looksSame member stored linked looks)
      · rintro (impossible | links)
        · cases impossible
        · intro earlier later different
          have unmoved : next = tagged :=
            tagged_eq_iff.mpr ⟨congrArg Table.rows kept,
              saved.links.trans (relinked_eq_iff.mpr links)⟩
          rw [unmoved] at different read
          exact absurd (looksSame_of_read member read earlier later) different
  | updated different _ written =>
      rw [different]
      refine iff_of_true ?_ (.inl rfl)
      intro _ _ _
      refine ⟨repo.stored (slugged.touched now data model), ?_, Slugged.touched_key, ?_⟩
      · rw [written]
        exact List.mem_map.mpr ⟨model, member, if_pos rfl⟩
      · exact (stamped.stored _).trans (stamped.touched now _)

/-- What an update at a later time leaves in its column. -/
structure Stamps (stamped : Stamped repo)
    (lookup : Tagged repo → Ties → Except Raised (Option (WithTechnologies Entity)))
    (id : UUID) (now : Instant) (condition : Prop) (before : Tagged repo)
    (ended : Except Raised (Option (WithTechnologies Entity)) × Tagged repo) : Prop where
  grows : Grows stamped before ended.2
  tracks : ended.1.isOk = true → (Tracks stamped lookup id now before ended.2 ↔ condition)

theorem save_stamps (slugged : Slugged repo) (steady : repo.Steady)
    (member : model ∈ tagged.rows.rows) (later : stamped.updatedAt model < now) :
    Stamps stamped (lookup technologies (repo.key model)) (repo.key model) now
      (repo.same model (repo.assign data model) = false ∨
        LinksKept technologies technologyIds tagged (repo.key model)) tagged
      (Tagged.save technologies ties technologyIds referenced (.put (repo.key model) now) data
        tagged) := by
  constructor
  · exact save_grows slugged member later
  · intro returned
    rcases Result.isOk_iff.mp returned with ⟨row, ended⟩
    rcases Saved.of_save member (Prod.ext ended rfl) with ⟨answer, changed, _, saved⟩
    exact saved.tracks_iff slugged steady member later

end

/-! ## Projects and articles -/

section

variable [PyUnicode] [Collation] [Mysql]

/-- No update at a later time takes `updated_at` back; one that returns sets it, if a lookup then
looks different, if and only if it changes a column or leaves the technologies as they were. -/
theorem updated_at_tracks_iff (technologies : Technologies) (ties : Ties) (users : Users)
    (now : Instant) :
    (∀ (projects : ProjectRepository.Projects) (data : ProjectWrite),
      ∀ project ∈ projects.rows.rows, project.updatedAt < now →
        Stamps ProjectRepository.stamped
          (fun projects ties => ProjectRepository.getById projects technologies ties project.id)
          project.id now
          (ProjectRepository.repository.same project
              (ProjectRepository.repository.assign data project) = false ∨
            LinksKept technologies data.technologyIds projects project.id) projects
          (Tagged.save technologies ties data.technologyIds (fun _ => true) (.put project.id now)
            data projects)) ∧
      ∀ (articles : ArticleRepository.Articles) (data : UUID × ArticleWrite),
        ∀ article ∈ articles.rows.rows, article.updatedAt < now →
          Stamps ArticleRepository.stamped
            (fun articles ties => ArticleRepository.getById articles technologies ties article.id)
            article.id now
            (ArticleRepository.repository.same article
                (ArticleRepository.repository.assign data article) = false ∨
              LinksKept technologies data.2.technologyIds articles article.id) articles
            (Tagged.save technologies ties data.2.technologyIds
              (ArticleRepository.referenced users) (.put article.id now) data articles) := by
  constructor
  · intro projects data project member later
    exact save_stamps ProjectRepository.slugged ProjectRepository.steady member later
  · intro articles data article member later
    exact save_stamps ArticleRepository.slugged ArticleRepository.steady member later

end

namespace Sample

open ProjectRepository.Sample (projects technologies)

attribute [local instance] unicode collation mysql

/-- A new title, at a later time. -/
def retitled : ProjectWrite := { replaced "showcase" [10] with title := "Retitled" }

theorem updated_at_tracks_retitled : Stamps ProjectRepository.stamped
    (fun projects ties => ProjectRepository.getById projects technologies ties 1) 1
    1767225600000001 (ProjectRepository.repository.same showcase
        (ProjectRepository.repository.assign retitled showcase) = false ∨
      LinksKept technologies [10] projects 1) projects
    (Tagged.save technologies (fun _ => 0) [10] (fun _ => true) (.put 1 1767225600000001) retitled
      projects) :=
  (updated_at_tracks_iff technologies (fun _ => 0) .empty 1767225600000001).1 projects retitled
    showcase (by decide) (by decide)

/-- The showcase after an update that only takes FastAPI away. -/
def reduced : Except Raised (Option (WithTechnologies Project)) × ProjectRepository.Projects :=
  Tagged.save technologies (fun _ => 0) [10] (fun _ => true) (.put 1 1767225600000001)
    (replaced "showcase" [10]) projects

/-- The project loses a technology, and keeps its time. -/
theorem lost_technology_untracked :
    showcase ∈ projects.rows.rows ∧ showcase.updatedAt < 1767225600000001 ∧
      reduced.1.isOk = true ∧ ¬Tracks ProjectRepository.stamped
        (fun projects ties => ProjectRepository.getById projects technologies ties 1) 1
        1767225600000001 projects reduced.2 := by
  have member : showcase ∈ projects.rows.rows := by decide
  have later : showcase.updatedAt < 1767225600000001 := by decide
  have returned : reduced.1.isOk = true := by decide
  refine ⟨member, later, returned, ?_⟩
  intro tracks
  have stamps : Stamps ProjectRepository.stamped _ 1 1767225600000001 _ projects reduced :=
    save_stamps ProjectRepository.slugged ProjectRepository.steady member later
  rcases (stamps.tracks returned).mp tracks with different | kept
  · have same : ProjectRepository.repository.same showcase (ProjectRepository.repository.assign
        (replaced "showcase" [10]) showcase) = true := by decide
    exact Bool.false_ne_true (different.symm.trans same)
  · have linked : (1, 11) ∈ projects.links.rows := by decide
    have wanted := (kept ProjectRepository.Sample.fastApi (by decide)).mpr linked
    cases List.mem_singleton.mp wanted

end Sample

end ChTech.Content
