import ChTech.Content.Database
import ChTech.Content.Linked
import ChTech.Content.ProjectList
import ChTech.Foundation.Transition

/-!
# Slug conflicts among concurrent requests

Creates and updates of projects and articles interleave with each other and with deletes of
technologies.  Every `IntegrityError` at a commit is reported as a conflict of slugs; each
report is recorded here with whether another row holds the slug when it is made.
-/

namespace ChTech.Content.SlugReports

open Foundation

open TechnologyRepository (Technologies)

section

variable [PyUnicode] [Collation] [Mysql]

/-- What the requests of one table are made of. -/
structure Kind {Model Input Entity : Type} (repo : Repository Model Input Entity)
    extends Slugged repo where
  columns : Columns repo
  overlaySlug : ∀ loaded assigned current, slug (columns.overlay loaded assigned current) =
    overlay (slug loaded) (slug assigned) (slug current)
  technologyIds : Input → List UUID

/-- `create`, or `update` of the row with the given key. -/
structure Request (Input : Type) where
  target : Option UUID
  data : Input

/-- Where a request stands. -/
inductive Pc (Model : Type) where
  | called
  | loaded (row : Loaded Model) (snapshot : Technologies)
  | selected (row : Option (Loaded Model)) (technologies : Selection)
  | committed
  | missing
  | raised (error : Raised)

/-- A conflict of slugs that a request has been answered with. -/
structure Report where
  pid : Nat
  held : Bool
  deriving DecidableEq, Repr

/-- The slug is held at every report. -/
def Sound (reports : List Report) : Prop := ∀ report ∈ reports, report.held = true

variable {Model Input Entity : Type}

structure Editing (repo : Repository Model Input Entity) where
  tagged : Tagged repo
  requests : Nat → Option (Request Input × Pc Model)
  reports : List Report

inductive EditLabel (Input : Type) where
  | call (pid : Nat) (request : Request Input)
  /-- `select(…)` by the key, with the links. -/
  | load (pid : Nat) (ties : Ties)
  /-- `_get_technologies`. -/
  | select (pid : Nat)
  | commit (pid : Nat) (defaults : Defaults) (now : Instant)

namespace Kind

variable {repo : Repository Model Input Entity} (kind : Kind repo)

/-- Another row than the one a request is about holds the slug. -/
def held (rows : repo.Rows) : Option UUID → String → Bool
  | none, slug => rows.rows.any fun row => Collation.equal (kind.slug row) slug
  | some id, slug => kind.taken rows id slug

/-- The commit of a request. -/
def write (technologies : Technologies) (referenced : Model → Bool) (defaults : Defaults)
    (now : Instant) (data : Input) (selected : Selection) (tagged : Tagged repo) :
    Option (Loaded Model) → Except Raised (Tagged repo)
  | none => (tagged.commitSelected technologies selected referenced defaults data).map Prod.snd
  | some loaded =>
      (tagged.commitLoaded kind.columns technologies (kind.technologyIds data) selected now loaded
        data).map Prod.snd

def step (isolation : Isolation) (technologies : Technologies) (referenced : Model → Bool) :
    Machine (Editing repo) (EditLabel Input)
  | editing, .call pid request =>
      match editing.requests pid with
      | none =>
          some { editing with
            requests := Function.update editing.requests pid (some (request, .called)) }
      | some _ => none
  | editing, .load pid ties =>
      match editing.requests pid with
      | some (⟨some id, data⟩, .called) =>
          let pc := match Loaded.byId editing.tagged technologies ties id with
            | .error error => .raised error
            | .ok none => .missing
            | .ok (some row) => .loaded row technologies
          some { editing with
            requests := Function.update editing.requests pid (some (⟨some id, data⟩, pc)) }
      | _ => none
  | editing, .select pid =>
      match editing.requests pid with
      | some (⟨none, data⟩, .called) =>
          let selected := Selection.of technologies (kind.technologyIds data)
          some { editing with
            requests := Function.update editing.requests pid
              (some (⟨none, data⟩, .selected none selected)) }
      | some (request, .loaded row snapshot) =>
          let selected := Selection.of (isolation.read snapshot technologies)
            (kind.technologyIds request.data)
          some { editing with
            requests := Function.update editing.requests pid
              (some (request, .selected (some row) selected)) }
      | _ => none
  | editing, .commit pid defaults now =>
      match editing.requests pid with
      | some (request, .selected row selected) =>
          match kind.write technologies referenced defaults now request.data selected
              editing.tagged row with
          | .ok tagged =>
              some { editing with
                tagged
                requests := Function.update editing.requests pid (some (request, .committed)) }
          | .error error =>
              some { editing with
                requests := Function.update editing.requests pid (some (request, .raised error))
                reports :=
                  if error = repo.conflict then
                    editing.reports ++ [⟨pid,
                      kind.held editing.tagged.rows (row.map fun loaded => repo.key loaded.model)
                        (kind.wanted request.data)⟩]
                  else
                    editing.reports }
      | _ => none

/-- The added links break no constraint. -/
def linkable (technologies : Technologies) (links : Links) (owner : UUID)
    (loaded assigned : List UUID) : Bool :=
  (assigned.filter fun id => !loaded.contains id).all fun id =>
    (technologies.rows.any fun technology => technology.id == id) &&
      !links.rows.contains (owner, id)

/-- Nothing but the slug is in the way of a commit. -/
def unopposed (technologies : Technologies) (referenced : Model → Bool) (defaults : Defaults)
    (data : Input) (selected : Selection) (tagged : Tagged repo) : Option (Loaded Model) → Bool
  | none =>
      (!tagged.rows.rows.any fun row => repo.key row == defaults.id) &&
        referenced (repo.construct defaults data) &&
        linkable technologies tagged.links defaults.id [] selected.ids
  | some loaded =>
      linkable technologies tagged.links (repo.key loaded.model) loaded.technologyIds selected.ids

/-- A request commits while its slug is held, or while nothing else is in its way. -/
def justified (technologies : Technologies) (referenced : Model → Bool) (editing : Editing repo) :
    EditLabel Input → Bool
  | .commit pid defaults _ =>
      match editing.requests pid with
      | some (request, .selected row selected) =>
          kind.held editing.tagged.rows (row.map fun loaded => repo.key loaded.model)
              (kind.wanted request.data) ||
            unopposed technologies referenced defaults request.data selected editing.tagged row
      | _ => true
  | .call .. | .load .. | .select _ => true

section

variable {kind} {technologies : Technologies} {referenced : Model → Bool} {defaults : Defaults}
  {now : Instant} {data : Input} {selected : Selection} {tagged : Tagged repo}

omit [Mysql] in
theorem relinkLoaded_of_linkable {links : Links} {owner : UUID} {loaded : List UUID}
    (free : linkable technologies links owner loaded selected.ids = true) :
    Tagged.relinkLoaded technologies links owner loaded selected.ids ≠ .error .integrityError := by
  simp only [linkable, List.all_eq_true, Bool.and_eq_true] at free
  have stored : Tagged.areStored technologies
      (selected.ids.filter fun id => !loaded.contains id) = true :=
    List.all_eq_true.mpr fun id member => (free id member).1
  have absent : ∀ id ∈ selected.ids.filter fun id => !loaded.contains id,
      (owner, id) ∉ (links.delete fun link =>
        link.1 == owner && loaded.contains link.2 && !selected.ids.contains link.2).rows := by
    intro id member present
    have contained := List.contains_iff_mem.mpr (Table.mem_delete.mp present).1
    have missing := (free id member).2
    rw [contained] at missing
    cases missing
  rcases Tagged.insertLinks (selected.distinct.sublist List.filter_sublist) absent with
    ⟨next, linked, _⟩
  have relinked : Tagged.relink links owner loaded selected.ids = some next := linked
  simp only [Tagged.relinkLoaded, stored, relinked, Tagged.flushLinks]
  split
  · simp
  · simp

omit [PyUnicode] in
/-- A new row is refused for its slug. -/
theorem insertRow_conflict
    (refused : repo.insertRow referenced (repo.construct defaults data) tagged.rows =
      .error .integrityError)
    (new : ∀ row ∈ tagged.rows.rows, repo.key row ≠ defaults.id)
    (references : referenced (repo.construct defaults data) = true) :
    kind.held tagged.rows none (kind.wanted data) = true := by
  rcases Repository.flush_eq_integrityError refused with clashes | missing
  · by_contra free
    have apart : ∀ row ∈ tagged.rows.rows,
        repo.clash row (repo.stored (repo.construct defaults data)) = false := by
      intro row member
      rw [kind.clash_eq_false, repo.keeps.stored, repo.keeps.construct, kind.storedSlug,
        kind.constructSlug]
      refine ⟨new row member, ?_⟩
      simp only [held, List.any_eq_true, not_exists, not_and, Bool.not_eq_true] at free
      exact free row member
    have inserted : tagged.rows.insert? (repo.stored (repo.construct defaults data)) ≠ none := by
      simp only [Table.insert?, dif_pos apart, ne_eq, reduceCtorEq, not_false_eq_true]
    exact inserted clashes
  · rw [references] at missing
    cases missing

omit [PyUnicode] in
/-- So is a changed one; a slug that the payload leaves alone is not written. -/
theorem updateLoaded_conflict {model : Model}
    (refused : Repository.updateLoaded kind.columns (fun _ => true) now model
      (repo.assign data model) tagged.rows = .error .integrityError) :
    kind.taken tagged.rows (repo.key model) (kind.wanted data) = true := by
  simp only [Repository.updateLoaded] at refused
  split at refused
  next => cases refused
  next =>
    split at refused
    next => cases refused
    next current found =>
      rcases Table.mem_of_find? found with ⟨member, own⟩
      have own : repo.key current = repo.key model := of_decide_eq_true own
      rcases Repository.flush_eq_integrityError (Result.map_eq_error.mp refused) with
        clashes | missing
      · by_contra free
        have free := Bool.eq_false_iff.mpr free
        have slug : kind.slug (repo.stored (kind.columns.overlay model
            (repo.touch now (repo.assign data model)) current)) =
              overlay (kind.slug model) (kind.wanted data) (kind.slug current) := by
          rw [kind.storedSlug, kind.overlaySlug, kind.touchSlug, kind.assignSlug]
        have key : repo.key (repo.stored (kind.columns.overlay model
            (repo.touch now (repo.assign data model)) current)) = repo.key model := by
          rw [repo.keeps.stored, kind.columns.key, own]
        have unheld : kind.taken tagged.rows (repo.key model)
            (overlay (kind.slug model) (kind.wanted data) (kind.slug current)) = false := by
          simp only [overlay]
          split
          next => exact own ▸ Slugged.taken_own member
          next => exact free
        rcases Slugged.update?_of_free key (slug ▸ unheld) with ⟨next, updated, _⟩
        rw [updated] at clashes
        cases clashes
      · cases missing

theorem write_conflict {row : Option (Loaded Model)}
    (free : unopposed technologies referenced defaults data selected tagged row = true)
    (refused : kind.write technologies referenced defaults now data selected tagged row =
      .error repo.conflict) :
    kind.held tagged.rows (row.map fun loaded => repo.key loaded.model) (kind.wanted data) =
      true := by
  obtain ⟨message, conflict⟩ := kind.conflict
  cases row with
  | none =>
      simp only [unopposed, Bool.and_eq_true, Bool.not_eq_true', List.any_eq_false,
        beq_iff_eq] at free
      rcases free with ⟨⟨new, references⟩, links⟩
      simp only [write, Tagged.commitSelected] at refused
      have raises : RaisesDatabaseError (do
          let rows ← repo.insertRow referenced (repo.construct defaults data) tagged.rows
          let links ← Tagged.relinkLoaded technologies tagged.links
            (repo.key (repo.construct defaults data)) [] selected.ids
          return (repo.construct defaults data, (⟨rows, links⟩ : Tagged repo))) :=
        Repository.flush_raises.bind fun _ => Tagged.relinkLoaded_raises.bind fun _ => .ok
      have failed := Repository.reported_eq_conflict conflict raises
        (Result.map_eq_error.mp refused)
      rcases Result.bind_eq_error.mp failed with refused | ⟨rows, _, failed⟩
      · exact insertRow_conflict refused new references
      · rcases Result.bind_eq_error.mp failed with unlinked | ⟨_, _, impossible⟩
        · rw [repo.keeps.construct] at unlinked
          exact absurd unlinked (relinkLoaded_of_linkable links)
        · cases impossible
  | some loaded =>
      rcases Result.bind_eq_error.mp (Result.map_eq_error.mp refused) with
        refused | ⟨_, _, failed⟩
      · exact updateLoaded_conflict
          (Tagged.autoflushed_eq_conflict conflict Repository.updateLoaded_raises refused)
      · rcases Result.bind_eq_error.mp failed with unlinked | ⟨_, _, impossible⟩
        · have unlinked :=
            Repository.reported_eq_conflict conflict Tagged.relinkLoaded_raises unlinked
          exact absurd unlinked (relinkLoaded_of_linkable free)
        · cases impossible

/-- A step adds a report only at a commit that meets a conflict. -/
theorem step_reports {isolation : Isolation} {editing next : Editing repo}
    {label : EditLabel Input}
    (stepped : kind.step isolation technologies referenced editing label = some next) :
    next.reports = editing.reports ∨
      ∃ pid defaults now request row selected, label = .commit pid defaults now ∧
        editing.requests pid = some (request, .selected row selected) ∧
        kind.write technologies referenced defaults now request.data selected editing.tagged row =
          .error repo.conflict ∧
        next.reports = editing.reports ++ [⟨pid,
          kind.held editing.tagged.rows (row.map fun loaded => repo.key loaded.model)
            (kind.wanted request.data)⟩] := by
  cases label with
  | call pid request =>
      simp only [step] at stepped
      split at stepped
      · cases stepped
        exact .inl rfl
      · cases stepped
  | load pid ties =>
      simp only [step] at stepped
      split at stepped
      · cases stepped
        exact .inl rfl
      · cases stepped
  | select pid =>
      simp only [step] at stepped
      split at stepped
      · cases stepped
        exact .inl rfl
      · cases stepped
        exact .inl rfl
      · cases stepped
  | commit pid defaults now =>
      simp only [step] at stepped
      split at stepped
      next request row selected present =>
        split at stepped
        next =>
          cases stepped
          exact .inl rfl
        next error failed =>
          cases stepped
          by_cases reported : error = repo.conflict
          · rw [reported] at failed
            exact .inr ⟨pid, defaults, now, request, row, selected, rfl, present, failed,
              if_pos reported⟩
          · exact .inl (if_neg reported)
      next => cases stepped

end

theorem step_sound {isolation : Isolation} {technologies : Technologies}
    {referenced : Model → Bool} {editing next : Editing repo} {label : EditLabel Input}
    (sound : Sound editing.reports)
    (met : kind.justified technologies referenced editing label = true)
    (stepped : kind.step isolation technologies referenced editing label = some next) :
    Sound next.reports := by
  rcases step_reports stepped with
    same | ⟨pid, defaults, now, request, row, selected, equal, present, refused, reports⟩
  · rw [same]
    exact sound
  · subst equal
    simp only [justified, present, Bool.or_eq_true] at met
    have held : kind.held editing.tagged.rows (row.map fun loaded => repo.key loaded.model)
        (kind.wanted request.data) = true := by
      rcases met with held | free
      · exact held
      · exact write_conflict free refused
    rw [reports]
    intro report member
    rcases List.mem_append.mp member with before | now
    · exact sound report before
    · rw [List.mem_singleton.mp now]
      exact held

end Kind

/-! ## Both tables and the technologies -/

def projectKind : Kind ProjectRepository.repository where
  toSlugged := ProjectRepository.slugged
  columns := ProjectRepository.columns
  overlaySlug _ _ _ := rfl
  technologyIds := ProjectWrite.technologyIds

def articleKind : Kind ArticleRepository.repository where
  toSlugged := ArticleRepository.slugged
  columns := ArticleRepository.columns
  overlaySlug _ _ _ := rfl
  technologyIds data := data.2.technologyIds

/-- Where the delete of a technology stands. -/
inductive DeletePc where
  | loaded (projectLinks articleLinks : Links)
  | deleted
  | missing
  | raised (error : Raised)

structure State where
  users : Users
  technologies : Technologies
  projects : Editing ProjectRepository.repository
  articles : Editing ArticleRepository.repository
  deletes : Nat → Option (UUID × DeletePc)

/-- No request yet. -/
def State.init (users : Users) (technologies : Technologies)
    (projects : ProjectRepository.Projects) (articles : ArticleRepository.Articles) : State :=
  ⟨users, technologies, ⟨projects, fun _ => none, []⟩, ⟨articles, fun _ => none, []⟩,
    fun _ => none⟩

inductive Label where
  | project (label : EditLabel ProjectWrite)
  | article (label : EditLabel (UUID × ArticleWrite))
  /-- `select(TechnologyModel)` by the key. -/
  | loadTechnology (pid : Nat) (id : UUID)
  | deleteTechnology (pid : Nat)

/-- A delete takes the links that it has loaded along; they have to be there still. -/
def unlink (id : UUID) (loaded links : Links) : Except Raised Links :=
  if (loaded.rows.filter fun link => link.2 == id).all fun link => links.rows.contains link then
    .ok (links.delete fun link => link.2 == id && loaded.rows.contains link)
  else
    .error .operationalError

/-- The commit of a delete; a link that it has not loaded holds the row. -/
def deleteTechnology (isolation : Isolation) (id : UUID) (projectLinks articleLinks : Links)
    (state : State) : Except Raised (Technologies × Links × Links) := do
  let projectLinks ← unlink id
    (isolation.read projectLinks state.projects.tagged.links) state.projects.tagged.links
  let articleLinks ← unlink id
    (isolation.read articleLinks state.articles.tagged.links) state.articles.tagged.links
  if projectLinks.rows.any (fun link => link.2 == id) ||
      articleLinks.rows.any fun link => link.2 == id then
    .error .integrityError
  else
    .ok (state.technologies.delete fun technology => technology.id == id, projectLinks,
      articleLinks)

def step (isolation : Isolation) : Machine State Label
  | state, .project label =>
      (projectKind.step isolation state.technologies (fun _ => true) state.projects label).map
        fun projects => { state with projects }
  | state, .article label =>
      (articleKind.step isolation state.technologies (ArticleRepository.referenced state.users)
        state.articles label).map fun articles => { state with articles }
  | state, .loadTechnology pid id =>
      match state.deletes pid with
      | none =>
          let pc := if state.technologies.rows.any fun technology => technology.id == id then
              .loaded state.projects.tagged.links state.articles.tagged.links
            else
              .missing
          some { state with deletes := Function.update state.deletes pid (some (id, pc)) }
      | some _ => none
  | state, .deleteTechnology pid =>
      match state.deletes pid with
      | some (id, .loaded projectLinks articleLinks) =>
          match deleteTechnology isolation id projectLinks articleLinks state with
          | .error error =>
              some { state with
                deletes := Function.update state.deletes pid (some (id, .raised error)) }
          | .ok (technologies, projectLinks, articleLinks) =>
              some { state with
                technologies
                projects := { state.projects with
                  tagged := ⟨state.projects.tagged.rows, projectLinks⟩ }
                articles := { state.articles with
                  tagged := ⟨state.articles.tagged.rows, articleLinks⟩ }
                deletes := Function.update state.deletes pid (some (id, .deleted)) }
      | _ => none

/-- Every commit is justified. -/
def justified (state : State) : Label → Bool
  | .project label =>
      projectKind.justified state.technologies (fun _ => true) state.projects label
  | .article label =>
      articleKind.justified state.technologies (ArticleRepository.referenced state.users)
        state.articles label
  | .loadTechnology .. | .deleteTechnology _ => true

abbrev Justified (state : State) (label : Label) : Prop := justified state label = true

structure AllSound (state : State) : Prop where
  projects : Sound state.projects.reports
  articles : Sound state.articles.reports

theorem step_allSound {isolation : Isolation} {state next : State} {label : Label}
    (sound : AllSound state) (met : Justified state label)
    (stepped : step isolation state label = some next) : AllSound next := by
  cases label with
  | project label =>
      rcases Option.map_eq_some_iff.mp stepped with ⟨projects, edited, rfl⟩
      exact ⟨projectKind.step_sound sound.projects met edited, sound.articles⟩
  | article label =>
      rcases Option.map_eq_some_iff.mp stepped with ⟨articles, edited, rfl⟩
      exact ⟨sound.projects, articleKind.step_sound sound.articles met edited⟩
  | loadTechnology pid id =>
      simp only [step] at stepped
      split at stepped
      · cases stepped
        exact ⟨sound.projects, sound.articles⟩
      · cases stepped
  | deleteTechnology pid =>
      simp only [step] at stepped
      split at stepped
      next =>
        split at stepped
        · cases stepped
          exact ⟨sound.projects, sound.articles⟩
        · cases stepped
          exact ⟨sound.projects, sound.articles⟩
      next => cases stepped

/-- When every commit whose slug is free finds its technologies stored and not yet linked,
a new key and, for an article, a stored author, every conflict that is reported is one. -/
theorem conflicts_reported_hold {isolation : Isolation} {users : Users}
    {technologies : Technologies} {projects : ProjectRepository.Projects}
    {articles : ArticleRepository.Articles} {last : State}
    (run : Machine.Reaches (step isolation) Justified
      (State.init users technologies projects articles) last) :
    ∀ report ∈ last.projects.reports ++ last.articles.reports, report.held = true := by
  have sound : AllSound last := by
    apply run.invariant AllSound step_allSound
    constructor
    · intro report member
      cases member
    · intro report member
      cases member
  intro report member
  rcases List.mem_append.mp member with project | article
  · exact sound.projects report project
  · exact sound.articles report article

end

namespace Sample

open Content.Sample

attribute [local instance] unicode collation mysql

def start : State :=
  .init .empty (.singleton ProjectRepository.Sample.python) ⟨.singleton prototype, .empty⟩
    ⟨.empty, .empty⟩

/-- A project is created in Python. -/
def selecting : List Label := [
  .project (.call 0 ⟨none, replaced "showcase" [10]⟩), .project (.select 0)]

def committing : List Label := [.project (.commit 0 ⟨1, 0, 0⟩ 0)]

/-- The technology is deleted before the commit. -/
def overlapping : List Label :=
  selecting ++ [.loadTechnology 0 10, .deleteTechnology 0] ++ committing

theorem unheld_conflict :
    ¬ ∀ last, Machine.Reaches (step .repeatableRead) Machine.Any start last →
      ∀ report ∈ last.projects.reports ++ last.articles.reports, report.held = true := by
  intro claim
  obtain ⟨last, executed⟩ := Option.isSome_iff_exists.mp
    (by decide : (Machine.exec (step .repeatableRead) start overlapping).isSome)
  have reports : last.projects.reports = [⟨0, false⟩] :=
    Machine.read_of_map (fun state => state.projects.reports) executed (by decide)
  have held := claim last ⟨_, Machine.Runs.of_exec (fun _ _ _ => trivial) executed⟩ ⟨0, false⟩
    (List.mem_append_left _ (reports ▸ List.mem_singleton_self _))
  cases held

/-- Two creates with one slug, and the technology stays. -/
def together : List Label := [
  .project (.call 0 ⟨none, replaced "showcase" [10]⟩),
  .project (.call 1 ⟨none, replaced "showcase" [10]⟩),
  .project (.select 0), .project (.select 1),
  .project (.commit 0 ⟨1, 0, 0⟩ 0), .project (.commit 1 ⟨3, 0, 0⟩ 0)]

theorem conflicts_reported_hold_together :
    ∃ last, Machine.execIf (step .repeatableRead) Justified start together = some last ∧
      last.projects.reports = [⟨1, true⟩] ∧
      ∀ report ∈ last.projects.reports ++ last.articles.reports, report.held = true := by
  obtain ⟨last, executed⟩ := Option.isSome_iff_exists.mp
    (by decide : (Machine.execIf (step .repeatableRead) Justified start together).isSome)
  exact ⟨last, executed,
    Machine.read_of_map (fun state => state.projects.reports) executed (by decide),
    conflicts_reported_hold ⟨_, Machine.Runs.of_execIf executed⟩⟩

end Sample

end ChTech.Content.SlugReports
