import ChTech.Content.Linked
import ChTech.Content.ProjectList
import ChTech.Foundation.Transition

/-!
# Two full replaces of one project

Two updates of one project each load it with its technologies and commit later, in any
order.  Each sends the columns and the links that differ from what it has loaded, so that
the second commit is merged into the first one.
-/

namespace ChTech.Content

open Foundation

open TechnologyRepository (Technologies)

section

variable [PyUnicode] [Collation] {Model Input Entity : Type}
  {repo : Repository Model Input Entity}

/-- The stored technologies of an owner. -/
def linkedSet (technologies : Technologies) (tagged : Tagged repo) (owner : UUID) : Set UUID :=
  { id | (owner, id) ∈ tagged.links.rows ∧ ∃ technology ∈ technologies.rows, technology.id = id }

/-- The stored ones among the technologies of a payload. -/
def wantedSet (technologies : Technologies) (technologyIds : List UUID) : Set UUID :=
  { id | id ∈ Tagged.getTechnologies technologies technologyIds }

omit [PyUnicode] [Collation] in
theorem relink_eq_some {links next : Links} {owner : UUID} {loaded assigned : List UUID}
    (distinct : assigned.Nodup) (linked : Tagged.relink links owner loaded assigned = some next) :
    (∀ id ∈ assigned, id ∉ loaded → (owner, id) ∉ links.rows) ∧
      next.rows = relinked links owner loaded assigned := by
  have absent : ∀ id ∈ assigned, id ∉ loaded → (owner, id) ∉ links.rows := by
    intro id wanted new present
    have added : id ∈ assigned.filter fun id => !loaded.contains id := by
      simp [wanted, new]
    have kept : (owner, id) ∈ (links.delete fun link =>
        link.1 == owner && loaded.contains link.2 && !assigned.contains link.2).rows := by
      apply Table.mem_delete.mpr
      simp [present, new]
    have failed := Tagged.insertLinks_of_mem added kept
    rw [Tagged.relink, failed] at linked
    cases linked
  have current : ∀ id ∈ assigned, (owner, id) ∈ links.rows → id ∈ loaded := by
    intro id wanted present
    by_contra new
    exact absent id wanted new present
  rcases relink_current distinct current with ⟨other, written, rows⟩
  cases written.symm.trans linked
  exact ⟨absent, rows⟩

/-- A commit that succeeds has merged its links into the stored ones. -/
theorem relinkLoaded_merges {technologies : Technologies} {tagged : Tagged repo} {owner : UUID}
    {loaded technologyIds : List UUID} {rows : repo.Rows} {next : Links}
    (stored : ∀ id ∈ loaded, ∃ technology ∈ technologies.rows, technology.id = id)
    (linked : Tagged.relinkLoaded technologies tagged.links owner loaded
      (Tagged.getTechnologies technologies technologyIds) = .ok next) :
    Mergeable { id | id ∈ loaded } (wantedSet technologies technologyIds)
        (linkedSet technologies tagged owner) ∧
      linkedSet technologies (⟨rows, next⟩ : Tagged repo) owner =
        mergeSet { id | id ∈ loaded } (wantedSet technologies technologyIds)
          (linkedSet technologies tagged owner) := by
  simp only [Tagged.relinkLoaded] at linked
  split at linked
  next => cases linked
  next removed =>
    split at linked
    next => cases linked
    next =>
      simp only [Tagged.flushLinks] at linked
      split at linked
      next links written =>
        cases linked
        rcases relink_eq_some (Tagged.nodup_getTechnologies technologies technologyIds) written with
          ⟨absent, rows⟩
        simp only [Bool.not_eq_true', Bool.not_eq_false, List.all_eq_true, List.mem_filter,
          List.contains_eq_mem, decide_eq_false_iff_not, decide_eq_true_eq] at removed
        constructor
        · constructor
          · intro id own unwanted
            exact ⟨removed id ⟨own, unwanted⟩, stored id own⟩
          · intro id wanted new present
            exact absent id wanted new present.1
        · ext id
          have assigned : id ∈ wantedSet technologies technologyIds →
              ∃ technology ∈ technologies.rows, technology.id = id :=
            fun wanted => (Tagged.mem_getTechnologies.mp wanted).2
          have member : (owner, id) ∈ next.rows ↔ ((owner, id) ∈ tagged.links.rows ∧
              (id ∈ loaded → id ∈ wantedSet technologies technologyIds)) ∨
                (id ∈ wantedSet technologies technologyIds ∧ id ∉ loaded) := by
            rw [rows]
            simp only [relinked, List.mem_append, List.mem_filter, List.mem_map, Prod.mk.injEq,
              true_and, exists_eq_right, beq_self_eq_true, Bool.true_and, Bool.not_eq_true',
              Bool.and_eq_false_iff, Bool.not_eq_false', decide_eq_true_eq, List.contains_eq_mem,
              decide_eq_false_iff_not, wantedSet, Set.mem_ofPred_eq]
            tauto
          rw [mem_mergeSet]
          simp only [linkedSet, Set.mem_ofPred_eq, member]
          constructor
          · rintro ⟨⟨present, kept⟩ | added, known⟩
            · exact .inl ⟨⟨present, known⟩, kept⟩
            · exact .inr added
          · rintro (⟨⟨present, known⟩, kept⟩ | added)
            · exact ⟨.inl ⟨present, kept⟩, known⟩
            · exact ⟨.inr added, assigned added.1⟩
      next => cases linked

end

namespace Replace

open ProjectRepository (repository columns Projects)

/-- The columns that a payload assigns. -/
inductive Column where
  | slug
  | title
  | shortDescription
  | fullDescription
  | repositoryUrl
  | liveDemoUrl
  | coverImage
  | status
  | visibility
  | featured
  | startedAt
  | finishedAt
  deriving DecidableEq, Repr

namespace Column

/-- Two rows hold the same value in a column. -/
def agree : Column → ProjectModel → ProjectModel → Prop
  | slug, left, right => left.slug = right.slug
  | title, left, right => left.title = right.title
  | shortDescription, left, right => left.shortDescription = right.shortDescription
  | fullDescription, left, right => left.fullDescription = right.fullDescription
  | repositoryUrl, left, right => left.repositoryUrl = right.repositoryUrl
  | liveDemoUrl, left, right => left.liveDemoUrl = right.liveDemoUrl
  | coverImage, left, right => left.coverImage = right.coverImage
  | status, left, right => left.status = right.status
  | visibility, left, right => left.visibility = right.visibility
  | featured, left, right => left.featured = right.featured
  | startedAt, left, right => left.startedAt = right.startedAt
  | finishedAt, left, right => left.finishedAt = right.finishedAt

theorem all_iff {holds : Column → Prop} : (∀ column, holds column) ↔
    holds slug ∧ holds title ∧ holds shortDescription ∧ holds fullDescription ∧
      holds repositoryUrl ∧ holds liveDemoUrl ∧ holds coverImage ∧ holds status ∧
      holds visibility ∧ holds featured ∧ holds startedAt ∧ holds finishedAt := by
  constructor
  · intro each
    exact ⟨each _, each _, each _, each _, each _, each _, each _, each _, each _, each _, each _,
      each _⟩
  · rintro ⟨h1, h2, h3, h4, h5, h6, h7, h8, h9, h10, h11, h12⟩ column
    cases column <;> assumption

end Column

/-- A row but for the time of its last update. -/
def timeless (row : ProjectModel) : ProjectModel := { row with updatedAt := 0 }

section

variable [PyUnicode] [Collation]

/-- Replacing a replaced row is replacing the first one. -/
theorem timeless_assign_of_timeless {left right : ProjectModel} (payload before : ProjectWrite)
    (same : timeless left = timeless (repository.assign before right)) :
    timeless (repository.assign payload left) = timeless (repository.assign payload right) := by
  simp only [timeless, repository, ProjectModel.mk.injEq] at same ⊢
  simp [same]

variable [Mysql] {loaded current : ProjectModel} {first second : ProjectWrite}

/-- The second payload survives the first one's commit. -/
theorem overlay_eq_second
    (written : timeless current = timeless (repository.assign first loaded)) :
    timeless (columns.overlay loaded (repository.assign second loaded) current) =
        timeless (repository.assign second loaded) ↔
      ∀ column : Column, column.agree loaded (repository.assign second loaded) →
        column.agree loaded (repository.assign first loaded) := by
  rw [Column.all_iff]
  simp only [timeless, repository, ProjectModel.mk.injEq] at written
  simp only [timeless, repository, columns, ProjectModel.mk.injEq, Column.agree,
    overlay_eq_assigned]
  simp [written]

/-- The first payload survives the second one's commit. -/
theorem overlay_eq_first
    (written : timeless current = timeless (repository.assign first loaded)) :
    timeless (columns.overlay loaded (repository.assign second loaded) current) =
        timeless (repository.assign first loaded) ↔
      ∀ column : Column, column.agree loaded (repository.assign second loaded) ∨
        column.agree (repository.assign first loaded) (repository.assign second loaded) := by
  rw [← written, Column.all_iff]
  simp only [timeless, repository, ProjectModel.mk.injEq] at written
  simp only [timeless, repository, columns, ProjectModel.mk.injEq, Column.agree,
    overlay_eq_current]
  simp [written]

/-- The row that an update leaves. -/
theorem updateLoaded_row {now : Instant} {payload : ProjectWrite} {changed : ProjectModel}
    {rows next : repository.Rows} (member : current ∈ rows.rows) (own : current.id = loaded.id)
    (updated : Repository.updateLoaded columns (fun _ => true) now loaded
      (repository.assign payload loaded) rows = .ok (changed, next)) :
    ∃ after ∈ next.rows, timeless after =
      timeless (columns.overlay loaded (repository.assign payload loaded) current) := by
  have found : (rows.find? fun row => repository.key row = repository.key loaded) =
      some current := by
    apply Table.find?_of_unique member (decide_eq_true own)
    intro other otherMem same
    exact repository.eq_of_key otherMem member ((of_decide_eq_true same).trans own.symm)
  simp only [Repository.updateLoaded, found] at updated
  split at updated
  next same =>
    cases updated
    refine ⟨current, member, ?_⟩
    rw [← eq_of_beq same]
    simp [timeless, columns]
  next =>
    rcases Result.map_eq_ok.mp updated with ⟨table, flushed, pair⟩
    cases pair
    have rows := Table.update?_eq_some (Repository.flush_eq_ok flushed).2
    refine ⟨columns.overlay loaded (repository.touch now (repository.assign payload loaded))
      current, ?_, ?_⟩
    · rw [rows]
      exact List.mem_map.mpr ⟨current, member, if_pos own⟩
    · rfl

/-! ## The machine -/

/-- Where an update stands; `seen` are the commits before it loaded the project. -/
inductive Pc where
  | called
  | loaded (row : Loaded ProjectModel) (seen : List Bool)
  | committed (row : Loaded ProjectModel) (seen : List Bool)
  | missing
  | raised (error : Raised)
  deriving DecidableEq

/-- Two callers, and the order in which they have committed. -/
structure State where
  projects : Projects
  calls : Bool → Pc
  commits : List Bool

def State.init (projects : Projects) : State := ⟨projects, fun _ => .called, []⟩

inductive Label where
  | load (caller : Bool) (ties : Ties)
  | commit (caller : Bool) (now : Instant)

/-- Two updates of the project with the given key, each with its payload. -/
def step (technologies : Technologies) (id : UUID) (payload : Bool → ProjectWrite) :
    Machine State Label
  | state, .load caller ties =>
      match state.calls caller with
      | .called =>
          let pc := match Loaded.byId state.projects technologies ties id with
            | .error error => .raised error
            | .ok none => .missing
            | .ok (some row) => .loaded row state.commits
          some { state with calls := Function.update state.calls caller pc }
      | _ => none
  | state, .commit caller now =>
      match state.calls caller with
      | .loaded row seen =>
          match state.projects.commitLoaded columns technologies (payload caller).technologyIds
              (.of technologies (payload caller).technologyIds) now row (payload caller) with
          | .error error =>
              some { state with calls := Function.update state.calls caller (.raised error) }
          | .ok (_, projects) =>
              some {
                projects
                calls := Function.update state.calls caller (.committed row seen)
                commits := state.commits ++ [caller] }
      | _ => none

/-- What an update loads. -/
def Reads (technologies : Technologies) (id : UUID) (projects : Projects)
    (row : Loaded ProjectModel) : Prop :=
  ∃ ties, Loaded.byId projects technologies ties id = .ok (some row)

/-- What an update writes. -/
def Writes (technologies : Technologies) (payload : ProjectWrite) (row : Loaded ProjectModel)
    (before after : Projects) : Prop :=
  ∃ now changed, before.commitLoaded columns technologies payload.technologyIds
    (.of technologies payload.technologyIds) now row payload = .ok (changed, after)

variable {technologies : Technologies} {id : UUID}

omit [Mysql] in
theorem Reads.spec {projects : Projects} {row : Loaded ProjectModel}
    (reads : Reads technologies id projects row) :
    row.model ∈ projects.rows.rows ∧ row.model.id = id ∧
      { other | other ∈ row.technologyIds } = linkedSet technologies projects id := by
  rcases reads with ⟨ties, loaded⟩
  rcases Result.map_eq_ok.mp loaded with ⟨found, selected, mapped⟩
  rcases Option.map_eq_some_iff.mp mapped with ⟨model, rfl, rfl⟩
  have own := Repository.key_of_select selected
  refine ⟨Repository.mem_of_select selected, own, ?_⟩
  ext other
  exact own ▸ mem_loadedIds

theorem Writes.spec {payload : ProjectWrite} {row : Loaded ProjectModel} {before after : Projects}
    {earlier : Projects} (writes : Writes technologies payload row before after)
    (reads : Reads technologies id earlier row) {current : ProjectModel}
    (member : current ∈ before.rows.rows) (own : current.id = id) :
    (∃ model ∈ after.rows.rows, timeless model =
      timeless (columns.overlay row.model (repository.assign payload row.model) current)) ∧
    Mergeable (linkedSet technologies earlier id) (wantedSet technologies payload.technologyIds)
      (linkedSet technologies before id) ∧
    linkedSet technologies after id =
      mergeSet (linkedSet technologies earlier id) (wantedSet technologies payload.technologyIds)
        (linkedSet technologies before id) := by
  rcases writes with ⟨now, changed, committed⟩
  rcases reads.spec with ⟨_, key, links⟩
  rcases Result.bind_eq_ok.mp committed with ⟨⟨model, rows⟩, flushed, committed⟩
  rcases Result.bind_eq_ok.mp committed with ⟨next, linked, pair⟩
  cases pair
  have stored : ∀ other ∈ row.technologyIds,
      ∃ technology ∈ technologies.rows, technology.id = other := fun other loaded =>
    ((Set.ext_iff.mp links other).mp loaded).2
  have linked : Tagged.relinkLoaded technologies before.links id row.technologyIds
      (Tagged.getTechnologies technologies payload.technologyIds) = .ok next :=
    key ▸ Repository.reported_eq_ok linked
  rw [← links]
  exact ⟨updateLoaded_row member (own.trans key.symm) (Tagged.autoflushed_eq_ok flushed),
    relinkLoaded_merges stored linked⟩

/-! ## Runs -/

variable {payload : Bool → ProjectWrite} {start : Projects}

/-- How far the two updates have come: what each of them has loaded, and what the commits
have written, in their order. -/
inductive Stage (technologies : Technologies) (id : UUID) (payload : Bool → ProjectWrite)
    (start : Projects) : State → Prop where
  | none {state : State} :
      state.commits = [] → state.projects = start →
      (∀ caller row seen, state.calls caller = .loaded row seen →
        seen = [] ∧ Reads technologies id start row) →
      (∀ caller row seen, state.calls caller ≠ .committed row seen) →
      Stage technologies id payload start state
  | one {state : State} (first : Bool) (row : Loaded ProjectModel) :
      state.commits = [first] → Reads technologies id start row →
      Writes technologies (payload first) row start state.projects →
      state.calls first = .committed row [] →
      (∀ row seen, state.calls (!first) = .loaded row seen →
        seen = [] ∧ Reads technologies id start row ∨
          seen = [first] ∧ Reads technologies id state.projects row) →
      (∀ row seen, state.calls (!first) ≠ .committed row seen) →
      Stage technologies id payload start state
  | two {state : State} (first : Bool) (row row' : Loaded ProjectModel) (seen : List Bool)
      (between : Projects) :
      state.commits = [first, !first] → Reads technologies id start row →
      Writes technologies (payload first) row start between →
      state.calls first = .committed row [] → state.calls (!first) = .committed row' seen →
      (seen = [] ∧ Reads technologies id start row' ∨
        seen = [first] ∧ Reads technologies id between row') →
      Writes technologies (payload !first) row' between state.projects →
      Stage technologies id payload start state

theorem step_load {state next : State} {caller : Bool} {ties : Ties}
    (stepped : step technologies id payload state (.load caller ties) = some next) :
    ∃ pc, next = { state with calls := Function.update state.calls caller pc } ∧
      state.calls caller = .called ∧ (∀ row seen, pc ≠ .committed row seen) ∧
      ∀ row seen, pc = .loaded row seen →
        seen = state.commits ∧ Reads technologies id state.projects row := by
  simp only [step] at stepped
  split at stepped
  next called =>
    cases stepped
    refine ⟨_, rfl, called, ?_, ?_⟩
    · intro row seen
      split <;> simp
    · intro row seen equal
      split at equal
      next => cases equal
      next => cases equal
      next other found =>
        cases equal
        exact ⟨rfl, ties, found⟩
  next => cases stepped

theorem step_commit {state next : State} {caller : Bool} {now : Instant}
    (stepped : step technologies id payload state (.commit caller now) = some next) :
    ∃ row seen, state.calls caller = .loaded row seen ∧
      ((∃ error, next = { state with
          calls := Function.update state.calls caller (.raised error) }) ∨
        ∃ projects, Writes technologies (payload caller) row state.projects projects ∧
          next = {
            projects
            calls := Function.update state.calls caller (.committed row seen)
            commits := state.commits ++ [caller] }) := by
  simp only [step] at stepped
  split at stepped
  next row seen loaded =>
    refine ⟨row, seen, loaded, ?_⟩
    split at stepped
    next error failed =>
      cases stepped
      exact .inl ⟨error, rfl⟩
    next changed projects committed =>
      cases stepped
      exact .inr ⟨projects, ⟨now, changed, committed⟩, rfl⟩
  next => cases stepped

omit [PyUnicode] [Collation] [Mysql] in
theorem eq_or_eq_not (caller first : Bool) : caller = first ∨ caller = !first := by
  cases caller <;> cases first <;> simp

/-- A call that has not committed moves on without a commit. -/
theorem Stage.move {state : State} {caller : Bool} {pc : Pc}
    (stage : Stage technologies id payload start state)
    (open_ : ∀ row seen, state.calls caller ≠ .committed row seen)
    (uncommitted : ∀ row seen, pc ≠ .committed row seen)
    (reads : ∀ row seen, pc = .loaded row seen →
      seen = state.commits ∧ Reads technologies id state.projects row) :
    Stage technologies id payload start
      { state with calls := Function.update state.calls caller pc } := by
  cases stage with
  | none commits projects loaded fresh =>
      refine .none commits projects ?_ ?_
      · intro other row seen equal
        change Function.update state.calls caller pc other = _ at equal
        by_cases same : other = caller
        · subst same
          rw [Function.update_self] at equal
          have read := reads row seen equal
          rw [commits, projects] at read
          exact read
        · rw [Function.update_of_ne same] at equal
          exact loaded other row seen equal
      · intro other row seen equal
        change Function.update state.calls caller pc other = _ at equal
        by_cases same : other = caller
        · subst same
          rw [Function.update_self] at equal
          exact uncommitted row seen equal
        · rw [Function.update_of_ne same] at equal
          exact fresh other row seen equal
  | one first row commits read writes committed loaded fresh =>
      have other : caller = !first := by
        rcases eq_or_eq_not caller first with same | other
        · subst same
          exact absurd committed (open_ row [])
        · exact other
      subst other
      refine .one first row commits read writes ?_ ?_ ?_
      · exact (Function.update_of_ne (by simp) _ _).trans committed
      · intro row' seen equal
        change Function.update state.calls (!first) pc (!first) = _ at equal
        rw [Function.update_self] at equal
        rcases reads row' seen equal with ⟨same, read⟩
        exact .inr ⟨same.trans commits, read⟩
      · intro row' seen equal
        change Function.update state.calls (!first) pc (!first) = _ at equal
        rw [Function.update_self] at equal
        exact uncommitted row' seen equal
  | two first row row' seen between commits read writes committed committed' =>
      rcases eq_or_eq_not caller first with same | same
      · subst same
        exact absurd committed (open_ row [])
      · subst same
        exact absurd committed' (open_ row' seen)

/-- A commit is the first one, or it follows the other one. -/
theorem Stage.commit {state : State} {caller : Bool} {row : Loaded ProjectModel}
    {seen : List Bool} {projects : Projects}
    (stage : Stage technologies id payload start state)
    (loaded : state.calls caller = .loaded row seen)
    (writes : Writes technologies (payload caller) row state.projects projects) :
    Stage technologies id payload start {
      projects
      calls := Function.update state.calls caller (.committed row seen)
      commits := state.commits ++ [caller] } := by
  cases stage with
  | none commits stored reads fresh =>
      rcases reads caller row seen loaded with ⟨rfl, read⟩
      rw [stored] at writes
      apply Stage.one caller row
      · rw [commits]
        rfl
      · exact read
      · exact writes
      · exact Function.update_self ..
      · intro row' seen equal
        exact .inl (reads _ row' seen ((Function.update_of_ne (by simp) _ _).symm.trans equal))
      · intro row' seen equal
        exact fresh _ row' seen ((Function.update_of_ne (by simp) _ _).symm.trans equal)
  | one first row' commits read written committed reads fresh =>
      have other : caller = !first := by
        rcases eq_or_eq_not caller first with same | other
        · rw [same, committed] at loaded
          cases loaded
        · exact other
      subst other
      apply Stage.two first row' row seen state.projects
      · rw [commits]
        rfl
      · exact read
      · exact written
      · exact (Function.update_of_ne (by simp) _ _).trans committed
      · exact Function.update_self ..
      · exact reads row seen loaded
      · exact writes
  | two first row' other seen' between commits read written committed committed' =>
      rcases eq_or_eq_not caller first with same | same
      · rw [same, committed] at loaded
        cases loaded
      · rw [same, committed'] at loaded
        cases loaded

theorem step_stage {state next : State} {label : Label}
    (stage : Stage technologies id payload start state)
    (stepped : step technologies id payload state label = some next) :
    Stage technologies id payload start next := by
  cases label with
  | load caller ties =>
      rcases step_load stepped with ⟨pc, rfl, called, uncommitted, reads⟩
      apply stage.move _ uncommitted reads
      intro row seen committed
      rw [called] at committed
      cases committed
  | commit caller now =>
      rcases step_commit stepped with ⟨row, seen, loaded, ⟨error, rfl⟩ | ⟨projects, writes, rfl⟩⟩
      · apply stage.move
        · intro row' seen' committed
          rw [loaded] at committed
          cases committed
        · intro row' seen' equal
          cases equal
        · intro row' seen' equal
          cases equal
      · exact stage.commit loaded writes

theorem reaches_stage {last : State}
    (run : Machine.Reaches (step technologies id payload) Machine.Any (State.init start) last) :
    Stage technologies id payload start last := by
  apply run.invariant (Stage technologies id payload start)
  · intro state label next stage _ stepped
    exact step_stage stage stepped
  · refine .none rfl rfl ?_ ?_
    · intro caller row seen equal
      cases equal
    · intro caller row seen equal
      cases equal

/-- The project is what a payload alone makes of it, with the technologies of the payload. -/
def Produced (technologies : Technologies) (id : UUID) (payload : ProjectWrite)
    (before after : Projects) : Prop :=
  (∃ model ∈ before.rows.rows, model.id = id ∧ ∃ model' ∈ after.rows.rows,
    timeless model' = timeless (repository.assign payload model)) ∧
    linkedSet technologies after id = wantedSet technologies payload.technologyIds

/-- One of two overlapping payloads keeps the loaded technologies, and the other one is not
in its way in any column. -/
def Compatible (technologies : Technologies) (row : Loaded ProjectModel)
    (first second : ProjectWrite) : Prop :=
  ({ other | other ∈ row.technologyIds } = wantedSet technologies first.technologyIds ∧
    ∀ column : Column, column.agree row.model (repository.assign second row.model) →
      column.agree row.model (repository.assign first row.model)) ∨
  ({ other | other ∈ row.technologyIds } = wantedSet technologies second.technologyIds ∧
    ∀ column : Column, column.agree row.model (repository.assign second row.model) ∨
      column.agree (repository.assign first row.model) (repository.assign second row.model))

/-- A commit over the row as it was loaded. -/
theorem Writes.produced {payload : ProjectWrite} {row : Loaded ProjectModel}
    {before after : Projects} (writes : Writes technologies payload row before after)
    (reads : Reads technologies id before row) :
    (∃ model ∈ after.rows.rows,
      timeless model = timeless (repository.assign payload row.model)) ∧
      linkedSet technologies after id = wantedSet technologies payload.technologyIds := by
  rcases reads.spec with ⟨member, own, _⟩
  rcases writes.spec reads member own with ⟨⟨model, modelMem, written⟩, _, links⟩
  rw [mergeSet_loaded] at links
  refine ⟨⟨model, modelMem, written.trans ?_⟩, links⟩
  simp [timeless, columns, repository]

omit [Mysql] in
/-- The rows have one key each. -/
theorem produced_iff {payload : ProjectWrite} {before after : Projects}
    {model model' : ProjectModel} (member : model ∈ before.rows.rows) (own : model.id = id)
    (member' : model' ∈ after.rows.rows) (own' : model'.id = id) :
    Produced technologies id payload before after ↔
      timeless model' = timeless (repository.assign payload model) ∧
        linkedSet technologies after id = wantedSet technologies payload.technologyIds := by
  constructor
  · rintro ⟨⟨other, otherMem, otherOwn, other', otherMem', written⟩, links⟩
    have same : other = model := repository.eq_of_key otherMem member (otherOwn.trans own.symm)
    have key : other'.id = other.id := by
      have ids := congrArg ProjectModel.id written
      exact ids
    have same' : other' = model' :=
      repository.eq_of_key otherMem' member' (key.trans (otherOwn.trans own'.symm))
    rw [← same, ← same']
    exact ⟨written, links⟩
  · rintro ⟨written, links⟩
    exact ⟨⟨model, member, own, model', member', written⟩, links⟩

/-- The second of two overlapping commits. -/
theorem overlapping_produced {first second : ProjectWrite} {row row' : Loaded ProjectModel}
    {start between last : Projects} (reads : Reads technologies id start row)
    (reads' : Reads technologies id start row')
    (written : Writes technologies first row start between)
    (written' : Writes technologies second row' between last) :
    Produced technologies id first start last ∨ Produced technologies id second start last ↔
      Compatible technologies row' first second := by
  rcases reads.spec with ⟨member, own, _⟩
  rcases reads'.spec with ⟨member', own', loaded⟩
  have same : row.model = row'.model := repository.eq_of_key member member' (own.trans own'.symm)
  rcases written.produced reads with ⟨⟨model, modelMem, columns⟩, links⟩
  rw [same] at columns
  have key : model.id = id := (congrArg ProjectModel.id columns).trans own'
  rcases written'.spec reads' modelMem key with ⟨⟨final, finalMem, final_eq⟩, mergeable, merged⟩
  have finalOwn : final.id = id := (congrArg ProjectModel.id final_eq).trans key
  rw [links] at mergeable merged
  have keepsFirst : timeless final = timeless (repository.assign first row'.model) ↔ _ :=
    final_eq ▸ overlay_eq_first columns
  have keepsSecond : timeless final = timeless (repository.assign second row'.model) ↔ _ :=
    final_eq ▸ overlay_eq_second columns
  rw [produced_iff member' own' finalMem finalOwn, produced_iff member' own' finalMem finalOwn,
    merged, mergeSet_eq_current mergeable, mergeSet_eq_assigned mergeable, keepsFirst, keepsSecond,
    Compatible, loaded]
  constructor
  · rintro (⟨columns, links⟩ | ⟨columns, links⟩)
    · exact .inr ⟨links.symm, columns⟩
    · exact .inl ⟨links.symm, columns⟩
  · rintro (⟨links, columns⟩ | ⟨links, columns⟩)
    · exact .inr ⟨columns, links.symm⟩
    · exact .inl ⟨columns, links.symm⟩

/-- The second of two commits one after the other. -/
theorem sequential_produced {first second : ProjectWrite} {row row' : Loaded ProjectModel}
    {start between last : Projects} (reads : Reads technologies id start row)
    (reads' : Reads technologies id between row')
    (written : Writes technologies first row start between)
    (written' : Writes technologies second row' between last) :
    Produced technologies id second start last := by
  rcases reads.spec with ⟨member, own, _⟩
  rcases reads'.spec with ⟨member', own', _⟩
  rcases written.produced reads with ⟨⟨model, modelMem, columns⟩, _⟩
  have key : model.id = id := (congrArg ProjectModel.id columns).trans own
  have same : row'.model = model := repository.eq_of_key member' modelMem (own'.trans key.symm)
  rcases written'.produced reads' with ⟨⟨final, finalMem, final_eq⟩, links⟩
  rw [same] at final_eq
  exact ⟨⟨row.model, member, own, final, finalMem,
    final_eq.trans (timeless_assign_of_timeless second first columns)⟩, links⟩

/-- When both updates have committed, the project is what one of the payloads makes of it
exactly when the second one has loaded it after the commit of the first one, or when one of
them keeps the technologies and the other one is not in its way in any column. -/
theorem replaces_serialisable {last : State} {rows : Bool → Loaded ProjectModel}
    {seens : Bool → List Bool}
    (run : Machine.Reaches (step technologies id payload) Machine.Any (State.init start) last)
    (committed : ∀ caller, last.calls caller = .committed (rows caller) (seens caller)) :
    ∃ first, last.commits = [first, !first] ∧
      ((∃ caller, Produced technologies id (payload caller) start last.projects) ↔
        seens (!first) = [first] ∨
          Compatible technologies (rows !first) (payload first) (payload !first)) := by
  cases reaches_stage run with
  | none _ _ _ fresh => exact absurd (committed true) (fresh true _ _)
  | one first _ _ _ _ _ _ fresh => exact absurd (committed !first) (fresh _ _)
  | two first row row' seen between commits reads written _ committed' follows written' =>
      rw [committed] at committed'
      cases committed'
      have either : (∃ caller, Produced technologies id (payload caller) start last.projects) ↔
          Produced technologies id (payload first) start last.projects ∨
            Produced technologies id (payload !first) start last.projects := by
        constructor
        · rintro ⟨caller, produced⟩
          rcases eq_or_eq_not caller first with rfl | rfl
          · exact .inl produced
          · exact .inr produced
        · rintro (produced | produced)
          · exact ⟨first, produced⟩
          · exact ⟨!first, produced⟩
      refine ⟨first, commits, either.trans ?_⟩
      rcases follows with ⟨none, reads'⟩ | ⟨one, reads'⟩
      · rw [overlapping_produced reads reads' written written', none]
        simp
      · exact iff_of_true (.inr (sequential_produced reads reads' written written')) (.inl one)

end

namespace Sample

open Content.Sample

open ProjectRepository.Sample (technologies)

attribute [local instance] unicode collation mysql

/-- A project in Python. -/
def start : Projects where
  rows := .singleton showcase
  links := .singleton (1, 10)

/-- One payload changes the title, the other one adds a technology. -/
def payload : Bool → ProjectWrite
  | false => { replaced "showcase" [10] with title := "CH-TECH" }
  | true => replaced "showcase" [10, 11]

def loaded : Loaded ProjectModel := ⟨showcase, [10]⟩

def overlapping : List Label := [
  .load false fun _ => 0, .load true fun _ => 0, .commit false 1, .commit true 2]

theorem mixed_replaces :
    ¬ ∀ (last : State) (rows : Bool → Loaded ProjectModel) (seens : Bool → List Bool),
      Machine.Reaches (step technologies 1 payload) Machine.Any (State.init start) last →
      (∀ caller, last.calls caller = .committed (rows caller) (seens caller)) →
      ∃ caller, Produced technologies 1 (payload caller) start last.projects := by
  intro claim
  obtain ⟨last, executed⟩ := Option.isSome_iff_exists.mp
    (by decide : (Machine.exec (step technologies 1 payload) (State.init start) overlapping).isSome)
  have committed : ∀ caller, last.calls caller = .committed loaded [] := by
    intro caller
    apply Machine.read_of_map (fun state => state.calls caller) executed
    cases caller <;> decide
  have titles : last.projects.rows.rows.map ProjectModel.title = ["CH-TECH"] :=
    Machine.read_of_map (fun state => state.projects.rows.rows.map ProjectModel.title) executed
      (by decide)
  have links : last.projects.links.rows = [(1, 10), (1, 11)] :=
    Machine.read_of_map (fun state => state.projects.links.rows) executed (by decide)
  obtain ⟨caller, ⟨model, member, _, model', member', written⟩, linked⟩ :=
    claim last (fun _ => loaded) (fun _ => [])
      ⟨_, Machine.Runs.of_exec (fun _ _ _ => trivial) executed⟩ committed
  cases caller with
  | false =>
      have added : 11 ∈ linkedSet technologies last.projects 1 := by
        rw [linkedSet, links]
        exact ⟨by decide, by decide⟩
      rw [linked] at added
      exact absurd added (by decide : 11 ∉ Tagged.getTechnologies technologies [10])
  | true =>
      have title : model'.title = "Showcase" := by
        have same := congrArg ProjectModel.title written
        exact same
      have changed := List.mem_map_of_mem (f := ProjectModel.title) member'
      rw [titles, title] at changed
      exact absurd changed (by decide)

/-- The second update loads what the first one has committed. -/
def sequential : List Label := [
  .load false fun _ => 0, .commit false 1, .load true fun _ => 0, .commit true 2]

def loads : Bool → Loaded ProjectModel
  | false => loaded
  | true => ⟨{ showcase with title := "CH-TECH", updatedAt := 1 }, [10]⟩

def seens : Bool → List Bool
  | false => []
  | true => [false]

theorem replaces_serialisable_sequential :
    ∃ last, Machine.exec (step technologies 1 payload) (State.init start) sequential = some last ∧
      ∃ first, last.commits = [first, !first] ∧
        ((∃ caller, Produced technologies 1 (payload caller) start last.projects) ↔
          seens (!first) = [first] ∨
            Compatible technologies (loads !first) (payload first) (payload !first)) := by
  obtain ⟨last, executed⟩ := Option.isSome_iff_exists.mp
    (by decide : (Machine.exec (step technologies 1 payload) (State.init start) sequential).isSome)
  have committed : ∀ caller, last.calls caller = .committed (loads caller) (seens caller) := by
    intro caller
    apply Machine.read_of_map (fun state => state.calls caller) executed
    cases caller <;> decide
  exact ⟨last, executed,
    replaces_serialisable ⟨_, Machine.Runs.of_exec (fun _ _ _ => trivial) executed⟩ committed⟩

end Sample

end Replace

end ChTech.Content
