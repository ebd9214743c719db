import ChTech.Content.ProjectList
import ChTech.Content.SlugUpdates

/-!
# Technology names

`CreateTechnology` and `UpdateTechnology`, running alone.  The repository of technologies is
the one that commits without an `except`, so a name that another technology holds comes back
as the driver's error.
-/

namespace ChTech.Content

open Foundation

section

variable {Model Input Entity : Type} {repo : Repository Model Input Entity} [Mysql]
  {referenced : Model → Bool} {data : Input}

/-- A new row is refused when it clashes with a stored one, and stored otherwise. -/
theorem Repository.commitNew_eq {defaults : Defaults} (referenced : Model → Bool)
    (table : repo.Rows)
    (storable : (repo.cells (repo.construct defaults data)).all Cell.storable = true)
    (checks : repo.checks (repo.construct defaults data) = true)
    (references : referenced (repo.construct defaults data) = true) :
    ((∃ row ∈ table.rows, repo.clash row (repo.stored (repo.construct defaults data)) = true) ∧
      repo.commitNew referenced defaults data table = .error repo.conflict) ∨
    (∀ row ∈ table.rows, repo.clash row (repo.stored (repo.construct defaults data)) = false) ∧
      ∃ next : repo.Rows,
        next.rows = table.rows ++ [repo.stored (repo.construct defaults data)] ∧
        repo.commitNew referenced defaults data table =
          .ok (repo.construct defaults data, next) := by
  by_cases free : ∀ row ∈ table.rows,
      repo.clash row (repo.stored (repo.construct defaults data)) = false
  · right
    rcases inserted : table.insert? (repo.stored (repo.construct defaults data)) with _ | next
    · rw [Table.insert?, dif_pos free] at inserted
      cases inserted
    · refine ⟨free, next, (Table.insert?_eq_some.mp inserted).2, ?_⟩
      simp only [commitNew, insertRow, inserted, flush_ok storable checks references]
      rfl
  · left
    have refused : table.insert? (repo.stored (repo.construct defaults data)) = none := dif_neg free
    simp only [not_forall, Bool.not_eq_false] at free
    rcases free with ⟨row, member, clash⟩
    refine ⟨⟨row, member, clash⟩, ?_⟩
    simp only [commitNew, insertRow, refused, flush, storable, checks, Bool.not_true,
      Bool.false_eq_true, if_false]
    rfl

/-- A changed row is refused when it clashes with another one, and stored otherwise. -/
theorem Repository.commitChange_changed {now : Instant} {model : Model}
    (referenced : Model → Bool) (table : repo.Rows)
    (changed : repo.same model (repo.assign data model) = false)
    (storable : (repo.cells (repo.touch now (repo.assign data model))).all Cell.storable = true)
    (checks : repo.checks (repo.touch now (repo.assign data model)) = true)
    (references : referenced (repo.touch now (repo.assign data model)) = true) :
    repo.commitChange referenced now model data table =
      match table.update? fun row => if repo.key row = repo.key model then
        repo.stored (repo.touch now (repo.assign data model)) else row with
      | some next => .ok (repo.touch now (repo.assign data model), next)
      | none => .error repo.conflict := by
  simp only [commitChange, updateRow, changed, flush, storable, checks, references,
    Bool.not_true, Bool.false_eq_true, if_false, if_true]
  cases table.update? fun row => if repo.key row = repo.key model then
    repo.stored (repo.touch now (repo.assign data model)) else row with
  | none => rfl
  | some next => rfl

theorem Repository.save_post {defaults : Defaults} {table : repo.Rows} :
    repo.save referenced (.post defaults) data table =
      match repo.commitNew referenced defaults data table with
      | .error raised => (.error raised, table)
      | .ok (model, next) => ((repo.toEntity model).map some, next) := by
  unfold Repository.save
  change Program.bind _ _ _ = _
  simp only [Program.bind, Repository.commit, Program.transact]
  cases repo.commitNew referenced defaults data table with
  | error raised => rfl
  | ok pair => rfl

theorem Repository.save_put {table : repo.Rows} {model : Model} {now : Instant}
    (member : model ∈ table.rows) :
    repo.save referenced (.put (repo.key model) now) data table =
      match repo.commitChange referenced now model data table with
      | .error raised => (.error raised, table)
      | .ok (changed, next) => ((repo.toEntity changed).map some, next) := by
  unfold Repository.save
  change Program.bind _ _ _ = _
  simp only [Program.bind, Repository.commit, Program.transact, Repository.select_of_mem member,
    bind, Except.bind]
  cases repo.commitChange referenced now model data table with
  | error raised => rfl
  | ok pair => rfl

theorem Repository.save_put_absent {table : repo.Rows} {id : UUID} {now : Instant}
    (absent : ∀ row ∈ table.rows, repo.key row ≠ id) :
    repo.save referenced (.put id now) data table = (.ok none, table) := by
  have missing : (table.find? fun row => repo.key row = id) = none := by
    rw [Table.find?_eq_none]
    intro row member
    exact decide_eq_false (absent row member)
  unfold Repository.save
  change Program.bind _ _ _ = _
  simp only [Program.bind, Repository.commit, Program.transact, Repository.select_eq, missing]
  rfl

end

section

variable [PyUnicode] [Collation] [Mysql]

open TechnologyRepository (Technologies)

/-- A repository call on the technologies; it knows no other table. -/
def Db.onTechnologies {α : Type} (program : Program Technologies Raised α) :
    Program Db Raised α := fun db =>
  ((program db.technologies).1, { db with technologies := (program db.technologies).2 })

/-- `CreateTechnology.execute`. -/
def CreateTechnology.execute (defaults : Defaults) (data : TechnologyWrite) :
    Program Technologies Raised (Option Technology) :=
  TechnologyRepository.repository.save (fun _ => true) (.post defaults) data

/-- `UpdateTechnology.execute`. -/
def UpdateTechnology.execute (technologyId : UUID) (now : Instant) (data : TechnologyWrite) :
    Program Technologies Raised (Option Technology) :=
  orNotFound "Technology not found"
    (TechnologyRepository.repository.save (fun _ => true) (.put technologyId now) data)

/-! ## The rule -/

namespace TechnologyRepository

/-- A technology other than the one with the given id has the name. -/
def holdsName (technologies : Technologies) (id : UUID) (name : String) : Bool :=
  technologies.rows.any fun row => row.id != id && Collation.equal row.name name

/-- Some technology has the name. -/
def anyName (technologies : Technologies) (name : String) : Bool :=
  technologies.rows.any fun row => Collation.equal row.name name

def knowsId (technologies : Technologies) (id : UUID) : Bool :=
  technologies.rows.any fun row => row.id == id

/-- No two technologies have names that the database finds equal. -/
def UniqueNames (technologies : Technologies) : Prop :=
  technologies.rows.Pairwise fun first second => Collation.equal first.name second.name = false

end TechnologyRepository

open TechnologyRepository (holdsName anyName knowsId UniqueNames)

/-- How a request may end: it succeeds and names are unique, or it is refused for a name
that is held or an id that is not known, and has changed nothing. -/
structure NamesReported {α : Type} (held unknown : Bool) (before : Db)
    (ended : Except Raised α × Db) : Prop where
  unique : UniqueNames ended.2.technologies
  refused : ∀ raised, ended.1 = .error raised → ended.2 = before ∧
    ((∃ message, raised = .app (.conflictError message)) ∧ held = true ∨
      raised = .app (.resourceNotFoundError "Technology not found") ∧ unknown = true)

omit [Mysql] in
/-- The constraint sees to that. -/
theorem TechnologyRepository.uniqueNames (technologies : Technologies) :
    UniqueNames technologies := by
  refine technologies.distinct.imp ?_
  intro first second apart
  exact (Bool.or_eq_false_iff.mp apart).2

omit [Mysql] in
theorem NamesReported.of_isOk {α : Type} {held unknown : Bool} {before next : Db}
    {result : Except Raised α} (returned : result.isOk = true) :
    NamesReported held unknown before (result, next) where
  unique := TechnologyRepository.uniqueNames next.technologies
  refused raised ended := by
    change result = .error raised at ended
    rw [ended] at returned
    cases returned

omit [Mysql] in
theorem NamesReported.not_integrityError {α : Type} {held unknown : Bool} {before : Db}
    {ended : Except Raised α × Db} (raised : ended.1 = .error .integrityError) :
    ¬NamesReported held unknown before ended := by
  intro reported
  rcases (reported.refused _ raised).2 with ⟨⟨message, conflict⟩, _⟩ | ⟨missing, _⟩
  · cases conflict
  · cases missing

namespace TechnologyRepository

variable {payload : TechnologyWrite}

/-- A create raises the driver's error exactly when the generated id or the name is taken. -/
theorem create_eq (accepted : payload.accepted = true) (defaults : Defaults)
    (technologies : Technologies) :
    ((knowsId technologies defaults.id = true ∨ anyName technologies payload.name = true) ∧
        CreateTechnology.execute defaults payload technologies =
          (.error .integrityError, technologies)) ∨
      (knowsId technologies defaults.id = false ∧ anyName technologies payload.name = false) ∧
        (CreateTechnology.execute defaults payload technologies).1.isOk = true := by
  have storable := (fits accepted).construct defaults
  have converts := (verdict accepted).construct defaults
  rw [CreateTechnology.execute, Repository.save_post]
  rcases Repository.commitNew_eq (fun _ => true) technologies storable rfl rfl with
    ⟨⟨row, member, clash⟩, refused⟩ | ⟨free, next, _, committed⟩
  · left
    rw [refused]
    refine ⟨?_, rfl⟩
    rcases Bool.or_eq_true_iff.mp clash with sameId | sameName
    · exact .inl (List.any_eq_true.mpr ⟨row, member, sameId⟩)
    · exact .inr (List.any_eq_true.mpr ⟨row, member, sameName⟩)
  · right
    rw [committed]
    refine ⟨⟨?_, ?_⟩, ?_⟩
    · rw [knowsId, List.any_eq_false]
      intro row member
      rw [Bool.not_eq_true]
      exact (Bool.or_eq_false_iff.mp (free row member)).1
    · rw [anyName, List.any_eq_false]
      intro row member
      rw [Bool.not_eq_true]
      exact (Bool.or_eq_false_iff.mp (free row member)).2
    · change ((repository.toEntity (repository.construct defaults payload)).map some).isOk = true
      rw [Result.isOk_map]
      exact converts

/-- The repository as the others are written: an `IntegrityError` is a conflict. -/
def reporting : Repository TechnologyModel TechnologyWrite Technology :=
  { repository with
    conflict := .app (.conflictError "A technology with this name already exists") }

def slugged : Slugged reporting where
  slug := TechnologyModel.name
  wanted := TechnologyWrite.name
  clash _ _ := rfl
  constructSlug _ _ := rfl
  assignSlug _ _ := rfl
  touchSlug _ _ := rfl
  storedSlug _ := rfl
  sameSlug _ _ same := congrArg TechnologyModel.name (eq_of_beq same)
  conflict := ⟨_, rfl⟩

/-- An update of a stored technology is written exactly when no other one has the name. -/
theorem commitChange_eq (accepted : payload.accepted = true) (now : Instant)
    {technologies : Technologies} {model : TechnologyModel} (member : model ∈ technologies.rows) :
    (holdsName technologies model.id payload.name = true ∧
        repository.commitChange (fun _ => true) now model payload technologies =
          .error .integrityError) ∨
      holdsName technologies model.id payload.name = false ∧ ∃ changed next,
        repository.commitChange (fun _ => true) now model payload technologies =
          .ok (changed, next) ∧ changed.toEntity.isOk = true := by
  have converts := (verdict accepted).assign model
  cases same : repository.same model (repository.assign payload model) with
  | true =>
      have free : slugged.taken technologies model.id payload.name = false :=
        taken_of_same member same
      have kept : repository.updateRow (fun _ => true) now model
          (repository.assign payload model) technologies =
            .ok (repository.assign payload model, technologies) := updateRow_same same technologies
      right
      refine ⟨free, repository.assign payload model, technologies, ?_, converts⟩
      rw [Repository.commitChange, kept]
      rfl
  | false =>
      have storable : (repository.cells (repository.touch now
          (repository.assign payload model))).all Cell.storable = true :=
        (fits accepted).assign model
      rw [Repository.commitChange_changed (fun _ => true) technologies same storable rfl rfl]
      cases held : holdsName technologies model.id payload.name with
      | true =>
          have refused : (technologies.update? fun row =>
              if repository.key row = repository.key model then
                repository.stored (repository.touch now (repository.assign payload model))
              else row) = none := slugged.update?_of_taken member rfl held
          rw [refused]
          exact .inl ⟨rfl, rfl⟩
      | false =>
          have written : ∃ next, (technologies.update? fun row =>
              if repository.key row = repository.key model then
                repository.stored (repository.touch now (repository.assign payload model))
              else row) = some next ∧ _ := slugged.update?_of_free rfl held
          rcases written with ⟨next, written, _⟩
          rw [written]
          exact .inr ⟨rfl, repository.touch now (repository.assign payload model), next, rfl,
            (steady.touch now _).trans converts⟩

/-- An update of a stored technology raises it exactly when another one has the name. -/
theorem update_eq (accepted : payload.accepted = true) (now : Instant)
    {technologies : Technologies} {model : TechnologyModel} (member : model ∈ technologies.rows) :
    (holdsName technologies model.id payload.name = true ∧
        UpdateTechnology.execute model.id now payload technologies =
          (.error .integrityError, technologies)) ∨
      holdsName technologies model.id payload.name = false ∧
        (UpdateTechnology.execute model.id now payload technologies).1.isOk = true := by
  have saved : repository.save (fun _ => true) (.put model.id now) payload technologies = _ :=
    Repository.save_put member
  rw [UpdateTechnology.execute, orNotFound, saved]
  rcases commitChange_eq accepted now member with
    ⟨held, refused⟩ | ⟨free, changed, next, committed, converts⟩
  · left
    rw [refused]
    exact ⟨held, rfl⟩
  · right
    rcases Result.isOk_iff.mp converts with ⟨technology, converted⟩
    rw [committed]
    have answered : repository.toEntity changed = .ok technology := converted
    simp only [answered]
    exact ⟨free, rfl⟩

theorem update_absent {technologyId : UUID} {now : Instant} {technologies : Technologies}
    (unknown : knowsId technologies technologyId = false) :
    UpdateTechnology.execute technologyId now payload technologies =
      (.error (.app (.resourceNotFoundError "Technology not found")), technologies) := by
  have absent : ∀ row ∈ technologies.rows, repository.key row ≠ technologyId := by
    intro row member same
    exact List.any_eq_false.mp unknown row member (beq_iff_eq.mpr same)
  rw [UpdateTechnology.execute, orNotFound, Repository.save_put_absent absent]
  rfl

end TechnologyRepository

open TechnologyRepository (create_eq update_eq update_absent)

/-- A create is reported as the rule has it if and only if the generated id is new and no
technology has the name, an update if and only if the id is not known or no other
technology has the name.  In every other case the driver's error escapes. -/
theorem technology_names_reported_iff {payload : TechnologyWrite}
    (accepted : payload.accepted = true) (db : Db) :
    (∀ defaults,
      NamesReported (anyName db.technologies payload.name) false db
          (Db.onTechnologies (CreateTechnology.execute defaults payload) db) ↔
        knowsId db.technologies defaults.id = false ∧
          anyName db.technologies payload.name = false) ∧
      ∀ technologyId now,
        NamesReported (holdsName db.technologies technologyId payload.name)
            (!knowsId db.technologies technologyId) db
            (Db.onTechnologies (UpdateTechnology.execute technologyId now payload) db) ↔
          knowsId db.technologies technologyId = false ∨
            holdsName db.technologies technologyId payload.name = false := by
  constructor
  · intro defaults
    rcases create_eq accepted defaults db.technologies with ⟨taken, raised⟩ | ⟨free, returned⟩
    · constructor
      · intro reported
        refine (NamesReported.not_integrityError ?_ reported).elim
        rw [Db.onTechnologies, raised]
      · rintro ⟨newId, newName⟩
        rw [newId, newName] at taken
        simp at taken
    · exact ⟨fun _ => free, fun _ => .of_isOk returned⟩
  · intro technologyId now
    cases known : knowsId db.technologies technologyId with
    | false =>
        refine ⟨fun _ => .inl rfl, fun _ => ⟨TechnologyRepository.uniqueNames _, ?_⟩⟩
        rw [Db.onTechnologies, update_absent known]
        intro raised ended
        cases ended
        exact ⟨rfl, .inr ⟨rfl, rfl⟩⟩
    | true =>
        rcases List.any_eq_true.mp known with ⟨model, member, same⟩
        rw [← eq_of_beq same]
        rcases update_eq accepted now member with ⟨held, raised⟩ | ⟨free, returned⟩
        · constructor
          · intro reported
            refine (NamesReported.not_integrityError ?_ reported).elim
            rw [Db.onTechnologies, raised]
          · rintro (unknown | free)
            · cases unknown
            · rw [held] at free
              cases free
        · exact ⟨fun _ => .inr free, fun _ => .of_isOk returned⟩

end

namespace Sample

open ProjectRepository.Sample (technologies)

open TechnologyRepository (holdsName anyName knowsId)

attribute [local instance] unicode collation mysql

def stack : Db := { Db.empty Table.empty with technologies }

def renamed (name : String) : TechnologyWrite := ⟨name, none, none, none⟩

/-- A technology keeps its own name. -/
theorem technology_names_reported_own :
    NamesReported false false stack
      (Db.onTechnologies (UpdateTechnology.execute 10 0 (renamed "Python")) stack) := by
  have accepted : (renamed "Python").accepted = true := by decide
  exact ((technology_names_reported_iff accepted stack).2 10 0).mpr (.inr (by decide))

/-- The name of another technology ends in the error of the driver, on create and on
update. -/
theorem held_name_escapes :
    (Db.onTechnologies (CreateTechnology.execute ⟨12, 0, 0⟩ (renamed "Python")) stack).1.map
        (fun _ => ()) = .error .integrityError ∧
      (Db.onTechnologies (UpdateTechnology.execute 11 0 (renamed "Python")) stack).1.map
        (fun _ => ()) = .error .integrityError ∧
      ¬∀ (payload : TechnologyWrite) (db : Db), payload.accepted = true →
        (∀ defaults, NamesReported (anyName db.technologies payload.name) false db
          (Db.onTechnologies (CreateTechnology.execute defaults payload) db)) ∧
        ∀ technologyId now, NamesReported (holdsName db.technologies technologyId payload.name)
          (!knowsId db.technologies technologyId) db
          (Db.onTechnologies (UpdateTechnology.execute technologyId now payload) db) := by
  have updated : (Db.onTechnologies (UpdateTechnology.execute 11 0 (renamed "Python")) stack).1.map
      (fun _ => ()) = .error .integrityError := by decide
  refine ⟨by decide, updated, ?_⟩
  intro claim
  have reported := (claim (renamed "Python") stack (by decide)).2 11 0
  exact NamesReported.not_integrityError (Result.map_eq_error.mp updated) reported

end Sample

end ChTech.Content
