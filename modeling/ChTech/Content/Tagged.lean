import ChTech.Content.Technology

/-!
# Rows with technologies

Projects and articles carry technologies through a link table.  Their repositories are
those of a single table extended by the links: a commit writes both, and every row that
is read back brings its technologies along.
-/

namespace ChTech.Content

open Foundation

/-- `project_technologies` or `article_technologies`: pairs of an owner and a technology. -/
abbrev Links := Table (UUID × UUID) fun first second => first == second

/-- `ProjectWithTechnologies` and `ArticleWithTechnologies`. -/
structure WithTechnologies [PyUnicode] (Entity : Type) where
  entity : Entity
  technologies : List Technology

/-- A table with its link table. -/
structure Tagged {Model Input Entity : Type} (repo : Repository Model Input Entity) where
  rows : repo.Rows
  links : Links

namespace Tagged

variable [PyUnicode] [Collation]

open TechnologyRepository (Technologies)

variable {Model Input Entity : Type} {repo : Repository Model Input Entity}

/-- `selectinload(technologies)`: the technologies of an owner, in the engine's order. -/
def technologiesOf (tagged : Tagged repo) (technologies : Technologies) (ties : Ties)
    (owner : UUID) : List TechnologyModel :=
  Query.orderBy (fun technology : TechnologyModel => ties [owner, technology.id])
    (technologies.rows.filter fun technology =>
      tagged.links.rows.contains (owner, technology.id))

/-- `_to_row`. -/
def toRow (tagged : Tagged repo) (technologies : Technologies) (ties : Ties) (model : Model) :
    Except Raised (WithTechnologies Entity) := do
  let entity ← repo.toEntity model
  let technologies ←
    (tagged.technologiesOf technologies ties (repo.key model)).mapM TechnologyModel.toEntity
  return { entity, technologies }

/-- A row is converted together with its technologies. -/
theorem toRow_eq_ok {tagged : Tagged repo} {technologies : Technologies} {ties : Ties}
    {model : Model} {row : WithTechnologies Entity}
    (converted : tagged.toRow technologies ties model = .ok row) :
    repo.toEntity model = .ok row.entity ∧
      (tagged.technologiesOf technologies ties (repo.key model)).mapM TechnologyModel.toEntity =
        .ok row.technologies := by
  rcases Result.bind_eq_ok.mp converted with ⟨entity, first, converted⟩
  rcases Result.bind_eq_ok.mp converted with ⟨linked, second, last⟩
  cases last
  exact ⟨first, second⟩

/-- `[_to_row(model) for model in …]`. -/
def readAll (tagged : Tagged repo) (technologies : Technologies) (ties : Ties)
    (selected : List Model) : Except Raised (List (WithTechnologies Entity)) :=
  selected.mapM (tagged.toRow technologies ties)

/-- `_to_row(model) if model is not None else None`. -/
def readOne (tagged : Tagged repo) (technologies : Technologies) (ties : Ties)
    (selected : List Model) : Except Raised (Option (WithTechnologies Entity)) := do
  match ← Query.scalarOneOrNone .multipleResultsFound selected with
  | none => return none
  | some model => (tagged.toRow technologies ties model).map some

/-- `_get_technologies`: the given ones that exist. -/
def getTechnologies (technologies : Technologies) (technologyIds : List UUID) : List UUID :=
  (technologies.rows.filter fun technology => technologyIds.contains technology.id).map
    TechnologyModel.id

/-- The assignment of a loaded collection: the links it loses are deleted, the new ones
inserted. -/
def relink (links : Links) (owner : UUID) (loaded assigned : List UUID) : Option Links :=
  (assigned.filter fun technologyId => !loaded.contains technologyId).foldlM
    (fun links technologyId => links.insert? (owner, technologyId))
    (links.delete fun link =>
      link.1 == owner && loaded.contains link.2 && !assigned.contains link.2)

/-- The flush of the links. -/
def flushLinks (links : Option Links) : Except Raised Links :=
  match links with
  | some links => .ok links
  | none => .error .integrityError

/-- Selecting the technologies flushes the assigned attributes, outside the `try`; with
nothing to select they are flushed by the commit. -/
def autoflushed (repo : Repository Model Input Entity) {α : Type} (technologyIds : List UUID)
    (flushed : Except Raised α) : Except Raised α :=
  if technologyIds.isEmpty then repo.reported flushed else flushed

variable [Mysql]

/-- `create` up to its commit. -/
def commitNew (technologies : Technologies) (technologyIds : List UUID)
    (referenced : Model → Bool) (defaults : Defaults) (data : Input) (tagged : Tagged repo) :
    Except Raised (Model × Tagged repo) :=
  let model := repo.construct defaults data
  let assigned := getTechnologies technologies technologyIds
  repo.reported do
    let rows ← repo.insertRow referenced model tagged.rows
    let links ← flushLinks (relink tagged.links (repo.key model) [] assigned)
    return (model, ⟨rows, links⟩)

/-- `update` of a loaded model, up to its commit. -/
def commitChange (technologies : Technologies) (ties : Ties) (technologyIds : List UUID)
    (referenced : Model → Bool) (now : Instant) (model : Model) (data : Input)
    (tagged : Tagged repo) : Except Raised (Model × Tagged repo) := do
  let loaded := (tagged.technologiesOf technologies ties (repo.key model)).map TechnologyModel.id
  let (changed, rows) ← autoflushed repo technologyIds
    (repo.updateRow referenced now model (repo.assign data model) tagged.rows)
  let assigned := getTechnologies technologies technologyIds
  let links ← repo.reported
    (flushLinks (relink tagged.links (repo.key model) loaded assigned))
  return (changed, ⟨rows, links⟩)

/-- `create` and `update` up to their commit; `none` when there is no row to update. -/
def commit (technologies : Technologies) (ties : Ties) (technologyIds : List UUID)
    (referenced : Model → Bool) (target : Target) (data : Input) :
    Program (Tagged repo) Raised (Option Model) :=
  Program.transact fun tagged =>
    match target with
    | .post defaults =>
        (tagged.commitNew technologies technologyIds referenced defaults data).map
          fun (model, next) => (some model, next)
    | .put id now => do
        match ← repo.select tagged.rows id with
        | none => return (none, tagged)
        | some model =>
            (tagged.commitChange technologies ties technologyIds referenced now model data).map
              fun (changed, next) => (some changed, next)

/-- What `create` and `update` do with the committed model: the technologies are loaded
again and the row is converted. -/
def answer (tagged : Tagged repo) (technologies : Technologies) (ties : Ties) :
    Option Model → Except Raised (Option (WithTechnologies Entity))
  | none => .ok none
  | some model => (tagged.toRow technologies ties model).map some

/-- `create` and `update`. -/
def save (technologies : Technologies) (ties : Ties) (technologyIds : List UUID)
    (referenced : Model → Bool) (target : Target) (data : Input) :
    Program (Tagged repo) Raised (Option (WithTechnologies Entity)) := do
  let committed ← commit technologies ties technologyIds referenced target data
  Program.read fun tagged => tagged.answer technologies ties committed

/-! ## What a commit leaves behind -/

omit [PyUnicode] [Collation] [Mysql] in
theorem autoflushed_eq_ok {α : Type} {technologyIds : List UUID} {flushed : Except Raised α}
    {value : α} (returned : autoflushed repo technologyIds flushed = .ok value) :
    flushed = .ok value := by
  simp only [autoflushed] at returned
  split at returned
  · exact Repository.reported_eq_ok returned
  · exact returned

theorem commit_ensures {technologies : Technologies} {ties : Ties} {technologyIds : List UUID}
    {referenced : Model → Bool} {target : Target} {data : Input} {tagged : Tagged repo} :
    Program.Ensures (commit technologies ties technologyIds referenced target data) tagged
      (fun committed next =>
        match committed with
        | none => next = tagged
        | some model => repo.Written data tagged.rows next.rows model)
      (fun _ next => next = tagged) := by
  apply Program.Ensures.transact
  · intro committed next returned
    cases target with
    | post defaults =>
        rcases Result.map_eq_ok.mp returned with ⟨⟨model, last⟩, written, pair⟩
        cases pair
        obtain ⟨rows, inserted, written⟩ :=
          Result.bind_eq_ok.mp (Repository.reported_eq_ok written)
        rcases Result.bind_eq_ok.mp written with ⟨links, _, pair⟩
        cases pair
        rcases Repository.flush_eq_ok inserted with ⟨storable, inserted⟩
        exact .inserted defaults rfl storable (Table.insert?_eq_some.mp inserted).2
    | put id now =>
        rcases Result.bind_eq_ok.mp returned with ⟨found, selected, returned⟩
        cases found with
        | none =>
            cases returned
            rfl
        | some old =>
            rcases Result.map_eq_ok.mp returned with ⟨⟨model, last⟩, written, pair⟩
            cases pair
            simp only [commitChange] at written
            rcases Result.bind_eq_ok.mp written with ⟨⟨changed, rows⟩, updated, written⟩
            rcases Result.bind_eq_ok.mp written with ⟨links, _, pair⟩
            cases pair
            exact Repository.updateRow_written (Repository.mem_of_select selected)
              (autoflushed_eq_ok updated)
  · intro raised _
    rfl

omit [Mysql]

/-- Linked technologies convert, so a row converts when its own columns do. -/
theorem toRow_isOk {tagged : Tagged repo} {technologies : Technologies} {ties : Ties}
    {model : Model} (readable : TechnologyRepository.repository.Readable technologies) :
    (tagged.toRow technologies ties model).isOk = (repo.toEntity model).isOk := by
  have linked : ((tagged.technologiesOf technologies ties (repo.key model)).mapM
      TechnologyModel.toEntity).isOk = true := by
    apply Result.isOk_mapM
    intro technology member
    exact readable technology (List.mem_filter.mp (Query.mem_orderBy.mp member)).1
  simp only [toRow]
  rw [Result.isOk_bind_const fun _ => Result.isOk_bind_pure, linked, Bool.and_true]

theorem readAll_isOk {tagged : Tagged repo} {technologies : Technologies} {ties : Ties}
    {selected : List Model} (readable : TechnologyRepository.repository.Readable technologies)
    (rows : repo.Readable tagged.rows) (members : ∀ row ∈ selected, row ∈ tagged.rows.rows) :
    (tagged.readAll technologies ties selected).isOk = true := by
  apply Result.isOk_mapM
  intro row member
  rw [toRow_isOk readable]
  exact rows row (members row member)

theorem readOne_isOk {tagged : Tagged repo} {technologies : Technologies} {ties : Ties}
    {selects : Model → Bool} (readable : TechnologyRepository.repository.Readable technologies)
    (rows : repo.Readable tagged.rows)
    (unique : ∀ first second, selects first = true → selects second = true →
      repo.clash first second = true) :
    (tagged.readOne technologies ties (tagged.rows.rows.filter selects)).isOk = true := by
  simp only [readOne]
  rw [Query.scalarOneOrNone_eq (Table.length_filter_le_one unique)]
  cases found : (tagged.rows.rows.filter selects).head? with
  | none => rfl
  | some row =>
      have member := List.mem_of_mem_head? (Option.mem_def.mpr found)
      change ((tagged.toRow technologies ties row).map some).isOk = true
      rw [Result.isOk_map, toRow_isOk readable]
      exact rows row (List.mem_filter.mp member).1

/-- Where a request on a table with technologies ends. -/
theorem save_outcome [Mysql] {technologies : Technologies} {ties : Ties} {technologyIds : List UUID}
    {referenced : Model → Bool} {target : Target} {data : Input} {tagged : Tagged repo}
    {verdict : Bool} (steady : repo.Steady) (decided : repo.Verdict data verdict)
    (readable : TechnologyRepository.repository.Readable technologies)
    (rows : repo.Readable tagged.rows) :
    Outcome (fun tagged : Tagged repo => repo.Readable tagged.rows) verdict
      ((commit technologies ties technologyIds referenced target data tagged).1.map Option.isSome)
      ((save technologies ties technologyIds referenced target data tagged).1.map fun _ => ())
      (save technologies ties technologyIds referenced target data tagged).2 := by
  apply Outcome.of_commit (fun committed next => answer next technologies ties committed) rows
  apply commit_ensures.mono
  · intro committed next returned
    cases committed with
    | none => exact ⟨returned, rfl⟩
    | some model =>
        constructor
        · exact returned.readable_iff steady decided rows
        · rw [answer, Result.isOk_map, toRow_isOk readable]
          exact returned.isOk steady decided
  · exact fun _ _ kept => kept

omit [PyUnicode] [Collation] in
theorem flushLinks_undisturbed {links : Option Links} : Undisturbed (flushLinks links) := by
  intro failed
  simp only [flushLinks] at failed
  split at failed
  · cases failed
  · cases failed

omit [PyUnicode] [Collation] in
theorem autoflushed_undisturbed {α : Type} {technologyIds : List UUID}
    {flushed : Except Raised α} (plain : repo.Plain) (clean : Undisturbed flushed) :
    Undisturbed (autoflushed repo technologyIds flushed) := by
  simp only [autoflushed]
  split
  · exact Repository.reported_undisturbed plain clean
  · exact clean

section

variable [Mysql] {technologies : Technologies} {ties : Ties} {technologyIds : List UUID}
  {referenced : Model → Bool} {data : Input} {tagged : Tagged repo}

theorem commit_undisturbed {target : Target} (plain : repo.Plain)
    (decided : repo.Fits data true) :
    Undisturbed (commit technologies ties technologyIds referenced target data tagged).1 := by
  apply Repository.transact_undisturbed
  cases target with
  | post defaults =>
      apply Undisturbed.map
      apply Repository.reported_undisturbed plain
      apply Undisturbed.bind
      · exact Repository.flush_undisturbed (decided.construct defaults)
      · intro rows _
        apply flushLinks_undisturbed.bind
        intro links _ failed
        cases failed
  | put id now =>
      apply Repository.select_undisturbed.bind
      intro found _
      cases found with
      | none =>
          intro failed
          cases failed
      | some model =>
          apply Undisturbed.map
          simp only [commitChange]
          apply Undisturbed.bind
          · exact autoflushed_undisturbed plain (Repository.updateRow_undisturbed plain decided)
          · intro changed _
            apply (Repository.reported_undisturbed plain flushLinks_undisturbed).bind
            intro links _ failed
            cases failed

theorem commit_disturbed {defaults : Defaults} (decided : repo.Fits data false) :
    (commit technologies ties technologyIds referenced (.post defaults) data tagged).1 =
      .error .dataError := by
  have failed : commitNew technologies technologyIds referenced defaults data tagged =
      .error .dataError := by
    simp only [commitNew, Repository.insertRow]
    simp only [Repository.flush_disturbed (decided.construct defaults)]
    rfl
  apply Program.transact_error
  simp only [failed]
  rfl

end

theorem undisturbed_iff [Mysql] {data : Input} {technologyIds : List UUID} {fits : Bool}
    (decided : repo.Fits data fits) (plain : repo.Plain) :
    (∀ technologies ties referenced target (tagged : Tagged repo), Undisturbed
      (commit technologies ties technologyIds referenced target data tagged).1) ↔
      fits = true := by
  cases fits with
  | true => exact ⟨fun _ => rfl, fun _ _ _ _ _ _ => commit_undisturbed plain decided⟩
  | false =>
      constructor
      · intro clean
        exact (clean .empty (fun _ => 0) (fun _ => true) (.post ⟨0, 0, 0⟩) ⟨.empty, .empty⟩
          (commit_disturbed decided)).elim
      · intro impossible
        cases impossible

end Tagged

end ChTech.Content
