import ChTech.Content.SlugUpdates
import ChTech.Content.Stale

/-!
# Rows and technologies loaded earlier

A request selects its technologies, and an update its row with the links of the row, before
it commits.  The commit changes the links by their difference from the loaded ones: a link
it deletes has to be there still, and a technology it adds has to exist.
-/

namespace ChTech.Content

open Foundation

open TechnologyRepository (Technologies)

section

variable [PyUnicode] [Collation] {Model Input Entity : Type}
  {repo : Repository Model Input Entity}

/-- The identifiers of selected technologies. -/
structure Selection where
  ids : List UUID
  distinct : ids.Nodup

/-- `_get_technologies`. -/
def Selection.of (technologies : Technologies) (technologyIds : List UUID) : Selection :=
  ⟨Tagged.getTechnologies technologies technologyIds,
    Tagged.nodup_getTechnologies technologies technologyIds⟩

/-- A row with the technologies it was loaded with. -/
structure Loaded (Model : Type) where
  model : Model
  technologyIds : List UUID
  deriving DecidableEq

/-- `select(…).options(selectinload(technologies))` by the primary key. -/
def Loaded.byId (tagged : Tagged repo) (technologies : Technologies) (ties : Ties) (id : UUID) :
    Except Raised (Option (Loaded Model)) :=
  (repo.select tagged.rows id).map fun found => found.map fun model =>
    ⟨model, loadedIds tagged technologies ties (repo.key model)⟩

namespace Tagged

/-- The foreign keys of the added links. -/
def areStored (technologies : Technologies) (technologyIds : List UUID) : Bool :=
  technologyIds.all fun id => technologies.rows.any fun technology => technology.id == id

/-- The links that a collection loaded earlier loses and gains. -/
def relinkLoaded (technologies : Technologies) (links : Links) (owner : UUID)
    (loaded assigned : List UUID) : Except Raised Links :=
  let removed := loaded.filter fun id => !assigned.contains id
  let added := assigned.filter fun id => !loaded.contains id
  if !removed.all fun id => links.rows.contains (owner, id) then
    .error .operationalError
  else if !areStored technologies added then
    .error .integrityError
  else
    flushLinks (relink links owner loaded assigned)

variable [Mysql]

/-- `create` up to its commit, with the technologies it has selected. -/
def commitSelected (technologies : Technologies) (selected : Selection)
    (referenced : Model → Bool) (defaults : Defaults) (data : Input) (tagged : Tagged repo) :
    Except Raised (Model × Tagged repo) :=
  let model := repo.construct defaults data
  repo.reported do
    let rows ← repo.insertRow referenced model tagged.rows
    let links ← relinkLoaded technologies tagged.links (repo.key model) [] selected.ids
    return (model, ⟨rows, links⟩)

/-- `update` up to its commit.  Its `UPDATE` names no foreign key. -/
def commitLoaded (columns : Columns repo) (technologies : Technologies)
    (technologyIds : List UUID) (selected : Selection) (now : Instant) (loaded : Loaded Model)
    (data : Input) (tagged : Tagged repo) : Except Raised (Model × Tagged repo) := do
  let (changed, rows) ← autoflushed repo technologyIds
    (Repository.updateLoaded columns (fun _ => true) now loaded.model
      (repo.assign data loaded.model) tagged.rows)
  let links ← repo.reported
    (relinkLoaded technologies tagged.links (repo.key loaded.model) loaded.technologyIds
      selected.ids)
  return (changed, ⟨rows, links⟩)

end Tagged

abbrev RaisesDatabaseError {α : Type} (result : Except Raised α) : Prop :=
  Result.RaisesOnly (fun raised => Raised.isDatabaseError raised = true) result

omit [PyUnicode] [Collation] in
/-- What is reported as a conflict was an `IntegrityError`. -/
theorem Repository.reported_eq_conflict {α : Type} {result : Except Raised α} {message : String}
    (conflict : repo.conflict = .app (.conflictError message))
    (raises : RaisesDatabaseError result)
    (reported : repo.reported result = .error repo.conflict) : result = .error .integrityError := by
  cases result with
  | ok value => cases reported
  | error raised =>
      by_cases integrity : raised = .integrityError
      · rw [integrity]
      · simp only [Repository.reported, refusedAs, Except.mapError, integrity, if_false] at reported
        have database := raises raised rfl
        rw [Except.error.inj reported, conflict] at database
        cases database

omit [PyUnicode] [Collation] in
theorem Repository.flush_raises [Mysql] {cells : List Cell} {checked referenced : Bool}
    {written : Option repo.Rows} :
    RaisesDatabaseError (repo.flush cells checked referenced written) := by
  simp only [Repository.flush]
  split
  · exact .error rfl
  · split
    · exact .error rfl
    · split
      · split
        · exact .ok
        · exact .error rfl
      · exact .error rfl

omit [PyUnicode] [Collation] in
theorem Repository.flush_eq_integrityError [Mysql] {cells : List Cell} {checked referenced : Bool}
    {written : Option repo.Rows}
    (refused : repo.flush cells checked referenced written = .error .integrityError) :
    written = none ∨ referenced = false := by
  simp only [Repository.flush] at refused
  split at refused
  · cases refused
  · split at refused
    · cases refused
    · split at refused
      · split at refused
        next => cases refused
        next missing => exact .inr (Bool.eq_false_iff.mpr missing)
      · exact .inl rfl

omit [PyUnicode] [Collation] in
theorem Repository.updateLoaded_raises [Mysql] {columns : Columns repo}
    {referenced : Model → Bool} {now : Instant} {model assigned : Model} {table : repo.Rows} :
    RaisesDatabaseError (Repository.updateLoaded columns referenced now model assigned table) := by
  simp only [Repository.updateLoaded]
  split
  · exact .ok
  · split
    · exact .error rfl
    · exact Repository.flush_raises.map

theorem Tagged.relinkLoaded_raises {technologies : Technologies} {links : Links} {owner : UUID}
    {loaded assigned : List UUID} :
    RaisesDatabaseError (Tagged.relinkLoaded technologies links owner loaded assigned) := by
  simp only [Tagged.relinkLoaded]
  split
  · exact .error rfl
  · split
    · exact .error rfl
    · simp only [Tagged.flushLinks]
      split
      · exact .ok
      · exact .error rfl

omit [PyUnicode] [Collation] in
theorem Tagged.autoflushed_eq_conflict {α : Type} {technologyIds : List UUID}
    {result : Except Raised α} {message : String}
    (conflict : repo.conflict = .app (.conflictError message))
    (raises : RaisesDatabaseError result)
    (flushed : Tagged.autoflushed repo technologyIds result = .error repo.conflict) :
    result = .error .integrityError := by
  simp only [Tagged.autoflushed] at flushed
  split at flushed
  · exact Repository.reported_eq_conflict conflict raises flushed
  · have database := raises repo.conflict flushed
    rw [conflict] at database
    cases database

end

end ChTech.Content
