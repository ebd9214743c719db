import ChTech.Content.Fields
import ChTech.Db.Types
import ChTech.Foundation.Query
import ChTech.Foundation.Table

/-!
# Repositories

The repositories of the content tables are built alike.  `create` and `update` commit a
row and then rebuild the entity from it; the lists and lookups rebuild an entity from
every row they have selected.  What differs is a `Repository`: the constructor of the
row, the attributes an update assigns, the types of its columns, what becomes of an
`IntegrityError`, and the conversion.
-/

namespace ChTech.Content

open Foundation

/-- Where the engine puts rows that `ORDER BY` leaves tied, by their primary keys. -/
abbrev Ties := List UUID → Nat

/-- What the column defaults generate for a new row. -/
structure Defaults where
  id : UUID
  createdAt : Instant
  updatedAt : Instant
  deriving DecidableEq, Repr

/-- `POST` creates a row; `PUT` replaces the one with the given key. -/
inductive Target where
  | post (defaults : Defaults)
  | put (id : UUID) (now : Instant)
  deriving DecidableEq, Repr

/-- The primary key is given to a new row, and no change touches it. -/
structure KeepsKey {Model Input : Type} (key : Model → UUID)
    (construct : Defaults → Input → Model) (assign : Input → Model → Model)
    (touch : Instant → Model → Model) (stored : Model → Model) : Prop where
  construct : ∀ defaults data, key (construct defaults data) = defaults.id
  assign : ∀ data model, key (assign data model) = key model
  touch : ∀ now model, key (touch now model) = key model
  stored : ∀ model, key (stored model) = key model

/-- `except IntegrityError`, if there is one. -/
def refusedAs {α : Type} (conflict : Raised) (result : Except Raised α) : Except Raised α :=
  result.mapError fun raised => if raised = .integrityError then conflict else raised

/-- `if result is None: raise ResourceNotFoundError(message)`. -/
def existing {α : Type} (message : String) (result : Except Raised (Option α)) :
    Except Raised (Option α) := do
  match ← result with
  | none => throw (.app (.resourceNotFoundError message))
  | some value => return some value

/-- The same after a call that writes. -/
def orNotFound {σ α : Type} (message : String) (program : Program σ Raised (Option α)) :
    Program σ Raised (Option α) := fun start =>
  (existing message (program start).1, (program start).2)

theorem refusedAs_eq_ok {α : Type} {conflict : Raised} {result : Except Raised α} {value : α}
    (returned : refusedAs conflict result = .ok value) : result = .ok value := by
  cases result with
  | ok other =>
      cases returned
      rfl
  | error raised => cases returned

theorem refusedAs_map {α β : Type} {conflict : Raised} {result : Except Raised α}
    {change : α → β} :
    refusedAs conflict (result.map change) = (refusedAs conflict result).map change := by
  cases result with
  | ok value => rfl
  | error raised => rfl

structure Repository (Model Input Entity : Type) where
  key : Model → UUID
  /-- The primary key and the unique columns. -/
  clash : Model → Model → Bool
  keyed : ∀ first second, key first = key second → clash first second = true
  /-- The constructor of the model, as `create` calls it. -/
  construct : Defaults → Input → Model
  /-- The assignments of `update`. -/
  assign : Input → Model → Model
  /-- `onupdate`. -/
  touch : Instant → Model → Model
  /-- No attribute has changed its value, so no `UPDATE` is sent. -/
  same : Model → Model → Bool
  /-- The row as it comes back from its columns. -/
  stored : Model → Model
  /-- The values of its columns. -/
  cells : Model → List Cell
  /-- The `CHECK` constraints. -/
  checks : Model → Bool
  /-- What an `IntegrityError` at the commit is reported as. -/
  conflict : Raised
  /-- `_to_entity`. -/
  toEntity : Model → Except Raised Entity
  keeps : KeepsKey key construct assign touch stored

namespace Repository

variable {Model Input Entity : Type} (repo : Repository Model Input Entity)

abbrev Rows := Table Model repo.clash

theorem eq_of_key {table : repo.Rows} {first second : Model} (firstMem : first ∈ table.rows)
    (secondMem : second ∈ table.rows) (equal : repo.key first = repo.key second) :
    first = second :=
  Table.eq_of_clash firstMem secondMem (repo.keyed first second equal)
    (repo.keyed second first equal.symm)

/-- Rows that a condition on the primary key selects are in each other's way. -/
theorem clash_of_key {selects : Model → Bool} {id : UUID}
    (fixed : ∀ row, selects row = true → repo.key row = id) (first second : Model)
    (firstSelected : selects first = true) (secondSelected : selects second = true) :
    repo.clash first second = true := by
  apply repo.keyed
  rw [fixed first firstSelected, fixed second secondSelected]

/-- `[_to_entity(model) for model in …]`. -/
def readAll (selected : List Model) : Except Raised (List Entity) :=
  selected.mapM repo.toEntity

/-- `_to_entity(model) if model is not None else None`. -/
def readOne (selected : List Model) : Except Raised (Option Entity) := do
  match ← Query.scalarOneOrNone .multipleResultsFound selected with
  | none => return none
  | some model => (repo.toEntity model).map some

variable [Mysql]

/-- A flush sends one statement: its values are bound and stored, then the constraints
are checked. -/
def flush (cells : List Cell) (checked referenced : Bool) (written : Option repo.Rows) :
    Except Raised repo.Rows :=
  if !cells.all Cell.storable then
    .error .dataError
  else if !checked then
    .error .operationalError
  else
    match written with
    | some next => if referenced then .ok next else .error .integrityError
    | none => .error .integrityError

def reported {α : Type} (result : Except Raised α) : Except Raised α :=
  refusedAs repo.conflict result

/-- `INSERT` of a model; `referenced` tells whether the rows its foreign keys name exist. -/
def insertRow (referenced : Model → Bool) (model : Model) (table : repo.Rows) :
    Except Raised repo.Rows :=
  repo.flush (repo.cells model) (repo.checks model) (referenced model)
    (table.insert? (repo.stored model))

/-- `UPDATE` of a loaded model to its assigned attributes, with `onupdate`. -/
def updateRow (referenced : Model → Bool) (now : Instant) (model assigned : Model)
    (table : repo.Rows) : Except Raised (Model × repo.Rows) :=
  if repo.same model assigned then
    .ok (assigned, table)
  else
    let touched := repo.touch now assigned
    (repo.flush (repo.cells touched) (repo.checks touched) (referenced touched)
      (table.update? fun row =>
        if repo.key row = repo.key model then repo.stored touched else row)).map
      fun next => (touched, next)

/-- The model with the given key. -/
def select (table : repo.Rows) (id : UUID) : Except Raised (Option Model) :=
  Query.scalarOneOrNone .multipleResultsFound (table.rows.filter fun row => repo.key row = id)

/-- `create` up to its commit. -/
def commitNew (referenced : Model → Bool) (defaults : Defaults) (data : Input)
    (table : repo.Rows) : Except Raised (Model × repo.Rows) :=
  let model := repo.construct defaults data
  (repo.reported (repo.insertRow referenced model table)).map fun next => (model, next)

/-- `update` of a loaded model, up to its commit. -/
def commitChange (referenced : Model → Bool) (now : Instant) (model : Model) (data : Input)
    (table : repo.Rows) : Except Raised (Model × repo.Rows) :=
  repo.reported (repo.updateRow referenced now model (repo.assign data model) table)

/-- `create` and `update` up to their commit; `none` when there is no row to update. -/
def commit (referenced : Model → Bool) (target : Target) (data : Input) :
    Program repo.Rows Raised (Option Model) :=
  Program.transact fun table =>
    match target with
    | .post defaults =>
        (repo.commitNew referenced defaults data table).map fun (model, next) => (some model, next)
    | .put id now => do
        match ← repo.select table id with
        | none => return (none, table)
        | some model =>
            (repo.commitChange referenced now model data table).map
              fun (changed, next) => (some changed, next)

/-- What `create` and `update` do with the committed model. -/
def answer : Option Model → Except Raised (Option Entity)
  | none => .ok none
  | some model => (repo.toEntity model).map some

/-- `create` and `update`. -/
def save (referenced : Model → Bool) (target : Target) (data : Input) :
    Program repo.Rows Raised (Option Entity) := do
  let committed ← repo.commit referenced target data
  Program.read fun _ => repo.answer committed

/-! ## What a commit leaves behind -/

/-- How a committed model got into the table. -/
inductive Written (data : Input) (table next : repo.Rows) (model : Model) : Prop where
  | inserted (defaults : Defaults) :
      model = repo.construct defaults data → (repo.cells model).all Cell.storable = true →
      next.rows = table.rows ++ [repo.stored model] → Written data table next model
  | unchanged (old : Model) :
      old ∈ table.rows → model = repo.assign data old → repo.same old model = true →
      next = table → Written data table next model
  | updated (old : Model) (now : Instant) :
      old ∈ table.rows → model = repo.touch now (repo.assign data old) →
      (repo.cells model).all Cell.storable = true →
      next.rows = (table.rows.map fun row =>
        if repo.key row = repo.key old then repo.stored model else row) →
      Written data table next model

variable {repo}

theorem flush_eq_ok {cells : List Cell} {checked referenced : Bool}
    {written : Option repo.Rows} {next : repo.Rows}
    (flushed : repo.flush cells checked referenced written = .ok next) :
    cells.all Cell.storable = true ∧ written = some next := by
  simp only [flush] at flushed
  split at flushed
  next => cases flushed
  next storable =>
    split at flushed
    next => cases flushed
    next =>
      split at flushed
      next =>
        split at flushed
        next =>
          cases flushed
          simp only [Bool.not_eq_true', Bool.not_eq_false] at storable
          exact ⟨storable, rfl⟩
        next => cases flushed
      next => cases flushed

omit [Mysql] in
theorem isOk_reported {α : Type} {result : Except Raised α} :
    (repo.reported result).isOk = result.isOk := by
  cases result with
  | ok value => rfl
  | error raised => rfl

/-- Nothing is in the way of a statement. -/
theorem flush_ok {cells : List Cell} {checked referenced : Bool} {next : repo.Rows}
    (storable : cells.all Cell.storable = true) (checks : checked = true)
    (references : referenced = true) :
    repo.flush cells checked referenced (some next) = .ok next := by
  simp only [flush, storable, checks, references, Bool.not_true, Bool.false_eq_true, if_false,
    if_true]

omit [Mysql] in
theorem reported_eq_ok {α : Type} {result : Except Raised α} {value : α}
    (returned : repo.reported result = .ok value) : result = .ok value :=
  refusedAs_eq_ok returned

omit [Mysql] in
/-- The primary key selects at most one row. -/
theorem select_eq {table : repo.Rows} {id : UUID} :
    repo.select table id = .ok (table.find? fun row => repo.key row = id) := by
  have single : (table.rows.filter fun row => repo.key row = id).length ≤ 1 :=
    Table.length_filter_le_one (repo.clash_of_key fun _ => of_decide_eq_true)
  rw [select, Query.scalarOneOrNone_eq single, List.head?_filter]
  rfl

omit [Mysql] in
theorem mem_of_select {table : repo.Rows} {id : UUID} {model : Model}
    (selected : repo.select table id = .ok (some model)) : model ∈ table.rows := by
  rw [select_eq] at selected
  exact (Table.mem_of_find? (Except.ok.inj selected)).1

omit [Mysql] in
theorem key_of_select {table : repo.Rows} {id : UUID} {model : Model}
    (selected : repo.select table id = .ok (some model)) : repo.key model = id := by
  rw [select_eq] at selected
  exact of_decide_eq_true (Table.mem_of_find? (Except.ok.inj selected)).2

theorem commitNew_written {referenced : Model → Bool} {defaults : Defaults} {data : Input}
    {table next : repo.Rows} {model : Model}
    (committed : repo.commitNew referenced defaults data table = .ok (model, next)) :
    repo.Written data table next model := by
  rcases Result.map_eq_ok.mp committed with ⟨rows, inserted, pair⟩
  cases pair
  rcases flush_eq_ok (reported_eq_ok inserted) with ⟨storable, inserted⟩
  exact .inserted defaults rfl storable (Table.insert?_eq_some.mp inserted).2

/-- The rows keep their primary keys, and the new one has its own. -/
theorem commitNew_keys {referenced : Model → Bool} {defaults : Defaults} {data : Input}
    {table next : repo.Rows} {model : Model}
    (stored : ∀ row, repo.key (repo.stored row) = repo.key row)
    (committed : repo.commitNew referenced defaults data table = .ok (model, next)) :
    (∀ id ∈ table.rows.map repo.key, id ∈ next.rows.map repo.key) ∧
      repo.key model ∈ next.rows.map repo.key := by
  rcases Result.map_eq_ok.mp committed with ⟨rows, inserted, pair⟩
  cases pair
  rcases flush_eq_ok (reported_eq_ok inserted) with ⟨_, added⟩
  rw [(Table.insert?_eq_some.mp added).2, List.map_append, List.map_singleton, stored]
  constructor
  · intro id member
    exact List.mem_append_left _ member
  · exact List.mem_append_right _ (List.mem_singleton_self _)

/-- A new row that fits and names stored rows is stored. -/
theorem commitNew_isOk {referenced : Model → Bool} {defaults : Defaults} {data : Input}
    {table : repo.Rows}
    (storable : (repo.cells (repo.construct defaults data)).all Cell.storable = true)
    (checks : repo.checks (repo.construct defaults data) = true)
    (references : ∀ model, referenced model = true)
    (free : ∀ row ∈ table.rows,
      repo.clash row (repo.stored (repo.construct defaults data)) = false) :
    (repo.commitNew referenced defaults data table).isOk = true := by
  have inserted : table.insert? (repo.stored (repo.construct defaults data)) = some _ :=
    dif_pos free
  simp only [commitNew, insertRow, inserted, flush_ok storable checks (references _)]
  rfl

theorem updateRow_written {referenced : Model → Bool} {now : Instant} {old model : Model}
    {data : Input} {table next : repo.Rows} (member : old ∈ table.rows)
    (written : repo.updateRow referenced now old (repo.assign data old) table =
      .ok (model, next)) : repo.Written data table next model := by
  simp only [updateRow] at written
  split at written
  next same =>
    cases written
    exact .unchanged old member rfl same rfl
  next =>
    rcases Result.map_eq_ok.mp written with ⟨rows, flushed, pair⟩
    cases pair
    rcases flush_eq_ok flushed with ⟨storable, updated⟩
    exact .updated old now member rfl storable (Table.update?_eq_some updated)

theorem commitChange_written {referenced : Model → Bool} {now : Instant} {old model : Model}
    {data : Input} {table next : repo.Rows} (member : old ∈ table.rows)
    (committed : repo.commitChange referenced now old data table = .ok (model, next)) :
    repo.Written data table next model :=
  updateRow_written member (reported_eq_ok committed)

/-- A commit that raises changes nothing; one that returns a model has written it. -/
theorem commit_ensures {referenced : Model → Bool} {target : Target} {data : Input}
    {table : repo.Rows} :
    Program.Ensures (repo.commit referenced target data) table
      (fun committed next =>
        match committed with
        | none => next = table
        | some model => repo.Written data table next model)
      (fun _ next => next = table) := by
  apply Program.Ensures.transact
  · intro committed next returned
    cases target with
    | post defaults =>
        rcases Result.map_eq_ok.mp returned with ⟨⟨model, rows⟩, written, pair⟩
        cases pair
        exact commitNew_written written
    | put id now =>
        rcases Result.bind_eq_ok.mp returned with ⟨found, selected, returned⟩
        cases found with
        | none =>
            cases returned
            rfl
        | some old =>
            rcases Result.map_eq_ok.mp returned with ⟨⟨model, rows⟩, written, pair⟩
            cases pair
            exact commitChange_written (mem_of_select selected) written
  · intro raised _
    rfl

end Repository

end ChTech.Content
