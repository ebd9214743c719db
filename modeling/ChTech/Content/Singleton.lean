import ChTech.Content.Database
import ChTech.Content.Stale

/-!
# The company profile under concurrent writers

`UpdateCompany` and `seed_company` look for a row with one statement and commit with a
later one; any number of them interleave.  Nothing but their lookups keeps the table at one
row.  It stays there as long as whoever found no row commits before another one does.
-/

namespace ChTech.Content.Singleton

open Foundation CompanyRepository

section

variable [PyUnicode] [Mysql]

/-- `UpdateCompany`, or `seed_company` with the commit of `main`. -/
inductive Request where
  | updateCompany (data : CompanyWrite)
  | seedCompany
  deriving DecidableEq, Repr

/-- The row that `seed_company` adds, but for its defaults. -/
def baseline : CompanyWrite where
  legalName := "CH-TECH"
  displayName := "CH-TECH"
  tagline := some ("Construimos software moderno, automatizaciones con IA y " ++
    "productos digitales escalables para empresas que quieren crecer.")
  mission := some ("Diseñar, desarrollar e implementar soluciones tecnológicas que " ++
    "ayuden a empresas a automatizar procesos, mejorar su operación " ++
    "y acelerar su crecimiento mediante software e inteligencia artificial.")
  vision := some ("Convertir a CH-TECH en una empresa capaz de combinar Desarrollo " ++
    "de Software, Inteligencia Artificial, Automatización, Productos " ++
    "SaaS, Consultoría Tecnológica e Investigación e Innovación bajo una misma marca.")
  email := none
  phone := none
  address := none
  socialLinks := none

/-- Where a writer stands. -/
inductive Pc where
  | select
  | commit (found : Option CompanyModel)
  | returned (company : Option Company)
  | raised (error : Raised)
  deriving DecidableEq

structure State where
  companies : Companies
  writers : Nat → Option (Request × Pc)

/-- No writer yet. -/
def State.init (companies : Companies) : State := ⟨companies, fun _ => none⟩

inductive Label where
  | call (pid : Nat) (request : Request)
  /-- `SELECT … LIMIT 1`, with the engine's choice of the first row. -/
  | select (pid : Nat) (ties : Ties)
  | commit (pid : Nat) (defaults : Defaults) (now : Instant)
  /-- The transaction is lost, or another row of `main` is rejected. -/
  | rollback (pid : Nat)

def State.move (state : State) (pid : Nat) (request : Request) (pc : Pc) :
    Nat → Option (Request × Pc) :=
  Function.update state.writers pid (some (request, pc))

/-- `refresh` and `_to_entity`. -/
def refreshed (companies : Companies) (id : UUID) : Except Raised (Option Company) := do
  match ← repository.select companies id with
  | none => .error .operationalError
  | some model => model.toEntity.map some

/-- What a writer does with the row it found, up to its commit. -/
def write (defaults : Defaults) (now : Instant) (companies : Companies) :
    Request → Option CompanyModel → Except Raised (Option UUID × Companies)
  | .updateCompany data, none =>
      (repository.commitNew (fun _ => true) defaults data companies).map
        fun (model, next) => (some model.id, next)
  | .updateCompany data, some model =>
      (repository.reported (Repository.updateLoaded columns (fun _ => true) now model
        (repository.assign data model) companies)).map
          fun (changed, next) => (some changed.id, next)
  | .seedCompany, none =>
      (repository.commitNew (fun _ => true) defaults baseline companies).map
        fun (_, next) => (none, next)
  | .seedCompany, some _ => .ok (none, companies)

/-- What a writer answers after its commit. -/
def answer (companies : Companies) : Option UUID → Pc
  | none => .returned none
  | some id =>
      match refreshed companies id with
      | .ok company => .returned company
      | .error error => .raised error

def step : Machine State Label
  | state, .call pid request =>
      match state.writers pid with
      | none => some { state with writers := state.move pid request .select }
      | some _ => none
  | state, .select pid ties =>
      match state.writers pid with
      | some (request, .select) =>
          some { state with
            writers := state.move pid request (.commit (selectFirst state.companies ties).head?) }
      | _ => none
  | state, .commit pid defaults now =>
      match state.writers pid with
      | some (request, .commit found) =>
          match write defaults now state.companies request found with
          | .error error => some { state with writers := state.move pid request (.raised error) }
          | .ok (written, companies) =>
              some { state with
                companies
                writers := state.move pid request (answer companies written) }
      | _ => none
  | state, .rollback pid =>
      match state.writers pid with
      | some (request, .select) | some (request, .commit _) =>
          some { state with writers := state.move pid request (.raised .operationalError) }
      | _ => none

/-- A writer that found no row commits while there still is none. -/
def stillEmpty (state : State) : Label → Bool
  | .commit pid _ _ =>
      match state.writers pid with
      | some (_, .commit none) => state.companies.rows.isEmpty
      | _ => true
  | .call .. | .select .. | .rollback _ => true

abbrev StillEmpty (state : State) (label : Label) : Prop := stillEmpty state label = true

/-! ## What a writer does to the table -/

/-- The primary keys of the table. -/
def keys (companies : Companies) : List UUID := companies.rows.map CompanyModel.id

theorem write_keys {defaults : Defaults} {now : Instant} {companies next : Companies}
    {request : Request} {found : Option CompanyModel} {written : Option UUID}
    (done : write defaults now companies request found = .ok (written, next)) :
    keys next = keys companies ∨ found = none ∧ ∃ id, keys next = keys companies ++ [id] := by
  cases found with
  | none =>
      have inserted : ∃ data model, repository.commitNew (fun _ => true) defaults data companies =
          .ok (model, next) := by
        cases request with
        | updateCompany data =>
            rcases Result.map_eq_ok.mp done with ⟨⟨model, rows⟩, inserted, pair⟩
            cases pair
            exact ⟨data, model, inserted⟩
        | seedCompany =>
            rcases Result.map_eq_ok.mp done with ⟨⟨model, rows⟩, inserted, pair⟩
            cases pair
            exact ⟨baseline, model, inserted⟩
      rcases inserted with ⟨data, model, inserted⟩
      rcases Result.map_eq_ok.mp inserted with ⟨rows, inserted, pair⟩
      cases pair
      have stored := Repository.flush_eq_ok (Repository.reported_eq_ok inserted)
      refine .inr ⟨rfl, defaults.id, ?_⟩
      rw [keys, (Table.insert?_eq_some.mp stored.2).2, List.map_append]
      rfl
  | some model =>
      cases request with
      | updateCompany data =>
          rcases Result.map_eq_ok.mp done with ⟨⟨changed, rows⟩, updated, pair⟩
          cases pair
          exact .inl (Repository.updateLoaded_keys (Repository.reported_eq_ok updated))
      | seedCompany =>
          cases done
          exact .inl rfl

/-- A step adds a row only for a writer that found none. -/
theorem step_keys {state next : State} {label : Label} (stepped : step state label = some next) :
    keys next.companies = keys state.companies ∨
      ∃ pid defaults now request id, label = .commit pid defaults now ∧
        state.writers pid = some (request, .commit none) ∧
        keys next.companies = keys state.companies ++ [id] := by
  cases label with
  | call pid request =>
      simp only [step] at stepped
      split at stepped
      · cases stepped
        exact .inl rfl
      · cases stepped
  | select pid ties =>
      simp only [step] at stepped
      split at stepped
      · cases stepped
        exact .inl rfl
      · cases stepped
  | commit pid defaults now =>
      simp only [step] at stepped
      split at stepped
      next request found present =>
        split at stepped
        next =>
          cases stepped
          exact .inl rfl
        next written companies done =>
          cases stepped
          rcases write_keys done with kept | ⟨missing, id, added⟩
          · exact .inl kept
          · rw [missing] at present
            exact .inr ⟨pid, defaults, now, request, id, rfl, present, added⟩
      next => cases stepped
  | rollback pid =>
      simp only [step] at stepped
      split at stepped
      · cases stepped
        exact .inl rfl
      · cases stepped
        exact .inl rfl
      · cases stepped

/-- At most one row, and once there is one it stays the same row. -/
theorem step_single {state next : State} {label : Label} (met : StillEmpty state label)
    (stepped : step state label = some next) :
    keys next.companies = keys state.companies ∨
      keys state.companies = [] ∧ ∃ id, keys next.companies = [id] := by
  rcases step_keys stepped with kept | ⟨pid, defaults, now, request, id, equal, present, added⟩
  · exact .inl kept
  · subst equal
    simp only [StillEmpty, stillEmpty, present, List.isEmpty_iff] at met
    have none : keys state.companies = [] := by rw [keys, met, List.map_nil]
    rw [none] at added
    exact .inr ⟨none, id, added⟩

theorem keys_length_le {start last : State} (run : Machine.Reaches step StillEmpty start last)
    (initially : (keys start.companies).length ≤ 1) : (keys last.companies).length ≤ 1 := by
  refine run.invariant (fun state => (keys state.companies).length ≤ 1) ?_ initially
  intro state label next single met stepped
  rcases step_single met stepped with kept | ⟨_, id, one⟩
  · rw [kept]
    exact single
  · rw [one]
    exact Nat.le_refl 1

theorem keys_stay {start last : State} {id : UUID}
    (run : Machine.Reaches step StillEmpty start last) (initially : keys start.companies = [id]) :
    keys last.companies = [id] := by
  refine run.invariant (fun state => keys state.companies = [id]) ?_ initially
  intro state label next one met stepped
  rcases step_single met stepped with kept | ⟨none, _⟩
  · rw [kept, one]
  · rw [one] at none
    cases none

omit [Mysql] in
/-- Of one row there is one order. -/
theorem selectFirst_of_single {companies : Companies} (single : companies.rows.length ≤ 1)
    (ties : Ties) : selectFirst companies ties = companies.rows := by
  simp only [selectFirst]
  match rows : companies.rows with
  | [] => rfl
  | [_] => rfl
  | _ :: _ :: _ =>
      rw [rows] at single
      simp at single

/-- While no writer that found the table empty commits after another one's row, the table
holds at most one row, every read and every later update selects that row, and it is never
replaced by another. -/
theorem company_singleton {state last : State}
    (reached : Machine.Reaches step StillEmpty (State.init .empty) state)
    (later : Machine.Reaches step StillEmpty state last) :
    state.companies.rows.length ≤ 1 ∧
      (∀ ties, selectFirst state.companies ties = state.companies.rows) ∧
      ∀ model ∈ state.companies.rows, last.companies.rows.map CompanyModel.id = [model.id] := by
  have counted := keys_length_le reached (Nat.zero_le 1)
  have single : state.companies.rows.length ≤ 1 := by
    rw [keys, List.length_map] at counted
    exact counted
  refine ⟨single, selectFirst_of_single single, ?_⟩
  intro model member
  apply keys_stay later
  match rows : state.companies.rows with
  | [] =>
      rw [rows] at member
      cases member
  | [row] =>
      rw [rows] at member
      rw [keys, rows, List.mem_singleton.mp member]
      rfl
  | _ :: _ :: _ =>
      rw [rows] at single
      simp at single

end

namespace Sample

open Content.Sample

attribute [local instance] unicode mysql

def profile : CompanyWrite where
  legalName := "CH-TECH"
  displayName := "CH-TECH"
  tagline := none
  mission := none
  vision := none
  email := none
  phone := none
  address := none
  socialLinks := none

/-- Two updates both find the table empty. -/
def overlapping : List Label := [
  .call 0 (.updateCompany profile), .call 1 (.updateCompany profile),
  .select 0 fun _ => 0, .select 1 fun _ => 0,
  .commit 0 ⟨10, 0, 0⟩ 0, .commit 1 ⟨11, 1, 1⟩ 1]

theorem two_companies :
    ¬ ∀ state, Machine.Reaches step Machine.Any (State.init .empty) state →
      state.companies.rows.length ≤ 1 := by
  intro claim
  obtain ⟨state, executed⟩ := Option.isSome_iff_exists.mp
    (by decide : (Machine.exec step (State.init .empty) overlapping).isSome)
  have rows : state.companies.rows.length = 2 :=
    Machine.read_of_map (fun state => state.companies.rows.length) executed (by decide)
  have single := claim state ⟨_, Machine.Runs.of_exec (fun _ _ _ => trivial) executed⟩
  rw [rows] at single
  omega

/-- The first update commits before the second one looks. -/
def first : List Label := [
  .call 0 (.updateCompany profile), .select 0 fun _ => 0, .commit 0 ⟨10, 0, 0⟩ 0]

def second : List Label := [
  .call 1 (.updateCompany profile), .select 1 fun _ => 0, .commit 1 ⟨11, 1, 1⟩ 1]

theorem company_singleton_sequential :
    ∃ state last, Machine.execIf step StillEmpty (State.init .empty) first = some state ∧
      Machine.execIf step StillEmpty state second = some last ∧
      state.companies.rows.length ≤ 1 ∧
      (∀ ties, selectFirst state.companies ties = state.companies.rows) ∧
      ∀ model ∈ state.companies.rows, last.companies.rows.map CompanyModel.id = [model.id] := by
  obtain ⟨last, executed⟩ := Option.isSome_iff_exists.mp
    (by decide : ((Machine.execIf step StillEmpty (State.init .empty) first).bind fun state =>
      Machine.execIf step StillEmpty state second).isSome)
  obtain ⟨state, created, updated⟩ := Option.bind_eq_some_iff.mp executed
  exact ⟨state, last, created, updated,
    company_singleton ⟨_, Machine.Runs.of_execIf created⟩ ⟨_, Machine.Runs.of_execIf updated⟩⟩

end Sample

end ChTech.Content.Singleton
