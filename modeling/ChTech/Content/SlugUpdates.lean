import ChTech.Content.Conversions
import ChTech.Content.Slugged
import ChTech.Content.Visibility

/-!
# Slug conflicts of an update

`update` of a project or an article, running alone.  A conflict is reported as one when
there are no technologies to select; otherwise the flush before their selection raises it
outside the `try`.
-/

namespace ChTech.Content

open Foundation

open TechnologyRepository (Technologies)

/-- An error that comes from the driver. -/
def Raised.isDatabaseError : Raised → Bool
  | .integrityError | .dataError | .operationalError => true
  | _ => false

section

variable {Model Input Entity : Type} {repo : Repository Model Input Entity}

theorem Repository.select_of_mem {table : repo.Rows} {model : Model}
    (member : model ∈ table.rows) : repo.select table (repo.key model) = .ok (some model) := by
  have found : (table.find? fun row => repo.key row = repo.key model) = some model := by
    apply Table.find?_of_unique member (decide_eq_true rfl)
    intro other otherMem same
    exact repo.eq_of_key otherMem member (of_decide_eq_true same)
  rw [select_eq, found]

end

section

variable [PyUnicode] [Collation] [Mysql] {Model Input Entity : Type}
  {repo : Repository Model Input Entity} (slugged : Slugged repo)

/-- The links after the technologies of an owner have been replaced. -/
def relinked (links : Links) (owner : UUID) (loaded assigned : List UUID) : List (UUID × UUID) :=
  (links.rows.filter fun link =>
    !(link.1 == owner && loaded.contains link.2 && !assigned.contains link.2)) ++
    (assigned.filter fun technologyId => !loaded.contains technologyId).map fun technologyId =>
      (owner, technologyId)

omit [PyUnicode] [Collation] [Mysql] in
/-- Against the links as they are no insertion clashes. -/
theorem relink_current {links : Links} {owner : UUID} {loaded assigned : List UUID}
    (distinct : assigned.Nodup)
    (current : ∀ id ∈ assigned, (owner, id) ∈ links.rows → id ∈ loaded) :
    ∃ next : Links, Tagged.relink links owner loaded assigned = some next ∧
      next.rows = relinked links owner loaded assigned := by
  apply Tagged.insertLinks (distinct.sublist List.filter_sublist)
  intro id member present
  rcases List.mem_filter.mp member with ⟨wanted, new⟩
  have stored := (Table.mem_delete.mp present).1
  simp [current id wanted stored] at new

/-- The technologies that an owner is loaded with. -/
def loadedIds (tagged : Tagged repo) (technologies : Technologies) (ties : Ties)
    (owner : UUID) : List UUID :=
  (tagged.technologiesOf technologies ties owner).map TechnologyModel.id

omit [Mysql] in
theorem mem_loadedIds {tagged : Tagged repo} {technologies : Technologies} {ties : Ties}
    {owner id : UUID} : id ∈ loadedIds tagged technologies ties owner ↔
      (owner, id) ∈ tagged.links.rows ∧ ∃ technology ∈ technologies.rows, technology.id = id := by
  simp only [loadedIds, Tagged.technologiesOf, List.mem_map, Query.mem_orderBy, List.mem_filter,
    List.contains_iff_mem]
  constructor
  · rintro ⟨technology, ⟨member, linked⟩, rfl⟩
    exact ⟨linked, technology, member, rfl⟩
  · rintro ⟨linked, technology, member, rfl⟩
    exact ⟨technology, ⟨member, linked⟩, rfl⟩

variable {technologies : Technologies} {ties : Ties} {technologyIds : List UUID}
  {referenced : Model → Bool} {now : Instant} {data : Input} {model : Model}
  {tagged : Tagged repo}

section

omit [PyUnicode]

omit [Collation] in
theorem updateRow_same (same : repo.same model (repo.assign data model) = true)
    (rows : repo.Rows) :
    repo.updateRow referenced now model (repo.assign data model) rows =
      .ok (repo.assign data model, rows) :=
  if_pos same

/-- A changed row is refused for its values, for a check or for its slug, in this order. -/
def refusal (rows : repo.Rows) (now : Instant) (data : Input) (model : Model) : Option Raised :=
  if !(repo.cells (slugged.touched now data model)).all Cell.storable then some .dataError
  else if !repo.checks (slugged.touched now data model) then some .operationalError
  else if slugged.taken rows (repo.key model) (slugged.wanted data) then some .integrityError
  else none

variable {slugged}

/-- The flush of a changed row: it is refused, or written. -/
theorem updateRow_changed {rows : repo.Rows} (member : model ∈ rows.rows)
    (references : referenced (slugged.touched now data model) = true)
    (changed : repo.same model (repo.assign data model) = false) :
    (∃ raised, refusal slugged rows now data model = some raised ∧
      repo.updateRow referenced now model (repo.assign data model) rows = .error raised) ∨
    refusal slugged rows now data model = none ∧ ∃ next : repo.Rows,
      (next.rows = rows.rows.map fun row => if repo.key row = repo.key model then
        repo.stored (slugged.touched now data model) else row) ∧
      repo.updateRow referenced now model (repo.assign data model) rows =
        .ok (slugged.touched now data model, next) := by
  have flushed : repo.updateRow referenced now model (repo.assign data model) rows =
      (repo.flush (repo.cells (slugged.touched now data model))
        (repo.checks (slugged.touched now data model)) true
        (rows.update? fun row => if repo.key row = repo.key model then
          repo.stored (slugged.touched now data model) else row)).map
        fun next => (slugged.touched now data model, next) := by
    rw [← references]
    simp only [Repository.updateRow, changed, Bool.false_eq_true, if_false, Slugged.touched]
  have key : repo.key (repo.stored (slugged.touched now data model)) = repo.key model :=
    Slugged.touched_key
  have slug : slugged.slug (repo.stored (slugged.touched now data model)) = slugged.wanted data :=
    Slugged.touched_slug
  rw [flushed]
  simp only [refusal, Repository.flush]
  cases storable : (repo.cells (slugged.touched now data model)).all Cell.storable with
  | false => exact .inl ⟨.dataError, rfl, rfl⟩
  | true =>
      cases checked : repo.checks (slugged.touched now data model) with
      | false => exact .inl ⟨.operationalError, rfl, rfl⟩
      | true =>
          cases held : slugged.taken rows (repo.key model) (slugged.wanted data) with
          | true =>
              rw [Slugged.update?_of_taken member key (slug ▸ held)]
              exact .inl ⟨.integrityError, rfl, rfl⟩
          | false =>
              rcases Slugged.update?_of_free key (slug ▸ held) with ⟨next, updated, written⟩
              rw [updated]
              exact .inr ⟨rfl, next, written, rfl⟩

end

/-- What a refused flush is reported as. -/
def surfaced (repo : Repository Model Input Entity) (technologyIds : List UUID)
    (raised : Raised) : Raised :=
  if technologyIds.isEmpty && raised = .integrityError then repo.conflict else raised

omit [PyUnicode] [Collation] [Mysql] in
theorem autoflushed_error {α : Type} {raised : Raised} :
    Tagged.autoflushed repo technologyIds (.error raised : Except Raised α) =
      .error (surfaced repo technologyIds raised) := by
  simp only [Tagged.autoflushed, surfaced]
  cases technologyIds.isEmpty with
  | true => simp [Repository.reported, refusedAs, Except.mapError]
  | false => simp

theorem commitChange_error {raised : Raised}
    (refused : repo.updateRow referenced now model (repo.assign data model) tagged.rows =
      .error raised) :
    tagged.commitChange technologies ties technologyIds referenced now model data =
      .error (surfaced repo technologyIds raised) := by
  simp only [Tagged.commitChange, refused, autoflushed_error]
  rfl

theorem commitChange_ok {changed : Model} {rows : repo.Rows}
    (updated : repo.updateRow referenced now model (repo.assign data model) tagged.rows =
      .ok (changed, rows)) :
    ∃ links : Links,
      links.rows = relinked tagged.links (repo.key model)
        (loadedIds tagged technologies ties (repo.key model))
        (Tagged.getTechnologies technologies technologyIds) ∧
      tagged.commitChange technologies ties technologyIds referenced now model data =
        .ok (changed, ⟨rows, links⟩) := by
  have current : ∀ id ∈ Tagged.getTechnologies technologies technologyIds,
      (repo.key model, id) ∈ tagged.links.rows →
        id ∈ loadedIds tagged technologies ties (repo.key model) := fun id wanted linked =>
    mem_loadedIds.mpr ⟨linked, (Tagged.mem_getTechnologies.mp wanted).2⟩
  rcases relink_current (Tagged.nodup_getTechnologies technologies technologyIds) current with
    ⟨links, linked, written⟩
  refine ⟨links, written, ?_⟩
  have flushed : Tagged.autoflushed repo technologyIds (.ok (changed, rows) : Except Raised _) =
      .ok (changed, rows) := by
    simp only [Tagged.autoflushed]
    split <;> rfl
  simp only [loadedIds] at linked
  simp only [Tagged.commitChange, updated, flushed]
  simp only [bind, Except.bind, linked]
  rfl

/-- An update of a stored row. -/
theorem save_put (member : model ∈ tagged.rows.rows) :
    Tagged.save technologies ties technologyIds referenced (.put (repo.key model) now) data tagged =
      match tagged.commitChange technologies ties technologyIds referenced now model data with
      | .error raised => (.error raised, tagged)
      | .ok (changed, next) => ((next.toRow technologies ties changed).map some, next) := by
  unfold Tagged.save
  change Program.bind _ _ _ = _
  simp only [Program.bind, Tagged.commit, Program.transact, Repository.select_of_mem member,
    bind, Except.bind]
  cases tagged.commitChange technologies ties technologyIds referenced now model data with
  | error raised => rfl
  | ok pair => rfl

theorem save_post {defaults : Defaults} (ties : Ties) :
    Tagged.save technologies ties technologyIds referenced (.post defaults) data tagged =
      match tagged.commitNew technologies technologyIds referenced defaults data with
      | .error raised => (.error raised, tagged)
      | .ok (model, next) => ((next.toRow technologies ties model).map some, next) := by
  unfold Tagged.save
  change Program.bind _ _ _ = _
  simp only [Program.bind, Tagged.commit, Program.transact]
  cases tagged.commitNew technologies technologyIds referenced defaults data with
  | error raised => rfl
  | ok pair => rfl

omit [Mysql] in
theorem mem_relinked {technology : TechnologyModel} (stored : technology ∈ technologies.rows)
    {owner : UUID} :
    (owner, technology.id) ∈ relinked tagged.links owner
        (loadedIds tagged technologies ties owner)
        (Tagged.getTechnologies technologies technologyIds) ↔
      technology.id ∈ technologyIds := by
  have assigned : technology.id ∈ Tagged.getTechnologies technologies technologyIds ↔
      technology.id ∈ technologyIds :=
    Tagged.mem_getTechnologies.trans ⟨And.left, fun wanted => ⟨wanted, technology, stored, rfl⟩⟩
  have loaded : technology.id ∈ loadedIds tagged technologies ties owner ↔
      (owner, technology.id) ∈ tagged.links.rows :=
    mem_loadedIds.trans ⟨And.left, fun linked => ⟨linked, technology, stored, rfl⟩⟩
  simp only [relinked, List.mem_append, List.mem_filter, List.mem_map, Prod.mk.injEq, true_and,
    exists_eq_right, beq_self_eq_true, Bool.true_and, Bool.not_eq_true', Bool.and_eq_false_iff,
    Bool.not_eq_false', decide_eq_true_eq, List.contains_eq_mem, decide_eq_false_iff_not, assigned,
    loaded]
  constructor
  · rintro (⟨linked, unlinked | wanted⟩ | ⟨wanted, _⟩)
    · exact absurd linked unlinked
    · exact wanted
    · exact wanted
  · intro wanted
    by_cases linked : (owner, technology.id) ∈ tagged.links.rows
    · exact .inl ⟨linked, .inr wanted⟩
    · exact .inr ⟨wanted, linked⟩

/-- The owner has the technologies that are asked for already. -/
def LinksKept (technologies : Technologies) (technologyIds : List UUID) (tagged : Tagged repo)
    (owner : UUID) : Prop :=
  ∀ technology ∈ technologies.rows,
    technology.id ∈ technologyIds ↔ (owner, technology.id) ∈ tagged.links.rows

omit [Mysql] in
theorem relinked_eq_iff {owner : UUID} :
    relinked tagged.links owner (loadedIds tagged technologies ties owner)
        (Tagged.getTechnologies technologies technologyIds) = tagged.links.rows ↔
      LinksKept technologies technologyIds tagged owner := by
  constructor
  · intro same technology stored
    have linked : (owner, technology.id) ∈ relinked tagged.links owner
        (loadedIds tagged technologies ties owner)
        (Tagged.getTechnologies technologies technologyIds) ↔ technology.id ∈ technologyIds :=
      mem_relinked stored
    rw [← linked, same]
  · intro kept
    have removed : (tagged.links.rows.filter fun link => !(link.1 == owner &&
        (loadedIds tagged technologies ties owner).contains link.2 &&
        !(Tagged.getTechnologies technologies technologyIds).contains link.2)) =
        tagged.links.rows := by
      apply List.filter_eq_self.mpr
      rintro ⟨holder, id⟩ member
      by_contra lost
      simp only [Bool.not_eq_true', Bool.not_eq_false, Bool.and_eq_true, beq_iff_eq,
        List.contains_eq_mem, decide_eq_true_eq, decide_eq_false_iff_not] at lost
      obtain ⟨⟨rfl, loaded⟩, unassigned⟩ := lost
      obtain ⟨linked, technology, stored, rfl⟩ := mem_loadedIds.mp loaded
      exact unassigned (Tagged.mem_getTechnologies.mpr
        ⟨(kept technology stored).mpr linked, technology, stored, rfl⟩)
    have added : ((Tagged.getTechnologies technologies technologyIds).filter fun technologyId =>
        !(loadedIds tagged technologies ties owner).contains technologyId) = [] := by
      apply List.filter_eq_nil_iff.mpr
      intro id assigned new
      obtain ⟨wanted, technology, stored, rfl⟩ := Tagged.mem_getTechnologies.mp assigned
      simp only [Bool.not_eq_true', List.contains_eq_mem, decide_eq_false_iff_not] at new
      exact new (mem_loadedIds.mpr
        ⟨(kept technology stored).mp wanted, technology, stored, rfl⟩)
    rw [relinked, removed, added, List.map_nil, List.append_nil]

/-! ## The outcome -/

/-- Everything that is read back after the commit is readable. -/
def converts (repo : Repository Model Input Entity) (technologies : Technologies)
    (technologyIds : List UUID) (model : Model) : Bool :=
  (repo.toEntity model).isOk &&
    (technologies.rows.filter fun technology => technologyIds.contains technology.id).all
      fun technology => technology.toEntity.isOk

/-- A conflict of slugs is reported as one, no other error of the database is raised, and
what raises changes nothing. -/
structure Reports (id : UUID) (data : Input) (before : Tagged repo)
    (ended : Except Raised (Option (WithTechnologies Entity)) × Tagged repo) : Prop where
  conflict : ended.1 = .error repo.conflict ↔
    slugged.taken before.rows id (slugged.wanted data) = true
  clean : slugged.taken before.rows id (slugged.wanted data) = false →
    ∀ raised, ended.1 = .error raised → Raised.isDatabaseError raised = false
  unchanged : ∀ raised, ended.1 = .error raised → ended.2 = before

/-- The row changes to values that its columns take, if at all; with a conflict there are no
technologies to select; and without one what is written is readable, if anything is. -/
structure Settled (technologies : Technologies) (technologyIds : List UUID) (now : Instant)
    (data : Input) (model : Model) (before : Tagged repo) : Prop where
  fits : repo.same model (repo.assign data model) = true ∨
    (repo.cells (slugged.touched now data model)).all Cell.storable = true ∧
      repo.checks (slugged.touched now data model) = true
  selected : slugged.taken before.rows (repo.key model) (slugged.wanted data) = true →
    technologyIds = []
  readable : slugged.taken before.rows (repo.key model) (slugged.wanted data) = false →
    converts repo technologies technologyIds (repo.assign data model) = true ∨
      (repo.same model (repo.assign data model) = true ∨
        repo.stored (slugged.touched now data model) = model) ∧
      LinksKept technologies technologyIds before (repo.key model)

variable {slugged}

omit [Mysql] in
/-- The row that is read back converts when the written one does. -/
theorem toRow_isOk_of_links {next : Tagged repo} {owner : Model}
    (linked : ∀ technology ∈ technologies.rows,
      (repo.key owner, technology.id) ∈ next.links.rows ↔ technology.id ∈ technologyIds) :
    (next.toRow technologies ties owner).isOk =
      converts repo technologies technologyIds owner := by
  simp only [Tagged.toRow, converts]
  rw [Result.isOk_bind_const fun _ => Result.isOk_bind_pure, Result.isOk_mapM_eq]
  congr 1
  rw [Bool.eq_iff_iff, List.all_eq_true, List.all_eq_true]
  simp only [Tagged.technologiesOf, Query.mem_orderBy, List.mem_filter, List.contains_iff_mem]
  constructor
  · rintro each technology ⟨stored, wanted⟩
    exact each technology ⟨stored, (linked technology stored).mpr wanted⟩
  · rintro each technology ⟨stored, present⟩
    exact each technology ⟨stored, (linked technology stored).mp present⟩

omit [PyUnicode] [Mysql] in
/-- What changes nothing keeps the slug. -/
theorem taken_of_same {rows : repo.Rows} (member : model ∈ rows.rows)
    (same : repo.same model (repo.assign data model) = true) :
    slugged.taken rows (repo.key model) (slugged.wanted data) = false := by
  have kept : slugged.slug model = slugged.wanted data :=
    (slugged.sameSlug _ _ same).trans (slugged.assignSlug data model)
  rw [← kept]
  exact Slugged.taken_own member

omit [Mysql] in
/-- What is refused changes nothing. -/
theorem reports_refused {raised : Raised} {id : UUID} :
    Reports slugged id data tagged (.error raised, tagged) ↔
      (raised = repo.conflict ↔ slugged.taken tagged.rows id (slugged.wanted data) = true) ∧
      (slugged.taken tagged.rows id (slugged.wanted data) = false →
        Raised.isDatabaseError raised = false) := by
  constructor
  · intro reports
    constructor
    · rw [← reports.conflict, Except.error.injEq]
    · exact fun free => reports.clean free raised rfl
  · rintro ⟨conflict, clean⟩
    constructor
    · rw [Except.error.injEq, conflict]
    · intro free other same
      cases same
      exact clean free
    · exact fun _ _ => rfl

omit [Mysql] in
/-- What is written has to be readable, unless nothing was. -/
theorem reports_written {id : UUID} {changed : Model} {next : Tagged repo}
    (raises : RaisesValueError (repo.toEntity changed))
    (free : slugged.taken tagged.rows id (slugged.wanted data) = false) :
    Reports slugged id data tagged ((next.toRow technologies ties changed).map some, next) ↔
      (next.toRow technologies ties changed).isOk = true ∨ next = tagged := by
  obtain ⟨message, conflict⟩ := slugged.conflict
  cases ended : next.toRow technologies ties changed with
  | ok row =>
      simp only [Result.isOk_ok, true_or, iff_true]
      constructor
      · rw [free]
        constructor
        · intro equal
          cases equal
        · intro held
          cases held
      · intro _ raised equal
        cases equal
      · intro raised equal
        cases equal
  | error raised =>
      obtain ⟨text, valueError⟩ := Tagged.toRow_raises raises raised ended
      simp only [Result.isOk_error, Bool.false_eq_true, false_or]
      constructor
      · exact fun reports => reports.unchanged raised rfl
      · intro same
        constructor
        · rw [free, conflict, valueError]
          constructor
          · intro equal
            cases equal
          · intro held
            cases held
        · intro _ other equal
          cases equal
          rw [valueError]
          rfl
        · exact fun _ _ => same

omit [PyUnicode] [Collation] [Mysql] in
theorem tagged_eq_iff {next : Tagged repo} :
    next = tagged ↔ next.rows.rows = tagged.rows.rows ∧ next.links.rows = tagged.links.rows := by
  constructor
  · intro same
    subst same
    exact ⟨rfl, rfl⟩
  · rintro ⟨rows, links⟩
    cases next
    cases tagged
    rw [Tagged.mk.injEq]
    exact ⟨Table.ext rows, Table.ext links⟩

omit [PyUnicode] [Collation] [Mysql] in
/-- Writing a row leaves the table as it was exactly when the row is what it was. -/
theorem map_written_eq_iff {rows : repo.Rows} {written : Model} (member : model ∈ rows.rows) :
    (rows.rows.map fun row => if repo.key row = repo.key model then written else row) =
        rows.rows ↔ written = model := by
  constructor
  · intro same
    have own := List.map_inj_left.mp (same.trans (List.map_id rows.rows).symm) model member
    rw [if_pos rfl] at own
    exact own
  · intro same
    refine (List.map_congr_left ?_).trans (List.map_id rows.rows)
    intro row rowMem
    split
    next own => rw [same, repo.eq_of_key rowMem member own, id]
    next => rfl

omit [Mysql] in
theorem reports_committed {changed : Model} {rows : repo.Rows} {links : Links}
    (raises : ∀ model, RaisesValueError (repo.toEntity model))
    (free : slugged.taken tagged.rows (repo.key model) (slugged.wanted data) = false)
    (readable : (repo.toEntity changed).isOk = (repo.toEntity (repo.assign data model)).isOk)
    (key : repo.key changed = repo.key model)
    (linked : links.rows = relinked tagged.links (repo.key model)
      (loadedIds tagged technologies ties (repo.key model))
      (Tagged.getTechnologies technologies technologyIds)) :
    Reports slugged (repo.key model) data tagged
        ((Tagged.toRow ⟨rows, links⟩ technologies ties changed).map some, ⟨rows, links⟩) ↔
      converts repo technologies technologyIds (repo.assign data model) = true ∨
        rows.rows = tagged.rows.rows ∧
          LinksKept technologies technologyIds tagged (repo.key model) := by
  have answered : (Tagged.toRow (⟨rows, links⟩ : Tagged repo) technologies ties changed).isOk =
      converts repo technologies technologyIds (repo.assign data model) := by
    have present : ∀ technology ∈ technologies.rows,
        (repo.key changed, technology.id) ∈ links.rows ↔ technology.id ∈ technologyIds := by
      intro technology stored
      rw [key, linked, mem_relinked stored]
    rw [toRow_isOk_of_links present, converts, readable, converts]
  rw [reports_written (raises changed) free, answered, tagged_eq_iff, linked, relinked_eq_iff]

omit [PyUnicode] in
theorem refusal_eq_none {rows : repo.Rows} : refusal slugged rows now data model = none ↔
    (repo.cells (slugged.touched now data model)).all Cell.storable = true ∧
      repo.checks (slugged.touched now data model) = true ∧
      slugged.taken rows (repo.key model) (slugged.wanted data) = false := by
  simp only [refusal]
  cases (repo.cells (slugged.touched now data model)).all Cell.storable with
  | false => simp
  | true =>
      cases repo.checks (slugged.touched now data model) with
      | false => simp
      | true => cases slugged.taken rows (repo.key model) (slugged.wanted data) <;> simp

omit [PyUnicode] [Mysql] in
/-- An error that is no `IntegrityError` is wrong with a conflict and without. -/
theorem surfaced_unfit {raised : Raised} {held : Bool} (other : raised ≠ .integrityError)
    (database : Raised.isDatabaseError raised = true) (slugged : Slugged repo) :
    ¬((surfaced repo technologyIds raised = repo.conflict ↔ held = true) ∧
      (held = false → Raised.isDatabaseError (surfaced repo technologyIds raised) = false)) := by
  obtain ⟨message, conflict⟩ := slugged.conflict
  have same : surfaced repo technologyIds raised = raised := by
    simp only [surfaced, other, decide_false, Bool.and_false, Bool.false_eq_true, if_false]
  rw [same]
  rintro ⟨reported, clean⟩
  cases held with
  | true =>
      rw [reported.mpr rfl, conflict] at database
      cases database
  | false =>
      rw [clean rfl] at database
      cases database

/-- A refusal is right when the slug is the reason and nothing has been selected. -/
theorem refusal_settled {raised : Raised}
    (changed : repo.same model (repo.assign data model) = false)
    (refused : refusal slugged tagged.rows now data model = some raised) :
    ((surfaced repo technologyIds raised = repo.conflict ↔
        slugged.taken tagged.rows (repo.key model) (slugged.wanted data) = true) ∧
      (slugged.taken tagged.rows (repo.key model) (slugged.wanted data) = false →
        Raised.isDatabaseError (surfaced repo technologyIds raised) = false)) ↔
      Settled slugged technologies technologyIds now data model tagged := by
  have fitted : Settled slugged technologies technologyIds now data model tagged →
      (repo.cells (slugged.touched now data model)).all Cell.storable = true ∧
        repo.checks (slugged.touched now data model) = true := by
    intro settled
    rcases settled.fits with same | fits
    · rw [changed] at same
      cases same
    · exact fits
  simp only [refusal] at refused
  split at refused
  next unstorable =>
    cases refused
    apply iff_of_false (surfaced_unfit (by simp) rfl slugged)
    intro settled
    rw [(fitted settled).1] at unstorable
    cases unstorable
  next storable =>
    split at refused
    next unchecked =>
      cases refused
      apply iff_of_false (surfaced_unfit (by simp) rfl slugged)
      intro settled
      rw [(fitted settled).2] at unchecked
      cases unchecked
    next checked =>
      split at refused
      next held =>
        cases refused
        simp only [Bool.not_eq_true, Bool.not_eq_false'] at storable checked
        obtain ⟨message, conflict⟩ := slugged.conflict
        have free : ¬slugged.taken tagged.rows (repo.key model) (slugged.wanted data) = false := by
          rw [held]
          exact Bool.noConfusion
        constructor
        · rintro ⟨reported, _⟩
          refine ⟨.inr ⟨storable, checked⟩, fun _ => ?_, fun missing => absurd missing free⟩
          have surfaces := reported.mpr held
          simp only [surfaced, conflict] at surfaces
          split at surfaces
          next empty =>
            rw [Bool.and_eq_true, List.isEmpty_iff] at empty
            exact empty.1
          next => cases surfaces
        · intro settled
          rw [settled.selected held]
          exact ⟨⟨fun _ => held, fun _ => rfl⟩, fun missing => absurd missing free⟩
      next => cases refused

/-- The update alone, exactly. -/
theorem reports_iff (steady : repo.Steady)
    (raises : ∀ model, RaisesValueError (repo.toEntity model)) (member : model ∈ tagged.rows.rows)
    (references : referenced (slugged.touched now data model) = true) :
    Reports slugged (repo.key model) data tagged
        (Tagged.save technologies ties technologyIds referenced (.put (repo.key model) now) data
          tagged) ↔
      Settled slugged technologies technologyIds now data model tagged := by
  rw [save_put member]
  cases same : repo.same model (repo.assign data model) with
  | true =>
      have free : slugged.taken tagged.rows (repo.key model) (slugged.wanted data) = false :=
        taken_of_same member same
      have updated : repo.updateRow referenced now model (repo.assign data model) tagged.rows =
          .ok (repo.assign data model, tagged.rows) := updateRow_same same tagged.rows
      obtain ⟨links, linked, committed⟩ := commitChange_ok updated
      rw [committed]
      refine (reports_committed raises free rfl (repo.keeps.assign data model) linked).trans ?_
      constructor
      · intro settled
        refine ⟨.inl same, fun held => absurd (free.symm.trans held) (by decide), ?_⟩
        exact fun _ => settled.imp_right fun kept => ⟨.inl same, kept.2⟩
      · intro settled
        exact (settled.readable free).imp_right fun kept => ⟨rfl, kept.2⟩
  | false =>
      rcases updateRow_changed member references same with
        ⟨raised, refused, failed⟩ | ⟨accepted, rows, written, updated⟩
      · rw [commitChange_error failed]
        exact reports_refused.trans (refusal_settled same refused)
      · obtain ⟨links, linked, committed⟩ := commitChange_ok updated
        obtain ⟨storable, checked, free⟩ := refusal_eq_none.mp accepted
        have key : repo.key (slugged.touched now data model) = repo.key model := by
          rw [Slugged.touched, repo.keeps.touch, repo.keeps.assign]
        rw [committed]
        refine (reports_committed raises free (steady.touch now _) key linked).trans ?_
        rw [written, map_written_eq_iff member]
        constructor
        · intro settled
          refine ⟨.inr ⟨storable, checked⟩, fun held => absurd (free.symm.trans held) (by decide),
            ?_⟩
          exact fun _ => settled.imp_right fun kept => ⟨.inr kept.1, kept.2⟩
        · intro settled
          rcases settled.readable free with readable | ⟨unchanged, kept⟩
          · exact .inl readable
          · rcases unchanged with equal | equal
            · rw [same] at equal
              cases equal
            · exact .inr ⟨equal, kept⟩

end

section

variable [PyUnicode] [Collation] [Mysql] {technologies : Technologies} {ties : Ties} {users : Users}
  {now : Instant}

end

namespace Sample

attribute [local instance] unicode collation mysql

/-- The payload that a stored project was written with, but for its technologies. -/
def replaced (slug : String) (technologyIds : List UUID) : ProjectWrite where
  slug
  title := "Showcase"
  shortDescription := none
  fullDescription := none
  repositoryUrl := none
  liveDemoUrl := none
  coverImage := none
  status := .completed
  visibility := .isPublic
  featured := true
  startedAt := none
  finishedAt := none
  technologyIds

def both : ProjectRepository.Projects where
  rows := ((Table.singleton showcase).insert? prototype).getD .empty
  links := .empty

def author : UserModel where
  id := 7
  name := "Admin"
  email := "admin@ch-tech.dev"
  passwordHash := "hash"
  role := "ADMIN"
  isActive := true
  lastLogin := none
  createdAt := 0
  updatedAt := 0

def essay : ArticleModel where
  id := 5
  authorId := 7
  slug := "essay"
  title := "Essay"
  summary := none
  content := "Text"
  coverImage := none
  readingTime := none
  published := false
  publishedAt := none
  createdAt := 0
  updatedAt := 0

def essays : ArticleRepository.Articles := ⟨Table.singleton essay, .empty⟩

end Sample

end ChTech.Content
