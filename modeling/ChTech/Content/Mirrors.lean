import ChTech.Content.InMemory
import ChTech.Foundation.Transition

/-!
# The dictionaries follow the tables

A row of a dictionary and the row of the table at the same place show the same, up to ids
and timestamps.  Every call keeps it so, and answers the same on both sides.
-/

namespace ChTech.Content.InMemory

open Foundation

open TechnologyRepository (Technologies)

section

variable [PyUnicode] [Collation] [Mysql] {Model Input Entity Face : Type}
  {repo : Repository Model Input Entity}

/-- What a fake and a table have to do with each other; `face` is what an entity shows, up
to ids and timestamps. -/
structure Mirrors (fake : Fake Input Entity) (sql : Sql repo) (Face : Type) extends
    Slugged repo where
  face : Entity → Face
  visible : Model → Bool
  conflictSame : fake.conflict = repo.conflict
  wantedSame : ∀ data, fake.wanted data = wanted data
  faceSlug : ∀ first second, face first = face second → fake.slug first = fake.slug second
  faceVisible : ∀ first second, face first = face second →
    fake.isVisible first = fake.isVisible second
  readsSlug : ∀ model entity, repo.toEntity model = .ok entity →
    fake.slug entity = slug model ∧ slugRe (slug model) = true
  readsVisible : ∀ model entity, repo.toEntity model = .ok entity →
    fake.isVisible entity = visible model
  touches : ∀ now model, (repo.toEntity (repo.touch now model)).map face =
    (repo.toEntity model).map face
  stores : ∀ model, (repo.cells model).all Cell.storable = true →
    (repo.toEntity (repo.stored model)).map face = (repo.toEntity model).map face
  sames : ∀ first second, repo.same first second = true →
    (repo.toEntity first).map face = (repo.toEntity second).map face
  constructs : ∀ id now defaults data, (fake.construct id now data).map face =
    (repo.toEntity (repo.construct defaults data)).map face
  replaces : ∀ now data entity model, (repo.toEntity model).map face = .ok (face entity) →
    (fake.replace now data entity).map face = (repo.toEntity (repo.assign data model)).map face
  refersTouched : ∀ now data model,
    sql.referenced (repo.touch now (repo.assign data model)) = sql.referenced model
  refersStored : ∀ model, sql.referenced (repo.stored model) = sql.referenced model
  getBySlug_eq : ∀ tagged technologies ties slug' visibleOnly,
    sql.getBySlug tagged technologies ties slug' visibleOnly =
      tagged.readOne technologies ties (tagged.rows.rows.filter fun model =>
        Collation.equal (slug model) slug' && (!visibleOnly || visible model))
  getById_eq : ∀ tagged technologies ties id, sql.getById tagged technologies ties id =
    tagged.readOne technologies ties (tagged.rows.rows.filter fun model => repo.key model = id)

/-- The collation tells well-formed slugs apart. -/
def SlugsApart : Prop := ∀ first second, slugRe first = true → slugRe second = true →
  Collation.equal first second = true → first = second

/-- What an answer shows. -/
def Answer.face (face : Entity → Face) : Answer Entity → Option (Face × List Technology) ⊕ Bool
  | .row found => .inl (found.map fun row => (face row.entity, row.technologies))
  | .deleted found => .inr found

/-- Both sides, and what they have answered so far. -/
structure Both (repo : Repository Model Input Entity) where
  memory : Store Entity
  sql : Tagged repo
  answers : List (Except Raised (Answer Entity) × Except Raised (Answer Entity))

def Both.empty : Both repo := ⟨[], ⟨.empty, .empty⟩, []⟩

/-- The same call on both sides. -/
def both (fake : Fake Input Entity) (sql : Sql repo) (technologies : Technologies) :
    Machine (Both repo) (Execution Input)
  | state, execution =>
      let left := fake.perform execution state.memory
      let right := sql.perform technologies execution state.sql
      some ⟨left.2, right.2, state.answers ++ [(left.1, right.1)]⟩

namespace Mirrors

variable {fake : Fake Input Entity} {sql : Sql repo} (mirrors : Mirrors fake sql Face)

/-- The keys name the same row of both sides, or none. -/
def corresponding (state : Both repo) (id rowId : UUID) : Bool :=
  (state.memory.zip state.sql.rows.rows).all fun pair =>
    (pair.1.1 == id) == (repo.key pair.2 == rowId)

/-- Slugs are well formed, there are no technologies, keys are given that correspond, and
generated keys are new. -/
def wellFormed (state : Both repo) (execution : Execution Input) : Bool :=
  match execution.call with
  | .create data =>
      slugRe (mirrors.wanted data) && (sql.technologyIds data).isEmpty &&
        (!state.memory.any fun entry => entry.1 == execution.id) &&
        !state.sql.rows.rows.any fun row => repo.key row == execution.defaults.id
  | .update id rowId data =>
      slugRe (mirrors.wanted data) && (sql.technologyIds data).isEmpty &&
        corresponding state id rowId
  | .delete id rowId | .getById id rowId => corresponding state id rowId
  | .getBySlug slug _ => slugRe slug

/-- A created row fits its columns and, unless its slug is held, refers to a stored row and
converts back; an updated one has a slug that no other row holds, fits its columns and
converts back. -/
def tractable (state : Both repo) (execution : Execution Input) : Bool :=
  match execution.call with
  | .create data =>
      let model := repo.construct execution.defaults data
      (repo.cells model).all Cell.storable && repo.checks model &&
        ((state.sql.rows.rows.any fun row =>
            Collation.equal (mirrors.slug row) (mirrors.wanted data)) ||
          sql.referenced model && (repo.toEntity model).isOk)
  | .update _ rowId data =>
      state.sql.rows.rows.all fun model =>
        repo.key model != rowId ||
          !mirrors.taken state.sql.rows rowId (mirrors.wanted data) &&
            (repo.same model (repo.assign data model) ||
              (repo.cells (mirrors.touched execution.rowNow data model)).all Cell.storable &&
                repo.checks (mirrors.touched execution.rowNow data model)) &&
            (repo.toEntity (repo.assign data model)).isOk
  | .delete .. | .getBySlug .. | .getById .. => true

/-! ## The relation of the stores -/

/-- A row of the dictionary and the row of the table at its place. -/
structure Mirror (entry : UUID × WithTechnologies Entity) (model : Model) : Prop where
  technologies : entry.2.technologies = []
  face : (repo.toEntity model).map mirrors.face = .ok (mirrors.face entry.2.entity)
  referenced : sql.referenced model = true

structure Alike (memory : Store Entity) (tagged : Tagged repo) : Prop where
  rows : List.Forall₂ mirrors.Mirror memory tagged.rows.rows
  links : tagged.links.rows = []

/-- Both sides end alike. -/
structure Together (left : Except Raised (Answer Entity) × Store Entity)
    (right : Except Raised (Answer Entity) × Tagged repo) : Prop where
  answers : left.1.map (Answer.face mirrors.face) = right.1.map (Answer.face mirrors.face)
  alike : mirrors.Alike left.2 right.2

variable {mirrors} {technologies : Technologies} {memory : Store Entity} {tagged : Tagged repo}
  {entry : UUID × WithTechnologies Entity} {model : Model}

omit [Mysql] in
/-- Without links a row comes without technologies. -/
theorem toRow_unlinked (unlinked : tagged.links.rows = []) (ties : Ties) (model : Model) :
    tagged.toRow technologies ties model =
      (repo.toEntity model).map fun entity => ⟨entity, []⟩ := by
  have none : tagged.technologiesOf technologies ties (repo.key model) = [] := by
    rw [List.eq_nil_iff_forall_not_mem]
    intro technology member
    have linked := (List.mem_filter.mp (Query.mem_orderBy.mp member)).2
    rw [unlinked] at linked
    cases linked
  simp only [Tagged.toRow, none]
  cases repo.toEntity model with
  | ok entity => rfl
  | error raised => rfl

theorem Mirror.entity (mirror : mirrors.Mirror entry model) :
    ∃ entity, repo.toEntity model = .ok entity ∧ mirrors.face entity =
      mirrors.face entry.2.entity :=
  Result.map_eq_ok.mp mirror.face

/-- Both sides find a slug in the same rows. -/
theorem Mirror.slug_eq (mirror : mirrors.Mirror entry model) (apart : SlugsApart)
    {slug : String} (valid : slugRe slug = true) :
    (fake.slug entry.2.entity == slug) = Collation.equal (mirrors.slug model) slug := by
  rcases mirror.entity with ⟨entity, converted, face⟩
  rcases mirrors.readsSlug model entity converted with ⟨read, readValid⟩
  rw [← mirrors.faceSlug _ _ face, read, Bool.eq_iff_iff, beq_iff_eq]
  constructor
  · intro same
    rw [same]
    exact BEq.rfl
  · exact apart _ _ readValid valid

theorem Mirror.visible_eq (mirror : mirrors.Mirror entry model) :
    fake.isVisible entry.2.entity = mirrors.visible model := by
  rcases mirror.entity with ⟨entity, converted, face⟩
  rw [← mirrors.faceVisible _ _ face, mirrors.readsVisible model entity converted]

/-- A row that is read on both sides. -/
theorem Mirror.answer (mirror : mirrors.Mirror entry model) (unlinked : tagged.links.rows = [])
    (ties : Ties) :
    (Except.ok (Answer.row (some entry.2)) : Except Raised (Answer Entity)).map
        (Answer.face mirrors.face) =
      (((tagged.toRow technologies ties model).map some).map Answer.row).map
        (Answer.face mirrors.face) := by
  rcases mirror.entity with ⟨entity, converted, face⟩
  rw [toRow_unlinked unlinked, converted]
  simp only [Except.map, Answer.face, Option.map_some, face, mirror.technologies]

/-- What a commit has written converts as on the other side. -/
theorem written_answer {entity : Entity}
    (made : (Except.ok entity : Except Raised Entity).map mirrors.face =
      (repo.toEntity model).map mirrors.face)
    (unlinked : tagged.links.rows = []) (ties : Ties) :
    (Except.ok (Answer.row (some ⟨entity, []⟩)) : Except Raised (Answer Entity)).map
        (Answer.face mirrors.face) =
      (((tagged.toRow technologies ties model).map some).map Answer.row).map
        (Answer.face mirrors.face) := by
  have mirrored : ∃ entity', repo.toEntity model = .ok entity' ∧
      mirrors.face entity' = mirrors.face entity := Result.map_eq_ok.mp made.symm
  rcases mirrored with ⟨entity', converted, face⟩
  rw [toRow_unlinked unlinked, converted]
  simp only [Except.map, Answer.face, Option.map_some, face]

omit [Collation] [Mysql] in
theorem create_held {rows : Store Entity} {id : UUID} {now : Instant} {data : Input}
    (held : (rows.any fun entry => fake.slug entry.2.entity == fake.wanted data) = true) :
    fake.create id now data rows = .error fake.conflict :=
  if_pos held

omit [Collation] [Mysql] in
/-- A new key comes last. -/
theorem put_new {rows : Store Entity} {id : UUID} {row : WithTechnologies Entity}
    (new : ∀ entry ∈ rows, entry.1 ≠ id) : put rows id row = rows ++ [(id, row)] := by
  have missing : (rows.any fun entry => entry.1 == id) = false := by
    rw [List.any_eq_false]
    intro entry member same
    exact new entry member (beq_iff_eq.mp same)
  simp only [put, missing, Bool.false_eq_true, if_false]

/-- What the table does with a new row that fits. -/
theorem commitNew_cases (mirrors : Mirrors fake sql Face) (technologies : Technologies)
    {defaults : Defaults} {data : Input}
    (fits : (repo.cells (repo.construct defaults data)).all Cell.storable = true)
    (checked : repo.checks (repo.construct defaults data) = true)
    (new : ∀ row ∈ tagged.rows.rows, repo.key row ≠ defaults.id) :
    ((tagged.rows.rows.any fun row => Collation.equal (mirrors.slug row) (mirrors.wanted data)) =
        true ∧
      tagged.commitNew technologies [] sql.referenced defaults data = .error repo.conflict) ∨
    ((tagged.rows.rows.any fun row => Collation.equal (mirrors.slug row) (mirrors.wanted data)) =
        false ∧
      (sql.referenced (repo.construct defaults data) = true →
        ∃ next : Tagged repo, next.rows.rows =
            tagged.rows.rows ++ [repo.stored (repo.construct defaults data)] ∧
          next.links = tagged.links ∧
          tagged.commitNew technologies [] sql.referenced defaults data =
            .ok (repo.construct defaults data, next))) := by
  have selected : Tagged.getTechnologies technologies [] = [] := by
    simp [Tagged.getTechnologies]
  have linked : Tagged.relink tagged.links (repo.key (repo.construct defaults data)) [] [] =
      some tagged.links := by
    have kept : (tagged.links.delete fun _ => false) = tagged.links :=
      Table.ext (List.filter_eq_self.mpr fun _ _ => rfl)
    simp only [Tagged.relink, List.filter_nil, List.foldlM_nil, List.contains_nil, Bool.and_false,
      Bool.false_and, kept]
    rfl
  cases held : tagged.rows.rows.any fun row =>
      Collation.equal (mirrors.slug row) (mirrors.wanted data) with
  | true =>
      obtain ⟨row, member, equal⟩ := List.any_eq_true.mp held
      have clashes : tagged.rows.insert? (repo.stored (repo.construct defaults data)) = none := by
        apply dif_neg
        intro free
        have apart := free row member
        rw [mirrors.clash_eq_false, mirrors.storedSlug, mirrors.constructSlug, equal] at apart
        cases apart.2
      refine .inl ⟨rfl, ?_⟩
      simp only [Tagged.commitNew, Repository.insertRow, Repository.flush, fits, checked, clashes]
      rfl
  | false =>
      refine .inr ⟨rfl, fun referenced => ?_⟩
      have free : ∀ row ∈ tagged.rows.rows,
          repo.clash row (repo.stored (repo.construct defaults data)) = false := by
        intro row member
        rw [mirrors.clash_eq_false, mirrors.storedSlug, mirrors.constructSlug, repo.keeps.stored,
          repo.keeps.construct]
        exact ⟨new row member, Bool.eq_false_iff.mpr (List.any_eq_false.mp held row member)⟩
      obtain ⟨rows, inserted⟩ : ∃ rows,
          tagged.rows.insert? (repo.stored (repo.construct defaults data)) = some rows :=
        ⟨_, dif_pos free⟩
      refine ⟨⟨rows, tagged.links⟩, (Table.insert?_eq_some.mp inserted).2, rfl, ?_⟩
      simp only [Tagged.commitNew, Repository.insertRow, Repository.flush, fits, checked, inserted,
        referenced, selected, linked, Tagged.flushLinks]
      rfl

theorem create_together {execution : Execution Input} {data : Input} (apart : SlugsApart)
    (alike : mirrors.Alike memory tagged) (called : execution.call = .create data)
    (valid : slugRe (mirrors.wanted data) = true) (untagged : sql.technologyIds data = [])
    (new : ∀ entry ∈ memory, entry.1 ≠ execution.id)
    (newRow : ∀ row ∈ tagged.rows.rows, repo.key row ≠ execution.defaults.id)
    (fits : (repo.cells (repo.construct execution.defaults data)).all Cell.storable = true)
    (checked : repo.checks (repo.construct execution.defaults data) = true)
    (accepted : (tagged.rows.rows.any fun row =>
        Collation.equal (mirrors.slug row) (mirrors.wanted data)) = true ∨
      sql.referenced (repo.construct execution.defaults data) = true ∧
        (repo.toEntity (repo.construct execution.defaults data)).isOk = true) :
    mirrors.Together (fake.perform execution memory)
      (sql.perform technologies execution tagged) := by
  have sameHeld : (memory.any fun entry => fake.slug entry.2.entity == fake.wanted data) =
      tagged.rows.rows.any fun row => Collation.equal (mirrors.slug row) (mirrors.wanted data) := by
    apply SideBySide.any_eq alike.rows
    intro entry row mirror
    rw [mirrors.wantedSame]
    exact mirror.slug_eq apart valid
  simp only [Fake.perform, Sql.perform, called, Program.transact, untagged, save_post]
  rcases commitNew_cases mirrors technologies fits checked newRow with
    ⟨held, refused⟩ | ⟨free, inserted⟩
  · rw [refused, create_held (sameHeld.trans held), mirrors.conflictSame]
    exact ⟨rfl, alike⟩
  · rw [free] at sameHeld accepted
    rcases accepted with impossible | ⟨referenced, converts⟩
    · cases impossible
    · obtain ⟨next, rows, links, committed⟩ := inserted referenced
      obtain ⟨entity', converted⟩ := Result.isOk_iff.mp converts
      have made := mirrors.constructs execution.id execution.now execution.defaults data
      rw [converted] at made
      obtain ⟨entity, constructed, face⟩ := Result.map_eq_ok.mp made
      have created : fake.create execution.id execution.now data memory =
          .ok (some ⟨entity, []⟩, memory ++ [(execution.id, ⟨entity, []⟩)]) := by
        simp only [Fake.create, sameHeld, constructed, put_new new]
        rfl
      rw [created, committed]
      have unlinked : next.links.rows = [] := by rw [links, alike.links]
      constructor
      · apply written_answer _ unlinked
        rw [converted]
        exact congrArg Except.ok face
      · constructor
        · change List.Forall₂ _ (memory ++ _) next.rows.rows
          rw [rows]
          apply List.rel_append alike.rows
          refine .cons ⟨rfl, ?_, ?_⟩ .nil
          · rw [mirrors.stores _ fits, converted]
            exact congrArg Except.ok face.symm
          · rw [mirrors.refersStored, referenced]
        · exact unlinked

/-- The keys name the same rows. -/
def Paired (mirrors : Mirrors fake sql Face) (id rowId : UUID)
    (entry : UUID × WithTechnologies Entity) (model : Model) : Prop :=
  mirrors.Mirror entry model ∧ ((entry.1 == id) == (repo.key model == rowId)) = true

theorem paired_of_corresponding {state : Both repo} {id rowId : UUID}
    (alike : mirrors.Alike state.memory state.sql)
    (named : corresponding state id rowId = true) :
    List.Forall₂ (mirrors.Paired id rowId) state.memory state.sql.rows.rows :=
  SideBySide.strengthen alike.rows named

theorem Paired.key_eq {id rowId : UUID} (paired : mirrors.Paired id rowId entry model) :
    (entry.1 == id) = (repo.key model == rowId) :=
  eq_of_beq paired.2

/-- Both sides find the row, or neither does. -/
theorem find_paired {id rowId : UUID}
    (paired : List.Forall₂ (mirrors.Paired id rowId) memory tagged.rows.rows) :
    (lookup memory id = none ∧ repo.select tagged.rows rowId = .ok none) ∨
      ∃ entry model, memory.find? (fun entry => entry.1 == id) = some entry ∧
        model ∈ tagged.rows.rows ∧ repo.key model = rowId ∧ mirrors.Mirror entry model := by
  have agree : ∀ (entry : UUID × WithTechnologies Entity) (model : Model),
      mirrors.Paired id rowId entry model → (entry.1 == id) = decide (repo.key model = rowId) :=
    fun entry model paired => paired.key_eq
  rcases SideBySide.find? paired agree with
    ⟨missing, missing'⟩ | ⟨entry, model, found, found', same⟩
  · refine .inl ⟨congrArg (Option.map Prod.snd) missing, ?_⟩
    have nothing : (tagged.rows.rows.filter fun row => repo.key row = rowId) = [] := by
      rw [List.filter_eq_nil_iff]
      exact List.find?_eq_none.mp missing'
    rw [Repository.select, nothing]
    rfl
  · have selected := List.find?_some found'
    have own : repo.key model = rowId := of_decide_eq_true selected
    exact .inr ⟨entry, model, found, List.mem_of_find?_eq_some found', own, same.1⟩

omit [Collation] [Mysql] in
/-- A known key keeps its place. -/
theorem put_known {rows : Store Entity} {id : UUID} {row : WithTechnologies Entity}
    (found : rows.find? (fun entry => entry.1 == id) = some entry) :
    put rows id row = rows.map fun entry => if entry.1 == id then (id, row) else entry := by
  have own := List.find?_some found
  have known : (rows.any fun entry => entry.1 == id) = true :=
    List.any_eq_true.mpr ⟨entry, List.mem_of_find?_eq_some found, own⟩
  simp only [put, known, if_true]

/-- What the table does with a changed row that fits and whose slug is free. -/
theorem commitChange_cases (mirrors : Mirrors fake sql Face) (technologies : Technologies)
    (ties : Ties) {data : Input} {now : Instant} (member : model ∈ tagged.rows.rows)
    (unlinked : tagged.links.rows = []) (referenced : sql.referenced model = true)
    (free : mirrors.taken tagged.rows (repo.key model) (mirrors.wanted data) = false)
    (fits : repo.same model (repo.assign data model) = true ∨
      (repo.cells (mirrors.touched now data model)).all Cell.storable = true ∧
        repo.checks (mirrors.touched now data model) = true) :
    ∃ (changed : Model) (next : Tagged repo),
      tagged.commitChange technologies ties [] sql.referenced now model data = .ok (changed, next) ∧
      next.links.rows = [] ∧
      (repo.toEntity changed).map mirrors.face =
        (repo.toEntity (repo.assign data model)).map mirrors.face ∧
      ∃ written, next.rows.rows =
          (tagged.rows.rows.map fun row => if repo.key row = repo.key model then written else row) ∧
        (repo.toEntity written).map mirrors.face =
          (repo.toEntity (repo.assign data model)).map mirrors.face ∧
        sql.referenced written = true := by
  have selected : Tagged.getTechnologies technologies [] = [] := by
    simp [Tagged.getTechnologies]
  have relinks : relinked tagged.links (repo.key model)
      (loadedIds tagged technologies ties (repo.key model))
      (Tagged.getTechnologies technologies []) = [] := by
    rw [selected, relinked, unlinked]
    rfl
  cases same : repo.same model (repo.assign data model) with
  | true =>
      have updated : repo.updateRow sql.referenced now model (repo.assign data model) tagged.rows =
          .ok (repo.assign data model, tagged.rows) := updateRow_same same tagged.rows
      obtain ⟨links, linked, committed⟩ : ∃ links : Links, links.rows = _ ∧
          tagged.commitChange technologies ties [] sql.referenced now model data =
            .ok (repo.assign data model, ⟨tagged.rows, links⟩) := commitChange_ok updated
      refine ⟨_, _, committed, linked.trans relinks, rfl, model, ?_, mirrors.sames _ _ same,
        referenced⟩
      exact ((map_written_eq_iff member).mpr rfl).symm
  | false =>
      have references : sql.referenced (mirrors.touched now data model) = true := by
        rw [Slugged.touched, mirrors.refersTouched, referenced]
      rcases fits with unchanged | ⟨storable, checked⟩
      · rw [same] at unchanged
        cases unchanged
      · have accepted : refusal mirrors.toSlugged tagged.rows now data model = none :=
          refusal_eq_none.mpr ⟨storable, checked, free⟩
        rcases updateRow_changed member references same with
          ⟨raised, refused, _⟩ | ⟨_, rows, written, updated⟩
        · rw [accepted] at refused
          cases refused
        · obtain ⟨links, linked, committed⟩ : ∃ links : Links, links.rows = _ ∧
              tagged.commitChange technologies ties [] sql.referenced now model data =
                .ok (mirrors.touched now data model, ⟨rows, links⟩) := commitChange_ok updated
          refine ⟨_, _, committed, linked.trans relinks, mirrors.touches _ _, _, written, ?_, ?_⟩
          · rw [mirrors.stores _ storable]
            exact mirrors.touches _ _
          · rw [mirrors.refersStored, references]

theorem update_together {execution : Execution Input} {id rowId : UUID} {data : Input}
    (alike : mirrors.Alike memory tagged) (called : execution.call = .update id rowId data)
    (untagged : sql.technologyIds data = [])
    (paired : List.Forall₂ (mirrors.Paired id rowId) memory tagged.rows.rows)
    (accepted : ∀ model ∈ tagged.rows.rows, repo.key model = rowId →
      mirrors.taken tagged.rows rowId (mirrors.wanted data) = false ∧
        (repo.same model (repo.assign data model) = true ∨
          (repo.cells (mirrors.touched execution.rowNow data model)).all Cell.storable = true ∧
            repo.checks (mirrors.touched execution.rowNow data model) = true) ∧
        (repo.toEntity (repo.assign data model)).isOk = true) :
    mirrors.Together (fake.perform execution memory)
      (sql.perform technologies execution tagged) := by
  simp only [Fake.perform, Sql.perform, called, Program.transact, untagged]
  rcases find_paired paired with ⟨missing, missing'⟩ | ⟨entry, model, found, member, own, mirror⟩
  · have updated : fake.update id execution.now data memory = .ok (none, memory) := by
      simp only [Fake.update, missing]
    have saved : Tagged.save technologies execution.ties [] sql.referenced
        (.put rowId execution.rowNow) data tagged = (.ok none, tagged) := by
      unfold Tagged.save
      change Program.bind _ _ _ = _
      simp only [Program.bind, Tagged.commit, Program.transact, missing']
      rfl
    rw [updated, saved]
    exact ⟨rfl, alike⟩
  · subst own
    obtain ⟨free, fits, converts⟩ := accepted model member rfl
    obtain ⟨changed, next, committed, unlinked, shown, written, rows, face, referenced⟩ :=
      commitChange_cases mirrors technologies execution.ties member alike.links mirror.referenced
        free fits
    obtain ⟨entity', converted⟩ := Result.isOk_iff.mp converts
    have made := mirrors.replaces execution.now data entry.2.entity model mirror.face
    rw [converted] at made shown face
    obtain ⟨entity, replaced, sameFace⟩ := Result.map_eq_ok.mp made
    have existing : lookup memory id = some entry.2 := congrArg (Option.map Prod.snd) found
    have updated : fake.update id execution.now data memory =
        .ok (some ⟨entity, []⟩, memory.map fun entry =>
          if entry.1 == id then (id, ⟨entity, []⟩) else entry) := by
      simp only [Fake.update, existing, replaced, put_known found]
      rfl
    rw [updated, save_put member, committed]
    constructor
    · apply written_answer _ unlinked
      rw [shown]
      exact congrArg Except.ok sameFace
    · constructor
      · change List.Forall₂ _ (memory.map _) next.rows.rows
        rw [rows]
        refine List.rel_map ?_ paired
        intro entry' row same
        change mirrors.Mirror (if entry'.1 == id then (id, ⟨entity, []⟩) else entry')
          (if repo.key row = repo.key model then written else row)
        by_cases key : entry'.1 == id
        · have key' := same.key_eq ▸ key
          rw [if_pos key, if_pos (beq_iff_eq.mp key')]
          refine ⟨rfl, ?_, referenced⟩
          rw [face]
          exact congrArg Except.ok sameFace.symm
        · have key' := same.key_eq ▸ key
          rw [if_neg key, if_neg fun equal => key' (beq_iff_eq.mpr equal)]
          exact same.1
      · exact unlinked

omit [Mysql] in
theorem deleteRow_unlinked (technologies : Technologies) (ties : Ties) {inUse : Raised}
    (unlinked : tagged.links.rows = []) (member : model ∈ tagged.rows.rows) :
    ∃ next : Tagged repo,
      Tagged.deleteRow technologies ties (fun _ => false) inUse (repo.key model) tagged =
        (.ok true, next) ∧ next.links.rows = [] ∧
      next.rows.rows = tagged.rows.rows.filter fun row =>
        !decide (repo.key row = repo.key model) := by
  have loaded : loadedIds tagged technologies ties (repo.key model) = [] := by
    rw [List.eq_nil_iff_forall_not_mem]
    intro id member
    have linked := (mem_loadedIds.mp member).1
    rw [unlinked] at linked
    cases linked
  have empty : (tagged.links.delete fun link =>
      link.1 == repo.key model && [].contains link.2).rows = [] := by
    simp only [Table.delete, unlinked, List.filter_nil]
  have committed : tagged.commitDelete (fun _ => false) (repo.key model) [] =
      .ok ⟨tagged.rows.delete fun row => repo.key row = repo.key model,
        tagged.links.delete fun link => link.1 == repo.key model && [].contains link.2⟩ := by
    simp only [Tagged.commitDelete, empty]
    rfl
  refine ⟨⟨tagged.rows.delete fun row => repo.key row = repo.key model, _⟩, ?_, empty, rfl⟩
  simp only [Tagged.deleteRow, Program.transact, Repository.select_of_mem member, bind, Except.bind,
    loaded, committed]
  rfl

theorem delete_together {execution : Execution Input} {id rowId : UUID}
    (alike : mirrors.Alike memory tagged) (called : execution.call = .delete id rowId)
    (paired : List.Forall₂ (mirrors.Paired id rowId) memory tagged.rows.rows) :
    mirrors.Together (fake.perform execution memory)
      (sql.perform technologies execution tagged) := by
  simp only [Fake.perform, Sql.perform, called]
  rcases find_paired paired with ⟨missing, missing'⟩ | ⟨entry, model, found, member, own, _⟩
  · have absent : ∀ entry ∈ memory, ¬(entry.1 == id) = true :=
      List.find?_eq_none.mp (Option.map_eq_none_iff.mp missing)
    have none : (memory.any fun entry => entry.1 == id) = false := List.any_eq_false.mpr absent
    have all : (memory.filter fun entry => entry.1 != id) = memory := by
      rw [List.filter_eq_self]
      intro entry member
      exact bne_iff_ne.mpr fun same => absent entry member (beq_iff_eq.mpr same)
    have kept : Tagged.deleteRow technologies execution.ties (fun _ => false) sql.inUse rowId
        tagged = (.ok false, tagged) := by
      simp only [Tagged.deleteRow, Program.transact, missing']
      rfl
    rw [kept, Fake.delete, none, all]
    exact ⟨rfl, alike⟩
  · subst own
    obtain ⟨next, deleted, unlinked, rows⟩ := deleteRow_unlinked technologies
      execution.ties alike.links member
    have known : (memory.any fun entry => entry.1 == id) = true := by
      have own := List.find?_some found
      exact List.any_eq_true.mpr ⟨entry, List.mem_of_find?_eq_some found, own⟩
    rw [deleted, Fake.delete, known]
    constructor
    · rfl
    · constructor
      · change List.Forall₂ _ (memory.filter _) next.rows.rows
        rw [rows]
        refine List.Forall₂.imp (fun _ _ same => same.1) (List.rel_filter ?_ paired)
        intro entry' row same
        simp [bne, same.key_eq]
      · exact unlinked

omit [Mysql] in
theorem readOne_unique {ties : Ties} {selects : Model → Bool}
    (unique : ∀ first second, selects first = true → selects second = true →
      repo.clash first second = true) :
    tagged.readOne technologies ties (tagged.rows.rows.filter selects) =
      match tagged.rows.find? selects with
      | none => .ok none
      | some model => (tagged.toRow technologies ties model).map some := by
  simp only [Tagged.readOne]
  rw [Query.scalarOneOrNone_eq (Table.length_filter_le_one unique), List.head?_filter]
  rfl

theorem getById_together {execution : Execution Input} {id rowId : UUID}
    (alike : mirrors.Alike memory tagged) (called : execution.call = .getById id rowId)
    (paired : List.Forall₂ (mirrors.Paired id rowId) memory tagged.rows.rows) :
    mirrors.Together (fake.perform execution memory)
      (sql.perform technologies execution tagged) := by
  simp only [Fake.perform, Sql.perform, called, Program.read]
  refine ⟨?_, alike⟩
  rw [mirrors.getById_eq, readOne_unique (repo.clash_of_key fun _ => of_decide_eq_true)]
  have agree : ∀ (entry : UUID × WithTechnologies Entity) (model : Model),
      mirrors.Paired id rowId entry model → (entry.1 == id) = decide (repo.key model = rowId) :=
    fun entry model paired => paired.key_eq
  rcases SideBySide.find? paired agree with
    ⟨missing, missing'⟩ | ⟨entry, model, found, found', same⟩
  · have absent : lookup memory id = none := congrArg (Option.map Prod.snd) missing
    have absent' : (tagged.rows.find? fun row => repo.key row = rowId) = none := missing'
    rw [absent, absent']
    rfl
  · have present : lookup memory id = some entry.2 := congrArg (Option.map Prod.snd) found
    have present' : (tagged.rows.find? fun row => repo.key row = rowId) = some model := found'
    rw [present, present']
    exact same.1.answer alike.links execution.ties

theorem getBySlug_together {execution : Execution Input} {slug : String} {visibleOnly : Bool}
    (apart : SlugsApart) (alike : mirrors.Alike memory tagged)
    (called : execution.call = .getBySlug slug visibleOnly) (valid : slugRe slug = true) :
    mirrors.Together (fake.perform execution memory)
      (sql.perform technologies execution tagged) := by
  simp only [Fake.perform, Sql.perform, called, Program.read]
  refine ⟨?_, alike⟩
  have unique : ∀ first second : Model, Collation.equal (mirrors.slug first) slug = true →
      Collation.equal (mirrors.slug second) slug = true → repo.clash first second = true := by
    intro first second firstHas secondHas
    rw [mirrors.clash, Collation.equal_trans firstHas secondHas, Bool.or_true]
  rw [mirrors.getBySlug_eq, readOne_unique fun first second firstSelected secondSelected =>
    unique first second (Bool.and_eq_true_iff.mp firstSelected).1
      (Bool.and_eq_true_iff.mp secondSelected).1]
  have agree : ∀ (entry : UUID × WithTechnologies Entity) (model : Model),
      mirrors.Mirror entry model → (fake.slug entry.2.entity == slug) =
        Collation.equal (mirrors.slug model) slug :=
    fun entry model mirror => mirror.slug_eq apart valid
  rcases SideBySide.find? alike.rows agree with
    ⟨missing, missing'⟩ | ⟨entry, model, found, found', mirror⟩
  · have absent : (tagged.rows.find? fun row => Collation.equal (mirrors.slug row) slug &&
        (!visibleOnly || mirrors.visible row)) = none := by
      rw [Table.find?_eq_none]
      intro row member
      rw [Bool.eq_false_iff.mpr (List.find?_eq_none.mp missing' row member), Bool.false_and]
    rw [Fake.getBySlug, missing, absent]
    rfl
  · have member : model ∈ tagged.rows.rows := List.mem_of_find?_eq_some found'
    have has := List.find?_some found'
    have only : ∀ other ∈ tagged.rows.rows,
        Collation.equal (mirrors.slug other) slug = true → other = model := by
      intro other otherMem otherHas
      exact Table.eq_of_clash otherMem member (unique _ _ otherHas has) (unique _ _ has otherHas)
    rw [Fake.getBySlug, found, Option.bind_some, mirror.visible_eq]
    cases shown : !visibleOnly || mirrors.visible model with
    | true =>
        have present : (tagged.rows.find? fun row => Collation.equal (mirrors.slug row) slug &&
            (!visibleOnly || mirrors.visible row)) = some model := by
          apply Table.find?_of_unique member
          · rw [has, shown, Bool.and_self]
          · intro other otherMem selected
            exact only other otherMem (Bool.and_eq_true_iff.mp selected).1
        have open_ : (visibleOnly && !mirrors.visible model) = false := by
          cases visibleOnly <;> simp_all
        rw [present, open_]
        exact mirror.answer alike.links execution.ties
    | false =>
        have absent : (tagged.rows.find? fun row => Collation.equal (mirrors.slug row) slug &&
            (!visibleOnly || mirrors.visible row)) = none := by
          rw [Table.find?_eq_none]
          intro row rowMem
          cases rowHas : Collation.equal (mirrors.slug row) slug with
          | false => rfl
          | true => rw [only row rowMem rowHas, shown, Bool.and_false]
        have closed : (visibleOnly && !mirrors.visible model) = true := by
          cases visibleOnly <;> simp_all
        rw [absent, closed]
        rfl

/-- The calls that both sides answer alike. -/
def allowed (mirrors : Mirrors fake sql Face) (state : Both repo) (execution : Execution Input) :
    Bool :=
  mirrors.wellFormed state execution && mirrors.tractable state execution

abbrev WellFormed (mirrors : Mirrors fake sql Face) (state : Both repo)
    (execution : Execution Input) : Prop :=
  mirrors.wellFormed state execution = true

abbrev Allowed (mirrors : Mirrors fake sql Face) (state : Both repo)
    (execution : Execution Input) : Prop :=
  mirrors.allowed state execution = true

/-- The answers so far show the same, and on neither side two rows share a slug. -/
structure Follows (mirrors : Mirrors fake sql Face) (state : Both repo) : Prop where
  answers : ∀ pair ∈ state.answers,
    pair.1.map (Answer.face mirrors.face) = pair.2.map (Answer.face mirrors.face)
  memory : (state.memory.map fun entry => fake.slug entry.2.entity).Nodup
  table : state.sql.rows.rows.Pairwise fun first second =>
    Collation.equal (mirrors.slug first) (mirrors.slug second) = false

theorem perform_together {state : Both repo} {execution : Execution Input} (apart : SlugsApart)
    (alike : mirrors.Alike state.memory state.sql) (met : mirrors.Allowed state execution) :
    mirrors.Together (fake.perform execution state.memory)
      (sql.perform technologies execution state.sql) := by
  simp only [Allowed, allowed, wellFormed, tractable, Bool.and_eq_true] at met
  cases called : execution.call with
  | create data =>
      simp only [called, Bool.and_eq_true, Bool.or_eq_true, List.isEmpty_iff, Bool.not_eq_true',
        List.any_eq_false, beq_iff_eq] at met
      obtain ⟨⟨⟨⟨valid, untagged⟩, new⟩, newRow⟩, ⟨fits, checked⟩, accepted⟩ := met
      exact create_together apart alike called valid untagged new newRow fits checked accepted
  | update id rowId data =>
      simp only [called, Bool.and_eq_true, List.isEmpty_iff] at met
      obtain ⟨⟨⟨_, untagged⟩, named⟩, accepted⟩ := met
      apply update_together alike called untagged (paired_of_corresponding alike named)
      intro model member own
      have taken := List.all_eq_true.mp accepted model member
      simp only [own, bne_self_eq_false, Bool.false_or, Bool.and_eq_true, Bool.or_eq_true,
        Bool.not_eq_true'] at taken
      exact ⟨taken.1.1, taken.1.2, taken.2⟩
  | delete id rowId =>
      simp only [called, and_true] at met
      exact delete_together alike called (paired_of_corresponding alike met)
  | getBySlug slug visibleOnly =>
      simp only [called, and_true] at met
      exact getBySlug_together apart alike called met
  | getById id rowId =>
      simp only [called, and_true] at met
      exact getById_together alike called (paired_of_corresponding alike met)

/-- What every call keeps. -/
structure Kept (mirrors : Mirrors fake sql Face) (state : Both repo) : Prop where
  answers : ∀ pair ∈ state.answers,
    pair.1.map (Answer.face mirrors.face) = pair.2.map (Answer.face mirrors.face)
  alike : mirrors.Alike state.memory state.sql

theorem both_kept {state next : Both repo} {execution : Execution Input} (apart : SlugsApart)
    (kept : mirrors.Kept state) (met : mirrors.Allowed state execution)
    (stepped : both fake sql technologies state execution = some next) : mirrors.Kept next := by
  cases stepped
  have together : mirrors.Together (fake.perform execution state.memory)
      (sql.perform technologies execution state.sql) := perform_together apart kept.alike met
  constructor
  · intro pair member
    rcases List.mem_append.mp member with before | now
    · exact kept.answers pair before
    · rw [List.mem_singleton.mp now]
      exact together.answers
  · exact together.alike

theorem Alike.slugs (alike : mirrors.Alike memory tagged) :
    (memory.map fun entry => fake.slug entry.2.entity) = tagged.rows.rows.map mirrors.slug := by
  have rows := alike.rows
  clear alike
  generalize tagged.rows.rows = table at rows
  induction rows with
  | nil => rfl
  | @cons entry model _ _ mirror _ ih =>
      obtain ⟨entity, converted, face⟩ := mirror.entity
      rw [List.map_cons, List.map_cons, ih, ← mirrors.faceSlug _ _ face,
        (mirrors.readsSlug model entity converted).1]

theorem slugs_distinct (mirrors : Mirrors fake sql Face) (tagged : Tagged repo) :
    tagged.rows.rows.Pairwise fun first second =>
      Collation.equal (mirrors.slug first) (mirrors.slug second) = false :=
  tagged.rows.distinct.imp fun free => (mirrors.clash_eq_false.mp free).2

theorem Kept.follows {state : Both repo} (kept : mirrors.Kept state) : mirrors.Follows state := by
  refine ⟨kept.answers, ?_, mirrors.slugs_distinct state.sql⟩
  rw [kept.alike.slugs, List.Nodup, List.pairwise_map]
  refine (mirrors.slugs_distinct state.sql).imp ?_
  intro first second free same
  rw [same, Collation.equal, BEq.rfl] at free
  cases free

theorem reaches_follows {last : Both repo} (apart : SlugsApart)
    (run : Machine.Reaches (both fake sql technologies) mirrors.Allowed .empty last) :
    mirrors.Follows last := by
  have kept : mirrors.Kept last := by
    apply run.invariant mirrors.Kept fun kept met stepped => both_kept apart kept met stepped
    constructor
    · intro pair member
      cases member
    · exact ⟨.nil, rfl⟩
  exact kept.follows

end Mirrors

end

end ChTech.Content.InMemory
