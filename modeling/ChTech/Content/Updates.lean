import ChTech.Content.SlugUpdates

/-!
# What an update has written

`update` of a row with technologies, once it has returned: the row either has kept its values
or is written with the time of the update, and its links are those that were asked for.  A
later lookup by the primary key finds that row.
-/

namespace ChTech.Content

open Foundation

open TechnologyRepository (Technologies)

variable [PyUnicode] [Collation] {Model Input Entity : Type}
  {repo : Repository Model Input Entity} {technologies : Technologies} {ties : Ties}
  {technologyIds : List UUID} {referenced : Model → Bool} {now : Instant} {data : Input}
  {model : Model} {tagged : Tagged repo}

/-- A stored row is found by its primary key. -/
theorem Tagged.readOne_of_mem (member : model ∈ tagged.rows.rows) :
    tagged.readOne technologies ties
        (tagged.rows.rows.filter fun row => repo.key row = repo.key model) =
      (tagged.toRow technologies ties model).map some := by
  have selected := Repository.select_of_mem member
  rw [Repository.select] at selected
  simp only [readOne, selected]
  rfl

/-- With another order of the ties a row has its technologies in another order. -/
theorem Tagged.toRow_perm {row : WithTechnologies Entity}
    (converted : tagged.toRow technologies ties model = .ok row) (other : Ties) :
    ∃ read, tagged.toRow technologies other model = .ok read ∧ read.entity = row.entity ∧
      read.technologies.Perm row.technologies := by
  rcases Tagged.toRow_eq_ok converted with ⟨entity, linked⟩
  have same : (tagged.technologiesOf technologies ties (repo.key model)).Perm
      (tagged.technologiesOf technologies other (repo.key model)) :=
    (List.perm_insertionSort _ _).trans (List.perm_insertionSort _ _).symm
  rcases Result.perm_of_mapM same linked with ⟨technologies, linked, same⟩
  refine ⟨⟨row.entity, technologies⟩, ?_, rfl, same⟩
  rw [toRow, entity, linked]
  rfl

omit [Collation] in
theorem TechnologyModel.id_of_toEntity {model : TechnologyModel} {technology : Technology}
    (converted : model.toEntity = .ok technology) : technology.id = model.id := by
  rcases Result.bind_eq_ok.mp converted with ⟨icon, _, converted⟩
  rcases Result.bind_eq_ok.mp converted with ⟨officialUrl, _, last⟩
  cases last
  rfl

/-- The technologies that a row is read with are those that it is linked to. -/
theorem Tagged.mem_links_iff {row : WithTechnologies Entity}
    (converted : tagged.toRow technologies ties model = .ok row) {technology : TechnologyModel}
    (stored : technology ∈ technologies.rows) :
    (repo.key model, technology.id) ∈ tagged.links.rows ↔
      technology.id ∈ row.technologies.map Technology.id := by
  have ids : row.technologies.map Technology.id = loadedIds tagged technologies ties
      (repo.key model) :=
    Result.map_of_mapM (fun _ _ => TechnologyModel.id_of_toEntity)
      (Tagged.toRow_eq_ok converted).2
  rw [ids, mem_loadedIds]
  exact ⟨fun linked => ⟨linked, technology, stored, rfl⟩, And.left⟩

/-- The technologies that a row is read with, once exactly these are linked to it. -/
theorem Tagged.technologiesOf_perm {owner : UUID}
    (linked : ∀ technology ∈ technologies.rows,
      (owner, technology.id) ∈ tagged.links.rows ↔ technology.id ∈ technologyIds) :
    (tagged.technologiesOf technologies ties owner).Perm
      (technologies.rows.filter fun technology => technologyIds.contains technology.id) := by
  have same : (technologies.rows.filter fun technology =>
      tagged.links.rows.contains (owner, technology.id)) =
        technologies.rows.filter fun technology => technologyIds.contains technology.id := by
    apply List.filter_congr
    intro technology stored
    rw [Bool.eq_iff_iff, List.contains_iff_mem, List.contains_iff_mem]
    exact linked technology stored
  rw [technologiesOf, same]
  exact List.perm_insertionSort _ _

variable [Mysql]

/-- How an update that commits leaves the row. -/
inductive Rewritten (repo : Repository Model Input Entity) (now : Instant) (data : Input)
    (model : Model) (rows next : repo.Rows) : Model → Prop where
  | unchanged : repo.same model (repo.assign data model) = true → next = rows →
      Rewritten repo now data model rows next (repo.assign data model)
  | updated : repo.same model (repo.assign data model) = false →
      (repo.cells (repo.touch now (repo.assign data model))).all Cell.storable = true →
      (next.rows = rows.rows.map fun row => if repo.key row = repo.key model then
        repo.stored (repo.touch now (repo.assign data model)) else row) →
      Rewritten repo now data model rows next (repo.touch now (repo.assign data model))

omit [PyUnicode] [Collation] in
theorem Rewritten.of_updateRow {rows next : repo.Rows} {changed : Model}
    (written : repo.updateRow referenced now model (repo.assign data model) rows =
      .ok (changed, next)) : Rewritten repo now data model rows next changed := by
  simp only [Repository.updateRow] at written
  split at written
  next same =>
    cases written
    exact .unchanged same rfl
  next different =>
    rcases Result.map_eq_ok.mp written with ⟨rows', flushed, pair⟩
    cases pair
    rcases Repository.flush_eq_ok flushed with ⟨storable, updated⟩
    exact .updated (Bool.eq_false_of_not_eq_true different) storable
      (Table.update?_eq_some updated)

/-- What an update that returns has written. -/
structure Saved (technologies : Technologies) (ties : Ties) (technologyIds : List UUID)
    (now : Instant) (data : Input) (model : Model) (tagged next : Tagged repo)
    (row : WithTechnologies Entity) (changed : Model) : Prop where
  rows : Rewritten repo now data model tagged.rows next.rows changed
  links : next.links.rows = relinked tagged.links (repo.key model)
    (loadedIds tagged technologies ties (repo.key model))
    (Tagged.getTechnologies technologies technologyIds)
  answer : next.toRow technologies ties changed = .ok row

namespace Saved

variable {next : Tagged repo} {row : WithTechnologies Entity} {changed : Model}

/-- The row is linked to the technologies that were asked for. -/
theorem linked
    (saved : Saved technologies ties technologyIds now data model tagged next row changed)
    (key : repo.key changed = repo.key model) : ∀ technology ∈ technologies.rows,
      (repo.key changed, technology.id) ∈ next.links.rows ↔ technology.id ∈ technologyIds := by
  intro technology stored
  rw [key, saved.links]
  exact mem_relinked stored

/-- What has been answered can be converted. -/
theorem converted
    (saved : Saved technologies ties technologyIds now data model tagged next row changed)
    (key : repo.key changed = repo.key model) :
    converts repo technologies technologyIds changed = true := by
  have read : (next.toRow technologies ties changed).isOk = true :=
    Result.isOk_iff.mpr ⟨row, saved.answer⟩
  rw [toRow_isOk_of_links (saved.linked key)] at read
  exact read

end Saved

theorem Saved.of_save {next : Tagged repo} {row : Option (WithTechnologies Entity)}
    (member : model ∈ tagged.rows.rows)
    (saved : Tagged.save technologies ties technologyIds referenced (.put (repo.key model) now)
      data tagged = (.ok row, next)) : ∃ answer changed, row = some answer ∧
        Saved technologies ties technologyIds now data model tagged next answer changed := by
  rw [save_put member] at saved
  cases written : repo.updateRow referenced now model (repo.assign data model) tagged.rows with
  | error raised =>
      rw [commitChange_error written] at saved
      cases saved
  | ok pair =>
      rcases pair with ⟨changed, rows⟩
      have linked : ∃ links : Links, _ ∧ tagged.commitChange technologies ties technologyIds
        referenced now model data = .ok (changed, ⟨rows, links⟩) := commitChange_ok written
      rcases linked with ⟨links, linked, committed⟩
      rw [committed] at saved
      rcases Result.map_eq_ok.mp (congrArg Prod.fst saved) with ⟨answer, answered, rfl⟩
      cases congrArg Prod.snd saved
      exact ⟨answer, changed, rfl, .of_updateRow written, linked, answered⟩

/-! ## New rows -/

/-- What a create that returns has written. -/
structure Added (technologies : Technologies) (ties : Ties) (technologyIds : List UUID)
    (defaults : Defaults) (data : Input) (tagged next : Tagged repo)
    (row : WithTechnologies Entity) : Prop where
  storable : (repo.cells (repo.construct defaults data)).all Cell.storable = true
  rows : next.rows.rows = tagged.rows.rows ++ [repo.stored (repo.construct defaults data)]
  links : next.links.rows = tagged.links.rows ++
    (Tagged.getTechnologies technologies technologyIds).map fun technologyId =>
      (repo.key (repo.construct defaults data), technologyId)
  answer : next.toRow technologies ties (repo.construct defaults data) = .ok row

omit [Mysql] in
/-- A row without links gains those of the technologies that are asked for. -/
theorem relink_new {links : Links} {owner : UUID}
    (unlinked : ∀ link ∈ links.rows, link.1 ≠ owner) :
    ∃ next : Links, Tagged.relink links owner []
        (Tagged.getTechnologies technologies technologyIds) = some next ∧
      next.rows = links.rows ++ (Tagged.getTechnologies technologies technologyIds).map
        fun technologyId => (owner, technologyId) := by
  have current : ∀ id ∈ Tagged.getTechnologies technologies technologyIds,
      (owner, id) ∈ links.rows → id ∈ ([] : List UUID) :=
    fun id _ linked => absurd rfl (unlinked (owner, id) linked)
  rcases relink_current (Tagged.nodup_getTechnologies technologies technologyIds) current with
    ⟨next, linked, rows⟩
  refine ⟨next, linked, ?_⟩
  rw [rows, relinked]
  simp

omit [Mysql] in
/-- A new owner is linked to the technologies that were asked for. -/
theorem mem_added {links : Links} {owner : UUID} (unlinked : ∀ link ∈ links.rows, link.1 ≠ owner)
    {technology : TechnologyModel} (stored : technology ∈ technologies.rows) :
    (owner, technology.id) ∈ links.rows ++
        ((Tagged.getTechnologies technologies technologyIds).map fun technologyId =>
          (owner, technologyId)) ↔ technology.id ∈ technologyIds := by
  rw [List.mem_append, List.mem_map]
  constructor
  · rintro (linked | ⟨technologyId, assigned, equal⟩)
    · exact (unlinked _ linked rfl).elim
    · cases (Prod.mk.inj equal).2
      exact (Tagged.mem_getTechnologies.mp assigned).1
  · intro wanted
    exact .inr ⟨technology.id, Tagged.mem_getTechnologies.mpr ⟨wanted, technology, stored, rfl⟩,
      rfl⟩

theorem Added.of_save {defaults : Defaults} {next : Tagged repo}
    {row : Option (WithTechnologies Entity)}
    (unlinked : ∀ link ∈ tagged.links.rows,
      link.1 ≠ repo.key (repo.construct defaults data))
    (saved : Tagged.save technologies ties technologyIds referenced (.post defaults) data tagged =
      (.ok row, next)) : ∃ answer, row = some answer ∧
        Added technologies ties technologyIds defaults data tagged next answer := by
  rw [save_post] at saved
  cases committed : tagged.commitNew technologies technologyIds referenced defaults data with
  | error raised =>
      rw [committed] at saved
      cases saved
  | ok pair =>
      rcases Result.bind_eq_ok.mp (Repository.reported_eq_ok committed) with
        ⟨rows, inserted, linked⟩
      rcases Result.bind_eq_ok.mp linked with ⟨links, flushed, equal⟩
      cases equal
      rw [committed] at saved
      rcases Result.map_eq_ok.mp (congrArg Prod.fst saved) with ⟨answer, answered, rfl⟩
      cases congrArg Prod.snd saved
      rcases Repository.flush_eq_ok inserted with ⟨storable, inserted⟩
      rcases relink_new unlinked with ⟨made, relinks, added⟩
      rw [relinks] at flushed
      cases flushed
      exact ⟨answer, rfl, storable, (Table.insert?_eq_some.mp inserted).2, added, answered⟩

/-- A row that fits and is in nobody's way is stored with its links. -/
theorem commitNew_ok {defaults : Defaults}
    (storable : (repo.cells (repo.construct defaults data)).all Cell.storable = true)
    (checks : repo.checks (repo.construct defaults data) = true)
    (references : referenced (repo.construct defaults data) = true)
    (free : ∀ row ∈ tagged.rows.rows,
      repo.clash row (repo.stored (repo.construct defaults data)) = false)
    (unlinked : ∀ link ∈ tagged.links.rows,
      link.1 ≠ repo.key (repo.construct defaults data)) :
    ∃ next : Tagged repo, next.links.rows = tagged.links.rows ++
        ((Tagged.getTechnologies technologies technologyIds).map fun technologyId =>
          (repo.key (repo.construct defaults data), technologyId)) ∧
      tagged.commitNew technologies technologyIds referenced defaults data =
        .ok (repo.construct defaults data, next) := by
  have inserted : ∃ rows, tagged.rows.insert? (repo.stored (repo.construct defaults data)) =
      some rows := ⟨_, dif_pos free⟩
  rcases inserted with ⟨rows, inserted⟩
  have linked : ∃ links : Links, Tagged.relink tagged.links
      (repo.key (repo.construct defaults data)) []
        (Tagged.getTechnologies technologies technologyIds) = some links ∧ _ :=
    relink_new unlinked
  rcases linked with ⟨links, relinks, added⟩
  refine ⟨⟨rows, links⟩, added, ?_⟩
  simp only [Tagged.commitNew, Repository.insertRow, inserted,
    Repository.flush_ok storable checks references, relinks]
  rfl

/-- Where a save ends: it has written a row and answers with it, or nothing has changed, or the
row that it has written cannot be converted. -/
theorem Tagged.save_ensures {target : Target} :
    Program.Ensures (Tagged.save technologies ties technologyIds referenced target data) tagged
      (fun row next => row = none ∧ next = tagged ∨ ∃ answer changed, row = some answer ∧
        repo.Written data tagged.rows next.rows changed ∧
          next.toRow technologies ties changed = .ok answer)
      (fun _ next => next = tagged ∨
        ∃ changed, repo.Written data tagged.rows next.rows changed) := by
  apply Program.Ensures.bind
  apply Tagged.commit_ensures.mono
  · intro committed next returned
    cases committed with
    | none => exact .inl ⟨rfl, returned⟩
    | some changed =>
        change Program.Ensures (Program.read fun tagged : Tagged repo =>
          (tagged.toRow technologies ties changed).map some) next _ _
        cases converted : next.toRow technologies ties changed with
        | ok answer =>
            simp only [Program.Ensures, Program.read, converted]
            exact .inr ⟨answer, changed, rfl, returned, converted⟩
        | error raised =>
            simp only [Program.Ensures, Program.read, converted]
            exact .inr ⟨changed, returned⟩
  · intro raised next kept
    exact .inl kept

/-- Every technology that is asked for can be read back. -/
def readableChoice (technologies : Technologies) (technologyIds : List UUID) : Bool :=
  (technologies.rows.filter fun technology => technologyIds.contains technology.id).all
    fun technology => technology.toEntity.isOk

variable {slugged : Slugged repo} {verdict : Bool}

/-- An update that has written its row returns if everything can be read back. -/
theorem put_isOk_of_updated {rows : repo.Rows}
    (member : model ∈ tagged.rows.rows) (key : repo.key changed = repo.key model)
    (converts : (repo.toEntity changed).isOk = verdict)
    (updated : repo.updateRow referenced now model (repo.assign data model) tagged.rows =
      .ok (changed, rows)) :
    (Tagged.save technologies ties technologyIds referenced (.put (repo.key model) now) data
        tagged).1.isOk = true ↔
      verdict = true ∧ readableChoice technologies technologyIds = true := by
  have committed : ∃ links : Links, links.rows = relinked tagged.links (repo.key model)
        (loadedIds tagged technologies ties (repo.key model))
        (Tagged.getTechnologies technologies technologyIds) ∧
      tagged.commitChange technologies ties technologyIds referenced now model data =
        .ok (changed, ⟨rows, links⟩) := commitChange_ok updated
  rcases committed with ⟨links, linked, committed⟩
  have present : ∀ technology ∈ technologies.rows,
      (repo.key changed, technology.id) ∈ links.rows ↔ technology.id ∈ technologyIds := by
    intro technology stored
    rw [key, linked, mem_relinked stored]
  rw [save_put member, committed]
  change ((Tagged.toRow (⟨rows, links⟩ : Tagged repo) _ _ _).map some).isOk = true ↔ _
  rw [Result.isOk_map, toRow_isOk_of_links present, ← converts, ← Bool.and_eq_true_iff]
  rfl

/-- The update of a row whose slug is free returns if its row can be written, or need not be,
and everything can be read back. -/
theorem put_isOk_iff (steady : repo.Steady) (decided : repo.Verdict data verdict)
    (member : model ∈ tagged.rows.rows)
    (references : referenced (slugged.touched now data model) = true)
    (free : slugged.taken tagged.rows (repo.key model) (slugged.wanted data) = false) :
    (Tagged.save technologies ties technologyIds referenced (.put (repo.key model) now) data
        tagged).1.isOk = true ↔
      (repo.same model (repo.assign data model) = true ∨
        (repo.cells (slugged.touched now data model)).all Cell.storable = true ∧
          repo.checks (slugged.touched now data model) = true) ∧
        verdict = true ∧ readableChoice technologies technologyIds = true := by
  cases same : repo.same model (repo.assign data model) with
  | true =>
      rw [put_isOk_of_updated member (repo.keeps.assign data model) (decided.assign model)
        (updateRow_same same tagged.rows)]
      exact ⟨fun read => ⟨.inl rfl, read⟩, And.right⟩
  | false =>
      rcases updateRow_changed member references same with
        ⟨raised, refused, failed⟩ | ⟨accepted, rows, _, updated⟩
      · rw [save_put member, commitChange_error failed]
        constructor
        · intro returned
          cases returned
        · rintro ⟨impossible | ⟨storable, checks⟩, _⟩
          · cases impossible
          · rw [refusal_eq_none.mpr ⟨storable, checks, free⟩] at refused
            cases refused
      · rcases refusal_eq_none.mp accepted with ⟨storable, checks, _⟩
        have key : repo.key (slugged.touched now data model) = repo.key model := by
          rw [Slugged.touched, repo.keeps.touch, repo.keeps.assign]
        rw [put_isOk_of_updated member key ((steady.touch now _).trans (decided.assign model))
          updated]
        exact ⟨fun read => ⟨.inr ⟨storable, checks⟩, read⟩, And.right⟩

/-- A row that is in nobody's way is created, and returned, if it can be written and everything
can be read back. -/
theorem post_isOk_iff {defaults : Defaults} (decided : repo.Verdict data verdict)
    (checks : repo.checks (repo.construct defaults data) = true)
    (references : referenced (repo.construct defaults data) = true)
    (free : ∀ row ∈ tagged.rows.rows,
      repo.clash row (repo.stored (repo.construct defaults data)) = false)
    (unlinked : ∀ link ∈ tagged.links.rows,
      link.1 ≠ repo.key (repo.construct defaults data)) :
    (Tagged.save technologies ties technologyIds referenced (.post defaults) data
        tagged).1.isOk = true ↔
      (repo.cells (repo.construct defaults data)).all Cell.storable = true ∧
        verdict = true ∧ readableChoice technologies technologyIds = true := by
  cases storable : (repo.cells (repo.construct defaults data)).all Cell.storable with
  | false =>
      have failed : tagged.commitNew technologies technologyIds referenced defaults data =
          .error .dataError := by
        simp only [Tagged.commitNew, Repository.insertRow, Repository.flush, storable]
        rfl
      rw [save_post, failed]
      constructor
      · intro returned
        cases returned
      · rintro ⟨impossible, _⟩
        cases impossible
  | true =>
      rcases commitNew_ok storable checks references free unlinked with ⟨next, links, committed⟩
      have present : ∀ technology ∈ technologies.rows,
          (repo.key (repo.construct defaults data), technology.id) ∈ next.links.rows ↔
            technology.id ∈ technologyIds := by
        intro technology stored
        rw [links]
        exact mem_added unlinked stored
      rw [save_post, committed]
      change ((next.toRow technologies ties (repo.construct defaults data)).map some).isOk = true ↔
        _
      rw [Result.isOk_map, toRow_isOk_of_links present, ← decided.construct defaults,
        ← Bool.and_eq_true_iff]
      exact ⟨fun read => ⟨rfl, read⟩, And.right⟩

end ChTech.Content
