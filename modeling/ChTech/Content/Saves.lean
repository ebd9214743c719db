import ChTech.Content.Linked
import ChTech.Content.TechnologyNames

/-!
# What a save leaves, and what it raises

A save on one table is inverted once: it leaves the rows as they are, appends one, or
changes the one with the given key.  With a payload that fits, it is refused only where the
row is in another one's way.
-/

namespace ChTech.Content

open Foundation

open TechnologyRepository (Technologies)

/-- A selection does not notice a change of elements that it selects neither before nor after. -/
theorem filter_map_hidden {α : Type} {selects : α → Bool} {change : α → α} {rows : List α}
    (hidden : ∀ row ∈ rows, change row = row ∨ selects row = false ∧ selects (change row) = false) :
    (rows.map change).filter selects = rows.filter selects := by
  induction rows with
  | nil => rfl
  | cons row rest ih =>
      have tail := ih fun other member => hidden other (List.mem_cons_of_mem _ member)
      rw [List.map_cons, List.filter_cons, List.filter_cons, tail]
      rcases hidden row List.mem_cons_self with same | ⟨before, after⟩
      · rw [same]
      · rw [before, after]
        rfl

/-- Nor the removal of elements that it does not select. -/
theorem filter_filter_hidden {α : Type} {selects kept : α → Bool} {rows : List α}
    (hidden : ∀ row ∈ rows, selects row = true → kept row = true) :
    (rows.filter kept).filter selects = rows.filter selects := by
  rw [List.filter_filter]
  apply List.filter_congr
  intro row member
  cases shown : selects row with
  | false => rfl
  | true => rw [hidden row member shown, Bool.and_self]

/-- The key of the row that a request is about. -/
def Target.id : Target → UUID
  | .post defaults => defaults.id
  | .put id _ => id

section

variable {Model Input Entity : Type} {repo : Repository Model Input Entity}

namespace Repository

variable [Mysql] {referenced : Model → Bool} {target : Target} {data : Input}
  {table next : repo.Rows}

variable (repo) in
/-- What a save makes of the rows. -/
inductive Left (referenced : Model → Bool) (target : Target) (data : Input)
    (table next : repo.Rows) : Prop where
  | same : next = table → Left referenced target data table next
  | inserted (defaults : Defaults) :
      target = .post defaults → referenced (repo.construct defaults data) = true →
      next.rows = table.rows ++ [repo.stored (repo.construct defaults data)] →
      Left referenced target data table next
  | updated (old : Model) (now : Instant) :
      target = .put (repo.key old) now → old ∈ table.rows →
      referenced (repo.touch now (repo.assign data old)) = true →
      next.rows = (table.rows.map fun row => if repo.key row = repo.key old then
        repo.stored (repo.touch now (repo.assign data old)) else row) →
      Left referenced target data table next

theorem flush_referenced {cells : List Cell} {checked references : Bool}
    {written : Option repo.Rows}
    (flushed : repo.flush cells checked references written = .ok next) :
    references = true := by
  simp only [flush] at flushed
  split at flushed
  next => cases flushed
  next =>
    split at flushed
    next => cases flushed
    next =>
      split at flushed
      next =>
        split at flushed
        next references => exact references
        next => cases flushed
      next => cases flushed

theorem insertRow_left {defaults : Defaults}
    (inserted : repo.insertRow referenced (repo.construct defaults data) table = .ok next) :
    repo.Left referenced (.post defaults) data table next := by
  have written := (flush_eq_ok inserted).2
  exact .inserted defaults rfl (flush_referenced inserted) (Table.insert?_eq_some.mp written).2

theorem updateRow_left {now : Instant} {old model : Model} (member : old ∈ table.rows)
    (updated : repo.updateRow referenced now old (repo.assign data old) table = .ok (model, next)) :
    repo.Left referenced (.put (repo.key old) now) data table next := by
  simp only [updateRow] at updated
  split at updated
  next =>
    cases updated
    exact .same rfl
  next =>
    rcases Result.map_eq_ok.mp updated with ⟨rows, flushed, pair⟩
    cases pair
    exact .updated old now rfl member (flush_referenced flushed)
      (Table.update?_eq_some (flush_eq_ok flushed).2)

/-- A save of a row that is not there. -/
theorem save_put_of_none {id : UUID} {now : Instant}
    (missing : table.find? (fun row => repo.key row = id) = none) :
    repo.save referenced (.put id now) data table = (.ok none, table) :=
  save_put_absent fun row member => of_decide_eq_false (Table.find?_eq_none.mp missing row member)

theorem save_left : repo.Left referenced target data table
    (repo.save referenced target data table).2 := by
  cases target with
  | post defaults =>
      rw [save_post]
      cases committed : repo.commitNew referenced defaults data table with
      | error raised => exact .same rfl
      | ok pair =>
          rcases Result.map_eq_ok.mp committed with ⟨rows, inserted, equal⟩
          subst equal
          exact insertRow_left (reported_eq_ok inserted)
  | put id now =>
      cases found : table.find? fun row => repo.key row = id with
      | none =>
          rw [save_put_of_none found]
          exact .same rfl
      | some old =>
          rcases Table.mem_of_find? found with ⟨member, selected⟩
          have key : repo.key old = id := of_decide_eq_true selected
          rw [← key, save_put member]
          cases committed : repo.commitChange referenced now old data table with
          | error raised => exact .same rfl
          | ok pair => exact updateRow_left member (reported_eq_ok committed)

namespace Left

variable (left : repo.Left referenced target data table next)

include left

omit [Mysql] in
/-- What holds of the rows before and of the row that is written holds of the rows after. -/
theorem forall_rows {holds : Model → Prop} (before : ∀ row ∈ table.rows, holds row)
    (constructed : ∀ defaults, referenced (repo.construct defaults data) = true →
      holds (repo.stored (repo.construct defaults data)))
    (changed : ∀ old ∈ table.rows, ∀ now,
      referenced (repo.touch now (repo.assign data old)) = true →
        holds (repo.stored (repo.touch now (repo.assign data old)))) :
    ∀ row ∈ next.rows, holds row := by
  intro row member
  cases left with
  | same kept => exact before row (kept ▸ member)
  | inserted defaults _ references rows =>
      rw [rows] at member
      rcases List.mem_append.mp member with earlier | added
      · exact before row earlier
      · rw [List.mem_singleton.mp added]
        exact constructed defaults references
  | updated old now _ stored references rows =>
      rw [rows] at member
      rcases List.mem_map.mp member with ⟨earlier, stored', equal⟩
      split at equal
      next => exact equal ▸ changed old stored now references
      next => exact equal ▸ before earlier stored'

omit [Mysql] in
/-- No key goes. -/
theorem keys :
    ∀ id ∈ table.rows.map repo.key, id ∈ next.rows.map repo.key := by
  intro id member
  cases left with
  | same kept => exact kept ▸ member
  | inserted defaults _ _ rows =>
      rw [rows, List.map_append]
      exact List.mem_append_left _ member
  | updated old now _ stored _ rows =>
      have kept : (next.rows.map repo.key) = table.rows.map repo.key := by
        rw [rows, List.map_map]
        apply List.map_congr_left
        intro row _
        simp only [Function.comp_apply]
        split
        next same => rw [repo.keeps.stored, repo.keeps.touch, repo.keeps.assign, same]
        next => rfl
      rw [kept]
      exact member

omit [Mysql] in
/-- Every row stays, with what no change touches, and as it is unless the save is about it. -/
theorem kept {ω : Type} {origin : Model → ω}
    (constant : ∀ old now, origin (repo.stored (repo.touch now (repo.assign data old))) =
      origin old) {row : Model} (member : row ∈ table.rows) :
    ∃ row' ∈ next.rows, origin row' = origin row ∧
      ((∀ now, target ≠ .put (repo.key row) now) → row' = row) := by
  cases left with
  | same kept => exact ⟨row, kept ▸ member, rfl, fun _ => rfl⟩
  | inserted defaults _ _ rows =>
      refine ⟨row, ?_, rfl, fun _ => rfl⟩
      rw [rows]
      exact List.mem_append_left _ member
  | updated old now aimed stored _ rows =>
      by_cases own : repo.key row = repo.key old
      · have same : row = old := repo.eq_of_key member stored own
        subst same
        refine ⟨repo.stored (repo.touch now (repo.assign data row)), ?_, constant row now, ?_⟩
        · rw [rows]
          exact List.mem_map.mpr ⟨row, member, if_pos rfl⟩
        · intro other
          exact absurd aimed (other now)
      · refine ⟨row, ?_, rfl, fun _ => rfl⟩
        rw [rows]
        exact List.mem_map.mpr ⟨row, member, if_neg own⟩

omit [Mysql] in
/-- A selection does not notice a save of rows that it does not select. -/
theorem filter_eq {selects : Model → Bool}
    (before : ∀ row ∈ table.rows, repo.key row = target.id → selects row = false)
    (constructed : ∀ defaults, selects (repo.stored (repo.construct defaults data)) = false)
    (changed : ∀ old now, selects (repo.stored (repo.touch now (repo.assign data old))) = false) :
    next.rows.filter selects = table.rows.filter selects := by
  cases left with
  | same kept => rw [kept]
  | inserted defaults _ _ rows =>
      rw [rows, List.filter_append, List.filter_singleton, constructed]
      exact List.append_nil _
  | updated old now aimed stored _ rows =>
      rw [rows]
      apply filter_map_hidden
      intro row member
      split
      next same =>
        refine .inr ⟨before row member ?_, changed old now⟩
        rw [same, aimed, Target.id]
      next => exact .inl rfl

end Left

variable (repo) in
/-- A new row of the payload fits, passes the checks, names what is stored and converts. -/
structure ReadyNew (referenced : Model → Bool) (data : Input) : Prop where
  fits : ∀ defaults, (repo.cells (repo.construct defaults data)).all Cell.storable = true
  converts : ∀ defaults, (repo.toEntity (repo.construct defaults data)).isOk = true
  checks : ∀ defaults, repo.checks (repo.construct defaults data) = true
  references : ∀ defaults, referenced (repo.construct defaults data) = true

variable (repo) in
/-- So does every stored row that is changed to it. -/
structure ReadyChange (referenced : Model → Bool) (data : Input) (table : repo.Rows) : Prop where
  fits : ∀ model, (repo.cells (repo.assign data model)).all Cell.storable = true
  converts : ∀ model, (repo.toEntity (repo.assign data model)).isOk = true
  checks : ∀ now, ∀ model ∈ table.rows,
    repo.checks (repo.touch now (repo.assign data model)) = true
  references : ∀ now, ∀ model ∈ table.rows,
    referenced (repo.touch now (repo.assign data model)) = true

/-- A new row is refused only for one that it clashes with. -/
theorem save_post_raises {defaults : Defaults} {raised : Raised}
    (ready : repo.ReadyNew referenced data)
    (ended : (repo.save referenced (.post defaults) data table).1 = .error raised) :
    raised = repo.conflict ∧ ∃ row ∈ table.rows,
      repo.clash row (repo.stored (repo.construct defaults data)) = true := by
  rw [save_post] at ended
  rcases commitNew_eq referenced table (ready.fits defaults) (ready.checks defaults)
      (ready.references defaults) with ⟨held, refused⟩ | ⟨_, next, _, committed⟩
  · rw [refused] at ended
    cases ended
    exact ⟨rfl, held⟩
  · rw [committed] at ended
    have converted := ready.converts defaults
    rw [Result.map_eq_error.mp ended] at converted
    cases converted

/-- A changed row only for another one. -/
theorem save_put_raises {id : UUID} {now : Instant} {raised : Raised} (steady : repo.Steady)
    (plain : repo.Plain) (ready : repo.ReadyChange referenced data table)
    (ended : (repo.save referenced (.put id now) data table).1 = .error raised) :
    raised = repo.conflict ∧ ∃ old ∈ table.rows, repo.key old = id ∧
      repo.same old (repo.assign data old) = false ∧
      (table.update? fun row => if repo.key row = repo.key old then
        repo.stored (repo.touch now (repo.assign data old)) else row) = none := by
  cases found : table.find? fun row => repo.key row = id with
  | none =>
      rw [save_put_of_none found] at ended
      cases ended
  | some old =>
      rcases Table.mem_of_find? found with ⟨member, selected⟩
      have key : repo.key old = id := of_decide_eq_true selected
      rw [← key, save_put member] at ended
      have converts := ready.converts old
      cases same : repo.same old (repo.assign data old) with
      | true =>
          have kept : repo.commitChange referenced now old data table =
              .ok (repo.assign data old, table) := by
            simp only [commitChange, updateRow, same, if_true]
            rfl
          rw [kept] at ended
          rw [Result.map_eq_error.mp ended] at converts
          cases converts
      | false =>
          have storable : (repo.cells (repo.touch now (repo.assign data old))).all
              Cell.storable = true := by
            rw [plain.touch]
            exact ready.fits old
          rw [commitChange_changed referenced table same storable (ready.checks now old member)
            (ready.references now old member)] at ended
          cases updated : table.update? fun row => if repo.key row = repo.key old then
              repo.stored (repo.touch now (repo.assign data old)) else row with
          | none =>
              rw [updated] at ended
              cases ended
              exact ⟨rfl, old, member, key, same, updated⟩
          | some next =>
              rw [updated] at ended
              rw [← steady.touch now, Result.map_eq_error.mp ended] at converts
              cases converts

/-- So a save is refused with the conflict of its repository. -/
theorem save_raises (steady : repo.Steady) (plain : repo.Plain)
    (new : repo.ReadyNew referenced data) (change : repo.ReadyChange referenced data table) :
    Result.RaisesOnly (fun raised => raised = repo.conflict)
      (repo.save referenced target data table).1 := by
  intro raised ended
  cases target with
  | post defaults => exact (save_post_raises new ended).1
  | put id now => exact (save_put_raises steady plain change ended).1

/-- With the primary key as the only constraint, and a new key for a new row, nothing is in
the way. -/
theorem save_isOk_of_keys (steady : repo.Steady) (plain : repo.Plain)
    (clash : ∀ first second, repo.clash first second = (repo.key first == repo.key second))
    (new : repo.ReadyNew referenced data) (ready : repo.ReadyChange referenced data table)
    (fresh : ∀ defaults, target = .post defaults → defaults.id ∉ table.rows.map repo.key) :
    (repo.save referenced target data table).1.isOk = true := by
  cases ended : (repo.save referenced target data table).1 with
  | ok found => rfl
  | error raised =>
      cases target with
      | post defaults =>
          rcases (save_post_raises new ended).2 with ⟨row, member, held⟩
          rw [clash, repo.keeps.stored, repo.keeps.construct, beq_iff_eq] at held
          exact absurd (List.mem_map.mpr ⟨row, member, held⟩) (fresh defaults rfl)
      | put id now =>
          rcases (save_put_raises steady plain ready ended).2 with ⟨old, _, _, _, refused⟩
          have kept : ∀ row, repo.key (if repo.key row = repo.key old then
              repo.stored (repo.touch now (repo.assign data old)) else row) = repo.key row := by
            intro row
            split
            next same => rw [repo.keeps.stored, repo.keeps.touch, repo.keeps.assign, same]
            next => rfl
          rcases update?_of_keys table clash kept with ⟨next, updated⟩
          rw [refused] at updated
          cases updated

end Repository

/-! ## With technologies -/

namespace Tagged

/-- What the assignment of a collection adds are links of the owner. -/
theorem mem_foldlM_insert {owner : UUID} {added : List UUID} {links next : Links}
    (inserted : added.foldlM (fun links id => links.insert? (owner, id)) links = some next) :
    ∀ link ∈ next.rows, link ∈ links.rows ∨ link.1 = owner ∧ link.2 ∈ added := by
  induction added generalizing links with
  | nil =>
      cases inserted
      exact fun link member => .inl member
  | cons id rest ih =>
      rw [List.foldlM_cons] at inserted
      rcases Option.bind_eq_some_iff.mp inserted with ⟨first, one, others⟩
      intro link member
      rcases ih others link member with before | ⟨own, later⟩
      · rw [(Table.insert?_eq_some.mp one).2] at before
        rcases List.mem_append.mp before with earlier | new
        · exact .inl earlier
        · rw [List.mem_singleton.mp new]
          exact .inr ⟨rfl, List.mem_cons_self⟩
      · exact .inr ⟨own, List.mem_cons_of_mem _ later⟩

theorem mem_relink {owner : UUID} {loaded assigned : List UUID} {links next : Links}
    (linked : relink links owner loaded assigned = some next) :
    ∀ link ∈ next.rows, link ∈ links.rows ∨ link.1 = owner ∧ link.2 ∈ assigned := by
  intro link member
  rcases mem_foldlM_insert linked link member with before | ⟨own, added⟩
  · exact .inl (Table.mem_delete.mp before).1
  · exact .inr ⟨own, List.mem_of_mem_filter added⟩

/-- The links of the other owners. -/
def otherLinks (links : Links) (owner : UUID) : List (UUID × UUID) :=
  links.rows.filter fun link => link.1 != owner

theorem otherLinks_foldlM_insert {owner : UUID} {added : List UUID} {links next : Links}
    (inserted : added.foldlM (fun links id => links.insert? (owner, id)) links = some next) :
    otherLinks next owner = otherLinks links owner := by
  induction added generalizing links with
  | nil =>
      cases inserted
      rfl
  | cons id rest ih =>
      rw [List.foldlM_cons] at inserted
      rcases Option.bind_eq_some_iff.mp inserted with ⟨first, one, others⟩
      rw [ih others, otherLinks, (Table.insert?_eq_some.mp one).2, List.filter_append]
      simp [otherLinks]

/-- The assignment of a collection leaves the links of the other owners alone. -/
theorem otherLinks_relink {owner : UUID} {loaded assigned : List UUID} {links next : Links}
    (linked : relink links owner loaded assigned = some next) :
    otherLinks next owner = otherLinks links owner := by
  rw [otherLinks_foldlM_insert linked, otherLinks, otherLinks]
  simp only [Table.delete, List.filter_filter]
  apply List.filter_congr
  intro link _
  cases own : link.1 == owner with
  | true => simp [bne, own]
  | false => simp [bne, own]

variable [PyUnicode] [Collation] [Mysql] {referenced : Model → Bool} {target : Target}
  {data : Input} {tagged : Tagged repo} {technologies : Technologies} {ties : Ties}
  {technologyIds : List UUID}

omit [PyUnicode] [Collation] [Mysql] in
theorem flushLinks_eq_ok {links : Option Links} {next : Links}
    (flushed : flushLinks links = .ok next) : links = some next := by
  simp only [flushLinks] at flushed
  split at flushed
  next =>
    cases flushed
    rfl
  next => cases flushed

omit [Mysql] in
theorem mem_flushLinks {owner : UUID} {loaded : List UUID} {links next : Links}
    (flushed : flushLinks (relink links owner loaded (getTechnologies technologies technologyIds)) =
      .ok next) :
    ∀ link ∈ next.rows, link ∈ links.rows ∨
      link.1 = owner ∧ link.2 ∈ technologies.rows.map TechnologyModel.id := by
  intro link member
  rcases mem_relink (flushLinks_eq_ok flushed) link member with before | ⟨own, assigned⟩
  · exact .inl before
  · exact .inr ⟨own, List.mem_map.mpr (mem_getTechnologies.mp assigned).2⟩

/-- A save of a row that is not there. -/
theorem save_put_of_none {id : UUID} {now : Instant}
    (missing : tagged.rows.find? (fun row => repo.key row = id) = none) :
    save technologies ties technologyIds referenced (.put id now) data tagged =
      (.ok none, tagged) := by
  unfold save
  change Program.bind _ _ _ = _
  simp only [Program.bind, commit, Program.transact, Repository.select_eq, missing]
  rfl

/-- What a save makes of the rows and of the links. -/
structure Left (technologies : Technologies) (referenced : Model → Bool) (target : Target)
    (data : Input) (tagged next : Tagged repo) : Prop where
  rows : repo.Left referenced target data tagged.rows next.rows
  links : ∀ link ∈ next.links.rows, link ∈ tagged.links.rows ∨
    link.1 ∈ next.rows.rows.map repo.key ∧ link.2 ∈ technologies.rows.map TechnologyModel.id
  others : otherLinks next.links target.id = otherLinks tagged.links target.id

omit [Mysql] in
theorem Left.refl : Left technologies referenced target data tagged tagged :=
  ⟨.same rfl, fun _ member => .inl member, rfl⟩

theorem commitNew_left {defaults : Defaults} {model : Model} {next : Tagged repo}
    (committed : tagged.commitNew technologies technologyIds referenced defaults data =
      .ok (model, next)) : Left technologies referenced (.post defaults) data tagged next := by
  rcases Result.bind_eq_ok.mp (Repository.reported_eq_ok committed) with ⟨rows, inserted, rest⟩
  rcases Result.bind_eq_ok.mp rest with ⟨links, flushed, equal⟩
  cases equal
  have added := (Table.insert?_eq_some.mp (Repository.flush_eq_ok inserted).2).2
  refine ⟨Repository.insertRow_left inserted, ?_, ?_⟩
  · intro link member
    rcases mem_flushLinks flushed link member with before | ⟨own, stored⟩
    · exact .inl before
    · refine .inr ⟨?_, stored⟩
      rw [own, added, List.map_append, List.map_singleton, repo.keeps.stored]
      exact List.mem_append_right _ (List.mem_singleton_self _)
  · rw [Target.id, ← repo.keeps.construct defaults data]
    exact otherLinks_relink (flushLinks_eq_ok flushed)

theorem commitChange_left {old model : Model} {now : Instant} {next : Tagged repo}
    (member : old ∈ tagged.rows.rows)
    (committed : tagged.commitChange technologies ties technologyIds referenced now old data =
      .ok (model, next)) :
    Left technologies referenced (.put (repo.key old) now) data tagged next := by
  simp only [commitChange] at committed
  rcases Result.bind_eq_ok.mp committed with ⟨⟨changed, rows⟩, updated, rest⟩
  rcases Result.bind_eq_ok.mp rest with ⟨links, flushed, equal⟩
  cases equal
  have left := Repository.updateRow_left member (autoflushed_eq_ok updated)
  have flushed := Repository.reported_eq_ok flushed
  refine ⟨left, ?_, otherLinks_relink (flushLinks_eq_ok flushed)⟩
  intro link linked
  rcases mem_flushLinks flushed link linked with before | ⟨own, stored⟩
  · exact .inl before
  · exact .inr ⟨own ▸ left.keys _ (List.mem_map_of_mem member), stored⟩

theorem save_left : Left technologies referenced target data tagged
    (save technologies ties technologyIds referenced target data tagged).2 := by
  cases target with
  | post defaults =>
      rw [save_post]
      cases committed : tagged.commitNew technologies technologyIds referenced defaults data with
      | error raised => exact .refl
      | ok pair => exact commitNew_left committed
  | put id now =>
      cases found : tagged.rows.find? fun row => repo.key row = id with
      | none =>
          rw [save_put_of_none found]
          exact .refl
      | some old =>
          rcases Table.mem_of_find? found with ⟨member, selected⟩
          have key : repo.key old = id := of_decide_eq_true selected
          rw [← key, save_put member]
          cases committed : tagged.commitChange technologies ties technologyIds referenced now old
              data with
          | error raised => exact .refl
          | ok pair => exact commitChange_left member committed

/-- Only the constraints are in the way. -/
abbrev RaisesIntegrityError {α : Type} (result : Except Raised α) : Prop :=
  Result.RaisesOnly (fun raised => raised = .integrityError) result

omit [PyUnicode] [Collation] [Mysql] in
theorem reported_raises {α : Type} {result : Except Raised α}
    (raises : RaisesIntegrityError result) :
    Result.RaisesOnly (fun raised => raised = repo.conflict) (repo.reported result) := by
  intro raised failed
  cases result with
  | ok value => cases failed
  | error cause =>
      rw [raises cause rfl] at failed
      cases failed
      rfl

omit [PyUnicode] [Collation] in
theorem insertRow_raises {defaults : Defaults} (ready : repo.ReadyNew referenced data) :
    RaisesIntegrityError
      (repo.insertRow referenced (repo.construct defaults data) tagged.rows) := by
  simp only [Repository.insertRow, Repository.flush, ready.fits defaults,
    ready.checks defaults, ready.references defaults, Bool.not_true, Bool.false_eq_true, if_false,
    if_true]
  split
  · exact .ok
  · exact .error rfl

omit [PyUnicode] [Collation] [Mysql] in
theorem flushLinks_raises {links : Option Links} : RaisesIntegrityError (flushLinks links) := by
  simp only [flushLinks]
  split
  · exact .ok
  · exact .error rfl

theorem commitNew_raises {defaults : Defaults} (ready : repo.ReadyNew referenced data) :
    Result.RaisesOnly (fun raised => raised = repo.conflict)
      (tagged.commitNew technologies technologyIds referenced defaults data) := by
  apply reported_raises
  apply (insertRow_raises ready).bind
  intro rows
  apply flushLinks_raises.bind
  exact fun links => .ok

/-- A create is refused with the conflict of its repository. -/
theorem save_post_raises {defaults : Defaults} (ready : repo.ReadyNew referenced data)
    (readable : TechnologyRepository.repository.Readable technologies) :
    Result.RaisesOnly (fun raised => raised = repo.conflict)
      (save technologies ties technologyIds referenced (.post defaults) data tagged).1 := by
  intro raised ended
  rw [save_post] at ended
  cases committed : tagged.commitNew technologies technologyIds referenced defaults data with
  | error error =>
      rw [committed] at ended
      cases ended
      exact commitNew_raises ready _ committed
  | ok pair =>
      rw [committed] at ended
      rcases Result.bind_eq_ok.mp (Repository.reported_eq_ok committed) with ⟨rows, _, rest⟩
      rcases Result.bind_eq_ok.mp rest with ⟨links, _, equal⟩
      cases equal
      have converted : (toRow ⟨rows, links⟩ technologies ties (repo.construct defaults data)).isOk =
          true := (toRow_isOk readable).trans (ready.converts defaults)
      rw [Result.map_eq_error.mp ended] at converted
      cases converted

variable {slugged : Slugged repo}

/-- So is an update, unless it selects technologies while another row holds its slug. -/
theorem save_put_raises {id : UUID} {now : Instant} (steady : repo.Steady) (plain : repo.Plain)
    (ready : repo.ReadyChange referenced data tagged.rows)
    (readable : TechnologyRepository.repository.Readable technologies)
    (selected : slugged.taken tagged.rows id (slugged.wanted data) = true → technologyIds = []) :
    Result.RaisesOnly (fun raised => raised = repo.conflict)
      (save technologies ties technologyIds referenced (.put id now) data tagged).1 := by
  intro raised ended
  cases found : tagged.rows.find? fun row => repo.key row = id with
  | none =>
      rw [save_put_of_none found] at ended
      cases ended
  | some old =>
      rcases Table.mem_of_find? found with ⟨member, own⟩
      have key : repo.key old = id := of_decide_eq_true own
      subst key
      rw [save_put member] at ended
      have converts := ready.converts old
      -- what an update that is written answers
      have answered : ∀ {changed : Model} {rows : repo.Rows}, (repo.toEntity changed).isOk = true →
          repo.updateRow referenced now old (repo.assign data old) tagged.rows =
            .ok (changed, rows) → raised = repo.conflict := by
        intro changed rows converted updated
        obtain ⟨links, committed⟩ : ∃ links, tagged.commitChange technologies ties technologyIds
            referenced now old data = .ok (changed, ⟨rows, links⟩) :=
          (commitChange_ok updated).imp fun _ both => both.2
        rw [committed] at ended
        have answer : (toRow ⟨rows, links⟩ technologies ties changed).isOk = true :=
          (toRow_isOk readable).trans converted
        rw [Result.map_eq_error.mp ended] at answer
        cases answer
      cases same : repo.same old (repo.assign data old) with
      | true => exact answered converts (updateRow_same same tagged.rows)
      | false =>
          have references : referenced (slugged.touched now data old) = true :=
            ready.references now old member
          rcases updateRow_changed member references same with
            ⟨cause, refused, failed⟩ | ⟨_, rows, _, updated⟩
          · rw [commitChange_error failed] at ended
            cases ended
            have storable :
                (repo.cells (slugged.touched now data old)).all Cell.storable = true := by
              rw [Slugged.touched, plain.touch]
              exact ready.fits old
            have checks : repo.checks (slugged.touched now data old) = true :=
              ready.checks now old member
            simp only [refusal, storable, checks, Bool.not_true, Bool.false_eq_true, if_false]
              at refused
            split at refused
            next held =>
              cases refused
              rw [selected held]
              rfl
            next => cases refused
          · refine answered ?_ updated
            rw [Slugged.touched, steady.touch]
            exact converts

end Tagged

end

/-- An upsert is a save under one target. -/
theorem CompanyRepository.update_eq_save [PyUnicode] [Mysql] (ties : Ties) (defaults : Defaults)
    (now : Instant) (payload : CompanyWrite) (companies : Companies) : ∃ target : Target,
      (target = .post defaults ∨ ∃ model ∈ companies.rows, target = .put model.id now) ∧
        (update ties defaults now payload companies).1.isOk =
          (repository.save (fun _ => true) target payload companies).1.isOk ∧
        (update ties defaults now payload companies).2 =
          (repository.save (fun _ => true) target payload companies).2 := by
  have single : (selectFirst companies ties).length ≤ 1 := List.length_take_le 1 _
  have bound : update ties defaults now payload companies =
      Program.bind (commit ties defaults now payload)
        (fun model => Program.read fun _ => model.toEntity) companies := rfl
  cases first : (selectFirst companies ties).head? with
  | none =>
      refine ⟨.post defaults, .inl rfl, ?_⟩
      have upserted : upsert ties defaults now payload companies =
          repository.commitNew (fun _ => true) defaults payload companies := by
        rw [upsert, Query.scalarOneOrNone_eq single, first]
        rfl
      rw [Repository.save_post, bound]
      simp only [Program.bind, commit, Program.transact, upserted]
      cases repository.commitNew (fun _ => true) defaults payload companies with
      | error raised => exact ⟨rfl, rfl⟩
      | ok pair => exact ⟨Result.isOk_map.symm, rfl⟩
  | some model =>
      have member : model ∈ companies.rows := Query.mem_orderBy.mp
        (List.mem_of_mem_take (List.mem_of_mem_head? (Option.mem_def.mpr first)))
      have upserted : upsert ties defaults now payload companies =
          repository.commitChange (fun _ => true) now model payload companies := by
        rw [upsert, Query.scalarOneOrNone_eq single, first]
        rfl
      refine ⟨.put (repository.key model) now, .inr ⟨model, member, rfl⟩, ?_⟩
      rw [Repository.save_put member, bound]
      simp only [Program.bind, commit, Program.transact, upserted]
      cases repository.commitChange (fun _ => true) now model payload companies with
      | error raised => exact ⟨rfl, rfl⟩
      | ok pair => exact ⟨Result.isOk_map.symm, rfl⟩

end ChTech.Content
