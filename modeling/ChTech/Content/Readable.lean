import ChTech.Content.Repository

/-!
# Readable tables

A row is readable when the entity can be rebuilt from it.  Whether a commit leaves a
readable row is decided by the payload alone, and so is whether the request that has
committed returns.
-/

namespace ChTech.Content

open Foundation

/-- Of a request: what its commit returned, how it ended and where. -/
structure Outcome {σ : Type} (readable : σ → Prop) (verdict : Bool)
    (committed : Except Raised Bool) (saved : Except Raised Unit) (next : σ) : Prop where
  /-- A request that has written a row returns, and leaves the table readable, exactly
  when its payload is readable. -/
  written : committed = .ok true → (saved.isOk = true ∧ readable next ↔ verdict = true)
  absent : committed = .ok false → saved.isOk = true ∧ readable next
  refused : committed.isOk = false → saved.isOk = false ∧ readable next

theorem Outcome.congr {σ τ : Type} {readable : σ → Prop} {readable' : τ → Prop} {verdict : Bool}
    {committed : Except Raised Bool} {saved : Except Raised Unit} {next : σ} {next' : τ}
    (outcome : Outcome readable verdict committed saved next)
    (same : readable' next' ↔ readable next) :
    Outcome readable' verdict committed saved next' where
  written ended := by
    rw [same]
    exact outcome.written ended
  absent ended := by
    rw [same]
    exact outcome.absent ended
  refused ended := by
    rw [same]
    exact outcome.refused ended

/-- A readable payload keeps the table readable. -/
theorem Outcome.readable {σ : Type} {readable : σ → Prop} {verdict : Bool}
    {committed : Except Raised Bool} {saved : Except Raised Unit} {next : σ}
    (outcome : Outcome readable verdict committed saved next) (good : verdict = true) :
    readable next := by
  match committed with
  | .ok true => exact ((outcome.written rfl).mpr good).2
  | .ok false => exact (outcome.absent rfl).2
  | .error _ => exact (outcome.refused rfl).2

/-- A request that commits and then reads an answer off the committed state. -/
theorem Outcome.of_commit {σ γ δ : Type} {readable : σ → Prop} {verdict : Bool}
    {commit : Program σ Raised γ} {wrote : γ → Bool} {start : σ}
    (reads : γ → σ → Except Raised δ) (started : readable start)
    (ensured : commit.Ensures start
      (fun committed next =>
        if wrote committed then
          (readable next ↔ verdict = true) ∧ (reads committed next).isOk = verdict
        else
          next = start ∧ (reads committed next).isOk = true)
      (fun _ next => next = start)) :
    Outcome readable verdict ((commit start).1.map wrote)
      (((commit >>= fun committed => Program.read (reads committed)) start).1.map
        fun _ => ())
      ((commit >>= fun committed => Program.read (reads committed)) start).2 := by
  have bound : (commit >>= fun committed => Program.read (reads committed)) start =
      Program.bind commit (fun committed => Program.read (reads committed)) start := rfl
  rw [bound]
  simp only [Program.bind]
  cases ended : (commit start).1 with
  | error raised =>
      constructor
      · intro impossible
        cases impossible
      · intro impossible
        cases impossible
      · intro _
        change false = false ∧ readable (commit start).2
        rw [ensured.of_raised ended]
        exact ⟨rfl, started⟩
  | ok committed =>
      have returned := ensured.of_returned ended
      constructor
      · intro writes
        rw [if_pos (Except.ok.inj writes)] at returned
        change ((reads committed (commit start).2).map fun _ => ()).isOk = true ∧
          readable (commit start).2 ↔ verdict = true
        rw [Result.isOk_map, returned.2, returned.1, and_self]
      · intro skips
        rw [if_neg (ne_true_of_eq_false (Except.ok.inj skips))] at returned
        change ((reads committed (commit start).2).map fun _ => ()).isOk = true ∧
          readable (commit start).2
        rw [Result.isOk_map, returned.2, returned.1]
        exact ⟨rfl, started⟩
      · intro impossible
        cases impossible

namespace Repository

variable {Model Input Entity : Type} {repo : Repository Model Input Entity}

variable (repo) in
/-- Every row converts. -/
def Readable (table : repo.Rows) : Prop := ∀ row ∈ table.rows, (repo.toEntity row).isOk = true

theorem readable_empty : repo.Readable Table.empty := by
  intro row member
  cases member

theorem readAll_isOk {table : repo.Rows} (readable : repo.Readable table)
    {selected : List Model} (members : ∀ row ∈ selected, row ∈ table.rows) :
    (repo.readAll selected).isOk = true :=
  Result.isOk_mapM fun row member => readable row (members row member)

/-- A lookup by a key that is unique in the table. -/
theorem readOne_isOk {table : repo.Rows} (readable : repo.Readable table) {selects : Model → Bool}
    (unique : ∀ first second, selects first = true → selects second = true →
      repo.clash first second = true) :
    (repo.readOne (table.rows.filter selects)).isOk = true := by
  simp only [readOne]
  rw [Query.scalarOneOrNone_eq (Table.length_filter_le_one unique)]
  cases found : (table.rows.filter selects).head? with
  | none => rfl
  | some row =>
      have member := List.mem_of_mem_head? (Option.mem_def.mpr found)
      change ((repo.toEntity row).map some).isOk = true
      rw [Result.isOk_map]
      exact readable row (List.mem_filter.mp member).1

variable [Mysql]

variable (repo) in
/-- The columns that `onupdate` and a round trip through the database change are not
converted. -/
structure Steady : Prop where
  touch : ∀ now model, (repo.toEntity (repo.touch now model)).isOk = (repo.toEntity model).isOk
  stored : ∀ model, (repo.cells model).all Cell.storable = true →
    (repo.toEntity (repo.stored model)).isOk = (repo.toEntity model).isOk
  same : ∀ first second, repo.same first second = true →
    (repo.toEntity first).isOk = (repo.toEntity second).isOk

/-- A repository that stores its models as they are and compares them by `==`. -/
theorem Steady.of_plain (touch : ∀ now model,
      (repo.toEntity (repo.touch now model)).isOk = (repo.toEntity model).isOk)
    (stored : ∀ model, repo.stored model = model)
    (same : ∀ first second, repo.same first second = true → first = second) : repo.Steady where
  touch := touch
  stored model _ := by rw [stored]
  same first second equal := by rw [same first second equal]

omit [Mysql]

variable (repo) in
/-- What becomes of the conversion of a row with the given data. -/
structure Verdict (data : Input) (verdict : Bool) : Prop where
  construct : ∀ defaults, (repo.toEntity (repo.construct defaults data)).isOk = verdict
  assign : ∀ model, (repo.toEntity (repo.assign data model)).isOk = verdict

variable [Mysql]

namespace Written

variable {data : Input} {table next : repo.Rows} {model : Model} {verdict : Bool}

theorem isOk (written : repo.Written data table next model) (steady : repo.Steady)
    (decided : repo.Verdict data verdict) : (repo.toEntity model).isOk = verdict := by
  cases written with
  | inserted defaults constructed _ _ =>
      rw [constructed]
      exact decided.construct defaults
  | unchanged old _ assigned _ _ =>
      rw [assigned]
      exact decided.assign old
  | updated old now _ touched _ _ =>
      rw [touched, steady.touch]
      exact decided.assign old

/-- The rows after a commit: the earlier ones, and one with the verdict of the payload. -/
theorem rows (written : repo.Written data table next model) (steady : repo.Steady)
    (decided : repo.Verdict data verdict) :
    (∃ row ∈ next.rows, (repo.toEntity row).isOk = verdict) ∧
      ∀ row ∈ next.rows, row ∈ table.rows ∨ (repo.toEntity row).isOk = verdict := by
  have converted := written.isOk steady decided
  cases written with
  | inserted defaults _ storable rows =>
      have stored := (steady.stored model storable).trans converted
      rw [rows]
      constructor
      · exact ⟨repo.stored model, List.mem_append_right _ List.mem_cons_self, stored⟩
      · intro row member
        rcases List.mem_append.mp member with earlier | added
        · exact .inl earlier
        · rw [List.mem_singleton.mp added]
          exact .inr stored
  | unchanged old member assigned same kept =>
      rw [kept]
      constructor
      · refine ⟨old, member, ?_⟩
        rw [steady.same old model (assigned ▸ same)]
        exact converted
      · exact fun row member => .inl member
  | updated old now member touched storable rows =>
      have stored := (steady.stored model storable).trans converted
      rw [rows]
      constructor
      · exact ⟨repo.stored model, List.mem_map.mpr ⟨old, member, if_pos rfl⟩, stored⟩
      · intro row changed
        rcases List.mem_map.mp changed with ⟨earlier, member, equal⟩
        split at equal
        next =>
          rw [← equal]
          exact .inr stored
        next =>
          rw [← equal]
          exact .inl member

theorem readable_iff (written : repo.Written data table next model) (steady : repo.Steady)
    (decided : repo.Verdict data verdict) (readable : repo.Readable table) :
    repo.Readable next ↔ verdict = true := by
  rcases written.rows steady decided with ⟨⟨row, member, converted⟩, rows⟩
  constructor
  · intro all
    rw [← converted]
    exact all row member
  · intro good other member
    rcases rows other member with earlier | added
    · exact readable other earlier
    · exact added.trans good

end Written

/-- Where a request on one table ends. -/
theorem save_outcome {referenced : Model → Bool} {target : Target} {data : Input}
    {table : repo.Rows} {verdict : Bool} (steady : repo.Steady)
    (decided : repo.Verdict data verdict) (readable : repo.Readable table) :
    Outcome repo.Readable verdict
      ((repo.commit referenced target data table).1.map Option.isSome)
      ((repo.save referenced target data table).1.map fun _ => ())
      (repo.save referenced target data table).2 := by
  apply Outcome.of_commit (fun committed _ => repo.answer committed) readable
  apply commit_ensures.mono
  · intro committed next returned
    cases committed with
    | none => exact ⟨returned, rfl⟩
    | some model =>
        constructor
        · exact returned.readable_iff steady decided readable
        · rw [answer, Result.isOk_map]
          exact returned.isOk steady decided
  · exact fun _ _ kept => kept

end Repository

end ChTech.Content
