import ChTech.Content.Repository

/-!
# Storable payloads

Whether the values of a payload fit their columns, and with it whether a flush can fail
with a data error.
-/

namespace ChTech.Content

open Foundation

variable [Mysql]

namespace Cell

@[simp] theorem storable_guid {value : Option UUID} : (Cell.guid value).storable = true := rfl

@[simp] theorem storable_boolean {value : Bool} : (Cell.boolean value).storable = true := rfl

@[simp] theorem storable_date {value : Option Date} : (Cell.date value).storable = true := rfl

/-- `VARCHAR` counts characters, as `max_length` does. -/
theorem storable_varchar {size limit : Nat} {value : Option String}
    (short : ifGiven (maxLength limit) value = true) (within : limit ≤ size) :
    (Cell.varchar size value).storable = true := by
  cases value with
  | none => rfl
  | some value => exact decide_eq_true (Nat.le_trans (length_le_of_maxLength short) within)

/-- `TEXT` counts bytes, up to four to a character. -/
theorem storable_text {limit : Nat} {value : Option String}
    (short : ifGiven (maxLength limit) value = true) (small : 4 * limit ≤ textBytes) :
    (Cell.text value).storable = true := by
  cases value with
  | none => rfl
  | some value => exact decide_eq_true (text_fits (length_le_of_maxLength short) small)

theorem storable_url [PyUnicode] {value : Option String} (valid : ifGiven isUrl value = true) :
    (Cell.text value).storable = true := by
  cases value with
  | none => rfl
  | some value =>
      have short := length_le_of_checkHttpUrl (Url.postInit_isOk.mp valid)
      exact decide_eq_true (text_fits short (by decide))

theorem storable_image [PyUnicode] {value : Option String}
    (valid : ifGiven isImage value = true) : (Cell.text value).storable = true := by
  cases value with
  | none => rfl
  | some value =>
      have short := length_le_of_checkHttpUrl (Image.postInit_isOk.mp valid)
      exact decide_eq_true (text_fits short (by decide))

/-- `EmailStr` keeps to the length of an address. -/
theorem storable_email [EmailStr] {size : Nat} {value : Option String}
    (emailStr : ∀ value, EmailStr.produces value = true → value.length ≤ 254)
    (produced : ifGiven EmailStr.produces value = true) (within : 254 ≤ size) :
    (Cell.varchar size value).storable = true := by
  cases value with
  | none => rfl
  | some value => exact decide_eq_true (Nat.le_trans (emailStr value produced) within)

end Cell

/-- The computation does not fail with a data error. -/
def Undisturbed {α : Type} (result : Except Raised α) : Prop := result ≠ .error .dataError

omit [Mysql] in
theorem Undisturbed.bind {α β : Type} {first : Except Raised α} {second : α → Except Raised β}
    (left : Undisturbed first) (right : ∀ value, first = .ok value → Undisturbed (second value)) :
    Undisturbed (first >>= second) := by
  cases first with
  | ok value => exact right value rfl
  | error raised =>
      intro failed
      cases failed
      exact left rfl

omit [Mysql] in
theorem Undisturbed.map {α β : Type} {result : Except Raised α} {change : α → β}
    (clean : Undisturbed result) : Undisturbed (result.map change) := by
  cases result with
  | ok value =>
      intro failed
      cases failed
  | error raised =>
      intro failed
      cases failed
      exact clean rfl

namespace Repository

variable {Model Input Entity : Type} (repo : Repository Model Input Entity)

/-- Every value a create or an update of the payload sends to a column is stored. -/
def Stores (data : Input) : Prop :=
  (∀ defaults, (repo.cells (repo.construct defaults data)).all Cell.storable = true) ∧
    ∀ model, (repo.cells (repo.assign data model)).all Cell.storable = true

/-- The values that reach a column from the payload are storable exactly on a condition. -/
structure Fits (data : Input) (fits : Bool) : Prop where
  construct : ∀ defaults, (repo.cells (repo.construct defaults data)).all Cell.storable = fits
  assign : ∀ model, (repo.cells (repo.assign data model)).all Cell.storable = fits

variable {repo}

theorem Fits.stores_iff {data : Input} {fits : Bool} (decided : repo.Fits data fits) :
    repo.Stores data ↔ fits = true := by
  constructor
  · intro stores
    rw [← decided.construct ⟨0, 0, 0⟩]
    exact stores.1 _
  · intro good
    exact ⟨fun defaults => (decided.construct defaults).trans good,
      fun model => (decided.assign model).trans good⟩

variable (repo) in
/-- The columns do not depend on `onupdate`, and a conflict is not a data error. -/
structure Plain : Prop where
  touch : ∀ now model, repo.cells (repo.touch now model) = repo.cells model
  conflict : repo.conflict ≠ .dataError

theorem flush_undisturbed {cells : List Cell} {checked referenced : Bool}
    {written : Option repo.Rows} (storable : cells.all Cell.storable = true) :
    Undisturbed (repo.flush cells checked referenced written) := by
  simp only [flush]
  rw [storable]
  intro failed
  split at failed
  next impossible => cases impossible
  next =>
    split at failed
    next => cases failed
    next =>
      split at failed
      next =>
        split at failed
        next => cases failed
        next => cases failed
      next => cases failed

theorem flush_disturbed {cells : List Cell} {checked referenced : Bool}
    {written : Option repo.Rows} (unstorable : cells.all Cell.storable = false) :
    repo.flush cells checked referenced written = .error .dataError := by
  simp only [flush]
  rw [unstorable]
  rfl

omit [Mysql] in
theorem reported_undisturbed {α : Type} {result : Except Raised α} (plain : repo.Plain)
    (clean : Undisturbed result) : Undisturbed (repo.reported result) := by
  cases result with
  | ok value =>
      intro failed
      cases failed
  | error raised =>
      intro failed
      have reported : (if raised = .integrityError then repo.conflict else raised) = .dataError :=
        Except.error.inj failed
      split at reported
      next => exact plain.conflict reported
      next => exact clean (congrArg Except.error reported)

omit [Mysql] in
theorem select_undisturbed {table : repo.Rows} {id : UUID} :
    Undisturbed (repo.select table id) := by
  rw [select_eq]
  intro failed
  cases failed

omit [Mysql] in
theorem transact_undisturbed {σ α : Type} {attempt : σ → Except Raised (α × σ)} {start : σ}
    (clean : Undisturbed (attempt start)) : Undisturbed (Program.transact attempt start).1 := by
  simp only [Program.transact]
  cases ended : attempt start with
  | ok pair =>
      intro failed
      cases failed
  | error raised =>
      intro failed
      cases failed
      exact clean ended

section

variable {referenced : Model → Bool} {data : Input} {table : repo.Rows}

theorem commitNew_undisturbed {defaults : Defaults} (plain : repo.Plain)
    (decided : repo.Fits data true) :
    Undisturbed (repo.commitNew referenced defaults data table) :=
  (reported_undisturbed plain (flush_undisturbed (decided.construct defaults))).map

theorem updateRow_undisturbed {now : Instant} {model : Model} (plain : repo.Plain)
    (decided : repo.Fits data true) :
    Undisturbed (repo.updateRow referenced now model (repo.assign data model) table) := by
  simp only [updateRow]
  split
  · intro failed
    cases failed
  · apply Undisturbed.map
    apply flush_undisturbed
    rw [plain.touch]
    exact decided.assign model

/-- A payload that fits never fails with a data error, whatever the table. -/
theorem commit_undisturbed {target : Target} (plain : repo.Plain)
    (decided : repo.Fits data true) :
    Undisturbed (repo.commit referenced target data table).1 := by
  apply transact_undisturbed
  cases target with
  | post defaults => exact (commitNew_undisturbed plain decided).map
  | put id now =>
      apply select_undisturbed.bind
      intro found _
      cases found with
      | none =>
          intro failed
          cases failed
      | some model =>
          exact (reported_undisturbed plain (updateRow_undisturbed plain decided)).map

/-- A payload that does not fit always does when it is created. -/
theorem commitNew_disturbed {defaults : Defaults} (decided : repo.Fits data false) :
    repo.commitNew referenced defaults data table = .error .dataError := by
  simp only [commitNew, insertRow]
  simp only [flush_disturbed (decided.construct defaults)]
  rfl

theorem commit_disturbed {defaults : Defaults} (decided : repo.Fits data false) :
    (repo.commit referenced (.post defaults) data table).1 = .error .dataError := by
  apply Program.transact_error
  simp only [commitNew_disturbed decided]
  rfl

end

theorem Fits.undisturbed_iff {data : Input} {fits : Bool} (decided : repo.Fits data fits)
    (plain : repo.Plain) :
    (∀ referenced target table, Undisturbed (repo.commit referenced target data table).1) ↔
      fits = true := by
  cases fits with
  | true => exact ⟨fun _ => rfl, fun _ _ _ _ => commit_undisturbed plain decided⟩
  | false =>
      constructor
      · intro clean
        exact (clean (fun _ => true) (.post ⟨0, 0, 0⟩) .empty (commit_disturbed decided)).elim
      · intro impossible
        cases impossible

end Repository

end ChTech.Content
