import ChTech.Content.Paging
import ChTech.Content.Stale

/-!
# What a write of an article answers

`create` and `update` build their answer from the attributes as they were assigned, since the
refresh after the commit loads the technologies only.  A later lookup reads the columns.  The
one column that may give back another value than it was given is the date.
-/

namespace ChTech.Content

open Foundation

open TechnologyRepository (Technologies)

namespace ArticleRepository

/-- Absent, or aware and with the offset of UTC. -/
def isUtc (value : Option Datetime) : Bool :=
  value.all fun value => value.utcoffset == some 0

theorem isUtc_storedDate (value : Option Datetime) : isUtc (storedDate value) = true := by
  simp only [storedDate]
  split
  next bound _ => cases bound <;> rfl
  next => rfl

theorem instant_of_utc {value : Datetime} (utc : value.utcoffset = some 0) :
    value.instant = value.wall := by
  rw [Datetime.instant, utc]
  exact Int.sub_zero _

/-- An aware value that shows the same instant is read back as the one in UTC. -/
theorem storedDate_eq_utc {value read : Datetime} (aware : value.utcoffset.isSome = true)
    (wall : read.wall = value.instant) (utc : read.utcoffset = some 0) :
    storedDate (some value) = some read := by
  rw [storedDate_aware aware (wall ▸ read.inCalendar)]
  cases read
  cases wall
  cases utc
  rfl

/-- The column gives back what it was given only in UTC. -/
theorem storedDate_eq_iff {value : Option Datetime} :
    storedDate value = value ↔ isUtc value = true := by
  constructor
  · intro same
    rw [← same]
    exact isUtc_storedDate value
  · intro utc
    cases value with
    | none => rfl
    | some value =>
        have offset : value.utcoffset = some 0 := eq_of_beq utc
        have aware : value.utcoffset.isSome = true := by
          rw [offset]
          rfl
        exact storedDate_eq_utc aware (instant_of_utc offset).symm offset

/-- An assigned value that is equal to the stored one is read back as the stored one. -/
theorem storedDate_of_pyEq {stored assigned : Datetime} (utc : isUtc (some stored) = true)
    (equal : stored.pyEq assigned = true) : storedDate (some assigned) = some stored := by
  have offset : stored.utcoffset = some 0 := eq_of_beq utc
  simp only [Datetime.pyEq, Bool.and_eq_true, beq_iff_eq] at equal
  rcases equal with ⟨instant, aware⟩
  rw [offset] at aware
  rw [instant_of_utc offset] at instant
  exact storedDate_eq_utc aware.symm instant offset

end ArticleRepository

section

variable [PyUnicode] [Collation] {technologies : Technologies} {ties : Ties}

omit [Collation] in
theorem ArticleModel.publishedAt_of_toEntity {model : ArticleModel} {article : Article}
    (converted : model.toEntity = .ok article) : article.publishedAt = model.publishedAt := by
  rcases Result.bind_eq_ok.mp converted with ⟨slug, _, converted⟩
  rcases Result.bind_eq_ok.mp converted with ⟨content, _, converted⟩
  rcases Result.bind_eq_ok.mp converted with ⟨coverImage, _, last⟩
  split at last
  next =>
    cases last
    rfl
  next => cases last

omit [Collation] in
/-- The entity shows the date as it is. -/
theorem ArticleModel.toEntity_redated {model : ArticleModel} {article : Article}
    (converted : model.toEntity = .ok article) (date : Option Datetime) :
    ({ model with publishedAt := date } : ArticleModel).toEntity = .ok article ↔
      date = model.publishedAt := by
  constructor
  · intro redated
    exact (publishedAt_of_toEntity redated).symm.trans (publishedAt_of_toEntity converted)
  · intro same
    subst same
    exact converted

namespace ArticleRepository

/-- The dates are as the column gives them back. -/
def AsRead (rows : repository.Rows) : Prop :=
  ∀ row ∈ rows.rows, isUtc row.publishedAt = true

/-- An answer is what a later lookup returns, but for the order of the technologies where the
engine has changed it. -/
structure ReadBack (technologies : Technologies) (ties : Ties) (articles : Articles)
    (answer : WithTechnologies Article) : Prop where
  same : getById articles technologies ties answer.entity.id = .ok (some answer)
  reordered : ∀ other, ∃ read,
    getById articles technologies other answer.entity.id = .ok (some read) ∧
      read.entity = answer.entity ∧ read.technologies.Perm answer.technologies

theorem stored_eq (model : ArticleModel) : repository.stored model =
    { model with publishedAt := storedDate model.publishedAt } := rfl

/-- The answer made from a model is read back if the column gives back the date. -/
theorem readBack_iff {articles : Articles} {model : ArticleModel}
    {answer : WithTechnologies Article} (stored : repository.stored model ∈ articles.rows.rows)
    (answered : articles.toRow technologies ties model = .ok answer) :
    ReadBack technologies ties articles answer ↔
      isUtc model.publishedAt = true := by
  rcases Tagged.toRow_eq_ok answered with ⟨entity, linked⟩
  have id : answer.entity.id = model.id := ArticleModel.id_of_toEntity entity
  have found : ∀ other, getById articles technologies other answer.entity.id =
      (articles.toRow technologies other (repository.stored model)).map some := by
    intro other
    have key : repository.key (repository.stored model) = model.id := rfl
    have read : articles.readOne technologies other (articles.rows.rows.filter fun row =>
        repository.key row = repository.key (repository.stored model)) = _ :=
      Tagged.readOne_of_mem stored
    rw [key] at read
    rw [id]
    exact read
  rw [← storedDate_eq_iff, ← ArticleModel.toEntity_redated entity]
  constructor
  · intro back
    have read := (found ties).symm.trans back.same
    rcases Result.map_eq_ok.mp read with ⟨row, converted, equal⟩
    cases equal
    exact (Tagged.toRow_eq_ok converted).1
  · intro redated
    have converted : articles.toRow technologies ties (repository.stored model) = .ok answer := by
      have linked : (articles.technologiesOf technologies ties
          (repository.key (repository.stored model))).mapM TechnologyModel.toEntity =
            .ok answer.technologies := linked
      have redated : repository.toEntity (repository.stored model) = .ok answer.entity := redated
      rw [Tagged.toRow, redated, linked]
      rfl
    constructor
    · rw [found, converted]
      rfl
    · intro other
      rcases Tagged.toRow_perm converted other with ⟨read, converted, same, technologies⟩
      refine ⟨read, ?_, same, technologies⟩
      rw [found, converted]
      rfl

/-- A row that an update leaves as it is, is the assigned one once that is read back. -/
theorem stored_of_same {stored assigned : ArticleModel}
    (utc : isUtc stored.publishedAt = true)
    (same : repository.same stored assigned = true) : repository.stored assigned = stored := by
  simp only [repository, Bool.and_eq_true, beq_iff_eq] at same
  rcases same with ⟨others, dates⟩
  have date : storedDate assigned.publishedAt = stored.publishedAt := by
    cases before : stored.publishedAt with
    | none =>
        cases after : assigned.publishedAt with
        | none => rfl
        | some _ => simp [before, after] at dates
    | some date =>
        cases after : assigned.publishedAt with
        | none => simp [before, after] at dates
        | some _ =>
            simp only [before, after] at dates
            exact storedDate_of_pyEq (before ▸ utc) dates
  rw [stored_eq, date]
  exact (congrArg (fun model : ArticleModel => { model with publishedAt := stored.publishedAt })
    others).symm

variable [Mysql] {users : Users} {articles : Articles} {authorId : UUID} {payload : ArticleWrite}
  {target : Target} {model : ArticleModel}

/-- The committed model has the date of the payload, and its row is in the table as the columns
give it back. -/
theorem written_asRead {rows next : repository.Rows} (asRead : AsRead rows)
    (written : repository.Written (authorId, payload) rows next model) :
    model.publishedAt = payload.publishedAt ∧ repository.stored model ∈ next.rows ∧
      AsRead next := by
  have utc : isUtc (repository.stored model).publishedAt = true :=
    isUtc_storedDate _
  cases written with
  | inserted defaults constructed _ rows =>
      refine ⟨by rw [constructed]; rfl, ?_, ?_⟩
      · rw [rows]
        exact List.mem_append_right _ (List.mem_singleton_self _)
      · intro row member
        rw [rows] at member
        rcases List.mem_append.mp member with earlier | added
        · exact asRead row earlier
        · rw [List.mem_singleton.mp added]
          exact utc
  | unchanged old member assigned same kept =>
      subst kept
      refine ⟨by rw [assigned]; rfl, ?_, asRead⟩
      rw [stored_of_same (asRead old member) same]
      exact member
  | updated old now member touched _ rows =>
      refine ⟨by rw [touched]; rfl, ?_, ?_⟩
      · rw [rows]
        exact List.mem_map.mpr ⟨old, member, if_pos rfl⟩
      · intro row written
        rw [rows] at written
        rcases List.mem_map.mp written with ⟨earlier, member, rfl⟩
        split
        · exact utc
        · exact asRead earlier member

/-- The rows that any save leaves behind are as the columns give them back. -/
theorem AsRead.save (asRead : AsRead articles.rows) : AsRead
    (Tagged.save technologies ties payload.technologyIds (referenced users) target
      (authorId, payload) articles).2.rows := by
  have ensured : Program.Ensures (Tagged.save technologies ties payload.technologyIds
      (referenced users) target (authorId, payload)) articles
      (fun _ next => AsRead next.rows) (fun _ next => AsRead next.rows) := by
    apply Tagged.save_ensures.mono
    · rintro row next (⟨_, rfl⟩ | ⟨_, changed, _, written, _⟩)
      · exact asRead
      · exact (written_asRead asRead written).2.2
    · rintro raised next (rfl | ⟨changed, written⟩)
      · exact asRead
      · exact (written_asRead asRead written).2.2
  simp only [Program.Ensures] at ensured
  split at ensured
  · exact ensured
  · exact ensured

/-- Whatever a save answers, later lookups return if and only if the date is in UTC. -/
theorem save_readBack_iff (asRead : AsRead articles.rows) {answer : WithTechnologies Article}
    {next : Articles} (saved : Tagged.save technologies ties payload.technologyIds
      (referenced users) target (authorId, payload) articles = (.ok (some answer), next)) :
    ReadBack technologies ties next answer ↔ isUtc payload.publishedAt = true := by
  have ensured := Tagged.save_ensures.of_returned (congrArg Prod.fst saved)
  rw [congrArg Prod.snd saved] at ensured
  rcases ensured with ⟨impossible, _⟩ | ⟨_, model, equal, written, answered⟩
  · cases impossible
  · cases equal
    rcases written_asRead asRead written with ⟨date, stored, _⟩
    rw [readBack_iff stored answered, date]

/-! ## Answers -/

/-- The content and the reading time fit their columns. -/
def fitsColumns (payload : ArticleWrite) : Bool :=
  (Cell.text payload.content).storable && (Cell.integer payload.readingTime).storable

/-- How a save ends that is in nobody's way: it returns if its row can be written and all can
be read back, and whatever it answers is read back if and only if the date is in UTC. -/
structure Answers (payload : ArticleWrite) (technologies : Technologies) (ties : Ties)
    (writable : Prop) (ended : Except Raised (Option (WithTechnologies Article)) × Articles) :
    Prop where
  returns : ended.1.isOk = true ↔
    writable ∧ readableChoice technologies payload.technologyIds = true
  asRead : AsRead ended.2.rows
  readBack : ∀ answer, ended.1 = .ok (some answer) →
    (ReadBack technologies ties ended.2 answer ↔ isUtc payload.publishedAt = true)

omit [Collation] [Mysql] in
theorem checks_of_accepted [Collation] (accepted : payload.accepted = true)
    (dates : model.published = payload.published ∧ model.publishedAt = payload.publishedAt) :
    repository.checks model = true := by
  simp only [ArticleWrite.accepted, Bool.and_eq_true] at accepted
  have dated := accepted.2
  simp only [repository, dates.1, dates.2]
  cases published : payload.published with
  | false => rfl
  | true =>
      cases date : payload.publishedAt with
      | none => simp [published, date] at dated
      | some _ => rfl

theorem fitsColumns_iff (accepted : payload.accepted = true)
    (inCalendar : (Cell.utcDateTime payload.publishedAt).storable = true) :
    repository.Fits (authorId, payload) (fitsColumns payload) := by
  have stored : repository.Fits (authorId, payload) _ := fits accepted
  rw [inCalendar, Bool.and_true] at stored
  exact stored

theorem put_answers {old : ArticleModel} {now : Instant} (accepted : payload.accepted = true)
    (valid : slugRe payload.slug = true)
    (inCalendar : (Cell.utcDateTime payload.publishedAt).storable = true)
    (asRead : AsRead articles.rows) (member : old ∈ articles.rows.rows)
    (authored : referenced users old = true)
    (free : slugged.taken articles.rows old.id payload.slug = false) :
    Answers payload technologies ties
      (repository.same old (repository.assign (authorId, payload) old) = true ∨
        fitsColumns payload = true)
      (Tagged.save technologies ties payload.technologyIds (referenced users)
        (.put old.id now) (authorId, payload) articles) := by
  have references : referenced users (slugged.touched now (authorId, payload) old) = true :=
    authored
  have checks : repository.checks (slugged.touched now (authorId, payload) old) = true :=
    checks_of_accepted accepted ⟨rfl, rfl⟩
  have columns : (repository.cells (slugged.touched now (authorId, payload) old)).all
      Cell.storable = fitsColumns payload := (fitsColumns_iff accepted inCalendar).assign old
  have returns : (Tagged.save technologies ties payload.technologyIds (referenced users)
      (.put (repository.key old) now) (authorId, payload) articles).1.isOk = true ↔ _ :=
    put_isOk_iff steady (verdict accepted) member references free
  constructor
  · refine returns.trans ?_
    rw [columns, and_iff_left checks, and_iff_right valid]
  · exact asRead.save
  · intro answer answered
    exact save_readBack_iff asRead (Prod.ext answered rfl)

theorem post_answers {defaults : Defaults} (accepted : payload.accepted = true)
    (valid : slugRe payload.slug = true)
    (inCalendar : (Cell.utcDateTime payload.publishedAt).storable = true)
    (asRead : AsRead articles.rows)
    (authored : (users.rows.any fun user => user.id == authorId) = true)
    (new : ∀ row ∈ articles.rows.rows, row.id ≠ defaults.id)
    (unlinked : ∀ link ∈ articles.links.rows, link.1 ≠ defaults.id)
    (free : ∀ row ∈ articles.rows.rows, Collation.equal row.slug payload.slug = false) :
    Answers payload technologies ties (fitsColumns payload = true)
      (Tagged.save technologies ties payload.technologyIds (referenced users) (.post defaults)
        (authorId, payload) articles) := by
  have columns : (repository.cells (repository.construct defaults (authorId, payload))).all
      Cell.storable = fitsColumns payload :=
    (fitsColumns_iff accepted inCalendar).construct defaults
  have checks : repository.checks (repository.construct defaults (authorId, payload)) = true :=
    checks_of_accepted accepted ⟨rfl, rfl⟩
  have apart : ∀ row ∈ articles.rows.rows, repository.clash row
      (repository.stored (repository.construct defaults (authorId, payload))) = false := by
    intro row member
    exact Bool.or_eq_false_iff.mpr ⟨beq_eq_false_iff_ne.mpr (new row member), free row member⟩
  constructor
  · rw [post_isOk_iff (verdict accepted) checks authored apart unlinked, columns,
      and_iff_right valid]
  · exact asRead.save
  · intro answer answered
    exact save_readBack_iff asRead (Prod.ext answered rfl)

end ArticleRepository

end

namespace Sample

open ArticleRepository

attribute [local instance] unicode collation mysql

/-- The first of January 2026, in microseconds. -/
def newYear : Int := 739616 * dayLength

theorem newYear_inCalendar : 0 ≤ newYear ∧ newYear < calendarEnd := by decide

/-- `2026-01-01T00:00:00Z`. -/
def utcDate : Datetime := ⟨newYear, some 0, newYear_inCalendar, utc_withinDay⟩

/-- `2026-01-01T00:00:00`. -/
def naiveDate : Datetime := ⟨newYear, none, newYear_inCalendar, naive_withinDay⟩

def twoHours : Duration := 7200 * 1000000

theorem twoHours_withinDay : ∀ offset ∈ some twoHours,
    -dayLength < offset ∧ offset < dayLength := by decide

/-- `2026-01-01T00:00:00+02:00`. -/
def easternDate : Datetime := ⟨newYear, some twoHours, newYear_inCalendar, twoHours_withinDay⟩

def dispatch (date : Datetime) : ArticleWrite where
  slug := "essay"
  title := "Essay"
  summary := none
  content := "Text"
  coverImage := none
  readingTime := none
  published := true
  publishedAt := some date
  technologyIds := []

def authors : Users := Table.singleton author

/-- The essay after its publication at the given date. -/
def dispatched (date : Datetime) : Except Raised (Option (WithTechnologies Article)) × Articles :=
  Tagged.save .empty (fun _ => 0) [] (referenced authors) (.put 5 1) (7, dispatch date) essays

theorem asRead_essays : AsRead essays.rows := by
  intro row member
  cases List.mem_singleton.mp member
  rfl

/-- A date that is naive or of another offset is answered as it was given. -/
theorem answered_elsewhere {date : Datetime} (accepted : (dispatch date).accepted = true)
    (inCalendar : (Cell.utcDateTime (some date)).storable = true)
    (elsewhere : isUtc (some date) = false) : ∃ answer,
      (dispatched date).1 = .ok (some answer) ∧
        ¬ReadBack .empty (fun _ => 0) (dispatched date).2 answer := by
  have valid : slugRe "essay" = true := by decide
  have answers : Answers (dispatch date) .empty (fun _ => 0) _ (dispatched date) :=
    put_answers accepted valid inCalendar asRead_essays List.mem_cons_self rfl rfl
  rcases Result.isOk_iff.mp (answers.returns.mpr ⟨.inr rfl, rfl⟩) with ⟨row, returned⟩
  have saved : Tagged.save .empty (fun _ => 0) [] (referenced authors)
      (.put (repository.key essay) 1) (7, dispatch date) essays =
        (.ok row, (dispatched date).2) := Prod.ext returned rfl
  rcases Saved.of_save List.mem_cons_self saved with ⟨answer, _, equal, _⟩
  rw [equal] at returned
  refine ⟨answer, returned, fun back => ?_⟩
  have utc := (answers.readBack answer returned).mp back
  exact Bool.false_ne_true (elsewhere.symm.trans utc)

end Sample

end ChTech.Content
