import ChTech.Db.Types
import ChTech.Foundation.Calendar
import ChTech.Foundation.Program

/-!
# Dates by their calendar fields

`UTCDateTime` on `datetime` objects as Python and MySQL have them: calendar fields that are
compared one after the other, and an arithmetic that carries over days, months and years.
In microseconds this is the codec of the column types.
-/

namespace ChTech

open Foundation Foundation.Calendar

/-- A `datetime` without `tzinfo`, which is what a column holds. -/
structure NaiveDatetime where
  moment : Moment
  inCalendar : moment.date.year ≤ 9999

/-- A `datetime`, with its offset from UTC when it is aware. -/
structure CalendarDatetime where
  naive : NaiveDatetime
  utcoffset : Option Duration
  withinDay : ∀ offset ∈ utcoffset, -dayLength < offset ∧ offset < dayLength

/-- `date.max.toordinal()`. -/
def maxOrdinal : Nat := 3652059

/-- The last day of the year 9999 is the last of the calendar. -/
theorem year_le_iff {day : Day} : day.year ≤ 9999 ↔ day.toOrdinal ≤ maxOrdinal := by
  have bounds := day.dayOfYear_bounds
  have ends : daysBeforeYear 9999 + daysInYear (isLeap 9999) = maxOrdinal := by decide
  simp only [Day.toOrdinal]
  constructor
  · intro within
    rcases Nat.lt_or_eq_of_le within with before | last
    · have years := daysBeforeYear_mono day.hasYear before
      omega
    · rw [last] at bounds ⊢
      omega
  · intro within
    apply Nat.le_of_not_lt
    intro after
    have years := daysBeforeYear_mono (by decide) after
    omega

namespace NaiveDatetime

/-- The microseconds since the calendar began. -/
def wall (value : NaiveDatetime) : Int := (value.moment.toMicroseconds : Int) - dayLength

/-- `<` on naive datetimes, and on the values of a `DATETIME` column. -/
def before (first second : NaiveDatetime) : Bool := decide (first.moment.before second.moment)

theorem wall_inCalendar (value : NaiveDatetime) : 0 ≤ value.wall ∧ value.wall < calendarEnd := by
  have least := value.moment.le_toMicroseconds
  have last := year_le_iff.mp value.inCalendar
  have hour := value.moment.hasHour
  have minute := value.moment.hasMinute
  have second := value.moment.hasSecond
  have microsecond := value.moment.hasMicrosecond
  simp only [wall, calendarEnd, dayLength, Moment.toMicroseconds, maxOrdinal] at least last ⊢
  omega

theorem wall_injective {first second : NaiveDatetime} (same : first.wall = second.wall) :
    first = second := by
  have moments : first.moment = second.moment := by
    apply Moment.toMicroseconds_injective
    simp only [wall] at same
    omega
  cases first
  cases second
  cases moments
  rfl

theorem before_iff {first second : NaiveDatetime} :
    first.before second = true ↔ first.wall < second.wall := by
  simp only [before, decide_eq_true_eq, wall, ← Moment.toMicroseconds_lt_iff]
  omega

theorem year_ofMicroseconds {total : Int}
    (days : 0 < total / dayLength ∧ total / dayLength ≤ (maxOrdinal : Int)) :
    (Moment.ofMicroseconds total.toNat).date.year ≤ 9999 := by
  simp only [dayLength] at days
  apply year_le_iff.mpr
  simp only [Moment.ofMicroseconds]
  rw [Day.toOrdinal_ofOrdinal (by omega)]
  omega

/-- `datetime + timedelta`: days and the time of the day are normalised, and the days have
to be those of the calendar. -/
def add (value : NaiveDatetime) (delta : Duration) : Except Raised NaiveDatetime :=
  let total := (value.moment.toMicroseconds : Int) + delta
  if days : 0 < total / dayLength ∧ total / dayLength ≤ (maxOrdinal : Int) then
    .ok ⟨.ofMicroseconds total.toNat, year_ofMicroseconds days⟩
  else
    .error .overflowError

/-- The sum is there when it is in the calendar, and it is the sum. -/
theorem add_eq_ok {value sum : NaiveDatetime} {delta : Duration} :
    value.add delta = .ok sum ↔ sum.wall = value.wall + delta := by
  simp only [add]
  constructor
  · intro added
    split at added
    next days =>
      cases added
      simp only [dayLength] at days
      simp only [wall]
      rw [Moment.toMicroseconds_ofMicroseconds (by omega)]
      omega
    next => cases added
  · intro same
    have within := sum.wall_inCalendar
    have days : 0 < ((value.moment.toMicroseconds : Int) + delta) / dayLength ∧
        ((value.moment.toMicroseconds : Int) + delta) / dayLength ≤ (maxOrdinal : Int) := by
      simp only [wall, calendarEnd, dayLength, maxOrdinal] at same within ⊢
      omega
    rw [dif_pos days]
    apply congrArg
    apply wall_injective
    rw [same]
    simp only [dayLength] at days
    simp only [wall]
    rw [Moment.toMicroseconds_ofMicroseconds (by omega)]
    omega

theorem add_isOk {value : NaiveDatetime} {delta : Duration} :
    (value.add delta).isOk = true ↔
      0 ≤ value.wall + delta ∧ value.wall + delta < calendarEnd := by
  simp only [add]
  split
  next days =>
    simp only [wall, calendarEnd, dayLength, maxOrdinal] at days ⊢
    refine ⟨fun _ => ?_, fun _ => rfl⟩
    omega
  next outside =>
    simp only [wall, calendarEnd, dayLength, maxOrdinal] at outside ⊢
    refine ⟨fun returned => (by cases returned), fun within => ?_⟩
    omega

theorem add_of_outside {value : NaiveDatetime} {delta : Duration}
    (outside : ¬(value.add delta).isOk = true) : value.add delta = .error .overflowError := by
  simp only [add] at outside ⊢
  split
  next days =>
    rw [dif_pos days] at outside
    exact (outside rfl).elim
  next => rfl

end NaiveDatetime

/-! ## The codec -/

namespace CalendarDatetime

/-- The instant it denotes, a naive one being read as UTC. -/
def instant (value : CalendarDatetime) : Instant := value.naive.wall - value.utcoffset.getD 0

/-- `<`: field by field under the same offset, and by the difference under another one;
none is the `TypeError` for a naive and an aware datetime. -/
def lt (first second : CalendarDatetime) : Option Bool :=
  if first.utcoffset = second.utcoffset then
    some (first.naive.before second.naive)
  else
    match first.utcoffset, second.utcoffset with
    | some offset, some offset' =>
        some (decide (first.naive.wall - second.naive.wall + offset' - offset < 0))
    | _, _ => none

/-- `astimezone(UTC).replace(tzinfo=None)` of an aware datetime. -/
def toNaiveUtc (value : CalendarDatetime) : Except Raised NaiveDatetime :=
  value.naive.add (-value.utcoffset.getD 0)

/-- In microseconds. -/
def toDatetime (value : CalendarDatetime) : Datetime :=
  ⟨value.naive.wall, value.utcoffset, value.naive.wall_inCalendar, value.withinDay⟩

/-- `lt` compares instants. -/
theorem lt_iff {first second : CalendarDatetime}
    (alike : first.utcoffset.isSome = second.utcoffset.isSome) :
    first.lt second = some true ↔ first.instant < second.instant := by
  simp only [lt, instant]
  split
  next same =>
    have shifted : ∀ wall wall' offset : Int, wall < wall' ↔ wall - offset < wall' - offset := by
      intro wall wall' offset
      omega
    rw [same, Option.some.injEq, NaiveDatetime.before_iff]
    exact shifted _ _ _
  next different =>
    have difference : ∀ wall wall' offset offset' : Int,
        wall - wall' + offset' - offset < 0 ↔ wall - offset < wall' - offset' := by
      intro wall wall' offset offset'
      omega
    cases offset : first.utcoffset with
    | none =>
        rw [offset] at alike different
        exact absurd (Option.not_isSome_iff_eq_none.mp (by simp [← alike])).symm different
    | some _ =>
        cases offset' : second.utcoffset with
        | none => simp [offset, offset'] at alike
        | some _ =>
            simp only [Option.some.injEq, decide_eq_true_eq, Option.getD_some]
            exact difference _ _ _ _

/-- Two naive or two aware datetimes compare. -/
theorem lt_isSome {first second : CalendarDatetime}
    (alike : first.utcoffset.isSome = second.utcoffset.isSome) :
    (first.lt second).isSome = true := by
  simp only [lt]
  split
  next => rfl
  next different =>
    cases offset : first.utcoffset with
    | none =>
        rw [offset] at alike different
        exact absurd (Option.not_isSome_iff_eq_none.mp (by simp [← alike])).symm different
    | some _ =>
        cases offset' : second.utcoffset with
        | none => simp [offset, offset'] at alike
        | some _ => rfl

end CalendarDatetime

namespace UTCDateTime

/-- `process_bind_param`. -/
def bindParam (value : Option CalendarDatetime) : Except Raised (Option NaiveDatetime) :=
  match value with
  | none => .ok none
  | some value =>
      if value.utcoffset.isSome then value.toNaiveUtc.map some else .ok (some value.naive)

theorem zero_withinDay : ∀ offset ∈ (some 0 : Option Duration),
    -dayLength < offset ∧ offset < dayLength := by
  simp [dayLength]

/-- `replace(tzinfo=UTC)`. -/
def utc (naive : NaiveDatetime) : CalendarDatetime := ⟨naive, some 0, zero_withinDay⟩

/-- `process_result_value`. -/
def resultValue (value : Option NaiveDatetime) : Option CalendarDatetime := value.map utc

/-- The value that a column is given shows the instant on a clock in UTC. -/
theorem bindParam_eq_ok {value : CalendarDatetime} {bound : NaiveDatetime} :
    bindParam (some value) = .ok (some bound) ↔ bound.wall = value.instant := by
  simp only [bindParam, CalendarDatetime.instant]
  cases offset : value.utcoffset with
  | none =>
      simp only [Option.isSome_none, Bool.false_eq_true, if_false, Except.ok.injEq,
        Option.some.injEq]
      constructor
      · intro same
        subst same
        exact (Int.sub_zero _).symm
      · intro same
        exact NaiveDatetime.wall_injective (same.trans (Int.sub_zero _)).symm
  | some shift =>
      simp only [Option.isSome_some, if_true, CalendarDatetime.toNaiveUtc, offset,
        Option.getD_some, Int.sub_eq_add_neg]
      rw [Result.map_eq_ok]
      simp only [Option.some.injEq, exists_eq_right, NaiveDatetime.add_eq_ok]

/-- Every instant of the calendar is bound. -/
theorem bindParam_of_inCalendar {value : CalendarDatetime}
    (within : 0 ≤ value.instant ∧ value.instant < calendarEnd) :
    ∃ bound, bindParam (some value) = .ok (some bound) := by
  simp only [bindParam]
  cases offset : value.utcoffset with
  | none =>
      simp only [Option.isSome_none, Bool.false_eq_true, if_false]
      exact ⟨value.naive, rfl⟩
  | some shift =>
      simp only [Option.isSome_some, if_true]
      simp only [CalendarDatetime.instant, offset, Option.getD_some,
        Int.sub_eq_add_neg] at within
      rcases Result.isOk_iff.mp (NaiveDatetime.add_isOk.mpr within) with ⟨bound, added⟩
      refine ⟨bound, ?_⟩
      simp only [CalendarDatetime.toNaiveUtc, offset, Option.getD_some, added]
      rfl

@[simp] theorem utc_instant (naive : NaiveDatetime) : (utc naive).instant = naive.wall :=
  Int.sub_zero _

/-- What is read back is bound to what was stored. -/
theorem bindParam_utc (naive : NaiveDatetime) : bindParam (some (utc naive)) = .ok (some naive) :=
  bindParam_eq_ok.mpr (utc_instant naive).symm

/-- Bound values are ordered as the instants they stand for. -/
theorem before_iff_of_bound {first second : CalendarDatetime} {bound bound' : NaiveDatetime}
    (stored : bindParam (some first) = .ok (some bound))
    (stored' : bindParam (some second) = .ok (some bound')) :
    bound.before bound' = true ↔ first.instant < second.instant := by
  rw [NaiveDatetime.before_iff, bindParam_eq_ok.mp stored, bindParam_eq_ok.mp stored']

theorem absent_withinDay : ∀ offset ∈ (none : Option Duration),
    -dayLength < offset ∧ offset < dayLength := by
  simp

/-- A naive datetime in microseconds. -/
def microseconds (value : NaiveDatetime) : Datetime :=
  ⟨value.wall, none, value.wall_inCalendar, absent_withinDay⟩

/-- In microseconds this is the codec of the column types. -/
theorem bindParam_toDatetime (value : CalendarDatetime) :
    processBindParam (some value.toDatetime) =
      (bindParam (some value)).map fun bound => bound.map microseconds := by
  cases offset : value.utcoffset with
  | none =>
      simp only [processBindParam, bindParam, CalendarDatetime.toDatetime, offset,
        Option.isSome_none, Bool.false_eq_true, if_false]
      rfl
  | some shift =>
      have same : value.toDatetime.instant = value.instant := rfl
      by_cases within : 0 ≤ value.instant ∧ value.instant < calendarEnd
      · rcases bindParam_of_inCalendar within with ⟨bound, stored⟩
        have wall := bindParam_eq_ok.mp stored
        rw [stored]
        simp only [processBindParam, Datetime.toNaiveUtc, same, dif_pos within]
        simp only [CalendarDatetime.toDatetime, offset, Option.isSome_some, if_true, Except.map,
          Option.map_some, microseconds, wall]
      · have left : (processBindParam (some value.toDatetime)) = .error .overflowError := by
          simp only [processBindParam, Datetime.toNaiveUtc, same, dif_neg within]
          simp only [CalendarDatetime.toDatetime, offset, Option.isSome_some, if_true, Except.map]
        have unbound : ¬(value.naive.add (-value.utcoffset.getD 0)).isOk = true := by
          rw [NaiveDatetime.add_isOk]
          exact within
        rw [left]
        simp only [bindParam, CalendarDatetime.toNaiveUtc]
        rw [NaiveDatetime.add_of_outside unbound]
        simp only [offset, Option.isSome_some, if_true, Except.map]

end UTCDateTime

end ChTech
