import Mathlib.Order.Basic

/-!
# The proleptic Gregorian calendar

Days are numbered from 1, the first of January of the year 1.  The number of a day grows
with its year, its month and its day of the month, and every number from 1 on is that of
exactly one day.
-/

namespace ChTech.Foundation.Calendar

/-- Of two numbers the digits of higher value decide. -/
theorem radix_lt {base high low high' low' : Nat} (bound : low < base) (bound' : low' < base) :
    high * base + low < high' * base + low' ↔ high < high' ∨ high = high' ∧ low < low' := by
  constructor
  · intro less
    rcases Nat.lt_trichotomy high high' with below | equal | above
    · exact .inl below
    · subst equal
      exact .inr ⟨rfl, by omega⟩
    · have step : (high' + 1) * base ≤ high * base := Nat.mul_le_mul_right base above
      rw [Nat.add_mul, Nat.one_mul] at step
      omega
  · rintro (below | ⟨rfl, below⟩)
    · have step : (high + 1) * base ≤ high' * base := Nat.mul_le_mul_right base below
      rw [Nat.add_mul, Nat.one_mul] at step
      omega
    · omega

def isLeap (year : Nat) : Bool := year % 4 == 0 && (year % 100 != 0 || year % 400 == 0)

/-- The days before the first of January. -/
def daysBeforeYear (year : Nat) : Nat :=
  let past := year - 1
  past * 365 + past / 4 - past / 100 + past / 400

def daysInMonth (leap : Bool) (month : Nat) : Nat :=
  [0, 31, 28, 31, 30, 31, 30, 31, 31, 30, 31, 30, 31].getD month 0 +
    if month = 2 ∧ leap = true then 1 else 0

def daysBeforeMonth (leap : Bool) (month : Nat) : Nat :=
  [0, 0, 31, 59, 90, 120, 151, 181, 212, 243, 273, 304, 334].getD month 0 +
    if 2 < month ∧ leap = true then 1 else 0

def daysInYear (leap : Bool) : Nat := if leap then 366 else 365

/-- A quotient grows at the multiples of its divisor. -/
theorem succ_div_of_mod (past divisor : Nat) :
    (past + 1) / divisor = past / divisor + if (past + 1) % divisor = 0 then 1 else 0 := by
  rw [Nat.succ_div]
  simp only [Nat.dvd_iff_mod_eq_zero]

/-- Every hundredth year is a fourth one, and every four hundredth one a hundredth. -/
theorem daysBeforeYear_succ {year : Nat} (first : 1 ≤ year) :
    daysBeforeYear (year + 1) = daysBeforeYear year + daysInYear (isLeap year) := by
  rcases Nat.exists_eq_add_of_le' first with ⟨past, rfl⟩
  have fourth := succ_div_of_mod past 4
  have hundredth := succ_div_of_mod past 100
  have fourHundredth := succ_div_of_mod past 400
  have hundredths : past / 100 ≤ past / 4 := Nat.div_le_div_left (by decide) (by decide)
  simp only [daysBeforeYear, Nat.add_sub_cancel]
  rw [fourth, hundredth, fourHundredth]
  by_cases four : (past + 1) % 4 = 0
  · by_cases hundred : (past + 1) % 100 = 0
    · by_cases fourHundred : (past + 1) % 400 = 0
      · have length : daysInYear (isLeap (past + 1)) = 366 := by
          simp [daysInYear, isLeap, four, fourHundred]
        rw [if_pos four, if_pos hundred, if_pos fourHundred, length]
        omega
      · have length : daysInYear (isLeap (past + 1)) = 365 := by
          simp [daysInYear, isLeap, hundred, fourHundred]
        rw [if_pos four, if_pos hundred, if_neg fourHundred, length]
        omega
    · have other : ¬(past + 1) % 400 = 0 := by omega
      have length : daysInYear (isLeap (past + 1)) = 366 := by
        simp [daysInYear, isLeap, four, hundred]
      rw [if_pos four, if_neg hundred, if_neg other, length]
      omega
  · have hundred : ¬(past + 1) % 100 = 0 := by omega
    have other : ¬(past + 1) % 400 = 0 := by omega
    have length : daysInYear (isLeap (past + 1)) = 365 := by
      simp [daysInYear, isLeap, four]
    rw [if_neg four, if_neg hundred, if_neg other, length]
    omega

theorem daysBeforeYear_mono {first second : Nat} (start : 1 ≤ first) (less : first < second) :
    daysBeforeYear first + daysInYear (isLeap first) ≤ daysBeforeYear second := by
  induction second with
  | zero => cases less
  | succ second ih =>
      rcases Nat.lt_or_ge first second with earlier | last
      · have before := ih earlier
        rw [daysBeforeYear_succ (by omega)]
        omega
      · have equal : first = second := by omega
        rw [← equal]
        exact Nat.le_of_eq (daysBeforeYear_succ start).symm

/-- A month ends before the next one begins, and December ends the year. -/
theorem daysBeforeMonth_mono : ∀ leap : Bool, ∀ month < 13, ∀ later < 13, 1 ≤ month →
    (month < later → daysBeforeMonth leap month + daysInMonth leap month ≤
      daysBeforeMonth leap later) ∧
    daysBeforeMonth leap month + daysInMonth leap month ≤ daysInYear leap := by
  decide +kernel

/-- A day of a month of a year. -/
@[ext] structure Day where
  year : Nat
  month : Nat
  day : Nat
  hasYear : 1 ≤ year
  hasMonth : 1 ≤ month ∧ month ≤ 12
  hasDay : 1 ≤ day ∧ day ≤ daysInMonth (isLeap year) month

instance : DecidableEq Day := fun first second =>
  decidable_of_iff
    (first.year = second.year ∧ first.month = second.month ∧ first.day = second.day)
    Day.ext_iff.symm

namespace Day

def dayOfYear (day : Day) : Nat := daysBeforeMonth (isLeap day.year) day.month + day.day

/-- `toordinal`. -/
def toOrdinal (day : Day) : Nat := daysBeforeYear day.year + day.dayOfYear

/-- `<` on dates. -/
def before (first second : Day) : Prop :=
  first.year < second.year ∨ first.year = second.year ∧
    (first.month < second.month ∨ first.month = second.month ∧ first.day < second.day)

instance (first second : Day) : Decidable (first.before second) :=
  inferInstanceAs (Decidable (_ ∨ _ ∧ (_ ∨ _ ∧ _)))

theorem dayOfYear_bounds (day : Day) :
    1 ≤ day.dayOfYear ∧ day.dayOfYear ≤ daysInYear (isLeap day.year) := by
  rcases day.hasMonth with ⟨firstMonth, lastMonth⟩
  have within := (daysBeforeMonth_mono (isLeap day.year) day.month (by omega) day.month (by omega)
    firstMonth).2
  have bounds := day.hasDay
  simp only [dayOfYear]
  omega

theorem toOrdinal_lt_of_before {first second : Day} (less : first.before second) :
    first.toOrdinal < second.toOrdinal := by
  have firstDay := first.dayOfYear_bounds
  have secondDay := second.dayOfYear_bounds
  simp only [toOrdinal]
  rcases less with earlier | ⟨year, earlier | ⟨month, earlier⟩⟩
  · have years := daysBeforeYear_mono first.hasYear earlier
    omega
  · have months := (daysBeforeMonth_mono (isLeap second.year) first.month
      (Nat.lt_succ_of_le first.hasMonth.2) second.month (Nat.lt_succ_of_le second.hasMonth.2)
      first.hasMonth.1).1 earlier
    have days := first.hasDay
    have others := second.hasDay
    simp only [dayOfYear]
    rw [year] at days ⊢
    omega
  · simp only [dayOfYear]
    rw [year, month]
    omega

theorem before_trichotomy (first second : Day) :
    first.before second ∨ first = second ∨ second.before first := by
  rcases Nat.lt_trichotomy first.year second.year with less | year | less
  · exact .inl (.inl less)
  · rcases Nat.lt_trichotomy first.month second.month with less | month | less
    · exact .inl (.inr ⟨year, .inl less⟩)
    · rcases Nat.lt_trichotomy first.day second.day with less | day | less
      · exact .inl (.inr ⟨year, .inr ⟨month, less⟩⟩)
      · exact .inr (.inl (Day.ext year month day))
      · exact .inr (.inr (.inr ⟨year.symm, .inr ⟨month.symm, less⟩⟩))
    · exact .inr (.inr (.inr ⟨year.symm, .inl less⟩))
  · exact .inr (.inr (.inl less))

/-- The number of a day tells when it is. -/
theorem toOrdinal_lt_iff {first second : Day} :
    first.toOrdinal < second.toOrdinal ↔ first.before second := by
  constructor
  · intro less
    rcases before_trichotomy first second with earlier | equal | later
    · exact earlier
    · rw [equal] at less
      omega
    · have more := toOrdinal_lt_of_before later
      omega
  · exact toOrdinal_lt_of_before

theorem toOrdinal_injective {first second : Day} (same : first.toOrdinal = second.toOrdinal) :
    first = second := by
  rcases before_trichotomy first second with earlier | equal | later
  · have less := toOrdinal_lt_of_before earlier
    omega
  · exact equal
  · have less := toOrdinal_lt_of_before later
    omega

end Day

/-! ## The day with a given number -/

/-- The year of a day that this many days precede, and the days of that year before it. -/
def yearOf (past : Nat) : Nat × Nat :=
  let n400 := past / 146097
  let n100 := past % 146097 / 36524
  let n4 := past % 146097 % 36524 / 1461
  let n1 := past % 146097 % 36524 % 1461 / 365
  let year := n400 * 400 + 1 + n100 * 100 + n4 * 4 + n1
  if n1 = 4 ∨ n100 = 4 then (year - 1, 365) else (year, past % 146097 % 36524 % 1461 % 365)

/-- The month of a day that this many days of its year precede, and the days before the
month.  The estimate is at most one month too late. -/
def monthOf (leap : Bool) (rest : Nat) : Nat × Nat :=
  let month := (rest + 50) >>> 5
  let preceding := daysBeforeMonth leap month
  if rest < preceding then
    (month - 1, preceding - daysInMonth leap (month - 1))
  else
    (month, preceding)

theorem daysBeforeYear_cycles {n400 n100 n4 n1 : Nat} (hundreds : n100 ≤ 3) (fours : n4 ≤ 24)
    (ones : n1 ≤ 3) : daysBeforeYear (n400 * 400 + 1 + n100 * 100 + n4 * 4 + n1) =
      n400 * 146097 + n100 * 36524 + n4 * 1461 + n1 * 365 := by
  have past : n400 * 400 + 1 + n100 * 100 + n4 * 4 + n1 - 1 =
      n400 * 400 + n100 * 100 + n4 * 4 + n1 := by omega
  have fourth : (n400 * 400 + n100 * 100 + n4 * 4 + n1) / 4 = n400 * 100 + n100 * 25 + n4 := by
    omega
  have hundredth : (n400 * 400 + n100 * 100 + n4 * 4 + n1) / 100 = n400 * 4 + n100 := by omega
  have fourHundredth : (n400 * 400 + n100 * 100 + n4 * 4 + n1) / 400 = n400 := by omega
  simp only [daysBeforeYear, past, fourth, hundredth, fourHundredth]
  omega

theorem isLeap_cycles {n400 n100 n4 : Nat} (fours : n4 ≤ 24)
    (leap : n4 = 24 → n100 = 3) : isLeap (n400 * 400 + 1 + n100 * 100 + n4 * 4 + 3) = true := by
  have fourth : (n400 * 400 + 1 + n100 * 100 + n4 * 4 + 3) % 4 = 0 := by omega
  simp only [isLeap, fourth, beq_self_eq_true, Bool.true_and, Bool.or_eq_true, bne_iff_ne,
    beq_iff_eq]
  by_cases last : n4 = 24
  · right
    have third := leap last
    omega
  · left
    omega

theorem yearOf_spec (past : Nat) : 1 ≤ (yearOf past).1 ∧
    daysBeforeYear (yearOf past).1 + (yearOf past).2 = past ∧
    (yearOf past).2 < daysInYear (isLeap (yearOf past).1) := by
  simp only [yearOf]
  generalize n400 : past / 146097 = a
  generalize n100 : past % 146097 / 36524 = b
  generalize n4 : past % 146097 % 36524 / 1461 = c
  generalize n1 : past % 146097 % 36524 % 1461 / 365 = d
  split
  next last =>
    dsimp only
    rcases last with fifth | fifth
    · have year : a * 400 + 1 + b * 100 + c * 4 + d - 1 = a * 400 + 1 + b * 100 + c * 4 + 3 := by
        omega
      have hundreds : b ≤ 3 := by omega
      have fours : c < 24 := by omega
      rw [year, daysBeforeYear_cycles hundreds (by omega) (Nat.le_refl 3),
        isLeap_cycles (by omega) (by omega)]
      simp only [daysInYear, if_true]
      omega
    · have year : a * 400 + 1 + b * 100 + c * 4 + d - 1 = a * 400 + 1 + 3 * 100 + 24 * 4 + 3 := by
        omega
      rw [year, daysBeforeYear_cycles (Nat.le_refl 3) (Nat.le_refl 24) (Nat.le_refl 3),
        isLeap_cycles (Nat.le_refl 24) fun _ => rfl]
      simp only [daysInYear, if_true]
      omega
  next other =>
    dsimp only
    have hundreds : b ≤ 3 := by omega
    have fours : c ≤ 24 := by omega
    have ones : d ≤ 3 := by omega
    have length : 365 ≤ daysInYear (isLeap (a * 400 + 1 + b * 100 + c * 4 + d)) := by
      simp only [daysInYear]
      split <;> omega
    rw [daysBeforeYear_cycles hundreds fours ones]
    omega

theorem monthOf_spec : ∀ leap : Bool, ∀ rest < 366, rest < daysInYear leap →
    1 ≤ (monthOf leap rest).1 ∧ (monthOf leap rest).1 ≤ 12 ∧
    (monthOf leap rest).2 = daysBeforeMonth leap (monthOf leap rest).1 ∧
    (monthOf leap rest).2 ≤ rest ∧
    rest - (monthOf leap rest).2 + 1 ≤ daysInMonth leap (monthOf leap rest).1 := by
  decide +kernel

theorem monthOf_yearOf (past : Nat) :
    let year := yearOf past
    let month := monthOf (isLeap year.1) year.2
    (1 ≤ month.1 ∧ month.1 ≤ 12) ∧ month.2 = daysBeforeMonth (isLeap year.1) month.1 ∧
      month.2 ≤ year.2 ∧ 1 ≤ year.2 - month.2 + 1 ∧
      year.2 - month.2 + 1 ≤ daysInMonth (isLeap year.1) month.1 := by
  have within := (yearOf_spec past).2.2
  have small : (yearOf past).2 < 366 := by
    simp only [daysInYear] at within
    split at within <;> omega
  rcases monthOf_spec _ _ small within with ⟨first, last, preceding, before, inside⟩
  exact ⟨⟨first, last⟩, preceding, before, Nat.le_add_left _ _, inside⟩

namespace Day

/-- `fromordinal`. -/
def ofOrdinal (ordinal : Nat) : Day :=
  let year := yearOf (ordinal - 1)
  let month := monthOf (isLeap year.1) year.2
  { year := year.1
    month := month.1
    day := year.2 - month.2 + 1
    hasYear := (yearOf_spec _).1
    hasMonth := (monthOf_yearOf _).1
    hasDay := (monthOf_yearOf _).2.2.2 }

theorem toOrdinal_ofOrdinal {ordinal : Nat} (positive : 1 ≤ ordinal) :
    (ofOrdinal ordinal).toOrdinal = ordinal := by
  have years := (yearOf_spec (ordinal - 1)).2.1
  rcases monthOf_yearOf (ordinal - 1) with ⟨_, preceding, before, _, _⟩
  simp only [toOrdinal, dayOfYear, ofOrdinal]
  omega

end Day

/-- A naive date and time, to the microsecond. -/
@[ext] structure Moment where
  date : Day
  hour : Nat
  minute : Nat
  second : Nat
  microsecond : Nat
  hasHour : hour < 24
  hasMinute : minute < 60
  hasSecond : second < 60
  hasMicrosecond : microsecond < 1000000

theorem radix_eq {base high low high' low' : Nat} (bound : low < base) (bound' : low' < base) :
    high * base + low = high' * base + low' ↔ high = high' ∧ low = low' := by
  constructor
  · intro equal
    rcases Nat.lt_trichotomy high high' with below | same | above
    · have less := (radix_lt bound bound').mpr (.inl below)
      omega
    · subst same
      exact ⟨rfl, by omega⟩
    · have less := (radix_lt bound' bound).mpr (.inl above)
      omega
  · rintro ⟨rfl, rfl⟩
    rfl

namespace Moment

/-- The microseconds since midnight before the day 0. -/
def toMicroseconds (moment : Moment) : Nat :=
  (((moment.date.toOrdinal * 24 + moment.hour) * 60 + moment.minute) * 60 + moment.second) *
    1000000 + moment.microsecond

/-- `<` on dates with times, field by field. -/
def before (first second : Moment) : Prop :=
  first.date.before second.date ∨ first.date = second.date ∧
    (first.hour < second.hour ∨ first.hour = second.hour ∧
      (first.minute < second.minute ∨ first.minute = second.minute ∧
        (first.second < second.second ∨ first.second = second.second ∧
          first.microsecond < second.microsecond)))

instance (first second : Moment) : Decidable (first.before second) :=
  inferInstanceAs (Decidable (_ ∨ _ ∧ (_ ∨ _ ∧ (_ ∨ _ ∧ (_ ∨ _ ∧ _)))))

/-- The moment at this many microseconds. -/
def ofMicroseconds (total : Nat) : Moment where
  date := .ofOrdinal (total / 86400000000)
  hour := total / 3600000000 % 24
  minute := total / 60000000 % 60
  second := total / 1000000 % 60
  microsecond := total % 1000000
  hasHour := Nat.mod_lt _ (by decide)
  hasMinute := Nat.mod_lt _ (by decide)
  hasSecond := Nat.mod_lt _ (by decide)
  hasMicrosecond := Nat.mod_lt _ (by decide)

/-- The microseconds tell the moments apart and in which order they come. -/
theorem toMicroseconds_lt_iff {first second : Moment} :
    first.toMicroseconds < second.toMicroseconds ↔ first.before second := by
  simp only [toMicroseconds, before]
  rw [radix_lt first.hasMicrosecond second.hasMicrosecond,
    radix_lt first.hasSecond second.hasSecond, radix_eq first.hasSecond second.hasSecond,
    radix_lt first.hasMinute second.hasMinute, radix_eq first.hasMinute second.hasMinute,
    radix_lt first.hasHour second.hasHour, radix_eq first.hasHour second.hasHour,
    Day.toOrdinal_lt_iff]
  have dates : first.date.toOrdinal = second.date.toOrdinal ↔ first.date = second.date :=
    ⟨Day.toOrdinal_injective, congrArg Day.toOrdinal⟩
  rw [dates]
  simp only [or_assoc, and_assoc, and_or_left]

theorem toMicroseconds_injective {first second : Moment}
    (same : first.toMicroseconds = second.toMicroseconds) : first = second := by
  simp only [toMicroseconds] at same
  rw [radix_eq first.hasMicrosecond second.hasMicrosecond,
    radix_eq first.hasSecond second.hasSecond, radix_eq first.hasMinute second.hasMinute,
    radix_eq first.hasHour second.hasHour] at same
  rcases same with ⟨⟨⟨⟨date, hour⟩, minute⟩, second⟩, microsecond⟩
  exact Moment.ext (Day.toOrdinal_injective date) hour minute second microsecond

theorem toMicroseconds_ofMicroseconds {total : Nat} (positive : 86400000000 ≤ total) :
    (ofMicroseconds total).toMicroseconds = total := by
  have dated : 1 ≤ total / 86400000000 := by omega
  simp only [toMicroseconds, ofMicroseconds]
  rw [Day.toOrdinal_ofOrdinal dated]
  omega

theorem le_toMicroseconds (moment : Moment) : 86400000000 ≤ moment.toMicroseconds := by
  have positive : 1 ≤ moment.date.toOrdinal := by
    have bounds := moment.date.dayOfYear_bounds
    simp only [Day.toOrdinal]
    omega
  simp only [toMicroseconds]
  omega

end Moment

end ChTech.Foundation.Calendar
