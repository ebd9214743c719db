import ChTech.Core.Errors
import ChTech.Core.Types
import Mathlib.Data.String.Basic

/-!
# Column types

`app.db.types`, and what a MySQL server in strict mode takes for a column of each type.
-/

namespace ChTech

/-! ## `UTCDateTime` -/

def dayLength : Duration := 86400 * 1000000

/-- The end of 9999-12-31, in microseconds since 0001-01-01. -/
def calendarEnd : Instant := 3652059 * dayLength

/-- A `datetime`: the microseconds its clock shows since 0001-01-01 and, when it is aware,
its offset from UTC. -/
structure Datetime where
  wall : Int
  utcoffset : Option Duration
  inCalendar : 0 ≤ wall ∧ wall < calendarEnd
  withinDay : ∀ offset ∈ utcoffset, -dayLength < offset ∧ offset < dayLength
  deriving DecidableEq

namespace Datetime

/-- The instant it denotes, a naive one being read as UTC. -/
def instant (value : Datetime) : Instant := value.wall - value.utcoffset.getD 0

/-- `==`: a naive and an aware datetime are never equal. -/
def pyEq (first second : Datetime) : Bool :=
  first.instant == second.instant && first.utcoffset.isSome == second.utcoffset.isSome

/-- `astimezone(UTC).replace(tzinfo=None)`. -/
def toNaiveUtc (value : Datetime) : Except Raised Datetime :=
  if inCalendar : 0 ≤ value.instant ∧ value.instant < calendarEnd then
    .ok ⟨value.instant, none, inCalendar, by simp⟩
  else
    .error .overflowError

end Datetime

namespace UTCDateTime

def processBindParam (value : Option Datetime) : Except Raised (Option Datetime) :=
  match value with
  | none => .ok none
  | some value =>
      if value.utcoffset.isSome then
        value.toNaiveUtc.map some
      else
        .ok (some value)

def processResultValue (value : Option Datetime) : Option Datetime :=
  value.map fun value =>
    { value with utcoffset := some 0, withinDay := by simp [dayLength] }

theorem processBindParam_isOk {value : Datetime} :
    (processBindParam (some value)).isOk = true ↔
      0 ≤ value.instant ∧ value.instant < calendarEnd := by
  unfold processBindParam
  cases aware : value.utcoffset with
  | none =>
      have same : value.instant = value.wall := by
        simp only [Datetime.instant]
        rw [aware]
        exact Int.sub_zero _
      rw [same]
      simp only [aware, Option.isSome_none, Bool.false_eq_true, if_false]
      exact ⟨fun _ => value.inCalendar, fun _ => rfl⟩
  | some offset =>
      simp only [aware, Option.isSome_some, if_true]
      simp only [Datetime.toNaiveUtc]
      split
      next inCalendar => exact ⟨fun _ => inCalendar, fun _ => rfl⟩
      next outside =>
        constructor
        · intro bound
          cases bound
        · intro inCalendar
          exact (outside inCalendar).elim

/-- A value that is bound is read back as some value, and `None` as `None`. -/
theorem roundTrip_isNone {value bound : Option Datetime}
    (stored : processBindParam value = .ok bound) :
    (processResultValue bound).isNone = value.isNone := by
  cases value with
  | none =>
      cases stored
      rfl
  | some value =>
      simp only [processBindParam] at stored
      split at stored
      next =>
        simp only [Datetime.toNaiveUtc] at stored
        split at stored
        next =>
          cases stored
          rfl
        next => cases stored
      next =>
        cases stored
        rfl

end UTCDateTime

/-! ## What a column takes -/

/-- A JSON document, by its text. -/
structure Json where
  text : String
  deriving DecidableEq, Repr

/-- What a server computes beyond the weights of its collation. -/
class Mysql where
  /-- `LOWER`. -/
  lower : String → String
  /-- Equality of two characters in `LIKE`. -/
  sameChar : Char → Char → Bool
  /-- The documents a JSON column takes. -/
  acceptsJson : Json → Bool

/-- A value on its way to a column of the given type. -/
inductive Cell where
  | varchar (size : Nat) (value : Option String)
  | text (value : Option String)
  | integer (value : Option Int)
  | smallInteger (value : Option Int)
  | boolean (value : Bool)
  | date (value : Option Date)
  | utcDateTime (value : Option Datetime)
  | guid (value : Option UUID)
  | json (value : Option Json)
  deriving DecidableEq

/-- The bytes of a `TEXT` value. -/
def textBytes : Nat := 65535

/-- The value is bound and stored without an error. -/
def Cell.storable [Mysql] : Cell → Bool
  | varchar size value => value.all fun value => value.length ≤ size
  | text value => value.all fun value => value.utf8ByteSize ≤ textBytes
  | integer value => value.all fun value =>
      -2147483648 ≤ value && value ≤ 2147483647
  | smallInteger value => value.all fun value => -32768 ≤ value && value ≤ 32767
  | boolean _ => true
  | date _ => true
  | utcDateTime value => (UTCDateTime.processBindParam value).isOk
  | guid _ => true
  | json value => value.all Mysql.acceptsJson

/-- A character takes at most four bytes. -/
theorem utf8ByteSize_le (value : String) : value.utf8ByteSize ≤ 4 * value.length := by
  induction value using String.push_induction with
  | empty => simp
  | push prior char ih =>
      have bytes := Char.utf8Size_le_four char
      rw [String.utf8ByteSize_push, String.length_push]
      omega

/-- A quarter of the bytes, counted in characters, always fits. -/
theorem text_fits {value : String} {limit : Nat} (short : value.length ≤ limit)
    (small : 4 * limit ≤ textBytes) : value.utf8ByteSize ≤ textBytes := by
  have bytes := utf8ByteSize_le value
  omega

end ChTech
