import ChTech.Db.Calendar
import ChTech.Foundation.Json
import ChTech.Foundation.PyString

/-!
# Log lines

`JSONFormatter` writes a record as one JSON object on one line.  Whatever the messages hold, the
stream has one line for each record, and the line tells which record it was.  A text is made of
Unicode scalar values: the surrogate code points that a `str` may hold as well are left out.
-/

namespace ChTech.Logging

open Foundation Foundation.Calendar

/-- `%02d`. -/
def pad2 (value : Nat) : List Char :=
  [Nat.digitChar (value / 10 % 10), Nat.digitChar (value % 10)]

/-- `%04d`. -/
def pad4 (value : Nat) : List Char := pad2 (value / 100) ++ pad2 (value % 100)

/-- `%06d`. -/
def pad6 (value : Nat) : List Char := pad2 (value / 10000) ++ pad4 (value % 10000)

/-- `isoformat` leaves out microseconds that are zero. -/
def isoMicrosecond (microsecond : Nat) : List Char :=
  if microsecond = 0 then [] else '.' :: pad6 microsecond

/-- `isoformat` in UTC. -/
def isoformat (value : NaiveDatetime) : String :=
  String.ofList (pad4 value.moment.date.year ++ '-' :: pad2 value.moment.date.month ++
    '-' :: pad2 value.moment.date.day ++ 'T' :: pad2 value.moment.hour ++
    ':' :: pad2 value.moment.minute ++ ':' :: pad2 value.moment.second ++
    isoMicrosecond value.moment.microsecond ++ ['+', '0', '0', ':', '0', '0'])

theorem digitChar_inj {first second : Nat} (small : first < 10) (small' : second < 10)
    (same : Nat.digitChar first = Nat.digitChar second) : first = second := by
  have each : ∀ first < 10, ∀ second < 10, Nat.digitChar first = Nat.digitChar second →
      first = second := by decide
  exact each first small second small' same

theorem pad2_inj {first second : Nat} (small : first < 100) (small' : second < 100)
    (same : pad2 first = pad2 second) : first = second := by
  simp only [pad2, List.cons.injEq, and_true] at same
  have tens := digitChar_inj (Nat.mod_lt _ (by decide)) (Nat.mod_lt _ (by decide)) same.1
  have ones := digitChar_inj (Nat.mod_lt _ (by decide)) (Nat.mod_lt _ (by decide)) same.2
  omega

theorem pad4_inj {first second : Nat} (small : first < 10000) (small' : second < 10000)
    (same : pad4 first = pad4 second) : first = second := by
  have halves := List.append_inj same rfl
  have high := pad2_inj (by omega) (by omega) halves.1
  have low := pad2_inj (by omega) (by omega) halves.2
  omega

theorem pad6_inj {first second : Nat} (small : first < 1000000) (small' : second < 1000000)
    (same : pad6 first = pad6 second) : first = second := by
  have parts := List.append_inj same rfl
  have high := pad2_inj (by omega) (by omega) parts.1
  have low := pad4_inj (by omega) (by omega) parts.2
  omega

theorem isoMicrosecond_inj {first second : Nat} (small : first < 1000000)
    (small' : second < 1000000) {zone : List Char}
    (same : isoMicrosecond first ++ zone = isoMicrosecond second ++ zone) : first = second := by
  have kept := List.append_cancel_right same
  simp only [isoMicrosecond] at kept
  split at kept
  next zero =>
    split at kept
    next zero' => rw [zero, zero']
    next => cases kept
  next =>
    split at kept
    next => cases kept
    next => exact pad6_inj small small' (List.cons.inj kept).2

theorem daysInMonth_le : ∀ leap : Bool, ∀ month < 13, daysInMonth leap month ≤ 31 := by
  decide

/-- A mark and the field after it. -/
theorem field_inj {mark : Char} {first second rest rest' : List Char}
    (same : mark :: (first ++ rest) = mark :: (second ++ rest'))
    (size : first.length = second.length) :
    first = second ∧ rest = rest' :=
  List.append_inj (List.cons.inj same).2 size

/-- A timestamp tells the moment, to the microsecond. -/
theorem isoformat_inj {first second : NaiveDatetime}
    (texts : isoformat first = isoformat second) : first.moment = second.moment := by
  have same := congrArg String.toList texts
  simp only [isoformat, String.toList_ofList, List.append_assoc, List.cons_append] at same
  rcases List.append_inj same rfl with ⟨year, same⟩
  rcases field_inj same rfl with ⟨month, same⟩
  rcases field_inj same rfl with ⟨day, same⟩
  rcases field_inj same rfl with ⟨hour, same⟩
  rcases field_inj same rfl with ⟨minute, same⟩
  rcases field_inj same rfl with ⟨second', same⟩
  have years : ∀ value : NaiveDatetime, value.moment.date.year < 10000 :=
    fun value => Nat.lt_succ_of_le value.inCalendar
  have months : ∀ value : NaiveDatetime, value.moment.date.month < 100 := by
    intro value
    have bounds := value.moment.date.hasMonth
    omega
  have days : ∀ value : NaiveDatetime, value.moment.date.day < 100 := by
    intro value
    have bounds := value.moment.date.hasDay
    have longest := daysInMonth_le (isLeap value.moment.date.year) value.moment.date.month
      (Nat.lt_succ_of_le value.moment.date.hasMonth.2)
    omega
  have hours := first.moment.hasHour
  have hours' := second.moment.hasHour
  have minutes := first.moment.hasMinute
  have minutes' := second.moment.hasMinute
  have seconds := first.moment.hasSecond
  have seconds' := second.moment.hasSecond
  refine Moment.ext ?_ ?_ ?_ ?_ ?_
  · exact Day.ext (pad4_inj (years first) (years second) year)
      (pad2_inj (months first) (months second) month) (pad2_inj (days first) (days second) day)
  · exact pad2_inj (by omega) (by omega) hour
  · exact pad2_inj (by omega) (by omega) minute
  · exact pad2_inj (by omega) (by omega) second'
  · exact isoMicrosecond_inj first.moment.hasMicrosecond second.moment.hasMicrosecond same

/-! ## Records -/

/-- What the formatter reads of a `LogRecord`. -/
structure LogRecord where
  /-- `datetime.fromtimestamp(record.created, tz=UTC)`. -/
  created : NaiveDatetime
  levelname : String
  name : String
  /-- `record.getMessage()`. -/
  message : String
  /-- `self.formatException(record.exc_info)`, when there is one. -/
  exception : Option String

namespace JSONFormatter

def payload (record : LogRecord) : List (String × String) :=
  [("timestamp", isoformat record.created), ("level", record.levelname), ("logger", record.name),
    ("message", record.message)] ++
    record.exception.toList.map fun exception => ("exception", exception)

def format (record : LogRecord) : String := Json.dumps (payload record)

/-- The payload tells the record. -/
theorem payload_injective : Function.Injective payload := by
  intro first second same
  rcases first with ⟨⟨moment, inCalendar⟩, levelname, name, message, here⟩
  rcases second with ⟨⟨moment', inCalendar'⟩, levelname', name', message', there⟩
  simp only [payload, List.cons_append, List.nil_append, List.cons.injEq, Prod.mk.injEq,
    true_and] at same
  rcases same with ⟨created, level, logger, text, exception⟩
  have created : moment = moment' := isoformat_inj created
  subst created level logger text
  cases here with
  | none =>
      cases there with
      | none => rfl
      | some other => cases exception
  | some text =>
      cases there with
      | none => cases exception
      | some other =>
          cases exception
          rfl

end JSONFormatter

/-- What a `StreamHandler` has written: each record and its terminator. -/
def stream (records : List LogRecord) : String :=
  String.ofList (records.flatMap fun record => (JSONFormatter.format record).toList ++ ['\n'])

theorem newline_notMem (record : LogRecord) :
    '\n' ∉ (JSONFormatter.format record).toList := by
  intro within
  have printable := Json.isPrintable_dumps _ _ within
  exact absurd printable (by decide)

theorem split_stream (records : List LogRecord) :
    PyString.split '\n' (stream records) = records.map JSONFormatter.format ++ [""] := by
  induction records with
  | nil => rfl
  | cons record rest ih =>
      have line : PyString.split '\n' (JSONFormatter.format record) =
          [JSONFormatter.format record] := by
        have alone := PyString.split_join (List.cons_ne_nil (JSONFormatter.format record) [])
          (fun part member => List.mem_singleton.mp member ▸ newline_notMem record)
        have joined : PyString.join '\n' [JSONFormatter.format record] =
            JSONFormatter.format record := by
          simp [PyString.join]
        rw [joined] at alone
        exact alone
      have here : stream (record :: rest) = String.ofList
          ((JSONFormatter.format record).toList ++ '\n' :: (stream rest).toList) := by
        simp [stream]
      rw [here, PyString.split_append, String.ofList_toList, String.ofList_toList, line, ih]
      rfl

/-- Whatever the records hold, line breaks, quotes and control characters included, the stream
splits into one line for each record, all printable ASCII; the line is one JSON object, read back
as the payload of that record and of no other. -/
theorem log_lines_read_back (records : List LogRecord) :
    PyString.split '\n' (stream records) = records.map JSONFormatter.format ++ [""] ∧
      (∀ record ∈ records,
        (∀ char ∈ (JSONFormatter.format record).toList, Json.isPrintable char = true) ∧
        Json.readObject (JSONFormatter.format record) = some (JSONFormatter.payload record)) ∧
      Function.Injective JSONFormatter.format := by
  refine ⟨split_stream records, ?_, ?_⟩
  · intro record _
    exact ⟨Json.isPrintable_dumps _, Json.readObject_dumps _⟩
  · intro first second same
    have read := congrArg Json.readObject same
    rw [JSONFormatter.format, JSONFormatter.format, Json.readObject_dumps,
      Json.readObject_dumps] at read
    exact JSONFormatter.payload_injective (Option.some.inj read)

/-- A message that holds a line break and a quote. -/
example : Json.dumps [("message", "a\n\"b\"\u00e9")] =
    "\x7b\"message\": \"a\\n\\\"b\\\"\\u00e9\"\x7d" := by
  decide

end ChTech.Logging
