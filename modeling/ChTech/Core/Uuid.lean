import Mathlib.Algebra.Group.Int.Defs
import Mathlib.Algebra.Group.Nat.Defs
import ChTech.Core.Errors
import ChTech.Core.Types
import ChTech.Foundation.PyInt

/-!
# Texts of UUIDs

`uuid.UUID(text)` reads far more than `str` writes.  A column of type `GUID` stores what `str`
writes, whatever it was given, so that equal keys are equal texts.
-/

namespace ChTech

open Foundation

namespace PyUuid

/-- `str.replace(pattern, "")`, after `skip` characters that a match has taken. -/
def remove (pattern : List Char) : Nat → List Char → List Char
  | _, [] => []
  | skip + 1, _ :: rest => remove pattern skip rest
  | 0, char :: rest =>
      if pattern.isPrefixOf (char :: rest) then remove pattern (pattern.length - 1) rest
      else char :: remove pattern 0 rest

/-- `str.strip("{}")`. -/
def unbraced (text : List Char) : List Char :=
  let brace := fun char => char == '\x7b' || char == '\x7d'
  (PyString.lstrip brace (PyString.lstrip brace text).reverse).reverse

/-- What `uuid.UUID` reads as a number. -/
def plain (text : String) : List Char :=
  (unbraced (remove "uuid:".toList 0 (remove "urn:".toList 0 text.toList))).filter (· != '-')

variable [PyDecimal]

/-- `uuid.UUID(text)`. -/
def ofText (text : String) : Except Raised UUID :=
  if (plain text).length ≠ 32 then
    .error (.valueError "badly formed hexadecimal UUID string")
  else
    match PyInt.parse (plain text) with
    | none => .error (.valueError "invalid literal for int() with base 16")
    | some value =>
        if 0 ≤ value ∧ value < 2 ^ 128 then .ok value.toNat
        else .error (.valueError "int is out of range (need a 128-bit value)")

end PyUuid

namespace GUID

variable [PyDecimal]

/-- A `uuid.UUID` or a text is bound as the text of a `uuid.UUID`. -/
def processBindParam : Option (UUID ⊕ String) → Except Raised (Option String)
  | none => .ok none
  | some (.inl id) => .ok (some id.str)
  | some (.inr text) => (PyUuid.ofText text).map fun id => some id.str

def processResultValue : Option String → Except Raised (Option UUID)
  | none => .ok none
  | some text => (PyUuid.ofText text).map some

end GUID

namespace UUID

/-- The digits of a key, the most significant first. -/
def nibbles (id : UUID) : List Nat :=
  (List.range 32).reverse.map fun index => (id >>> (4 * index)) % 16

theorem length_nibbles (id : UUID) : id.nibbles.length = 32 := by
  rw [nibbles, List.length_map, List.length_reverse, List.length_range]

theorem nibbles_lt (id : UUID) : ∀ value ∈ id.nibbles, value < 16 := by
  intro value member
  rcases List.mem_map.mp member with ⟨index, _, same⟩
  rw [← same]
  exact Nat.mod_lt _ (by decide)

/-- The digits make up the key. -/
theorem foldl_nibbles (id : UUID) (count start : Nat) :
    ((List.range count).reverse.map fun index => (id >>> (4 * index)) % 16).foldl
        (fun value next => 16 * value + next) start =
      start * 16 ^ count + id % 16 ^ count := by
  induction count generalizing start with
  | zero => simp [Nat.mod_one]
  | succ count ih =>
      rw [List.range_succ, List.reverse_append, List.reverse_singleton, List.singleton_append,
        List.map_cons, List.foldl_cons, ih]
      have shifted : id >>> (4 * count) = id / 16 ^ count := by
        rw [Nat.shiftRight_eq_div_pow, Nat.pow_mul]
      have divided : id % 16 ^ (count + 1) =
          id % 16 ^ count + 16 ^ count * (id / 16 ^ count % 16) := by
        rw [Nat.pow_succ, Nat.mod_mul]
      rw [shifted, divided, Nat.pow_succ, Nat.add_mul, Nat.mul_comm 16 start, Nat.mul_assoc,
        Nat.mul_comm 16, Nat.mul_comm (id / 16 ^ count % 16)]
      omega

theorem str_toList (id : UUID) :
    (str id).toList =
      (id.nibbles.take 8).map Nat.digitChar ++ '-' :: ((id.nibbles.drop 8).take 4).map
        Nat.digitChar ++ '-' :: ((id.nibbles.drop 12).take 4).map Nat.digitChar ++
        '-' :: ((id.nibbles.drop 16).take 4).map Nat.digitChar ++
        '-' :: (id.nibbles.drop 20).map Nat.digitChar := by
  have written : (List.range 32).reverse.map (fun index =>
      Nat.digitChar ((id >>> (4 * index)) % 16)) = id.nibbles.map Nat.digitChar := by
    rw [nibbles, List.map_map]
    rfl
  simp only [str, String.toList_ofList, written, List.map_take, List.map_drop, List.append_assoc,
    List.cons_append]

/-- A character of the text is a dash or a digit. -/
theorem mem_str {id : UUID} {char : Char} (member : char ∈ (str id).toList) :
    char = '-' ∨ ∃ value < 16, char = Nat.digitChar value := by
  have digit : ∀ values : List Nat, (∀ value ∈ values, value ∈ id.nibbles) →
      char ∈ values.map Nat.digitChar → ∃ value < 16, char = Nat.digitChar value := by
    intro values part here
    rcases List.mem_map.mp here with ⟨value, inside, same⟩
    exact ⟨value, id.nibbles_lt value (part value inside), same.symm⟩
  have taken : ∀ before count, ∀ value ∈ (id.nibbles.drop before).take count,
      value ∈ id.nibbles :=
    fun before count value inside => List.mem_of_mem_drop (List.mem_of_mem_take inside)
  rw [str_toList] at member
  simp only [List.mem_append, List.mem_cons] at member
  rcases member with ((((first | dash | second) | dash | third) | dash | fourth) | dash | fifth)
  · exact .inr (digit _ (fun value => List.mem_of_mem_take) first)
  · exact .inl dash
  · exact .inr (digit _ (taken 8 4) second)
  · exact .inl dash
  · exact .inr (digit _ (taken 12 4) third)
  · exact .inl dash
  · exact .inr (digit _ (taken 16 4) fourth)
  · exact .inl dash
  · exact .inr (digit _ (fun value => List.mem_of_mem_drop) fifth)

/-- What holds of the dash and the digits holds of every character of the text. -/
theorem all_str (holds : Char → Bool) (dash : holds '-' = true)
    (digits : ∀ value < 16, holds (Nat.digitChar value) = true) (id : UUID) :
    ∀ char ∈ (str id).toList, holds char = true := by
  intro char member
  rcases mem_str member with same | ⟨value, small, same⟩
  · rw [same]
    exact dash
  · rw [same]
    exact digits value small

theorem length_str (id : UUID) : (str id).length = 36 := by
  rw [← String.length_toList, str_toList]
  simp [length_nibbles]

end UUID

/-! ## Reading it back -/

namespace PyUuid

theorem remove_of_absent {first : Char} {pattern text : List Char} (absent : first ∉ text) :
    remove (first :: pattern) 0 text = text := by
  induction text with
  | nil => rfl
  | cons char rest ih =>
      have other : ¬(first :: pattern).isPrefixOf (char :: rest) = true := by
        intro starts
        have same := (Bool.and_eq_true_iff.mp starts).1
        exact absent (List.mem_cons.mpr (.inl (eq_of_beq same)))
      rw [remove, if_neg other, ih fun member => absent (List.mem_cons_of_mem _ member)]

theorem lstrip_of_clear {stripped : Char → Bool} {text : List Char}
    (clear : ∀ char ∈ text, stripped char = false) : PyString.lstrip stripped text = text := by
  cases text with
  | nil => rfl
  | cons first rest =>
      rw [PyString.lstrip, List.dropWhile_cons, clear first List.mem_cons_self]
      rfl

theorem strip_of_clear {stripped : Char → Bool} {text : List Char}
    (clear : ∀ char ∈ text, stripped char = false) :
    (PyString.lstrip stripped (PyString.lstrip stripped text).reverse).reverse = text := by
  have turned : ∀ char ∈ text.reverse, stripped char = false :=
    fun char member => clear char (List.mem_reverse.mp member)
  rw [lstrip_of_clear clear, lstrip_of_clear turned, List.reverse_reverse]

theorem plain_str (id : UUID) : plain id.str = id.nibbles.map Nat.digitChar := by
  have unmarked : 'u' ∉ (UUID.str id).toList := by
    intro member
    have other := UUID.all_str (· != 'u') (by decide) (by decide) id 'u' member
    cases other
  have unbracedAll : ∀ char ∈ (UUID.str id).toList,
      (char == '\x7b' || char == '\x7d') = false := by
    intro char member
    have clear := UUID.all_str (fun char => !(char == '\x7b' || char == '\x7d')) (by decide)
      (by decide) id char member
    simpa using clear
  have kept : ∀ values : List Nat, (∀ value ∈ values, value ∈ id.nibbles) →
      (values.map Nat.digitChar).filter (· != '-') = values.map Nat.digitChar := by
    intro values part
    apply List.filter_eq_self.mpr
    intro char member
    rcases List.mem_map.mp member with ⟨value, inside, same⟩
    have digits : ∀ value < 16, (Nat.digitChar value != '-') = true := by decide
    rw [← same]
    exact digits value (id.nibbles_lt value (part value inside))
  have taken : ∀ before count, ∀ value ∈ (id.nibbles.drop before).take count,
      value ∈ id.nibbles :=
    fun before count value inside => List.mem_of_mem_drop (List.mem_of_mem_take inside)
  have joined : id.nibbles = id.nibbles.take 8 ++ ((id.nibbles.drop 8).take 4 ++
      ((id.nibbles.drop 12).take 4 ++ ((id.nibbles.drop 16).take 4 ++ id.nibbles.drop 20))) := by
    have next : ∀ before, id.nibbles.drop before =
        (id.nibbles.drop before).take 4 ++ id.nibbles.drop (before + 4) := by
      intro before
      rw [← List.drop_drop, List.take_append_drop]
    rw [← next 16, ← next 12, ← next 8, List.take_append_drop]
  have first : "urn:".toList = 'u' :: "rn:".toList := rfl
  have second : "uuid:".toList = 'u' :: "uid:".toList := rfl
  rw [plain, first, second, remove_of_absent unmarked, remove_of_absent unmarked, unbraced,
    strip_of_clear unbracedAll, UUID.str_toList]
  simp only [List.filter_append, List.filter_cons, bne_self_eq_false, Bool.false_eq_true, if_false]
  rw [kept _ fun value => List.mem_of_mem_take, kept _ (taken 8 4), kept _ (taken 12 4),
    kept _ (taken 16 4), kept _ fun value => List.mem_of_mem_drop]
  have whole := congrArg (List.map Nat.digitChar) joined
  simp only [List.map_append] at whole
  rw [whole]
  simp only [List.append_assoc]

variable [PyDecimal]

theorem parse_nibbles (id : UUID) :
    PyInt.parse (id.nibbles.map Nat.digitChar) = some ((id % 16 ^ 32 : Nat) : Int) := by
  have clear : ∀ char ∈ id.nibbles.map Nat.digitChar, PyInt.isSpace char = false := by
    intro char member
    rcases List.mem_map.mp member with ⟨value, inside, same⟩
    have digits : ∀ value < 16, PyInt.isSpace (Nat.digitChar value) = false := by decide
    rw [← same]
    exact digits value (id.nibbles_lt value inside)
  have value := UUID.foldl_nibbles id 32 0
  rw [← UUID.nibbles, Nat.zero_mul, Nat.zero_add] at value
  have lengthy := id.length_nibbles
  have small := id.nibbles_lt
  have plain : (id.nibbles.map Nat.digitChar).map PyInt.toAscii =
      id.nibbles.map Nat.digitChar := by
    rw [List.map_map]
    exact List.map_congr_left fun value member =>
      PyInt.toAscii_digitChar (id.nibbles_lt value member)
  rw [PyInt.parse, plain, strip_of_clear clear]
  generalize id.nibbles = nibbles at value lengthy small
  rcases nibbles with _ | ⟨first, _ | ⟨second, rest⟩⟩
  · cases lengthy
  · cases lengthy
  · have firstSmall := small first (by simp)
    have secondSmall := small second (by simp)
    have unsigned : ∀ value < 16, Nat.digitChar value ≠ '-' ∧ Nat.digitChar value ≠ '+' ∧
        (Nat.digitChar value).toLower ≠ 'x' := by decide
    have plain : PyInt.unprefixed ((first :: second :: rest).map Nat.digitChar) =
        (first :: second :: rest).map Nat.digitChar := by
      apply if_neg
      intro marked
      simp only [List.map_cons, List.take, List.cons.injEq] at marked
      exact (unsigned second secondSmall).2.2 marked.2.1
    have read : PyInt.digits 0 false ((first :: second :: rest).map Nat.digitChar) =
        some (id % 16 ^ 32) := by
      have here := PyInt.hexDigit_digitChar firstSmall
      rw [List.map_cons, PyInt.digits, if_neg (by simp), here]
      have smaller : ∀ value ∈ second :: rest, value < 16 :=
        fun value member => small value (List.mem_cons_of_mem _ member)
      rw [← value]
      exact PyInt.digits_map_digitChar smaller (16 * 0 + first)
    split
    next _ _ dash =>
      exact absurd (List.cons.inj dash).1 (unsigned first firstSmall).1
    next _ _ plus =>
      exact absurd (List.cons.inj plus).1 (unsigned first firstSmall).2.1
    next =>
      rw [plain, read]
      rfl

/-- What `str` writes is read back. -/
theorem ofText_str {id : UUID} (inRange : id < 2 ^ 128) : ofText id.str = .ok id := by
  have length : (plain id.str).length = 32 := by
    rw [plain_str, List.length_map, UUID.length_nibbles]
  have same : id % 16 ^ 32 = id := Nat.mod_eq_of_lt inRange
  rw [ofText, if_neg (fun other => other length), plain_str, parse_nibbles, same]
  simp only
  rw [if_pos ⟨Int.natCast_nonneg id, Int.ofNat_lt.mpr inRange⟩, Int.toNat_natCast]

/-- Whatever is read is a key. -/
theorem ofText_lt {text : String} {id : UUID} (read : ofText text = .ok id) : id < 2 ^ 128 := by
  simp only [ofText] at read
  split at read
  next => cases read
  next =>
    split at read
    next => cases read
    next value _ =>
      split at read
      next inRange =>
        cases read
        rw [← Int.ofNat_lt, Int.toNat_of_nonneg inRange.1]
        exact inRange.2
      next => cases read

end PyUuid

namespace GUID

section

variable [PyDecimal]

/-- A stored key is the text of one UUID, the one that was bound: it is read back, it is bound as
it is, and no other UUID has its text. -/
theorem stored_key_read_back {value : UUID ⊕ String} {text : String}
    (inRange : ∀ id, value = .inl id → id < 2 ^ 128)
    (bound : processBindParam (some value) = .ok (some text)) :
    ∃ id, (value = .inl id ∨ ∃ sent, value = .inr sent ∧ PyUuid.ofText sent = .ok id) ∧
      text.length = 36 ∧ processResultValue (some text) = .ok (some id) ∧
      processBindParam (some (.inr text)) = .ok (some text) ∧ ∀ other < 2 ^ 128,
        processBindParam (some (.inl other)) = .ok (some text) → other = id := by
  have written : ∀ id < 2 ^ 128, text = UUID.str id →
      text.length = 36 ∧ processResultValue (some text) = .ok (some id) ∧
        processBindParam (some (.inr text)) = .ok (some text) ∧
        ∀ other < 2 ^ 128, processBindParam (some (.inl other)) = .ok (some text) →
          other = id := by
    intro id small same
    subst same
    have read : PyUuid.ofText (UUID.str id) = .ok id := PyUuid.ofText_str small
    refine ⟨UUID.length_str id, ?_, ?_, ?_⟩
    · rw [processResultValue, read]
      rfl
    · rw [processBindParam, read]
      rfl
    · intro other otherSmall alike
      have equal : UUID.str other = UUID.str id := by
        rw [processBindParam] at alike
        exact Option.some.inj (Except.ok.inj alike)
      have again : PyUuid.ofText (UUID.str other) = .ok other := PyUuid.ofText_str otherSmall
      rw [equal, read] at again
      exact (Except.ok.inj again).symm
  cases value with
  | inl id =>
      have same : text = UUID.str id := by
        rw [processBindParam] at bound
        exact (Option.some.inj (Except.ok.inj bound)).symm
      exact ⟨id, .inl rfl, written id (inRange id rfl) same⟩
  | inr sent =>
      rw [processBindParam] at bound
      cases read : PyUuid.ofText sent with
      | error raised =>
          rw [read] at bound
          cases bound
      | ok id =>
          rw [read] at bound
          have same : text = UUID.str id := (Option.some.inj (Except.ok.inj bound)).symm
          exact ⟨id, .inr ⟨sent, rfl, read⟩, written id (PyUuid.ofText_lt read) same⟩

end

namespace Sample

@[reducible] def ascii : PyDecimal where
  decimal _ := none

attribute [local instance] ascii

def urn : String := "urn:uuid:\x7b0000002A00004000-800000000000ABCD\x7d"

/-- A text with a prefix, braces, capitals and one dash. -/
theorem stored_key_read_back_urn :
    processResultValue (some "0000002a-0000-4000-8000-00000000abcd") =
      .ok (some 0x2a00004000800000000000abcd) := by
  have bound : processBindParam (some (.inr urn)) =
      .ok (some "0000002a-0000-4000-8000-00000000abcd") := by
    rfl
  have inRange : ∀ id, (.inr urn : UUID ⊕ String) = .inl id → id < 2 ^ 128 := by
    intro id other
    cases other
  rcases stored_key_read_back inRange bound with ⟨id, _, _, read, _, only⟩
  have same := only 0x2a00004000800000000000abcd (by decide) rfl
  rw [same]
  exact read

end Sample

end GUID

end ChTech
