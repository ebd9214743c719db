import Mathlib.Data.List.TakeWhile

/-!
# Python strings

The string operations of the standard library the modelled code relies on.
`str.lower` and the checks of a network location depend on the Unicode database;
they are the fields of a class.
-/

namespace ChTech.Foundation

/-- What depends on the Unicode database and on `ipaddress`. -/
class PyUnicode where
  /-- `str.lower`. -/
  lower : String → String
  /-- `_check_bracketed_netloc` and `_checknetloc` of `urllib.parse` raise nothing. -/
  netlocAccepted : String → Bool

namespace PyString

/-- `str.isspace` of one character; `\s` in a pattern matches the same ones. -/
def isSpace (char : Char) : Bool :=
  let code := char.toNat
  decide (9 ≤ code ∧ code ≤ 13) || decide (28 ≤ code ∧ code ≤ 32) ||
    decide (0x2000 ≤ code ∧ code ≤ 0x200A) ||
    [0x85, 0xA0, 0x1680, 0x2028, 0x2029, 0x202F, 0x205F, 0x3000].contains code

/-- `str.lstrip` with a given set of characters. -/
def lstrip (stripped : Char → Bool) (value : List Char) : List Char :=
  value.dropWhile stripped

/-- `str.strip`. -/
def strip (value : String) : String :=
  String.ofList (lstrip isSpace (lstrip isSpace value.toList).reverse).reverse

/-- `str.find` of one character, with the rest after it. -/
def partition (separator : Char) (value : List Char) : Option (List Char × List Char) :=
  match value.dropWhile (· != separator) with
  | [] => none
  | _ :: rest => some (value.takeWhile (· != separator), rest)

theorem toLower_of_not_upper {char : Char} (upper : char.isUpper = false) :
    char.toLower = char :=
  dif_neg (of_decide_eq_false upper)

/-- What lowering the capital letters of ASCII leaves alone, it leaves alone everywhere. -/
theorem toLower_congr {α : Type} (view : Char → α)
    (letters : ∀ code < 91, 65 ≤ code →
      view (Char.ofNat code).toLower = view (Char.ofNat code)) (char : Char) :
    view char.toLower = view char := by
  by_cases upper : char.val ≥ 'A'.val ∧ char.val ≤ 'Z'.val
  · rw [← Char.ofNat_toNat char]
    exact letters char.toNat (Nat.lt_succ_of_le upper.2) upper.1
  · exact congrArg view (dif_neg upper)

/-! ## Stripping -/

/-- Nothing is stripped where there is no white space. -/
theorem strip_of_unspaced {value : String}
    (unspaced : ∀ char ∈ value.toList, isSpace char = false) : strip value = value := by
  have kept : ∀ text : List Char, (∀ char ∈ text, isSpace char = false) →
      lstrip isSpace text = text := by
    intro text clear
    cases text with
    | nil => rfl
    | cons first rest =>
        have here := clear first List.mem_cons_self
        rw [lstrip, List.dropWhile_cons, here]
        rfl
  have turned : ∀ char ∈ value.toList.reverse, isSpace char = false := by
    intro char member
    exact unspaced char (List.mem_reverse.mp member)
  rw [strip, kept _ unspaced, kept _ turned, List.reverse_reverse, String.ofList_toList]

/-- White space around a text is stripped with its own. -/
theorem strip_eq_of_around {value text : String} {before after : List Char}
    (leading : ∀ char ∈ before, isSpace char = true)
    (trailing : ∀ char ∈ after, isSpace char = true)
    (around : value.toList = before ++ (text.toList ++ after)) : strip value = strip text := by
  have turned : ∀ char ∈ after.reverse, isSpace char = true := by
    intro char member
    exact trailing char (List.mem_reverse.mp member)
  simp only [strip, lstrip]
  rw [around, List.dropWhile_append_of_pos leading, List.dropWhile_append]
  split
  next blank =>
    have nothing : after.dropWhile isSpace = [] := by
      rw [← List.append_nil after, List.dropWhile_append_of_pos trailing]
      rfl
    rw [nothing, List.isEmpty_iff.mp blank]
  next => rw [List.reverse_append, List.dropWhile_append_of_pos turned]

/-- Stripping does not look at the case of ASCII letters. -/
theorem toLower_strip (value : String) :
    (strip value).toList.map Char.toLower =
      (strip (String.ofList (value.toList.map Char.toLower))).toList := by
  have lowered : isSpace ∘ Char.toLower = isSpace := by
    funext char
    exact toLower_congr isSpace (by decide) char
  simp only [strip, lstrip, String.toList_ofList, List.dropWhile_map, ← List.map_reverse, lowered]

theorem partition_eq_some {separator : Char} {value before after : List Char} :
    partition separator value = some (before, after) ↔
      value = before ++ separator :: after ∧ separator ∉ before := by
  unfold partition
  constructor
  · intro split
    cases dropped : value.dropWhile (· != separator) with
    | nil => simp [dropped] at split
    | cons first rest =>
        have reached := List.head?_dropWhile_not (· != separator) value
        have whole := List.takeWhile_append_dropWhile (p := (· != separator)) (l := value)
        rw [dropped] at split reached whole
        simp only [Option.some.injEq, Prod.mk.injEq] at split
        simp only [List.head?_cons, bne_eq_false_iff_eq] at reached
        rcases split with ⟨rfl, rfl⟩
        rw [reached] at whole
        refine ⟨whole.symm, ?_⟩
        intro member
        have other := List.mem_takeWhile_imp member
        rw [bne_self_eq_false] at other
        cases other
  · rintro ⟨rfl, absent⟩
    have inside : ∀ char ∈ before, (char != separator) = true := by
      intro char member
      rw [bne_iff_ne]
      intro same
      subst same
      exact absent member
    rw [List.dropWhile_append_of_pos inside, List.takeWhile_append_of_pos inside]
    simp

/-- `str.split` at a character. -/
def split (separator : Char) (value : String) : List String :=
  (value.toList.splitOn separator).map String.ofList

/-- `str.join` with a character between the parts. -/
def join (separator : Char) (parts : List String) : String :=
  String.ofList ([separator].intercalate (parts.map String.toList))

theorem join_split (separator : Char) (value : String) :
    join separator (split separator value) = value := by
  have parts : (split separator value).map String.toList = value.toList.splitOn separator := by
    rw [split, List.map_map]
    exact List.map_id'' (fun _ => String.toList_ofList) _
  rw [join, parts, List.intercalate_splitOn, String.ofList_toList]

theorem split_join {separator : Char} {parts : List String} (nonempty : parts ≠ [])
    (apart : ∀ part ∈ parts, separator ∉ part.toList) :
    split separator (join separator parts) = parts := by
  rw [split, join, String.toList_ofList, List.splitOn_intercalate, List.map_map]
  · exact List.map_id'' (fun _ => String.ofList_toList) _
  · intro text member
    rcases List.mem_map.mp member with ⟨part, partMem, rfl⟩
    exact apart part partMem
  · exact fun empty => nonempty (List.map_eq_nil_iff.mp empty)

/-- A separator is where two splits meet. -/
theorem split_append (separator : Char) (before after : List Char) :
    split separator (String.ofList (before ++ separator :: after)) =
      split separator (String.ofList before) ++ split separator (String.ofList after) := by
  simp only [split, String.toList_ofList, List.splitOn_append_cons_self, List.map_append]

end PyString

end ChTech.Foundation
