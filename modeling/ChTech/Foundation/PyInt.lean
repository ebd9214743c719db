import ChTech.Foundation.PyString

/-!
# Python integers in hexadecimal

`int(text, 16)`: white space around the number, a sign, the prefix `0x`, single underscores
between the digits, and the decimal digits of every script.
-/

namespace ChTech.Foundation

/-- `unicodedata.decimal` of a character outside ASCII. -/
class PyDecimal where
  decimal : Char → Option (Fin 10)

namespace PyInt

/-- A hexadecimal digit of ASCII. -/
def hexDigit (char : Char) : Option Nat :=
  if 48 ≤ char.toNat ∧ char.toNat ≤ 57 then some (char.toNat - 48)
  else if 97 ≤ char.toNat ∧ char.toNat ≤ 102 then some (char.toNat - 87)
  else if 65 ≤ char.toNat ∧ char.toNat ≤ 70 then some (char.toNat - 55)
  else none

/-- The white space of ASCII that `int` skips. -/
def isSpace (char : Char) : Bool :=
  decide (9 ≤ char.toNat ∧ char.toNat ≤ 13) || char == ' '

/-- What follows the prefix. -/
def unprefixed (text : List Char) : List Char :=
  if (text.take 2).map Char.toLower = ['0', 'x'] then
    if text[2]? = some '_' then text.drop 3 else text.drop 2
  else
    text

/-- The digits after `value`; an underscore may come next only after a digit. -/
def digits (value : Nat) (afterDigit : Bool) : List Char → Option Nat
  | [] => if afterDigit then some value else none
  | char :: rest =>
      if char = '_' ∧ afterDigit = true then digits value false rest
      else (hexDigit char).bind fun next => digits (16 * value + next) true rest

section

variable [PyDecimal]

/-- `_PyUnicode_TransformDecimalAndSpaceToASCII`, which comes before everything else. -/
def toAscii (char : Char) : Char :=
  if char.toNat < 127 then char
  else if PyString.isSpace char then ' '
  else match PyDecimal.decimal char with
    | some value => Nat.digitChar value
    | none => '?'

def parse (text : List Char) : Option Int :=
  let trimmed :=
    (PyString.lstrip isSpace (PyString.lstrip isSpace (text.map toAscii)).reverse).reverse
  match trimmed with
  | '-' :: rest => (digits 0 false (unprefixed rest)).map fun value => -(value : Int)
  | '+' :: rest => (digits 0 false (unprefixed rest)).map Int.ofNat
  | rest => (digits 0 false (unprefixed rest)).map Int.ofNat

end

theorem hexDigit_digitChar {value : Nat} (small : value < 16) :
    hexDigit (Nat.digitChar value) = some value := by
  have each : ∀ value < 16, hexDigit (Nat.digitChar value) = some value := by decide
  exact each value small

theorem toAscii_digitChar [PyDecimal] {value : Nat} (small : value < 16) :
    toAscii (Nat.digitChar value) = Nat.digitChar value := by
  have each : ∀ value < 16, (Nat.digitChar value).toNat < 127 := by decide
  exact if_pos (each value small)

/-- The value of plain digits, the first the most significant. -/
theorem digits_map_digitChar {values : List Nat} (small : ∀ value ∈ values, value < 16)
    (value : Nat) :
    digits value true (values.map Nat.digitChar) =
      some (values.foldl (fun value next => 16 * value + next) value) := by
  induction values generalizing value with
  | nil => rfl
  | cons next rest ih =>
      have here := hexDigit_digitChar (small next List.mem_cons_self)
      have plain : Nat.digitChar next ≠ '_' := by
        intro same
        rw [same] at here
        cases here
      rw [List.map_cons, digits, if_neg (fun both => plain both.1), here]
      exact ih (fun other member => small other (List.mem_cons_of_mem _ member)) (16 * value + next)

end PyInt

end ChTech.Foundation
