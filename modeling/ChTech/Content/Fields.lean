import ChTech.Core.Types
import ChTech.Domain.ValueObjects
import ChTech.Foundation.Program

/-!
# Fields

What the write schemas check of a field, and how a column is read back into a value
object.
-/

namespace ChTech.Content

open Foundation

/-- `Field(max_length=…)`. -/
def maxLength (limit : Nat) (value : String) : Bool := value.length ≤ limit

/-- `if value is not None`, the check of an optional field. -/
def ifGiven {α : Type} (check : α → Bool) (value : Option α) : Bool := value.all check

/-- `EmailStr`; a field of that type holds what it has produced. -/
class EmailStr where
  produces : String → Bool

/-- The validator of a field that reuses `Url`. -/
def isUrl [PyUnicode] (value : String) : Bool := (Url.postInit value).isOk

/-- The validator of a field that reuses `Image`. -/
def isImage [PyUnicode] (value : String) : Bool := (Image.postInit value).isOk

/-- The validator of a field that reuses `MarkdownContent`. -/
def isMarkdown (value : String) : Bool := (MarkdownContent.postInit value).isOk

theorem length_le_of_maxLength {limit : Nat} {value : String}
    (short : maxLength limit value = true) : value.length ≤ limit :=
  of_decide_eq_true short

/-- `X(value) if value else None`. -/
def orNone {α : Type} (build : String → Except Raised α) :
    Option String → Except Raised (Option α)
  | none => .ok none
  | some value => if value.isEmpty then .ok none else (build value).map some

/-- A value that passed the validator is read back. -/
theorem orNone_isOk {α : Type} {build : String → Except Raised α} {value : Option String}
    (checked : ifGiven (fun given => (build given).isOk) value = true) :
    (orNone build value).isOk = true := by
  cases value with
  | none => rfl
  | some value =>
      simp only [orNone]
      split
      · rfl
      · rw [Result.isOk_map]
        exact checked

end ChTech.Content
