import ChTech.Core.Errors

/-!
# Enumerations

Columns hold the value of a member; reading a row turns it back into the member.
-/

namespace ChTech

/-- Calling an enumeration on a value. -/
def ofMembers {α : Type} (members : List α) (value : α → String) (name text : String) :
    Except Raised α :=
  match members.find? fun member => value member == text with
  | some member => .ok member
  | none => .error (.valueError ("not a valid " ++ name))

theorem ofMembers_eq_ok {α : Type} {members : List α} {value : α → String} {name text : String}
    {member : α} (found : ofMembers members value name text = .ok member) :
    value member = text := by
  simp only [ofMembers] at found
  split at found
  next other selected =>
    cases found
    have equal := List.find?_some selected
    exact beq_iff_eq.mp equal
  next => cases found

inductive ProjectStatus where
  | planning
  | inProgress
  | completed
  | archived
  deriving DecidableEq, Repr

namespace ProjectStatus

def value : ProjectStatus → String
  | .planning => "PLANNING"
  | .inProgress => "IN_PROGRESS"
  | .completed => "COMPLETED"
  | .archived => "ARCHIVED"

def ofValue : String → Except Raised ProjectStatus :=
  ofMembers [.planning, .inProgress, .completed, .archived] value "ProjectStatus"

@[simp] theorem ofValue_value (status : ProjectStatus) : ofValue status.value = .ok status := by
  cases status <;> rfl

end ProjectStatus

inductive Visibility where
  | isPublic
  | isPrivate
  deriving DecidableEq, Repr

namespace Visibility

def value : Visibility → String
  | .isPublic => "PUBLIC"
  | .isPrivate => "PRIVATE"

def ofValue : String → Except Raised Visibility :=
  ofMembers [.isPublic, .isPrivate] value "Visibility"

@[simp] theorem ofValue_value (visibility : Visibility) :
    ofValue visibility.value = .ok visibility := by
  cases visibility <;> rfl

end Visibility

inductive ProductStatus where
  | waitlist
  | beta
  | live
  deriving DecidableEq, Repr

namespace ProductStatus

def value : ProductStatus → String
  | .waitlist => "WAITLIST"
  | .beta => "BETA"
  | .live => "LIVE"

def ofValue : String → Except Raised ProductStatus :=
  ofMembers [.waitlist, .beta, .live] value "ProductStatus"

@[simp] theorem ofValue_value (status : ProductStatus) : ofValue status.value = .ok status := by
  cases status <;> rfl

end ProductStatus

inductive ContactStatus where
  | new
  | read
  | replied
  | archived
  deriving DecidableEq, Repr

namespace ContactStatus

def value : ContactStatus → String
  | .new => "NEW"
  | .read => "READ"
  | .replied => "REPLIED"
  | .archived => "ARCHIVED"

def ofValue : String → Except Raised ContactStatus :=
  ofMembers [.new, .read, .replied, .archived] value "ContactStatus"

@[simp] theorem ofValue_value (status : ContactStatus) : ofValue status.value = .ok status := by
  cases status <;> rfl

end ContactStatus

end ChTech
