import ChTech.Core.Types
import ChTech.Domain.ValueObjects

/-!
# Users

The administrators of the system: the stored row, and the entity rebuilt from it.
-/

namespace ChTech

open Foundation

inductive UserRole where
  | admin
  deriving DecidableEq, Repr

namespace UserRole

def value : UserRole → String
  | .admin => "ADMIN"

/-- `UserRole(value)`. -/
def ofValue (value : String) : Except Raised UserRole :=
  if value = "ADMIN" then .ok .admin else .error (.valueError "not a valid UserRole")

end UserRole

/-- A row of `users`. -/
structure UserModel where
  id : UUID
  name : String
  email : String
  passwordHash : String
  role : String
  isActive : Bool
  lastLogin : Option Instant
  createdAt : Instant
  updatedAt : Instant
  deriving DecidableEq, Repr

/-- The `User` entity. -/
structure User where
  id : UUID
  name : String
  email : Email
  passwordHash : String
  role : UserRole
  isActive : Bool
  lastLogin : Option Instant
  createdAt : Instant
  updatedAt : Instant
  deriving DecidableEq

/-- `_to_entity`. -/
def UserModel.toEntity [PyUnicode] (model : UserModel) : Except Raised User := do
  let email ← Email.postInit model.email
  let role ← UserRole.ofValue model.role
  return {
    id := model.id
    name := model.name
    email
    passwordHash := model.passwordHash
    role
    isActive := model.isActive
    lastLogin := model.lastLogin
    createdAt := model.createdAt
    updatedAt := model.updatedAt }

/-- Rebuilding the entity keeps the key. -/
theorem UserModel.toEntity_id [PyUnicode] {model : UserModel} {user : User}
    (built : model.toEntity = .ok user) : user.id = model.id := by
  simp only [toEntity] at built
  cases email : Email.postInit model.email with
  | error raised => simp [email, bind, Except.bind] at built
  | ok address =>
      cases role : UserRole.ofValue model.role with
      | error raised => simp [email, role, bind, Except.bind] at built
      | ok value =>
          simp only [email, role, bind, Except.bind, pure, Except.pure] at built
          cases built
          rfl

end ChTech
