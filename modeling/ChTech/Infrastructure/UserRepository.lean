import ChTech.Domain.User
import ChTech.Foundation.Table

/-!
# The user repository

Each function is one transaction on the `users` table.
-/

namespace ChTech

open Foundation

/-- String equality in the database goes by the weights of its collation. -/
class Collation where
  weight : String → List Nat

/-- Equality of two string values under the collation. -/
def Collation.equal [Collation] (first second : String) : Bool :=
  weight first == weight second

/-- Two strings equal to a third are equal. -/
theorem Collation.equal_trans [Collation] {first second value : String}
    (left : Collation.equal first value = true) (right : Collation.equal second value = true) :
    Collation.equal first second = true := by
  unfold Collation.equal at *
  rw [beq_iff_eq] at *
  rw [left, right]

/-- The primary key and the unique `email` column. -/
def UserModel.clash [Collation] (first second : UserModel) : Bool :=
  first.id == second.id || Collation.equal first.email second.email

abbrev Users [Collation] := Table UserModel UserModel.clash

namespace UserRepository

variable [PyUnicode] [Collation]

def getById (users : Users) (userId : UUID) : Except Raised (Option User) :=
  match users.find? fun model => model.id == userId with
  | none => .ok none
  | some model => model.toEntity.map some

def getByEmail (users : Users) (email : String) : Except Raised (Option User) :=
  match users.find? fun model => Collation.equal model.email email with
  | none => .ok none
  | some model => model.toEntity.map some

/-- `last_login` changes, and `updated_at` with it when that is a change. -/
def recordedLogin (userId : UUID) (instant now : Instant) (model : UserModel) : UserModel :=
  if model.id == userId && model.lastLogin != some instant then
    { model with lastLogin := some instant, updatedAt := now }
  else
    model

omit [PyUnicode] in
theorem recordedLogin_clash (userId : UUID) (instant now : Instant) (first second : UserModel) :
    (recordedLogin userId instant now first).clash (recordedLogin userId instant now second) =
      first.clash second := by
  simp only [recordedLogin]
  split <;> split <;> rfl

def recordLogin (users : Users) (userId : UUID) (instant now : Instant) : Except Raised Users :=
  match users.find? fun model => model.id == userId with
  | none => .error .noResultFound
  | some _ =>
      .ok (users.modify (recordedLogin userId instant now)
        (recordedLogin_clash userId instant now))

theorem getById_id {users : Users} {userId : UUID} {user : User}
    (found : getById users userId = .ok (some user)) : user.id = userId := by
  simp only [getById] at found
  split at found
  next => cases found
  next model present =>
    cases built : model.toEntity with
    | error raised => simp [built, Except.map] at found
    | ok entity =>
        simp only [built, Except.map] at found
        cases found
        rw [UserModel.toEntity_id built]
        exact beq_iff_eq.mp (Table.mem_of_find? present).2

end UserRepository

end ChTech
