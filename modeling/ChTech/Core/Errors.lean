/-!
# Errors

`AppError` carries what the API answers with; the exceptions that are not one
reach the generic handler instead.
-/

namespace ChTech

/-- A domain error with the status and the machine-readable code of its response. -/
structure AppError where
  statusCode : Nat
  code : String
  message : String
  deriving DecidableEq, Repr

namespace AppError

def conflictError (message : String) : AppError := ⟨409, "CONFLICT", message⟩

def resourceNotFoundError (message : String) : AppError := ⟨404, "RESOURCE_NOT_FOUND", message⟩

def unauthorizedError (message : String) : AppError := ⟨401, "UNAUTHORIZED", message⟩

end AppError

/-- Exceptions raised by the modelled code. -/
inductive Raised where
  | app (error : AppError)
  /-- `ValueError`, from a value object or an enum. -/
  | valueError (message : String)
  /-- `sqlalchemy.exc.IntegrityError`: a key, uniqueness or reference constraint. -/
  | integrityError
  /-- `sqlalchemy.exc.NoResultFound`, from `scalar_one`. -/
  | noResultFound
  /-- `sqlalchemy.exc.MultipleResultsFound`, from `scalar_one_or_none`. -/
  | multipleResultsFound
  /-- `sqlalchemy.exc.DataError`, or the `StatementError` around an `OverflowError`: a
  value that cannot be bound or that its column does not take. -/
  | dataError
  /-- `OverflowError`: a datetime outside the calendar. -/
  | overflowError
  /-- Any other failure of a database operation. -/
  | operationalError
  deriving DecidableEq, Repr

end ChTech
