/-!
# Identifiers and time

Instants and durations are microseconds, the precision of both `datetime` and the
database columns.
-/

namespace ChTech

/-- A `uuid.UUID`, by its integer value. -/
abbrev UUID := Nat

/-- `str` of a `UUID`: thirty-two hexadecimal digits in five groups. -/
def UUID.str (id : UUID) : String :=
  let digits := (List.range 32).reverse.map fun index => Nat.digitChar ((id >>> (4 * index)) % 16)
  String.ofList (digits.take 8 ++ '-' :: (digits.drop 8).take 4 ++
    '-' :: (digits.drop 12).take 4 ++ '-' :: (digits.drop 16).take 4 ++ '-' :: digits.drop 20)

/-- A `datetime` in UTC. -/
abbrev Instant := Int

/-- A `date`, by its ordinal. -/
abbrev Date := Nat

/-- A `timedelta`. -/
abbrev Duration := Int

end ChTech
