import ChTech.Db.Calendar
import ChTech.Infrastructure.RefreshTokenRepository

/-!
# Dates of refresh tokens

The repository compares `expires_at` in its column, the entity after it has been read back.
Both come to the comparison of instants on which the rest of this development builds.
-/

namespace ChTech

open Foundation Foundation.Calendar

/-- A row of `refresh_tokens`, with the dates that its columns hold. -/
structure RefreshTokenModel where
  id : UUID
  userId : UUID
  tokenHash : String
  issuedAt : NaiveDatetime
  expiresAt : NaiveDatetime
  revokedAt : Option NaiveDatetime
  userAgent : Option String
  ipAddress : Option String

/-- The entity with the dates that Python computes with. -/
structure DatedRefreshToken where
  id : UUID
  userId : UUID
  tokenHash : String
  issuedAt : CalendarDatetime
  expiresAt : CalendarDatetime
  revokedAt : Option CalendarDatetime
  userAgent : Option String
  ipAddress : Option String

/-- `is_active`; none is the `TypeError` of the comparison. -/
def DatedRefreshToken.isActive (token : DatedRefreshToken) (moment : CalendarDatetime) :
    Option Bool :=
  if token.revokedAt.isNone then moment.lt token.expiresAt else some false

namespace RefreshTokenModel

/-- `_to_entity` of a row whose dates come through `process_result_value`. -/
def toEntity (model : RefreshTokenModel) : DatedRefreshToken where
  id := model.id
  userId := model.userId
  tokenHash := model.tokenHash
  issuedAt := UTCDateTime.utc model.issuedAt
  expiresAt := UTCDateTime.utc model.expiresAt
  revokedAt := UTCDateTime.resultValue model.revokedAt
  userAgent := model.userAgent
  ipAddress := model.ipAddress

/-- `revoked_at IS NULL AND expires_at > :at`, for the bound parameter. -/
def stillActive (bound : NaiveDatetime) (model : RefreshTokenModel) : Bool :=
  model.revokedAt.isNone && bound.before model.expiresAt

/-- The row with its dates as instants. -/
def toRefreshToken (model : RefreshTokenModel) : RefreshToken where
  id := model.id
  userId := model.userId
  tokenHash := model.tokenHash
  issuedAt := model.issuedAt.wall
  expiresAt := model.expiresAt.wall
  revokedAt := model.revokedAt.map NaiveDatetime.wall
  userAgent := model.userAgent
  ipAddress := model.ipAddress

theorem isActive_toRefreshToken {model : RefreshTokenModel} {instant : Instant} :
    model.toRefreshToken.isActive instant = true ↔
      model.revokedAt = none ∧ instant < model.expiresAt.wall := by
  rw [RefreshToken.isActive_iff]
  simp only [toRefreshToken, Option.map_eq_none_iff]

/-- The condition on the columns is the one on instants. -/
theorem stillActive_eq {model : RefreshTokenModel} {moment : CalendarDatetime}
    {bound : NaiveDatetime} (stored : UTCDateTime.bindParam (some moment) = .ok (some bound)) :
    model.stillActive bound = model.toRefreshToken.isActive moment.instant := by
  rw [Bool.eq_iff_iff, isActive_toRefreshToken, stillActive, Bool.and_eq_true,
    Option.isNone_iff_eq_none, NaiveDatetime.before_iff, UTCDateTime.bindParam_eq_ok.mp stored]

/-- So is the whole condition of `revoke_if_active`. -/
theorem selectsActive_toRefreshToken {model : RefreshTokenModel} {tokenHash : String}
    {moment : CalendarDatetime} {bound : NaiveDatetime}
    (stored : UTCDateTime.bindParam (some moment) = .ok (some bound)) :
    RefreshTokenRepository.selectsActive tokenHash moment.instant model.toRefreshToken =
      (model.tokenHash == tokenHash && model.stillActive bound) := by
  rw [stillActive_eq stored, RefreshTokenRepository.selectsActive, Bool.and_assoc]
  rfl

/-- And so is the condition on the entity. -/
theorem isActive_toEntity {model : RefreshTokenModel} {moment : CalendarDatetime}
    (aware : moment.utcoffset.isSome = true) :
    model.toEntity.isActive moment = some (model.toRefreshToken.isActive moment.instant) := by
  have alike : moment.utcoffset.isSome = (UTCDateTime.utc model.expiresAt).utcoffset.isSome := aware
  rcases Option.isSome_iff_exists.mp (CalendarDatetime.lt_isSome alike) with ⟨less, compared⟩
  have instants := CalendarDatetime.lt_iff alike
  rw [compared, Option.some.injEq, UTCDateTime.utc_instant] at instants
  simp only [DatedRefreshToken.isActive, toEntity, UTCDateTime.resultValue, Option.isNone_map]
  cases revoked : model.revokedAt with
  | some first =>
      simp only [Option.isNone_some, Bool.false_eq_true, if_false, Option.some.injEq]
      rw [Bool.eq_iff_iff, isActive_toRefreshToken, revoked]
      simp
  | none =>
      simp only [Option.isNone_none, if_true]
      rw [compared, Option.some.injEq, Bool.eq_iff_iff, isActive_toRefreshToken, instants]
      simp [revoked]

end RefreshTokenModel

/-- `UTCDateTime` keeps instants and their order, whatever the offsets, and so the condition
on the columns is that of the entity, and that of the rows in microseconds. -/
theorem utcDateTime_preserves :
    (∀ value : CalendarDatetime, 0 ≤ value.instant ∧ value.instant < calendarEnd →
      ∃ bound back, UTCDateTime.bindParam (some value) = .ok (some bound) ∧
        UTCDateTime.resultValue (some bound) = some back ∧ back.utcoffset.isSome = true ∧
        back.instant = value.instant) ∧
    (∀ stored : NaiveDatetime,
      UTCDateTime.bindParam (UTCDateTime.resultValue (some stored)) = .ok (some stored)) ∧
    (∀ value : CalendarDatetime, UTCDateTime.processBindParam (some value.toDatetime) =
      (UTCDateTime.bindParam (some value)).map fun bound =>
        bound.map UTCDateTime.microseconds) ∧
    (∀ (first second : CalendarDatetime) (bound bound' : NaiveDatetime),
      UTCDateTime.bindParam (some first) = .ok (some bound) →
      UTCDateTime.bindParam (some second) = .ok (some bound') →
      (bound.before bound' = true ↔ first.instant < second.instant)) ∧
    ∀ (model : RefreshTokenModel) (moment : CalendarDatetime), moment.utcoffset.isSome = true →
      0 ≤ moment.instant ∧ moment.instant < calendarEnd →
      ∃ bound, UTCDateTime.bindParam (some moment) = .ok (some bound) ∧
        model.toEntity.isActive moment = some (model.stillActive bound) ∧
        ∀ tokenHash, RefreshTokenRepository.selectsActive tokenHash moment.instant
          model.toRefreshToken = (model.tokenHash == tokenHash && model.stillActive bound) := by
  refine ⟨?_, UTCDateTime.bindParam_utc, UTCDateTime.bindParam_toDatetime, ?_, ?_⟩
  · intro value within
    rcases UTCDateTime.bindParam_of_inCalendar within with ⟨bound, stored⟩
    refine ⟨bound, UTCDateTime.utc bound, stored, rfl, rfl, ?_⟩
    rw [UTCDateTime.utc_instant]
    exact UTCDateTime.bindParam_eq_ok.mp stored
  · intro first second bound bound' stored stored'
    exact UTCDateTime.before_iff_of_bound stored stored'
  · intro model moment aware within
    rcases UTCDateTime.bindParam_of_inCalendar within with ⟨bound, stored⟩
    refine ⟨bound, stored, ?_, fun _ => RefreshTokenModel.selectsActive_toRefreshToken stored⟩
    rw [RefreshTokenModel.isActive_toEntity aware, RefreshTokenModel.stillActive_eq stored]

namespace RefreshTokenModel.Sample

theorem east_withinDay : ∀ offset ∈ (some 7200000000 : Option Duration),
    -dayLength < offset ∧ offset < dayLength := by
  simp [dayLength]

theorem newYear_inCalendar : (Moment.ofMicroseconds 63902910600000000).date.year ≤ 9999 := by
  decide

/-- Half past midnight on the first of January 2026, two hours east of UTC. -/
def newYear : CalendarDatetime :=
  ⟨⟨.ofMicroseconds 63902910600000000, newYear_inCalendar⟩, some 7200000000, east_withinDay⟩

theorem utcDateTime_preserves_newYear :
    ∃ bound back, UTCDateTime.bindParam (some newYear) = .ok (some bound) ∧
      UTCDateTime.resultValue (some bound) = some back ∧ back.utcoffset.isSome = true ∧
      back.instant = newYear.instant :=
  utcDateTime_preserves.1 newYear (by decide)

/-- In UTC it is half past ten in the evening of the year before. -/
example : (UTCDateTime.bindParam (some newYear)).map (fun bound => bound.map fun naive =>
    [naive.moment.date.year, naive.moment.date.month, naive.moment.date.day, naive.moment.hour,
      naive.moment.minute]) = .ok (some [2025, 12, 31, 22, 30]) := by
  decide

end RefreshTokenModel.Sample

end ChTech
