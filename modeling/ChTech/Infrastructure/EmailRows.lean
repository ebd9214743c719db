import ChTech.Content.People
import ChTech.Domain.Emails
import ChTech.Domain.User

/-!
# Addresses of stored rows

A column holds the value of an `Email`, and every `_to_entity` builds an `Email` from it again.
The value is in normal form, so this neither fails nor changes it.
-/

namespace ChTech

open Foundation

open Content (CompanyModel ContactRequestModel)

namespace Email

section

variable [PyUnicode]

/-- Whatever row holds the value, the entity read from it has the address. -/
structure KeptOnRead (email : Email) : Prop where
  user : ∀ model : UserModel, model.email = email.value →
    model.toEntity.isOk = (UserRole.ofValue model.role).isOk ∧
      ∀ user, model.toEntity = .ok user → user.email = email
  company : ∀ model : CompanyModel, model.email = some email.value →
    ∃ company, model.toEntity = .ok company ∧ company.email = some email
  contactRequest : ∀ model : ContactRequestModel, model.email = email.value →
    model.toEntity.isOk = (ContactStatus.ofValue model.status).isOk ∧
      ∀ request, model.toEntity = .ok request → request.email = email

omit [PyUnicode] in
theorem value_isEmpty (email : Email) : email.value.isEmpty = false := by
  cases empty : email.value.isEmpty with
  | false => rfl
  | true =>
      have once := (emailRe_iff.mp email.valid).once
      rw [String.isEmpty_iff.mp empty] at once
      cases once

theorem keptOnRead {email : Email} (rebuilt : Email.postInit email.value = .ok email) :
    email.KeptOnRead where
  user := by
    intro model held
    simp only [UserModel.toEntity, held, rebuilt, bind, Except.bind]
    cases UserRole.ofValue model.role with
    | error raised => exact ⟨rfl, fun _ built => by cases built⟩
    | ok role =>
        refine ⟨rfl, ?_⟩
        intro user built
        cases built
        rfl
  company := by
    intro model held
    simp only [CompanyModel.toEntity, held, Content.orNone, value_isEmpty, Bool.false_eq_true,
      if_false, rebuilt, bind, Except.bind, Except.map]
    exact ⟨_, rfl, rfl⟩
  contactRequest := by
    intro model held
    simp only [ContactRequestModel.toEntity, held, rebuilt, bind, Except.bind]
    cases ContactStatus.ofValue model.status with
    | error raised => exact ⟨rfl, fun _ built => by cases built⟩
    | ok status =>
        refine ⟨rfl, ?_⟩
        intro request built
        cases built
        rfl

/-- `Email` accepts the values whose normal form is an address, and keeps the normal form; it
does so again whenever the address is read from a row, and for every spelling of it. -/
theorem accepts_normal_form (database : CaseDatabase)
    (lowers : ∀ text, PyUnicode.lower text = database.lower text) :
    (∀ value, (Email.postInit value).isOk = true ↔ IsAddress (normalized value).toList) ∧
    (∀ value email, Email.postInit value = .ok email →
      email.value = normalized value ∧ Email.postInit email.value = .ok email ∧
        email.KeptOnRead) ∧
    ∀ first second, SameSpelling first second →
      ∀ email, Email.postInit first = .ok email ↔ Email.postInit second = .ok email := by
  refine ⟨?_, ?_, ?_⟩
  · exact fun value => postInit_isOk
  · intro value email built
    have rebuilt := postInit_value lowers built
    exact ⟨postInit_eq_ok.mp built, rebuilt, keptOnRead rebuilt⟩
  · intro first second same email
    rw [postInit_eq_ok, postInit_eq_ok, same.normalized_eq lowers]

end

namespace Sample

def lowerFull (char : Char) : List Char := if char = 'Σ' then ['σ'] else [char.toLower]

theorem lowerFull_stable (char lowered : Char) (member : lowered ∈ lowerFull char) :
    lowerFull lowered = [lowered] := by
  simp only [lowerFull] at member
  split at member
  next =>
    rw [List.mem_singleton.mp member]
    decide
  next other =>
    have same := PyString.toLower_congr (fun char => decide (char = 'Σ')) (by decide) char
    rw [List.mem_singleton.mp member, lowerFull, if_neg (mt (decide_eq_decide.mp same).mp other),
      PyString.toLower_congr Char.toLower (by decide) char]

theorem lowerFull_capital (char : Char) (upper : char.isUpper = true) :
    lowerFull char = [char.toLower] := by
  apply if_neg
  intro same
  subst same
  revert upper
  decide

def ignorable : List Char := ['\'', '.', ':']

theorem letter_cased (char : Char) (letter : char.isAlpha = true) :
    (char.isAlpha || ['Σ', 'σ', 'ς'].contains char) = true ∧ ignorable.contains char = false := by
  rw [letter, Bool.true_or]
  refine ⟨rfl, ?_⟩
  have apart : (ignorable.all fun char => !char.isAlpha) = true := by decide
  cases found : ignorable.contains char with
  | false => rfl
  | true =>
      have other := List.all_eq_true.mp apart char (List.contains_iff_mem.mp found)
      rw [letter] at other
      cases other

/-- The letters of ASCII, and the sigma. -/
def database : CaseDatabase where
  lowerFull
  isCased char := char.isAlpha || ['Σ', 'σ', 'ς'].contains char
  isCaseIgnorable := ignorable.contains
  stable := lowerFull_stable
  sigma := rfl
  finalSigma := rfl
  capital := lowerFull_capital
  letter := letter_cased

@[reducible] def unicode : PyUnicode where
  lower := database.lower
  netlocAccepted _ := true

attribute [local instance] unicode

theorem accepts_normal_form_ada : ∃ email : Email,
    Email.postInit " Ada@Example.COM\n" = .ok email ∧ email.value = "ada@example.com" ∧
      email.KeptOnRead ∧ Email.postInit "\tADA@EXAMPLE.com" = .ok email := by
  rcases accepts_normal_form database fun _ => rfl with ⟨_, kept, spelled⟩
  have accepted : (Email.postInit " Ada@Example.COM\n").isOk = true := by decide
  rcases Result.isOk_iff.mp accepted with ⟨email, built⟩
  rcases kept _ email built with ⟨value, _, read⟩
  refine ⟨email, built, ?_, read, (spelled _ _ ?_ email).mp built⟩
  · rw [value]
    decide
  · exact ⟨"Ada@Example.COM", "ADA@EXAMPLE.com",
      ⟨[' '], ['\n'], List.forall_mem_singleton.mpr rfl, List.forall_mem_singleton.mpr rfl, rfl⟩,
      ⟨['\t'], [], List.forall_mem_singleton.mpr rfl, List.forall_mem_nil _, rfl⟩, by decide⟩

end Sample

end Email

end ChTech
