import ChTech.Domain.ValueObjects
import ChTech.Foundation.Casing
import ChTech.Foundation.Program

/-!
# Accepted addresses

`Email` strips and lowers what it is given and checks the result.  The pattern can match one
text in many ways; whether it does depends on the one `@` and the dots after it.
-/

namespace ChTech

open Foundation

/-- One `@`, no white space, and a dot inside the domain. -/
structure IsAddress (address : List Char) : Prop where
  once : address.count '@' = 1
  unspaced : ∀ char ∈ address, PyString.isSpace char = false
  parts : ∃ name domain, PyString.partition '@' address = some (name, domain) ∧ name ≠ [] ∧
    ∃ place, 0 < place ∧ place + 1 < domain.length ∧ domain[place]? = some '.'

theorem isAddressChar_iff {char : Char} :
    isAddressChar char = true ↔ char ≠ '@' ∧ PyString.isSpace char = false := by
  simp only [isAddressChar, Bool.not_eq_true', Bool.or_eq_false_iff, beq_eq_false_iff_ne]

/-- The pattern accepts what can be cut at an `@` and a dot into three parts. -/
theorem emailRe_iff_cut {value : String} :
    emailRe value = true ↔ ∃ name host top : List Char,
      (name ≠ [] ∧ ∀ char ∈ name, isAddressChar char = true) ∧
      (host ≠ [] ∧ ∀ char ∈ host, isAddressChar char = true) ∧
      (top ≠ [] ∧ ∀ char ∈ top, isAddressChar char = true) ∧
      value.toList = name ++ '@' :: (host ++ '.' :: top) := by
  rw [emailRe, emailPattern, Pattern.fullmatch_anchored rfl]
  simp only [← Pattern.mem_reads_plus_one]
  constructor
  · rintro ⟨name, nameRead, _, ⟨_, sign, _, ⟨host, hostRead, _, ⟨_, dot, top, topRead, rfl⟩, rfl⟩,
      rfl⟩, joined⟩
    rw [Pattern.mem_reads_char.mp sign, Pattern.mem_reads_char.mp dot] at joined
    exact ⟨name, host, top, nameRead, hostRead, topRead, joined.symm⟩
  · rintro ⟨name, host, top, nameRead, hostRead, topRead, joined⟩
    rw [joined]
    exact ⟨name, nameRead, _, ⟨['@'], Pattern.mem_reads_char.mpr rfl, _,
      ⟨host, hostRead, _, ⟨['.'], Pattern.mem_reads_char.mpr rfl, top, topRead, rfl⟩, rfl⟩, rfl⟩,
      rfl⟩

section

variable {value name host top domain address : List Char}

theorem at_notMem (chars : ∀ char ∈ name, isAddressChar char = true) : '@' ∉ name :=
  fun inside => (isAddressChar_iff.mp (chars '@' inside)).1 rfl

theorem isAddress_of_cut (named : name ≠ []) (nameChars : ∀ char ∈ name, isAddressChar char = true)
    (hosted : host ≠ []) (hostChars : ∀ char ∈ host, isAddressChar char = true)
    (topped : top ≠ []) (topChars : ∀ char ∈ top, isAddressChar char = true) :
    IsAddress (name ++ '@' :: (host ++ '.' :: top)) where
  once := by
    have dot : ('.' == '@') = false := by decide
    simp only [List.count_append, List.count_cons, beq_self_eq_true, if_true, dot,
      Bool.false_eq_true, if_false, List.count_eq_zero.mpr (at_notMem nameChars),
      List.count_eq_zero.mpr (at_notMem hostChars), List.count_eq_zero.mpr (at_notMem topChars)]
  unspaced := by
    intro char member
    simp only [List.mem_append, List.mem_cons] at member
    rcases member with inName | rfl | inHost | rfl | inTop
    · exact (isAddressChar_iff.mp (nameChars char inName)).2
    · decide
    · exact (isAddressChar_iff.mp (hostChars char inHost)).2
    · decide
    · exact (isAddressChar_iff.mp (topChars char inTop)).2
  parts := by
    have hostLength := List.length_pos_iff.mpr hosted
    have topLength := List.length_pos_iff.mpr topped
    refine ⟨name, _, PyString.partition_eq_some.mpr ⟨rfl, at_notMem nameChars⟩, named,
      host.length, hostLength, ?_, ?_⟩
    · rw [List.length_append, List.length_cons]
      omega
    · rw [List.getElem?_append_right (Nat.le_refl _), Nat.sub_self]
      rfl

theorem IsAddress.chars (isAddress : IsAddress address) (cut : address = name ++ '@' :: domain)
    (apart : '@' ∉ name) : (∀ char ∈ name, isAddressChar char = true) ∧
      ∀ char ∈ domain, isAddressChar char = true := by
  have once := isAddress.once
  rw [cut, List.count_append, List.count_cons_self, List.count_eq_zero.mpr apart] at once
  have apart' : '@' ∉ domain := List.count_eq_zero.mp (by omega)
  have unspaced := isAddress.unspaced
  rw [cut, List.forall_mem_append, List.forall_mem_cons] at unspaced
  constructor
  · intro char member
    refine isAddressChar_iff.mpr ⟨?_, unspaced.1 char member⟩
    intro same
    subst same
    exact apart member
  · intro char member
    refine isAddressChar_iff.mpr ⟨?_, unspaced.2.2 char member⟩
    intro same
    subst same
    exact apart' member

/-- A dot inside the domain cuts it into two parts that are not empty. -/
theorem exists_cut_at_dot {place : Nat} (first : 0 < place) (last : place + 1 < domain.length)
    (dot : domain[place]? = some '.') :
    ∃ host top, host ≠ [] ∧ top ≠ [] ∧ domain = host ++ '.' :: top := by
  rcases List.getElem?_eq_some_iff.mp dot with ⟨inside, dot⟩
  refine ⟨domain.take place, domain.drop (place + 1), ?_, ?_, ?_⟩
  · apply List.ne_nil_of_length_pos
    rw [List.length_take]
    omega
  · apply List.ne_nil_of_length_pos
    rw [List.length_drop]
    omega
  · rw [← dot, ← List.drop_eq_getElem_cons inside, List.take_append_drop]

end

/-- Whether the pattern matches is decided by the `@` and by the dots inside the domain. -/
theorem emailRe_iff {value : String} : emailRe value = true ↔ IsAddress value.toList := by
  rw [emailRe_iff_cut]
  constructor
  · rintro ⟨name, host, top, ⟨named, nameChars⟩, ⟨hosted, hostChars⟩, ⟨topped, topChars⟩, cut⟩
    rw [cut]
    exact isAddress_of_cut named nameChars hosted hostChars topped topChars
  · intro isAddress
    rcases isAddress.parts with ⟨name, domain, split, named, place, first, last, dot⟩
    rcases PyString.partition_eq_some.mp split with ⟨cut, apart⟩
    rcases exists_cut_at_dot first last dot with ⟨host, top, hosted, topped, rfl⟩
    rcases isAddress.chars cut apart with ⟨nameChars, domainChars⟩
    rcases List.forall_mem_append.mp domainChars with ⟨hostChars, rest⟩
    rcases List.forall_mem_cons.mp rest with ⟨_, topChars⟩
    exact ⟨name, host, top, ⟨named, nameChars⟩, ⟨hosted, hostChars⟩, ⟨topped, topChars⟩, cut⟩

/-! ## The normal form -/

namespace Email

variable [PyUnicode] {database : CaseDatabase}

/-- What is checked, and kept. -/
def normalized (value : String) : String := PyUnicode.lower (PyString.strip value)

theorem postInit_eq_ok {value : String} {email : Email} :
    Email.postInit value = .ok email ↔ email.value = normalized value := by
  simp only [Email.postInit]
  split
  next valid =>
    constructor
    · intro built
      cases built
      rfl
    · intro kept
      cases email
      cases kept
      rfl
  next invalid =>
    constructor
    · intro built
      cases built
    · intro kept
      rw [normalized] at kept
      exact absurd (kept ▸ email.valid) invalid

theorem postInit_isOk {value : String} :
    (Email.postInit value).isOk = true ↔ IsAddress (normalized value).toList := by
  rw [Result.isOk_iff, ← emailRe_iff]
  constructor
  · rintro ⟨email, built⟩
    rw [← postInit_eq_ok.mp built]
    exact email.valid
  · intro valid
    exact ⟨⟨normalized value, valid⟩, postInit_eq_ok.mpr rfl⟩

/-- What has been kept is kept as it is. -/
theorem postInit_value (lowers : ∀ text, PyUnicode.lower text = database.lower text)
    {value : String} {email : Email} (built : Email.postInit value = .ok email) :
    Email.postInit email.value = .ok email := by
  have kept := postInit_eq_ok.mp built
  have stripped := PyString.strip_of_unspaced (emailRe_iff.mp email.valid).unspaced
  rw [postInit_eq_ok, normalized, stripped, kept, normalized, lowers, lowers,
    CaseDatabase.lower_lower]

/-- The value is the text with white space around it. -/
def Surrounds (value text : String) : Prop :=
  ∃ before after, (∀ char ∈ before, PyString.isSpace char = true) ∧
    (∀ char ∈ after, PyString.isSpace char = true) ∧
    value.toList = before ++ (text.toList ++ after)

/-- The values differ in the white space around them and in the case of ASCII letters only. -/
def SameSpelling (first second : String) : Prop :=
  ∃ text text', Surrounds first text ∧ Surrounds second text' ∧
    text.toList.map Char.toLower = text'.toList.map Char.toLower

omit [PyUnicode] in
theorem Surrounds.strip_eq {value text : String} (surrounds : Surrounds value text) :
    PyString.strip value = PyString.strip text := by
  rcases surrounds with ⟨before, after, leading, trailing, around⟩
  exact PyString.strip_eq_of_around leading trailing around

theorem SameSpelling.normalized_eq
    (lowers : ∀ text, PyUnicode.lower text = database.lower text) {first second : String}
    (same : SameSpelling first second) : normalized first = normalized second := by
  rcases same with ⟨text, text', around, around', letters⟩
  rw [normalized, normalized, around.strip_eq, around'.strip_eq, lowers, lowers]
  apply CaseDatabase.lower_congr
  rw [PyString.toLower_strip, PyString.toLower_strip, letters]

end Email

end ChTech
