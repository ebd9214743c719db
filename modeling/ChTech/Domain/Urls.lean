import ChTech.Domain.ValueObjects
import ChTech.Foundation.Program

/-!
# Accepted URLs

`_is_http_url` looks at what `urlsplit` makes of a value, and `urlsplit` drops blanks before
it splits.  What is stored is the value itself.
-/

namespace ChTech

open Foundation

/-- White space or a C0 control character. -/
def isBlank (char : Char) : Bool := PyString.isSpace char || decide (char.toNat < 32)

/-- The characters that an authority stops at. -/
def endsAuthority (char : Char) : Bool := ['/', '?', '#'].contains char

/-- `hostname` of a split URL: the authority without user information and port. -/
def hostname (authority : List Char) : List Char :=
  let hostinfo := (authority.reverse.takeWhile (· != '@')).reverse
  match PyString.partition '[' hostinfo with
  | some (_, bracketed) => bracketed.takeWhile (· != ']')
  | none => hostinfo.takeWhile (· != ':')

/-- An absolute `http` or `https` URL with a host, and no blanks in it. -/
structure CleanUrl (value : String) : Prop where
  absolute : ∃ scheme authority rest,
    value.toList = scheme ++ ':' :: '/' :: '/' :: (authority ++ rest) ∧
      String.ofList (scheme.map Char.toLower) ∈ urlSchemes ∧
      (∀ char ∈ authority, endsAuthority char = false) ∧
      (∀ char ∈ rest.head?, endsAuthority char = true) ∧ hostname authority ≠ []
  unblank : ∀ char ∈ value.toList, isBlank char = false

/-- What follows the first `://`, up to the path. -/
def authority (value : String) : List Char :=
  match PyString.partition ':' value.toList with
  | some (_, '/' :: '/' :: rest) => rest.takeWhile fun char => !endsAuthority char
  | _ => []

/-- There is more in the authority than user information and a port. -/
def namesHost (value : String) : Bool := !(hostname (authority value)).isEmpty

section

/-- A value without blanks is split as it is. -/
theorem sanitized_of_unblank {value : String}
    (unblank : ∀ char ∈ value.toList, isBlank char = false) :
    ((PyString.lstrip (fun char => decide (char.toNat ≤ 32)) value.toList).filter
      fun char => !(char == '\t' || char == '\r' || char == '\n')) = value.toList := by
  have above : ∀ char ∈ value.toList, 32 < char.toNat := by
    intro char member
    have clear := unblank char member
    simp only [isBlank, PyString.isSpace, Bool.or_eq_false_iff, decide_eq_false_iff_not] at clear
    omega
  have kept : PyString.lstrip (fun char => decide (char.toNat ≤ 32)) value.toList =
      value.toList := by
    cases chars : value.toList with
    | nil => rfl
    | cons first rest =>
        have large := above first (chars ▸ List.mem_cons_self)
        simp only [PyString.lstrip]
        rw [List.dropWhile_cons_of_neg (by simp only [decide_eq_true_eq]; omega)]
  rw [kept, List.filter_eq_self]
  intro char member
  have large := above char member
  have printable : char ≠ '\t' ∧ char ≠ '\r' ∧ char ≠ '\n' := by
    refine ⟨?_, ?_, ?_⟩
    all_goals
      intro same
      subst same
      revert large
      decide
  simp [printable]

variable [PyUnicode]

theorem urlsplit_of_check {value : String} (checked : checkHttpUrl value = .ok ()) :
    ∃ parts, urlsplit value = .ok parts ∧ parts.1 ∈ urlSchemes ∧ parts.2 ≠ "" := by
  simp only [checkHttpUrl, isHttpUrl] at checked
  split at checked
  next accepted =>
    split at accepted
    next => cases accepted
    next =>
      rcases Result.map_eq_ok.mp accepted with ⟨parts, split, kept⟩
      rw [Bool.and_eq_true, List.contains_iff_mem, Bool.not_eq_true'] at kept
      refine ⟨parts, split, kept.1, ?_⟩
      intro empty
      rw [empty] at kept
      cases kept.2
  next => cases checked
  next => cases checked

/-- An accepted value without blanks is a scheme, `://` and what begins with an authority. -/
theorem parts_of_unblank {value : String}
    (unblank : ∀ char ∈ value.toList, isBlank char = false)
    (checked : checkHttpUrl value = .ok ()) :
    ∃ scheme rest, PyString.partition ':' value.toList = some (scheme, '/' :: '/' :: rest) ∧
      String.ofList (scheme.map Char.toLower) ∈ urlSchemes := by
  rcases urlsplit_of_check checked with ⟨parts, divided, known, located⟩
  have unnamed : "" ∉ urlSchemes := by decide
  unfold urlsplit at divided
  rw [sanitized_of_unblank unblank] at divided
  extract_lets stripped pair at divided
  have shape : pair.1 = parts.1 ∧ ∃ rest, pair.2 = '/' :: '/' :: rest := by
    split at divided
    next rest slashes =>
      refine ⟨?_, rest, slashes⟩
      dsimp only at divided
      split at divided
      next => cases divided
      next =>
        split at divided
        next =>
          cases divided
          rfl
        next => cases divided
    next =>
      cases divided
      exact (located rfl).elim
  clear divided
  rcases shape with ⟨named, rest, slashes⟩
  rw [← named] at known
  cases parted : PyString.partition ':' stripped with
  | none =>
      simp only [pair, parted] at known
      exact (unnamed known).elim
  | some both =>
      simp only [pair, parted] at known slashes
      split at known
      next letters =>
        rw [if_pos letters] at slashes
        have tail : both.2 = '/' :: '/' :: rest := slashes
        refine ⟨both.1, rest, ?_, known⟩
        rw [← tail]
      next => exact (unnamed known).elim

/-! ## Clean values -/

omit [PyUnicode] in
theorem authority_of_split {value : String} {scheme authority rest : List Char}
    (whole : value.toList = scheme ++ ':' :: '/' :: '/' :: (authority ++ rest))
    (known : String.ofList (scheme.map Char.toLower) ∈ urlSchemes)
    (inside : ∀ char ∈ authority, endsAuthority char = false)
    (boundary : ∀ char ∈ rest.head?, endsAuthority char = true) :
    ChTech.authority value = authority := by
  have absent : ':' ∉ scheme := by
    intro member
    have lowered : ':' ∈ (scheme.map Char.toLower) := List.mem_map.mpr ⟨':', member, rfl⟩
    simp only [urlSchemes, List.mem_cons, List.not_mem_nil, or_false] at known
    rcases known with http | https
    · have letters := congrArg String.toList http
      rw [String.toList_ofList] at letters
      rw [letters] at lowered
      revert lowered
      decide
    · have letters := congrArg String.toList https
      rw [String.toList_ofList] at letters
      rw [letters] at lowered
      revert lowered
      decide
  simp only [ChTech.authority, PyString.partition_eq_some.mpr ⟨whole, absent⟩]
  rw [List.takeWhile_append_of_pos (by simpa using inside)]
  cases rest with
  | nil => simp
  | cons first rest => simp [boundary first rfl]

/-- An accepted URL is clean exactly when it holds no blank and names a host. -/
theorem clean_iff {value : String} (checked : checkHttpUrl value = .ok ()) :
    CleanUrl value ↔
      (∀ char ∈ value.toList, isBlank char = false) ∧ namesHost value = true := by
  simp only [namesHost, Bool.not_eq_true', List.isEmpty_eq_false_iff]
  constructor
  · rintro ⟨⟨scheme, authority, rest, whole, known, inside, boundary, host⟩, unblank⟩
    rw [authority_of_split whole known inside boundary]
    exact ⟨unblank, host⟩
  · rintro ⟨unblank, host⟩
    refine ⟨?_, unblank⟩
    rcases parts_of_unblank unblank checked with ⟨scheme, rest, parted, known⟩
    have whole := (PyString.partition_eq_some.mp parted).1
    simp only [authority, parted] at host
    refine ⟨scheme, rest.takeWhile fun char => !endsAuthority char,
      rest.dropWhile fun char => !endsAuthority char, ?_, known, ?_, ?_, host⟩
    · rw [List.takeWhile_append_dropWhile]
      exact whole
    · intro char member
      have kept := List.mem_takeWhile_imp member
      rwa [Bool.not_eq_true'] at kept
    · intro char first
      have reached := List.head?_dropWhile_not (fun char => !endsAuthority char) rest
      rw [Option.mem_def.mp first] at reached
      simpa using reached

/-- Of the values that `Url` and `Image` accept and store as they are, the clean ones are
those that hold no blank and name a host. -/
theorem accepted_urls_clean (value : String) :
    (∀ url, Url.postInit value = .ok url → url.value = value ∧
      (CleanUrl url.value ↔
        (∀ char ∈ value.toList, isBlank char = false) ∧ namesHost value = true)) ∧
    ∀ image, Image.postInit value = .ok image → image.value = value ∧
      (CleanUrl image.value ↔
        (∀ char ∈ value.toList, isBlank char = false) ∧ namesHost value = true) := by
  constructor
  · intro url built
    have same := Url.postInit_eq_ok built
    rw [same]
    exact ⟨rfl, clean_iff (same ▸ url.valid)⟩
  · intro image built
    have same := Image.postInit_eq_ok built
    rw [same]
    exact ⟨rfl, clean_iff (same ▸ image.valid)⟩

end

namespace Url.Sample

@[reducible] def unicode : PyUnicode where
  lower value := String.ofList (value.toList.map Char.toLower)
  netlocAccepted _ := true

attribute [local instance] unicode

/-- A tab before the scheme, a line break in it, a space in the path, and a port alone. -/
theorem accepted_unclean :
    (∀ value ∈ ["\thttps://ch-tech.dev", "ht\ntps://ch-tech.dev", "https://ch-tech.dev/a b",
      "http://:8000"], (Url.postInit value).isOk = true ∧ (Image.postInit value).isOk = true) ∧
    ¬∀ value url, Url.postInit value = .ok url → CleanUrl url.value := by
  have tabbed : (Url.postInit "\thttps://ch-tech.dev").isOk = true := by decide
  refine ⟨by decide, ?_⟩
  intro claim
  rcases Result.isOk_iff.mp tabbed with ⟨url, built⟩
  have clean := claim "\thttps://ch-tech.dev" url built
  rw [Url.postInit_eq_ok built] at clean
  have blank := clean.unblank '\t' (by decide)
  revert blank
  decide

theorem accepted_urls_clean_home : CleanUrl "https://ch-tech.dev" := by
  rcases Result.isOk_iff.mp
    (by decide : (Url.postInit "https://ch-tech.dev").isOk = true) with ⟨url, built⟩
  rcases (accepted_urls_clean "https://ch-tech.dev").1 url built with ⟨same, clean⟩
  have each : ("https://ch-tech.dev".toList.all fun char => !isBlank char) = true := by decide
  rw [← same]
  refine clean.mpr ⟨?_, by decide⟩
  intro char member
  have kept := List.all_eq_true.mp each char member
  rwa [Bool.not_eq_true'] at kept

end Url.Sample

end ChTech
