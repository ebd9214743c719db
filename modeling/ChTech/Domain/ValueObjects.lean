import ChTech.Core.Errors
import ChTech.Foundation.PyString
import ChTech.Foundation.Regex

/-!
# Value objects

Each value object checks its own invariant when it is built, so the invariant is
a field here.  A rejected value raises `ValueError`; the quoted value at the end of
its message is left out.
-/

namespace ChTech

open Foundation

/-- A character of `[a-z0-9]`. -/
def isWordChar (char : Char) : Bool := char.isLower || char.isDigit

/-- `^[a-z0-9]+(-[a-z0-9]+)*$` -/
def slugPattern : Pattern :=
  .anchored (.seq (.plus (.one isWordChar))
    (.star (.seq (.char '-') (.plus (.one isWordChar)))))

/-- `_SLUG_RE.fullmatch` -/
def slugRe (value : String) : Bool := slugPattern.fullmatch value

/-- A character of `[^@\s]`. -/
def isAddressChar (char : Char) : Bool := !(char == '@' || PyString.isSpace char)

/-- `^[^@\s]+@[^@\s]+\.[^@\s]+$` -/
def emailPattern : Pattern :=
  .anchored (.seq (.plus (.one isAddressChar)) (.seq (.char '@')
    (.seq (.plus (.one isAddressChar)) (.seq (.char '.') (.plus (.one isAddressChar))))))

/-- `_EMAIL_RE.fullmatch` -/
def emailRe (value : String) : Bool := emailPattern.fullmatch value

def urlSchemes : List String := ["http", "https"]

def maxUrlLength : Nat := 2048

/-- `urllib.parse.urlsplit`, scheme and network location only; it raises when the
brackets of the network location are not balanced or one of its checks fails. -/
def urlsplit [PyUnicode] (url : String) : Except Raised (String × String) :=
  let stripped := (PyString.lstrip (fun char => decide (char.toNat ≤ 32)) url.toList).filter
    fun char => !(char == '\t' || char == '\r' || char == '\n')
  let split := match PyString.partition ':' stripped with
    | some (scheme, rest) =>
        if (scheme.head?.any Char.isAlpha) &&
            scheme.all (fun char => char.isAlphanum || ['+', '-', '.'].contains char) then
          (String.ofList (scheme.map Char.toLower), rest)
        else
          ("", stripped)
    | none => ("", stripped)
  match split.2 with
  | '/' :: '/' :: rest =>
      let netloc := rest.takeWhile fun char => !(['/', '?', '#'].contains char)
      if netloc.contains '[' != netloc.contains ']' then
        .error (.valueError "Invalid IPv6 URL")
      else if PyUnicode.netlocAccepted (String.ofList netloc) then
        .ok (split.1, String.ofList netloc)
      else
        .error (.valueError "Invalid netloc")
  | _ => .ok (split.1, "")

/-- `_is_http_url`. -/
def isHttpUrl [PyUnicode] (value : String) : Except Raised Bool :=
  if value.length > maxUrlLength then
    .ok false
  else
    (urlsplit value).map fun parts => urlSchemes.contains parts.1 && !parts.2.isEmpty

structure Email where
  value : String
  valid : emailRe value = true
  deriving DecidableEq

/-- The value is normalized before it is checked. -/
def Email.postInit [PyUnicode] (value : String) : Except Raised Email :=
  let normalized := PyUnicode.lower (PyString.strip value)
  if valid : emailRe normalized = true then
    .ok ⟨normalized, valid⟩
  else
    .error (.valueError "Invalid email address")

structure Slug where
  value : String
  valid : slugRe value = true
  deriving DecidableEq

def Slug.postInit (value : String) : Except Raised Slug :=
  if valid : slugRe value = true then
    .ok ⟨value, valid⟩
  else
    .error (.valueError "Invalid slug")

/-- The check that `Url` and `Image` share. -/
def checkHttpUrl [PyUnicode] (value : String) : Except Raised Unit :=
  match isHttpUrl value with
  | .ok true => .ok ()
  | .ok false => .error (.valueError "Invalid URL")
  | .error raised => .error raised

structure Url [PyUnicode] where
  value : String
  valid : checkHttpUrl value = .ok ()

def Url.postInit [PyUnicode] (value : String) : Except Raised Url :=
  match checked : checkHttpUrl value with
  | .ok () => .ok ⟨value, checked⟩
  | .error raised => .error raised

/-- A URL pointing to an image. -/
structure Image [PyUnicode] where
  value : String
  valid : checkHttpUrl value = .ok ()

def Image.postInit [PyUnicode] (value : String) : Except Raised Image :=
  match checked : checkHttpUrl value with
  | .ok () => .ok ⟨value, checked⟩
  | .error raised => .error raised

structure MarkdownContent where
  value : String
  valid : (PyString.strip value).isEmpty = false
  deriving DecidableEq

def MarkdownContent.postInit (value : String) : Except Raised MarkdownContent :=
  if blank : (PyString.strip value).isEmpty = false then
    .ok ⟨value, blank⟩
  else
    .error (.valueError "MarkdownContent must not be blank")

theorem Slug.postInit_isOk (value : String) : (Slug.postInit value).isOk = slugRe value := by
  simp only [Slug.postInit]
  split
  next valid => exact valid.symm
  next invalid => exact (eq_false_of_ne_true invalid).symm

theorem Slug.postInit_eq_ok {value : String} {slug : Slug}
    (built : Slug.postInit value = .ok slug) : slug.value = value ∧ slugRe value = true := by
  simp only [Slug.postInit] at built
  split at built
  next valid =>
    cases built
    exact ⟨rfl, valid⟩
  next => cases built

/-- What `Url` and `Image` accept is at most 2048 characters long. -/
theorem length_le_of_checkHttpUrl [PyUnicode] {value : String}
    (checked : checkHttpUrl value = .ok ()) : value.length ≤ maxUrlLength := by
  apply Nat.le_of_not_lt
  intro long
  simp only [checkHttpUrl, isHttpUrl] at checked
  rw [if_pos long] at checked
  cases checked

theorem Url.postInit_isOk [PyUnicode] {value : String} :
    (Url.postInit value).isOk = true ↔ checkHttpUrl value = .ok () := by
  simp only [Url.postInit]
  constructor
  · intro built
    split at built
    next checked => exact checked
    next => cases built
  · intro checked
    split
    next => rfl
    next raised => simp [raised] at checked

theorem Url.postInit_eq_ok [PyUnicode] {value : String} {url : Url}
    (built : Url.postInit value = .ok url) : url.value = value := by
  simp only [Url.postInit] at built
  split at built
  next =>
    cases built
    rfl
  next => cases built

theorem Image.postInit_eq_ok [PyUnicode] {value : String} {image : Image}
    (built : Image.postInit value = .ok image) : image.value = value := by
  simp only [Image.postInit] at built
  split at built
  next =>
    cases built
    rfl
  next => cases built

theorem Image.postInit_isOk [PyUnicode] {value : String} :
    (Image.postInit value).isOk = true ↔ checkHttpUrl value = .ok () := by
  simp only [Image.postInit]
  constructor
  · intro built
    split at built
    next checked => exact checked
    next => cases built
  · intro checked
    split
    next => rfl
    next raised => simp [raised] at checked

end ChTech
