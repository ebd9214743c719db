import ChTech.Foundation.PyInt

/-!
# JSON objects of texts

`json.dumps` on a `dict` from `str` to `str`, in its default form, and a reader of such objects.
What was written is printable ASCII and is read back.  The texts have no surrogate code points:
written on their own, two of them are read back as one character.
-/

namespace ChTech.Foundation.Json

/-- `{0:04x}`. -/
def hex4 (value : Nat) : List Char :=
  [Nat.digitChar (value / 4096 % 16), Nat.digitChar (value / 256 % 16),
    Nat.digitChar (value / 16 % 16), Nat.digitChar (value % 16)]

/-- A UTF-16 unit. -/
def escapeUnit (value : Nat) : List Char := '\\' :: 'u' :: hex4 value

def isPrintable (char : Char) : Bool := decide (32 ≤ char.toNat ∧ char.toNat ≤ 126)

/-- A character in a text. -/
def escape (char : Char) : List Char :=
  if char = '\\' then ['\\', '\\']
  else if char = '"' then ['\\', '"']
  else if char = '\n' then ['\\', 'n']
  else if char = '\r' then ['\\', 'r']
  else if char = '\t' then ['\\', 't']
  else if char = '\x0c' then ['\\', 'f']
  else if char = '\x08' then ['\\', 'b']
  else if isPrintable char then [char]
  else if char.toNat < 0x10000 then escapeUnit char.toNat
  else
    escapeUnit (0xD800 + (char.toNat - 0x10000) / 0x400) ++
      escapeUnit (0xDC00 + (char.toNat - 0x10000) % 0x400)

def dumpText (text : String) : List Char := '"' :: text.toList.flatMap escape ++ ['"']

def dumpMember (member : String × String) : List Char :=
  dumpText member.1 ++ ':' :: ' ' :: dumpText member.2

def dumpMembers : List (String × String) → List Char
  | [] => []
  | [member] => dumpMember member
  | member :: next :: rest => dumpMember member ++ ',' :: ' ' :: dumpMembers (next :: rest)

def dumps (members : List (String × String)) : String :=
  String.ofList ('{' :: dumpMembers members ++ ['}'])

/-! ## Reading -/

def isBlank (char : Char) : Bool :=
  char == ' ' || char == '\t' || char == '\n' || char == '\r'

/-- White space may stand between the tokens. -/
def skip (text : List Char) : List Char := text.dropWhile isBlank

def readUnit (first second third fourth : Char) : Option Nat := do
  let first ← PyInt.hexDigit first
  let second ← PyInt.hexDigit second
  let third ← PyInt.hexDigit third
  let fourth ← PyInt.hexDigit fourth
  return ((first * 16 + second) * 16 + third) * 16 + fourth

def isHigh (value : Nat) : Bool := decide (0xD800 ≤ value ∧ value < 0xDC00)

def isLow (value : Nat) : Bool := decide (0xDC00 ≤ value ∧ value < 0xE000)

/-- The escapes of one letter. -/
def unescape : Char → Option Char
  | '"' => some '"'
  | '\\' => some '\\'
  | '/' => some '/'
  | 'b' => some '\x08'
  | 'f' => some '\x0c'
  | 'n' => some '\n'
  | 'r' => some '\r'
  | 't' => some '\t'
  | _ => none

/-- The second unit of a character that takes two. -/
def readLow (high : Nat) : List Char → Option (Char × List Char)
  | '\\' :: 'u' :: a :: b :: c :: d :: rest =>
      (readUnit a b c d).bind fun low =>
        if isLow low then
          some (Char.ofNat (0x10000 + (high - 0xD800) * 0x400 + (low - 0xDC00)), rest)
        else none
  | _ => none

/-- The first character of a text. -/
def readChar : List Char → Option (Char × List Char)
  | [] => none
  | '\\' :: 'u' :: a :: b :: c :: d :: rest =>
      (readUnit a b c d).bind fun value =>
        if isHigh value then readLow value rest
        else if isLow value then none
        else some (Char.ofNat value, rest)
  | '\\' :: letter :: rest => (unescape letter).map (·, rest)
  | ['\\'] => none
  | char :: rest => if 32 ≤ char.toNat then some (char, rest) else none

/-- The characters up to the closing quote, and what follows it. -/
def readText : Nat → List Char → Option (List Char × List Char)
  | 0, _ => none
  | _ + 1, '"' :: rest => some ([], rest)
  | fuel + 1, text =>
      (readChar text).bind fun (char, rest) =>
        (readText fuel rest).map fun (chars, rest) => (char :: chars, rest)

def readString (text : List Char) : Option (String × List Char) :=
  match skip text with
  | '"' :: rest => (readText rest.length rest).map fun (chars, rest) => (String.ofList chars, rest)
  | _ => none

def readMember (text : List Char) : Option ((String × String) × List Char) :=
  (readString text).bind fun (key, rest) =>
    match skip rest with
    | ':' :: rest => (readString rest).map fun (value, rest) => ((key, value), rest)
    | _ => none

def readMembers : Nat → List Char → Option (List (String × String) × List Char)
  | 0, _ => none
  | fuel + 1, text =>
      (readMember text).bind fun (member, rest) =>
        match skip rest with
        | ',' :: rest =>
            (readMembers fuel rest).map fun (members, rest) => (member :: members, rest)
        | '}' :: rest => some ([member], rest)
        | _ => none

/-- An object and nothing else. -/
def readObject (text : String) : Option (List (String × String)) :=
  match skip text.toList with
  | '{' :: inside =>
      match skip inside with
      | '}' :: rest => if (skip rest).isEmpty then some [] else none
      | members =>
          (readMembers members.length members).bind fun (members, rest) =>
            if (skip rest).isEmpty then some members else none
  | _ => none

theorem isPrintable_escape {char other : Char} (member : other ∈ escape char) :
    isPrintable other = true := by
  have digits : ∀ value < 16, isPrintable (Nat.digitChar value) = true := by decide
  have unit : ∀ value, ∀ other ∈ escapeUnit value, isPrintable other = true := by
    intro value other member
    have small : ∀ value : Nat, value % 16 < 16 := fun value => Nat.mod_lt value (by decide)
    simp only [escapeUnit, hex4, List.mem_cons, List.not_mem_nil, or_false] at member
    rcases member with same | same | same | same | same | same
    · rw [same]
      decide
    · rw [same]
      decide
    · rw [same]
      exact digits _ (small _)
    · rw [same]
      exact digits _ (small _)
    · rw [same]
      exact digits _ (small _)
    · rw [same]
      exact digits _ (small _)
  have letter : ∀ letter : Char, isPrintable letter = true → other ∈ ['\\', letter] →
      isPrintable other = true := by
    intro letter printable member
    rcases List.mem_cons.mp member with same | same
    · rw [same]
      decide
    · rw [List.mem_singleton.mp same]
      exact printable
  simp only [escape] at member
  split at member
  next => exact letter _ (by decide) member
  split at member
  next => exact letter _ (by decide) member
  split at member
  next => exact letter _ (by decide) member
  split at member
  next => exact letter _ (by decide) member
  split at member
  next => exact letter _ (by decide) member
  split at member
  next => exact letter _ (by decide) member
  split at member
  next => exact letter _ (by decide) member
  split at member
  next printable =>
    rw [List.mem_singleton.mp member]
    exact printable
  split at member
  next => exact unit _ _ member
  next => exact (List.mem_append.mp member).elim (unit _ _) (unit _ _)

theorem isPrintable_dumpText {text : String} :
    ∀ char ∈ dumpText text, isPrintable char = true := by
  intro char member
  rcases List.mem_append.mp member with front | last
  · rcases List.mem_cons.mp front with same | inside
    · rw [same]
      decide
    · rcases List.mem_flatMap.mp inside with ⟨original, _, escaped⟩
      exact isPrintable_escape escaped
  · rw [List.mem_singleton.mp last]
    decide

theorem isPrintable_dumpMember {member : String × String} :
    ∀ char ∈ dumpMember member, isPrintable char = true := by
  intro char within
  rcases List.mem_append.mp within with key | rest
  · exact isPrintable_dumpText char key
  · rcases List.mem_cons.mp rest with same | rest
    · rw [same]
      decide
    · rcases List.mem_cons.mp rest with same | value
      · rw [same]
        decide
      · exact isPrintable_dumpText char value

theorem isPrintable_dumpMembers (members : List (String × String)) :
    ∀ char ∈ dumpMembers members, isPrintable char = true := by
  induction members using dumpMembers.induct with
  | case1 =>
      intro char within
      cases within
  | case2 member => exact isPrintable_dumpMember
  | case3 member next rest ih =>
      intro char within
      rcases List.mem_append.mp within with here | later
      · exact isPrintable_dumpMember char here
      · rcases List.mem_cons.mp later with same | later
        · rw [same]
          decide
        · rcases List.mem_cons.mp later with same | later
          · rw [same]
            decide
          · exact ih char later

/-- Nothing but printable ASCII is written. -/
theorem isPrintable_dumps (members : List (String × String)) :
    ∀ char ∈ (dumps members).toList, isPrintable char = true := by
  intro char within
  rw [dumps, String.toList_ofList] at within
  rcases List.mem_append.mp within with front | last
  · rcases List.mem_cons.mp front with same | inside
    · rw [same]
      decide
    · exact isPrintable_dumpMembers members char inside
  · rw [List.mem_singleton.mp last]
    decide

theorem readUnit_hex4 {value : Nat} (small : value < 0x10000) :
    readUnit (Nat.digitChar (value / 4096 % 16)) (Nat.digitChar (value / 256 % 16))
      (Nat.digitChar (value / 16 % 16)) (Nat.digitChar (value % 16)) = some value := by
  have digit : ∀ value : Nat, PyInt.hexDigit (Nat.digitChar (value % 16)) = some (value % 16) :=
    fun value => PyInt.hexDigit_digitChar (Nat.mod_lt value (by decide))
  rw [readUnit, digit, digit, digit, digit]
  refine congrArg some ?_
  omega

theorem readChar_unit {value : Nat} (small : value < 0x10000) (rest : List Char) :
    readChar (escapeUnit value ++ rest) =
      if isHigh value then readLow value rest
      else if isLow value then none
      else some (Char.ofNat value, rest) := by
  change (readUnit _ _ _ _).bind _ = _
  rw [readUnit_hex4 small, Option.bind_some]
  rfl

theorem readLow_unit {low : Nat} (isLow : isLow low = true) (high : Nat) (rest : List Char) :
    readLow high (escapeUnit low ++ rest) =
      some (Char.ofNat (0x10000 + (high - 0xD800) * 0x400 + (low - 0xDC00)), rest) := by
  have small : low < 0x10000 := by
    have bounds := of_decide_eq_true isLow
    omega
  change (readUnit _ _ _ _).bind _ = _
  rw [readUnit_hex4 small, Option.bind_some, if_pos isLow]
  rfl

theorem readChar_plain {char : Char} (plain : char ≠ '\\') (bound : 32 ≤ char.toNat)
    (rest : List Char) : readChar (char :: rest) = some (char, rest) := by
  rw [readChar.eq_def]
  split
  next empty => cases empty
  next same =>
    cases same
    exact absurd rfl plain
  next same =>
    cases same
    exact absurd rfl plain
  next same =>
    cases same
    exact absurd rfl plain
  next same =>
    cases same
    exact if_pos bound

/-- A character is read back, one of two units included. -/
theorem readChar_escape (char : Char) (rest : List Char) :
    readChar (escape char ++ rest) = some (char, rest) := by
  have valid := char.valid
  simp only [escape]
  split
  next same =>
    rw [same]
    rfl
  next plain =>
  split
  next same =>
    rw [same]
    rfl
  split
  next same =>
    rw [same]
    rfl
  split
  next same =>
    rw [same]
    rfl
  split
  next same =>
    rw [same]
    rfl
  split
  next same =>
    rw [same]
    rfl
  split
  next same =>
    rw [same]
    rfl
  split
  next printable => exact readChar_plain plain (of_decide_eq_true printable).1 rest
  split
  next small =>
    have bounds : char.toNat < 0xD800 ∨ 0xDFFF < char.toNat ∧ char.toNat < 0x110000 := valid
    have notHigh : isHigh char.toNat = false := decide_eq_false (by omega)
    have notLow : isLow char.toNat = false := decide_eq_false (by omega)
    rw [readChar_unit small, notHigh, notLow, Char.ofNat_toNat]
    rfl
  next large =>
    have bounds : char.toNat < 0xD800 ∨ 0xDFFF < char.toNat ∧ char.toNat < 0x110000 := valid
    have high : isHigh (0xD800 + (char.toNat - 0x10000) / 0x400) = true :=
      decide_eq_true (by omega)
    have low : isLow (0xDC00 + (char.toNat - 0x10000) % 0x400) = true :=
      decide_eq_true (by omega)
    have sum : 0x10000 + (0xD800 + (char.toNat - 0x10000) / 0x400 - 0xD800) * 0x400 +
        (0xDC00 + (char.toNat - 0x10000) % 0x400 - 0xDC00) = char.toNat := by omega
    rw [List.append_assoc, readChar_unit (by omega), if_pos high, readLow_unit low, sum,
      Char.ofNat_toNat]

theorem head_escape (char : Char) (rest : List Char) :
    ∃ head tail, escape char ++ rest = head :: tail ∧ head ≠ '"' := by
  simp only [escape]
  repeat' split
  all_goals first
    | exact ⟨_, _, rfl, by decide⟩
    | exact ⟨_, _, rfl, by assumption⟩

theorem length_escape (char : Char) : 1 ≤ (escape char).length := by
  rcases head_escape char [] with ⟨head, tail, same, _⟩
  rw [List.append_nil] at same
  rw [same]
  exact Nat.succ_le_succ (Nat.zero_le _)

theorem length_flatMap_escape (chars : List Char) :
    chars.length ≤ (chars.flatMap escape).length := by
  induction chars with
  | nil => exact Nat.le_refl 0
  | cons char rest ih =>
      have one := length_escape char
      rw [List.flatMap_cons, List.length_append, List.length_cons]
      omega

theorem readText_dump (chars rest : List Char) {fuel : Nat} (enough : chars.length < fuel) :
    readText fuel (chars.flatMap escape ++ '"' :: rest) = some (chars, rest) := by
  induction chars generalizing fuel with
  | nil =>
      cases fuel with
      | zero => cases enough
      | succ fuel => rfl
  | cons char chars ih =>
      cases fuel with
      | zero => cases enough
      | succ fuel =>
          rcases head_escape char (chars.flatMap escape ++ '"' :: rest) with
            ⟨head, tail, same, other⟩
          rw [List.flatMap_cons, List.append_assoc, readText, readChar_escape, Option.bind_some]
          · simp only [ih (Nat.lt_of_succ_lt_succ enough), Option.map_some]
          · intro inside quoted
            rw [same] at quoted
            exact other (List.cons.inj quoted).1

theorem readString_dump {text : List Char} {value : String} {rest : List Char}
    (skipped : skip text = dumpText value ++ rest) : readString text = some (value, rest) := by
  have opened : skip text = '"' :: (value.toList.flatMap escape ++ '"' :: rest) := by
    rw [skipped, dumpText, List.append_assoc]
    rfl
  have enough : value.toList.length < (value.toList.flatMap escape ++ '"' :: rest).length := by
    have shorter := length_flatMap_escape value.toList
    rw [List.length_append, List.length_cons]
    omega
  rw [readString, opened]
  simp only [readText_dump value.toList rest enough, Option.map_some, String.ofList_toList]

theorem readMember_dump {text : List Char} {member : String × String} {rest : List Char}
    (skipped : skip text = dumpMember member ++ rest) :
    readMember text = some (member, rest) := by
  have key : readString text = some (member.1, ':' :: ' ' :: (dumpText member.2 ++ rest)) := by
    apply readString_dump
    rw [skipped, dumpMember, List.append_assoc]
    rfl
  have value : readString (' ' :: (dumpText member.2 ++ rest)) = some (member.2, rest) :=
    readString_dump rfl
  have colon : skip (':' :: ' ' :: (dumpText member.2 ++ rest)) =
      ':' :: ' ' :: (dumpText member.2 ++ rest) := rfl
  rw [readMember, key, Option.bind_some]
  simp only [colon, value, Option.map_some]

theorem readMembers_dump {members : List (String × String)} (some : members ≠ [])
    {text rest : List Char} (skipped : skip text = dumpMembers members ++ '}' :: rest)
    {fuel : Nat} (enough : members.length ≤ fuel) :
    readMembers fuel text = Option.some (members, rest) := by
  induction members using dumpMembers.induct generalizing text fuel with
  | case1 => exact absurd rfl some
  | case2 member =>
      cases fuel with
      | zero => cases enough
      | succ fuel =>
          have brace : skip ('}' :: rest) = '}' :: rest := rfl
          rw [readMembers, readMember_dump skipped, Option.bind_some]
          simp only [brace]
  | case3 member next others ih =>
      cases fuel with
      | zero => cases enough
      | succ fuel =>
          have here : skip text = dumpMember member ++
              ',' :: ' ' :: (dumpMembers (next :: others) ++ '}' :: rest) := by
            rw [skipped, dumpMembers, List.append_assoc]
            rfl
          have comma : skip (',' :: ' ' :: (dumpMembers (next :: others) ++ '}' :: rest)) =
              ',' :: ' ' :: (dumpMembers (next :: others) ++ '}' :: rest) := rfl
          have blank : skip (' ' :: (dumpMembers (next :: others) ++ '}' :: rest)) =
              dumpMembers (next :: others) ++ '}' :: rest := by
            cases others <;> rfl
          rw [readMembers, readMember_dump here, Option.bind_some]
          simp only [comma, ih (List.cons_ne_nil next others) blank (Nat.le_of_succ_le_succ enough),
            Option.map_some]

theorem length_dumpMembers (members : List (String × String)) :
    members.length ≤ (dumpMembers members).length := by
  induction members using dumpMembers.induct with
  | case1 => exact Nat.le_refl 0
  | case2 member =>
      rw [dumpMembers, dumpMember, dumpText]
      exact Nat.succ_le_succ (Nat.zero_le _)
  | case3 member next rest ih =>
      rw [dumpMembers]
      simp only [List.length_append, List.length_cons] at ih ⊢
      omega

/-- What was written is read back. -/
theorem readObject_dumps (members : List (String × String)) :
    readObject (dumps members) = some members := by
  cases members with
  | nil => rfl
  | cons member rest =>
      have written : (dumps (member :: rest)).toList =
          '{' :: (dumpMembers (member :: rest) ++ ['}']) := by
        rw [dumps, String.toList_ofList]
        rfl
      have quoted : ∃ tail, dumpMembers (member :: rest) ++ ['}'] = '"' :: tail := by
        cases rest <;> exact ⟨_, rfl⟩
      have unspaced : skip (dumpMembers (member :: rest) ++ ['}']) =
          dumpMembers (member :: rest) ++ ['}'] := by
        cases rest <;> rfl
      have enough : (member :: rest).length ≤ (dumpMembers (member :: rest) ++ ['}']).length := by
        have shorter := length_dumpMembers (member :: rest)
        rw [List.length_append]
        omega
      have read := readMembers_dump (List.cons_ne_nil member rest) unspaced enough
      rcases quoted with ⟨tail, quoted⟩
      have brace : skip ('{' :: (dumpMembers (member :: rest) ++ ['}'])) =
          '{' :: (dumpMembers (member :: rest) ++ ['}']) := rfl
      rw [quoted] at read
      rw [readObject, written, brace, quoted]
      change (readMembers ('"' :: tail).length ('"' :: tail)).bind _ = _
      rw [read]
      rfl

end ChTech.Foundation.Json
