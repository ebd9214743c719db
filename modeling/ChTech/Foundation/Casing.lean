import ChTech.Foundation.PyString

/-!
# Lower case

`str.lower`: every character has a full lower-case mapping in the Unicode character database,
but a capital sigma gets its final form at the end of a word.  Lower case is stable, and no
matter how the ASCII letters of a text are written, its lower case is the same.
-/

namespace ChTech.Foundation

/-- What lower-casing reads of the Unicode character database. -/
structure CaseDatabase where
  lowerFull : Char → List Char
  isCased : Char → Bool
  isCaseIgnorable : Char → Bool
  /-- What a character is lowered to is in lower case. -/
  stable : ∀ char, ∀ lowered ∈ lowerFull char, lowerFull lowered = [lowered]
  sigma : lowerFull 'Σ' = ['σ']
  finalSigma : lowerFull 'ς' = ['ς']
  capital : ∀ char, char.isUpper = true → lowerFull char = [char.toLower]
  letter : ∀ char, char.isAlpha = true → isCased char = true ∧ isCaseIgnorable char = false

namespace CaseDatabase

/-- Whether the first character that is not ignored is cased. -/
def meetsCased (database : CaseDatabase) (text : List Char) : Bool :=
  (text.dropWhile database.isCaseIgnorable).head?.any database.isCased

/-- The lower case of a capital sigma; `before` is read backwards. -/
def handleCapitalSigma (database : CaseDatabase) (before after : List Char) : Char :=
  if database.meetsCased before && !database.meetsCased after then 'ς' else 'σ'

def lowerFrom (database : CaseDatabase) (before : List Char) : List Char → List Char
  | [] => []
  | char :: after =>
      (if char = 'Σ' then [database.handleCapitalSigma before after]
        else database.lowerFull char) ++ database.lowerFrom (char :: before) after

/-- `str.lower` -/
def lower (database : CaseDatabase) (value : String) : String :=
  String.ofList (database.lowerFrom [] value.toList)

variable {database : CaseDatabase}

theorem lowerFull_handleCapitalSigma (before after : List Char) :
    database.lowerFull (database.handleCapitalSigma before after) =
      [database.handleCapitalSigma before after] := by
  simp only [handleCapitalSigma]
  split
  · exact database.finalSigma
  · exact database.stable 'Σ' 'σ' (by rw [database.sigma]; exact List.mem_cons_self)

theorem lowerFull_of_mem {before text : List Char} {char : Char}
    (member : char ∈ database.lowerFrom before text) : database.lowerFull char = [char] := by
  induction text generalizing before with
  | nil => cases member
  | cons first rest ih =>
      rcases List.mem_append.mp member with here | later
      · split at here
        · rw [List.mem_singleton.mp here]
          exact lowerFull_handleCapitalSigma before rest
        · exact database.stable first char here
      · exact ih later

theorem lowerFrom_eq_self {before text : List Char}
    (lowered : ∀ char ∈ text, database.lowerFull char = [char]) :
    database.lowerFrom before text = text := by
  induction text generalizing before with
  | nil => rfl
  | cons first rest ih =>
      rcases List.forall_mem_cons.mp lowered with ⟨here, later⟩
      have small : first ≠ 'Σ' := by
        intro same
        subst same
        rw [database.sigma] at here
        revert here
        decide
      rw [lowerFrom, if_neg small, here, ih later]
      rfl

theorem lower_lower (value : String) :
    database.lower (database.lower value) = database.lower value := by
  rw [lower, lower, String.toList_ofList]
  exact congrArg String.ofList (lowerFrom_eq_self fun _ member => lowerFull_of_mem member)

theorem lowerFull_toLower (char : Char) :
    database.lowerFull char.toLower = database.lowerFull char := by
  cases upper : char.isUpper with
  | true =>
      have capital := database.capital char upper
      rw [capital]
      apply database.stable char
      rw [capital]
      exact List.mem_cons_self
  | false => rw [PyString.toLower_of_not_upper upper]

theorem isCased_toLower (char : Char) :
    database.isCased char.toLower = database.isCased char ∧
      database.isCaseIgnorable char.toLower = database.isCaseIgnorable char := by
  cases letter : char.isAlpha with
  | true =>
      rcases database.letter char letter with ⟨cased, ignorable⟩
      have lowered : char.toLower.isAlpha = true := by
        rw [PyString.toLower_congr Char.isAlpha (by decide), letter]
      rcases database.letter _ lowered with ⟨cased', ignorable'⟩
      exact ⟨cased'.trans cased.symm, ignorable'.trans ignorable.symm⟩
  | false =>
      have upper : char.isUpper = false := (Bool.or_eq_false_iff.mp letter).1
      rw [PyString.toLower_of_not_upper upper]
      exact ⟨rfl, rfl⟩

theorem meetsCased_map_toLower (text : List Char) :
    database.meetsCased (text.map Char.toLower) = database.meetsCased text := by
  induction text with
  | nil => rfl
  | cons first rest ih =>
      rcases @isCased_toLower database first with ⟨cased, ignorable⟩
      simp only [meetsCased, List.map_cons, List.dropWhile_cons, ignorable] at ih ⊢
      split
      · exact ih
      · simp only [List.head?_cons, Option.any_some, cased]

theorem lowerFrom_map_toLower (before text : List Char) :
    database.lowerFrom (before.map Char.toLower) (text.map Char.toLower) =
      database.lowerFrom before text := by
  induction text generalizing before with
  | nil => rfl
  | cons first rest ih =>
      have sigma : first.toLower = 'Σ' ↔ first = 'Σ' :=
        decide_eq_decide.mp
          (PyString.toLower_congr (fun char => decide (char = 'Σ')) (by decide) first)
      have further := ih (first :: before)
      rw [List.map_cons] at further
      simp only [List.map_cons, lowerFrom, sigma, handleCapitalSigma, meetsCased_map_toLower,
        lowerFull_toLower, further]

/-- Texts that agree up to the case of their ASCII letters have the same lower case. -/
theorem lower_congr {first second : String}
    (same : first.toList.map Char.toLower = second.toList.map Char.toLower) :
    database.lower first = database.lower second := by
  rw [lower, lower, ← lowerFrom_map_toLower, same, lowerFrom_map_toLower]

end CaseDatabase

end ChTech.Foundation
