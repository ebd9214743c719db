import ChTech.Domain.ValueObjects

/-!
# Accepted slugs

The pattern of a slug repeats a group, a hyphen and a word.  What it accepts are the joins of
words, and splitting at the hyphens gives the words back.
-/

namespace ChTech

open Foundation

/-- One or more characters of `a-z` and `0-9`. -/
structure IsWord (word : String) : Prop where
  nonempty : word ≠ ""
  chars : ∀ char ∈ word.toList, 'a' ≤ char ∧ char ≤ 'z' ∨ '0' ≤ char ∧ char ≤ '9'

/-- Hyphens stand between words only, and nothing follows the last word. -/
structure WellSeparated (value : String) : Prop where
  nonempty : value ≠ ""
  leading : value.toList.head? ≠ some '-'
  trailing : value.toList.getLast? ≠ some '-'
  doubled : ¬['-', '-'] <:+: value.toList
  newline : value.toList.getLast? ≠ some '\n'

theorem isWordChar_iff {char : Char} :
    isWordChar char = true ↔ 'a' ≤ char ∧ char ≤ 'z' ∨ '0' ≤ char ∧ char ≤ '9' := by
  have between : ∀ {least greatest : Char},
      (decide (char.val ≥ least.val) && decide (char.val ≤ greatest.val)) = true ↔
        least ≤ char ∧ char ≤ greatest := by
    intro least greatest
    rw [Bool.and_eq_true_iff, decide_eq_true_iff, decide_eq_true_iff]
    rfl
  rw [isWordChar, Bool.or_eq_true]
  exact or_congr between between

theorem isWord_ofList {word : List Char} :
    IsWord (String.ofList word) ↔ word ∈ (Pattern.plus (.one isWordChar)).reads := by
  rw [Pattern.mem_reads_plus_one]
  constructor
  · rintro ⟨nonempty, chars⟩
    rw [String.toList_ofList] at chars
    refine ⟨?_, fun char member => isWordChar_iff.mpr (chars char member)⟩
    intro same
    subst same
    exact nonempty rfl
  · rintro ⟨nonempty, chars⟩
    refine ⟨?_, ?_⟩
    · intro empty
      have same := congrArg String.toList empty
      rw [String.toList_ofList] at same
      exact nonempty same
    · rw [String.toList_ofList]
      exact fun char member => isWordChar_iff.mp (chars char member)

theorem IsWord.hyphen_notMem {word : String} (isWord : IsWord word) : '-' ∉ word.toList := by
  intro member
  have char := isWord.chars '-' member
  revert char
  decide

/-! ## The pattern -/

/-- The pattern accepts the joins of words. -/
theorem slugRe_iff {value : String} :
    slugRe value = true ↔
      ∃ words, words ≠ [] ∧ (∀ word ∈ words, IsWord word) ∧ PyString.join '-' words = value := by
  rw [slugRe, slugPattern, Pattern.fullmatch_anchored rfl, Pattern.mem_reads_separated]
  constructor
  · rintro ⟨words, nonempty, read, joined⟩
    refine ⟨words.map String.ofList, ?_, ?_, ?_⟩
    · exact fun empty => nonempty (List.map_eq_nil_iff.mp empty)
    · intro word member
      rcases List.mem_map.mp member with ⟨chars, charsMem, rfl⟩
      exact isWord_ofList.mpr (read chars charsMem)
    · have texts : (words.map String.ofList).map String.toList = words := by
        rw [List.map_map]
        exact List.map_id'' (fun _ => String.toList_ofList) words
      rw [PyString.join, texts, joined, String.ofList_toList]
  · rintro ⟨words, nonempty, isWord, rfl⟩
    refine ⟨words.map String.toList, ?_, ?_, ?_⟩
    · exact fun empty => nonempty (List.map_eq_nil_iff.mp empty)
    · intro chars member
      rcases List.mem_map.mp member with ⟨word, wordMem, rfl⟩
      apply isWord_ofList.mp
      rw [String.ofList_toList]
      exact isWord word wordMem
    · rw [PyString.join, String.toList_ofList]

theorem split_words {words : List String} (nonempty : words ≠ [])
    (isWord : ∀ word ∈ words, IsWord word) :
    PyString.split '-' (PyString.join '-' words) = words :=
  PyString.split_join nonempty fun word member => (isWord word member).hyphen_notMem

/-- The pieces between its hyphens are words. -/
theorem slugRe_iff_split {value : String} :
    slugRe value = true ↔ ∀ piece ∈ PyString.split '-' value, IsWord piece := by
  rw [slugRe_iff]
  constructor
  · rintro ⟨words, nonempty, isWord, rfl⟩
    rw [split_words nonempty isWord]
    exact isWord
  · intro pieces
    refine ⟨PyString.split '-' value, ?_, pieces, PyString.join_split '-' value⟩
    exact fun empty => List.splitOn_ne_nil '-' value.toList (List.map_eq_nil_iff.mp empty)

/-- What stands on either side of a hyphen is accepted by itself. -/
theorem slugRe_around {value : String} {before after : List Char}
    (accepted : slugRe value = true) (cut : value.toList = before ++ '-' :: after) :
    slugRe (String.ofList before) = true ∧ slugRe (String.ofList after) = true := by
  rw [← String.ofList_toList (s := value), cut, slugRe_iff_split, PyString.split_append] at accepted
  rw [slugRe_iff_split, slugRe_iff_split]
  exact List.forall_mem_append.mp accepted

theorem slugRe_empty : slugRe "" = false := by decide

/-- There are only hyphens and characters of words. -/
theorem chars_of_slugRe {value : String} (accepted : slugRe value = true) :
    ∀ char ∈ value.toList, char = '-' ∨ isWordChar char = true := by
  rw [slugRe, slugPattern, Pattern.fullmatch_anchored rfl, Pattern.mem_reads_separated] at accepted
  rcases accepted with ⟨words, _, read, joined⟩
  have chars : ∀ word ∈ words, ∀ char ∈ word, isWordChar char = true := by
    intro word member
    exact (Pattern.mem_reads_plus_one.mp (read word member)).2
  intro char member
  rw [← joined] at member
  cases words with
  | nil => cases member
  | cons first later =>
      rw [Pattern.intercalate_eq_flatten, List.mem_append] at member
      rcases member with inFirst | inLater
      · exact .inr (chars first List.mem_cons_self char inFirst)
      · rcases List.mem_flatten.mp inLater with ⟨turn, turnMem, inTurn⟩
        rcases List.mem_map.mp turnMem with ⟨word, wordMem, rfl⟩
        rcases List.mem_cons.mp inTurn with hyphen | inWord
        · exact .inl hyphen
        · exact .inr (chars word (List.mem_cons_of_mem _ wordMem) char inWord)

theorem wellSeparated_of_slugRe {value : String} (accepted : slugRe value = true) :
    WellSeparated value where
  nonempty := by
    intro same
    subst same
    exact Bool.false_ne_true (slugRe_empty.symm.trans accepted)
  leading := by
    intro first
    rcases List.head?_eq_some_iff.mp first with ⟨after, cut⟩
    have empty := (slugRe_around accepted (show value.toList = [] ++ '-' :: after from cut)).1
    exact Bool.false_ne_true (slugRe_empty.symm.trans empty)
  trailing := by
    intro last
    rcases List.getLast?_eq_some_iff.mp last with ⟨before, cut⟩
    have empty := (slugRe_around accepted cut).2
    exact Bool.false_ne_true (slugRe_empty.symm.trans empty)
  doubled := by
    rintro ⟨before, after, cut⟩
    rw [List.append_assoc] at cut
    have rest := (slugRe_around accepted cut.symm).2
    have cut : (String.ofList ('-' :: after)).toList = [] ++ '-' :: after := String.toList_ofList
    have empty := (slugRe_around rest cut).1
    exact Bool.false_ne_true (slugRe_empty.symm.trans empty)
  newline := by
    intro last
    rcases chars_of_slugRe accepted '\n' (List.mem_of_getLast? last) with hyphen | char
    · revert hyphen
      decide
    · revert char
      decide

/-- A slug is accepted if and only if the pieces between its hyphens are words, hence if and only
if it is a join of words; splitting and joining undo each other there. -/
theorem Slug.accepts_joined_words :
    (∀ value, (Slug.postInit value).isOk = true ↔
      ∀ piece ∈ PyString.split '-' value, IsWord piece) ∧
    (∀ value, (Slug.postInit value).isOk = true → WellSeparated value) ∧
    (∀ value, (Slug.postInit value).isOk = true ↔
      ∃ words, words ≠ [] ∧ (∀ word ∈ words, IsWord word) ∧
        PyString.join '-' words = value) ∧
    (∀ value, (Slug.postInit value).isOk = true →
      PyString.join '-' (PyString.split '-' value) = value) ∧
    ∀ words, words ≠ [] → (∀ word ∈ words, IsWord word) →
      PyString.split '-' (PyString.join '-' words) = words := by
  simp only [Slug.postInit_isOk]
  refine ⟨?_, ?_, ?_, ?_, ?_⟩
  · exact fun value => slugRe_iff_split
  · exact fun value => wellSeparated_of_slugRe
  · exact fun value => slugRe_iff
  · exact fun value _ => PyString.join_split '-' value
  · exact fun words => split_words

example : ["ch-tech-v2", "", "Has-Upper", "-leading", "trailing-", "double--hyphen", "line\n"].map
    slugRe = [true, false, false, false, false, false, false] := by decide

end ChTech
