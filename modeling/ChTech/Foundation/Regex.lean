import Mathlib.Computability.Language
import Mathlib.Logic.Relation

/-!
# Regular expressions

The part of `re` that needs neither captures nor flags: sets of characters, sequences, greedy
repetition and the two anchors.  The matcher backtracks by continuations.  It finds a match
exactly when there is one, and a match of a pattern between anchors is a word of its language.
-/

namespace ChTech.Foundation

open scoped Computability

inductive Pattern where
  /-- `^` -/
  | caret
  /-- `$` -/
  | dollar
  /-- A set such as `[a-z]`. -/
  | one (among : Char → Bool)
  | seq (first second : Pattern)
  /-- A greedy `*`. -/
  | star (body : Pattern)

namespace Pattern

def char (wanted : Char) : Pattern := .one (· == wanted)

/-- A greedy `+`. -/
def plus (body : Pattern) : Pattern := .seq body (.star body)

def anchored (body : Pattern) : Pattern := .seq .caret (.seq body .dollar)

/-- How many characters have been read, and those that have not. -/
structure Place where
  offset : Nat
  rest : List Char

/-- The turns of a loop: another one is tried first, unless it would read nothing. -/
def loop (body : (Place → Bool) → Place → Bool) (next : Place → Bool) : Nat → Place → Bool
  | 0, place => next place
  | fuel + 1, place =>
      body (fun after => decide (after.rest.length < place.rest.length) &&
        loop body next fuel after) place || next place

/-- Whether the pattern matches from a place on so that `next` accepts where it ends. -/
def run : Pattern → (Place → Bool) → Place → Bool
  | .caret, next, place => place.offset == 0 && next place
  | .dollar, next, place => (place.rest.isEmpty || place.rest == ['\n']) && next place
  | .one among, next, place =>
      match place.rest with
      | [] => false
      | char :: rest => among char && next ⟨place.offset + 1, rest⟩
  | .seq first second, next, place => first.run (second.run next) place
  | .star body, next, place => loop body.run next place.rest.length place

/-- `fullmatch`: a match from the start that ends where the text ends. -/
def fullmatch (pattern : Pattern) (value : String) : Bool :=
  pattern.run (fun place => place.rest.isEmpty) ⟨0, value.toList⟩

/-! ## What a match is -/

/-- The pattern matches what lies between two places. -/
def Spans : Pattern → Place → Place → Prop
  | .caret => fun place after => after = place ∧ place.offset = 0
  | .dollar => fun place after => after = place ∧ (place.rest = [] ∨ place.rest = ['\n'])
  | .one among => fun place after =>
      ∃ char, among char = true ∧ place.rest = char :: after.rest ∧
        after.offset = place.offset + 1
  | .seq first second => Relation.Comp first.Spans second.Spans
  | .star body => Relation.ReflTransGen body.Spans

/-- The words that a pattern reads; an anchor reads nothing. -/
def reads : Pattern → Language Char
  | .caret => 1
  | .dollar => 1
  | .one among => {word | ∃ char, among char = true ∧ word = [char]}
  | .seq first second => first.reads * second.reads
  | .star body => body.reads∗

/-- A match reads a word, and goes on where the word ends. -/
theorem Spans.reads {pattern : Pattern} {place after : Place} (spans : pattern.Spans place after) :
    ∃ word ∈ pattern.reads, place.rest = word ++ after.rest ∧
      after.offset = place.offset + word.length := by
  induction pattern generalizing place after with
  | caret =>
      rcases spans with ⟨rfl, _⟩
      exact ⟨[], rfl, rfl, rfl⟩
  | dollar =>
      rcases spans with ⟨rfl, _⟩
      exact ⟨[], rfl, rfl, rfl⟩
  | one among =>
      rcases spans with ⟨char, found, rest, offset⟩
      exact ⟨[char], ⟨char, found, rfl⟩, rest, offset⟩
  | seq first second firstIH secondIH =>
      rcases spans with ⟨between, left, right⟩
      rcases firstIH left with ⟨word, read, rest, offset⟩
      rcases secondIH right with ⟨word', read', rest', offset'⟩
      refine ⟨word ++ word', Language.append_mem_mul read read', ?_, ?_⟩
      · rw [rest, rest', List.append_assoc]
      · rw [offset', offset, List.length_append, Nat.add_assoc]
  | star body ih =>
      induction spans using Relation.ReflTransGen.head_induction_on with
      | refl => exact ⟨[], Language.nil_mem_kstar _, rfl, rfl⟩
      | head turn _ rest =>
          rcases ih turn with ⟨word, read, here, offset⟩
          rcases rest with ⟨words, many, there, offset'⟩
          rcases Language.mem_kstar.mp many with ⟨turns, rfl, all⟩
          refine ⟨word ++ turns.flatten, ?_, ?_, ?_⟩
          · rw [← List.flatten_cons]
            apply Language.join_mem_kstar
            exact List.forall_mem_cons.mpr ⟨read, all⟩
          · rw [here, there, List.append_assoc]
          · rw [offset', offset, List.length_append, Nat.add_assoc]

/-- A match that reads nothing stays where it is. -/
theorem Spans.eq_of_length {pattern : Pattern} {place after : Place}
    (spans : pattern.Spans place after) (stays : ¬after.rest.length < place.rest.length) :
    after = place := by
  rcases spans.reads with ⟨word, _, rest, offset⟩
  have nothing : word = [] := by
    apply List.length_eq_zero_iff.mp
    rw [rest, List.length_append] at stays
    omega
  subst nothing
  cases place
  cases after
  cases rest
  cases offset
  rfl

theorem exists_of_loop {body : Pattern} {next : Place → Bool}
    (sound : ∀ {next : Place → Bool} {place}, body.run next place = true →
      ∃ after, body.Spans place after ∧ next after = true) {fuel : Nat} {place : Place}
    (found : loop body.run next fuel place = true) :
    ∃ after, (Pattern.star body).Spans place after ∧ next after = true := by
  induction fuel generalizing place with
  | zero => exact ⟨place, .refl, found⟩
  | succ fuel ih =>
      simp only [loop, Bool.or_eq_true] at found
      rcases found with turn | here
      · rcases sound turn with ⟨between, spans, further⟩
        rw [Bool.and_eq_true] at further
        rcases ih further.2 with ⟨after, rest, accepted⟩
        exact ⟨after, .head spans rest, accepted⟩
      · exact ⟨place, .refl, here⟩

theorem loop_of_spans {body : Pattern} {next : Place → Bool}
    (complete : ∀ {next : Place → Bool} {place after}, body.Spans place after →
      next after = true → body.run next place = true) {place after : Place}
    (spans : (Pattern.star body).Spans place after) (accepted : next after = true) {fuel : Nat}
    (enough : place.rest.length ≤ fuel) : loop body.run next fuel place = true := by
  induction spans using Relation.ReflTransGen.head_induction_on generalizing fuel with
  | refl =>
      cases fuel with
      | zero => exact accepted
      | succ fuel =>
          rw [loop, accepted, Bool.or_true]
  | @head place between turn _ rest =>
      by_cases reading : between.rest.length < place.rest.length
      · cases fuel with
        | zero => omega
        | succ fuel =>
            have further : loop body.run next fuel between = true := rest (by omega)
            rw [loop, Bool.or_eq_true]
            refine .inl (complete turn ?_)
            rw [further, decide_eq_true reading]
            rfl
      · rw [← Spans.eq_of_length turn reading]
        exact rest (by rw [Spans.eq_of_length turn reading]; exact enough)

/-- The matcher accepts where there is a match that `next` accepts. -/
theorem run_iff {pattern : Pattern} {next : Place → Bool} {place : Place} :
    pattern.run next place = true ↔
      ∃ after, pattern.Spans place after ∧ next after = true := by
  induction pattern generalizing next place with
  | caret =>
      simp only [run, Spans, Bool.and_eq_true, beq_iff_eq]
      constructor
      · rintro ⟨first, accepted⟩
        exact ⟨place, ⟨rfl, first⟩, accepted⟩
      · rintro ⟨after, ⟨rfl, first⟩, accepted⟩
        exact ⟨first, accepted⟩
  | dollar =>
      simp only [run, Spans, Bool.and_eq_true, Bool.or_eq_true, List.isEmpty_iff, beq_iff_eq]
      constructor
      · rintro ⟨last, accepted⟩
        exact ⟨place, ⟨rfl, last⟩, accepted⟩
      · rintro ⟨after, ⟨rfl, last⟩, accepted⟩
        exact ⟨last, accepted⟩
  | one among =>
      rcases place with ⟨offset, rest⟩
      cases rest with
      | nil => simp [run, Spans]
      | cons first rest =>
          simp only [run, Spans, Bool.and_eq_true]
          constructor
          · rintro ⟨found, accepted⟩
            exact ⟨⟨offset + 1, rest⟩, ⟨first, found, rfl, rfl⟩, accepted⟩
          · rintro ⟨⟨offset', rest'⟩, ⟨char, found, same, later⟩, accepted⟩
            cases same
            cases later
            exact ⟨found, accepted⟩
  | seq first second firstIH secondIH =>
      simp only [run, Spans, firstIH, secondIH]
      constructor
      · rintro ⟨between, left, after, right, accepted⟩
        exact ⟨after, ⟨between, left, right⟩, accepted⟩
      · rintro ⟨after, ⟨between, left, right⟩, accepted⟩
        exact ⟨between, left, after, right, accepted⟩
  | star body ih =>
      constructor
      · exact exists_of_loop ih.mp
      · rintro ⟨after, spans, accepted⟩
        exact loop_of_spans (fun turn further => ih.mpr ⟨_, turn, further⟩) spans accepted
          (Nat.le_refl _)

def anchorFree : Pattern → Bool
  | .caret => false
  | .dollar => false
  | .one _ => true
  | .seq first second => first.anchorFree && second.anchorFree
  | .star body => body.anchorFree

/-- Without anchors, a word is matched wherever it stands. -/
theorem spans_of_reads {pattern : Pattern} (free : pattern.anchorFree = true) {word : List Char}
    (read : word ∈ pattern.reads) (offset : Nat) (rest : List Char) :
    pattern.Spans ⟨offset, word ++ rest⟩ ⟨offset + word.length, rest⟩ := by
  induction pattern generalizing word offset rest with
  | caret => cases free
  | dollar => cases free
  | one among =>
      rcases read with ⟨char, found, rfl⟩
      exact ⟨char, found, rfl, rfl⟩
  | seq first second firstIH secondIH =>
      rw [anchorFree, Bool.and_eq_true] at free
      rcases Language.mem_mul.mp read with ⟨left, leftRead, right, rightRead, rfl⟩
      rw [List.append_assoc, List.length_append, ← Nat.add_assoc]
      exact ⟨_, firstIH free.1 leftRead offset _, secondIH free.2 rightRead _ rest⟩
  | star body ih =>
      rcases Language.mem_kstar.mp read with ⟨turns, rfl, all⟩
      induction turns generalizing offset with
      | nil => exact .refl
      | cons turn turns turnsIH =>
          rcases List.forall_mem_cons.mp all with ⟨turnRead, turnsRead⟩
          rw [List.flatten_cons, List.append_assoc, List.length_append, ← Nat.add_assoc]
          exact .head (ih free turnRead offset _)
            (turnsIH _ turnsRead (Language.join_mem_kstar turnsRead))

/-- `$` also matches before a last line break, but the match then ends too early. -/
theorem fullmatch_anchored {body : Pattern} (free : body.anchorFree = true) {value : String} :
    (anchored body).fullmatch value = true ↔ value.toList ∈ body.reads := by
  rw [fullmatch, run_iff]
  constructor
  · rintro ⟨after, ⟨_, ⟨rfl, _⟩, _, spans, rfl, _⟩, ended⟩
    rcases spans.reads with ⟨word, read, rest, _⟩
    rw [List.isEmpty_iff.mp ended, List.append_nil] at rest
    rw [show value.toList = word from rest]
    exact read
  · intro read
    have spans := spans_of_reads free read 0 []
    rw [List.append_nil] at spans
    exact ⟨_, ⟨_, ⟨rfl, rfl⟩, _, spans, rfl, .inl rfl⟩, rfl⟩

theorem mem_reads_char {wanted : Char} {word : List Char} :
    word ∈ (char wanted).reads ↔ word = [wanted] := by
  constructor
  · rintro ⟨found, same, rfl⟩
    rw [eq_of_beq same]
  · intro same
    subst same
    exact ⟨wanted, beq_self_eq_true wanted, rfl⟩

/-- A set followed by `+` reads the words over it that are not empty. -/
theorem mem_reads_plus_one {among : Char → Bool} {word : List Char} :
    word ∈ (plus (one among)).reads ↔ word ≠ [] ∧ ∀ char ∈ word, among char = true := by
  change word ∈ (one among).reads * (one among).reads∗ ↔ _
  rw [Language.mem_mul]
  constructor
  · rintro ⟨_, ⟨first, found, rfl⟩, rest, many, rfl⟩
    rcases Language.mem_kstar.mp many with ⟨turns, rfl, all⟩
    refine ⟨List.cons_ne_nil _ _, List.forall_mem_cons.mpr ⟨found, ?_⟩⟩
    intro char member
    rcases List.mem_flatten.mp member with ⟨turn, turned, inTurn⟩
    rcases all turn turned with ⟨only, accepted, rfl⟩
    rw [List.mem_singleton.mp inTurn]
    exact accepted
  · rintro ⟨nonempty, all⟩
    cases word with
    | nil => exact absurd rfl nonempty
    | cons first rest =>
        rcases List.forall_mem_cons.mp all with ⟨found, later⟩
        refine ⟨[first], ⟨first, found, rfl⟩, rest, ?_, rfl⟩
        rw [Language.mem_kstar]
        refine ⟨rest.map fun char => [char], ?_, ?_⟩
        · exact (List.flatMap_singleton' rest).symm
        · intro turn member
          rcases List.mem_map.mp member with ⟨char, inRest, rfl⟩
          exact ⟨char, later char inRest, rfl⟩

theorem intercalate_eq_flatten {separator : Char} {first : List Char} {later : List (List Char)} :
    [separator].intercalate (first :: later) =
      first ++ (later.map fun word => separator :: word).flatten := by
  induction later generalizing first with
  | nil => rw [List.intercalate_singleton, List.map_nil, List.flatten_nil, List.append_nil]
  | cons second later ih =>
      rw [List.intercalate_cons_cons, ih, List.map_cons, List.flatten_cons]
      simp only [List.append_assoc, List.cons_append, List.nil_append]

theorem mem_reads_turn {separator : Char} {body : Pattern} {turn : List Char} :
    turn ∈ (seq (char separator) body).reads ↔ ∃ word ∈ body.reads, turn = separator :: word := by
  change turn ∈ (char separator).reads * body.reads ↔ _
  rw [Language.mem_mul]
  constructor
  · rintro ⟨_, one, word, read, rfl⟩
    refine ⟨word, read, ?_⟩
    rw [mem_reads_char.mp one]
    rfl
  · rintro ⟨word, read, rfl⟩
    exact ⟨[separator], mem_reads_char.mpr rfl, word, read, rfl⟩

theorem exists_words {separator : Char} {body : Pattern} {turns : List (List Char)}
    (read : ∀ turn ∈ turns, turn ∈ (seq (char separator) body).reads) :
    ∃ words : List (List Char), (∀ word ∈ words, word ∈ body.reads) ∧
      turns = words.map fun word => separator :: word := by
  induction turns with
  | nil => exact ⟨[], List.forall_mem_nil _, rfl⟩
  | cons turn turns ih =>
      rcases List.forall_mem_cons.mp read with ⟨here, later⟩
      rcases mem_reads_turn.mp here with ⟨word, wordRead, rfl⟩
      rcases ih later with ⟨words, wordsRead, rfl⟩
      exact ⟨word :: words, List.forall_mem_cons.mpr ⟨wordRead, wordsRead⟩, rfl⟩

/-- A body, and any number of bodies after a separator each, read the joins of the words of
the body. -/
theorem mem_reads_separated {separator : Char} {body : Pattern} {text : List Char} :
    text ∈ (seq body (.star (.seq (char separator) body))).reads ↔
      ∃ words, words ≠ [] ∧ (∀ word ∈ words, word ∈ body.reads) ∧
        [separator].intercalate words = text := by
  change text ∈ body.reads * (seq (char separator) body).reads∗ ↔ _
  rw [Language.mem_mul]
  constructor
  · rintro ⟨first, read, _, many, rfl⟩
    rcases Language.mem_kstar.mp many with ⟨turns, rfl, all⟩
    rcases exists_words all with ⟨words, wordsRead, rfl⟩
    exact ⟨first :: words, List.cons_ne_nil _ _, List.forall_mem_cons.mpr ⟨read, wordsRead⟩,
      intercalate_eq_flatten⟩
  · rintro ⟨words, nonempty, read, rfl⟩
    cases words with
    | nil => exact absurd rfl nonempty
    | cons first later =>
        rcases List.forall_mem_cons.mp read with ⟨firstRead, laterRead⟩
        refine ⟨first, firstRead, _, Language.join_mem_kstar ?_, intercalate_eq_flatten.symm⟩
        intro turn member
        rcases List.mem_map.mp member with ⟨word, wordMem, rfl⟩
        exact mem_reads_turn.mpr ⟨word, laterRead word wordMem, rfl⟩

end Pattern

end ChTech.Foundation
