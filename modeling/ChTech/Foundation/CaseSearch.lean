import ChTech.Foundation.Casing
import Mathlib.Data.List.Forall2
import Mathlib.Data.List.Infix

/-!
# Searching in lower case

A text may be searched for a block of characters that a server takes for those of a term, or its
lower case for the lower case of the term.  The two agree on every text exactly when they agree
about every character that may stand in a place of the term.
-/

namespace ChTech.Foundation.CaseDatabase

/-- What the database says of all characters: no lower case is empty, and a character and its
lower case are the same to the sigma rule. -/
structure Standard (database : CaseDatabase) : Prop where
  nonempty : ∀ char, database.lowerFull char ≠ []
  meetsAfter : ∀ char rest,
    database.meetsCased (database.lowerFull char ++ rest) = database.meetsCased (char :: rest)
  meetsBefore : ∀ char rest, database.meetsCased ((database.lowerFull char).reverse ++ rest) =
    database.meetsCased (char :: rest)
  sigmas : ∀ char ∈ ['Σ', 'σ', 'ς'],
    database.isCased char = true ∧ database.isCaseIgnorable char = false

/-- The lower case of a character between two texts; `before` is read backwards. -/
def lowerChar (database : CaseDatabase) (before : List Char) (char : Char) (after : List Char) :
    List Char :=
  if char = 'Σ' then [database.handleCapitalSigma before after] else database.lowerFull char

/-- The lower case of a text between two texts. -/
def lowerIn (database : CaseDatabase) (before : List Char) : List Char → List Char → List Char
  | [], _ => []
  | char :: rest, after =>
      database.lowerChar before char (rest ++ after) ++ database.lowerIn (char :: before) rest after

/-- Where the rest of the term stands around it, the character is lowered to this block of the
term; there may be more before the first block and after the last one. -/
def Shows (database : CaseDatabase) (front block back : List Char) (char : Char)
    (before after : List Char) : Prop :=
  ∃ left right, database.lowerChar (front.reverse ++ before) char (back ++ after) =
      left ++ block ++ right ∧ (left = [] ∨ front = []) ∧ (right = [] ∨ back = [])

/-- In each place of the term, the characters that the server takes for the term's are exactly
those that are lowered to it, and none is lowered to a longer block of the term. -/
structure Literal (database : CaseDatabase) (same : Char → Char → Prop) (term : List Char) :
    Prop where
  shown : ∀ front block back char before after, term = front ++ block ++ back → block ≠ [] →
    database.Shows front block back char before after →
      ∃ lowered, block = [lowered] ∧ same lowered char
  shows : ∀ front lowered back char before after, term = front ++ lowered :: back →
    same lowered char → database.Shows front [lowered] back char before after

/-- The text has a block of characters that are taken for those of the term. -/
def Found (same : Char → Char → Prop) (term text : List Char) : Prop :=
  ∃ block, block <:+: text ∧ List.Forall₂ same term block

variable {database : CaseDatabase}

theorem meetsCased_cons (char : Char) (rest : List Char) :
    database.meetsCased (char :: rest) =
      if database.isCaseIgnorable char then database.meetsCased rest
      else database.isCased char := by
  simp only [meetsCased, List.dropWhile_cons]
  split <;> simp

theorem meetsCased_congr {first second : List Char} (text : List Char)
    (same : database.meetsCased first = database.meetsCased second) :
    database.meetsCased (text ++ first) = database.meetsCased (text ++ second) := by
  induction text with
  | nil => exact same
  | cons char rest ih =>
      rw [List.cons_append, List.cons_append, meetsCased_cons, meetsCased_cons, ih]

theorem lowerChar_congr {before before' after after' : List Char} (char : Char)
    (left : database.meetsCased before = database.meetsCased before')
    (right : database.meetsCased after = database.meetsCased after') :
    database.lowerChar before char after = database.lowerChar before' char after' := by
  simp only [lowerChar, handleCapitalSigma, left, right]

theorem lowerChar_of_ne {char : Char} (other : char ≠ 'Σ') (before after : List Char) :
    database.lowerChar before char after = database.lowerFull char :=
  if_neg other

theorem handleCapitalSigma_mem (before after : List Char) :
    database.handleCapitalSigma before after ∈ ['Σ', 'σ', 'ς'] := by
  simp only [handleCapitalSigma]
  split <;> decide

theorem lowerFrom_cons (before : List Char) (char : Char) (after : List Char) :
    database.lowerFrom before (char :: after) =
      database.lowerChar before char after ++ database.lowerFrom (char :: before) after := rfl

theorem lowerFrom_append (before text after : List Char) :
    database.lowerFrom before (text ++ after) =
      database.lowerIn before text after ++ database.lowerFrom (text.reverse ++ before) after := by
  induction text generalizing before with
  | nil => rfl
  | cons char rest ih =>
      rw [List.cons_append, lowerFrom_cons, ih, lowerIn, List.append_assoc, List.reverse_cons,
        List.append_assoc]
      rfl

/-- A lowered text is the same in any context. -/
theorem lowerIn_eq_self {before text after : List Char}
    (lowered : ∀ char ∈ text, database.lowerFull char = [char]) :
    database.lowerIn before text after = text := by
  induction text generalizing before with
  | nil => rfl
  | cons char rest ih =>
      rcases List.forall_mem_cons.mp lowered with ⟨here, later⟩
      rw [lowerIn, ih later, lowerChar_of_ne, here]
      · rfl
      · intro sigma
        rw [sigma, database.sigma] at here
        revert here
        decide

/-- Around a lowered term only one character is to be lowered. -/
theorem lowerFrom_around {front back : List Char} (char : Char)
    (frontLowered : ∀ char ∈ front, database.lowerFull char = [char])
    (backLowered : ∀ char ∈ back, database.lowerFull char = [char]) :
    database.lowerFrom [] (front ++ char :: back) =
      front ++ database.lowerChar front.reverse char back ++ back := by
  rw [lowerFrom_append, lowerIn_eq_self frontLowered, lowerFrom_cons,
    lowerFrom_eq_self backLowered, List.append_nil, List.append_assoc]

namespace Standard

variable (standard : database.Standard)

include standard

theorem lowerChar_ne_nil (before : List Char) (char : Char) (after : List Char) :
    database.lowerChar before char after ≠ [] := by
  simp only [lowerChar]
  split
  · exact List.cons_ne_nil _ _
  · exact standard.nonempty char

theorem meetsCased_sigma {char : Char} (sigma : char ∈ ['Σ', 'σ', 'ς']) (rest : List Char) :
    database.meetsCased (char :: rest) = true := by
  rcases standard.sigmas char sigma with ⟨cased, seen⟩
  rw [meetsCased_cons, seen]
  exact cased

theorem meetsCased_lowerChar (before : List Char) (char : Char) (after rest : List Char) :
    database.meetsCased (database.lowerChar before char after ++ rest) =
      database.meetsCased (char :: rest) := by
  by_cases sigma : char = 'Σ'
  · rw [lowerChar, if_pos sigma, List.singleton_append,
      standard.meetsCased_sigma (handleCapitalSigma_mem before after), sigma,
      standard.meetsCased_sigma (by decide)]
  · rw [lowerChar_of_ne sigma, standard.meetsAfter]

theorem meetsCased_reverse_lowerChar (before : List Char) (char : Char)
    (after rest : List Char) :
    database.meetsCased ((database.lowerChar before char after).reverse ++ rest) =
      database.meetsCased (char :: rest) := by
  by_cases sigma : char = 'Σ'
  · rw [lowerChar, if_pos sigma, List.reverse_singleton, List.singleton_append,
      standard.meetsCased_sigma (handleCapitalSigma_mem before after), sigma,
      standard.meetsCased_sigma (by decide)]
  · rw [lowerChar_of_ne sigma, standard.meetsBefore]

/-- The sigma rule may as well look at the lower case of what follows. -/
theorem meetsCased_lowerFrom (before text : List Char) :
    database.meetsCased (database.lowerFrom before text) = database.meetsCased text := by
  induction text generalizing before with
  | nil => rfl
  | cons char rest ih =>
      rw [lowerFrom_cons, standard.meetsCased_lowerChar]
      exact meetsCased_congr [char] (ih (char :: before))

end Standard

/-! ## What is found is contained -/

section

variable {same : Char → Char → Prop} {term : List Char} (standard : database.Standard)
  (literal : database.Literal same term)

include standard literal

/-- To the sigma rule, a block that is taken for the end of the term is that end. -/
theorem meetsCased_block {front back text : List Char} (inside : front ≠ [])
    (split : term = front ++ back) (alike : List.Forall₂ same back text) (after : List Char) :
    ∃ outside, database.meetsCased (text ++ after) = database.meetsCased (back ++ outside) := by
  induction alike generalizing front with
  | nil => exact ⟨after, rfl⟩
  | @cons lowered char back text here alike ih =>
      rcases literal.shows front lowered back char [] [] split here with
        ⟨left, right, shown, leftmost, rightmost⟩
      have none : left = [] := leftmost.resolve_right inside
      subst none
      have seen := standard.meetsCased_lowerChar (front.reverse ++ []) char (back ++ [])
        (text ++ after)
      rw [shown] at seen
      rcases rightmost with none | last
      · subst none
        have further : front ++ [lowered] ≠ [] := by simp
        rcases ih further (by simpa using split) with
          ⟨outside, context⟩
        refine ⟨outside, seen.symm.trans ?_⟩
        exact meetsCased_congr [lowered] context
      · subst last
        cases alike
        refine ⟨right ++ after, seen.symm.trans ?_⟩
        simp

/-- A block that is taken for the end of the term is lowered to it. -/
theorem lowerIn_block {front back text before outside : List Char} (split : term = front ++ back)
    (alike : List.Forall₂ same back text) (after : List Char)
    (context : back ≠ [] →
      database.meetsCased before = database.meetsCased (front.reverse ++ outside)) :
    ∃ left right, database.lowerIn before text after = left ++ back ++ right ∧
      (left = [] ∨ front = []) := by
  induction alike generalizing front before outside with
  | nil => exact ⟨[], [], rfl, .inl rfl⟩
  | @cons lowered char back text here alike ih =>
      have further : term = (front ++ [lowered]) ++ back := by simpa using split
      rcases meetsCased_block standard literal (by simp) further alike after with
        ⟨behind, follows⟩
      rcases literal.shows front lowered back char outside behind split here with
        ⟨left, right, shown, leftmost, rightmost⟩
      rw [lowerChar_congr char (context (List.cons_ne_nil _ _)).symm follows.symm] at shown
      have seen := standard.meetsCased_reverse_lowerChar before char (text ++ after) before
      rw [shown] at seen
      have leads : back ≠ [] → ∃ outside', database.meetsCased (char :: before) =
          database.meetsCased ((front ++ [lowered]).reverse ++ outside') := by
        intro more
        have none : right = [] := rightmost.resolve_right more
        subst none
        rcases leftmost with none | first
        · subst none
          refine ⟨outside, seen.symm.trans ?_⟩
          simpa using meetsCased_congr [lowered] (context (List.cons_ne_nil _ _))
        · subst first
          refine ⟨left.reverse ++ before, seen.symm.trans ?_⟩
          simp
      rw [lowerIn, shown]
      by_cases last : back = []
      · subst last
        cases alike
        exact ⟨left, right, by simp [lowerIn], leftmost⟩
      · rcases leads last with ⟨outside', context'⟩
        rcases ih further (fun _ => context') with ⟨left', right', lowers, leftmost'⟩
        have none : right = [] := rightmost.resolve_right last
        have none' : left' = [] := leftmost'.resolve_right (by simp)
        subst none none'
        exact ⟨left, right', by simp [lowers], leftmost⟩

/-- What is found in a text is contained in its lower case. -/
theorem infix_of_found {text : List Char} (found : Found same term text) :
    term <:+: database.lowerFrom [] text := by
  rcases found with ⟨block, ⟨before, after, split⟩, alike⟩
  have context : database.meetsCased before.reverse =
      database.meetsCased ([].reverse ++ before.reverse) := rfl
  rcases lowerIn_block standard literal (List.nil_append term).symm alike after
    (fun _ => context) with ⟨left, right, lowers, _⟩
  rw [← split, List.append_assoc, lowerFrom_append, lowerFrom_append, List.append_nil]
  refine ⟨database.lowerIn [] before (block ++ after) ++ left,
    right ++ database.lowerFrom (block.reverse ++ before.reverse) after, ?_⟩
  rw [lowers]
  simp only [List.append_assoc]

end

/-- Character by character, a block stands for the rest of a term. -/
inductive Along (stands : List Char → Char → List Char → Char → Prop) :
    List Char → List Char → List Char → Prop
  | nil (front : List Char) : Along stands front [] []
  | cons {front back text : List Char} {lowered char : Char}
      (here : stands front lowered back char)
      (later : Along stands (front ++ [lowered]) back text) :
      Along stands front (lowered :: back) (char :: text)

namespace Along

variable {stands : List Char → Char → List Char → Char → Prop} {front back text : List Char}

theorem forall₂ (same : Char → Char → Prop) {term : List Char}
    (taken : ∀ front lowered back char, term = front ++ lowered :: back →
      stands front lowered back char → same lowered char)
    (along : Along stands front back text) (split : term = front ++ back) :
    List.Forall₂ same back text := by
  induction along with
  | nil => exact .nil
  | cons here later ih =>
      exact .cons (taken _ _ _ _ split here) (ih (by simpa using split))

theorem at_split {lowered char : Char} {first back rest : List Char}
    (along : Along stands front (first ++ lowered :: back) (text ++ char :: rest))
    (aligned : first.length = text.length) : stands (front ++ first) lowered back char := by
  induction first generalizing front text with
  | nil =>
      cases List.eq_nil_of_length_eq_zero aligned.symm
      cases along with
      | cons here later => simpa using here
  | cons other first ih =>
      cases text with
      | nil => cases aligned
      | cons head text =>
          cases along with
          | cons here later => simpa using ih later (Nat.succ.inj aligned)

end Along

section

variable {term : List Char} (standard : database.Standard)
  (single : ∀ front block back char before after, term = front ++ block ++ back → block ≠ [] →
    database.Shows front block back char before after → ∃ lowered, block = [lowered])

include standard single

/-- From the edge of a character on, the rest of the term is shown character by character. -/
theorem along_of_lowerFrom {front back before outside text rest : List Char}
    (split : term = front ++ back)
    (context : database.meetsCased before = database.meetsCased (front.reverse ++ outside))
    (lowers : database.lowerFrom before text = back ++ rest) :
    ∃ block others, text = block ++ others ∧
      Along (fun front lowered back char => ∃ before after,
        database.Shows front [lowered] back char before after) front back block := by
  induction back generalizing front before outside text with
  | nil => exact ⟨[], text, rfl, .nil front⟩
  | cons lowered back ih =>
      cases text with
      | nil => cases lowers
      | cons char text =>
          rw [lowerFrom_cons] at lowers
          have filled := standard.lowerChar_ne_nil before char text
          have seen := standard.meetsCased_reverse_lowerChar before char text before
          rcases List.append_eq_append_iff.mp lowers with ⟨rest', split', remains⟩ |
            ⟨right, shown, _⟩
          · -- The character ends inside the term.
            have follows : database.meetsCased text = database.meetsCased (rest' ++ rest) := by
              rw [← standard.meetsCased_lowerFrom (char :: before) text, remains]
            have shows : database.Shows front (database.lowerChar before char text) rest' char
                outside rest :=
              ⟨[], [], by simpa using lowerChar_congr char context.symm follows.symm, .inl rfl,
                .inl rfl⟩
            rcases single front _ rest' char outside rest (by rw [split, split']; simp) filled
              shows with ⟨only, one⟩
            rw [one] at split' shows seen
            cases split'
            have further : term = (front ++ [lowered]) ++ rest' := by simpa using split
            have context' : database.meetsCased (char :: before) =
                database.meetsCased ((front ++ [lowered]).reverse ++ outside) :=
              seen.symm.trans (by simpa using meetsCased_congr [lowered] context)
            rcases ih further context' remains with
              ⟨block, others, same, along⟩
            exact ⟨char :: block, others, by rw [same]; rfl, .cons ⟨outside, rest, shows⟩ along⟩
          · -- The character goes on after the term.
            have shows : database.Shows front (lowered :: back) [] char outside text := by
              refine ⟨[], right, ?_, .inl rfl, .inr rfl⟩
              rw [List.nil_append, lowerChar_congr char context.symm rfl, shown]
              rfl
            rcases single front _ [] char outside text (by simpa using split)
              (List.cons_ne_nil _ _) shows with ⟨only, one⟩
            cases one
            exact ⟨[char], text, rfl, .cons ⟨outside, text, shows⟩ (.nil _)⟩

/-- A term that is contained in the lower case of a text is shown by a block of the text. -/
theorem covered {before text left right : List Char} (some : term ≠ [])
    (lowers : database.lowerFrom before text = left ++ (term ++ right)) :
    ∃ first block others, text = first ++ (block ++ others) ∧
      Along (fun front lowered back char => ∃ before after,
        database.Shows front [lowered] back char before after) [] term block := by
  induction text generalizing before left with
  | nil =>
      have empty := congrArg List.length lowers
      simp only [lowerFrom, List.length_nil, List.length_append] at empty
      exact absurd (List.eq_nil_of_length_eq_zero (by omega)) some
  | cons char text ih =>
      rw [lowerFrom_cons] at lowers
      have seen := standard.meetsCased_reverse_lowerChar before char text before
      rcases List.append_eq_append_iff.mp lowers with ⟨left', _, remains⟩ | ⟨piece, shown, remains⟩
      · rcases ih remains with ⟨first, block, others, same, along⟩
        exact ⟨char :: first, block, others, by rw [same]; rfl, along⟩
      · by_cases edge : piece = []
        · subst edge
          have context : database.meetsCased (char :: before) =
              database.meetsCased ([].reverse ++ char :: before) := rfl
          rcases along_of_lowerFrom standard single (List.nil_append term).symm context
            (by simpa using remains.symm) with
            ⟨block, others, same, along⟩
          exact ⟨[char], block, others, by rw [same]; rfl, along⟩
        · rcases List.append_eq_append_iff.mp remains with ⟨more, inside, _⟩ | ⟨back, split, beyond⟩
          · -- The whole term stands inside one character.
            have shows : database.Shows [] term [] char before text :=
              ⟨left, more, by rw [List.append_assoc, ← inside, ← shown]; rfl, .inr rfl, .inr rfl⟩
            rcases single [] term [] char before text (by simp) some shows with ⟨only, one⟩
            subst one
            exact ⟨[], [char], text, rfl, .cons ⟨before, text, shows⟩ (.nil _)⟩
          · have follows : database.meetsCased text = database.meetsCased (back ++ right) := by
              rw [← standard.meetsCased_lowerFrom (char :: before) text, beyond]
            have shows : database.Shows [] piece back char before right := by
              refine ⟨left, [], ?_, .inr rfl, .inl rfl⟩
              rw [List.append_nil, ← shown]
              exact lowerChar_congr char rfl follows.symm
            rcases single [] piece back char before right (by simpa using split) edge shows with
              ⟨lowered, one⟩
            subst one
            rw [shown] at seen
            have context : database.meetsCased (char :: before) =
                database.meetsCased ([lowered].reverse ++ (left.reverse ++ before)) :=
              seen.symm.trans (by simp)
            rcases along_of_lowerFrom standard single split context beyond with
              ⟨block, others, same, along⟩
            rw [split]
            exact ⟨[], char :: block, others, by rw [same]; rfl,
              .cons ⟨before, right, shows⟩ along⟩

end

/-- A literal term that is contained in the lower case of a text is found in the text. -/
theorem found_of_contained {same : Char → Char → Prop} {term text : List Char}
    (standard : database.Standard) (literal : database.Literal same term)
    (contained : term <:+: database.lowerFrom [] text) : Found same term text := by
  by_cases empty : term = []
  · exact ⟨[], List.nil_infix, by rw [empty]; exact .nil⟩
  · rcases contained with ⟨left, right, place⟩
    have single : ∀ front block back char before after, term = front ++ block ++ back →
        block ≠ [] → database.Shows front block back char before after →
          ∃ lowered, block = [lowered] := by
      intro front block back char before after split some shows
      rcases literal.shown front block back char before after split some shows with
        ⟨only, one, _⟩
      exact ⟨only, one⟩
    rcases covered standard single empty (by rw [← place, List.append_assoc]) with
      ⟨first, block, others, inside, along⟩
    have alike := along.forall₂ same (by
      rintro front lowered back char split ⟨before, after, shows⟩
      rcases literal.shown front [lowered] back char before after (by simpa using split)
        (List.cons_ne_nil _ _) shows with ⟨only, one, taken⟩
      cases one
      exact taken) (List.nil_append _).symm
    exact ⟨block, ⟨first, others, by rw [inside, List.append_assoc]⟩, alike⟩

/-! ## What the agreement needs -/

theorem eq_of_cons_eq_concat {α : Type} {first last : α} {text : List α}
    (same : first :: text = text ++ [last]) : first = last := by
  induction text with
  | nil => exact (List.cons.inj same).1
  | cons head text ih =>
      rcases List.cons.inj same with ⟨equal, same⟩
      subst equal
      exact ih same

theorem forall₂_at {α β : Type} {rel : α → β → Prop} {front back : List α} {front' back' : List β}
    {first : α} {second : β}
    (related : List.Forall₂ rel (front ++ first :: back) (front' ++ second :: back'))
    (aligned : front.length = front'.length) : rel first second := by
  have tails := List.forall₂_drop front.length related
  rw [List.drop_left, aligned, List.drop_left] at tails
  cases tails with
  | cons here _ => exact here

section

variable {rel : Char → Char → Prop} {front back block : List Char} {char lowered filler : Char}
  (fixed : ∀ other other', rel other other' → other ∈ front ∨ other ∈ back ∨ other = filler →
    other = other')
  (related : List.Forall₂ rel block (front ++ lowered :: back))

include fixed in
theorem eq_of_related {text text' : List Char} (related : List.Forall₂ rel text text')
    (known : ∀ other ∈ text, other ∈ front ∨ other ∈ back ∨ other = filler) : text = text' := by
  induction related with
  | nil => rfl
  | cons here _ ih =>
      rcases List.forall_mem_cons.mp known with ⟨head, tail⟩
      rw [fixed _ _ here head, ih tail]

include fixed related

/-- Where the block begins before the term, the term's beginning is the filler. -/
theorem eq_filler_of_front {right others : List Char}
    (split : filler :: ((front ++ char :: back) ++ right) = block ++ others) :
    lowered = filler := by
  have long := related.length_eq
  simp only [List.length_append, List.length_cons] at long
  have whole : filler :: front <+: block ++ others := by
    rw [← split]
    exact ⟨char :: back ++ right, by simp⟩
  have begins : filler :: front <+: block :=
    List.prefix_of_prefix_length_le whole (List.prefix_append block others)
      (by simp only [List.length_cons]; omega)
  rcases begins with ⟨rest, rfl⟩
  have heads : List.Forall₂ rel (filler :: front) (front ++ [lowered]) := by
    have taken := List.forall₂_take_append _ (front ++ [lowered]) back (by simpa using related)
    simpa using taken
  have same := eq_of_related fixed heads (by
    intro other member
    rcases List.mem_cons.mp member with here | there
    · exact .inr (.inr here)
    · exact .inl there)
  exact (eq_of_cons_eq_concat same).symm

/-- Where the block ends after the term, the term's end is the filler. -/
theorem eq_filler_of_back {left first : List Char}
    (split : left ++ ((front ++ char :: back) ++ [filler]) = first ++ block) :
    lowered = filler := by
  have long := related.length_eq
  simp only [List.length_append, List.length_cons] at long
  have whole : back ++ [filler] <:+ first ++ block := by
    rw [← split]
    exact ⟨left ++ (front ++ [char]), by simp⟩
  have ends : back ++ [filler] <:+ block :=
    List.suffix_of_suffix_length_le whole (List.suffix_append first block)
      (by simp only [List.length_append, List.length_cons, List.length_nil]; omega)
  rcases ends with ⟨rest, rfl⟩
  have aligns : rest.length = front.length := by
    simp only [List.length_append, List.length_cons, List.length_nil] at long
    omega
  have tails : List.Forall₂ rel (back ++ [filler]) (lowered :: back) := by
    have dropped := List.forall₂_drop_append _ front (lowered :: back) related
    rwa [← aligns, List.drop_left] at dropped
  have same := eq_of_related fixed tails (by
    intro other member
    rcases List.mem_append.mp member with there | here
    · exact .inr (.inl there)
    · exact .inr (.inr (List.mem_singleton.mp here)))
  exact eq_of_cons_eq_concat same.symm

/-- A block as long as the term that is related to it stands where the term does: a context of one
character that is not the term's cannot shift it. -/
theorem aligned {left right first others : List Char} (leftFill : left = [] ∨ left = [filler])
    (rightFill : right = [] ∨ right = [filler])
    (split : left ++ ((front ++ char :: back) ++ right) = first ++ (block ++ others))
    (apart : lowered ≠ filler) : block = front ++ char :: back := by
  have long := related.length_eq
  have lengths := congrArg List.length split
  simp only [List.length_append, List.length_cons] at long lengths
  rcases Nat.lt_trichotomy first.length left.length with short | same | long'
  · rcases leftFill with none | some
    · rw [none] at short
      cases short
    · subst some
      have none : first = [] := List.eq_nil_of_length_eq_zero (by simpa using short)
      rw [none] at split
      exact absurd (eq_filler_of_front fixed related split) apart
  · have remains := (List.append_inj split same.symm).2
    have long : (front ++ char :: back).length = block.length := by
      simp only [List.length_append, List.length_cons]
      omega
    exact (List.append_inj remains long).1.symm
  · rcases rightFill with none | some
    · rw [none, List.length_nil] at lengths
      omega
    · subst some
      have none : others = [] := by
        simp only [List.length_cons, List.length_nil] at lengths
        exact List.eq_nil_of_length_eq_zero (by omega)
      rw [none, List.append_nil] at split
      exact absurd (eq_filler_of_back fixed related split) apart

end

theorem lowerFull_letter : database.lowerFull 'a' = ['a'] := by
  have capital := database.capital 'A' (by decide)
  have lowered := database.stable 'A' 'a' (by rw [capital]; decide)
  exact lowered

theorem meetsCased_letter : database.meetsCased ['a'] = true := by
  rcases database.letter 'a' (by decide) with ⟨cased, seen⟩
  rw [meetsCased_cons, seen]
  exact cased

/-- To the sigma rule a text is nothing or a letter. -/
theorem exists_filler (database : CaseDatabase) (text : List Char) :
    ∃ filler : List Char, (filler = [] ∨ filler = ['a']) ∧
      database.meetsCased filler = database.meetsCased text := by
  cases met : database.meetsCased text with
  | true => exact ⟨['a'], .inr rfl, meetsCased_letter⟩
  | false => exact ⟨[], .inl rfl, rfl⟩

/-- A text of lowered characters and capital sigmas has a lower case of its length. -/
theorem forall₂_lowerFrom (before : List Char) {text : List Char}
    (lowered : ∀ char ∈ text, char = 'Σ' ∨ database.lowerFull char = [char]) :
    List.Forall₂ (fun char char' => char = 'Σ' ∨ char = char') text
      (database.lowerFrom before text) := by
  induction text generalizing before with
  | nil => exact .nil
  | cons char rest ih =>
      rcases List.forall_mem_cons.mp lowered with ⟨here, later⟩
      rw [lowerFrom_cons]
      by_cases sigma : char = 'Σ'
      · rw [lowerChar, if_pos sigma]
        exact .cons (.inl sigma) (ih _ later)
      · rw [lowerChar_of_ne sigma, here.resolve_left sigma]
        exact .cons (.inr rfl) (ih _ later)

theorem sigma_ne_letter {before after : List Char} :
    database.handleCapitalSigma before after ≠ 'a' := by
  simp only [handleCapitalSigma]
  split <;> decide

section

variable {same : Char → Char → Prop} {term : List Char} (equivalence : Equivalence same)
  (stable : ∀ char ∈ term, database.lowerFull char = [char])
  (agree : ∀ text, Found same term text ↔ term <:+: database.lowerFrom [] text)

include stable agree

omit agree in
theorem stable_around {front block back : List Char} (split : term = front ++ block ++ back) :
    (∀ char ∈ front, database.lowerFull char = [char]) ∧
      ∀ char ∈ back, database.lowerFull char = [char] := by
  refine ⟨fun char member => stable char ?_, fun char member => stable char ?_⟩
  · rw [split]
    exact List.mem_append_left _ (List.mem_append_left _ member)
  · rw [split]
    exact List.mem_append_right _ member

/-- A character other than a sigma that shows a block of the term is taken for it. -/
theorem taken_of_shows {front block back before after : List Char} {char : Char}
    (other : char ≠ 'Σ') (split : term = front ++ block ++ back) (some : block ≠ [])
    (shows : database.Shows front block back char before after) :
    ∃ lowered, block = [lowered] ∧ same lowered char := by
  rcases stable_around stable split with ⟨frontStable, backStable⟩
  rcases shows with ⟨left, right, shown, leftmost, rightmost⟩
  rw [lowerChar_of_ne other] at shown
  have contained : term <:+: database.lowerFrom [] (front ++ char :: back) := by
    rw [lowerFrom_around char frontStable backStable, lowerChar_of_ne other, shown, split]
    rcases leftmost with none | none <;> rcases rightmost with none' | none' <;>
      subst none none'
    · exact ⟨[], [], by simp⟩
    · exact ⟨[], right, by simp⟩
    · exact ⟨left, [], by simp⟩
    · exact ⟨left, right, by simp⟩
  rcases (agree _).mpr contained with ⟨taken, inside, alike⟩
  have long := alike.length_eq
  have size := List.length_pos_of_ne_nil some
  rw [split] at long alike
  have whole : taken = front ++ char :: back := inside.eq_of_length_le (by
    simp only [List.length_append, List.length_cons] at long ⊢
    omega)
  subst whole
  cases block with
  | nil => exact absurd rfl some
  | cons only others =>
      cases others with
      | nil => exact ⟨only, rfl, forall₂_at (by simpa using alike) rfl⟩
      | cons second others =>
          simp only [List.length_append, List.length_cons] at long
          omega

omit agree in
/-- A text in which a sigma stands in a place of the term, with the context that the sigma rule
sees there, is lowered to the term with the sigma's lower case in that place. -/
theorem exists_sigma_text {front block back : List Char} (split : term = front ++ block ++ back)
    (before after : List Char) :
    ∃ left right : List Char, (left = [] ∨ left = ['a']) ∧ (right = [] ∨ right = ['a']) ∧
      database.lowerFrom [] (left ++ ((front ++ 'Σ' :: back) ++ right)) =
        left ++ ((front ++ database.handleCapitalSigma (front.reverse ++ before) (back ++ after) ::
          back) ++ right) := by
  rcases stable_around stable split with ⟨frontStable, backStable⟩
  rcases exists_filler database before with ⟨left, leftFill, leftMeets⟩
  rcases exists_filler database after with ⟨right, rightFill, rightMeets⟩
  have fillStable : ∀ filler : List Char, filler = [] ∨ filler = ['a'] →
      filler.reverse = filler ∧ ∀ char ∈ filler, database.lowerFull char = [char] := by
    rintro filler (none | letter)
    · subst none
      exact ⟨rfl, fun char member => absurd member List.not_mem_nil⟩
    · subst letter
      refine ⟨rfl, fun char member => ?_⟩
      rw [List.mem_singleton.mp member]
      exact lowerFull_letter
  rcases fillStable left leftFill with ⟨palindrome, leftStable⟩
  have context := lowerChar_congr 'Σ' (meetsCased_congr front.reverse leftMeets)
    (meetsCased_congr back rightMeets)
  have frontFilled : ∀ char ∈ left ++ front, database.lowerFull char = [char] :=
    fun char member => (List.mem_append.mp member).elim (leftStable char) (frontStable char)
  have backFilled : ∀ char ∈ back ++ right, database.lowerFull char = [char] :=
    fun char member =>
      (List.mem_append.mp member).elim (backStable char) ((fillStable right rightFill).2 char)
  have around := lowerFrom_around 'Σ' frontFilled backFilled
  rw [List.reverse_append, palindrome, context] at around
  refine ⟨left, right, leftFill, rightFill, ?_⟩
  simpa [lowerChar] using around

/-- So is a capital sigma, however it is lowered. -/
theorem sigma_taken_of_shows {front back before after : List Char} {lowered : Char}
    (split : term = front ++ lowered :: back)
    (shown : database.handleCapitalSigma (front.reverse ++ before) (back ++ after) = lowered) :
    same lowered 'Σ' := by
  have split' : term = front ++ [lowered] ++ back := by simpa using split
  rcases stable_around stable split' with ⟨frontStable, backStable⟩
  rcases exists_sigma_text stable split' before after with
    ⟨left, right, leftFill, rightFill, lowers⟩
  rw [shown, ← split] at lowers
  rcases (agree _).mpr ⟨left, right, by rw [lowers, List.append_assoc]⟩ with
    ⟨block, ⟨first, others, place⟩, alike⟩
  rw [List.append_assoc] at place
  have notSigma : ∀ other, database.lowerFull other = [other] → other ≠ 'Σ' := by
    intro other stable sigma
    rw [sigma, database.sigma] at stable
    revert stable
    decide
  have letters : ∀ char ∈ block, char = 'Σ' ∨ database.lowerFull char = [char] := by
    intro char member
    have inside : char ∈ left ++ ((front ++ 'Σ' :: back) ++ right) := by
      rw [← place]
      exact List.mem_append_right _ (List.mem_append_left _ member)
    have filled : ∀ filler : List Char, filler = [] ∨ filler = ['a'] → char ∈ filler →
        char = 'a' := by
      rintro filler (none | letter) member
      · rw [none] at member
        exact absurd member List.not_mem_nil
      · rw [letter] at member
        exact List.mem_singleton.mp member
    simp only [List.mem_append, List.mem_cons] at inside
    rcases inside with here | (here | here | here) | here
    · exact .inr ((filled left leftFill here).symm ▸ lowerFull_letter)
    · exact .inr (frontStable char here)
    · exact .inl here
    · exact .inr (backStable char here)
    · exact .inr ((filled right rightFill here).symm ▸ lowerFull_letter)
  have related := forall₂_lowerFrom [] letters
  have contained := (agree block).mp ⟨block, List.infix_rfl, alike⟩
  have whole : term = database.lowerFrom [] block :=
    contained.eq_of_length (by rw [alike.length_eq, related.length_eq])
  rw [← whole, split] at related
  have fixed : ∀ other other', (other = 'Σ' ∨ other = other') →
      other ∈ front ∨ other ∈ back ∨ other = 'a' → other = other' := by
    rintro other other' (sigma | equal) known
    · refine absurd sigma ?_
      rcases known with here | here | here
      · exact notSigma other (frontStable other here)
      · exact notSigma other (backStable other here)
      · rw [here]
        decide
    · exact equal
  have apart : lowered ≠ 'a' := by
    rw [← shown]
    exact sigma_ne_letter
  have same' := aligned fixed related leftFill rightFill place.symm apart
  rw [split, same'] at alike
  exact forall₂_at alike rfl

omit stable in
include equivalence in
/-- A character that is taken for the term's may stand in its place. -/
theorem contained_of_taken (left right : List Char) {front back : List Char} {char lowered : Char}
    (split : term = front ++ lowered :: back) (taken : same lowered char) :
    term <:+: database.lowerFrom [] (left ++ ((front ++ char :: back) ++ right)) := by
  refine (agree _).mp ⟨front ++ char :: back, ⟨left, right, by rw [List.append_assoc]⟩, ?_⟩
  rw [split]
  exact List.rel_append (List.forall₂_same.mpr fun _ _ => equivalence.refl _)
    (.cons taken (List.forall₂_same.mpr fun _ _ => equivalence.refl _))

/-- Whatever shows a block of the term is taken for it. -/
theorem single_of_shows {front block back before after : List Char} {char : Char}
    (split : term = front ++ block ++ back) (some : block ≠ [])
    (shows : database.Shows front block back char before after) :
    ∃ lowered, block = [lowered] ∧ same lowered char := by
  by_cases sigma : char = 'Σ'
  · subst sigma
    rcases shows with ⟨left, right, shown, _, _⟩
    rw [lowerChar, if_pos rfl, List.append_assoc] at shown
    cases block with
    | nil => exact absurd rfl some
    | cons lowered others =>
        have long := congrArg List.length shown
        simp only [List.length_append, List.length_cons, List.length_nil] at long
        have none : left = [] ∧ others = [] :=
          ⟨List.eq_nil_of_length_eq_zero (by omega), List.eq_nil_of_length_eq_zero (by omega)⟩
        rw [none.1, none.2] at shown
        rw [none.2] at split ⊢
        exact ⟨lowered, rfl, sigma_taken_of_shows stable agree (by simpa using split)
          (List.cons.inj shown).1⟩
  · exact taken_of_shows stable agree sigma split some shows

include equivalence in
/-- A capital sigma is lowered to what it is taken for, in every context. -/
theorem shows_sigma_of_taken {front back before after : List Char} {lowered : Char}
    (split : term = front ++ lowered :: back) (taken : same lowered 'Σ') :
    database.Shows front [lowered] back 'Σ' before after := by
  have split' : term = front ++ [lowered] ++ back := by simpa using split
  -- In no context first: the lower case is a sigma, and so is the character of the term.
  have alone := contained_of_taken equivalence agree [] [] split taken
  rcases stable_around stable split' with ⟨frontStable, backStable⟩
  rw [List.nil_append, List.append_nil, lowerFrom_around 'Σ' frontStable backStable, lowerChar,
    if_pos rfl] at alone
  have whole := alone.eq_of_length (by rw [split]; simp)
  rw [split, List.append_assoc] at whole
  have apart : lowered ≠ 'a' := by
    rw [(List.cons.inj (List.append_inj_right whole rfl)).1]
    exact sigma_ne_letter
  rcases exists_sigma_text stable split' before after with
    ⟨left, right, leftFill, rightFill, lowers⟩
  have contained := contained_of_taken equivalence agree left right split taken
  rw [lowers] at contained
  rcases contained with ⟨first, others, place⟩
  rw [List.append_assoc] at place
  have itself : List.Forall₂ Eq term (front ++ lowered :: back) := by
    rw [split]
    exact List.forall₂_same.mpr fun _ _ => rfl
  have same' := aligned (fun _ _ equal _ => equal) itself leftFill rightFill place.symm apart
  rw [split] at same'
  refine ⟨[], [], ?_, .inl rfl, .inl rfl⟩
  rw [lowerChar, if_pos rfl, (List.cons.inj (List.append_inj_right same' rfl)).1]
  rfl

include equivalence in
/-- What is taken for a character of the term shows it. -/
theorem shows_of_taken (standard : database.Standard) {front back before after : List Char}
    {char lowered : Char} (split : term = front ++ lowered :: back) (taken : same lowered char) :
    database.Shows front [lowered] back char before after := by
  by_cases sigma : char = 'Σ'
  · subst sigma
    exact shows_sigma_of_taken equivalence stable agree split taken
  · have contained := contained_of_taken equivalence agree [] [] split taken
    rw [List.nil_append, List.append_nil] at contained
    rcases contained with ⟨left, right, place⟩
    have single : ∀ front block back char before after, term = front ++ block ++ back →
        block ≠ [] → database.Shows front block back char before after →
          ∃ lowered, block = [lowered] := by
      intro front block back char before after split some shows
      rcases single_of_shows stable agree split some shows with ⟨only, one, _⟩
      exact ⟨only, one⟩
    have lowers : database.lowerFrom [] (front ++ char :: back) = left ++ (term ++ right) := by
      rw [← place, List.append_assoc]
    rcases covered standard single (by rw [split]; simp) lowers with
      ⟨first, block, others, inside, along⟩
    have long := (along.forall₂ (fun _ _ => True) (fun _ _ _ _ _ _ => trivial)
      (List.nil_append term).symm).length_eq
    have none : first = [] ∧ others = [] := by
      have lengths := congrArg List.length inside
      rw [split] at long
      simp only [List.length_append, List.length_cons] at long lengths
      exact ⟨List.eq_nil_of_length_eq_zero (by omega), List.eq_nil_of_length_eq_zero (by omega)⟩
    rw [none.1, none.2, List.nil_append, List.append_nil] at inside
    rw [← inside, split] at along
    rcases along.at_split rfl with ⟨_, _, left', right', shown, leftmost, rightmost⟩
    rw [lowerChar_of_ne sigma] at shown
    exact ⟨left', right', by rw [lowerChar_of_ne sigma, shown], leftmost, rightmost⟩

include equivalence in
/-- Where the two searches agree on every text, they agree on every character. -/
theorem literal_of_agree (standard : database.Standard) : database.Literal same term where
  shown := fun _ _ _ _ _ _ split some shows => single_of_shows stable agree split some shows
  shows := fun _ _ _ _ _ _ split taken =>
    shows_of_taken equivalence stable agree standard split taken

end

theorem forall₂_symm {same : Char → Char → Prop} (equivalence : Equivalence same)
    {first second : List Char} (related : List.Forall₂ same first second) :
    List.Forall₂ same second first :=
  List.Forall₂.flip (related.imp fun _ _ taken => equivalence.symm taken)

theorem forall₂_trans {same : Char → Char → Prop} (equivalence : Equivalence same)
    {first second third : List Char} (related : List.Forall₂ same first second)
    (related' : List.Forall₂ same second third) : List.Forall₂ same first third := by
  induction related generalizing third with
  | nil => exact related'
  | cons here _ ih =>
      cases related' with
      | cons here' later' => exact .cons (equivalence.trans here here') (ih later')

/-- What is taken for the term is taken for what is taken for it. -/
theorem Found.replace {same : Char → Char → Prop} (equivalence : Equivalence same)
    {first second text : List Char} (related : List.Forall₂ same first second)
    (found : Found same first text) : Found same second text := by
  rcases found with ⟨block, inside, alike⟩
  exact ⟨block, inside, forall₂_trans equivalence (forall₂_symm equivalence related) alike⟩

/-- A term without a sigma is literal when the characters taken for one of its own are those that
are lowered to it, and no lower case is longer than such a character. -/
theorem literal_of_chars {same : Char → Char → Prop} {term : List Char}
    (letters : ∀ lowered ∈ term, lowered ∉ ['Σ', 'σ', 'ς'])
    (single : ∀ lowered ∈ term, ∀ char, lowered ∈ database.lowerFull char →
      database.lowerFull char = [lowered])
    (taken : ∀ lowered ∈ term, ∀ char,
      same lowered char ↔ database.lowerFull char = [lowered]) :
    database.Literal same term where
  shown := by
    rintro front block back char before after split some ⟨left, right, shown, _, _⟩
    cases block with
    | nil => exact absurd rfl some
    | cons lowered others =>
        have member : lowered ∈ term := by
          rw [split]
          simp
        have inside : lowered ∈
            database.lowerChar (front.reverse ++ before) char (back ++ after) := by
          rw [shown]
          simp
        by_cases sigma : char = 'Σ'
        · rw [lowerChar, if_pos sigma, List.mem_singleton] at inside
          exact absurd (inside ▸ handleCapitalSigma_mem _ _) (letters lowered member)
        · rw [lowerChar_of_ne sigma] at inside shown
          have one := single lowered member char inside
          rw [one, List.append_assoc] at shown
          have long := congrArg List.length shown
          simp only [List.length_append, List.length_cons, List.length_nil] at long
          refine ⟨lowered, ?_, (taken lowered member char).mpr one⟩
          rw [List.eq_nil_of_length_eq_zero (show others.length = 0 by omega)]
  shows := by
    intro front lowered back char before after split alike
    have member : lowered ∈ term := by
      rw [split]
      simp
    have one := (taken lowered member char).mp alike
    refine ⟨[], [], ?_, .inl rfl, .inl rfl⟩
    rw [lowerChar_of_ne, one]
    · rfl
    · intro sigma
      rw [sigma, database.sigma] at one
      refine letters lowered member ?_
      rw [← (List.cons.inj one).1]
      decide

/-- A search for the characters of a term finds what a search for its lower case in the lower case
finds, in every text, exactly when the term is taken for its lower case and that is literal. -/
theorem found_iff {same : Char → Char → Prop} (standard : database.Standard)
    (term : List Char) (equivalence : Equivalence same) :
    (∀ text, Found same term text ↔
      database.lowerFrom [] term <:+: database.lowerFrom [] text) ↔
      List.Forall₂ same term (database.lowerFrom [] term) ∧
        database.Literal same (database.lowerFrom [] term) := by
  have stable : ∀ char ∈ database.lowerFrom [] term, database.lowerFull char = [char] :=
    fun char member => lowerFull_of_mem member
  constructor
  · intro agree
    -- The term is found in its own lower case, and the block found there is all of it.
    have itself := (agree (database.lowerFrom [] term)).mpr (by
      rw [lowerFrom_eq_self stable])
    rcases itself with ⟨block, inside, alike⟩
    have contained := (agree block).mp ⟨block, List.infix_rfl, alike⟩
    rw [lowerFrom_eq_self fun char member => stable char (inside.subset member)] at contained
    have whole : block = database.lowerFrom [] term :=
      inside.eq_of_length_le contained.length_le
    rw [whole] at alike
    refine ⟨alike, literal_of_agree equivalence stable ?_ standard⟩
    intro text
    rw [← agree text]
    exact ⟨Found.replace equivalence (forall₂_symm equivalence alike),
      Found.replace equivalence alike⟩
  · rintro ⟨related, literal⟩ text
    constructor
    · intro found
      exact infix_of_found standard literal (found.replace equivalence related)
    · intro contained
      exact (found_of_contained standard literal contained).replace equivalence
        (forall₂_symm equivalence related)

end ChTech.Foundation.CaseDatabase
