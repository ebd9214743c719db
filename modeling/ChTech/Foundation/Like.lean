import ChTech.Foundation.Query
import Mathlib.Data.List.Infix

/-!
# Patterns between percent signs

`LIKE` with `%` on both sides of a text finds the text, as long as the text is plain.  A
text with a wildcard or an escape in it also finds values that do not contain it: the
shortest value that the pattern matches is one.
-/

namespace ChTech.Foundation

namespace Like

variable {same : Char → Char → Bool}

/-- The characters that a pattern interprets. -/
def special : List Char := ['%', '_', '\\']

/-- No character of the text is interpreted. -/
def plain (text : List Char) : Bool := text.all fun char => !special.contains char

/-- A shortest value that a pattern matches. -/
def shortest : List Char → List Char
  | [] => []
  | '%' :: pattern => shortest pattern
  | '_' :: pattern => 'a' :: shortest pattern
  | '\\' :: escaped :: pattern => escaped :: shortest pattern
  | literal :: pattern => literal :: shortest pattern

theorem not_special {char : Char} (plain : !special.contains char) :
    char ≠ '%' ∧ char ≠ '_' ∧ char ≠ '\\' := by
  simpa [special] using plain

theorem plain_of_ne {char : Char} (percent : char ≠ '%') (underscore : char ≠ '_')
    (backslash : char ≠ '\\') : (!special.contains char) = true := by
  simp only [special, List.contains_cons, List.contains_nil, Bool.or_false, Bool.not_or,
    Bool.and_eq_true, Bool.not_eq_true', beq_eq_false_iff_ne]
  exact ⟨percent, underscore, backslash⟩

theorem sqlLike_percent {pattern value : List Char} :
    sqlLike same ('%' :: pattern) value = true ↔
      ∃ rest, rest <:+ value ∧ sqlLike same pattern rest = true := by
  rw [sqlLike, List.any_eq_true]
  simp only [List.mem_tails]

theorem sqlLike_all (value : List Char) : sqlLike same ['%'] value = true := by
  rw [sqlLike_percent]
  exact ⟨[], List.nil_suffix, rfl⟩

theorem sqlLike_literal {char : Char} {pattern value : List Char}
    (plain : (!special.contains char) = true) :
    sqlLike same (char :: pattern) value = true ↔
      ∃ first rest, value = first :: rest ∧ same char first = true ∧
        sqlLike same pattern rest = true := by
  rcases not_special plain with ⟨percent, underscore, backslash⟩
  cases value with
  | nil =>
      have none : sqlLike same (char :: pattern) [] = false := by
        rw [sqlLike.eq_def]
        split
        next empty => cases empty
        next other => exact absurd (List.cons.inj other).1 percent
        next other => exact absurd (List.cons.inj other).1 underscore
        next other => exact absurd (List.cons.inj other).1 backslash
        next => rfl
      simp [none]
  | cons first rest =>
      have one : sqlLike same (char :: pattern) (first :: rest) =
          (same char first && sqlLike same pattern rest) := by
        rw [sqlLike.eq_def]
        split
        next empty => cases empty
        next other => exact absurd (List.cons.inj other).1 percent
        next other => exact absurd (List.cons.inj other).1 underscore
        next other => exact absurd (List.cons.inj other).1 backslash
        next other =>
          rcases List.cons.inj other with ⟨rfl, rfl⟩
          rfl
      simp [one, and_assoc]

/-- A plain text matches a value that begins with it. -/
theorem sqlLike_plain {text pattern value : List Char} (textPlain : plain text = true) :
    sqlLike same (text ++ pattern) value = true ↔
      ∃ block rest, value = block ++ rest ∧ List.Forall₂ (fun char other => same char other) text
        block ∧ sqlLike same pattern rest = true := by
  induction text generalizing value with
  | nil => simp
  | cons char text ih =>
      simp only [plain, List.all_cons, Bool.and_eq_true] at textPlain
      rw [List.cons_append, sqlLike_literal textPlain.1]
      constructor
      · rintro ⟨first, rest, rfl, equal, matched⟩
        rcases (ih textPlain.2).mp matched with ⟨block, rest, rfl, equals, matched⟩
        exact ⟨first :: block, rest, rfl, .cons equal equals, matched⟩
      · rintro ⟨block, rest, rfl, equals, matched⟩
        cases equals with
        | cons equal equals =>
            exact ⟨_, _, rfl, equal, (ih textPlain.2).mpr ⟨_, rest, rfl, equals, matched⟩⟩

/-- A plain text is found where a block of characters is the same as it. -/
theorem sqlLike_contains {text value : List Char} (textPlain : plain text = true) :
    sqlLike same ('%' :: (text ++ ['%'])) value = true ↔
      ∃ block, block <:+: value ∧
        List.Forall₂ (fun char other => same char other = true) text block := by
  rw [sqlLike_percent]
  constructor
  · rintro ⟨rest, ⟨before, rfl⟩, matched⟩
    rcases (sqlLike_plain textPlain).mp matched with ⟨block, after, rfl, equals, _⟩
    exact ⟨block, ⟨before, after, by rw [List.append_assoc]⟩, equals⟩
  · rintro ⟨block, ⟨before, after, rfl⟩, equals⟩
    refine ⟨block ++ after, ⟨before, by rw [List.append_assoc]⟩, ?_⟩
    exact (sqlLike_plain textPlain).mpr ⟨block, after, rfl, equals, sqlLike_all after⟩

theorem sqlLike_shortest (refl : ∀ char, same char char = true) (pattern : List Char) :
    sqlLike same pattern (shortest pattern) = true := by
  fun_induction shortest pattern with
  | case1 => rfl
  | case2 pattern ih => exact sqlLike_percent.mpr ⟨_, List.suffix_refl _, ih⟩
  | case3 pattern ih =>
      rw [sqlLike]
      exact ih
  | case4 escaped pattern ih =>
      rw [sqlLike, refl]
      exact ih
  | case5 literal pattern percent underscore backslash ih =>
      rw [sqlLike.eq_def]
      split
      next empty => cases empty
      next other => exact absurd (List.cons.inj other).1 percent
      next other => exact absurd (List.cons.inj other).1 underscore
      next escaped rest other =>
        rcases List.cons.inj other with ⟨rfl, equal⟩
        exact (backslash escaped rest rfl equal).elim
      next other =>
        rcases List.cons.inj other with ⟨rfl, rfl⟩
        simp only [refl, Bool.true_and]
        exact ih

theorem shortest_literal {char : Char} {pattern : List Char}
    (plain : (!special.contains char) = true) :
    shortest (char :: pattern) = char :: shortest pattern := by
  rcases not_special plain with ⟨percent, underscore, backslash⟩
  rw [shortest.eq_def]
  split
  next empty => cases empty
  next other => exact absurd (List.cons.inj other).1 percent
  next other => exact absurd (List.cons.inj other).1 underscore
  next other => exact absurd (List.cons.inj other).1 backslash
  next other =>
    rcases List.cons.inj other with ⟨rfl, rfl⟩
    rfl

/-- What an interpreted character weighs: more than what the pattern makes of it. -/
def weight (char : Char) : Nat := if char = '\\' then 2 else if special.contains char then 1 else 0

theorem weight_of_plain {char : Char} (plain : (!special.contains char) = true) :
    weight char = 0 := by
  rcases not_special plain with ⟨_, _, backslash⟩
  rw [weight, if_neg backslash, if_neg (by simpa using plain)]

def weights : List Char → Nat
  | [] => 0
  | char :: rest => weight char + weights rest

@[simp] theorem weights_cons (char : Char) (text : List Char) :
    weights (char :: text) = weight char + weights text := rfl

@[simp] theorem weights_append (text after : List Char) :
    weights (text ++ after) = weights text + weights after := by
  induction text with
  | nil => rw [List.nil_append, weights, Nat.zero_add]
  | cons char rest ih => rw [List.cons_append, weights_cons, weights_cons, ih, Nat.add_assoc]

theorem weights_eq_zero {text : List Char} (weightless : ∀ char ∈ text, weight char = 0) :
    weights text = 0 := by
  induction text with
  | nil => rfl
  | cons char rest ih =>
      rcases List.forall_mem_cons.mp weightless with ⟨head, tail⟩
      rw [weights_cons, head, ih tail]

theorem weights_le_of_infix {text value : List Char} (contained : text <:+: value) :
    weights text ≤ weights value := by
  rcases contained with ⟨before, after, rfl⟩
  simp only [weights_append]
  omega

/-- The percent sign after a text takes nothing, or is escaped by the text's last character. -/
theorem weights_shortest (text : List Char) :
    weights (shortest (text ++ ['%'])) ≤ weights text ∧
      (plain text = false → weights (shortest (text ++ ['%'])) < weights text) := by
  have percentWeight : weight '%' = 1 := rfl
  have underscoreWeight : weight '_' = 1 := rfl
  have backslashWeight : weight '\\' = 2 := rfl
  fun_induction shortest text with
  | case1 => exact ⟨Nat.le_refl 0, fun interpreted => by cases interpreted⟩
  | case2 pattern ih =>
      rw [List.cons_append, shortest, weights_cons]
      omega
  | case3 pattern ih =>
      have letterWeight : weight 'a' = 0 := rfl
      rw [List.cons_append, shortest, weights_cons, weights_cons]
      omega
  | case4 escaped pattern ih =>
      rw [List.cons_append, List.cons_append, shortest, weights_cons, weights_cons, weights_cons]
      omega
  | case5 literal pattern percent underscore backslash ih =>
      by_cases escape : literal = '\\'
      · cases pattern with
        | nil =>
            subst escape
            exact ⟨by decide, fun _ => by decide⟩
        | cons escaped rest => exact (backslash escaped rest escape rfl).elim
      · have literalPlain := plain_of_ne percent underscore escape
        rw [List.cons_append, shortest_literal literalPlain, weights_cons, weights_cons,
          weight_of_plain literalPlain, Nat.zero_add, Nat.zero_add, plain, List.all_cons,
          literalPlain, Bool.true_and]
        exact ih

theorem shortest_map {lower : Char → Char} (letter : lower 'a' = 'a')
    (keeps : ∀ char, special.contains (lower char) = special.contains char)
    (fixed : ∀ char ∈ special, lower char = char) (pattern : List Char) :
    shortest (pattern.map lower) = (shortest pattern).map lower := by
  fun_induction shortest pattern with
  | case1 => rfl
  | case2 pattern ih =>
      rw [List.map_cons, fixed '%' (by decide), shortest, ih]
  | case3 pattern ih =>
      rw [List.map_cons, fixed '_' (by decide), shortest, ih, List.map_cons, letter]
  | case4 escaped pattern ih =>
      rw [List.map_cons, List.map_cons, fixed '\\' (by decide), shortest, ih, List.map_cons]
  | case5 literal pattern percent underscore backslash ih =>
      by_cases escape : literal = '\\'
      · cases pattern with
        | nil =>
            subst escape
            rw [List.map_cons, List.map_cons, fixed '\\' (by decide)]
            rfl
        | cons escaped rest => exact (backslash escaped rest escape rfl).elim
      · have literalPlain := plain_of_ne percent underscore escape
        rw [← keeps] at literalPlain
        rw [List.map_cons, shortest_literal literalPlain, ih, List.map_cons]

end Like

end ChTech.Foundation
