import ChTech.Foundation.Program

/-!
# Programs on a component

A store has components, and a program on one of them runs on the whole store.  It may look
at the rest of the store, but it writes its component only.
-/

namespace ChTech.Foundation

/-- A component of a store. -/
structure Lens (σ τ : Type) where
  get : σ → τ
  set : σ → τ → σ
  get_set : ∀ whole part, get (set whole part) = part
  set_get : ∀ whole, set whole (get whole) = whole

namespace Program

variable {σ τ ε α : Type}

/-- A program on a component, which may depend on what the whole store holds. -/
def on (lens : Lens σ τ) (program : σ → Program τ ε α) : Program σ ε α := fun whole =>
  ((program whole (lens.get whole)).1, lens.set whole (program whole (lens.get whole)).2)

variable {lens : Lens σ τ} {program : σ → Program τ ε α} {whole : σ}

@[simp] theorem on_result : (on lens program whole).1 = (program whole (lens.get whole)).1 := rfl

@[simp] theorem on_store :
    (on lens program whole).2 = lens.set whole (program whole (lens.get whole)).2 := rfl

theorem bind_apply {β : Type} (first : Program σ ε α) (second : α → Program σ ε β) :
    (first >>= second) whole = match (first whole).1 with
      | .ok value => second value (first whole).2
      | .error raised => (.error raised, (first whole).2) := rfl

theorem map_apply {β : Type} (change : α → β) (program : Program σ ε α) :
    (change <$> program) whole = ((program whole).1.map change, (program whole).2) := by
  have bound : (change <$> program) whole = (program >>= fun value => pure (change value)) whole :=
    rfl
  rw [bound, bind_apply]
  cases (program whole).1 with
  | ok value => rfl
  | error raised => rfl

end Program

end ChTech.Foundation
