import ChTech.Foundation.Transition

/-!
# What held before

A fact about a state on the way to the present one.  It stays true as the run goes on.
-/

namespace ChTech.Foundation.Machine

universe u v

variable {σ : Type u} {ℓ : Type v} {machine : Machine σ ℓ} {allowed : σ → ℓ → Prop}
  {start state next : σ} {label : ℓ} {holds : σ → Prop}

/-- It held in a state that the run went through, or holds now. -/
def Earlier (machine : Machine σ ℓ) (allowed : σ → ℓ → Prop) (start : σ) (holds : σ → Prop)
    (state : σ) : Prop :=
  ∃ before, Reaches machine allowed start before ∧ Reaches machine allowed before state ∧
    holds before

namespace Earlier

/-- What holds now held before every later state. -/
theorem now (run : Reaches machine allowed start state) (held : holds state) :
    Earlier machine allowed start holds state :=
  ⟨state, run, .refl state, held⟩

theorem step (earlier : Earlier machine allowed start holds state) (met : allowed state label)
    (stepped : machine state label = some next) : Earlier machine allowed start holds next := by
  rcases earlier with ⟨before, reached, run, held⟩
  exact ⟨before, reached, run.snoc met stepped, held⟩

end Earlier

end ChTech.Foundation.Machine
