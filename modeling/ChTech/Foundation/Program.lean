import Mathlib.Data.List.Forall2

/-!
# Programs over a store

A program runs on a store and returns or raises; what it has written before it raises
stays written.  Its operations may fault, before they take effect or after it when only
their answer is lost.

`Ensures` is total correctness with one postcondition for each way of ending.  Its rules
follow the construction of a program.
-/

namespace ChTech.Foundation

/-- A computation on a store that returns a value or raises an error. -/
def Program (σ ε α : Type) : Type := σ → Except ε α × σ

/-- How an operation fails: without an effect, or after it. -/
inductive Fault where
  | before
  | after
  deriving DecidableEq, Repr

namespace Result

variable {ε α β : Type}

@[simp] theorem isOk_ok {value : α} : (Except.ok value : Except ε α).isOk = true := rfl

@[simp] theorem isOk_error {raised : ε} : (Except.error raised : Except ε α).isOk = false := rfl

theorem isOk_iff {result : Except ε α} : result.isOk = true ↔ ∃ value, result = .ok value := by
  cases result with
  | ok value => exact ⟨fun _ => ⟨value, rfl⟩, fun _ => rfl⟩
  | error raised =>
      constructor
      · intro returned
        cases returned
      · rintro ⟨value, equal⟩
        cases equal

theorem bind_eq_ok {first : Except ε α} {second : α → Except ε β} {last : β} :
    (first >>= second) = .ok last ↔ ∃ value, first = .ok value ∧ second value = .ok last := by
  cases first with
  | ok value => exact ⟨fun equal => ⟨value, rfl, equal⟩, fun ⟨_, rfl, equal⟩ => equal⟩
  | error raised =>
      constructor
      · intro equal
        cases equal
      · rintro ⟨value, equal, _⟩
        cases equal

theorem map_eq_ok {result : Except ε α} {change : α → β} {last : β} :
    result.map change = .ok last ↔ ∃ value, result = .ok value ∧ change value = last := by
  cases result with
  | ok value =>
      simp only [Except.map, Except.ok.injEq, exists_eq_left']
  | error raised =>
      constructor
      · intro equal
        cases equal
      · rintro ⟨value, equal, _⟩
        cases equal

/-- The success of the next computation does not depend on the first one's value. -/
theorem isOk_bind_const {first : Except ε α} {second : α → Except ε β} {verdict : Bool}
    (constant : ∀ value, (second value).isOk = verdict) :
    (first >>= second).isOk = (first.isOk && verdict) := by
  cases first with
  | ok value => exact constant value
  | error raised => rfl

theorem isOk_bind_pure {first : Except ε α} {change : α → β} :
    (first >>= fun value => pure (change value)).isOk = first.isOk := by
  cases first <;> rfl

theorem bind_eq_error {first : Except ε α} {second : α → Except ε β} {raised : ε} :
    first >>= second = .error raised ↔
      first = .error raised ∨ ∃ value, first = .ok value ∧ second value = .error raised := by
  cases first with
  | ok value => simp [bind, Except.bind]
  | error other => simp [bind, Except.bind]

theorem map_eq_error {result : Except ε α} {change : α → β} {raised : ε} :
    result.map change = .error raised ↔ result = .error raised := by
  cases result with
  | ok value => simp [Except.map]
  | error other => simp [Except.map]

/-- Two continuations that are mapped to the same. -/
theorem map_bind_congr {δ ζ : Type} {first : Except ε α} {second : α → Except ε β}
    {third : α → Except ε δ} {change : β → ζ} {change' : δ → ζ}
    (same : ∀ value, (second value).map change = (third value).map change') :
    (first >>= second).map change = (first >>= third).map change' := by
  cases first with
  | ok value => exact same value
  | error raised => rfl

@[simp] theorem isOk_map {result : Except ε α} {change : α → β} :
    (result.map change).isOk = result.isOk := by
  cases result <;> rfl

/-- A traversal succeeds when it does on each element. -/
theorem isOk_mapM {convert : α → Except ε β} {values : List α}
    (each : ∀ value ∈ values, (convert value).isOk = true) :
    (values.mapM convert).isOk = true := by
  induction values with
  | nil => rfl
  | cons value rest ih =>
      rcases isOk_iff.mp (each value List.mem_cons_self) with ⟨converted, head⟩
      obtain ⟨others, tail⟩ :=
        isOk_iff.mp (ih fun other member => each other (List.mem_cons_of_mem _ member))
      rw [List.mapM_cons, head, tail]
      rfl

/-- Only the conversions of the listed values matter. -/
theorem mapM_congr {convert convert' : α → Except ε β} {values : List α}
    (each : ∀ value ∈ values, convert value = convert' value) :
    values.mapM convert = values.mapM convert' := by
  induction values with
  | nil => rfl
  | cons value rest ih =>
      have tail := ih fun other member => each other (List.mem_cons_of_mem _ member)
      rw [List.mapM_cons, List.mapM_cons, each value List.mem_cons_self, tail]

/-- What the converted values show, when every conversion keeps what its value shows. -/
theorem map_of_mapM {γ : Type} {convert : α → Except ε β} {shown : β → γ} {ident : α → γ}
    (shows : ∀ value converted, convert value = .ok converted → shown converted = ident value)
    {values : List α} {results : List β} (converted : values.mapM convert = .ok results) :
    results.map shown = values.map ident := by
  induction values generalizing results with
  | nil =>
      cases converted
      rfl
  | cons value rest ih =>
      rw [List.mapM_cons] at converted
      rcases bind_eq_ok.mp converted with ⟨first, head, converted⟩
      rcases bind_eq_ok.mp converted with ⟨others, tail, last⟩
      cases last
      rw [List.map_cons, List.map_cons, shows _ _ head, ih tail]

/-- A traversal converts value by value. -/
theorem forall₂_of_mapM {convert : α → Except ε β} {values : List α} {results : List β}
    (converted : values.mapM convert = .ok results) :
    List.Forall₂ (fun value result => convert value = .ok result) values results := by
  induction values generalizing results with
  | nil =>
      cases converted
      exact .nil
  | cons value rest ih =>
      rw [List.mapM_cons] at converted
      rcases bind_eq_ok.mp converted with ⟨first, head, converted⟩
      rcases bind_eq_ok.mp converted with ⟨others, tail, last⟩
      cases last
      exact .cons head (ih tail)

/-- A traversal succeeds on every element, or not at all. -/
theorem isOk_mapM_eq {convert : α → Except ε β} {values : List α} :
    (values.mapM convert).isOk = values.all fun value => (convert value).isOk := by
  induction values with
  | nil => rfl
  | cons value rest ih =>
      rw [List.mapM_cons, List.all_cons, ← ih]
      cases convert value with
      | ok converted => exact isOk_bind_pure
      | error raised => rfl

/-- Another order of the values makes another order of the results. -/
theorem perm_of_mapM {convert : α → Except ε β} {values others : List α} {results : List β}
    (same : values.Perm others) (converted : values.mapM convert = .ok results) :
    ∃ results', others.mapM convert = .ok results' ∧ results'.Perm results := by
  have shown : ∀ {values : List α} {results : List β}, values.mapM convert = .ok results →
      results.map .ok = values.map convert :=
    map_of_mapM fun value result equal => equal.symm
  have returned : (others.mapM convert).isOk = true := by
    rw [isOk_mapM_eq, ← same.all_eq, ← isOk_mapM_eq, converted]
    rfl
  rcases isOk_iff.mp returned with ⟨results', converted'⟩
  refine ⟨results', converted', ?_⟩
  have images : (results'.map Except.ok).Perm (results.map (Except.ok : β → Except ε β)) := by
    rw [shown converted, shown converted']
    exact (same.map convert).symm
  have members := images.filterMap Except.toOption
  simpa [List.filterMap_map, Function.comp_def, Except.toOption] using members

/-- The errors that a result may be. -/
def RaisesOnly (allowed : ε → Prop) (result : Except ε α) : Prop :=
  ∀ raised, result = .error raised → allowed raised

namespace RaisesOnly

variable {allowed : ε → Prop}

theorem ok {value : α} : RaisesOnly allowed (.ok value) := by
  intro raised failed
  cases failed

theorem error {raised : ε} (allows : allowed raised) :
    RaisesOnly allowed (.error raised : Except ε α) := by
  intro other failed
  cases failed
  exact allows

theorem bind {first : Except ε α} {second : α → Except ε β} (left : RaisesOnly allowed first)
    (right : ∀ value, RaisesOnly allowed (second value)) :
    RaisesOnly allowed (first >>= second) := by
  intro raised failed
  cases ended : first with
  | ok value =>
      rw [ended] at failed
      exact right value raised failed
  | error other =>
      rw [ended] at failed
      cases failed
      exact left _ ended

theorem map {result : Except ε α} {change : α → β} (raises : RaisesOnly allowed result) :
    RaisesOnly allowed (result.map change) := by
  intro raised failed
  cases ended : result with
  | ok value =>
      rw [ended] at failed
      cases failed
  | error other =>
      rw [ended] at failed
      cases failed
      exact raises _ ended

theorem mapM {convert : α → Except ε β} {values : List α}
    (each : ∀ value, RaisesOnly allowed (convert value)) :
    RaisesOnly allowed (values.mapM convert) := by
  induction values with
  | nil => exact ok
  | cons value rest ih =>
      rw [List.mapM_cons]
      exact (each value).bind fun _ => ih.bind fun _ => ok

end RaisesOnly

end Result

namespace Program

variable {σ ε ω α β : Type}

def bind (first : Program σ ε α) (second : α → Program σ ε β) : Program σ ε β := fun start =>
  match (first start).1 with
  | .ok value => second value (first start).2
  | .error raised => (.error raised, (first start).2)

instance : Monad (Program σ ε) where
  pure value := fun start => (.ok value, start)
  bind := Program.bind

def raise (error : ε) : Program σ ε α := fun start => (.error error, start)

/-- One operation: its effect is applied unless it faults before, and it answers unless
it faults at all. -/
def perform (faults : ω → Option Fault) (lost : ε) (operation : ω)
    (effect : σ → Except ε (α × σ)) : Program σ ε α := fun start =>
  match faults operation, effect start with
  | some .before, _ => (.error lost, start)
  | _, .error raised => (.error raised, start)
  | some .after, .ok (_, next) => (.error lost, next)
  | none, .ok (value, next) => (.ok value, next)

/-- A transaction: it takes effect as a whole, or raises and changes nothing. -/
def transact (attempt : σ → Except ε (α × σ)) : Program σ ε α := fun start =>
  match attempt start with
  | .ok (value, next) => (.ok value, next)
  | .error raised => (.error raised, start)

theorem transact_error {attempt : σ → Except ε (α × σ)} {start : σ} {error : ε}
    (failed : attempt start = .error error) : (transact attempt start).1 = .error error := by
  simp only [transact]
  rw [failed]

/-- A computation that only reads the store. -/
def read (result : σ → Except ε α) : Program σ ε α := fun start => (result start, start)

/-- The program ends in one of its postconditions. -/
def Ensures (program : Program σ ε α) (start : σ) (returns : α → σ → Prop)
    (raises : ε → σ → Prop) : Prop :=
  match (program start).1 with
  | .ok value => returns value (program start).2
  | .error raised => raises raised (program start).2

variable {start : σ} {returns : α → σ → Prop} {raises : ε → σ → Prop}

namespace Ensures

theorem pure {value : α} (holds : returns value start) :
    Ensures (Pure.pure value : Program σ ε α) start returns raises :=
  holds

theorem raise {error : ε} (holds : raises error start) :
    Ensures (Program.raise error : Program σ ε α) start returns raises :=
  holds

theorem bind {first : Program σ ε β} {second : β → Program σ ε α}
    (ensured : Ensures first start
      (fun value middle => Ensures (second value) middle returns raises) raises) :
    Ensures (first >>= second) start returns raises := by
  simp only [Ensures] at ensured ⊢
  change match (Program.bind first second start).1 with
    | .ok value => returns value (Program.bind first second start).2
    | .error raised => raises raised (Program.bind first second start).2
  simp only [Program.bind]
  cases ended : (first start).1 with
  | ok value =>
      rw [ended] at ensured
      exact ensured
  | error raised =>
      rw [ended] at ensured
      exact ensured

/-- An operation whose effect is applied answers, or its answer is lost. -/
theorem perform {faults : ω → Option Fault} {lost : ε} {operation : ω}
    {effect : σ → Except ε (α × σ)}
    (answered : ∀ value next, faults operation = none → effect start = .ok (value, next) →
      returns value next)
    (unanswered : ∀ value next, faults operation = some .after →
      effect start = .ok (value, next) → raises lost next)
    (refused : ∀ raised, faults operation ≠ some .before → effect start = .error raised →
      raises raised start)
    (failed : faults operation = some .before → raises lost start) :
    Ensures (Program.perform faults lost operation effect) start returns raises := by
  simp only [Ensures, Program.perform]
  cases fault : faults operation with
  | none =>
      cases applied : effect start with
      | ok pair => exact answered pair.1 pair.2 fault applied
      | error raised => exact refused raised (by simp [fault]) applied
  | some kind =>
      cases kind with
      | before => exact failed fault
      | after =>
          cases applied : effect start with
          | ok pair => exact unanswered pair.1 pair.2 fault applied
          | error raised => exact refused raised (by simp [fault]) applied

theorem transact {attempt : σ → Except ε (α × σ)}
    (taken : ∀ value next, attempt start = .ok (value, next) → returns value next)
    (refused : ∀ raised, attempt start = .error raised → raises raised start) :
    Ensures (Program.transact attempt) start returns raises := by
  simp only [Ensures, Program.transact]
  cases applied : attempt start with
  | ok pair => exact taken pair.1 pair.2 applied
  | error raised => exact refused raised applied

/-- What holds of an ending. -/
theorem of_returned {program : Program σ ε α} {value : α}
    (ensured : Ensures program start returns raises) (ended : (program start).1 = .ok value) :
    returns value (program start).2 := by
  simp only [Ensures] at ensured
  rw [ended] at ensured
  exact ensured

theorem of_raised {program : Program σ ε α} {error : ε}
    (ensured : Ensures program start returns raises) (ended : (program start).1 = .error error) :
    raises error (program start).2 := by
  simp only [Ensures] at ensured
  rw [ended] at ensured
  exact ensured

/-- Weaker postconditions. -/
theorem mono {program : Program σ ε α} {returns' : α → σ → Prop} {raises' : ε → σ → Prop}
    (ensured : Ensures program start returns raises)
    (weakenReturns : ∀ value last, returns value last → returns' value last)
    (weakenRaises : ∀ error last, raises error last → raises' error last) :
    Ensures program start returns' raises' := by
  simp only [Ensures] at ensured ⊢
  cases ended : (program start).1 with
  | ok value =>
      rw [ended] at ensured
      exact weakenReturns value _ ensured
  | error error =>
      rw [ended] at ensured
      exact weakenRaises error _ ensured

end Ensures

end Program

end ChTech.Foundation
