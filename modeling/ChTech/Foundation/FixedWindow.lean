import Mathlib.Algebra.Order.Monoid.Unbundled.Basic
import Mathlib.Data.List.Basic

/-!
# Traffic bounds for consecutive windows

Events are grouped into windows, newest window first.  When each window lasts at
least `length` and windows do not overlap in time, an interval of that length
meets at most two of them.
-/

namespace ChTech.Foundation.FixedWindow

universe u v

variable {η : Type u} {τ : Type v} [LinearOrder τ] [Add τ] [AddRightMono τ]

/-- Windows in order, newest first: events of a newer window come no earlier than
those of an older one, and at least `length` after some event of the window just
before it. -/
inductive Spaced (time : η → τ) (length : τ) : List (List η) → Prop where
  | nil : Spaced time length []
  | single (window : List η) : Spaced time length [window]
  | cons {newer previous : List η} {older : List (List η)} :
      (∀ event ∈ newer, ∃ opening ∈ previous, time opening + length ≤ time event) →
      (∀ window ∈ previous :: older, ∀ event ∈ newer, ∀ past ∈ window,
        time past ≤ time event) →
      Spaced time length (previous :: older) →
      Spaced time length (newer :: previous :: older)

/-- The event lies in the half-open interval of the given length from `start`. -/
def Within (time : η → τ) (start length : τ) (event : η) : Prop :=
  start ≤ time event ∧ time event < start + length

instance (time : η → τ) (start length : τ) (event : η) :
    Decidable (Within time start length event) :=
  inferInstanceAs (Decidable (_ ∧ _))

variable {time : η → τ} {length : τ}

namespace Spaced

omit [AddRightMono τ] in
theorem tail {newest : List η} {older : List (List η)}
    (spaced : Spaced time length (newest :: older)) : Spaced time length older := by
  cases spaced with
  | single => exact .nil
  | cons _ _ rest => exact rest

omit [AddRightMono τ] in
/-- Opening an empty window keeps the spacing. -/
theorem opened {windows : List (List η)} (spaced : Spaced time length windows) :
    Spaced time length ([] :: windows) := by
  cases windows with
  | nil => exact .single []
  | cons previous older => exact .cons (by simp) (by simp) spaced

omit [AddRightMono τ] in
/-- Adding an event to the newest window keeps the spacing when nothing is later
and the window before was opened at least `length` ago. -/
theorem extended {newest : List η} {older : List (List η)} {event : η}
    (spaced : Spaced time length (newest :: older))
    (latest : ∀ window ∈ older, ∀ past ∈ window, time past ≤ time event)
    (apart : ∀ previous ∈ older.head?, ∃ opening ∈ previous,
      time opening + length ≤ time event) :
    Spaced time length ((event :: newest) :: older) := by
  cases spaced with
  | single => exact .single _
  | cons spacing ordered rest =>
      refine .cons ?_ ?_ rest
      · intro other member
        rcases List.mem_cons.mp member with rfl | member
        · exact apart _ rfl
        · exact spacing other member
      · intro window windowMem other member past pastMem
        rcases List.mem_cons.mp member with rfl | member
        · exact latest window windowMem past pastMem
        · exact ordered window windowMem other member past pastMem

/-- An interval that meets a window meets none of those two or more before it. -/
theorem not_within_of_within {newest previous : List η} {older : List (List η)}
    (spaced : Spaced time length (newest :: previous :: older)) {start : τ}
    {event past : η} {window : List η} (member : event ∈ newest)
    (within : Within time start length event) (windowMem : window ∈ older)
    (pastMem : past ∈ window) : ¬Within time start length past := by
  intro pastWithin
  cases spaced with
  | cons spacing _ rest =>
      rcases spacing event member with ⟨opening, openingMem, apart⟩
      have before : time past ≤ time opening := by
        cases rest with
        | single => simp at windowMem
        | cons _ ordered _ => exact ordered window windowMem opening openingMem past pastMem
      have late : start + length ≤ time event :=
        calc
          start + length ≤ time past + length := add_le_add_left pastWithin.1 length
          _ ≤ time opening + length := add_le_add_left before length
          _ ≤ time event := apart
      exact absurd within.2 (not_lt.mpr late)

/-- If no window holds more than `cap` counted events, no interval as long as a
window holds more than twice as many. -/
theorem length_within_le {windows : List (List η)}
    (spaced : Spaced time length windows) {counted : η → Bool} {cap : Nat}
    (capped : ∀ window ∈ windows, (window.filter counted).length ≤ cap) (start : τ) :
    (windows.flatten.filter fun event =>
      counted event && decide (Within time start length event)).length ≤ 2 * cap := by
  have single : ∀ window ∈ windows, (window.filter fun event =>
      counted event && decide (Within time start length event)).length ≤ cap := by
    intro window member
    refine le_trans (List.Sublist.length_le ?_) (capped window member)
    exact List.monotone_filter_right window fun event both => (Bool.and_eq_true_iff.mp both).1
  induction windows with
  | nil => simp
  | cons newest older ih =>
      have newestLe := single newest List.mem_cons_self
      have olderLe := ih spaced.tail
        (fun window member => capped window (List.mem_cons_of_mem _ member))
        (fun window member => single window (List.mem_cons_of_mem _ member))
      rw [List.flatten_cons, List.filter_append, List.length_append]
      by_cases met : ∃ event ∈ newest, Within time start length event
      · rcases met with ⟨event, member, within⟩
        cases older with
        | nil =>
            simp only [List.flatten_nil, List.filter_nil, List.length_nil]
            omega
        | cons previous rest =>
            have previousLe := single previous (by simp)
            -- Everything from the third window on lies before the interval.
            have none : rest.flatten.filter (fun event =>
                counted event && decide (Within time start length event)) = [] := by
              rw [List.filter_eq_nil_iff]
              intro past pastMem both
              rcases List.mem_flatten.mp pastMem with ⟨window, windowMem, pastMem⟩
              exact spaced.not_within_of_within member within windowMem pastMem
                (by simpa using (Bool.and_eq_true_iff.mp both).2)
            rw [List.flatten_cons, List.filter_append, none, List.append_nil]
            omega
      · have none : newest.filter (fun event =>
            counted event && decide (Within time start length event)) = [] := by
          rw [List.filter_eq_nil_iff]
          intro event member both
          exact met ⟨event, member, by simpa using (Bool.and_eq_true_iff.mp both).2⟩
        rw [none]
        simpa using olderLe

end Spaced

end ChTech.Foundation.FixedWindow
