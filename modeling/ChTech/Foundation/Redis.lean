import Mathlib.Logic.Function.Basic

/-!
# Counters that expire

The part of a key-value server used by counters: `INCR`, `EXPIRE` and `TTL`, each
atomic, over a clock in milliseconds.  A key disappears once its expiry instant
lies in the past; `sweep` performs those disappearances when time moves on.
-/

namespace ChTech.Foundation.Redis

universe u

/-- Milliseconds in a second: commands speak of seconds, the clock does not. -/
def second : Nat := 1000

/-- The value of an existing key. -/
structure Entry where
  count : Nat
  expiresAt : Option Nat
  deriving DecidableEq, Repr

/-- The instant is not past the entry's expiry. -/
def Entry.live (entry : Entry) (now : Nat) : Bool :=
  match entry.expiresAt with
  | none => true
  | some instant => decide (now ≤ instant)

/-- The keys of a server; `none` for a key that does not exist. -/
abbrev Store (κ : Type u) := κ → Option Entry

variable {κ : Type u}

section Commands

variable [DecidableEq κ]

/-- `INCR`: a missing key counts from zero and has no expiry. -/
def incr (store : Store κ) (key : κ) : Store κ × Nat :=
  match store key with
  | none => (Function.update store key (some ⟨1, none⟩), 1)
  | some entry =>
      (Function.update store key (some { entry with count := entry.count + 1 }),
        entry.count + 1)

/-- `EXPIRE`: no effect on a missing key, and a zero time deletes the key. -/
def expire (store : Store κ) (now : Nat) (key : κ) (seconds : Nat) : Store κ :=
  match store key with
  | none => store
  | some entry =>
      if seconds = 0 then
        Function.update store key none
      else
        Function.update store key
          (some { entry with expiresAt := some (now + seconds * second) })

end Commands

/-- `TTL` in whole seconds, rounded to the nearest one. -/
def ttl (store : Store κ) (now : Nat) (key : κ) : Int :=
  match store key with
  | none => -2
  | some ⟨_, none⟩ => -1
  | some ⟨_, some instant⟩ => ((instant - now + second / 2) / second : Nat)

/-- Every key whose expiry has passed disappears. -/
def sweep (store : Store κ) (now : Nat) : Store κ :=
  fun key => (store key).filter fun entry => entry.live now

section Commands

variable [DecidableEq κ]

theorem incr_other (store : Store κ) {key other : κ} (different : other ≠ key) :
    (incr store key).1 other = store other := by
  simp only [incr]
  split <;> simp [different]

theorem incr_missing {store : Store κ} {key : κ} (missing : store key = none) :
    (incr store key).1 key = some ⟨1, none⟩ ∧ (incr store key).2 = 1 := by
  simp [incr, missing]

theorem incr_present {store : Store κ} {key : κ} {entry : Entry}
    (present : store key = some entry) :
    (incr store key).1 key = some { entry with count := entry.count + 1 } ∧
      (incr store key).2 = entry.count + 1 := by
  simp [incr, present]

theorem expire_other (store : Store κ) (now : Nat) {key other : κ} (seconds : Nat)
    (different : other ≠ key) :
    expire store now key seconds other = store other := by
  simp only [expire]
  cases store key with
  | none => rfl
  | some entry =>
      simp only
      split <;> simp [different]

theorem expire_missing {store : Store κ} {key : κ} (now seconds : Nat)
    (missing : store key = none) : expire store now key seconds key = none := by
  simp [expire, missing]

theorem expire_present {store : Store κ} {key : κ} {entry : Entry} (now : Nat)
    {seconds : Nat} (positive : 1 ≤ seconds) (present : store key = some entry) :
    expire store now key seconds key =
      some { entry with expiresAt := some (now + seconds * second) } := by
  have nonzero : seconds ≠ 0 := Nat.one_le_iff_ne_zero.mp positive
  simp [expire, present, nonzero]

end Commands

/-- A remaining time of at most `seconds` is reported as at most `seconds`. -/
theorem ttl_le {store : Store κ} {key : κ} {now seconds : Nat}
    (bounded : ∀ count instant, store key = some ⟨count, some instant⟩ →
      instant ≤ now + seconds * second) :
    ttl store now key ≤ seconds := by
  simp only [ttl]
  split
  · omega
  · omega
  next count instant present =>
    have remaining := bounded count instant present
    have rounded : (instant - now + second / 2) / second ≤ seconds := by
      unfold second at *
      omega
    exact_mod_cast rounded

theorem sweep_eq_some {store : Store κ} {now : Nat} {key : κ} {entry : Entry} :
    sweep store now key = some entry ↔ store key = some entry ∧ entry.live now = true := by
  simp [sweep, Option.filter_eq_some_iff]

theorem sweep_missing {store : Store κ} {key : κ} (now : Nat) (missing : store key = none) :
    sweep store now key = none := by
  simp [sweep, missing]

/-- A key that exists before a sweep and not after it had an expiry in the past. -/
theorem expired_of_sweep {store : Store κ} {now : Nat} {key : κ} {entry : Entry}
    (present : store key = some entry) (gone : sweep store now key = none) :
    ∃ instant, entry.expiresAt = some instant ∧ instant < now := by
  have dead : entry.live now = false := by
    by_contra alive
    have kept := sweep_eq_some.mpr ⟨present, by simpa using alive⟩
    rw [gone] at kept
    exact absurd kept (by simp)
  simp only [Entry.live] at dead
  cases expiry : entry.expiresAt with
  | none => simp [expiry] at dead
  | some instant =>
      simp only [expiry, decide_eq_false_iff_not] at dead
      exact ⟨instant, rfl, by omega⟩

end ChTech.Foundation.Redis
