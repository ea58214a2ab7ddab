import Mathlib.Data.Nat.Notation

/-!
# Streaks

A counter that goes up with each reading that satisfies a test, and back to 0 with each one that does not,
holds the length of the streak at the end of the readings so far.
-/

namespace Streak

variable {p : ℕ → Bool} {k n : ℕ}

/-- The number of readings at the end of the first `n` that satisfy `p`. -/
def length (p : ℕ → Bool) : ℕ → ℕ
  | 0 => 0
  | n + 1 => if p n then length p n + 1 else 0

/-- The last `k` of the first `n` readings satisfy `p`. -/
structure Ends (p : ℕ → Bool) (k n : ℕ) : Prop where
  le : k ≤ n
  holds : ∀ i < n, n - k ≤ i → p i = true

@[simp] theorem length_zero : length p 0 = 0 := rfl

theorem length_succ_of_true (h : p n = true) : length p (n + 1) = length p n + 1 := if_pos h

theorem length_succ_of_false (h : p n = false) : length p (n + 1) = 0 := by
  rw [length, h]
  rfl

theorem ends_zero : Ends p 0 n where
  le := Nat.zero_le n
  holds _ hi hge := absurd hge (Nat.not_le.mpr hi)

theorem ends_succ_iff : Ends p (k + 1) (n + 1) ↔ p n = true ∧ Ends p k n := by
  constructor
  · intro h
    refine ⟨h.holds n (Nat.lt_succ_self n) (by omega), Nat.le_of_succ_le_succ h.le, fun i hi hge => ?_⟩
    exact h.holds i (by omega) (by omega)
  · rintro ⟨hlast, h⟩
    refine ⟨Nat.succ_le_succ h.le, fun i hi hge => ?_⟩
    rcases Nat.lt_succ_iff_lt_or_eq.mp hi with hi | rfl
    · exact h.holds i hi (by omega)
    · exact hlast

/-- The counter tells which streaks have just ended. -/
theorem le_length_iff : k ≤ length p n ↔ Ends p k n := by
  induction n generalizing k with
  | zero =>
    refine ⟨fun h => ?_, fun h => h.le⟩
    rw [Nat.le_zero.mp h]
    exact ends_zero
  | succ n ih =>
    cases k with
    | zero => exact iff_of_true (Nat.zero_le _) ends_zero
    | succ k =>
      rw [ends_succ_iff, ← ih]
      cases hp : p n with
      | false => simp [length_succ_of_false hp]
      | true => simp [length_succ_of_true hp]

end Streak
