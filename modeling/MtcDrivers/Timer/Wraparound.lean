import MtcDrivers.Search.First

/-!
# Timeouts on a clock that wraps around

A loop that polls a clock of period `P` and gives up when the time since its start, taken modulo `P`,
is at least `d` misses its timeout only by stepping over the whole window `[d, P)` in every round. A
clock whose readings never step that far is caught in the first round.
-/

namespace Wraparound

open MtcDrivers.Search

/-- A clock that goes on, does not go back, and steps by less than `step` between two readings. -/
structure Runs (step : ℕ) (clock : ℕ → ℕ) : Prop where
  mono : ∀ n, clock n ≤ clock (n + 1)
  steps : ∀ n, clock (n + 1) < clock n + step
  unbounded : ∀ t, ∃ n, t ≤ clock n

variable {step : ℕ} {clock : ℕ → ℕ}

theorem Runs.tail (h : Runs step clock) : Runs step fun n => clock (n + 1) where
  mono n := h.mono (n + 1)
  steps n := h.steps (n + 1)
  unbounded t := by
    obtain ⟨n, hn⟩ := h.unbounded t
    exact ⟨n, Nat.le_trans hn (h.mono n)⟩

theorem Runs.le_of_le (h : Runs step clock) (n : ℕ) : clock 0 ≤ clock n := by
  induction n with
  | zero => exact Nat.le_refl _
  | succ n ih => exact Nat.le_trans ih (h.mono n)

/-- `n` readings that do not go back, each of them less than `step` behind the last one. -/
structure Steps (step n : ℕ) (clock : ℕ → ℕ) : Prop where
  mono : ∀ m < n, clock m ≤ clock (m + 1)
  steps : ∀ m < n, clock (m + 1) < clock m + step

theorem Runs.toSteps (h : Runs step clock) (n : ℕ) : Steps step n clock :=
  ⟨fun m _ => h.mono m, fun m _ => h.steps m⟩

theorem Steps.le_of_le {n : ℕ} (h : Steps step n clock) {k : ℕ} (hk : k ≤ n) : clock 0 ≤ clock k := by
  induction k with
  | zero => exact Nat.le_refl _
  | succ k ih => exact Nat.le_trans (ih (by omega)) (h.mono k hk)

/-- Up to a reading before which no timeout was seen, the time since the start is less than `d`. -/
theorem Steps.lt_of_no_timeout {P d n : ℕ} (h : Steps (P - d) n clock) (hd : 0 < d) (hP : d ≤ P) {k : ℕ}
    (hk : k ≤ n) (hno : ∀ m < k, (clock (m + 1) - clock 0) % P < d) : clock k - clock 0 < d := by
  induction k with
  | zero => omega
  | succ k ih =>
    have hlow := ih (by omega) fun m hm => hno m (Nat.lt_succ_of_lt hm)
    have hmiss := hno k (Nat.lt_succ_self k)
    have hstep := h.steps k hk
    have hge := h.le_of_le (Nat.le_of_succ_le hk)
    have hlt : clock (k + 1) - clock 0 < P := by omega
    rwa [Nat.mod_eq_of_lt hlt] at hmiss

/-- The first timeout is seen at the first reading that is late. -/
theorem Steps.first_timeout_iff {P d n : ℕ} (h : Steps (P - d) n clock) (hd : 0 < d) (hP : d ≤ P) (k : ℕ) :
    IsFirst (fun k => d ≤ (clock (k + 1) - clock 0) % P) n k ↔
      IsFirst (fun k => d ≤ clock (k + 1) - clock 0) n k := by
  constructor
  · intro hfirst
    refine ⟨hfirst.lt, Nat.le_trans hfirst.holds (Nat.mod_le _ _), fun i hi hlate => ?_⟩
    have hlow := h.lt_of_no_timeout hd hP (k := i + 1) (by have := hfirst.lt; omega)
      fun m hm => Nat.lt_of_not_le (hfirst.before m (by omega))
    omega
  · intro hfirst
    have hearly : ∀ i < k, clock (i + 1) - clock 0 < d := fun i hi => Nat.lt_of_not_le (hfirst.before i hi)
    have hlow := h.lt_of_no_timeout hd hP (Nat.le_of_lt hfirst.lt)
      fun m hm => Nat.lt_of_le_of_lt (Nat.mod_le _ _) (hearly m hm)
    have hstep := h.steps k hfirst.lt
    have hge := h.le_of_le (Nat.le_of_lt hfirst.lt)
    have hlt : clock (k + 1) - clock 0 < P := by omega
    refine ⟨hfirst.lt, ?_, fun i hi hlate => ?_⟩
    · rw [Nat.mod_eq_of_lt hlt]
      exact hfirst.holds
    · exact hfirst.before i hi (Nat.le_trans hlate (Nat.mod_le _ _))

theorem Runs.lt_of_no_timeout {P d n : ℕ} (h : Runs (P - d) clock) (hd : 0 < d) (hP : d ≤ P)
    (hno : ∀ m < n, (clock (m + 1) - clock 0) % P < d) : clock n - clock 0 < d :=
  (h.toSteps n).lt_of_no_timeout hd hP (Nat.le_refl n) hno

/-- Some reading after the first one is at least `d` past it, modulo the period. -/
theorem Runs.exists_timeout {P d : ℕ} (h : Runs (P - d) clock) (hd : 0 < d) (hP : d ≤ P) :
    ∃ n, d ≤ (clock (n + 1) - clock 0) % P := by
  refine Classical.byContradiction fun hno => ?_
  obtain ⟨n, hn⟩ := h.unbounded (clock 0 + d)
  have hlow := h.lt_of_no_timeout hd hP (n := n) fun m _ => Nat.lt_of_not_le fun hle => hno ⟨m, hle⟩
  omega

/-- The readings go up. -/
theorem Runs.monotone (h : Runs step clock) {m n : ℕ} (hmn : m ≤ n) : clock m ≤ clock n := by
  induction hmn with
  | refl => exact Nat.le_refl _
  | step _ ih => exact Nat.le_trans ih (h.mono _)

end Wraparound
