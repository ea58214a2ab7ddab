import Mathlib.Order.Bounds.Basic
import Mathlib.Order.Lattice

/-!
# Least values

A scan that keeps the least value so far ends with the least of its start and of the values. The place at which a
function on an initial segment of the naturals takes its least value for the first time is found by a search that
keeps the best place so far.
-/

namespace MtcDrivers

namespace Search

section

variable {α β : Type*} [LinearOrder β]

/-- The start, and the values of `f` on the list. -/
def candidates (a : β) (f : α → β) (l : List α) : Set β := {d | d = a ∨ ∃ x ∈ l, f x = d}

theorem isLeast_scan (a : β) (f : α → β) (l : List α) :
    IsLeast (candidates a f l) (l.foldl (fun m x => if f x ≤ m then f x else m) a) := by
  induction l generalizing a with
  | nil =>
    refine ⟨.inl rfl, ?_⟩
    rintro d (rfl | ⟨x, hx, -⟩)
    · exact le_rfl
    · cases hx
  | cons x l ih =>
    obtain ⟨hmem, hle⟩ := ih (if f x ≤ a then f x else a)
    have hstart : (if f x ≤ a then f x else a) ≤ a ∧ (if f x ≤ a then f x else a) ≤ f x := by
      split
      · next h => exact ⟨h, le_rfl⟩
      · next h => exact ⟨le_rfl, (not_le.mp h).le⟩
    rw [List.foldl_cons]
    constructor
    · rcases hmem with heq | ⟨y, hy, heq⟩
      · rw [heq]
        split
        · exact .inr ⟨x, List.mem_cons_self, rfl⟩
        · exact .inl rfl
      · exact .inr ⟨y, List.mem_cons_of_mem _ hy, heq⟩
    · rintro d (rfl | ⟨y, hy, rfl⟩)
      · exact (hle (.inl rfl)).trans hstart.1
      · rcases List.mem_cons.mp hy with rfl | hy
        · exact (hle (.inl rfl)).trans hstart.2
        · exact hle (.inr ⟨y, hy, rfl⟩)

end

/-! ## The earliest minimum -/

section

variable {α : Type*} [LinearOrder α] {f : ℕ → α} {n k : ℕ}

/-- `k` is the first of the places below `n` at which `f` is least. -/
structure IsEarliestMin (f : ℕ → α) (n k : ℕ) : Prop where
  lt : k < n
  le : ∀ i < n, f k ≤ f i
  first : ∀ i < k, f k < f i

theorem isEarliestMin_one (f : ℕ → α) : IsEarliestMin f 1 0 where
  lt := Nat.one_pos
  le i hi := by
    rw [Nat.lt_one_iff.mp hi]
  first i hi := absurd hi (Nat.not_lt_zero i)

/-- A new place wins if its value is less than the best so far. -/
theorem IsEarliestMin.take (h : IsEarliestMin f n k) (hlt : f n < f k) : IsEarliestMin f (n + 1) n where
  lt := Nat.lt_succ_self n
  le i hi := by
    rcases Nat.lt_succ_iff_lt_or_eq.mp hi with hi | rfl
    · exact (hlt.trans_le (h.le i hi)).le
    · exact le_rfl
  first i hi := hlt.trans_le (h.le i hi)

theorem IsEarliestMin.keep (h : IsEarliestMin f n k) (hle : ¬ f n < f k) : IsEarliestMin f (n + 1) k where
  lt := Nat.lt_succ_of_lt h.lt
  le i hi := by
    rcases Nat.lt_succ_iff_lt_or_eq.mp hi with hi | rfl
    · exact h.le i hi
    · exact not_lt.mp hle
  first := h.first

end

end Search

end MtcDrivers
