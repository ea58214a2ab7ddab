import Mathlib.Data.List.Basic

/-!
# Ring buffers

A ring of `n` slots that is written at a head, which goes from the last slot back to the first. The slots
hold the last `n` values that were stored.
-/

namespace Ring

variable {α : Type*} {n head head' : ℕ} {blank x : α} {slots slots' : ℕ → α} {xs : List α}

/-- The ring was blank, and `xs` has been stored since, newest first. -/
structure Holds (n : ℕ) (blank : α) (slots : ℕ → α) (head : ℕ) (xs : List α) : Prop where
  head : head = xs.length % n
  recent : ∀ j < n, ∀ hj : j < xs.length, slots ((xs.length - 1 - j) % n) = xs[j]
  rest : ∀ i < n, xs.length ≤ i → slots i = blank

theorem holds_nil (h : ∀ i < n, slots i = blank) : Holds n blank slots 0 [] where
  head := (Nat.zero_mod n).symm
  recent j _ hj := absurd hj (Nat.not_lt_zero j)
  rest i hi _ := h i hi

theorem Holds.head_lt (h : Holds n blank slots head xs) (hn : 0 < n) : head < n := by
  rw [h.head]
  exact Nat.mod_lt _ hn

/-- The index behind the one that belongs to `m` values. -/
theorem succ_mod (hn : 0 < n) (m : ℕ) : (m + 1) % n = if m % n + 1 < n then m % n + 1 else 0 := by
  have hlt := Nat.mod_lt m hn
  rw [Nat.add_mod]
  split
  · rename_i hnext
    by_cases hone : n = 1
    · omega
    · rw [Nat.mod_eq_of_lt (show 1 < n by omega), Nat.mod_eq_of_lt hnext]
  · rename_i hlast
    have hfull : m % n + 1 = n := by omega
    by_cases hone : n = 1
    · rw [hone, Nat.mod_one]
    · rw [Nat.mod_eq_of_lt (show 1 < n by omega), hfull, Nat.mod_self]

/-- Fewer than `n` steps back is another slot. -/
theorem back_mod_ne {m j : ℕ} (hj : j + 1 < n) (hle : j < m) : (m - 1 - j) % n ≠ m % n := by
  intro h
  have hzero : (m - (m - 1 - j)) % n = 0 := Nat.sub_mod_eq_zero_of_mod_eq h.symm
  rw [show m - (m - 1 - j) = j + 1 by omega, Nat.mod_eq_of_lt hj] at hzero
  omega

/-- A value is stored at the head. -/
theorem Holds.store (h : Holds n blank slots head xs) (hn : 0 < n) (hput : slots' head = x)
    (hother : ∀ i < n, i ≠ head → slots' i = slots i)
    (hhead : head' = if head + 1 < n then head + 1 else 0) : Holds n blank slots' head' (x :: xs) where
  head := by
    rw [hhead, h.head, List.length_cons, succ_mod hn]
  recent j hj hlen := by
    rw [List.length_cons] at hlen ⊢
    rcases j with - | j
    · show slots' (xs.length % n) = x
      rw [← h.head, hput]
    · have hne : (xs.length - 1 - j) % n ≠ head := by
        rw [h.head]
        exact back_mod_ne hj (by omega)
      rw [show xs.length + 1 - 1 - (j + 1) = xs.length - 1 - j by omega,
        hother _ (Nat.mod_lt _ hn) hne, h.recent j (by omega) (by omega)]
      rfl
  rest i hi hlen := by
    rw [List.length_cons] at hlen
    have hne : i ≠ head := by
      rw [h.head, Nat.mod_eq_of_lt (by omega)]
      omega
    rw [hother i hi hne, h.rest i hi (by omega)]

/-- A value other than the blank is found if and only if it is among the last `n` stored. -/
theorem Holds.exists_slot_iff (h : Holds n blank slots head xs) (hx : x ≠ blank) :
    (∃ i < n, slots i = x) ↔ x ∈ xs.take n := by
  constructor
  · rintro ⟨i, hi, rfl⟩
    have hlt : i < xs.length := by
      by_contra hge
      exact hx (h.rest i hi (by omega))
    -- `i` is `j` steps behind the newest value
    have hj := Nat.mod_lt (xs.length - 1 - i) (show 0 < n by omega)
    have hle := Nat.mod_le (xs.length - 1 - i) n
    have hback : (xs.length - 1 - (xs.length - 1 - i) % n) % n = i := by
      have hdiv := Nat.div_add_mod (xs.length - 1 - i) n
      have hsplit : xs.length - 1 - (xs.length - 1 - i) % n = i + n * ((xs.length - 1 - i) / n) := by omega
      rw [hsplit, Nat.add_mul_mod_self_left, Nat.mod_eq_of_lt hi]
    have hget := h.recent _ hj (by omega)
    rw [hback] at hget
    rw [hget, List.mem_take_iff_getElem]
    exact ⟨_, by omega, rfl⟩
  · intro hmem
    obtain ⟨j, hj, rfl⟩ := List.mem_take_iff_getElem.mp hmem
    exact ⟨_, Nat.mod_lt _ (by omega), h.recent j (by omega) (by omega)⟩

end Ring
