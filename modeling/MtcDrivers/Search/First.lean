import Mathlib.Data.List.Forall2
import Mathlib.Data.Nat.Find
import Mathlib.Tactic.Tauto

/-!
# The first place

The first place of an initial segment of the naturals at which a predicate holds, and when it is the same
place for two predicates. A search for a key in two association lists with the same keys in the same order, whose
values correspond to each other, ends at the same place in both.
-/

namespace MtcDrivers

namespace Search

section

variable {p q : ℕ → Prop} {n k : ℕ}

/-- `k` is the first of the places below `n` at which `p` holds. -/
structure IsFirst (p : ℕ → Prop) (n k : ℕ) : Prop where
  lt : k < n
  holds : p k
  before : ∀ i < k, ¬ p i

theorem IsFirst.unique {k' : ℕ} (h : IsFirst p n k) (h' : IsFirst p n k') : k = k' := by
  rcases Nat.lt_trichotomy k k' with hlt | heq | hgt
  · exact absurd h.holds (h'.before k hlt)
  · exact heq
  · exact absurd h'.holds (h.before k' hgt)

/-- Where `p` holds somewhere, it holds somewhere first. -/
theorem exists_isFirst (hk : k < n) (hp : p k) : ∃ m ≤ k, IsFirst p n m := by
  classical
  have hex : ∃ k, p k := ⟨k, hp⟩
  have hle : Nat.find hex ≤ k := Nat.find_min' hex hp
  exact ⟨Nat.find hex, hle, by omega, Nat.find_spec hex, fun i hi => Nat.find_min hex hi⟩

/-- Two predicates hold first at the same place exactly if each place at which only one of them holds comes
    after a place at which both do. -/
theorem isFirst_congr_iff :
    (∀ k, IsFirst p n k ↔ IsFirst q n k) ↔ ∀ k < n, ¬ (p k ↔ q k) → ∃ j < k, p j ∧ q j := by
  constructor
  · intro h k hk hne
    have hor : p k ∨ q k := by tauto
    obtain ⟨m, hm, hpm, hqm⟩ : ∃ m ≤ k, IsFirst p n m ∧ IsFirst q n m := by
      rcases hor with hp | hq
      · obtain ⟨m, hm, hfirst⟩ := exists_isFirst hk hp
        exact ⟨m, hm, hfirst, (h m).mp hfirst⟩
      · obtain ⟨m, hm, hfirst⟩ := exists_isFirst hk hq
        exact ⟨m, hm, (h m).mpr hfirst, hfirst⟩
    have hlt : m < k := by
      rcases Nat.lt_or_eq_of_le hm with hlt | rfl
      · exact hlt
      · exact absurd (iff_of_true hpm.holds hqm.holds) hne
    exact ⟨m, hlt, hpm.holds, hqm.holds⟩
  · intro h k
    have hmove : ∀ {p q : ℕ → Prop}, (∀ k < n, ¬ (p k ↔ q k) → ∃ j < k, p j ∧ q j) →
        IsFirst p n k → IsFirst q n k := by
      intro p q h hfirst
      have hbefore : ∀ i < k, ¬ q i := by
        intro i hi hq
        obtain ⟨j, hj, hpj, -⟩ := h i (by have := hfirst.lt; omega) (fun hiff => hfirst.before i hi (hiff.mpr hq))
        exact hfirst.before j (by omega) hpj
      refine ⟨hfirst.lt, ?_, hbefore⟩
      by_contra hq
      obtain ⟨j, hj, -, hqj⟩ := h k hfirst.lt (fun hiff => hq (hiff.mp hfirst.holds))
      exact hbefore j hj hqj
    refine ⟨hmove h, hmove fun k hk hne => ?_⟩
    obtain ⟨j, hj, hp, hq⟩ := h k hk (fun hiff => hne hiff.symm)
    exact ⟨j, hj, hq, hp⟩

/-- Where at most one element satisfies the test, the first that does is the same in any order. -/
theorem find?_perm {α : Type*} {test : α → Bool} {l l' : List α} (hperm : l.Perm l')
    (hunique : ∀ a ∈ l, ∀ b ∈ l, test a = true → test b = true → a = b) : l.find? test = l'.find? test := by
  cases h : l.find? test with
  | none =>
    rw [List.find?_eq_none] at h
    refine (List.find?_eq_none.mpr fun a ha => ?_).symm
    exact h a (hperm.mem_iff.mpr ha)
  | some a =>
    have ha := List.mem_of_find?_eq_some h
    have htest := List.find?_some h
    cases h' : l'.find? test with
    | none => exact absurd htest (List.find?_eq_none.mp h' a (hperm.mem_iff.mp ha))
    | some b =>
      have hb := hperm.mem_iff.mpr (List.mem_of_find?_eq_some h')
      rw [hunique a ha b hb htest (List.find?_some h')]

end

/-! ## Tables with the same keys -/

section

variable {α β γ : Type}

/-- The tables have the same keys, and the values of each key are related. -/
def Matched (R : α → β → γ → Prop) : List (α × β) → List (α × γ) → Prop :=
  List.Forall₂ fun x y => x.1 = y.1 ∧ R x.1 x.2 y.2

variable {R : α → β → γ → Prop} {xs : List (α × β)} {ys : List (α × γ)}

theorem matched_nil : Matched R ([] : List (α × β)) ([] : List (α × γ)) := .nil

theorem matched_cons {k : α} {b : β} {c : γ} (h : R k b c) (hrest : Matched R xs ys) :
    Matched R ((k, b) :: xs) ((k, c) :: ys) := .cons ⟨rfl, h⟩ hrest

theorem matched_lookup [BEq α] [LawfulBEq α] {a : α} (h : Matched R xs ys) :
    xs.lookup a = none ∧ ys.lookup a = none ∨
      ∃ b c, xs.lookup a = some b ∧ ys.lookup a = some c ∧ R a b c := by
  induction h with
  | nil => exact Or.inl ⟨rfl, rfl⟩
  | @cons x y xs ys hxy _ ih =>
    obtain ⟨k, b⟩ := x
    obtain ⟨k', c⟩ := y
    obtain ⟨hkey, hR⟩ := hxy
    dsimp only at hkey hR
    subst hkey
    by_cases hak : a = k
    · subst hak
      exact Or.inr ⟨b, c, List.lookup_cons_self, List.lookup_cons_self, hR⟩
    · have hbeq : (a == k) = false := beq_eq_false_iff_ne.mpr hak
      rw [List.lookup_cons, List.lookup_cons, hbeq]
      exact ih

end

end Search

end MtcDrivers
