import Mathlib.Algebra.Polynomial.Div
import Mathlib.Algebra.CharP.Two
import Mathlib.Algebra.Polynomial.Monic
import Mathlib.Tactic.LinearCombination
import MtcDrivers.Bits.ShiftRegister

/-!
# Cyclic codes over bits

The remainder register of a binary cyclic code: bits are shifted in at the bottom, and whenever a one
leaves at the top the generator is added. It computes the remainder of the polynomial of the bits
modulo the generator polynomial. Remainders are linear in exclusive or, and linear maps between words
are determined by the words with one bit.
-/

namespace CyclicCode

open ShiftRegister Polynomial

variable {n k : ℕ}

/-! ## Linear maps -/

/-- The map commutes with exclusive or. -/
def XorLinear (f : BitVec n → BitVec k) : Prop := ∀ x y, f (x ^^^ y) = f x ^^^ f y

theorem XorLinear.map_zero {f : BitVec n → BitVec k} (hf : XorLinear f) : f 0#n = 0#k := by
  have h := hf 0#n 0#n
  rwa [BitVec.xor_self, BitVec.xor_self] at h

theorem XorLinear.comp {m : ℕ} {f : BitVec n → BitVec k} {h : BitVec m → BitVec n}
    (hf : XorLinear f) (hh : XorLinear h) : XorLinear fun x => f (h x) := by
  intro x y
  show f (h (x ^^^ y)) = f (h x) ^^^ f (h y)
  rw [hh, hf]

theorem XorLinear.xor {f h : BitVec n → BitVec k} (hf : XorLinear f) (hh : XorLinear h) :
    XorLinear fun x => f x ^^^ h x := by
  intro x y
  show f (x ^^^ y) ^^^ h (x ^^^ y) = (f x ^^^ h x) ^^^ (f y ^^^ h y)
  rw [hf, hh]
  ac_rfl

/-- Clearing one bit takes one word with a single bit away. -/
theorem split_bit (x : BitVec n) (i : ℕ) :
    x = (x &&& ~~~ BitVec.twoPow n i) ^^^ (x &&& BitVec.twoPow n i) := by
  ext j hj
  simp only [BitVec.getElem_xor, BitVec.getElem_and, BitVec.getElem_not]
  cases x[j] <;> cases (BitVec.twoPow n i)[j] <;> rfl

/-- Linear maps that agree on the words with one bit agree. -/
theorem XorLinear.ext {f h : BitVec n → BitVec k} (hf : XorLinear f) (hh : XorLinear h)
    (hbit : ∀ i < n, f (BitVec.twoPow n i) = h (BitVec.twoPow n i)) : f = h := by
  -- by induction on how far up the word may have bits
  have hlow : ∀ m ≤ n, ∀ x : BitVec n, (∀ i, m ≤ i → x.getLsbD i = false) → f x = h x := by
    intro m
    induction m with
    | zero =>
      intro _ x hx
      have hzero : x = 0#n := BitVec.eq_of_getLsbD_eq fun i _ => by simp [hx i (Nat.zero_le i)]
      rw [hzero, hf.map_zero, hh.map_zero]
    | succ m ih =>
      intro hm x hx
      have hrest : f (x &&& ~~~ BitVec.twoPow n m) = h (x &&& ~~~ BitVec.twoPow n m) := by
        refine ih (by omega) _ fun i hi => ?_
        by_cases him : i = m
        · subst him
          have hin : i < n := by omega
          simp [hin]
        · have htop : x.getLsbD i = false := hx i (by omega)
          simp [htop]
      have hone : f (x &&& BitVec.twoPow n m) = h (x &&& BitVec.twoPow n m) := by
        rw [BitVec.and_twoPow]
        by_cases hb : x.getLsbD m
        · rw [if_pos hb]
          exact hbit m (by omega)
        · rw [if_neg hb, hf.map_zero, hh.map_zero]
      rw [split_bit x m, hf, hh, hrest, hone]
  funext x
  exact hlow n (Nat.le_refl n) x fun i hi => BitVec.getLsbD_of_ge x i hi

/-- Add to `v` the entries of a table whose masks meet `x`. -/
def maskedXor (table : List (BitVec n × BitVec k)) (x : BitVec n) (v : BitVec k) : BitVec k :=
  table.foldl (fun v p => if x &&& p.1 ≠ 0 then v ^^^ p.2 else v) v

/-- With masks of one bit each the sum is linear. -/
theorem maskedXor_xor {table : List (BitVec n × BitVec k)}
    (hbit : ∀ p ∈ table, ∃ i < n, p.1 = BitVec.twoPow n i) (x y : BitVec n) (v v' : BitVec k) :
    maskedXor table (x ^^^ y) (v ^^^ v') = maskedXor table x v ^^^ maskedXor table y v' := by
  induction table generalizing v v' with
  | nil => rfl
  | cons p table ih =>
    obtain ⟨i, hi, hp⟩ := hbit p List.mem_cons_self
    have hentry : ∀ (z : BitVec n) (u : BitVec k),
        (if z &&& p.1 ≠ 0 then u ^^^ p.2 else u) = u ^^^ bif z.getLsbD i then p.2 else 0 := by
      intro z u
      rw [← testBit_mask hi hp]
      by_cases hz : z &&& p.1 = 0
      · simp [hz]
      · rw [if_pos hz, if_neg hz]
        rfl
    have hcons : ∀ (z : BitVec n) (u : BitVec k), maskedXor (p :: table) z u =
        maskedXor table z (u ^^^ bif z.getLsbD i then p.2 else 0) := by
      intro z u
      rw [← hentry]
      rfl
    have hsum : (bif (x ^^^ y).getLsbD i then p.2 else 0) =
        (bif x.getLsbD i then p.2 else 0) ^^^ (bif y.getLsbD i then p.2 else 0) := by
      rw [BitVec.getLsbD_xor]
      cases x.getLsbD i <;> cases y.getLsbD i <;> simp
    have hreorder : (v ^^^ v') ^^^ (bif (x ^^^ y).getLsbD i then p.2 else 0) =
        (v ^^^ bif x.getLsbD i then p.2 else 0) ^^^ (v' ^^^ bif y.getLsbD i then p.2 else 0) := by
      rw [hsum]
      ac_rfl
    rw [hcons, hcons, hcons, hreorder]
    exact ih (fun q hq => hbit q (List.mem_cons_of_mem p hq)) _ _

/-! ## The remainder register -/

/-- One step of the register, with the low coefficients `g` of the generator. -/
def step (g r : BitVec n) (b : Bool) : BitVec n := r.shiftConcat b ^^^ bif r.msb then g else 0

/-- What is in the register after the given bits. -/
def remainder (g : BitVec n) (bits : List Bool) : BitVec n := bits.foldl (step g) 0

theorem remainder_append (g : BitVec n) (a b : List Bool) :
    remainder g (a ++ b) = b.foldl (step g) (remainder g a) := List.foldl_append

theorem remainder_append_singleton (g : BitVec n) (bits : List Bool) (b : Bool) :
    remainder g (bits ++ [b]) = step g (remainder g bits) b := by
  rw [remainder_append]
  rfl

theorem step_xor (g r r' : BitVec n) (b b' : Bool) :
    step g (r ^^^ r') (b ^^ b') = step g r b ^^^ step g r' b' := by
  have hshift : (r ^^^ r').shiftConcat (b ^^ b') = r.shiftConcat b ^^^ r'.shiftConcat b' := by
    ext i hi
    simp only [BitVec.getElem_shiftConcat, BitVec.getElem_xor]
    by_cases h0 : i = 0
    · simp [h0]
    · simp [h0]
  have hgen : (bif (r ^^^ r').msb then g else 0) =
      (bif r.msb then g else 0) ^^^ (bif r'.msb then g else 0) := by
    rw [BitVec.msb_xor]
    cases r.msb <;> cases r'.msb <;> simp
  rw [step, hshift, hgen, step, step]
  ac_rfl

/-- The register is linear in what it held before and in the bits shifted in. -/
theorem foldl_step_xor (g : BitVec n) {m : ℕ} (x y : BitVec m) (k : ℕ) (r r' : BitVec n) :
    ((msbFirst (x ^^^ y)).take k).foldl (step g) (r ^^^ r') =
      ((msbFirst x).take k).foldl (step g) r ^^^ ((msbFirst y).take k).foldl (step g) r' := by
  induction k with
  | zero => simp
  | succ k ih =>
    by_cases hk : k < m
    · have htake : ∀ z : BitVec m, (msbFirst z).take (k + 1) = (msbFirst z).take k ++ [z.getMsbD k] := by
        intro z
        have hlen : k < (msbFirst z).length := by simpa using hk
        rw [← getElem_msbFirst z hlen, List.take_append_getElem hlen]
      simp only [htake, List.foldl_append, ih, List.foldl_cons, List.foldl_nil]
      rw [BitVec.getMsbD_xor, step_xor]
    · have htake : ∀ z : BitVec m, (msbFirst z).take (k + 1) = (msbFirst z).take k := by
        intro z
        rw [List.take_of_length_le (by simp; omega), List.take_of_length_le (by simp; omega)]
      simpa only [htake] using ih

/-- The remainder of a word followed by zeros is linear. -/
theorem xorLinear_remainder (g : BitVec n) (m z : ℕ) :
    XorLinear fun x : BitVec m => remainder g (msbFirst x ++ List.replicate z false) := by
  have hzeros : XorLinear fun r : BitVec n => (List.replicate z false).foldl (step g) r := by
    induction z with
    | zero => exact fun _ _ => rfl
    | succ z ih =>
      have hstep : XorLinear fun r : BitVec n => step g r false := fun r r' =>
        step_xor g r r' false false
      exact ih.comp hstep
  have hword : XorLinear fun x : BitVec m => remainder g (msbFirst x) := by
    intro x y
    have h := foldl_step_xor g x y m 0 0
    have hall : ∀ w : BitVec m, (msbFirst w).take m = msbFirst w := fun w =>
      List.take_of_length_le (by simp)
    rw [BitVec.xor_self, hall, hall, hall] at h
    exact h
  have hcomp := hzeros.comp hword
  intro x y
  simp only [remainder_append]
  exact hcomp x y

/-! ## The polynomial of the register

The coefficients are taken in any ring of characteristic two. -/

section Polynomial

variable (R : Type) [CommRing R]

/-- A bit as a coefficient. -/
def coeffBit (b : Bool) : R := if b then 1 else 0

theorem coeffBit_false : coeffBit R false = 0 := rfl

/-- The polynomial with the given bits as its coefficients, the highest first. -/
noncomputable def poly (bits : List Bool) : R[X] :=
  bits.foldl (fun p b => p * X + C (coeffBit R b)) 0

theorem poly_append_singleton (bits : List Bool) (b : Bool) :
    poly R (bits ++ [b]) = poly R bits * X + C (coeffBit R b) := by
  simp [poly]

/-- The polynomial of a word. -/
noncomputable def ofWord (x : BitVec n) : R[X] :=
  ∑ i ∈ Finset.range n, C (coeffBit R (x.getLsbD i)) * X ^ i

theorem coeff_ofWord (x : BitVec n) (i : ℕ) : (ofWord R x).coeff i = coeffBit R (x.getLsbD i) := by
  rw [ofWord, finsetSum_coeff]
  simp only [coeff_C_mul_X_pow]
  rw [Finset.sum_ite_eq]
  by_cases hi : i < n
  · rw [if_pos (Finset.mem_range.mpr hi)]
  · rw [if_neg (by simpa using hi), BitVec.getLsbD_of_ge x i (by omega)]
    rfl

theorem ofWord_injective [Nontrivial R] : Function.Injective (ofWord (n := n) R) := by
  intro x y h
  refine BitVec.eq_of_getLsbD_eq fun i _ => ?_
  have hcoeff : coeffBit R (x.getLsbD i) = coeffBit R (y.getLsbD i) := by
    rw [← coeff_ofWord, ← coeff_ofWord, h]
  revert hcoeff
  cases x.getLsbD i <;> cases y.getLsbD i <;> simp [coeffBit]

theorem degree_ofWord_lt (x : BitVec n) : (ofWord R x).degree < n := by
  rw [degree_lt_iff_coeff_zero]
  intro i hi
  rw [coeff_ofWord, BitVec.getLsbD_of_ge x i hi]
  rfl

/-- The generator: its low coefficients are the word, the highest one is one. -/
noncomputable def generator (g : BitVec n) : R[X] := X ^ n + ofWord R g

theorem monic_generator (g : BitVec n) : (generator R g).Monic :=
  monic_X_pow_add (degree_ofWord_lt R g)

theorem degree_generator [Nontrivial R] (g : BitVec n) : (generator R g).degree = n := by
  have hlt : (ofWord R g).degree < (X ^ n : R[X]).degree := by
    rw [degree_X_pow]
    exact degree_ofWord_lt R g
  rw [generator, degree_add_eq_left_of_degree_lt hlt, degree_X_pow]

variable [CharP R 2]

theorem coeffBit_xor (a b : Bool) : coeffBit R (a ^^ b) = coeffBit R a + coeffBit R b := by
  have htwo : (1 : R) + 1 = 0 := CharTwo.add_self_eq_zero 1
  cases a <;> cases b <;> simp [coeffBit, htwo]

/-- A step multiplies by `X`, adds the bit and subtracts the generator once if a one leaves. -/
theorem ofWord_step (hn : 0 < n) (g r : BitVec n) (b : Bool) :
    ofWord R (step g r b) + C (coeffBit R r.msb) * generator R g =
      ofWord R r * X + C (coeffBit R b) := by
  ext i
  simp only [coeff_add, coeff_C_mul, generator, coeff_X_pow, coeff_ofWord, step, BitVec.getLsbD_xor,
    coeffBit_xor, coeff_C]
  have hgen : coeffBit R ((bif r.msb then g else 0).getLsbD i) =
      coeffBit R r.msb * coeffBit R (g.getLsbD i) := by
    cases r.msb <;> simp [coeffBit]
  have htwo : ∀ c : R, c + c = 0 := CharTwo.add_self_eq_zero
  rw [hgen]
  rcases i with - | i
  · have hne : 0 ≠ n := by omega
    have hbit : (r.shiftConcat b).getLsbD 0 = b := by simp [hn]
    rw [hbit, mul_coeff_zero, coeff_X_zero, mul_zero, if_neg hne, if_pos rfl]
    linear_combination htwo (coeffBit R r.msb * coeffBit R (g.getLsbD 0))
  · have hsucc : i + 1 ≠ 0 := Nat.succ_ne_zero i
    rw [coeff_mul_X, coeff_ofWord, if_neg hsucc]
    rcases Nat.lt_trichotomy (i + 1) n with hi | hi | hi
    · have hne : i + 1 ≠ n := by omega
      have hbit : (r.shiftConcat b).getLsbD (i + 1) = r.getLsbD i := by
        rw [BitVec.getLsbD_shiftConcat, if_neg hsucc, decide_eq_true hi]
        rfl
      rw [hbit, if_neg hne]
      linear_combination htwo (coeffBit R r.msb * coeffBit R (g.getLsbD (i + 1)))
    · -- the coefficient that leaves the register
      have hmsb : r.msb = r.getLsbD i := by
        rw [BitVec.msb_eq_getLsbD_last]
        congr 1
        omega
      have hbit : (r.shiftConcat b).getLsbD (i + 1) = false :=
        BitVec.getLsbD_of_ge _ _ (by omega)
      rw [hbit, if_pos hi, hmsb, coeffBit_false]
      linear_combination htwo (coeffBit R (r.getLsbD i) * coeffBit R (g.getLsbD (i + 1)))
    · have hne : i + 1 ≠ n := by omega
      have hbit : (r.shiftConcat b).getLsbD (i + 1) = false :=
        BitVec.getLsbD_of_ge _ _ (by omega)
      have hr : r.getLsbD i = false := BitVec.getLsbD_of_ge _ _ (by omega)
      rw [hbit, hr, if_neg hne, coeffBit_false]
      linear_combination htwo (coeffBit R r.msb * coeffBit R (g.getLsbD (i + 1)))

/-- The register holds the remainder of the polynomial of the bits. -/
theorem ofWord_remainder [Nontrivial R] (hn : 0 < n) (g : BitVec n) (bits : List Bool) :
    ofWord R (remainder g bits) = poly R bits %ₘ generator R g := by
  -- the quotient grows by one coefficient a step
  have hquot : ∃ q, ofWord R (remainder g bits) + generator R g * q = poly R bits := by
    induction bits using List.reverseRecOn with
    | nil =>
      refine ⟨0, ?_⟩
      ext i
      simp [remainder, poly, coeff_ofWord, coeffBit]
    | append_singleton bits b ih =>
      obtain ⟨q, hq⟩ := ih
      refine ⟨q * X + C (coeffBit R (remainder g bits).msb), ?_⟩
      rw [remainder_append_singleton, poly_append_singleton, ← hq]
      linear_combination ofWord_step R hn g (remainder g bits) b
  obtain ⟨q, hq⟩ := hquot
  have hlt : (ofWord R (remainder g bits)).degree < (generator R g).degree := by
    rw [degree_generator]
    exact degree_ofWord_lt R _
  exact (div_modByMonic_unique q _ (monic_generator R g) ⟨hq, hlt⟩).2.symm

end Polynomial

end CyclicCode
