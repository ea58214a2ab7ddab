import Mathlib.Data.List.OfFn

/-!
# Shift registers

A word sent or received bit by bit passes through a shift register: `shiftOut` lists the bits that
leave a register at its top, and `shiftIn` pushes a list of bits into one at its bottom. Both are
related to `msbFirst`, the bits of a word from the most significant one down.
-/

namespace ShiftRegister

variable {n : ℕ}

/-- The bits of a word, most significant first. -/
def msbFirst (x : BitVec n) : List Bool := List.ofFn fun i : Fin n => x.getMsbD i

/-- The top bits of a register over the given number of left shifts. -/
def shiftOut : ℕ → BitVec n → List Bool
  | 0, _ => []
  | k + 1, x => x.msb :: shiftOut k (x <<< 1)

/-- Push bits into a register, the first one ending highest. -/
def shiftIn (acc : BitVec n) (bits : List Bool) : BitVec n := bits.foldl BitVec.shiftConcat acc

@[simp] theorem length_msbFirst (x : BitVec n) : (msbFirst x).length = n := by simp [msbFirst]

@[simp] theorem length_shiftOut (k : ℕ) (x : BitVec n) : (shiftOut k x).length = k := by
  induction k generalizing x with
  | zero => rfl
  | succ k ih => simp [shiftOut, ih]

@[simp] theorem getElem_msbFirst (x : BitVec n) {i : ℕ} (h : i < (msbFirst x).length) :
    (msbFirst x)[i] = x.getMsbD i := by
  simp [msbFirst]

theorem getElem_shiftOut (k : ℕ) (x : BitVec n) {i : ℕ} (h : i < (shiftOut k x).length) :
    (shiftOut k x)[i] = x.getMsbD i := by
  induction k generalizing x i with
  | zero => simp at h
  | succ k ih =>
    cases i with
    | zero => simp [shiftOut, BitVec.msb]
    | succ i =>
      simp only [shiftOut, List.getElem_cons_succ, ih, BitVec.getMsbD_shiftLeft]

/-- Shifting out `k` bits sends the top `k` bits of the word. -/
theorem shiftOut_eq_take (x : BitVec n) {k : ℕ} (hk : k ≤ n) :
    shiftOut k x = (msbFirst x).take k := by
  refine List.ext_getElem (by simp [hk]) fun i h1 h2 => ?_
  rw [getElem_shiftOut, List.getElem_take, getElem_msbFirst]

/-- A register that is shifted out completely sends the whole word. -/
theorem shiftOut_all (x : BitVec n) : shiftOut n x = msbFirst x := by
  rw [shiftOut_eq_take x (Nat.le_refl n)]
  exact List.take_of_length_le (by simp)

theorem msbFirst_injective : Function.Injective (msbFirst (n := n)) := by
  intro x y h
  refine BitVec.eq_of_getMsbD_eq fun i hi => ?_
  exact congrFun (List.ofFn_injective h) ⟨i, hi⟩

/-- A constant bit sequence is the word of all zeros or of all ones. -/
theorem msbFirst_eq_replicate {x : BitVec n} {b : Bool} :
    msbFirst x = List.replicate n b ↔ x = bif b then BitVec.allOnes n else 0 := by
  have hrep : msbFirst (bif b then BitVec.allOnes n else 0) = List.replicate n b := by
    refine List.ext_getElem (by simp) fun i h1 h2 => ?_
    have hi : i < n := by simpa using h1
    cases b with
    | false => simp
    | true => simp [BitVec.getMsbD, hi]; omega
  rw [← hrep]
  exact msbFirst_injective.eq_iff

theorem getLsbD_shiftIn (acc : BitVec n) (bits : List Bool) (i : ℕ) (hi : i < n) :
    (shiftIn acc bits).getLsbD i =
      if h : i < bits.length then bits[bits.length - 1 - i] else acc.getLsbD (i - bits.length) := by
  induction bits generalizing acc with
  | nil => simp [shiftIn]
  | cons b bits ih =>
    have hstep : shiftIn acc (b :: bits) = shiftIn (acc.shiftConcat b) bits := rfl
    rw [hstep, ih]
    by_cases h1 : i < bits.length
    · have h2 : i < (b :: bits).length := by simp; omega
      rw [dif_pos h1, dif_pos h2]
      have hpos : (b :: bits).length - 1 - i = (bits.length - 1 - i) + 1 := by simp; omega
      simp only [hpos, List.getElem_cons_succ]
    · rw [dif_neg h1, BitVec.getLsbD_shiftConcat]
      by_cases h2 : i = bits.length
      · subst h2
        have hn : 0 < n := by omega
        simp [hn]
      · have h3 : ¬ i < (b :: bits).length := by simp; omega
        rw [dif_neg h3]
        have hne : i - bits.length ≠ 0 := by omega
        have hlt : i - bits.length < n := by omega
        have hsub : i - bits.length - 1 = i - (b :: bits).length := by simp; omega
        simp [hne, hlt, hsub]

/-- A register filled with as many bits as it is wide holds the word with these bits. -/
theorem msbFirst_shiftIn (acc : BitVec n) {bits : List Bool} (h : bits.length = n) :
    msbFirst (shiftIn acc bits) = bits := by
  refine List.ext_getElem (by simp [h]) fun i h1 h2 => ?_
  have hi : i < n := by simpa using h1
  have hlt : n - 1 - i < bits.length := by omega
  rw [getElem_msbFirst, BitVec.getMsbD, getLsbD_shiftIn _ _ _ (by omega), dif_pos hlt]
  simp only [hi, decide_true, Bool.true_and]
  congr 1
  omega

theorem shiftIn_append (acc : BitVec n) (a b : List Bool) :
    shiftIn acc (a ++ b) = shiftIn (shiftIn acc a) b :=
  List.foldl_append

/-- A register holds the last bits that were pushed into it. -/
theorem msbFirst_shiftIn_drop (acc : BitVec n) {bits : List Bool} (h : n ≤ bits.length) :
    msbFirst (shiftIn acc bits) = bits.drop (bits.length - n) := by
  conv_lhs => rw [← List.take_append_drop (bits.length - n) bits, shiftIn_append]
  exact msbFirst_shiftIn _ (by rw [List.length_drop]; omega)

/-- A wider word starts with zeros. -/
theorem msbFirst_setWidth (m : ℕ) (x : BitVec n) :
    msbFirst (x.setWidth (m + n)) = List.replicate m false ++ msbFirst x := by
  refine List.ext_getElem (by simp) fun i h1 h2 => ?_
  have hi : i < m + n := by simpa using h1
  rw [getElem_msbFirst, List.getElem_append]
  by_cases him : i < m
  · have hlt : ¬ m + n - 1 - i < n := by omega
    simp [him, BitVec.getMsbD, hi, BitVec.getLsbD_of_ge x _ (by omega : n ≤ m + n - 1 - i)]
  · have hlt : i - m < n := by omega
    have hidx : m + n - 1 - i = n - 1 - (i - m) := by omega
    have hin : n - 1 - (i - m) < m + n := by omega
    simp [him, BitVec.getMsbD, hi, hlt, hidx, hin]

/-- A shift drops the top bits and fills up with zeros. -/
theorem msbFirst_shiftLeft (x : BitVec n) {k : ℕ} (hk : k ≤ n) :
    msbFirst (x <<< k) = (msbFirst x).drop k ++ List.replicate k false := by
  refine List.ext_getElem (by simp; omega) fun i h1 h2 => ?_
  have hi : i < n := by simpa using h1
  rw [getElem_msbFirst, List.getElem_append]
  by_cases hik : i < n - k
  · simp [hik, BitVec.getMsbD_shiftLeft, Nat.add_comm]
  · have hge : n ≤ i + k := by omega
    simp [hik, BitVec.getMsbD_shiftLeft, BitVec.getMsbD_of_ge x (i + k) hge]

/-- A shift down drops the lowest bits and puts zeros on top. -/
theorem msbFirst_ushiftRight (x : BitVec n) {k : ℕ} (hk : k ≤ n) :
    msbFirst (x >>> k) = List.replicate k false ++ (msbFirst x).take (n - k) := by
  refine List.ext_getElem (by simp; omega) fun i h1 h2 => ?_
  have hi : i < n := by simpa using h1
  rw [getElem_msbFirst, List.getElem_append, BitVec.getMsbD_ushiftRight]
  by_cases hik : i < k
  · simp [hik]
  · simp [hik, hi]

/-- Two words whose ones do not overlap. -/
theorem msbFirst_or {x y : BitVec n} {a b : List Bool} {k : ℕ}
    (hx : msbFirst x = a ++ List.replicate k false)
    (hy : msbFirst y = List.replicate a.length false ++ b) : msbFirst (x ||| y) = a ++ b := by
  have hlen : a.length + k = n := by simpa using (congrArg List.length hx).symm
  have hlen' : a.length + b.length = n := by simpa using (congrArg List.length hy).symm
  refine List.ext_getElem (by simp [hlen']) fun i h1 h2 => ?_
  have hi : i < n := by simpa using h1
  have hbit : ∀ {z : BitVec n} {l : List Bool} (hz : msbFirst z = l) (hl : i < l.length),
      z.getMsbD i = l.get ⟨i, hl⟩ := by
    intro z l hz hl
    subst hz
    simp
  rw [getElem_msbFirst, BitVec.getMsbD_or, hbit hx (by simp; omega), hbit hy (by simp; omega)]
  simp only [List.get_eq_getElem, List.getElem_append]
  by_cases hia : i < a.length
  · simp [hia]
  · simp [hia]
/-- The top bits of a word, as a narrower word. -/
theorem msbFirst_top {m : ℕ} (x : BitVec n) (hm : m ≤ n) :
    msbFirst ((x >>> (n - m)).setWidth m) = (msbFirst x).take m := by
  refine List.ext_getElem (by simp [hm]) fun i h1 h2 => ?_
  have hi : i < m := by simpa using h1
  rw [List.getElem_take, getElem_msbFirst, getElem_msbFirst, BitVec.getMsbD, BitVec.getMsbD]
  have hlt : m - 1 - i < m := by omega
  have hin : i < n := by omega
  have hidx : n - m + (m - 1 - i) = n - 1 - i := by omega
  simp [hi, hin, hlt, hidx]
/-- The shift of the source: move up, then set the lowest bit if the input is high. -/
theorem shiftConcat_eq (x : BitVec n) (b : Bool) :
    x.shiftConcat b = if b then x <<< 1 ||| 1 else x <<< 1 := by
  ext i hi
  cases b with
  | false => cases i <;> simp [BitVec.getElem_shiftConcat]
  | true => cases i <;> simp [BitVec.getElem_shiftConcat]

/-- One bit of a word, tested with a mask. -/
theorem testBit_mask {x m : BitVec n} {i : ℕ} (hi : i < n) (hm : m = BitVec.twoPow n i) :
    (if x &&& m = 0 then false else true) = x.getLsbD i := by
  subst hm
  rw [BitVec.and_twoPow]
  cases hx : x.getLsbD i with
  | false => simp
  | true =>
    have hne : BitVec.twoPow n i ≠ 0#n := by
      intro h
      have := congrArg (fun y => BitVec.getLsbD y i) h
      simp [hi] at this
    simp [hne]

end ShiftRegister
