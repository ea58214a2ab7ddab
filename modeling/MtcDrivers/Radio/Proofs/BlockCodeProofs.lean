import Mathlib.Logic.Function.Basic
import MtcDrivers.Radio.Proofs.PassProofs

/-!
# The block code

The conditional exclusive ors of `radio_cmd_work` compute, up to the invertible factor `X^16`, the
remainder of the window modulo the generator. So the five syndromes that `radio_rds_pass` knows are
exactly those of the five kinds of blocks. The word that it stores is cut to eight bits.
-/

namespace MtcDrivers

open ShiftRegister CyclicCode Polynomial

/-! ## The syndrome of a window -/

/-- The syndrome of a window, as a word of ten bits. -/
def windowSyndrome (w : BitVec 26) : BitVec 10 := (windowTag w).setWidth 10

/-- The remainder of a window modulo the generator. -/
def windowRemainder (w : BitVec 26) : BitVec 10 := checkWord (infoWord w) ^^^ w.setWidth 10

theorem isBlock_iff (x : RdsBlock) (w : BitVec 26) : IsBlock x w ↔ windowRemainder w = x.offsetWord := by
  rw [IsBlock, windowRemainder]
  constructor
  · intro h
    rw [h, ← BitVec.xor_assoc, BitVec.xor_self, BitVec.zero_xor]
  · intro h
    rw [← h, ← BitVec.xor_assoc, BitVec.xor_self, BitVec.zero_xor]

theorem xorLinear_setWidth {n : ℕ} (m : ℕ) : XorLinear fun x : BitVec n => x.setWidth m :=
  fun _ _ => BitVec.setWidth_xor

theorem syndrome_xor : XorLinear syndrome := by
  intro x y
  have hmasks : syndromeTable.map Prod.fst = (List.range 16).map fun i => BitVec.twoPow 32 (6 + i) := by
    decide
  have hbit : ∀ p ∈ syndromeTable, ∃ i < 32, p.1 = BitVec.twoPow 32 i := by
    intro p hp
    have hmask : p.1 ∈ syndromeTable.map Prod.fst := List.mem_map_of_mem hp
    rw [hmasks] at hmask
    obtain ⟨i, hi, hpi⟩ := List.mem_map.mp hmask
    have hlt := List.mem_range.mp hi
    exact ⟨6 + i, by omega, hpi.symm⟩
  have h := maskedXor_xor hbit x y (x >>> 22) (y >>> 22)
  rw [← BitVec.ushiftRight_xor_distrib] at h
  exact h

theorem xorLinear_shift : XorLinear fun w : BitVec 26 => w.setWidth 32 <<< 6 := by
  intro x y
  simp only [BitVec.setWidth_xor, BitVec.shiftLeft_xor_distrib]

theorem xorLinear_windowSyndrome : XorLinear windowSyndrome :=
  (xorLinear_setWidth 10).comp (syndrome_xor.comp xorLinear_shift)

theorem xorLinear_windowRemainder : XorLinear windowRemainder := by
  have hinfo : XorLinear infoWord := fun x y => by
    simp only [infoWord, BitVec.ushiftRight_xor_distrib, BitVec.setWidth_xor]
  exact ((xorLinear_remainder rdsGenerator 16 10).comp hinfo).xor (xorLinear_setWidth 10)

set_option maxRecDepth 4000 in
theorem remainder_window (w : BitVec 26) : remainder rdsGenerator (msbFirst w) = windowRemainder w := by
  have hbit : ∀ i < 26, remainder rdsGenerator (msbFirst (BitVec.twoPow 26 i) ++ []) =
      windowRemainder (BitVec.twoPow 26 i) := by decide
  have h := congrFun ((xorLinear_remainder rdsGenerator 26 0).ext xorLinear_windowRemainder hbit) w
  rwa [List.replicate_zero, List.append_nil] at h

/-- A window is a block if its polynomial leaves the offset word modulo the generator. -/
theorem isBlock_iff_modByMonic (R : Type) [CommRing R] [CharP R 2] [Nontrivial R] (x : RdsBlock)
    (w : BitVec 26) :
    IsBlock x w ↔ poly R (msbFirst w) %ₘ generator R rdsGenerator = ofWord R x.offsetWord := by
  rw [isBlock_iff, ← remainder_window, ← ofWord_remainder R (by decide)]
  exact (ofWord_injective R).eq_iff.symm

/-- Shifting 16 zeros through the register multiplies by `X^16`. -/
def timesX16 (s : BitVec 10) : BitVec 10 :=
  remainder rdsGenerator (msbFirst s ++ List.replicate 16 false)

theorem xorLinear_timesX16 : XorLinear timesX16 := xorLinear_remainder rdsGenerator 10 16

set_option maxRecDepth 4000 in
theorem windowRemainder_eq (w : BitVec 26) : windowRemainder w = timesX16 (windowSyndrome w) := by
  have hbit : ∀ i < 26, windowRemainder (BitVec.twoPow 26 i) =
      timesX16 (windowSyndrome (BitVec.twoPow 26 i)) := by decide
  have hlin := xorLinear_timesX16.comp xorLinear_windowSyndrome
  exact congrFun (xorLinear_windowRemainder.ext hlin hbit) w

set_option maxRecDepth 4000 in
/-- The syndrome of a check word alone undoes the multiplication. -/
theorem windowSyndrome_timesX16 : Function.LeftInverse
    (fun s : BitVec 10 => windowSyndrome (s.setWidth 26)) timesX16 := by
  have hbit : ∀ i < 10, windowSyndrome ((timesX16 (BitVec.twoPow 10 i)).setWidth 26) =
      BitVec.twoPow 10 i := by decide
  have hlin := xorLinear_windowSyndrome.comp ((xorLinear_setWidth 26).comp xorLinear_timesX16)
  exact congrFun (hlin.ext (fun _ _ => rfl) hbit)

theorem windowTag_eq_setWidth (w : BitVec 26) : windowTag w = (windowSyndrome w).setWidth 32 := by
  have hbit : ∀ i < 26, windowTag (BitVec.twoPow 26 i) =
      (windowSyndrome (BitVec.twoPow 26 i)).setWidth 32 := by decide
  have hlin := (xorLinear_setWidth 32).comp xorLinear_windowSyndrome
  exact congrFun ((syndrome_xor.comp xorLinear_shift).ext hlin hbit) w

/-- The lowest six bits of `crc_src` do not count. -/
theorem syndrome_crcSrc (r : Radio) : syndrome r.crcSrc = windowTag r.window := by
  have hcut : XorLinear fun c : U32 => (c >>> 6).setWidth 26 := fun x y => by
    simp only [BitVec.ushiftRight_xor_distrib, BitVec.setWidth_xor]
  have hbit : ∀ i < 32, syndrome (BitVec.twoPow 32 i) =
      windowTag ((BitVec.twoPow 32 i >>> 6).setWidth 26) := by decide
  have hlin := (syndrome_xor.comp xorLinear_shift).comp hcut
  have hwindow : (r.crcSrc >>> 6).setWidth 26 = r.window := by
    ext i hi
    have h1 : 6 + i < 32 := by omega
    have h2 : 32 + (6 + i) = 38 + i := by omega
    simp [Radio.crcSrc, Radio.window, h1, h2]
  rw [← hwindow]
  exact congrFun (syndrome_xor.ext hlin hbit) r.crcSrc

set_option maxRecDepth 4000 in
/-- The syndromes that `radio_rds_pass` compares with are those of the blocks. -/
theorem syndrome_eq_tag_iff (x : RdsBlock) (r : Radio) :
    syndrome r.crcSrc = x.tag ↔ IsBlock x r.window := by
  rw [syndrome_crcSrc, windowTag_eq_setWidth, isBlock_iff, windowRemainder_eq]
  have htag : ∃ s : BitVec 10, x.tag = s.setWidth 32 ∧ timesX16 s = x.offsetWord := by
    cases x with
    | a => exact ⟨984, by decide, by decide⟩
    | b => exact ⟨980, by decide, by decide⟩
    | c => exact ⟨604, by decide, by decide⟩
    | cAlt => exact ⟨972, by decide, by decide⟩
    | d => exact ⟨600, by decide, by decide⟩
  obtain ⟨s, hs, ht⟩ := htag
  rw [hs, ← ht, windowSyndrome_timesX16.injective.eq_iff]
  constructor
  · intro h
    have hcut := congrArg (BitVec.setWidth 10) h
    simpa using hcut
  · intro h
    rw [h]

/-! ## The word of a block -/

namespace Radio

/-- The byte `_gap14[6]` that a pass takes for the word. -/
def passByte (r : Radio) : U8 := (r.gap14 >>> 48).setWidth 8

theorem infoWord_window (r : Radio) : infoWord r.window = (r.gap14 >>> 48).setWidth 16 := by
  ext i hi
  have h1 : 10 + i < 26 := by omega
  have h2 : 38 + (10 + i) = 48 + i := by omega
  simp [infoWord, window, h1, h2]

/-- The byte is the whole information word only if that has no high byte. -/
theorem passByte_eq_infoWord_iff (r : Radio) :
    r.passByte.setWidth 16 = infoWord r.window ↔ (infoWord r.window).toNat ≤ 0xFF := by
  have hlow : r.passByte.setWidth 16 = ((infoWord r.window).setWidth 8).setWidth 16 := by
    rw [infoWord_window, passByte]
    simp
  rw [hlow, ← BitVec.toNat_inj]
  simp only [BitVec.toNat_setWidth]
  omega

/-- Which windows a pass takes. -/
theorem rdsPass_false_expected {x : RdsBlock} (w : RadioWork) (v12 : U8) {r : Radio}
    (hx : IsBlock x r.window) (hstate : x.ExpectedIn r.staRdsCache0) :
    (rdsPass false w v12 r).1 = v12 - 26 ∧
      (rdsPass false w v12 r).2.blockWord x = r.passByte.setWidth 16 := by
  have htag : syndrome r.crcSrc = x.tag := (syndrome_eq_tag_iff x r).mpr hx
  obtain ⟨r', hacc, hpass⟩ := radioRdsPass_expected x v12 (r.passByte.setWidth 32) r hstate
  have hrun : rdsPass false w v12 r = radioRdsPass v12 x.tag (r.passByte.setWidth 32) r := by
    rw [← htag]
    rfl
  rw [hrun, hpass]
  refine ⟨rfl, ?_⟩
  have hword : r'.blockWord x = r.passByte.setWidth 16 := by
    rw [hacc.word]
    simp
  rw [← hword]
  cases x <;> rfl

theorem rdsPass_false_unexpected (w : RadioWork) (v12 : U8) {r : Radio}
    (h : ∀ x, IsBlock x r.window → ¬ x.ExpectedIn r.staRdsCache0) :
    (rdsPass false w v12 r).1 = v12 - 1 := by
  have htag : ∀ x : RdsBlock, syndrome r.crcSrc = x.tag → ¬ x.ExpectedIn r.staRdsCache0 :=
    fun x hx => h x ((syndrome_eq_tag_iff x r).mp hx)
  have hrun : rdsPass false w v12 r =
      radioRdsPass v12 (syndrome r.crcSrc) (r.passByte.setWidth 32) r := rfl
  rw [hrun, radioRdsPass_unexpected v12 _ htag]

/-- The windows are classified as the block code asks; the stored word is right as long as the
    information word of an accepted block fits in a byte. -/
theorem blockCodeMet_iff (w : RadioWork) (v12 : U8) (r : Radio) :
    r.BlockCodeMet w v12 ↔
      ∀ x, IsBlock x r.window → x.ExpectedIn r.staRdsCache0 → (infoWord r.window).toNat ≤ 0xFF := by
  constructor
  · intro hmet x hx hstate
    rw [← passByte_eq_infoWord_iff, ← hmet.stored x hx hstate]
    exact (rdsPass_false_expected w v12 hx hstate).2.symm
  · intro hshort
    refine ⟨fun x => syndrome_eq_tag_iff x r, ?_, ?_⟩
    · constructor
      · intro htaken
        by_contra hnone
        have hno : ∀ x, IsBlock x r.window → ¬ x.ExpectedIn r.staRdsCache0 := fun x hx hstate =>
          hnone ⟨x, hx, hstate⟩
        have hone := rdsPass_false_unexpected w v12 hno
        rw [hone] at htaken
        have hne : v12 - 1 ≠ v12 - 26 := by bv_omega
        exact hne htaken
      · rintro ⟨x, hx, hstate⟩
        exact (rdsPass_false_expected w v12 hx hstate).1
    · intro x hx hstate
      rw [(rdsPass_false_expected w v12 hx hstate).2, passByte_eq_infoWord_iff]
      exact hshort x hx hstate

/-- The first word of a stream, with block A for the information word `0x1234`: `0x34` is stored. -/
theorem not_blockCodeMet_1234 :
    ¬ (rdsTake 0x12341A80 { (default : Radio) with staValid := 1 }).BlockCodeMet
      ⟨1, 0x12341A80, 0, 0⟩ 32 := by
  intro hmet
  have hblock : IsBlock .a (rdsTake 0x12341A80 { (default : Radio) with staValid := 1 }).window := by
    unfold IsBlock
    decide +kernel
  have hword := hmet.stored .a hblock trivial
  rw [(rdsPass_false_expected ⟨1, 0x12341A80, 0, 0⟩ 32 hblock trivial).2] at hword
  revert hword
  decide

end Radio

end MtcDrivers
