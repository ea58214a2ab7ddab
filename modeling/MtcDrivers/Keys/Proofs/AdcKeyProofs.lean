import MtcDrivers.Keys.AdcKey
import MtcDrivers.Ioctl.Answer
import MtcDrivers.Ioctl.Proofs.ConfigProofs

/-!
# When an ADC key is found

`searchAdcKey` takes the second byte of a record for the low one, where the table and the getter of
`cfg_key_assign` have the high one there. It finds the same key exactly if no record that fits in one order
only comes before all that fit in both.
-/

namespace MtcDrivers

namespace KeyTable

open Search

variable {adcCode : U8} {adcVal tol : U32} {tab : KeyTable}

/-! ## Records -/

/-- The key table of a configuration, `d.cfg_key_assign`. -/
def ofConfig (c : ConfigData) : KeyTable := Vector.ofFn fun i => c.byte (0x80 + i)

theorem byte_ofConfig (c : ConfigData) {i : ℕ} (hi : i < 75) : (ofConfig c).byte i = c.byte (0x80 + i) := by
  simp [byte, ofConfig, hi]

/-- `record` is the number that the getter prints. -/
theorem keyAssignAt_ofConfig (c : ConfigData) {k : ℕ} (hk : k < 25) :
    keyAssignAt c k = (ofConfig c).record k := by
  rw [keyAssignAt, record, byte_ofConfig c (by omega), byte_ofConfig c (by omega),
    byte_ofConfig c (by omega)]
  rw [show 0x80 + (3 * k + 2) = 3 * k + 0x82 by omega, show 0x80 + (3 * k + 1) = 3 * k + 0x81 by omega,
    show 0x80 + 3 * k = 3 * k + 0x80 by omega]

theorem record_eq (tab : KeyTable) (k : ℕ) :
    tab.record k = 65536 * (tab.byte (3 * k)).toNat +
      (256 * (tab.byte (3 * k + 1)).toNat + (tab.byte (3 * k + 2)).toNat) := by
  rw [record, joinBytes, joinBytes]
  omega

theorem record_code (tab : KeyTable) (k : ℕ) : tab.record k / 65536 = (tab.byte (3 * k)).toNat := by
  have h₁ := (tab.byte (3 * k + 1)).isLt
  have h₂ := (tab.byte (3 * k + 2)).isLt
  rw [record_eq]
  omega

theorem valueLow_lt (tab : KeyTable) (k : ℕ) : tab.valueLow k < 65536 := by
  have h₁ := (tab.byte (3 * k + 1)).isLt
  have h₂ := (tab.byte (3 * k + 2)).isLt
  unfold valueLow
  omega

theorem v8_toNat (tab : KeyTable) (k : ℕ) : (tab.v8 (3 * k)).toNat = tab.valueLow k := by
  have h₁ := (tab.byte (3 * k + 1)).isLt
  have h₂ := (tab.byte (3 * k + 2)).isLt
  have hshift : ((tab.byte (3 * k + 2)).setWidth 32 <<< 8 : U32).toNat =
      (tab.byte (3 * k + 2)).toNat <<< 8 := by
    rw [BitVec.toNat_shiftLeft, BitVec.toNat_setWidth, Nat.shiftLeft_eq]
    omega
  rw [v8, BitVec.toNat_or, hshift, BitVec.toNat_setWidth,
    Nat.mod_eq_of_lt (show (tab.byte (3 * k + 1)).toNat < 2 ^ 32 by omega), joinBytes, valueLow]
  omega

/-- The comparisons of `searchAdcKey` are those of the numbers. -/
theorem compares_iff (hadc : adcVal.toNat ≤ 1023) (htol : tol.toNat < 2 ^ 31) (k : ℕ) :
    (tab.byte (3 * k) = adcCode ∧ tab.v8 (3 * k) < tol + adcVal ∧ adcVal < tab.v8 (3 * k) + tol) ↔
      FitsLow adcCode adcVal tab tol k := by
  have hlow := tab.valueLow_lt k
  have hcode : tab.byte (3 * k) = adcCode ↔ tab.record k / 65536 = adcCode.toNat := by
    rw [record_code, BitVec.toNat_inj]
  have hup : tab.v8 (3 * k) < tol + adcVal ↔ tab.valueLow k < tol.toNat + adcVal.toNat := by
    rw [BitVec.lt_def, BitVec.toNat_add, v8_toNat]
    omega
  have hdown : adcVal < tab.v8 (3 * k) + tol ↔ adcVal.toNat < tab.valueLow k + tol.toNat := by
    rw [BitVec.lt_def, BitVec.toNat_add, v8_toNat]
    omega
  rw [hcode, hup, hdown]
  unfold FitsLow
  refine and_congr_right fun _ => ?_
  omega

/-! ## The search -/

/-- The loop returns the key of the first record that fits low byte first. -/
theorem searchFrom_first (hadc : adcVal.toNat ≤ 1023) (htol : tol.toNat < 2 ^ 31) {n k : ℕ}
    (hn : k + n = 25) (hbefore : ∀ i < k, ¬ FitsLow adcCode adcVal tab tol i) :
    (∃ m, IsFirst (FitsLow adcCode adcVal tab tol) 25 m ∧
      tab.searchFrom adcCode adcVal tol n (3 * k) = mtcKeycode[m]?.getD 0) ∨
      (∀ m < 25, ¬ FitsLow adcCode adcVal tab tol m) ∧
        tab.searchFrom adcCode adcVal tol n (3 * k) = 0 := by
  induction n generalizing k with
  | zero => exact .inr ⟨fun m hm => hbefore m (by omega), rfl⟩
  | succ n ih =>
    rw [searchFrom]
    by_cases hfits : FitsLow adcCode adcVal tab tol k
    · rw [if_pos ((compares_iff hadc htol k).mpr hfits), Nat.mul_div_cancel_left k (Nat.succ_pos 2)]
      exact .inl ⟨k, ⟨by omega, hfits, hbefore⟩, rfl⟩
    · rw [if_neg (mt (compares_iff hadc htol k).mp hfits), show 3 * k + 3 = 3 * (k + 1) by omega]
      apply ih (by omega)
      intro i hi
      rcases Nat.lt_succ_iff_lt_or_eq.mp hi with hi | rfl
      · exact hbefore i hi
      · exact hfits

theorem searchAdcKey_first (adcCode : U8) (tab : KeyTable) (hadc : adcVal.toNat ≤ 1023)
    (htol : tol.toNat < 2 ^ 31) :
    (∃ m, IsFirst (FitsLow adcCode adcVal tab tol) 25 m ∧
      tab.searchAdcKey adcCode adcVal tol = mtcKeycode[m]?.getD 0) ∨
      (∀ m < 25, ¬ FitsLow adcCode adcVal tab tol m) ∧ tab.searchAdcKey adcCode adcVal tol = 0 :=
  searchFrom_first hadc htol (Nat.zero_add 25) fun i hi => absurd hi (Nat.not_lt_zero i)

/-- The codes of different keys differ, and none is 0. -/
theorem mtcKeycode_inj : ∀ k < 25, mtcKeycode[k]?.getD 0 ≠ 0 ∧
    ∀ j < 25, mtcKeycode[k]?.getD 0 = mtcKeycode[j]?.getD 0 → k = j := by
  decide

/-- The search finds the key as configured exactly if the first record that fits is the same in both
    orders. -/
theorem findsKey_iff_first (hadc : adcVal.toNat ≤ 1023) (htol : tol.toNat < 2 ^ 31) :
    FindsKey adcCode adcVal tab tol ↔ ∀ k, IsFirst (Fits adcCode adcVal tab tol) 25 k ↔
      IsFirst (FitsLow adcCode adcVal tab tol) 25 k := by
  rcases searchAdcKey_first adcCode tab hadc htol with ⟨m, hm, hres⟩ | ⟨hno, hres⟩
  · constructor
    · intro h k
      constructor
      · intro hk
        have heq := (h.found k hk).symm.trans hres
        rw [(mtcKeycode_inj k hk.lt).2 m hm.lt heq]
        exact hm
      · intro hk
        obtain rfl := hk.unique hm
        by_cases hex : ∃ i, i < 25 ∧ Fits adcCode adcVal tab tol i
        · obtain ⟨i, hi, hfits⟩ := hex
          obtain ⟨m', -, hm'⟩ := exists_isFirst hi hfits
          have heq := (h.found m' hm').symm.trans hres
          obtain rfl := (mtcKeycode_inj m' hm'.lt).2 k hk.lt heq
          exact hm'
        · have hzero := h.missing fun i hi hfits => hex ⟨i, hi, hfits⟩
          exact absurd (hres.symm.trans hzero) (mtcKeycode_inj k hk.lt).1
    · intro h
      refine ⟨fun k hk => ?_, fun hno => ?_⟩
      · obtain rfl := ((h k).mp hk).unique hm
        exact hres
      · exact absurd ((h m).mpr hm).holds (hno m hm.lt)
  · constructor
    · intro h k
      constructor
      · intro hk
        exact absurd ((h.found k hk).symm.trans hres) (mtcKeycode_inj k hk.lt).1
      · intro hk
        exact absurd hk.holds (hno k hk.lt)
    · intro h
      exact ⟨fun k hk => absurd ((h k).mp hk).holds (hno k hk.lt), fun _ => hres⟩

/-- For every table, channel, reading of the converter and tolerance: the key is found as configured exactly
    if each record that fits in one order only comes after one that fits in both. -/
theorem findsKey_iff (adcCode : U8) (adcVal : U32) (tab : KeyTable) (tol : U32)
    (hadc : adcVal.toNat ≤ 1023) (htol : 0 ≤ tol.toInt) :
    FindsKey adcCode adcVal tab tol ↔ ∀ k < 25,
      ¬ (Fits adcCode adcVal tab tol k ↔ FitsLow adcCode adcVal tab tol k) →
        ∃ j < k, Fits adcCode adcVal tab tol j ∧ FitsLow adcCode adcVal tab tol j := by
  have hpos : tol.toNat < 2 ^ 31 := by
    rw [BitVec.toInt_eq_toNat_cond] at htol
    split at htol
    · omega
    · omega
  rw [findsKey_iff_first hadc hpos]
  exact isFirst_congr_iff

/-- A reading of the second key of the default table. -/
theorem findsKey_iff_default :
    FindsKey 5 650 mtcKeydefault 20 ↔ ∀ k < 25,
      ¬ (Fits 5 650 mtcKeydefault 20 k ↔ FitsLow 5 650 mtcKeydefault 20 k) →
        ∃ j < k, Fits 5 650 mtcKeydefault 20 j ∧ FitsLow 5 650 mtcKeydefault 20 j :=
  findsKey_iff 5 650 mtcKeydefault 20 (by decide) (by decide)

/-- The second key of the default table is not found at its own value. -/
theorem not_findsKey_default : ¬ FindsKey 5 650 mtcKeydefault 20 := by
  intro h
  have hfirst : IsFirst (Fits 5 650 mtcKeydefault 20) 25 1 := by
    refine ⟨by decide, ?_, ?_⟩
    · exact ⟨by decide, by decide⟩
    · intro i hi hfits
      have hzero : i = 0 := by omega
      subst hzero
      exact absurd hfits.2 (by decide)
  exact absurd (h.found 1 hfirst) (by decide)

end KeyTable

end MtcDrivers
