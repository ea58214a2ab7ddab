import MtcDrivers.Radio.Band

/-!
# What `Radio_Set_Frequency_com` tunes

The range tests over the whole range of an `int`, the words of the bands read back, and the frequencies
that are tuned as the bands say.
-/

namespace MtcDrivers

/-! ## The range tests -/

theorem toInt_bounds (freq : U32) : -2147483648 ≤ freq.toInt ∧ freq.toInt < 2147483648 :=
  ⟨BitVec.le_toInt freq, BitVec.toInt_lt⟩

/-- The test of one band: it also passes what is below the band, as long as the difference stays an
`int`. -/
theorem slt_sub_iff {freq lo width : U32} (hlo : 0 ≤ lo.toInt) (hwidth : 0 ≤ width.toInt)
    (hsum : lo.toInt + width.toInt < 2147483648) :
    width.slt (freq - lo) = true ↔
      freq.toInt < lo.toInt - 2147483648 ∨ lo.toInt + width.toInt < freq.toInt := by
  have hfreq := toInt_bounds freq
  rw [BitVec.slt_iff_toInt_lt, BitVec.toInt_sub, Int.bmod_def]
  show width.toInt < (if (freq.toInt - lo.toInt) % 4294967296 < (4294967296 + 1) / 2 then
    (freq.toInt - lo.toInt) % 4294967296 else (freq.toInt - lo.toInt) % 4294967296 - 4294967296) ↔ _
  split <;> omega

namespace Radio

theorem tuningWord_eq (freq : U32) :
    tuningWord freq =
      if freq.toInt < 144000 - 2147483648 then none
      else if freq.toInt ≤ 1720000 then some (freq.sdiv 1000)
      else if freq.toInt ≤ 108000000 then some (freq.sdiv 50000 ||| 0x2000)
      else none := by
  have hmedium : (1576000 : U32).slt (freq - 144000) = true ↔
      freq.toInt < 144000 - 2147483648 ∨ 144000 + 1576000 < freq.toInt :=
    slt_sub_iff (by decide) (by decide) (by decide)
  have hfm : (32000000 : U32).slt (freq - 76000000) = true ↔
      freq.toInt < 76000000 - 2147483648 ∨ 76000000 + 32000000 < freq.toInt :=
    slt_sub_iff (by decide) (by decide) (by decide)
  have hshort : (15195000 : U32).slt (freq - 2940000) = true ↔
      freq.toInt < 2940000 - 2147483648 ∨ 2940000 + 15195000 < freq.toInt :=
    slt_sub_iff (by decide) (by decide) (by decide)
  have hoirt : (9000000 : U32).slt (freq - 65000000) = true ↔
      freq.toInt < 65000000 - 2147483648 ∨ 65000000 + 9000000 < freq.toInt :=
    slt_sub_iff (by decide) (by decide) (by decide)
  have hsle : (freq - 2940000).sle 15195000 = true ↔ ¬ (15195000 : U32).slt (freq - 2940000) = true := by
    rw [BitVec.sle_iff_toInt_le, BitVec.slt_iff_toInt_lt]
    omega
  unfold tuningWord
  by_cases h1 : (1576000 : U32).slt (freq - 144000) = true
  · have hr1 := hmedium.mp h1
    rw [if_pos h1]
    by_cases h2 : (32000000 : U32).slt (freq - 76000000) = true
    · -- what is above the FM band, or wraps there, is above every band
      have hr2 := hfm.mp h2
      have h3 : ¬ (freq - 2940000).sle 15195000 = true := by
        intro h
        exact hsle.mp h (hshort.mpr (by omega))
      have h4 : (9000000 : U32).slt (freq - 65000000) = true := hoirt.mpr (by omega)
      rw [if_pos h2, if_neg h3, if_pos h4]
      split
      · rfl
      · rw [if_neg (by omega), if_neg (by omega)]
    · have hr2 := mt hfm.mpr h2
      rw [if_neg h2, if_neg (by omega), if_neg (by omega), if_pos (by omega)]
  · have hr1 := mt hmedium.mpr h1
    rw [if_neg h1, if_neg (by omega), if_pos (by omega)]

end Radio

/-! ## Words -/

theorem bigEndian_injective {v w : U16} (h : bigEndian v = bigEndian w) : v = w := by
  simp only [bigEndian, List.cons.injEq, and_true] at h
  obtain ⟨hhigh, hlow⟩ := h
  apply BitVec.eq_of_getLsbD_eq
  intro i hi
  by_cases hi8 : i < 8
  · have hbit := congrArg (·.getLsbD i) hlow
    simpa [hi8] using hbit
  · have hbit := congrArg (·.getLsbD (i - 8)) hhigh
    simpa [show i - 8 < 8 by omega, show 8 + (i - 8) = i by omega] using hbit

theorem bytes_eq_bigEndian (v : U32) :
    [(v >>> 8).setWidth 8, v.setWidth 8] = bigEndian (v.setWidth 16) := by
  simp only [bigEndian, List.cons.injEq, and_true]
  constructor <;> apply BitVec.eq_of_getLsbD_eq <;> intro i hi
  · simp [hi, show 8 + i < 16 by omega]
  · simp [hi]

namespace TuningBand

theorem tag_getLsbD_of_lt (b : TuningBand) {i : ℕ} (hi : i < 13) : b.tag.getLsbD i = false := by
  have hall : ∀ b : TuningBand, ∀ i < 13, b.tag.getLsbD i = false := by
    intro b
    cases b <;> decide
  exact hall b i hi

theorem word_getLsbD (b : TuningBand) (freq : ℤ) {i : ℕ} (hi : i < 16) :
    (b.word freq).getLsbD i = ((freq.toNat / b.step).testBit i || b.tag.getLsbD i) := by
  rw [word, BitVec.getLsbD_or, BitVec.getLsbD_ofNat]
  simp [hi]

theorem ofWord_word {b : TuningBand} {freq : ℤ} (h : freq.toNat / b.step < 8192) :
    ofWord (b.word freq) = b := by
  have hbit : ∀ i, 13 ≤ i → (freq.toNat / b.step).testBit i = false := by
    intro i hi
    have hpow : 2 ^ 13 ≤ 2 ^ i := Nat.pow_le_pow_right Nat.two_pos hi
    exact Nat.testBit_lt_two_pow (Nat.lt_of_lt_of_le h hpow)
  unfold ofWord
  rw [word_getLsbD b freq (by decide), word_getLsbD b freq (by decide), hbit 14 (by decide),
    hbit 13 (by decide)]
  cases b <;> rfl

theorem word_and_mask {b : TuningBand} {freq : ℤ} (h : freq.toNat / b.step < 8192) :
    (b.word freq &&& 0x1FFF).toNat = freq.toNat / b.step := by
  have hand : b.word freq &&& 0x1FFF = BitVec.ofNat 16 (freq.toNat / b.step) := by
    apply BitVec.eq_of_getLsbD_eq
    intro i hi
    rw [BitVec.getLsbD_and, word_getLsbD b freq hi, BitVec.getLsbD_ofNat]
    have hmask : (0x1FFF : U16).getLsbD i = decide (i < 13) := by
      have hall : ∀ i < 16, (0x1FFF : U16).getLsbD i = decide (i < 13) := by decide
      exact hall i hi
    rw [hmask]
    by_cases hlow : i < 13
    · rw [tag_getLsbD_of_lt b hlow]
      simp [hlow, hi]
    · have hpow : 2 ^ 13 ≤ 2 ^ i := Nat.pow_le_pow_right Nat.two_pos (by omega)
      rw [Nat.testBit_lt_two_pow (Nat.lt_of_lt_of_le h hpow)]
      simp [hlow]
  rw [hand, BitVec.toNat_ofNat]
  exact Nat.mod_eq_of_lt (by omega)

theorem div_step_lt {b : TuningBand} {freq : ℤ} (h : b.Contains freq) : freq.toNat / b.step < 8192 := by
  obtain ⟨hlower, hupper⟩ := h
  cases b <;> simp only [lower, upper, step] at * <;> omega

/-- A frequency on the grid is read back from its word. -/
theorem frequencyOf_word {b : TuningBand} {freq : ℤ} (h : b.OnGrid freq) :
    (frequencyOf (b.word freq) : ℤ) = freq := by
  obtain ⟨hin, hgrid⟩ := h
  have hlt := div_step_lt hin
  have hnonneg : 0 ≤ freq := by
    obtain ⟨hlower, -⟩ := hin
    cases b <;> simp only [lower] at hlower <;> omega
  have hdvd : b.step ∣ freq.toNat := by
    rw [← Int.natCast_dvd_natCast, Int.toNat_of_nonneg hnonneg]
    exact hgrid
  unfold frequencyOf
  rw [ofWord_word hlt, word_and_mask hlt, Nat.mul_div_cancel' hdvd, Int.toNat_of_nonneg hnonneg]

/-- Frequencies of different bands have different words. -/
theorem word_ne {b c : TuningBand} {f g : ℤ} (hf : f.toNat / b.step < 8192) (hg : g.toNat / c.step < 8192)
    (h : b ≠ c) : b.word f ≠ c.word g := by
  intro heq
  have hband := congrArg ofWord heq
  rw [ofWord_word hf, ofWord_word hg] at hband
  exact h hband

theorem ofFrequency_eq {b : TuningBand} {freq : ℤ} (h : b.Contains freq) : ofFrequency freq = some b := by
  obtain ⟨hlower, hupper⟩ := h
  unfold ofFrequency
  cases b <;> simp only [lower, upper] at hlower hupper <;>
    simp [List.find?, Contains, lower, upper] <;> grind

theorem ofFrequency_eq_none {freq : ℤ} (h : ∀ b : TuningBand, ¬ b.Contains freq) :
    ofFrequency freq = none := by
  unfold ofFrequency
  exact List.find?_eq_none.mpr fun b _ => by simpa using h b

end TuningBand

/-! ## Commands -/

namespace Radio

/-- The command code. -/
def tuneCode (a2 : U32) : U32 := if a2 ≠ 0 then 0x9208 else 0x9200

theorem mcuCommands_radioSetFrequencyCom (freq a2 : U32) (r : Radio) :
    (r.radioSetFrequencyCom freq a2).mcuCommands =
      ((tuningWord freq).map fun v => (tuneCode a2, bigEndian (v.setWidth 16))).toList ++ r.mcuCommands := by
  unfold radioSetFrequencyCom
  cases tuningWord freq with
  | none => rfl
  | some v => simp [mcuCommands, staInvalid, emit, rdsSendStaEmpty, tuneCode, bytes_eq_bigEndian]

/-- The division of a frequency that is not negative. -/
theorem sdiv_setWidth {freq k : U32} (hfreq : 0 ≤ freq.toInt) (hk : 0 ≤ k.toInt) :
    (freq.sdiv k).setWidth 16 = BitVec.ofNat 16 (freq.toInt.toNat / k.toNat) := by
  have hmsb : freq.msb = false := by
    rw [BitVec.msb_eq_toInt]
    simpa using hfreq
  have hmsbk : k.msb = false := by
    rw [BitVec.msb_eq_toInt]
    simpa using hk
  apply BitVec.eq_of_toNat_eq
  rw [BitVec.sdiv_eq, hmsb, hmsbk, BitVec.toNat_setWidth, BitVec.toNat_ofNat,
    BitVec.toInt_eq_toNat_of_msb hmsb, Int.toNat_natCast]
  rfl

/-- Up to 1720 kHz the word is that of the medium-wave band. -/
theorem mcuCommands_medium {freq : U32} (a2 : U32) (r : Radio) (hlow : 0 ≤ freq.toInt)
    (hhigh : freq.toInt ≤ 1720000) :
    (r.radioSetFrequencyCom freq a2).mcuCommands =
      (tuneCode a2, bigEndian (TuningBand.medium.word freq.toInt)) :: r.mcuCommands := by
  rw [mcuCommands_radioSetFrequencyCom, tuningWord_eq, if_neg (by omega), if_pos hhigh]
  simp only [Option.map_some, Option.toList_some, List.singleton_append]
  rw [sdiv_setWidth hlow (by decide)]
  simp [TuningBand.word, TuningBand.step, TuningBand.tag]

/-- From there up to 108 MHz it is that of the FM band. -/
theorem mcuCommands_fm {freq : U32} (a2 : U32) (r : Radio) (hlow : 1720000 < freq.toInt)
    (hhigh : freq.toInt ≤ 108000000) :
    (r.radioSetFrequencyCom freq a2).mcuCommands =
      (tuneCode a2, bigEndian (TuningBand.fm.word freq.toInt)) :: r.mcuCommands := by
  rw [mcuCommands_radioSetFrequencyCom, tuningWord_eq, if_neg (by omega), if_neg (by omega), if_pos hhigh]
  simp only [Option.map_some, Option.toList_some, List.singleton_append]
  rw [BitVec.setWidth_or, sdiv_setWidth (by omega) (by decide)]
  rfl

end Radio

theorem tuningCommand_eq {b : TuningBand} {freq : ℤ} (h : b.Contains freq) (a2 : U32) :
    tuningCommand freq a2 = [(Radio.tuneCode a2, bigEndian (b.word freq))] := by
  unfold tuningCommand
  rw [TuningBand.ofFrequency_eq h]
  rfl

theorem tuningCommand_eq_nil {freq : ℤ} (h : ∀ b : TuningBand, ¬ b.Contains freq) (a2 : U32) :
    tuningCommand freq a2 = [] := by
  unfold tuningCommand
  rw [TuningBand.ofFrequency_eq_none h]

open TuningBand Radio

/-- The words of two frequencies that the code sends for two bands differ. -/
theorem mcuCommands_ne_of_word_ne {f g : U32} {a2 : U32} {r : Radio} {b c : TuningBand}
    (hf : (r.radioSetFrequencyCom f a2).mcuCommands =
      (tuneCode a2, bigEndian (b.word f.toInt)) :: r.mcuCommands)
    (hg : (r.radioSetFrequencyCom g a2).mcuCommands =
      (tuneCode a2, bigEndian (c.word g.toInt)) :: r.mcuCommands)
    (hne : b.word f.toInt ≠ c.word g.toInt) :
    (r.radioSetFrequencyCom f a2).mcuCommands ≠ (r.radioSetFrequencyCom g a2).mcuCommands := by
  rw [hf, hg]
  intro heq
  have hpair := (List.cons.inj heq).1
  exact hne (bigEndian_injective (Prod.mk.inj hpair).2)

/-- A frequency of a band that is in range lies in one of the first two bands. -/
theorem TuningRange.band {b : TuningBand} {f : ℤ} (hrange : TuningRange f) (hin : b.Contains f) :
    b = medium ∨ b = fm := by
  obtain ⟨-, hgap⟩ := hrange
  obtain ⟨hlower, hupper⟩ := hin
  cases b with
  | medium => exact .inl rfl
  | fm => exact .inr rfl
  | short | oirt =>
    simp only [lower, upper] at hlower hupper
    omega

/-- In range the frequencies of a band are sent with the word of the band. -/
theorem TuningRange.sent {b : TuningBand} {freq : U32} (hrange : TuningRange freq.toInt)
    (hin : b.Contains freq.toInt) (a2 : U32) (r : Radio) :
    (r.radioSetFrequencyCom freq a2).mcuCommands =
      (tuneCode a2, bigEndian (b.word freq.toInt)) :: r.mcuCommands := by
  obtain ⟨hlower, hupper⟩ := id hin
  rcases hrange.band hin with rfl | rfl
  · simp only [lower, upper] at hlower hupper
    exact mcuCommands_medium a2 r (by omega) hupper
  · simp only [lower, upper] at hlower hupper
    exact mcuCommands_fm a2 r (by omega) hupper

/-- The word sent for a frequency on the grid of any band, and the band that it reads as. -/
theorem sent_of_onGrid {c : TuningBand} {g : U32} (hgrid : c.OnGrid g.toInt) (a2 : U32) (r : Radio) :
    ∃ d : TuningBand, (d = c ∨ d = fm ∧ g.toInt < 76000000) ∧
      (r.radioSetFrequencyCom g a2).mcuCommands =
        (tuneCode a2, bigEndian (d.word g.toInt)) :: r.mcuCommands ∧
      g.toInt.toNat / d.step < 8192 := by
  obtain ⟨hin, -⟩ := hgrid
  have hlt := div_step_lt hin
  obtain ⟨hlower, hupper⟩ := hin
  cases c with
  | medium =>
    simp only [lower, upper] at hlower hupper
    exact ⟨medium, .inl rfl, mcuCommands_medium a2 r (by omega) hupper, hlt⟩
  | fm =>
    simp only [lower, upper] at hlower hupper
    exact ⟨fm, .inl rfl, mcuCommands_fm a2 r (by omega) hupper, hlt⟩
  | short | oirt =>
    simp only [lower, upper] at hlower hupper
    refine ⟨fm, .inr ⟨rfl, by omega⟩, mcuCommands_fm a2 r (by omega) (by omega), ?_⟩
    simp only [step]
    omega

theorem TuningRange.met {freq : U32} (hrange : TuningRange freq.toInt) (a2 : U32) :
    TuningMet freq a2 where
  sends r := by
    by_cases hin : ∃ b : TuningBand, b.Contains freq.toInt
    · obtain ⟨b, hin⟩ := hin
      rw [hrange.sent hin, tuningCommand_eq hin]
      rfl
    · have hnone : ∀ b : TuningBand, ¬ b.Contains freq.toInt := fun b hb => hin ⟨b, hb⟩
      have hmedium := hnone medium
      have hfm := hnone fm
      simp only [Contains, lower, upper] at hmedium hfm
      obtain ⟨hbelow, hgap⟩ := hrange
      rw [tuningCommand_eq_nil hnone, mcuCommands_radioSetFrequencyCom, tuningWord_eq]
      by_cases hwrap : freq.toInt < 144000 - 2147483648
      · rw [if_pos hwrap]
        rfl
      · rw [if_neg hwrap, if_neg (by omega), if_neg (by omega)]
        rfl
  recovered b r cmd w hgrid hsent := by
    rw [hrange.sent hgrid.1] at hsent
    have hpair := (List.cons.inj hsent).1
    rw [← bigEndian_injective (Prod.mk.inj hpair).2]
    exact frequencyOf_word hgrid
  distinct b c g r hf hg hne := by
    obtain ⟨d, hd, hsent, hlt⟩ := sent_of_onGrid hg a2 r
    apply mcuCommands_ne_of_word_ne (hrange.sent hf.1 a2 r) hsent
    rcases hd with rfl | ⟨rfl, hbelow⟩
    · exact word_ne (div_step_lt hf.1) hlt hne
    · -- a word of the FM band below 76 MHz
      rcases hrange.band hf.1 with rfl | rfl
      · exact word_ne (div_step_lt hf.1) hlt (by decide)
      · intro heq
        have hq := congrArg (fun w => (w &&& 0x1FFF).toNat) heq
        simp only [word_and_mask (div_step_lt hf.1), word_and_mask hlt, step] at hq
        have hlower : (76000000 : ℤ) ≤ freq.toInt := hf.1.1
        omega

/-- `Radio_Set_Frequency_com` tunes as the bands say exactly in range. -/
theorem tuningMet_iff (freq a2 : U32) : TuningMet freq a2 ↔ TuningRange freq.toInt := by
  constructor
  · intro hmet
    have hsends := hmet.sends default
    constructor
    · rintro ⟨hwrap, hbelow⟩
      have hnone : ∀ b : TuningBand, ¬ b.Contains freq.toInt := by
        rintro b ⟨hlower, -⟩
        cases b <;> simp only [lower] at hlower <;> omega
      rw [tuningCommand_eq_nil hnone, mcuCommands_radioSetFrequencyCom, tuningWord_eq,
        if_neg (by omega), if_pos (by omega)] at hsends
      simp at hsends
    · rintro ⟨hlow, hhigh⟩
      rw [mcuCommands_fm a2 _ hlow (by omega)] at hsends
      by_cases hin : ∃ b : TuningBand, b.Contains freq.toInt
      · obtain ⟨b, hin⟩ := hin
        rw [tuningCommand_eq hin] at hsends
        have hpair := (List.cons.inj hsends).1
        have hword := bigEndian_injective (Prod.mk.inj hpair).2
        have hlt : freq.toInt.toNat / fm.step < 8192 := by
          simp only [step]
          omega
        refine word_ne hlt (div_step_lt hin) ?_ hword
        rintro rfl
        have hlower : (76000000 : ℤ) ≤ freq.toInt := hin.1
        omega
      · rw [tuningCommand_eq_nil fun b hb => hin ⟨b, hb⟩] at hsends
        simp at hsends
  · intro hrange
    exact hrange.met a2

/-- 10 MHz lies in the short-wave band and is sent as an FM word. -/
theorem not_tuningMet_short_wave : ¬ TuningMet 10000000 0 := by
  intro hmet
  have hsends := hmet.sends default
  have hin : short.Contains (10000000 : U32).toInt := by decide
  rw [tuningCommand_eq hin, mcuCommands_fm 0 _ (by decide) (by decide)] at hsends
  revert hsends
  decide

end MtcDrivers
