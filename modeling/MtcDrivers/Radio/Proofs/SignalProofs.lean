import Mathlib.Tactic.SplitIfs
import MtcDrivers.Radio.Signal

/-!
# Proofs: signal levels

Below its threshold a reading loses 3000 / 1275 for each step, which is more than 170 from 73 steps on, and
the byte of a negative level is a high one.
-/

namespace MtcDrivers

namespace Tuner

/-! ## The formula -/

/-- The level before it is made a byte. -/
def rawLevel (reading threshold : ℕ) : ℤ := (3000 * (reading - threshold : ℤ)).tdiv 1275 + 170

theorem toInt_scaled {a b : U32} (ha : a.toNat < 256) (hb : b.toNat < 256) :
    (3000 * (a - b) : U32).toInt = 3000 * (a.toNat - b.toNat : ℤ) := by
  have hfactor : (3000 : U32).toNat = 3000 := rfl
  rw [BitVec.toInt_eq_toNat_cond, BitVec.toNat_mul, BitVec.toNat_sub, hfactor]
  split_ifs <;> omega

/-- The level is 170 at the threshold, and between -430 and 430 away from that. -/
theorem rawLevel_of_le {reading threshold : ℕ} (h : threshold ≤ reading) :
    rawLevel reading threshold = 3000 * ((reading - threshold : ℕ) : ℤ) / 1275 + 170 := by
  unfold rawLevel
  rw [← Int.ofNat_sub h, Int.tdiv_eq_ediv_of_nonneg (by omega)]

theorem rawLevel_of_lt {reading threshold : ℕ} (h : reading < threshold) :
    rawLevel reading threshold = 170 - 3000 * ((threshold - reading : ℕ) : ℤ) / 1275 := by
  have hneg : (3000 * (reading - threshold : ℤ)) = -(3000 * ((threshold - reading : ℕ) : ℤ)) := by omega
  unfold rawLevel
  rw [hneg, Int.neg_tdiv, Int.tdiv_eq_ediv_of_nonneg (by omega)]
  omega

/-- `LABEL_19` gives the level, cut off at 255 and taken modulo 256. -/
theorem toNat_hitLevel {a b : U32} (ha : a.toNat < 256) (hb : b.toNat < 256) :
    ((hitLevel a b).toNat : ℤ) =
      if 255 < rawLevel a.toNat b.toNat then 255 else rawLevel a.toNat b.toNat % 256 := by
  have hrange : -500 ≤ rawLevel a.toNat b.toNat ∧ rawLevel a.toNat b.toNat ≤ 800 := by
    rcases Nat.lt_or_ge a.toNat b.toNat with h | h
    · rw [rawLevel_of_lt h]
      omega
    · rw [rawLevel_of_le h]
      omega
  have hdiv : ((3000 * (a - b) : U32).sdiv 1275).toInt = rawLevel a.toNat b.toNat - 170 := by
    rw [BitVec.toInt_sdiv_of_ne_or_ne _ _ (.inr (by decide)), toInt_scaled ha hb]
    unfold rawLevel
    rw [Int.add_sub_cancel]
    rfl
  have hraw : ((3000 * (a - b) : U32).sdiv 1275 + 170).toInt = rawLevel a.toNat b.toNat := by
    rw [BitVec.toInt_add, hdiv]
    show (rawLevel a.toNat b.toNat - 170 + 170).bmod (2 ^ 32) = _
    rw [Int.sub_add_cancel]
    exact Int.bmod_eq_of_le (by omega) (by omega)
  unfold hitLevel
  dsimp only
  generalize ((3000 * (a - b) : U32).sdiv 1275 + 170 : U32) = v9 at hraw
  have hover : (255 : U32).slt v9 = true ↔ 255 < rawLevel a.toNat b.toNat := by
    rw [BitVec.slt_iff_toInt_lt, hraw]
    rfl
  by_cases hlarge : 255 < rawLevel a.toNat b.toNat
  · rw [if_pos (hover.mpr hlarge), if_pos hlarge]
    rfl
  · rw [if_neg (fun h => hlarge (hover.mp h)), if_neg hlarge, BitVec.toNat_setWidth, BitVec.toNat_setWidth,
      ← hraw, BitVec.toInt_eq_toNat_cond]
    have hlt := v9.isLt
    split_ifs <;> omega

theorem hitLevel_le {a b : U32} : hitLevel a b ≤ 255 := by
  unfold hitLevel
  dsimp only
  split
  · exact BitVec.le_refl _
  · have hbyte := ((3000 * (a - b) : U32).sdiv 1275 + 170 : U32).isLt
    show BitVec.toNat (BitVec.setWidth 32 (BitVec.setWidth 8 _)) ≤ 255
    rw [BitVec.toNat_setWidth, BitVec.toNat_setWidth]
    omega

/-- Below the threshold the byte of the level is the level cut off at 0 up to 72 steps. -/
theorem byte_rawLevel_iff {reading threshold : ℕ} (hlt : reading < threshold) (hle : threshold ≤ 184) :
    (if 255 < rawLevel reading threshold then 255 else rawLevel reading threshold % 256) =
      max 0 (rawLevel reading threshold) ↔ threshold ≤ reading + 72 := by
  rw [rawLevel_of_lt hlt]
  generalize hd : threshold - reading = d
  have hpos : 1 ≤ d ∧ d ≤ 184 := by omega
  -- no distance up to 184 loses 426, so that no negative level has the byte 0
  have hloss : ¬ 3000 * (d : ℤ) / 1275 = 426 := by omega
  have hsmall : d ≤ 72 ↔ 3000 * (d : ℤ) / 1275 ≤ 170 := by omega
  have hbounds : 0 ≤ 3000 * (d : ℤ) / 1275 ∧ 3000 * (d : ℤ) / 1275 ≤ 433 := by omega
  rw [show threshold ≤ reading + 72 ↔ d ≤ 72 by omega, hsmall]
  generalize 3000 * (d : ℤ) / 1275 = loss at hloss hbounds
  omega

/-! ## The threshold of a reading -/

theorem toNat_arg (x : Status) (i : Fin 5) : (x.arg i).toNat = (x.buf i).toNat := by
  have hlt := (x.buf i).isLt
  unfold Status.arg
  rw [BitVec.toNat_setWidth]
  omega

theorem arg_lt (x : Status) (i : Fin 5) : (x.arg i).toNat < 256 := by
  rw [toNat_arg]
  exact (x.buf i).isLt

theorem hitAdjust_fst (cust : U8) (result a3 : U32) :
    (hitAdjust cust result a3).1 = if hitFirst cust then 1 else if cust = 17 then 2 else 0 := by
  unfold hitAdjust
  split_ifs <;> rfl

/-- The threshold as the local `v8` has it. -/
def limitOf (cust : U8) : U32 := if hitFirst cust then 180 else if cust = 17 then 182 else 184

theorem toNat_limitOf (cust : U8) : (limitOf cust).toNat = hitThreshold cust := by
  unfold limitOf hitThreshold
  split_ifs <;> rfl

variable {x : Status} {t : Tuner} {v8 : U32}

/-- Below the threshold nothing but the reading counts. -/
theorem hitLimit_of_lt (h : (x.buf 0).toNat < hitThreshold x.cust) (v8 a2 a3 a4 : U32) :
    hitLimit v8 (hitAdjust x.cust (x.arg 0) a3).1 (x.arg 0) a2 (hitAdjust x.cust (x.arg 0) a3).2 a4 =
      some (limitOf x.cust) := by
  rw [← toNat_arg] at h
  rw [hitAdjust_fst]
  generalize (hitAdjust x.cust (x.arg 0) a3).2 = a3'
  unfold hitThreshold at h
  unfold hitLimit limitOf
  by_cases hfirst : hitFirst x.cust = true
  · rw [if_pos hfirst] at h ⊢
    have hweak : ¬ x.arg 0 > 0xB3 := Nat.not_lt.mpr (Nat.le_of_lt_succ h)
    rw [if_pos rfl, if_neg (fun h => hweak h.2), if_neg hweak, if_pos hfirst]
  rw [if_neg hfirst] at h ⊢
  by_cases hcust : x.cust = 17
  · rw [if_pos hcust] at h ⊢
    have hweak : ¬ x.arg 0 > 0xB5 := Nat.not_lt.mpr (Nat.le_of_lt_succ h)
    rw [if_neg (by decide), if_neg (by decide), if_neg (fun h => hweak h.2), if_neg hweak, if_neg hfirst,
      if_pos hcust]
  · rw [if_neg hcust] at h ⊢
    have hle : x.arg 0 ≤ 0xB7 := Nat.le_of_lt_succ h
    have hweak : ¬ x.arg 0 > 0xB7 := BitVec.not_lt.mpr hle
    rw [if_neg (by decide), if_pos (by decide), if_neg (fun h => hweak h.2), if_pos hle, if_neg hfirst,
      if_neg hcust]

/-- From its threshold on, a customer that has one gets 168 or a level. -/
theorem hitLimit_of_own (hown : hitThreshold x.cust ≠ 184) (a2 a3 a4 : U32) :
    (∀ v8, hitLimit v8 (hitAdjust x.cust (x.arg 0) a3).1 (x.arg 0) a2 (hitAdjust x.cust (x.arg 0) a3).2 a4 =
      none) ∨
    ∀ v8, hitLimit v8 (hitAdjust x.cust (x.arg 0) a3).1 (x.arg 0) a2 (hitAdjust x.cust (x.arg 0) a3).2 a4 =
      some (limitOf x.cust) := by
  rw [hitAdjust_fst]
  generalize (hitAdjust x.cust (x.arg 0) a3).2 = a3'
  unfold hitThreshold at hown
  unfold hitLimit limitOf
  by_cases hfirst : hitFirst x.cust = true
  · rw [if_pos hfirst, if_pos hfirst]
    simp only [if_pos]
    split_ifs
    · exact .inl fun _ => rfl
    · exact .inr fun _ => rfl
    · exact .inl fun _ => rfl
    · exact .inr fun _ => rfl
  · rw [if_neg hfirst] at hown
    have hcust : x.cust = 17 := by
      by_contra hne
      exact hown (if_neg hne)
    have hone : ¬ (2 : U32) = 1 := by decide
    have htwo : ¬ (2 : U32) ≠ 2 := by decide
    rw [if_neg hfirst, if_pos hcust, if_neg hfirst, if_pos hcust]
    simp only [if_neg hone, if_neg htwo]
    split_ifs
    · exact .inl fun _ => rfl
    · exact .inr fun _ => rfl
    · exact .inl fun _ => rfl
    · exact .inr fun _ => rfl

theorem other_customer (hother : hitThreshold x.cust = 184) : ¬ hitFirst x.cust = true ∧ ¬ x.cust = 17 := by
  unfold hitThreshold at hother
  by_cases hfirst : hitFirst x.cust = true
  · rw [if_pos hfirst] at hother
    exact absurd hother (by decide)
  · rw [if_neg hfirst] at hother
    refine ⟨hfirst, fun hcust => ?_⟩
    rw [if_pos hcust] at hother
    exact absurd hother (by decide)

/-- `-41 - result` is the distance to 215 in a byte. -/
theorem toNat_reduced {a b : U32} (ha : a.toNat ≤ 215) :
    (((-41 - a) * b).setWidth 8 / 10 : U8).toNat = (215 - a.toNat) * b.toNat % 256 / 10 := by
  have hminus : (-41 : U32).toNat = 256 * 16777215 + 215 := rfl
  have hdist : (-41 - a : U32).toNat = 215 - a.toNat + 256 * 16777215 := by
    rw [BitVec.toNat_sub, hminus]
    omega
  have hprod : (215 - a.toNat + 256 * 16777215) * b.toNat =
      (215 - a.toNat) * b.toNat + 256 * (16777215 * b.toNat) := by
    rw [Nat.add_mul, Nat.mul_assoc]
  have hbyte : (((-41 - a) * b).setWidth 8 : U8).toNat = (215 - a.toNat) * b.toNat % 256 := by
    rw [BitVec.toNat_setWidth, BitVec.toNat_mul, hdist, hprod, Nat.mod_mod_of_dvd _ (by decide)]
    exact Nat.add_mul_mod_self_left _ _ _
  rw [BitVec.toNat_udiv, hbyte]
  rfl

theorem hitAdjust_snd_iff (hother : hitThreshold x.cust = 184) :
    (hitAdjust x.cust (x.arg 0) (x.arg 2)).2 ≤ 0x28 ↔
      reducedMultipath (x.buf 0).toNat (x.buf 2).toNat ≤ 40 := by
  obtain ⟨hfirst, hcust⟩ := other_customer hother
  unfold hitAdjust reducedMultipath
  rw [if_neg hfirst, if_neg hcust, ← toNat_arg, ← toNat_arg]
  by_cases hweak : x.arg 0 ≤ 0xCC
  · have hle : (x.arg 0).toNat ≤ 204 := hweak
    rw [if_pos hweak, if_pos hle]
    exact Iff.rfl
  have hgt : ¬ (x.arg 0).toNat ≤ 204 := hweak
  rw [if_neg hweak, if_neg hgt]
  by_cases hstrong : x.arg 0 > 0xD7
  · have hlt : 215 < (x.arg 0).toNat := hstrong
    rw [if_pos hstrong, if_pos hlt]
    exact iff_of_true (by decide) (by decide)
  · have hle : ¬ 215 < (x.arg 0).toNat := hstrong
    have hnat := toNat_reduced (b := x.arg 2) (Nat.le_of_not_lt hle)
    rw [if_neg hstrong, if_neg hle, ← hnat]
    show (BitVec.setWidth 32 _ : U32).toNat ≤ 40 ↔ _
    rw [BitVec.toNat_setWidth, Nat.mod_eq_of_lt (Nat.lt_trans (BitVec.isLt _) (by decide))]

/-- A good reading of another customer leaves `v8` as it was. -/
theorem hitLimit_of_other (hother : hitThreshold x.cust = 184) (h : 184 ≤ (x.buf 0).toNat) (v8 : U32) :
    hitLimit v8 (hitAdjust x.cust (x.arg 0) (x.arg 2)).1 (x.arg 0) (x.arg 1)
      (hitAdjust x.cust (x.arg 0) (x.arg 2)).2 (x.arg 3) = if HitUnset x then some v8 else none := by
  obtain ⟨hfirst, hcust⟩ := other_customer hother
  have hstrong : x.arg 0 > 0xB7 := by
    show 183 < (x.arg 0).toNat
    rw [toNat_arg]
    omega
  have hnoise : ¬ x.arg 1 > 3 ↔ (x.buf 1).toNat ≤ 3 := by
    rw [← toNat_arg]
    exact Nat.not_lt
  have hdeviation : ¬ x.arg 3 > 0x14 ↔ (x.buf 3).toNat ≤ 20 := by
    rw [← toNat_arg]
    exact Nat.not_lt
  have hunset : HitUnset x ↔ (hitAdjust x.cust (x.arg 0) (x.arg 2)).2 ≤ 0x28 ∧
      ¬ x.arg 1 > 3 ∧ ¬ x.arg 3 > 0x14 := by
    rw [hitAdjust_snd_iff hother, hnoise, hdeviation]
    exact ⟨fun h => h.2.2, fun hgood => ⟨hother, h, hgood⟩⟩
  rw [hitAdjust_fst, if_neg hfirst, if_neg hcust]
  unfold hitLimit
  rw [if_neg (by decide), if_pos (by decide)]
  by_cases hmulti : (hitAdjust x.cust (x.arg 0) (x.arg 2)).2 ≤ 0x28
  · rw [if_pos ⟨hmulti, hstrong⟩]
    by_cases hbad : x.arg 3 > 0x14 ∨ x.arg 3 ≤ 0x14 ∧ x.arg 1 > 3
    · have hnot : ¬ HitUnset x := by
        rw [hunset]
        rintro ⟨-, hn, hd⟩
        exact hbad.elim hd fun h => hn h.2
      rw [if_pos hbad, if_neg hnot]
    · have hgood : HitUnset x := by
        have hd : ¬ x.arg 3 > 0x14 := fun h => hbad (.inl h)
        exact hunset.mpr ⟨hmulti, fun h => hbad (.inr ⟨BitVec.not_lt.mp hd, h⟩), hd⟩
      rw [if_neg hbad, if_pos hgood]
  · have hnot : ¬ HitUnset x := fun h => hmulti (hunset.mp h).1
    rw [if_neg (fun h => hmulti h.1), if_neg (BitVec.not_le.mpr hstrong), if_neg hnot]

/-! ## The FM level -/

theorem hitSignal_fm (hfm : 10000000 < t.radio.radioFreq) (v8 : U32) :
    t.hitSignal v8 x.cust (x.arg 0) (x.arg 1) (x.arg 2) (x.arg 3) =
      (hitLimit v8 (hitAdjust x.cust (x.arg 0) (x.arg 2)).1 (x.arg 0) (x.arg 1)
        (hitAdjust x.cust (x.arg 0) (x.arg 2)).2 (x.arg 3)).elim 168 (hitLevel (x.arg 0)) := by
  unfold hitSignal
  dsimp only
  rw [if_pos hfm]
  split
  · rename_i hlimit
    rw [hlimit]
    rfl
  · rename_i hlimit
    rw [hlimit]
    rfl

/-- Two values of `v8` that show in the level. -/
theorem hitLevel_undetermined (reading : U32) :
    hitLevel reading reading = 170 ∧ hitLevel reading (reading - 100) = 255 := by
  have hdist : reading - (reading - 100) = 100 := by bv_omega
  unfold hitLevel
  rw [BitVec.sub_self, hdist]
  decide

theorem limitOf_lt (cust : U8) : (limitOf cust).toNat < 256 := by
  unfold limitOf
  split_ifs <;> decide

theorem hitThreshold_le (cust : U8) : hitThreshold cust ≤ 184 := by
  unfold hitThreshold
  split_ifs <;> omega

theorem hitSignal_of_lt (hfm : 10000000 < t.radio.radioFreq)
    (hlt : (x.buf 0).toNat < hitThreshold x.cust) (v8 : U32) :
    t.hitSignal v8 x.cust (x.arg 0) (x.arg 1) (x.arg 2) (x.arg 3) = hitLevel (x.arg 0) (limitOf x.cust) := by
  rw [hitSignal_fm hfm, hitLimit_of_lt hlt]
  rfl

/-- The level depends on `v8` for the good readings that leave it as it was. -/
theorem hitSignal_determined_iff (hfm : 10000000 < t.radio.radioFreq) :
    (∀ v8 v8', t.hitSignal v8 x.cust (x.arg 0) (x.arg 1) (x.arg 2) (x.arg 3) =
      t.hitSignal v8' x.cust (x.arg 0) (x.arg 1) (x.arg 2) (x.arg 3)) ↔ ¬ HitUnset x := by
  rcases Nat.lt_or_ge (x.buf 0).toNat (hitThreshold x.cust) with hlt | hle
  · refine iff_of_true (fun v8 v8' => ?_) ?_
    · rw [hitSignal_of_lt hfm hlt, hitSignal_of_lt hfm hlt]
    · rintro ⟨hother, hreading, -⟩
      omega
  by_cases hother : hitThreshold x.cust = 184
  · rw [hother] at hle
    have hlimit := hitLimit_of_other hother hle
    by_cases hunset : HitUnset x
    · refine iff_of_false (fun h => ?_) (not_not.mpr hunset)
      have hvalue : ∀ v8, t.hitSignal v8 x.cust (x.arg 0) (x.arg 1) (x.arg 2) (x.arg 3) =
          hitLevel (x.arg 0) v8 := by
        intro v8
        rw [hitSignal_fm hfm, hlimit, if_pos hunset]
        rfl
      obtain ⟨hlow, hhigh⟩ := hitLevel_undetermined (x.arg 0)
      have hsame := h (x.arg 0) (x.arg 0 - 100)
      rw [hvalue, hvalue, hlow, hhigh] at hsame
      exact absurd hsame (by decide)
    · refine iff_of_true (fun v8 v8' => ?_) hunset
      rw [hitSignal_fm hfm, hitSignal_fm hfm, hlimit, hlimit, if_neg hunset, if_neg hunset]
  · refine iff_of_true (fun v8 v8' => ?_) fun h => hother h.1
    rw [hitSignal_fm hfm, hitSignal_fm hfm]
    rcases hitLimit_of_own hother (x.arg 1) (x.arg 2) (x.arg 3) with hnone | hsome
    · rw [hnone, hnone]
    · rw [hsome, hsome]

theorem hitSignal_le (hfm : 10000000 < t.radio.radioFreq) (v8 : U32) :
    t.hitSignal v8 x.cust (x.arg 0) (x.arg 1) (x.arg 2) (x.arg 3) ≤ 255 := by
  rw [hitSignal_fm hfm]
  cases hitLimit v8 _ _ _ _ _ with
  | none => exact (by decide : (168 : U32) ≤ 255)
  | some v8 => exact hitLevel_le

theorem hitRight_iff_of_lt (hfm : 10000000 < t.radio.radioFreq)
    (hlt : (x.buf 0).toNat < hitThreshold x.cust) :
    HitRight x t ↔ hitThreshold x.cust ≤ (x.buf 0).toNat + 72 := by
  have hsignal := hitSignal_of_lt hfm hlt
  have hvalue := toNat_hitLevel (arg_lt x 0) (limitOf_lt x.cust)
  rw [toNat_limitOf, toNat_arg] at hvalue
  have hbyte := byte_rawLevel_iff hlt (hitThreshold_le x.cust)
  constructor
  · intro h
    have hbelow := h.below hlt 0
    rw [hsignal] at hbelow
    exact hbyte.mp (hvalue.symm.trans hbelow)
  · intro hnear
    have hraw := hvalue.trans (hbyte.mpr hnear)
    refine ⟨fun v8 v8' => ?_, hitSignal_le hfm, fun v8 hgood => ?_, fun _ v8 => ?_⟩
    · rw [hsignal, hsignal]
    · rw [hsignal] at hgood
      have hle : 170 ≤ (hitLevel (x.arg 0) (limitOf x.cust)).toNat := hgood
      rw [rawLevel_of_lt hlt] at hraw
      omega
    · rw [hsignal]
      exact hraw

theorem hitRight_iff_of_le (hfm : 10000000 < t.radio.radioFreq)
    (hle : hitThreshold x.cust ≤ (x.buf 0).toNat) : HitRight x t ↔ ¬ HitUnset x := by
  rw [← hitSignal_determined_iff (t := t) hfm]
  exact ⟨fun h => h.determined, fun h =>
    ⟨h, hitSignal_le hfm, fun _ _ => hle, fun hlt => absurd hle (Nat.not_le.mpr hlt)⟩⟩

/-- `Hit_signal` is right on FM unless the reading is more than 72 below the customer's threshold, or it is a
good one of a customer without a threshold of its own. -/
theorem hitRight_iff (x : Status) (t : Tuner) (hfm : 10000000 < t.radio.radioFreq) :
    HitRight x t ↔ hitThreshold x.cust ≤ (x.buf 0).toNat + 72 ∧ ¬ HitUnset x := by
  rcases Nat.lt_or_ge (x.buf 0).toNat (hitThreshold x.cust) with hlt | hle
  · have hset : ¬ HitUnset x := by
      rintro ⟨hother, hreading, -⟩
      omega
    rw [hitRight_iff_of_lt hfm hlt, and_iff_left hset]
  · rw [hitRight_iff_of_le hfm hle, and_iff_right (Nat.le_add_right_of_le hle)]

/-- A tuner at 99.1 MHz with front end 4. -/
def onFm : Tuner := (default : Tuner).mapRadio fun r => { r with radioFreq := 99100000, cfgRadio := 4 }

/-- A reading of 100 for customer 0: 84 below the threshold. -/
def weak : Status := ⟨0, Fin.cases 100 fun _ => 0⟩

theorem hitRight_iff_weak :
    HitRight weak onFm ↔ hitThreshold weak.cust ≤ (weak.buf 0).toNat + 72 ∧ ¬ HitUnset weak :=
  hitRight_iff weak onFm (by decide)

/-- The level is 229 instead of 0. -/
theorem not_hitRight_weak : ¬ HitRight weak onFm := by
  intro h
  have hbelow := h.below (by decide) 0
  revert hbelow
  decide

/-! ## The level of `Af_Check` -/

theorem hitSignal_am (ham : ¬ 10000000 < t.radio.radioFreq) (v8 : U32) :
    t.hitSignal v8 x.cust (x.arg 0) (x.arg 1) (x.arg 2) (x.arg 3) = hitAm x.cust (x.arg 0) (x.arg 1) :=
  if_neg ham

/-- Bit 7 is not in the numbers 1 and 2. -/
theorem masked_eq_iff (b k : U8) (hk : k ≠ 0) (hlow : k.setWidth 32 &&& 0x80 = (0 : U32)) :
    (if b.setWidth 32 &&& 0x80 ≠ (0 : U32) then 0 else b.setWidth 32 : U32) = k.setWidth 32 ↔ b = k := by
  have hinj : ∀ c d : U8, (c.setWidth 32 : U32) = d.setWidth 32 → c = d := fun c d h => by
    have hback := congrArg (BitVec.setWidth 8) h
    simpa using hback
  constructor
  · intro h
    split at h
    · exact absurd (hinj 0 k h).symm hk
    · exact hinj b k h
  · rintro rfl
    rw [if_neg (not_not.mpr hlow)]

/-- The two transcriptions of the level of front end 3. -/
theorem tef6686_agrees_iff (h3 : t.radio.cfgRadio = 3) :
    (∀ v8 v8', t.afSignal v8 x = t.radioGetSignal v8' x) ↔
      x.buf 0 ≠ 1 ∧ (¬ t.radio.radioFreq.sle 10000000 → x.buf 0 ≠ 2) := by
  have hnot : ¬ (t.radio.cfgRadio = 2 ∨ t.radio.cfgRadio = 4) := by
    rw [h3]
    decide
  have hone := masked_eq_iff (x.buf 0) 1 (by decide) (by decide)
  have htwo := masked_eq_iff (x.buf 0) 2 (by decide) (by decide)
  unfold afSignal radioGetSignal tef6686Signal
  simp only [if_neg hnot, if_pos h3, forall_const]
  change (if x.arg 0 &&& 0x80 ≠ (0 : U32) then 0 else x.arg 0 : U32) = 1 ↔ _ at hone
  change (if x.arg 0 &&& 0x80 ≠ (0 : U32) then 0 else x.arg 0 : U32) = 2 ↔ _ at htwo
  generalize (if x.arg 0 &&& 0x80 ≠ (0 : U32) then 0 else x.arg 0 : U32) = v at hone htwo ⊢
  rw [ne_eq, ne_eq, ← hone, ← htwo]
  by_cases hv1 : v = 1
  · rw [if_pos hv1, if_pos hv1, if_pos hv1, if_pos hv1]
    refine iff_of_false (fun h => ?_) fun h => h.1 hv1
    split at h <;> exact absurd h (by decide)
  rw [if_neg hv1, if_neg hv1, if_neg hv1, if_neg hv1]
  by_cases ham : t.radio.radioFreq.sle 10000000 = true
  · rw [if_pos ham, if_pos ham]
    exact iff_of_true rfl ⟨hv1, fun h => absurd ham h⟩
  rw [if_neg ham, if_neg ham]
  by_cases hv2 : v = 2
  · rw [if_pos hv2, if_pos hv2]
    exact iff_of_false (by decide) fun h => h.2 ham hv2
  · rw [if_neg hv2, if_neg hv2]
    exact iff_of_true rfl ⟨hv1, fun _ => hv2⟩

theorem hit_agrees_iff (h4 : t.radio.cfgRadio = 4) :
    (∀ v8 v8', t.afSignal v8 x = t.radioGetSignal v8' x) ↔
      (10000000 < t.radio.radioFreq → ¬ HitUnset x) := by
  have hhit : t.radio.cfgRadio = 2 ∨ t.radio.cfgRadio = 4 := .inr h4
  have h3 : ¬ t.radio.cfgRadio = 3 := by
    rw [h4]
    decide
  unfold afSignal radioGetSignal
  simp only [if_pos hhit, if_neg h3]
  by_cases hfm : 10000000 < t.radio.radioFreq
  · rw [hitSignal_determined_iff hfm, imp_iff_right hfm]
  · refine iff_of_true (fun v8 v8' => ?_) fun h => absurd h hfm
    rw [hitSignal_am hfm, hitSignal_am hfm]

theorem level_agrees_iff (hcfg : t.radio.cfgRadio ≠ 2) :
    (∀ v8 v8', t.afSignal v8 x = t.radioGetSignal v8' x) ↔ LevelAgrees x t := by
  by_cases h3 : t.radio.cfgRadio = 3
  · have h4 : ¬ t.radio.cfgRadio = 4 := by
      rw [h3]
      decide
    rw [tef6686_agrees_iff h3]
    exact ⟨fun h => ⟨fun _ => h, fun h' => absurd h' h4⟩, fun h => h.tef6686 h3⟩
  by_cases h4 : t.radio.cfgRadio = 4
  · rw [hit_agrees_iff h4]
    exact ⟨fun h => ⟨fun h' => absurd h' h3, fun _ => h⟩, fun h => h.hit h4⟩
  · have hnot : ¬ (t.radio.cfgRadio = 2 ∨ t.radio.cfgRadio = 4) := fun h => h.elim hcfg h4
    refine iff_of_true (fun v8 v8' => ?_) ⟨fun h => absurd h h3, fun h => absurd h h4⟩
    unfold afSignal radioGetSignal
    rw [if_neg hnot, if_neg h3, if_neg h3, if_neg hnot]

/-! ## The tuning word -/

/-- A difference that is compared with its sign. -/
theorem slt_sub_iff (freq : U32) {c k : U32} (h : c.toNat + k.toNat < 2 ^ 31) :
    k.slt (freq - c) = true ↔ c.toNat + k.toNat < freq.toNat ∧ freq.toNat < 2 ^ 31 + c.toNat := by
  have hfreq := freq.isLt
  rw [BitVec.slt_iff_toInt_lt, BitVec.toInt_eq_toNat_cond, BitVec.toInt_eq_toNat_cond, BitVec.toNat_sub]
  split_ifs <;> omega

/-- A difference that is compared without one. -/
theorem sub_le_iff (freq : U32) {c k : U32} (h : c.toNat + k.toNat < 2 ^ 32) :
    freq - c ≤ k ↔ c.toNat ≤ freq.toNat ∧ freq.toNat ≤ c.toNat + k.toNat := by
  have hfreq := freq.isLt
  rw [BitVec.le_def, BitVec.toNat_sub]
  omega

/-- The band chain of `Radio_Set_Frequency_com`. -/
theorem tuningWord_eq (freq : U32) : Radio.tuningWord freq =
    if freq.toNat ≤ 1720000 ∨ 2 ^ 31 + 144000 ≤ freq.toNat then some (freq.sdiv 1000)
    else if freq.toNat ≤ 108000000 then some (freq.sdiv 50000 ||| 0x2000)
    else none := by
  have h1 := slt_sub_iff freq (c := 144000) (k := 1576000) (by decide)
  have h2 := slt_sub_iff freq (c := 76000000) (k := 32000000) (by decide)
  have h3 := slt_sub_iff freq (c := 2940000) (k := 15195000) (by decide)
  have h4 := slt_sub_iff freq (c := 65000000) (k := 9000000) (by decide)
  change _ ↔ 144000 + 1576000 < freq.toNat ∧ freq.toNat < 2 ^ 31 + 144000 at h1
  change _ ↔ 76000000 + 32000000 < freq.toNat ∧ freq.toNat < 2 ^ 31 + 76000000 at h2
  change _ ↔ 2940000 + 15195000 < freq.toNat ∧ freq.toNat < 2 ^ 31 + 2940000 at h3
  change _ ↔ 65000000 + 9000000 < freq.toNat ∧ freq.toNat < 2 ^ 31 + 65000000 at h4
  unfold Radio.tuningWord
  by_cases hlow : freq.toNat ≤ 1720000 ∨ 2 ^ 31 + 144000 ≤ freq.toNat
  · rw [if_pos hlow, if_neg (by rw [h1]; omega)]
  rw [if_neg hlow, if_pos (h1.mpr (by omega))]
  by_cases hfm : freq.toNat ≤ 108000000
  · rw [if_pos hfm, if_neg (by rw [h2]; omega)]
  · rw [if_neg hfm, if_pos (h2.mpr (by omega)), BitVec.sle_eq_not_slt, h3.mpr (by omega), if_neg (by decide),
      if_pos (h4.mpr (by omega))]

/-- The band chain of `Af_Check`. -/
theorem afWord_eq (freq : U32) : afWord freq =
    if 144000 ≤ freq.toNat ∧ freq.toNat ≤ 1720000 then some (freq / 1000)
    else if 76000000 ≤ freq.toNat ∧ freq.toNat ≤ 108000000 then some (freq / 50000 ||| 0x2000)
    else if 294000 ≤ freq.toNat ∧ freq.toNat ≤ 15489000 then some (freq / 5000 ||| 0x4000)
    else if 65000000 ≤ freq.toNat ∧ freq.toNat ≤ 74000000 then some (freq / 10000 ||| 0x6000)
    else none := by
  unfold afWord
  have h1 := sub_le_iff freq (c := 144000) (k := 0x180C40) (by decide)
  have h2 := sub_le_iff freq (c := 76000000) (k := 0x1E84800) (by decide)
  have h3 := sub_le_iff freq (c := 294000) (k := 0xE7DB78) (by decide)
  have h4 := sub_le_iff freq (c := 65000000) (k := 0x895440) (by decide)
  change _ ↔ 144000 ≤ freq.toNat ∧ freq.toNat ≤ 144000 + 1576000 at h1
  change _ ↔ 76000000 ≤ freq.toNat ∧ freq.toNat ≤ 76000000 + 32000000 at h2
  change _ ↔ 294000 ≤ freq.toNat ∧ freq.toNat ≤ 294000 + 15195000 at h3
  change _ ↔ 65000000 ≤ freq.toNat ∧ freq.toNat ≤ 65000000 + 9000000 at h4
  have h4' : freq - 65000000 > 0x895440 ↔ ¬ (65000000 ≤ freq.toNat ∧ freq.toNat ≤ 74000000) := by
    rw [← h4]
    exact BitVec.not_le.symm
  rw [if_congr h4' rfl rfl, ite_not]
  exact if_congr h1 rfl (if_congr h2 rfl (if_congr h3 rfl rfl))

/-- A quotient of frequencies that are positive as `int`. -/
theorem sdiv_eq_div {freq k : U32} (hfreq : freq.toNat < 2 ^ 31) (hk : k.toNat < 2 ^ 31) :
    freq.sdiv k = freq / k := by
  have hmsb : ∀ v : U32, v.toNat < 2 ^ 31 → v.msb = false := fun v hv => by
    rw [BitVec.msb_eq_decide, decide_eq_false_iff_not]
    exact Nat.not_le.mpr hv
  rw [BitVec.sdiv_eq, hmsb freq hfreq, hmsb k hk]
  rfl

/-- The bytes of a tuning word. -/
def payload (word : Option U32) : Option (List U8) := word.map fun v : U32 => [(v >>> 8).setWidth 8, v.setWidth 8]

theorem sent_of_log {cmd : U32} {buf : List U8} {r r' : Radio} (new : List RadioEvent)
    (h : r'.log = new ++ r.log) : Sent cmd buf r r' ↔ .armSendMulti cmd buf ∈ new := by
  constructor
  · rintro ⟨new', h', hmem⟩
    rwa [List.append_cancel_right (h.symm.trans h')]
  · intro hmem
    exact ⟨new, h, hmem⟩

theorem sent_afCheck_iff (freq signal : U32) (buf : List U8) (t : Tuner) :
    Sent 0x9209 buf t.radio (t.afCheck freq signal).2.radio ↔ payload (afWord freq) = some buf := by
  unfold afCheck
  cases afWord freq with
  | none =>
    rw [sent_of_log [] rfl]
    exact iff_of_false List.not_mem_nil (fun h => by cases h)
  | some v =>
    rw [sent_of_log [.armSendMulti 4618 [],
      .armSendMulti 37385 [(v >>> 8).setWidth 8, v.setWidth 8]] rfl]
    simp only [List.mem_cons, List.not_mem_nil, RadioEvent.armSendMulti.injEq, or_false, true_and,
      show ¬ (0x9209 : U32) = 4618 by decide, false_and, false_or]
    exact ⟨fun h => congrArg some h.symm, fun h => (Option.some.inj h).symm⟩

theorem sent_radioSetFrequencyCom_iff (freq a2 : U32) (buf : List U8) (r : Radio) :
    Sent (if a2 ≠ 0 then 0x9208 else 0x9200) buf r (r.radioSetFrequencyCom freq a2) ↔
      payload (Radio.tuningWord freq) = some buf := by
  unfold Radio.radioSetFrequencyCom
  cases Radio.tuningWord freq with
  | none =>
    rw [sent_of_log [.scheduleStaValid, .cancelStaValid] rfl]
    exact iff_of_false (by simp) (fun h => by cases h)
  | some v =>
    rw [sent_of_log [.vsSend 0x98 [0, 0, 0, 0, 0],
      .armSendMulti (if a2 ≠ 0 then 0x9208 else 0x9200) [(v >>> 8).setWidth 8, v.setWidth 8],
      .scheduleStaValid, .cancelStaValid] rfl]
    simp only [List.mem_cons, List.not_mem_nil, RadioEvent.armSendMulti.injEq, reduceCtorEq, true_and,
      false_or, or_false]
    exact ⟨fun h => congrArg some h.symm, fun h => (Option.some.inj h).symm⟩

/-- Bit 14 of the word is bit 6 of its first byte. -/
theorem bit_of_payload {v w : U32} (h : payload (some v) = payload (some w)) :
    v.getLsbD 14 = w.getLsbD 14 := by
  have hhigh := (List.cons.inj (Option.some.inj h)).1
  have hbit := congrArg (fun b : U8 => b.getLsbD 6) hhigh
  simpa using hbit

/-- The bits of the band are not reached by the quotient. -/
theorem bit_or {q band : U32} (hq : q.toNat < 2 ^ 14) : (q ||| band).getLsbD 14 = band.getLsbD 14 := by
  have hfree : q.getLsbD 14 = false := Nat.testBit_lt_two_pow hq
  rw [BitVec.getLsbD_or, hfree, Bool.false_or]

theorem toNat_div_lt {freq k : U32} {n : ℕ} (hk : 0 < k.toNat) (h : freq.toNat < n * k.toNat) :
    (freq / k).toNat < n := by
  rw [BitVec.toNat_udiv]
  exact (Nat.div_lt_iff_lt_mul hk).mpr h

/-- Between the bands `Radio_Set_Frequency_com` sends an FM word, and `Af_Check` another one or none. -/
theorem payload_ne {freq : U32} (hlow : 1720000 < freq.toNat) (hhigh : freq.toNat < 76000000) :
    payload (afWord freq) ≠ payload (Radio.tuningWord freq) := by
  have hfm : (freq / 50000).toNat < 2 ^ 14 := toNat_div_lt (by decide) (by
    show freq.toNat < 2 ^ 14 * 50000
    omega)
  have hfm14 : (freq / 50000 ||| 0x2000).getLsbD 14 = false := (bit_or hfm).trans (by decide)
  rw [tuningWord_eq, if_neg (by omega), if_pos (by omega), sdiv_eq_div (by omega) (by decide), afWord_eq,
    if_neg (by omega), if_neg (by omega)]
  intro h
  by_cases hthird : 294000 ≤ freq.toNat ∧ freq.toNat ≤ 15489000
  · have hq : (freq / 5000).toNat < 2 ^ 14 := toNat_div_lt (by decide) (by
      show freq.toNat < 2 ^ 14 * 5000
      omega)
    rw [if_pos hthird] at h
    have hbit := bit_of_payload h
    rw [hfm14, bit_or hq] at hbit
    exact absurd hbit (by decide)
  rw [if_neg hthird] at h
  by_cases hfourth : 65000000 ≤ freq.toNat ∧ freq.toNat ≤ 74000000
  · have hq : (freq / 10000).toNat < 2 ^ 14 := toNat_div_lt (by decide) (by
      show freq.toNat < 2 ^ 14 * 10000
      omega)
    rw [if_pos hfourth] at h
    have hbit := bit_of_payload h
    rw [hfm14, bit_or hq] at hbit
    exact absurd hbit (by decide)
  · rw [if_neg hfourth] at h
    cases h

theorem payload_eq_iff (freq : U32) :
    payload (afWord freq) = payload (Radio.tuningWord freq) ↔ SameWord freq := by
  unfold SameWord
  by_cases hmid : 1720000 < freq.toNat ∧ freq.toNat < 76000000
  · exact iff_of_false (payload_ne hmid.1 hmid.2) (by omega)
  rw [tuningWord_eq, afWord_eq]
  by_cases ham : 144000 ≤ freq.toNat ∧ freq.toNat ≤ 1720000
  · rw [if_pos ham, if_pos (.inl ham.2), sdiv_eq_div (by omega) (by decide)]
    exact iff_of_true rfl (.inl ham)
  rw [if_neg ham]
  by_cases hfm : 76000000 ≤ freq.toNat ∧ freq.toNat ≤ 108000000
  · rw [if_pos hfm, if_neg (by omega), if_pos hfm.2, sdiv_eq_div (by omega) (by decide)]
    exact iff_of_true rfl (by omega)
  rw [if_neg hfm, if_neg (by omega), if_neg (by omega)]
  by_cases hout : freq.toNat ≤ 1720000 ∨ 2 ^ 31 + 144000 ≤ freq.toNat
  · rw [if_pos hout]
    exact iff_of_false (fun h => by cases h) (by omega)
  · rw [if_neg hout, if_neg (by omega)]
    exact iff_of_true rfl (by omega)

/-! ## Agreement -/

theorem sends_iff (freq : U32) (t : Tuner) :
    (∀ signal a2 buf, Sent 0x9209 buf t.radio (t.afCheck freq signal).2.radio ↔
      Sent (if a2 ≠ 0 then 0x9208 else 0x9200) buf t.radio (t.radio.radioSetFrequencyCom freq a2)) ↔
      SameWord freq := by
  rw [← payload_eq_iff]
  constructor
  · intro h
    refine Option.ext fun buf => ?_
    rw [← sent_afCheck_iff freq 0 buf t, ← sent_radioSetFrequencyCom_iff freq 0 buf t.radio]
    exact h 0 0 buf
  · intro h signal a2 buf
    rw [sent_afCheck_iff, sent_radioSetFrequencyCom_iff, h]

/-- Where the words agree, `Af_Check` reads a level in the two bands. -/
theorem afWord_ne_none_iff {freq : U32} (h : SameWord freq) : afWord freq ≠ none ↔ freq.toNat ≤ 108000000 := by
  unfold SameWord at h
  rw [afWord_eq]
  by_cases ham : 144000 ≤ freq.toNat ∧ freq.toNat ≤ 1720000
  · rw [if_pos ham]
    exact iff_of_true (Option.some_ne_none _) (by omega)
  rw [if_neg ham]
  by_cases hfm : 76000000 ≤ freq.toNat ∧ freq.toNat ≤ 108000000
  · rw [if_pos hfm]
    exact iff_of_true (Option.some_ne_none _) hfm.2
  · rw [if_neg hfm, if_neg (by omega), if_neg (by omega)]
    exact iff_of_false (fun h => h rfl) (by omega)

theorem afCheck_fst {freq : U32} (h : afWord freq ≠ none) (signal : U32) (t : Tuner) :
    (t.afCheck freq signal).1 = signal := by
  unfold afCheck
  split
  · contradiction
  · rfl

/-- `Af_Check` agrees with the tuning and the reading of the level if and only if the frequency is one that
both chains take alike and, where a level is read, front end 3 reports nothing and front end 4 no level that
`Hit_signal` leaves open. -/
theorem afAgrees_iff (freq : U32) (x : Status) (t : Tuner) :
    AfAgrees freq x t ↔ SameWord freq ∧ (freq.toNat ≤ 108000000 → LevelAgrees x t) := by
  constructor
  · intro h
    have hsame := (sends_iff freq t).mp h.sends
    refine ⟨hsame, fun hband => ?_⟩
    have hword := (afWord_ne_none_iff hsame).mpr hband
    by_cases hcfg : t.radio.cfgRadio = 2
    · refine ⟨fun h3 => ?_, fun h4 => ?_⟩
      · exact absurd (hcfg.symm.trans h3) (by decide)
      · exact absurd (hcfg.symm.trans h4) (by decide)
    · refine (level_agrees_iff hcfg).mp fun v8 v8' => ?_
      rw [← h.level hcfg hword v8 v8', afCheck_fst hword]
  · rintro ⟨hsame, hlevel⟩
    refine ⟨(sends_iff freq t).mpr hsame, fun hcfg hword v8 v8' => ?_⟩
    rw [afCheck_fst hword]
    exact (level_agrees_iff hcfg).mpr (hlevel ((afWord_ne_none_iff hsame).mp hword)) v8 v8'

/-- At 3 MHz `Radio_Set_Frequency_com` sends an FM word and `Af_Check` one of another band. -/
theorem not_afAgrees_shortWave : ¬ AfAgrees 3000000 weak onFm := by
  intro h
  have hsame := (sends_iff 3000000 onFm).mp h.sends
  unfold SameWord at hsame
  exact absurd hsame (by decide)

end Tuner

end MtcDrivers
