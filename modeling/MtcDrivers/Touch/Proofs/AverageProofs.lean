import Mathlib.Algebra.Group.Action.Defs
import Mathlib.Algebra.Order.BigOperators.Group.List
import Mathlib.Algebra.Order.Ring.Nat
import Mathlib.Tactic.SplitIfs
import MtcDrivers.Touch.Panel
import MtcDrivers.Touch.Proofs.ReleaseProofs

/-!
# Proofs: the averages of the touch panel

The first two accepted samples behind an interrupt fill the arrays, and their averages lie between the
middle points; the third one is stored at index 2, behind the end of both arrays.
-/

namespace MtcDrivers

/-! ## Averages -/

/-- An average, rounded down, lies between the smallest and the largest summand. -/
theorem average_between (xs : List ℕ) (hxs : xs ≠ []) :
    (∃ lo ∈ xs, lo ≤ xs.sum / xs.length) ∧ ∃ hi ∈ xs, xs.sum / xs.length ≤ hi := by
  have hpos : 0 < xs.length := List.length_pos_iff.mpr hxs
  constructor
  · by_contra hnone
    push Not at hnone
    have hlarge : xs.length • (xs.sum / xs.length + 1) ≤ xs.sum :=
      List.card_nsmul_le_sum xs _ fun x hx => hnone x hx
    have hrest := Nat.lt_mul_div_succ xs.sum hpos
    rw [smul_eq_mul] at hlarge
    omega
  · by_contra hnone
    push Not at hnone
    have hq : 0 < xs.sum / xs.length := by
      obtain ⟨x, hx⟩ := List.exists_mem_of_ne_nil xs hxs
      exact Nat.lt_of_le_of_lt (Nat.zero_le x) (hnone x hx)
    have hsmall : xs.sum ≤ xs.length • (xs.sum / xs.length - 1) :=
      List.sum_le_card_nsmul xs _ fun x hx => Nat.le_sub_one_of_lt (hnone x hx)
    have hback := Nat.mul_div_le xs.sum xs.length
    have hless : xs.length * (xs.sum / xs.length - 1) < xs.length * (xs.sum / xs.length) :=
      Nat.mul_lt_mul_of_pos_left (by omega) hpos
    rw [smul_eq_mul] at hsmall
    omega

theorem foldl_add_ofNat (xs : List ℕ) (n : ℕ) :
    (xs.map (BitVec.ofNat 32)).foldl (fun sum x => sum + x) (BitVec.ofNat 32 n) =
      BitVec.ofNat 32 (n + xs.sum) := by
  induction xs generalizing n with
  | nil => rfl
  | cons x xs ih =>
    rw [List.map_cons, List.foldl_cons, ← BitVec.ofNat_add, ih, List.sum_cons, Nat.add_assoc]

theorem toInt_sdiv_small {m n : ℕ} (hm : m < 2 ^ 31) (hn : n < 2 ^ 31) :
    ((BitVec.ofNat 32 m).sdiv (BitVec.ofNat 32 n)).toInt = ((m / n : ℕ) : ℤ) := by
  have hint : ∀ k < 2 ^ 31, (BitVec.ofNat 32 k).toInt = (k : ℤ) := by
    intro k hk
    rw [BitVec.toInt_ofNat']
    exact Int.bmod_eq_of_le (by omega) (by omega)
  have hle : m / n ≤ m := Nat.div_le_self m n
  have hquot : 0 ≤ m / n := Nat.zero_le _
  rw [BitVec.toInt_sdiv, hint m hm, hint n hn, ← Int.ofNat_tdiv]
  generalize m / n = q at hle hquot ⊢
  exact Int.bmod_eq_of_le (by omega) (by omega)

/-! ## The bytes of a word -/

theorem getLsbD_setWordByte (w : U32) (k : ℕ) (b : U8) {i : ℕ} (hi : i < 32) :
    (setWordByte w k b).getLsbD i =
      if 8 * k ≤ i ∧ i < 8 * k + 8 then b.getLsbD (i - 8 * k) else w.getLsbD i := by
  have hmask : (0xFF#32).getLsbD (i - 8 * k) = decide (i - 8 * k < 8) := by
    have h : ∀ j < 32, (0xFF#32).getLsbD j = decide (j < 8) := by decide
    exact h _ (by omega)
  have hbyte : 8 ≤ i - 8 * k → b.getLsbD (i - 8 * k) = false := fun h => BitVec.getLsbD_of_ge b _ h
  simp only [setWordByte, BitVec.getLsbD_or, BitVec.getLsbD_and, BitVec.getLsbD_not,
    BitVec.getLsbD_shiftLeft, BitVec.getLsbD_setWidth, hi, hmask, decide_true, Bool.true_and]
  by_cases hlow : i < 8 * k
  · simp [hlow]
  · by_cases hhigh : i < 8 * k + 8
    · have h8 : i - 8 * k < 8 := by omega
      have h32 : i - 8 * k < 32 := by omega
      have hle : 8 * k ≤ i := by omega
      simp [hlow, h8, h32, hle, hhigh]
    · have h8 : ¬i - 8 * k < 8 := by omega
      simp [hlow, h8, hhigh, hbyte (by omega)]

@[simp] theorem wordByte_setWordByte_self (w : U32) {k : ℕ} (hk : k < 4) (b : U8) :
    wordByte (setWordByte w k b) k = b := by
  refine BitVec.eq_of_getLsbD_eq fun i hi => ?_
  have hlt : 8 * k + i < 32 := by omega
  have hin : 8 * k ≤ 8 * k + i ∧ 8 * k + i < 8 * k + 8 := by omega
  rw [wordByte, BitVec.getLsbD_setWidth, BitVec.getLsbD_ushiftRight, getLsbD_setWordByte w k b hlt,
    if_pos hin, Nat.add_sub_cancel_left]
  simp [hi]

@[simp] theorem wordByte_setWordByte_ne (w : U32) {j k : ℕ} (hj : j < 4) (hjk : j ≠ k) (b : U8) :
    wordByte (setWordByte w k b) j = wordByte w j := by
  refine BitVec.eq_of_getLsbD_eq fun i hi => ?_
  have hlt : 8 * j + i < 32 := by omega
  have hout : ¬(8 * k ≤ 8 * j + i ∧ 8 * j + i < 8 * k + 8) := by omega
  rw [wordByte, wordByte, BitVec.getLsbD_setWidth, BitVec.getLsbD_setWidth, BitVec.getLsbD_ushiftRight,
    BitVec.getLsbD_ushiftRight, getLsbD_setWordByte w k b hlt, if_neg hout]

/-! ## The words of the panel -/

namespace TouchPanel

variable {ts ts' : TouchPanel} {i n : ℕ}

theorem words_poke_ne (v : U32) {j : ℕ} (hij : i ≠ j) : (ts.poke j v).words i = ts.words i := by
  simp [poke, hij]

@[simp] theorem words_poke_self (v : U32) : (ts.poke i v).words i = v := by
  simp [poke]

theorem calibIdx_poke (v : U32) (hi : countersWord ≠ i) : (ts.poke i v).calibIdx = ts.calibIdx := by
  rw [calibIdx, words_poke_ne v hi, calibIdx]

@[simp] theorem calibIdx_setCalibIdx (b : U8) : (ts.setCalibIdx b).calibIdx = b := by
  simp [calibIdx, setCalibIdx]

@[simp] theorem sampleCnt_setCalibIdx (b : U8) : (ts.setCalibIdx b).sampleCnt = ts.sampleCnt := by
  simp [sampleCnt, setCalibIdx]

@[simp] theorem calibIdx_setSampleCnt (b : U8) : (ts.setSampleCnt b).calibIdx = ts.calibIdx := by
  simp [calibIdx, setSampleCnt]

@[simp] theorem sampleCnt_setSampleCnt (b : U8) : (ts.setSampleCnt b).sampleCnt = b := by
  simp [sampleCnt, setSampleCnt]

/-- What the code behind the averages leaves as it is: the words up to the counters and the averages. -/
structure Kept (ts ts' : TouchPanel) : Prop where
  words : ∀ i ≤ countersWord, ts'.words i = ts.words i
  calibX : ts'.tscCalibX = ts.tscCalibX
  calibY : ts'.tscCalibY = ts.tscCalibY

theorem Kept.trans {ts'' : TouchPanel} (h : Kept ts ts') (h' : Kept ts' ts'') : Kept ts ts'' where
  words i hi := (h'.words i hi).trans (h.words i hi)
  calibX := h'.calibX.trans h.calibX
  calibY := h'.calibY.trans h.calibY

/-- The fields outside the words and the averages do not matter. -/
theorem Kept.of_eq (hwords : ts'.words = ts.words) (hx : ts'.tscCalibX = ts.tscCalibX)
    (hy : ts'.tscCalibY = ts.tscCalibY) : Kept ts ts' :=
  ⟨fun i _ => congrFun hwords i, hx, hy⟩

theorem kept_setTouch (x y : U32) : Kept ts (ts.setTouch x y) where
  words i hi := by
    have h1 : i ≠ countersWord + 1 := by omega
    have h2 : i ≠ countersWord + 2 := by omega
    rw [setTouch, words_poke_ne y h2, words_poke_ne x h1]
  calibX := rfl
  calibY := rfl

theorem kept_smooth (calX calY : U32) : Kept ts (ts.smooth calX calY) := by
  unfold smooth
  split_ifs
  · exact kept_setTouch calX calY
  · exact kept_setTouch calX calY
  · exact .of_eq rfl rfl rfl

theorem kept_reportPoint : Kept ts ts.reportPoint.panel := by
  unfold reportPoint
  split_ifs <;> exact .of_eq rfl rfl rfl

theorem kept_touchPoint (op : TouchSample) (calX calY : U32) (ts : TouchPanel) :
    Kept ts (touchPoint op calX calY ts).panel := by
  have hdown : Kept ts { ts with tscPenDown := 1 } := .of_eq rfl rfl rfl
  dsimp only [touchPoint]
  by_cases hon : ts.keyState ≠ 0 ∧ ts.blState = 0
  · rw [if_pos hon]
    have hsmooth := hdown.trans (kept_smooth calX calY)
    by_cases htouch : (!op.isTouchDisable) = true
    · rw [if_pos htouch]
      exact hsmooth.trans kept_reportPoint
    · rw [if_neg htouch]
      exact hsmooth
  · rw [if_neg hon]
    exact hdown

/-- The counters of an accepted sample while both are below their limits. -/
theorem countPoint_words (hi : i ≠ countersWord) : ts.countPoint.words i = ts.words i := by
  have hidx : ∀ (t : TouchPanel) (b : U8), (t.setCalibIdx b).words i = t.words i :=
    fun t b => words_poke_ne _ hi
  have hcnt : ∀ (t : TouchPanel) (b : U8), (t.setSampleCnt b).words i = t.words i :=
    fun t b => words_poke_ne _ hi
  dsimp only [countPoint]
  split_ifs <;> simp only [hidx, hcnt]

theorem countPoint_counters (ts : TouchPanel) (hidx : ts.calibIdx ≤ 1) (hcnt : ts.sampleCnt ≤ 2) :
    ts.countPoint.calibIdx = ts.calibIdx + 1 ∧ ts.countPoint.sampleCnt = ts.sampleCnt + 1 := by
  dsimp only [countPoint]
  rw [if_pos hidx, sampleCnt_setCalibIdx, if_pos hcnt, calibIdx_setSampleCnt, sampleCnt_setSampleCnt,
    calibIdx_setCalibIdx]
  exact ⟨rfl, rfl⟩

theorem calibIdx_setCalibX (v : U32) (hn : n < calibLen) :
    (ts.setCalibX n v).calibIdx = ts.calibIdx := by
  have hne : countersWord ≠ n := by rw [countersWord]; omega
  exact calibIdx_poke v hne

/-- An index below the length stores one entry of each array. -/
theorem storePoint_eq (r : TouchRaw) (hidx : ts.calibIdx.toNat = n) (hn : n < calibLen) :
    ts.storePoint r =
      (ts.setCalibX n (BitVec.ofNat 32 r.midX)).setCalibY n (BitVec.ofNat 32 r.midY) := by
  dsimp only [storePoint]
  rw [hidx, calibIdx_setCalibX _ hn, hidx]

/-! ## The stored points -/

/-- The arrays hold the middle points of `rs`, and both counters their number. -/
structure Stored (ts : TouchPanel) (rs : List TouchRaw) : Prop where
  small : rs.length ≤ calibLen
  idx : ts.calibIdx = BitVec.ofNat 8 rs.length
  cnt : ts.sampleCnt = BitVec.ofNat 8 rs.length
  x : ∀ i (h : i < rs.length), ts.calibXAvg i = BitVec.ofNat 32 (rs.get ⟨i, h⟩).midX
  y : ∀ i (h : i < rs.length), ts.calibYAvg i = BitVec.ofNat 32 (rs.get ⟨i, h⟩).midY

theorem stored_irq : Stored (tsc2003Irq ts).panel [] where
  small := Nat.zero_le _
  idx := by simp [tsc2003Irq]
  cnt := by simp [tsc2003Irq]
  x i h := absurd h (Nat.not_lt_zero i)
  y i h := absurd h (Nat.not_lt_zero i)

theorem Stored.congr {rs : List TouchRaw} (h : Stored ts rs)
    (hwords : ∀ i ≤ countersWord, ts'.words i = ts.words i) : Stored ts' rs where
  small := h.small
  idx := by rw [calibIdx, hwords _ (Nat.le_refl _)]; exact h.idx
  cnt := by rw [sampleCnt, hwords _ (Nat.le_refl _)]; exact h.cnt
  x i hi := by
    have hsmall := h.small
    have hle : i ≤ countersWord := by rw [countersWord]; omega
    rw [calibXAvg, hwords i hle]
    exact h.x i hi
  y i hi := by
    have hsmall := h.small
    have hle : calibLen + i ≤ countersWord := by rw [countersWord]; omega
    rw [calibYAvg, hwords _ hle]
    exact h.y i hi

theorem Stored.idx_toNat {rs : List TouchRaw} (h : Stored ts rs) : ts.calibIdx.toNat = rs.length := by
  have hsmall : rs.length ≤ 2 := h.small
  rw [h.idx, BitVec.toNat_ofNat]
  exact Nat.mod_eq_of_lt (by omega)

theorem Stored.cnt_toNat {rs : List TouchRaw} (h : Stored ts rs) : ts.sampleCnt.toNat = rs.length := by
  have hsmall : rs.length ≤ 2 := h.small
  rw [h.cnt, BitVec.toNat_ofNat]
  exact Nat.mod_eq_of_lt (by omega)

theorem Stored.point {rs : List TouchRaw} (h : Stored ts rs) (hroom : rs.length < calibLen)
    (r : TouchRaw) : Stored (ts.storePoint r).countPoint (rs ++ [r]) := by
  have hn : rs.length < 2 := hroom
  have hx : countersWord ≠ rs.length := by rw [countersWord]; omega
  have hy : countersWord ≠ calibLen + rs.length := by rw [countersWord]; omega
  have hstore := storePoint_eq r h.idx_toNat hroom
  have hidx : (ts.storePoint r).calibIdx = BitVec.ofNat 8 rs.length := by
    rw [hstore, setCalibY, calibIdx_poke _ hy, setCalibX, calibIdx_poke _ hx, h.idx]
  have hcnt : (ts.storePoint r).sampleCnt = BitVec.ofNat 8 rs.length := by
    rw [hstore, sampleCnt, setCalibY, words_poke_ne _ hy, setCalibX, words_poke_ne _ hx]
    exact h.cnt
  obtain ⟨hidx', hcnt'⟩ := countPoint_counters (ts.storePoint r)
    (by rw [hidx]; bv_omega) (by rw [hcnt]; bv_omega)
  have hwords : ∀ i ≠ countersWord, (ts.storePoint r).countPoint.words i = (ts.storePoint r).words i :=
    fun i hi => countPoint_words hi
  refine ⟨?_, ?_, ?_, ?_, ?_⟩
  · rw [List.length_append, List.length_singleton]
    exact hroom
  · rw [hidx', hidx, List.length_append, List.length_singleton, BitVec.ofNat_add]
    rfl
  · rw [hcnt', hcnt, List.length_append, List.length_singleton, BitVec.ofNat_add]
    rfl
  · intro i hi
    have hile : i < rs.length + 1 := by simpa using hi
    have hi4 : i ≠ countersWord := by rw [countersWord]; omega
    have hiy : i ≠ calibLen + rs.length := by rw [calibLen]; omega
    rw [calibXAvg, hwords i hi4, hstore, setCalibY, words_poke_ne _ hiy, setCalibX]
    rcases Nat.lt_succ_iff_lt_or_eq.mp hile with hlt | rfl
    · rw [words_poke_ne _ (by omega)]
      simpa [List.getElem_append_left hlt, calibXAvg] using h.x i hlt
    · simp
  · intro i hi
    have hile : i < rs.length + 1 := by simpa using hi
    have hi4 : calibLen + i ≠ countersWord := by rw [countersWord, calibLen]; omega
    have hix : calibLen + i ≠ rs.length := by rw [calibLen]; omega
    rw [calibYAvg, hwords _ hi4, hstore, setCalibY]
    rcases Nat.lt_succ_iff_lt_or_eq.mp hile with hlt | rfl
    · rw [words_poke_ne _ (by omega), setCalibX, words_poke_ne _ hix]
      simpa [List.getElem_append_left hlt, calibYAvg] using h.y i hlt
    · simp

theorem calibSum_eq {rs : List TouchRaw} (h : Stored ts rs) {calib : ℕ → U32} (mid : TouchRaw → ℕ)
    (hcalib : ∀ i (hi : i < rs.length), calib i = BitVec.ofNat 32 (mid (rs.get ⟨i, hi⟩))) :
    ts.calibSum calib = BitVec.ofNat 32 (rs.map mid).sum := by
  have hmap : (List.range rs.length).map calib = (rs.map mid).map (BitVec.ofNat 32) := by
    refine List.ext_getElem (by simp) fun i h1 h2 => ?_
    have hi : i < rs.length := by simpa using h1
    simpa using hcalib i hi
  have hzero : (0 : U32) = BitVec.ofNat 32 0 := rfl
  rw [calibSum, h.cnt_toNat, ← List.foldl_map, hmap, hzero, foldl_add_ofNat, Nat.zero_add]

theorem calibAverage_between {rs : List TouchRaw} (h : Stored ts rs) (hne : rs ≠ []) {calib : ℕ → U32}
    (mid : TouchRaw → ℕ) (hmid : ∀ r, mid r < 256)
    (hcalib : ∀ i (hi : i < rs.length), calib i = BitVec.ofNat 32 (mid (rs.get ⟨i, hi⟩))) :
    Between (rs.map mid) (ts.calibAverage calib) := by
  have hsmall : rs.length ≤ 2 := h.small
  have hsum : (rs.map mid).sum ≤ 2 * 255 := by
    have hle : (rs.map mid).sum ≤ (rs.map mid).length • 255 := by
      refine List.sum_le_card_nsmul _ _ fun x hx => ?_
      obtain ⟨r, -, rfl⟩ := List.mem_map.mp hx
      have hr := hmid r
      omega
    rw [List.length_map, smul_eq_mul] at hle
    exact Nat.le_trans hle (Nat.mul_le_mul_right 255 hsmall)
  have hcount : ts.sampleCnt.setWidth 32 = BitVec.ofNat 32 rs.length := by
    refine BitVec.eq_of_toNat_eq ?_
    rw [BitVec.toNat_setWidth, h.cnt_toNat, BitVec.toNat_ofNat]
  have havg : (ts.calibAverage calib).toInt = (((rs.map mid).sum / (rs.map mid).length : ℕ) : ℤ) := by
    rw [calibAverage, calibSum_eq h mid hcalib, hcount, List.length_map]
    exact toInt_sdiv_small (by omega) (by omega)
  obtain ⟨⟨lo, hlo, hlole⟩, hi, hhi, hhile⟩ := average_between (rs.map mid) (by simpa using hne)
  rw [Between, havg]
  exact ⟨⟨lo, hlo, Int.ofNat_le.mpr hlole⟩, hi, hhi, Int.ofNat_le.mpr hhile⟩

/-- What an accepted sample leaves of the counters, the arrays and the averages. -/
theorem acceptPoint_kept (calibrate : CalibrateAPoint) (op : TouchSample) (r : TouchRaw)
    (ts : TouchPanel) :
    (∀ i ≤ countersWord,
      (ts.acceptPoint calibrate op r).panel.words i = (ts.storePoint r).countPoint.words i) ∧
    (ts.acceptPoint calibrate op r).panel.tscCalibX =
      (ts.storePoint r).countPoint.calibAverage (ts.storePoint r).countPoint.calibXAvg ∧
    (ts.acceptPoint calibrate op r).panel.tscCalibY =
      (ts.storePoint r).countPoint.calibAverage (ts.storePoint r).countPoint.calibYAvg := by
  dsimp only [acceptPoint]
  split_ifs
  · have hkept := kept_touchPoint op
    exact ⟨fun i hi => (hkept _ _ _).words i hi, (hkept _ _ _).calibX, (hkept _ _ _).calibY⟩
  · exact ⟨fun i _ => rfl, rfl, rfl⟩

end TouchPanel

/-! ## The runs -/

section Runs

open TouchPanel

variable {calibrate : CalibrateAPoint} {ts : TouchPanel} {op : TouchSample} {rs : List TouchRaw}

theorem touchStep_of_stored {r : TouchRaw} (hop : op.stored = some r) :
    touchStep calibrate ts op = (ts.acceptPoint calibrate op r).panel := by
  rw [TouchSample.stored] at hop
  split_ifs at hop with hsusp
  rw [touchStep, tsc2003Work, if_neg hsusp, hop]

theorem words_touchStep_of_none (hop : op.stored = none) (i : ℕ) :
    (touchStep calibrate ts op).words i = ts.words i := by
  rw [TouchSample.stored] at hop
  rw [touchStep, tsc2003Work]
  split_ifs at hop ⊢ with hsusp
  · rfl
  · rw [hop]
    dsimp only
    rw [penUp_eq]

/-- One run: the points of an accepted sample are added while there is room. -/
theorem stored_touchStep (calibrate : CalibrateAPoint) (h : Stored ts rs)
    (hroom : (rs ++ op.stored.toList).length ≤ calibLen) :
    Stored (touchStep calibrate ts op) (rs ++ op.stored.toList) := by
  cases hop : op.stored with
  | none =>
    rw [Option.toList_none, List.append_nil]
    exact h.congr fun i _ => words_touchStep_of_none hop i
  | some r =>
    rw [hop, Option.toList_some, List.length_append] at hroom
    rw [Option.toList_some, touchStep_of_stored hop]
    exact (h.point hroom r).congr (acceptPoint_kept calibrate op r ts).1

theorem stored_touchAfter {ops : List TouchSample} (h : Stored ts rs)
    (hroom : (rs ++ ops.filterMap TouchSample.stored).length ≤ calibLen) :
    Stored (touchAfter calibrate ts ops) (rs ++ ops.filterMap TouchSample.stored) := by
  induction ops generalizing ts rs with
  | nil =>
    rw [List.filterMap_nil, List.append_nil]
    exact h
  | cons op ops ih =>
    have hsplit : (op :: ops).filterMap TouchSample.stored =
        op.stored.toList ++ ops.filterMap TouchSample.stored := by
      cases hop : op.stored with
      | none => rw [List.filterMap_cons_none hop]; rfl
      | some r => rw [List.filterMap_cons_some hop]; rfl
    rw [hsplit, ← List.append_assoc] at hroom ⊢
    have hfirst : (rs ++ op.stored.toList).length ≤ calibLen := by
      rw [List.length_append] at hroom
      exact Nat.le_trans (Nat.le_add_right _ _) hroom
    exact ih (stored_touchStep calibrate h hfirst) hroom

theorem averagedWell_of_room {r : TouchRaw} (h : Stored ts rs) (hroom : rs.length < calibLen)
    (hop : op.stored = some r) : AveragedWell calibrate ts op r rs := by
  have hidx := h.idx_toNat
  have hnext := h.point hroom r
  obtain ⟨-, hx, hy⟩ := acceptPoint_kept calibrate op r ts
  have hcnt : (ts.storePoint r).countPoint.sampleCnt.toNat = rs.length + 1 := by
    rw [hnext.cnt_toNat, List.length_append, List.length_singleton]
  have hne : rs ++ [r] ≠ [] := by simp
  have hmidX : ∀ t : TouchRaw, t.midX < 256 := fun t => by
    have := t.r0.isLt
    have := t.r1.isLt
    rw [TouchRaw.midX]
    omega
  have hmidY : ∀ t : TouchRaw, t.midY < 256 := fun t => by
    have := t.r2.isLt
    have := t.r3.isLt
    rw [TouchRaw.midY]
    omega
  refine ⟨by rwa [hidx], ?_, ?_, ?_, ?_, ?_⟩
  · rw [hidx, calibIdx_setCalibX _ hroom, hidx]
    exact hroom
  · intro j hj
    rw [hcnt] at hj
    exact Nat.lt_of_lt_of_le hj hroom
  · rw [hcnt]
    exact Nat.succ_pos _
  · rw [touchStep_of_stored hop, hx]
    exact calibAverage_between hnext hne TouchRaw.midX hmidX hnext.x
  · rw [touchStep_of_stored hop, hy]
    exact calibAverage_between hnext hne TouchRaw.midY hmidY hnext.y

/-- A list with more than `k` accepted samples has one behind exactly `k` others. -/
theorem exists_stored_behind {ops : List TouchSample} {k : ℕ}
    (hk : k < (ops.filterMap TouchSample.stored).length) :
    ∃ pre op post r, ops = pre ++ op :: post ∧ op.stored = some r ∧
      (pre.filterMap TouchSample.stored).length = k := by
  induction ops generalizing k with
  | nil => exact absurd hk (Nat.not_lt_zero k)
  | cons op ops ih =>
    cases hop : op.stored with
    | none =>
      rw [List.filterMap_cons_none hop] at hk
      obtain ⟨pre, op', post, r, rfl, hr, hpre⟩ := ih hk
      exact ⟨op :: pre, op', post, r, rfl, hr, by rw [List.filterMap_cons_none hop, hpre]⟩
    | some r =>
      cases k with
      | zero => exact ⟨[], op, ops, r, rfl, hop, rfl⟩
      | succ k =>
        rw [List.filterMap_cons_some hop, List.length_cons] at hk
        obtain ⟨pre, op', post, r', rfl, hr, hpre⟩ := ih (Nat.lt_of_succ_lt_succ hk)
        refine ⟨op :: pre, op', post, r', rfl, hr, ?_⟩
        rw [List.filterMap_cons_some hop, List.length_cons, hpre]

/-- The runs behind an interrupt are averaged in bounds as long as no more than two samples are
accepted, and only then. -/
theorem averageLaw_iff (calibrate : CalibrateAPoint) (ts : TouchPanel) (ops : List TouchSample) :
    AverageLaw calibrate (tsc2003Irq ts).panel ops ↔
      (ops.filterMap TouchSample.stored).length ≤ 2 := by
  constructor
  · intro hlaw
    by_contra hmany
    obtain ⟨pre, op, post, r, rfl, hop, hpre⟩ := exists_stored_behind (Nat.lt_of_not_le hmany)
    have hstored : Stored (touchAfter calibrate (tsc2003Irq ts).panel pre)
        ([] ++ pre.filterMap TouchSample.stored) :=
      stored_touchAfter stored_irq (Nat.le_of_eq hpre)
    have hindex := (hlaw pre op post r rfl hop).indexX
    rw [hstored.idx_toNat, List.nil_append, hpre] at hindex
    exact absurd hindex (Nat.lt_irrefl 2)
  · rintro hfew pre op post r rfl hop
    rw [List.filterMap_append, List.length_append, List.filterMap_cons_some hop, List.length_cons] at hfew
    have hroom : (pre.filterMap TouchSample.stored).length < calibLen := by
      rw [calibLen]
      omega
    have hstored : Stored (touchAfter calibrate (tsc2003Irq ts).panel pre)
        ([] ++ pre.filterMap TouchSample.stored) :=
      stored_touchAfter stored_irq (Nat.le_of_lt hroom)
    exact averagedWell_of_room hstored hroom hop

/-- The third accepted sample stores its `x` where the first `y` was. -/
theorem storePoint_third (r : TouchRaw) (h : Stored ts rs) (hfull : rs.length = calibLen) :
    (ts.storePoint r).calibYAvg 0 = BitVec.ofNat 32 r.midX := by
  have hidx : ts.calibIdx.toNat = calibLen := h.idx_toNat.trans hfull
  have hne : countersWord ≠ calibLen := by decide
  have hlast : calibLen + 0 ≠ calibLen + calibLen := by decide
  have hidx' : (ts.setCalibX calibLen (BitVec.ofNat 32 r.midX)).calibIdx.toNat = calibLen := by
    rw [setCalibX, calibIdx_poke _ hne, hidx]
  dsimp only [storePoint]
  rw [hidx, hidx', calibYAvg, setCalibY, words_poke_ne _ hlast, setCalibX]
  exact words_poke_self _

end Runs

/-- A sample in the middle of the panel. -/
def midSample : TouchSample :=
  ⟨some (8, 0), some (8, 0), some (8, 0), some (8, 0), some (4, 0), some (5, 0), 0, false, false⟩

/-- Three accepted samples leave the arrays. -/
theorem averageLaw_fails :
    ¬∀ (calibrate : CalibrateAPoint) (ts : TouchPanel),
      AverageLaw calibrate (tsc2003Irq ts).panel [midSample, midSample, midSample] := by
  intro h
  have hlaw := h (fun x y => (x, y)) freshPanel
  have hindex := (hlaw [midSample, midSample] midSample [] ⟨128, 128, 128, 128⟩ rfl
    (by decide)).indexX
  revert hindex
  decide

end MtcDrivers
