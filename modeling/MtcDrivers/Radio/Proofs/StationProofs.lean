import Mathlib.Tactic.IntervalCases
import MtcDrivers.Radio.Group
import MtcDrivers.Radio.Proofs.PassProofs

/-!
# No station name is ever sent

`rds_process` reads the words of a group from `rds_word_u16` and `rds_fw_a` to `rds_fw_d`, and nothing
writes them. So every group counts as segment 0 of a group 0A, `pi_words` never gets past 1, and
`rds_send_psn` is not reached.
-/

namespace MtcDrivers

/-- Nothing was received into `_s2`. -/
structure RadioStruct2.Idle (s : RadioStruct2) : Prop where
  word : s.rdsWordU16 = 0
  fwA : s.rdsFwA = 0
  fwB : s.rdsFwB = 0
  piWords : s.piWords = 0 ∨ s.piWords = 1

namespace Radio

/-- Nothing was received into `_s2`, and no name was sent. -/
structure NameIdle (r : Radio) : Prop where
  s2 : r.s2.Idle
  log : ∀ e ∈ r.log, e.isName = false

theorem NameIdle.of_eq {r r' : Radio} (h : NameIdle r) (hs2 : r'.s2 = r.s2) (hlog : r'.log = r.log) :
    NameIdle r' := ⟨hs2 ▸ h.s2, hlog ▸ h.log⟩

theorem NameIdle.emit {r : Radio} (h : NameIdle r) {e : RadioEvent} (he : e.isName = false) :
    NameIdle (r.emit e) := by
  refine ⟨h.s2, fun f hf => ?_⟩
  rcases List.mem_cons.mp hf with rfl | hold
  · exact he
  · exact h.log f hold

theorem NameIdle.mapS2 {r : Radio} (h : NameIdle r) {f : RadioStruct2 → RadioStruct2}
    (hf : (f r.s2).Idle) : NameIdle (r.mapS2 f) := ⟨hf, h.log⟩

theorem NameIdle.staInvalid {r : Radio} (h : NameIdle r) : NameIdle r.staInvalid := by
  have hcancel : NameIdle (r.emit .cancelStaValid) := h.emit rfl
  have hreset : NameIdle { r.emit .cancelStaValid with staRdsCache0 := 0, staValid := 0 } :=
    hcancel.of_eq rfl rfl
  exact hreset.emit rfl

theorem NameIdle.rdsSendSta {r : Radio} (h : NameIdle r) : NameIdle r.rdsSendSta := by
  unfold Radio.rdsSendSta
  dsimp only
  split_ifs with hsame
  · exact h.emit rfl
  · exact h.of_eq rfl rfl

theorem NameIdle.radioSetMute {r : Radio} (h : NameIdle r) (mute : Bool) :
    NameIdle (r.radioSetMute mute) := h.emit rfl

theorem NameIdle.radioSetFrequencyCom {r : Radio} (h : NameIdle r) (freq a2 : U32) :
    NameIdle (r.radioSetFrequencyCom freq a2) := by
  unfold Radio.radioSetFrequencyCom
  dsimp only
  have hinv := h.staInvalid
  cases tuningWord freq with
  | none => exact hinv
  | some v5 =>
    have hgap : NameIdle { r.staInvalid with gap11_1 := 0, gap11_2 := 0 } := hinv.of_eq rfl rfl
    have hsend : ∀ cmd data, NameIdle
        ((Radio.emit { r.staInvalid with gap11_1 := 0, gap11_2 := 0 } (.armSendMulti cmd data)).emit
          (.vsSend 0x98 [0, 0, 0, 0, 0])) := fun cmd data => (hgap.emit (by rfl)).emit (by rfl)
    exact (hsend _ _).of_eq rfl rfl

theorem NameIdle.taBack {r : Radio} (h : NameIdle r) : NameIdle r.taBack := by
  unfold Radio.taBack
  dsimp only
  have hsend : ∀ s : Radio, NameIdle s →
      NameIdle ((s.emit (.vsSend 155 [0])).emit (.audioAddWork 25 1)) := fun s hs =>
    (hs.emit rfl).emit rfl
  apply hsend
  split_ifs with h1 h2
  · have hfree : NameIdle (Radio.staInvalid { r with hasTaWork := 0 }) :=
      NameIdle.staInvalid (h.of_eq rfl rfl)
    have hfreq : NameIdle { Radio.staInvalid { r with hasTaWork := 0 } with radioFreq := r.curFreq } :=
      hfree.of_eq rfl rfl
    exact (hfreq.radioSetFrequencyCom _ 0).radioSetMute false
  · exact h.of_eq rfl rfl
  · exact h

theorem NameIdle.rdsAfCount {r : Radio} (h : NameIdle r) : NameIdle r.rdsAfCount := by
  refine h.mapS2 ?_
  split_ifs with hcount
  · exact ⟨h.s2.word, h.s2.fwA, h.s2.fwB, h.s2.piWords⟩
  · exact h.s2

/-- The groups 0A and 0B, for the word that is never written. -/
theorem NameIdle.rdsBasic {r : Radio} (h : NameIdle r) : NameIdle (r.rdsBasic 0) := by
  unfold Radio.rdsBasic
  dsimp only
  generalize hq : Radio.mapS2 (Radio.mapS2 (Radio.mapS2 (r.emit _) _) _) _ = q
  have hidle : NameIdle q ∧ q.s2.piWords = 1 := by
    have hpi : r.s2.piWords ||| (1 : U8) <<< ((0 : U16) &&& 3).toNat = 1 := by
      rcases h.s2.piWords with h0 | h1
      · rw [h0]; decide
      · rw [h1]; decide
    rw [← hq]
    refine ⟨⟨⟨h.s2.word, h.s2.fwA, h.s2.fwB, .inr hpi⟩, ?_⟩, hpi⟩
    exact (h.emit (e := .scheduleRdslost) rfl).log
  -- not all segments are there
  have hnot : q.s2.piWords ≠ 15 := by
    rw [hidle.2]
    decide
  rw [if_neg hnot]
  by_cases hwork : q.hasTaWork ≠ 0
  · rw [if_pos hwork]
    split_ifs with hback
    · exact hidle.1.taBack
    · exact hidle.1.rdsAfCount
  · rw [if_neg hwork]
    by_cases hcnt : q.gap11_2 = 0 ∨ q.s2.rdsPsBit = 0 ∨ q.s2.rdsTaCnt ≤ 5
    · rw [if_pos hcnt]
      exact hidle.1.rdsAfCount
    · rw [if_neg hcnt]
      have hlamp : NameIdle (if q.backlightStatus = 0 then q.emit (.vsSend 155 [1]) else q) := by
        split_ifs with hdark
        · exact hidle.1.emit rfl
        · exact hidle.1
      by_cases hsig : q.radioRdsFlag > 0xA9
      · rw [if_pos hsig]
        refine NameIdle.emit ?_ rfl
        exact hlamp.of_eq rfl rfl
      · rw [if_neg hsig]
        exact hidle.1

/-- A group changes nothing about it, and counts as the word 0. -/
theorem NameIdle.rdsProcess {r : Radio} (h : NameIdle r) : NameIdle r.rdsProcess := by
  unfold Radio.rdsProcess
  dsimp only
  rw [h.s2.word]
  have hcase : ((0 : U16) >>> 11).toNat = 0 := by decide
  rw [hcase]
  generalize hq : Radio.mapS2 (r.emit _) _ = q
  have hidle : NameIdle q := by
    rw [← hq]
    refine NameIdle.mapS2 (h.emit rfl) ?_
    exact ⟨h.s2.word, h.s2.fwA, h.s2.fwB, h.s2.piWords⟩
  refine NameIdle.rdsBasic (hidle.mapS2 ?_)
  -- a pair of zeros has no frequencies
  have haf : rdsAfProcess q.s2.rdsFwB
      (q.s2.rdsFwA.setWidth 16 ||| q.s2.rdsFwB.setWidth 16 <<< 8) q.s2 = q.s2 := by
    rw [hidle.s2.fwA, hidle.s2.fwB]
    rfl
  rw [haf]
  exact hidle.s2

/-! ## Work items -/

theorem NameIdle.rdsBlockB {r : Radio} (h : NameIdle r) (word : U16) : NameIdle (r.rdsBlockB word) := by
  unfold Radio.rdsBlockB
  dsimp only
  generalize hq : Radio.mapS2 _ _ = q
  have hidle : NameIdle q := by
    rw [← hq]
    exact ⟨⟨h.s2.word, h.s2.fwA, h.s2.fwB, h.s2.piWords⟩, h.log⟩
  split_ifs with htuned
  · exact hidle.rdsSendSta
  · exact hidle.taBack

theorem NameIdle.rdsAccept {r r' : Radio} (h : NameIdle r) {v1 bword : U32}
    (hr : r.rdsAccept v1 bword = some r') : NameIdle r' := by
  rcases rdsAccept_eq_some hr with rfl | rfl | rfl | rfl
  · exact h.of_eq rfl rfl
  · exact h.rdsBlockB _
  · exact h.of_eq rfl rfl
  · exact NameIdle.rdsProcess (h.of_eq rfl rfl)

theorem NameIdle.rdsPass {r : Radio} (h : NameIdle r) (cust24 : Bool) (w : RadioWork) (v12 : U8) :
    NameIdle (rdsPass cust24 w v12 r).2 := by
  have hpass : ∀ v1 bword, NameIdle (radioRdsPass v12 v1 bword r).2 := by
    intro v1 bword
    unfold radioRdsPass
    cases hacc : r.rdsAccept v1 bword with
    | none => exact h.of_eq rfl rfl
    | some r' => exact (h.rdsAccept hacc).of_eq rfl rfl
  unfold Radio.rdsPass
  cases cust24 with
  | false => exact hpass _ _
  | true => exact hpass _ _

theorem NameIdle.rdsLoop {cust24 : Bool} {w : RadioWork} {v12 : U8} {r : Radio} (h : NameIdle r) :
    NameIdle (rdsLoop cust24 w v12 r) := by
  induction v12, r using rdsLoop.induct cust24 w with
  | case1 v12 r hend =>
    rw [Radio.rdsLoop, dif_pos hend]
    exact h
  | case2 v12 r hmore ih =>
    rw [Radio.rdsLoop, dif_neg hmore]
    exact ih (h.rdsPass cust24 w v12)

theorem NameIdle.rdsWordB {r : Radio} (h : NameIdle r) (word : U16) : NameIdle (r.rdsWordB word) := by
  unfold Radio.rdsWordB
  dsimp only
  have hdest : NameIdle (Radio.rdsDest word { r with gap13_0 := word }) := by
    unfold Radio.rdsDest
    dsimp only
    by_cases halt : r.hasTaWork ≠ 0 ∨ r.hasAfWork ≠ 0
    · rw [if_pos halt]
      exact h.of_eq rfl rfl
    · rw [if_neg halt]
      exact ⟨⟨h.s2.word, h.s2.fwA, h.s2.fwB, h.s2.piWords⟩, h.log⟩
  split_ifs with htuned
  · exact hdest.rdsSendSta
  · exact hdest.taBack

theorem NameIdle.radioCmdWork1 {r : Radio} (h : NameIdle r) (w : RadioWork) :
    NameIdle (r.radioCmdWork1 w) := by
  unfold Radio.radioCmdWork1
  dsimp only
  split_ifs with hvalid hcust
  · exact h
  · exact NameIdle.rdsLoop (h.of_eq rfl rfl)
  · exact NameIdle.rdsLoop (h.of_eq rfl rfl)

theorem NameIdle.radioCmdWork2 {r : Radio} (h : NameIdle r) (w : RadioWork) :
    NameIdle (r.radioCmdWork2 w) := by
  have hswitch : ∀ grp word, NameIdle (r.case2Switch grp word) := by
    intro grp word
    have hproc : NameIdle (Radio.rdsProcess { r with staRdsCache0 := 0, gap13_4 := word }) :=
      NameIdle.rdsProcess (h.of_eq rfl rfl)
    unfold Radio.case2Switch
    split_ifs
    all_goals first | exact h | exact h.rdsWordB word | exact hproc | exact h.of_eq rfl rfl
  unfold Radio.radioCmdWork2
  dsimp only
  split_ifs with hvalid
  · exact (hswitch _ _).of_eq rfl rfl
  · exact h.of_eq rfl rfl

theorem NameIdle.radioCmdWork3 {r : Radio} (h : NameIdle r) (w : RadioWork) :
    NameIdle (r.radioCmdWork3 w) := by
  have hproc : ∀ word, NameIdle (Radio.rdsProcess { r with staRdsCache0 := 0, gap13_4 := word }) :=
    fun word => NameIdle.rdsProcess (h.of_eq rfl rfl)
  unfold Radio.radioCmdWork3
  dsimp only
  split_ifs
  all_goals first | exact h.rdsWordB _ | exact hproc _ | exact h.of_eq rfl rfl

theorem NameIdle.statusCheck {r : Radio} (h : NameIdle r) (a1 : U8) : NameIdle (r.statusCheck a1) := by
  unfold Radio.statusCheck
  dsimp only
  have hset : NameIdle { r with radioRdsFlag := a1, gap9_2 := 1 } := h.of_eq rfl rfl
  have hqueue : ∀ ms, NameIdle (Radio.emit { r with radioRdsFlag := a1, gap9_2 := 1 } (.queueSignalLow ms)) :=
    fun ms => hset.emit rfl
  split_ifs
  all_goals first | exact hqueue _ | exact h.of_eq rfl rfl

theorem NameIdle.radioCmdWork {r : Radio} (h : NameIdle r) (w : RadioWork) :
    NameIdle (r.radioCmdWork w) := by
  unfold Radio.radioCmdWork
  split
  · exact h.radioCmdWork1 w
  · exact h.radioCmdWork2 w
  · exact h.radioCmdWork3 w
  · split_ifs with hvalid
    · exact h.statusCheck _
    · exact h
  · exact h

theorem RadioStruct2.idle_zero : RadioStruct2.zero.Idle := ⟨rfl, rfl, rfl, .inl rfl⟩

/-- Since its start the module has received nothing into `_s2` and sent no name. -/
theorem Reachable.nameIdle {r : Radio} (h : Reachable r) : NameIdle r := by
  induction h with
  | init hs2 hlog =>
    refine ⟨hs2 ▸ RadioStruct2.idle_zero, ?_⟩
    rw [hlog]
    exact fun e he => absurd he List.not_mem_nil
  | work w _ ih => exact ih.radioCmdWork w
  | rdslost _ ih =>
    unfold rdslostWork
    split_ifs with hta
    · exact ih.taBack
    · exact ih
  | ta _ ih =>
    unfold workTa
    split_ifs with hta hsame
    · exact ih.radioSetMute false
    · exact ih.taBack
    · exact ih
  | tune freq a2 _ ih => exact (ih.radioSetFrequencyCom freq a2).mapS2 RadioStruct2.idle_zero
  | other _ hs2 hlog ih =>
    obtain ⟨new, hnew, hquiet⟩ := hlog
    refine ⟨hs2 ▸ ih.s2, ?_⟩
    rw [hnew]
    intro e he
    rcases List.mem_append.mp he with hin | hold
    · exact hquiet e hin
    · exact ih.log e hold

theorem Reachable.afterAll {r : Radio} (h : Reachable r) (ws : List RadioWork) :
    Reachable (afterAll ws r) := by
  induction ws generalizing r with
  | nil => exact h
  | cons w ws ih => exact ih (h.work w)

/-- Whatever is delivered, no name is sent. -/
theorem Reachable.no_name {r : Radio} (h : Reachable r) (ws : List RadioWork) (gs : List RdsGroup)
    (name : ℕ → U8) : ¬ StationNameMet gs name r (Radio.afterAll ws r) := by
  rintro ⟨new, hlog, -, head, hsent⟩
  have hquiet := (h.afterAll ws).nameIdle.log
  have hin : RadioEvent.vsSend 0x99 (head ++ (List.range 8).map name) ∈ new.filter RadioEvent.isName := by
    rw [hsent]
    exact List.mem_singleton_self _
  obtain ⟨hnew, hname⟩ := List.mem_filter.mp hin
  have hold := hquiet _ (hlog ▸ List.mem_append_left r.log hnew)
  rw [hold] at hname
  cases hname

/-- Two rounds of groups 0A with the segments of a name. -/
def nameRounds (code : U16) (name : ℕ → U8) : List RdsGroup :=
  ([0, 1, 2, 3, 0, 1, 2, 3] : List ℕ).map fun s =>
    ⟨code, BitVec.ofNat 16 s, 0, name (2 * s) ++ name (2 * s + 1)⟩

theorem twoRounds_nameRounds (code : U16) (name : ℕ → U8) :
    RdsGroup.TwoRounds code name (nameRounds code name) := by
  refine ⟨rfl, fun i hi => ?_⟩
  have hseg : ∀ s < 4, BitVec.ofNat 16 s >>> 12 = 0 ∧ (BitVec.ofNat 16 s &&& 3).toNat = s := by decide
  have hword := hseg (i % 4) (Nat.mod_lt i (by decide))
  have h8 : i < 8 := hi
  interval_cases i <;> exact ⟨rfl, hword.1, hword.2, rfl⟩

/-- Two rounds of the groups of a station name never have the effect they should have. -/
theorem not_stationNameMet {r : Radio} (hr : Reachable r) {code : U16} {name : ℕ → U8}
    {gs : List RdsGroup} (_hrounds : RdsGroup.TwoRounds code name gs) {ws : List RadioWork}
    (_hdel : Delivers r gs ws) : ¬ StationNameMet gs name r (Radio.afterAll ws r) :=
  hr.no_name ws gs name

/-- `not_stationNameMet` for the name `ABCDEFGH` through `rds_input3`. -/
theorem not_stationNameMet_input3 :
    ¬ StationNameMet (nameRounds 0xD314 (0x41 + ·)) (0x41 + ·)
      { (default : Radio) with staValid := 1, cfgRds := 1 }
      (Radio.afterAll ((nameRounds 0xD314 (0x41 + ·)).flatMap fun g =>
        g.viaInput3 0 { (default : Radio) with staValid := 1, cfgRds := 1 })
        { (default : Radio) with staValid := 1, cfgRds := 1 }) :=
  not_stationNameMet (.init rfl rfl) (twoRounds_nameRounds 0xD314 (0x41 + ·)) (.input3 0)

/-- The same for tagged words of a front end 2. -/
theorem not_stationNameMet_frontEnd2 :
    ¬ StationNameMet (nameRounds 0xD314 (0x41 + ·)) (0x41 + ·)
      { (default : Radio) with staValid := 1, cfgRds := 1, cfgRadio := 2 }
      (Radio.afterAll ((nameRounds 0xD314 (0x41 + ·)).flatMap fun g =>
        g.viaInput 0 0 { (default : Radio) with staValid := 1, cfgRds := 1, cfgRadio := 2 })
        { (default : Radio) with staValid := 1, cfgRds := 1, cfgRadio := 2 }) :=
  Reachable.no_name (.init rfl rfl) _ _ _

end Radio

end MtcDrivers
