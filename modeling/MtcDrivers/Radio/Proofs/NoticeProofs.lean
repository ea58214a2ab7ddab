import Mathlib.Tactic.SplitIfs
import MtcDrivers.Radio.Proofs.PassProofs
import MtcDrivers.Radio.Tuner

/-!
# What the radio module says about announcements

Only `ta_back` and `rds_process` begin or end an announcement, and they queue an audio item for it. The other
functions are quiet.
-/

namespace MtcDrivers

/-- The audio items 24 and 25. -/
def RadioEvent.isTa : RadioEvent → Bool
  | .audioAddWork cmd1 _ => cmd1 = 24 || cmd1 = 25
  | _ => false

namespace Radio

/-- Neither `has_ta_work` nor an announcement's items. -/
structure Quiet (r r' : Radio) : Prop where
  said : ∃ new, r'.log = new ++ r.log ∧ ∀ e ∈ new, RadioEvent.isTa e = false
  ta : r'.hasTaWork = r.hasTaWork

theorem Quiet.of_same {r r' : Radio} (hlog : r'.log = r.log) (hta : r'.hasTaWork = r.hasTaWork) :
    Quiet r r' :=
  ⟨⟨[], hlog, by simp⟩, hta⟩

theorem Quiet.refl (r : Radio) : Quiet r r := .of_same rfl rfl

theorem Quiet.trans {r s t : Radio} (h₁ : Quiet r s) (h₂ : Quiet s t) : Quiet r t := by
  obtain ⟨⟨new₁, hlog₁, hnew₁⟩, hta₁⟩ := h₁
  obtain ⟨⟨new₂, hlog₂, hnew₂⟩, hta₂⟩ := h₂
  refine ⟨⟨new₂ ++ new₁, by rw [hlog₂, hlog₁, List.append_assoc], ?_⟩, hta₂.trans hta₁⟩
  intro e he
  rcases List.mem_append.mp he with he | he
  · exact hnew₂ e he
  · exact hnew₁ e he

theorem quiet_emit (r : Radio) {e : RadioEvent} (he : e.isTa = false) : Quiet r (r.emit e) := by
  refine ⟨⟨[e], rfl, ?_⟩, rfl⟩
  intro e' he'
  rw [List.mem_singleton.mp he']
  exact he

theorem quiet_mapS2 (r : Radio) (f : RadioStruct2 → RadioStruct2) : Quiet r (r.mapS2 f) := .of_same rfl rfl

theorem quiet_staInvalid (r : Radio) : Quiet r r.staInvalid := by
  refine ⟨⟨[.scheduleStaValid, .cancelStaValid], rfl, ?_⟩, rfl⟩
  intro e he
  rcases List.mem_cons.mp he with rfl | he
  · rfl
  · rw [List.mem_singleton.mp he]
    rfl

theorem quiet_rdsSendSta (r : Radio) : Quiet r r.rdsSendSta := by
  unfold rdsSendSta
  extract_lets cmdData
  split
  · exact quiet_emit r rfl
  · exact .of_same rfl rfl

theorem quiet_radioSetMute (mute : Bool) (r : Radio) : Quiet r (r.radioSetMute mute) := quiet_emit r rfl

theorem quiet_radioSetFrequencyCom (freq a2 : U32) (r : Radio) :
    Quiet r (r.radioSetFrequencyCom freq a2) := by
  unfold radioSetFrequencyCom
  dsimp only
  have hinv := quiet_staInvalid r
  cases tuningWord freq with
  | none => exact hinv
  | some v5 =>
    -- the message to the MCU and the empty station
    refine hinv.trans ⟨⟨[.vsSend 0x98 [0, 0, 0, 0, 0], _], rfl, ?_⟩, rfl⟩
    intro e he
    rcases List.mem_cons.mp he with rfl | he
    · rfl
    · rw [List.mem_singleton.mp he]
      rfl

theorem quiet_rdsSendPsn (r : Radio) : Quiet r r.rdsSendPsn := by
  unfold rdsSendPsn
  extract_lets head r1
  have hhead : Quiet r r1 := .of_same rfl rfl
  split
  · exact hhead.trans (quiet_emit r1 rfl)
  · exact hhead.trans (.of_same rfl rfl)

theorem quiet_rdsSendRt (r : Radio) : Quiet r r.rdsSendRt := quiet_emit r rfl

theorem quiet_rdsAfCount (r : Radio) : Quiet r r.rdsAfCount := quiet_mapS2 r _

theorem quiet_rdsText4 (p : ℕ) (r : Radio) : Quiet r (r.rdsText4 p) := by
  have hend : ∀ (f : RadioStruct2 → RadioStruct2) (s : Radio),
      Quiet s (s.mapS2 f).rdsSendRt.rdsAfCount := fun f s =>
    ((quiet_mapS2 s f).trans (quiet_rdsSendRt _)).trans (quiet_rdsAfCount _)
  unfold rdsText4
  extract_lets s
  refine (quiet_mapS2 r _ : Quiet r s).trans ?_
  split_ifs
  · exact quiet_rdsAfCount s
  · exact hend _ s
  · exact hend _ s
  · exact hend _ s
  · exact hend _ s
  · exact quiet_rdsSendRt s
  · exact quiet_rdsAfCount s

theorem quiet_rdsText5 (p : ℕ) (r : Radio) : Quiet r (r.rdsText5 p) := by
  have hend : ∀ (f : RadioStruct2 → RadioStruct2) (s : Radio), Quiet s (s.mapS2 f).rdsSendRt :=
    fun f s => (quiet_mapS2 s f).trans (quiet_rdsSendRt _)
  unfold rdsText5
  extract_lets s
  refine (quiet_mapS2 r _ : Quiet r s).trans ?_
  split_ifs
  · exact quiet_rdsAfCount s
  · exact hend _ s
  · exact hend _ s
  · exact quiet_rdsSendRt s
  · exact quiet_rdsAfCount s

theorem quiet_statusCheck (a1 : U8) (r : Radio) : Quiet r (r.statusCheck a1) := by
  unfold statusCheck
  extract_lets s
  have hflag : Quiet r s := .of_same rfl rfl
  have hqueue : ∀ ms, Quiet s (if s.gap9_2 = 0 then { s with gap9_2 := 1 }.emit (.queueSignalLow ms) else s) := by
    intro ms
    split
    · have hset : Quiet s { s with gap9_2 := 1 } := .of_same rfl rfl
      exact hset.trans (quiet_emit _ rfl)
    · exact Quiet.refl s
  have hclear : Quiet s { s with gap9_2 := 0 } := .of_same rfl rfl
  refine hflag.trans ?_
  split
  · split
    · exact hqueue 1000
    · exact hclear
  · split
    · exact hqueue 5000
    · exact hclear

/-! ## Announcements -/

/-- The end of an announcement is said to the application and to the audio module, and behind what is
    said otherwise there is one. -/
structure Notifies (r r' : Radio) (new : List RadioEvent) : Prop where
  log : r'.log = new ++ r.log
  ended : r.hasTaWork ≠ 0 → r'.hasTaWork = 0 →
    RadioEvent.vsSend 155 [0] ∈ new ∧ RadioEvent.audioAddWork 25 1 ∈ new
  /-- The last item of an announcement is not 25, or there is none. -/
  still : new.find? RadioEvent.isTa ≠ some (.audioAddWork 25 1) →
    (new.find? RadioEvent.isTa = none → r.hasTaWork ≠ 0) → r'.hasTaWork ≠ 0

/-- What is said fits what is done. -/
def Notified (r r' : Radio) : Prop := ∃ new, Notifies r r' new

theorem Quiet.notified {r r' : Radio} (h : Quiet r r') : Notified r r' := by
  obtain ⟨⟨new, hlog, hnew⟩, hta⟩ := h
  have hnone : new.find? RadioEvent.isTa = none :=
    List.find?_eq_none.mpr fun e he => by simp [hnew e he]
  refine ⟨new, hlog, ?_, ?_⟩
  · intro hon hoff
    exact absurd (hta.symm.trans hoff) hon
  · intro _ hkept
    rw [hta]
    exact hkept hnone

theorem Notified.of_same {r r' : Radio} (hlog : r'.log = r.log) (hta : r'.hasTaWork = r.hasTaWork) :
    Notified r r' :=
  (Quiet.of_same hlog hta).notified

theorem Notified.refl (r : Radio) : Notified r r := (Quiet.refl r).notified

theorem Notified.trans {r s t : Radio} (h₁ : Notified r s) (h₂ : Notified s t) : Notified r t := by
  obtain ⟨new₁, h₁⟩ := h₁
  obtain ⟨new₂, h₂⟩ := h₂
  refine ⟨new₂ ++ new₁, by rw [h₂.log, h₁.log, List.append_assoc], ?_, ?_⟩
  · intro hon hoff
    by_cases hmid : s.hasTaWork = 0
    · obtain ⟨hsend, hitem⟩ := h₁.ended hon hmid
      exact ⟨List.mem_append_right _ hsend, List.mem_append_right _ hitem⟩
    · obtain ⟨hsend, hitem⟩ := h₂.ended hmid hoff
      exact ⟨List.mem_append_left _ hsend, List.mem_append_left _ hitem⟩
  · rw [List.find?_append]
    intro hlast hkept
    cases hfind : new₂.find? RadioEvent.isTa with
    | some e =>
      rw [hfind] at hlast
      refine h₂.still (by rw [hfind]; exact hlast) ?_
      intro hnone
      rw [hfind] at hnone
      cases hnone
    | none =>
      rw [hfind] at hlast hkept
      refine h₂.still (by rw [hfind]; simp) fun _ => ?_
      exact h₁.still hlast hkept

/-- `ta_back` says that the announcement has ended, whether there was one or not. -/
theorem notified_taBack (r : Radio) : Notified r r.taBack := by
  have hend : ∀ s : Radio, (∃ new, s.log = new ++ r.log) →
      Notified r ((s.emit (.vsSend 155 [0])).emit (.audioAddWork 25 1)) := by
    rintro s ⟨new, hlog⟩
    refine ⟨.audioAddWork 25 1 :: .vsSend 155 [0] :: new, ?_, ?_, ?_⟩
    · show _ :: _ :: s.log = _
      rw [hlog]
      rfl
    · intro _ _
      exact ⟨by simp, by simp⟩
    · intro hlast
      exact absurd rfl hlast
  unfold taBack
  extract_lets r1 r2 r3
  refine hend r3 ?_
  by_cases hone : r.hasTaWork = 1
  · -- the station is tuned again
    have hquiet := ((quiet_staInvalid { r with hasTaWork := 0 }).trans
      ((Quiet.of_same rfl rfl : Quiet r1 r2).trans (quiet_radioSetFrequencyCom r1.curFreq 0 r2))).trans
      (quiet_radioSetMute false _)
    obtain ⟨new, hlog, -⟩ := hquiet.said
    exact ⟨new, (congrArg Radio.log (if_pos hone)).trans hlog⟩
  · refine ⟨[], (congrArg Radio.log (if_neg hone)).trans ?_⟩
    split <;> rfl

theorem notified_rdslostWork (r : Radio) : Notified r r.rdslostWork := by
  unfold rdslostWork
  split
  · exact notified_taBack r
  · exact Notified.refl r

theorem notified_workTa (r : Radio) : Notified r r.workTa := by
  unfold workTa
  split
  · split
    · exact (quiet_radioSetMute false r).notified
    · exact notified_taBack r
  · exact Notified.refl r

/-- The announcement begins. -/
theorem notified_begin (r : Radio) :
    Notified r ({ r with hasTaWork := 2 }.emit (.audioAddWork 24 1)) := by
  have hon : (2 : U8) ≠ 0 := by decide
  exact ⟨[.audioAddWork 24 1], rfl, fun _ hoff => absurd hoff hon, fun _ _ => hon⟩

/-! ## Groups -/

theorem notified_rdsBasic (v0 : U16) (r : Radio) : Notified r (r.rdsBasic v0) := by
  unfold rdsBasic
  extract_lets r1 r2 widx r3 r4 r5 r6
  have hpsn : Quiet r4 r5 := by
    show Quiet r4 (if r4.s2.piWords = 15 then _ else r4)
    split
    · exact (quiet_mapS2 r4 _).trans (quiet_rdsSendPsn _)
    · exact Quiet.refl r4
  have hhead : Quiet r r5 :=
    ((((quiet_emit r rfl).trans (quiet_mapS2 r1 _)).trans (quiet_mapS2 r2 _)).trans
      (quiet_mapS2 r3 _)).trans hpsn
  have hlamp : Quiet r5 r6 := by
    show Quiet r5 (if r5.backlightStatus = 0 then r5.emit (.vsSend 155 [1]) else r5)
    split
    · exact quiet_emit r5 rfl
    · exact Quiet.refl r5
  refine hhead.notified.trans ?_
  split
  · split
    · exact notified_taBack r5
    · exact (quiet_rdsAfCount r5).notified
  · split
    · exact (quiet_rdsAfCount r5).notified
    · split
      · exact hlamp.notified.trans (notified_begin r6)
      · exact Notified.refl r5

theorem notified_rdsProcess (r : Radio) : Notified r r.rdsProcess := by
  unfold rdsProcess
  extract_lets v0 r1 r2
  have hhead : Quiet r r2 := (quiet_emit r rfl).trans (quiet_mapS2 r1 _)
  refine hhead.notified.trans ?_
  split
  · exact (quiet_mapS2 r2 _).notified.trans (notified_rdsBasic v0 _)
  · exact notified_rdsBasic v0 r2
  · exact ((quiet_mapS2 r2 _).trans (quiet_rdsAfCount _)).notified
  · exact ((quiet_mapS2 r2 _).trans (quiet_rdsAfCount _)).notified
  · exact ((quiet_mapS2 r2 _).trans (quiet_rdsText4 _ _)).notified
  · exact ((quiet_mapS2 r2 _).trans (quiet_rdsText5 _ _)).notified
  · exact ((quiet_mapS2 r2 _).trans (quiet_rdsAfCount _)).notified
  · exact Notified.refl r2

/-! ## The synchroniser -/

theorem notified_rdsBlockB (word : U16) (r : Radio) : Notified r (r.rdsBlockB word) := by
  unfold rdsBlockB
  extract_lets psBit r1 r2
  have hhead : Quiet r r2 := .of_same rfl rfl
  refine hhead.notified.trans ?_
  split
  · exact (quiet_rdsSendSta r2).notified
  · exact notified_taBack r2

theorem notified_rdsAccept {v1 bword : U32} {r r' : Radio} (h : r.rdsAccept v1 bword = some r') :
    Notified r r' := by
  rcases rdsAccept_eq_some h with rfl | rfl | rfl | rfl
  · exact .of_same rfl rfl
  · exact notified_rdsBlockB _ r
  · exact .of_same rfl rfl
  · have hhead : Quiet r { r with gap13_4 := bword.setWidth 16, staRdsCache0 := 0 } := .of_same rfl rfl
    exact hhead.notified.trans (notified_rdsProcess _)

theorem notified_radioRdsPass (v12 : U8) (v1 bword : U32) (r : Radio) :
    Notified r (radioRdsPass v12 v1 bword r).2 := by
  unfold radioRdsPass
  cases haccept : r.rdsAccept v1 bword with
  | some r' => exact (notified_rdsAccept haccept).trans (.of_same rfl rfl)
  | none => exact .of_same rfl rfl

theorem notified_rdsPass (cust24 : Bool) (w : RadioWork) (v12 : U8) (r : Radio) :
    Notified r (rdsPass cust24 w v12 r).2 := by
  unfold rdsPass
  split
  · exact notified_radioRdsPass _ _ _ r
  · exact notified_radioRdsPass _ _ _ r

theorem notified_rdsLoop (cust24 : Bool) (w : RadioWork) (v12 : U8) (r : Radio) :
    Notified r (rdsLoop cust24 w v12 r) := by
  induction v12, r using rdsLoop.induct cust24 w with
  | case1 v12 r hend =>
    rw [rdsLoop, dif_pos hend]
    exact Notified.refl r
  | case2 v12 r hgo ih =>
    rw [rdsLoop, dif_neg hgo]
    exact (notified_rdsPass cust24 w v12 r).trans ih

theorem notified_rdsWordB (word : U16) (r : Radio) : Notified r (r.rdsWordB word) := by
  have hdest : ∀ s : Radio, Quiet s (s.rdsDest word) := by
    intro s
    unfold rdsDest
    extract_lets pti ps
    split <;> exact .of_same rfl rfl
  unfold rdsWordB
  extract_lets r1
  have hhead : Quiet r r1 :=
    (Quiet.of_same rfl rfl : Quiet r { r with gap13_0 := word }).trans (hdest _)
  refine hhead.notified.trans ?_
  split
  · exact (quiet_rdsSendSta r1).notified
  · exact notified_taBack r1

/-- Block D. -/
theorem notified_blockD (word : U16) (r : Radio) :
    Notified r { r with staRdsCache0 := 0, gap13_4 := word }.rdsProcess := by
  have hhead : Quiet r { r with staRdsCache0 := 0, gap13_4 := word } := .of_same rfl rfl
  exact hhead.notified.trans (notified_rdsProcess _)

theorem notified_radioCmdWork1 (w : RadioWork) (r : Radio) : Notified r (r.radioCmdWork1 w) := by
  unfold radioCmdWork1
  split
  · exact Notified.refl r
  · extract_lets r1
    have hhead : Quiet r r1 := .of_same rfl rfl
    split
    · have hbits : Quiet r1 { r1 with gap13_7 := 26 } := .of_same rfl rfl
      exact (hhead.trans hbits).notified.trans (notified_rdsLoop _ _ _ _)
    · exact hhead.notified.trans (notified_rdsLoop _ _ _ _)

theorem notified_case2Switch (grp : U8) (word : U16) (r : Radio) :
    Notified r (r.case2Switch grp word) := by
  unfold case2Switch
  split_ifs
  · exact Notified.refl r
  · exact notified_rdsWordB word r
  · exact Notified.refl r
  · exact .of_same rfl rfl
  · exact Notified.refl r
  · exact notified_blockD word r
  · exact .of_same rfl rfl
  · exact .of_same rfl rfl

theorem notified_radioCmdWork2 (w : RadioWork) (r : Radio) : Notified r (r.radioCmdWork2 w) := by
  unfold radioCmdWork2
  extract_lets word grp
  have hswitch : Notified r (if r.staValid ≠ 0 then r.case2Switch grp word else r) := by
    split
    · exact notified_case2Switch grp word r
    · exact Notified.refl r
  exact hswitch.trans (.of_same rfl rfl)

theorem notified_radioCmdWork3 (w : RadioWork) (r : Radio) : Notified r (r.radioCmdWork3 w) := by
  unfold radioCmdWork3
  extract_lets word s
  split_ifs
  · exact .of_same rfl rfl
  · exact notified_blockD word r
  · exact .of_same rfl rfl
  · exact .of_same rfl rfl
  · exact .of_same rfl rfl
  · exact .of_same rfl rfl
  · exact notified_rdsWordB word r
  · exact .of_same rfl rfl
  · exact .of_same rfl rfl

theorem notified_radioCmdWork (w : RadioWork) (r : Radio) : Notified r (r.radioCmdWork w) := by
  unfold radioCmdWork
  split
  · exact notified_radioCmdWork1 w r
  · exact notified_radioCmdWork2 w r
  · exact notified_radioCmdWork3 w r
  · split
    · exact (quiet_statusCheck _ r).notified
    · exact Notified.refl r
  · exact Notified.refl r

end Radio

/-! ## The tuner -/

namespace Tuner

open Radio

theorem notified_setTa (enable : U32) (t : Tuner) : Notified t.radio (t.setTa enable).radio := by
  unfold setTa
  split
  · extract_lets t1
    have hset : Notified t.radio t1.radio := .of_same rfl rfl
    split
    · exact hset.trans (notified_taBack t1.radio)
    · exact hset
  · exact .of_same rfl rfl

theorem notified_setAf (af : U32) (t : Tuner) : Notified t.radio (t.setAf af).radio := by
  unfold setAf
  split <;> exact .of_same rfl rfl

theorem notified_endTa (t : Tuner) : Notified t.radio t.endTa.radio := by
  unfold endTa
  split
  · exact notified_taBack t.radio
  · exact Notified.refl t.radio

theorem notified_trySearch (t : Tuner) : Notified t.radio t.trySearch.radio := by
  unfold trySearch
  split
  · extract_lets t1
    split
    · exact .of_same rfl rfl
    · exact .of_same rfl rfl
  · exact Notified.refl t.radio

theorem notified_workSignalLow (t : Tuner) : Notified t.radio t.workSignalLow.radio :=
  ((notified_endTa t).trans (notified_trySearch _)).trans (.of_same rfl rfl)

theorem quiet_settle (f : U32) (t : Tuner) : Quiet t.radio (t.settle f).radio :=
  (Quiet.of_same rfl rfl : Quiet t.radio { t.radio with hasAfWork := 0 }).trans
    (quiet_radioSetFrequencyCom f 0 _)

theorem quiet_judge (f level : U32) (t : Tuner) : Quiet t.radio (t.judge f level).radio := by
  unfold judge
  split
  · split <;> exact .of_same rfl rfl
  · split
    · have hfreq : Quiet t.radio (t.mapRadio fun r => { r with radioFreq := f }).radio := .of_same rfl rfl
      exact hfreq.trans (quiet_settle f _)
    · exact Quiet.refl t.radio

theorem quiet_afCheck (freq signal : U32) (t : Tuner) : Quiet t.radio (t.afCheck freq signal).2.radio := by
  unfold afCheck
  cases afWord freq with
  | none => exact Quiet.refl t.radio
  | some v13 => exact (quiet_emit t.radio rfl).trans (quiet_emit _ rfl)

theorem quiet_tryFrequency (f signal : U32) (cleared : Bool) (t : Tuner) :
    Quiet t.radio (t.tryFrequency f signal cleared).radio := by
  unfold tryFrequency
  split
  · exact quiet_settle f t
  · have hquiet := quiet_afCheck f signal t
    rcases hcheck : t.afCheck f signal with ⟨level, t1⟩
    rw [hcheck] at hquiet
    have hcleared : Quiet t1.radio
        (if cleared then t1.mapRadio fun r => { r with hasAfWork := 0 } else t1 : Tuner).radio := by
      split <;> exact .of_same rfl rfl
    exact (hquiet.trans hcleared).trans (quiet_judge f level _)

theorem quiet_workAf (signal : U32) (cleared : Bool) (t : Tuner) :
    Quiet t.radio ((t.workAf signal cleared).getD t).radio := by
  unfold workAf
  split
  · exact Quiet.refl t.radio
  · cases nextPlace (t.tbl 0) t.gap8_0 with
    | none => exact Quiet.refl t.radio
    | some idx =>
      rw [Option.map_some, Option.getD_some]
      exact quiet_tryFrequency _ signal cleared { t with gap8_0 := idx }

theorem quiet_setFrequencyBegin (t : Tuner) : Quiet t.radio t.setFrequencyBegin.radio := by
  unfold setFrequencyBegin
  split <;> exact .of_same rfl rfl

theorem quiet_tuneCleared (freq withData : U32) (r : Radio) : Quiet r (tuneCleared freq withData r) :=
  (quiet_radioSetFrequencyCom freq withData r).trans (quiet_mapS2 _ _)

theorem quiet_setFrequencyTune (freq withData : U32) (t : Tuner) :
    Quiet t.radio (t.setFrequencyTune freq withData).radio := by
  unfold setFrequencyTune
  extract_lets t1 newBand band cfgRadio
  have hfreq : Quiet t.radio t1.radio := .of_same rfl rfl
  have htune := quiet_tuneCleared freq withData
  refine hfreq.trans ?_
  split
  · exact htune t1.radio
  · split
    · have hmute := (quiet_emit t1.radio (e := .audioAddWork 19 1) rfl).trans (quiet_radioSetMute true _)
      exact (hmute.trans (htune _)).trans (.of_same rfl rfl)
    · exact (htune t1.radio).trans (.of_same rfl rfl)

/-- Without RDS, or without an announcement, retuning is quiet. -/
theorem quiet_setFrequencyEnd (freq withData : U32) {t : Tuner}
    (h : t.radio.cfgRds = 0 ∨ t.radio.hasTaWork = 0) :
    Quiet t.radio (t.setFrequencyEnd freq withData).radio := by
  refine Quiet.trans ?_ (quiet_setFrequencyTune freq withData _)
  unfold setFrequencyTa
  split
  · rename_i hrds
    have hta : t.radio.hasTaWork = 0 := h.resolve_left hrds
    extract_lets taWas t1
    rw [if_neg (by show ¬ t.radio.hasTaWork = 1; rw [hta]; decide)]
    exact .of_same rfl hta.symm
  · exact Quiet.refl t.radio

/-- With both, retuning ends the announcement and queues no item for it. -/
theorem setFrequencyEnd_silent (freq withData : U32) {t : Tuner} (hrds : t.radio.cfgRds ≠ 0) :
    (t.setFrequencyEnd freq withData).radio.hasTaWork = 0 ∧
      ∃ new, (t.setFrequencyEnd freq withData).radio.log = new ++ t.radio.log ∧
        ∀ e ∈ new, RadioEvent.isTa e = false := by
  have htune := quiet_setFrequencyTune freq withData t.setFrequencyTa
  have hend : t.setFrequencyTa.radio.hasTaWork = 0 ∧
      Quiet { t.radio with hasTaWork := 0 } t.setFrequencyTa.radio := by
    unfold setFrequencyTa
    rw [if_pos hrds]
    extract_lets taWas t1
    split
    · exact ⟨rfl, quiet_emit _ rfl⟩
    · exact ⟨rfl, Quiet.refl _⟩
  exact ⟨htune.ta.trans hend.1, (hend.2.trans htune).said⟩

end Tuner

end MtcDrivers
