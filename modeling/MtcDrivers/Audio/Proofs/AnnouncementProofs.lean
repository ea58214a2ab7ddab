import MtcDrivers.Audio.Announcement
import MtcDrivers.Audio.Proofs.OneSourceProofs
import MtcDrivers.Radio.Proofs.NoticeProofs

/-!
# Traffic announcements

The audio items that wait settle what `ch_status` will be, and that is on only during an announcement. Only
retuning the tuner breaks this.
-/

namespace MtcDrivers

/-! ## `ch_status` in the audio module -/

namespace PowerView

/-- `ch_status` and `has_ta_work` are kept. -/
structure SameTa (v w : PowerView) : Prop where
  chStatus : w.chStatus = v.chStatus
  ta : w.tuner.radio.hasTaWork = v.tuner.radio.hasTaWork

theorem SameTa.refl (v : PowerView) : v.SameTa v := ⟨rfl, rfl⟩

theorem SameTa.trans {v w x : PowerView} (h : v.SameTa w) (h' : w.SameTa x) : v.SameTa x :=
  ⟨h'.chStatus.trans h.chStatus, h'.ta.trans h.ta⟩

theorem sameTa_radioPower (on : Bool) (v : PowerView) : v.SameTa (v.radioPower on) := by
  have htuner : ∀ power : U32, (v.tuner.radioPower power).radio.hasTaWork = v.tuner.radio.hasTaWork := by
    intro power
    unfold Tuner.radioPower
    split
    · rfl
    · split <;> rfl
  unfold radioPower
  extract_lets power
  split
  · exact SameTa.refl v
  · exact ⟨rfl, htuner power⟩

theorem sameTa_powerOn (ch : U8) (v : PowerView) : v.SameTa (v.powerOn ch) := by
  unfold powerOn
  split
  · exact sameTa_radioPower true v
  · split
    · exact ⟨rfl, rfl⟩
    · split <;> exact ⟨rfl, rfl⟩

theorem sameTa_powerOff (ch : U8) (v : PowerView) : v.SameTa (v.powerOff ch) := by
  unfold powerOff
  split
  · exact sameTa_radioPower false v
  · split
    · exact ⟨rfl, rfl⟩
    · split <;> exact ⟨rfl, rfl⟩

theorem sameTa_replace (old ch : U8) (v : PowerView) : v.SameTa (v.replace old ch) := by
  unfold replace
  split
  · exact sameTa_powerOff old v
  · exact (sameTa_powerOff old v).trans ⟨rfl, rfl⟩

theorem sameTa_exchange (old ch : U8) (v : PowerView) : v.SameTa (v.exchange old ch) := by
  have hset : (v.powerOn ch).SameTa ((v.powerOn ch).setChannel ch) := ⟨rfl, rfl⟩
  exact ((sameTa_powerOn ch v).trans hset).trans (sameTa_powerOff old _)

theorem sameTa_enter (setCh : U8) (mode : Bool) (v : PowerView) :
    v.SameTa (ChannelCall.enter setCh mode v) := by
  unfold ChannelCall.enter
  split
  · exact SameTa.refl v
  · split
    · split
      · exact ⟨rfl, rfl⟩
      · cases mode with
        | true => exact (sameTa_powerOn setCh v).trans (sameTa_replace _ _ _)
        | false => exact sameTa_replace _ _ v
    · split
      · exact sameTa_replace _ _ v
      · exact sameTa_exchange _ _ v

end PowerView

namespace Audio

theorem chStatus_setMutePin (pin : U8) (a : Audio) : (a.setMutePin pin).state.chStatus = a.state.chStatus := by
  unfold setMutePin
  split <;> rfl

theorem chStatus_setMute (mute : U32) (a : Audio) : (a.setMute mute).state.chStatus = a.state.chStatus := by
  unfold setMute
  split
  · rfl
  · split <;> rfl

theorem chStatus_phoneChannel (mode : U8) (a : Audio) :
    (a.phoneChannel mode).state.chStatus = a.state.chStatus := by
  unfold phoneChannel
  split
  · rfl
  · split
    · rfl
    · extract_lets a1 a2 a3
      split <;> rfl

theorem chStatus_ajxChannel (mode : Bool) (a : Audio) :
    (a.ajxChannel mode).state.chStatus = a.state.chStatus := by
  cases mode <;> rfl

theorem chStatus_applyActiveCmd (a : Audio) : a.applyActiveCmd.state.chStatus = a.state.chStatus := by
  unfold applyActiveCmd
  extract_lets v8 src bit1 bit2 bit3 a1 a2
  have hbit : a1.state.chStatus = a.state.chStatus := by
    show (if v8 &&& 0x80 ≠ 0 then a.map fun s => { s with actBit3 := bit3 } else a : Audio).state.chStatus = _
    split <;> rfl
  split
  · split
    · exact hbit
    · exact hbit
  · rfl

theorem chStatus_activate (a : Audio) : a.activate.state.chStatus = a.state.chStatus := by
  unfold activate
  split
  · rfl
  · extract_lets a1 a2 a3 a4 a5
    rw [chStatus_applyActiveCmd, chStatus_setMutePin]
    rfl

theorem chStatus_deactivate (a : Audio) : a.deactivate.state.chStatus = a.state.chStatus := by
  unfold deactivate
  split <;> rfl

theorem chStatus_releaseMutePin (a : Audio) : a.releaseMutePin.state.chStatus = a.state.chStatus := by
  unfold releaseMutePin
  split
  · rw [chStatus_setMutePin]
    rfl
  · rfl

theorem chStatus_workBalance (w : AudioWork) (a : Audio) :
    (a.workBalance w).state.chStatus = a.state.chStatus := by
  unfold workBalance
  split
  · extract_lets active a1
    split <;> rfl
  · rfl

theorem chStatus_workEq (w : AudioWork) (a : Audio) : (a.workEq w).state.chStatus = a.state.chStatus := by
  unfold workEq
  split
  · extract_lets active a1
    split <;> rfl
  · rfl

theorem chStatus_workPhone (w : AudioWork) (a : Audio) : (a.workPhone w).state.chStatus = a.state.chStatus := by
  unfold workPhone
  split
  · rfl
  · split
    · split
      · rfl
      · exact chStatus_phoneChannel 0 a
    · exact chStatus_phoneChannel _ (a.emit (.carAddWork 29))

theorem chStatus_workPause (w : AudioWork) (a : Audio) : (a.workPause w).state.chStatus = a.state.chStatus := by
  unfold workPause
  split
  · rfl
  · extract_lets pause a1
    split
    · rfl
    · split <;> rfl

/-- The volume of an unmuted unit is set. -/
theorem chStatus_unmute (b : Prop) [Decidable b] (a : Audio) :
    (if b then a.setMute 0 else a : Audio).state.chStatus = a.state.chStatus := by
  split
  · exact chStatus_setMute 0 a
  · rfl

/-- The items 24 and 25 aside, `ch_status` is kept. -/
theorem chStatus_workSwitch {w : AudioWork} (h : w.cmd1 ≠ 24 ∧ w.cmd1 ≠ 25) (a : Audio) :
    (a.workSwitch (fun _ _ a => a) w).state.chStatus = a.state.chStatus := by
  have hcmd : ∀ n : ℕ, w.cmd1.toNat = n → w.cmd1 = BitVec.ofNat 32 n := by
    rintro n rfl
    simp
  unfold workSwitch
  split
  · split <;> rfl
  · split <;> rfl
  · split
    · exact chStatus_setMute _ a
    · rfl
  · extract_lets a1
    split
    · split
      · rfl
      · exact chStatus_setMute 0 a1
    · rfl
  · extract_lets a1
    split
    · exact chStatus_unmute _ a1
    · rfl
  · extract_lets a1
    split <;> rfl
  · split <;> rfl
  · split <;> rfl
  · exact chStatus_workBalance w a
  · exact chStatus_workEq w a
  · extract_lets a1
    split <;> rfl
  · exact chStatus_workPhone w a
  · exact chStatus_applyActiveCmd _
  · exact chStatus_applyActiveCmd a
  · split
    · extract_lets a1
      split <;> rfl
    · rfl
  · exact chStatus_workPause w a
  · split
    · rfl
    · exact chStatus_workPause w a
  · exact chStatus_activate a
  · exact chStatus_deactivate a
  · split
    · exact chStatus_ajxChannel true _
    · rfl
  · split
    · exact chStatus_ajxChannel false a
    · rfl
  · rename_i hcase
    exact absurd (hcmd _ hcase) h.1
  · rename_i hcase
    exact absurd (hcmd _ hcase) h.2
  · split
    · extract_lets a1
      split <;> rfl
    · rfl
  · rfl
  · rfl

theorem chStatus_taChannel (mode : U8) (a : Audio) : (a.taChannel mode).state.chStatus = mode := by
  unfold taChannel
  split
  · rfl
  · split
    · split <;> rfl
    · rename_i hmode
      split
      · exact (not_not.mp hmode).symm
      · exact (not_not.mp hmode).symm

end Audio

namespace AudioUnit

/-! ## One audio item -/

theorem tuner_setVolume (volume : U32) (u : AudioUnit) : (u.setVolume volume).tuner = u.tuner :=
  congrArg PowerView.tuner (power_setVolume volume u)

theorem tuner_taChannel (mode : U32) (u : AudioUnit) : (u.taChannel mode).tuner = u.tuner := by
  unfold taChannel
  split
  · rfl
  · split
    · split
      · exact tuner_setVolume _ _
      · rw [tuner_setVolume]
        exact tuner_setVolume 60 u
    · split
      · exact tuner_setVolume _ _
      · extract_lets u1
        rw [tuner_setVolume]
        exact tuner_setVolume 60 u

theorem chStatus_taChannel (mode : U8) (u : AudioUnit) :
    (u.taChannel (mode.setWidth 32)).state.chStatus = mode := by
  rw [state, taChannel_audio]
  exact Audio.chStatus_taChannel mode u.audio

theorem sameTa_enterChannel (setCh : U8) (mode : Bool) (u : AudioUnit) :
    u.power.SameTa (u.enterChannel (setCh.setWidth 32) mode).power := by
  rw [power_enterChannel]
  exact PowerView.sameTa_enter setCh mode u.power

theorem sameTa_releaseMutePin (u : AudioUnit) : u.power.SameTa (u.mapAudio Audio.releaseMutePin).power :=
  ⟨Audio.chStatus_releaseMutePin u.audio, rfl⟩

/-- An item of another module. -/
theorem sameTa_audioWork {w : AudioWork} (h : w.cmd1 ≠ 24 ∧ w.cmd1 ≠ 25) (u : AudioUnit) :
    u.power.SameTa (u.audioWork w).power := by
  have hcmd : ∀ n : ℕ, w.cmd1.toNat = n → w.cmd1 = BitVec.ofNat 32 n := by
    rintro n rfl
    simp
  unfold audioWork
  extract_lets u1
  have hrelease : u.power.SameTa u1.power := sameTa_releaseMutePin u
  refine hrelease.trans ?_
  split
  · split
    · exact sameTa_enterChannel _ true u1
    · exact PowerView.SameTa.refl u1.power
  · split
    · exact sameTa_enterChannel _ false u1
    · exact PowerView.SameTa.refl u1.power
  · rename_i hcase
    exact absurd (hcmd _ hcase) h.1
  · rename_i hcase
    exact absurd (hcmd _ hcase) h.2
  · exact ⟨Audio.chStatus_workSwitch h u1.audio, rfl⟩

/-- Item 24: the announcement has the sound. -/
theorem audioWork_begin {w : AudioWork} (h : w.cmd1 = 24) (u : AudioUnit) :
    (u.audioWork w).state.chStatus ≠ 0 ∧ (u.audioWork w).tuner = u.tuner := by
  obtain ⟨cmd1, cmd2, cmd3, val1⟩ := w
  subst h
  show (if (u.mapAudio Audio.releaseMutePin).state.chStatus = 0 then _ else _ : AudioUnit).state.chStatus ≠ 0 ∧
    (if (u.mapAudio Audio.releaseMutePin).state.chStatus = 0 then _ else _ : AudioUnit).tuner = u.tuner
  split
  · have hon := chStatus_taChannel 1 (u.mapAudio Audio.releaseMutePin)
    refine ⟨?_, tuner_taChannel 1 _⟩
    intro hoff
    exact absurd (hon.symm.trans hoff) (by decide)
  · rename_i hon
    exact ⟨hon, rfl⟩

/-- Item 25: it gives the sound back. -/
theorem audioWork_end {w : AudioWork} (h : w.cmd1 = 25) (u : AudioUnit) :
    (u.audioWork w).state.chStatus = 0 ∧ (u.audioWork w).tuner = u.tuner := by
  obtain ⟨cmd1, cmd2, cmd3, val1⟩ := w
  subst h
  show (if (u.mapAudio Audio.releaseMutePin).state.chStatus ≠ 0 then _ else _ : AudioUnit).state.chStatus = 0 ∧
    (if (u.mapAudio Audio.releaseMutePin).state.chStatus ≠ 0 then _ else _ : AudioUnit).tuner = u.tuner
  split
  · exact ⟨chStatus_taChannel 0 (u.mapAudio Audio.releaseMutePin), tuner_taChannel 0 _⟩
  · rename_i hoff
    exact ⟨not_not.mp hoff, rfl⟩

end AudioUnit

namespace TaSystem

open Radio

/-! ## What the waiting items settle -/

/-- Whether the announcement has the sound behind an item. -/
def announced (on : Bool) (w : AudioWork) : Bool :=
  if w.cmd1 = 24 then true else if w.cmd1 = 25 then false else on

/-- Whether it has the sound behind all of them. -/
def settled (queue : List AudioWork) (on : Bool) : Bool := queue.foldl announced on

theorem settled_append (q q' : List AudioWork) (on : Bool) :
    settled (q ++ q') on = settled q' (settled q on) :=
  List.foldl_append

theorem settled_mono {q : List AudioWork} {b c : Bool} (hbc : b = true → c = true)
    (h : settled q b = true) : settled q c = true := by
  induction q generalizing b c with
  | nil => exact hbc h
  | cons w q ih =>
    refine ih ?_ h
    unfold announced
    split
    · exact id
    · split
      · exact id
      · exact hbc

theorem items_cons (e : RadioEvent) (new : List RadioEvent) :
    items (e :: new) = items new ++ (itemOf e).toList := by
  unfold items
  cases he : itemOf e with
  | none => simp [he]
  | some w => simp [he]

theorem mem_items {w : AudioWork} {new : List RadioEvent} : w ∈ items new ↔ ∃ e ∈ new, itemOf e = some w := by
  unfold items
  rw [List.mem_reverse, List.mem_filterMap]

/-- The newest item of an announcement decides. -/
theorem settled_items {new : List RadioEvent} {on : Bool} (h : settled (items new) on = true) :
    new.find? RadioEvent.isTa ≠ some (.audioAddWork 25 1) ∧
      (new.find? RadioEvent.isTa = none → on = true) := by
  induction new with
  | nil => exact ⟨by simp, fun _ => h⟩
  | cons e new ih =>
    rw [items_cons, settled_append] at h
    cases hta : e.isTa with
    | false =>
      have hkept : settled (itemOf e).toList (settled (items new) on) = settled (items new) on := by
        cases e with
        | audioAddWork cmd1 cmd2 =>
          obtain ⟨h24, h25⟩ : ¬ cmd1 = 24 ∧ ¬ cmd1 = 25 := by simpa [RadioEvent.isTa] using hta
          show announced _ _ = _
          rw [announced, if_neg h24, if_neg h25]
        | _ => rfl
      rw [hkept] at h
      rw [List.find?_cons_of_neg (by simp [hta])]
      exact ih h
    | true =>
      rw [List.find?_cons_of_pos hta]
      refine ⟨?_, fun hnone => by cases hnone⟩
      intro h25
      cases h25
      cases h

/-! ## The steps of the radio -/

theorem next_of_new {s : TaSystem} {f : Tuner → Tuner} {new : List RadioEvent}
    (hlog : (f s.unit.tuner).radio.log = new ++ s.radio.log) :
    (s.radioStep f).queue = s.queue ++ items new := by
  show s.queue ++ items (List.take _ _) = _
  rw [hlog, List.length_append, Nat.add_sub_cancel, List.take_left']
  rfl

/-- The announcement has the sound behind the waiting items only while there is one. -/
def Settled (s : TaSystem) : Prop :=
  settled s.queue (decide (s.unit.state.chStatus ≠ 0)) = true → s.radio.hasTaWork ≠ 0

theorem Settled.together {s : TaSystem} (h : s.Settled) : s.Together := by
  intro hqueue hon
  refine h ?_
  rw [hqueue]
  exact decide_eq_true hon

theorem settled_start (u : AudioUnit) : (start u).Settled := by
  intro h
  cases h

theorem Settled.radioStep {s : TaSystem} (h : s.Settled) {f : Tuner → Tuner}
    (hf : Notified s.radio (f s.unit.tuner).radio) : (s.radioStep f).Settled := by
  obtain ⟨new, hnew⟩ := hf
  intro hon
  rw [next_of_new hnew.log, settled_append] at hon
  obtain ⟨hlast, hbefore⟩ := settled_items hon
  exact hnew.still hlast fun hnone => h (hbefore hnone)

/-- The end of an announcement in a step of the radio. -/
theorem saysEnd_radioStep {s : TaSystem} {f : Tuner → Tuner}
    (hf : Notified s.radio (f s.unit.tuner).radio) (hon : s.radio.hasTaWork ≠ 0)
    (hoff : (s.radioStep f).radio.hasTaWork = 0) :
    (∃ new, (s.radioStep f).radio.log = new ++ s.radio.log ∧ RadioEvent.vsSend 155 [0] ∈ new) ∧
      ∃ queued, (s.radioStep f).queue = s.queue ++ queued ∧ ⟨25, 1, 0, 0⟩ ∈ queued := by
  obtain ⟨new, hnew⟩ := hf
  obtain ⟨hsend, hitem⟩ := hnew.ended hon hoff
  exact ⟨⟨new, hnew.log, hsend⟩, items new, next_of_new hnew.log, mem_items.mpr ⟨_, hitem, rfl⟩⟩

/-- Retuning during an announcement with RDS on ends it without a word to the audio module. -/
theorem not_saysEnd_retune {s : TaSystem} {freq withData : U32} (hrds : s.radio.cfgRds ≠ 0)
    (hon : s.radio.hasTaWork ≠ 0) : ¬ s.SaysEnd (.retuneEnd freq withData) := by
  intro htold
  obtain ⟨hoff, new, hlog, hquiet⟩ := Tuner.setFrequencyEnd_silent freq withData (t := s.unit.tuner) hrds
  obtain ⟨-, queued, hqueue, hitem⟩ := htold hon hoff
  have hqueued : items new = queued := List.append_cancel_left ((next_of_new hlog).symm.trans hqueue)
  rw [← hqueued] at hitem
  obtain ⟨e, he, hw⟩ := mem_items.mp hitem
  have hkind := hquiet e he
  cases e with
  | audioAddWork cmd1 cmd2 =>
    cases hw
    cases hkind
  | _ => cases hw

/-! ## The steps of the audio module -/

theorem settled_cons_audioWork (w : AudioWork) (queue : List AudioWork) (u : AudioUnit) :
    settled queue (decide ((u.audioWork w).state.chStatus ≠ 0)) =
      settled (w :: queue) (decide (u.state.chStatus ≠ 0)) ∧
      (u.audioWork w).tuner.radio.hasTaWork = u.tuner.radio.hasTaWork := by
  have hfirst : ∀ b, b = announced (decide (u.state.chStatus ≠ 0)) w →
      settled queue b = settled (w :: queue) (decide (u.state.chStatus ≠ 0)) := by
    rintro b rfl
    rfl
  by_cases h24 : w.cmd1 = 24
  · obtain ⟨hon, htuner⟩ := AudioUnit.audioWork_begin h24 u
    refine ⟨hfirst _ ?_, by rw [htuner]⟩
    rw [decide_eq_true hon, announced, if_pos h24]
  by_cases h25 : w.cmd1 = 25
  · obtain ⟨hoff, htuner⟩ := AudioUnit.audioWork_end h25 u
    refine ⟨hfirst _ ?_, by rw [htuner]⟩
    rw [decide_eq_false (not_not.mpr hoff), announced, if_neg h24, if_pos h25]
  · have hsame := AudioUnit.sameTa_audioWork ⟨h24, h25⟩ u
    have hstatus : (u.audioWork w).state.chStatus = u.state.chStatus := hsame.chStatus
    refine ⟨hfirst _ ?_, hsame.ta⟩
    rw [hstatus, announced, if_neg h24, if_neg h25]

/-! ## Runs -/

/-- A step other than such a retuning says what it ends, and leaves the modules together. -/
theorem Settled.next {s : TaSystem} (h : s.Settled) {step : TaStep} (hstep : s.NoRetune step) :
    s.SaysEnd step ∧ (s.next step).Settled := by
  have hradio : ∀ f : Tuner → Tuner, s.next step = s.radioStep f →
      Notified s.radio (f s.unit.tuner).radio → s.SaysEnd step ∧ (s.next step).Settled := by
    intro f hnext hf
    unfold SaysEnd
    rw [hnext]
    exact ⟨saysEnd_radioStep hf, h.radioStep hf⟩
  cases step with
  | radioCmd w => exact hradio (fun t => t.mapRadio (radioCmdWork w)) rfl (notified_radioCmdWork w s.radio)
  | group word fwA fwB fwC fwD =>
    exact hradio (fun t => t.mapRadio fun r => (r.mapS2 fun s => { s with
      rdsWordU16 := word, rdsFwA := fwA, rdsFwB := fwB, rdsFwC := fwC, rdsFwD := fwD }).rdsProcess) rfl
      ((quiet_mapS2 s.radio _).notified.trans (notified_rdsProcess _))
  | staValid => exact hradio (fun t => t.mapRadio workStaValid) rfl (.of_same rfl rfl)
  | rdslost => exact hradio (fun t => t.mapRadio rdslostWork) rfl (notified_rdslostWork s.radio)
  | ta => exact hradio (fun t => t.mapRadio workTa) rfl (notified_workTa s.radio)
  | signalLow => exact hradio Tuner.workSignalLow rfl (Tuner.notified_workSignalLow s.unit.tuner)
  | af signal cleared =>
    have hquiet := Tuner.quiet_workAf signal cleared s.unit.tuner
    exact hradio (fun t => (t.workAf signal cleared).getD t) rfl hquiet.notified
  | setTa enable => exact hradio (Tuner.setTa enable) rfl (Tuner.notified_setTa enable s.unit.tuner)
  | setAf af => exact hradio (Tuner.setAf af) rfl (Tuner.notified_setAf af s.unit.tuner)
  | retuneBegin =>
    exact hradio Tuner.setFrequencyBegin rfl (Tuner.quiet_setFrequencyBegin s.unit.tuner).notified
  | retuneEnd freq withData =>
    have hquiet := Tuner.quiet_setFrequencyEnd freq withData (t := s.unit.tuner) hstep
    exact hradio (Tuner.setFrequencyEnd freq withData) rfl hquiet.notified
  | config cfgRds cfgRadio backlightStatus =>
    exact hradio (fun t => t.mapRadio fun r => { r with
      cfgRds := cfgRds, cfgRadio := cfgRadio, backlightStatus := backlightStatus }) rfl (.of_same rfl rfl)
  | request w =>
    refine ⟨fun hon hoff => absurd hoff hon, fun hsettled => h ?_⟩
    have hkept : ∀ b, announced b w.1 = b := by
      intro b
      rw [announced, if_neg w.2.1, if_neg w.2.2]
    have happend := settled_append s.queue [w.1] (decide (s.unit.state.chStatus ≠ 0))
    rw [← hkept (settled s.queue _)]
    exact happend.symm.trans hsettled
  | audio =>
    rcases s with ⟨unit, queue⟩
    cases queue with
    | nil => exact ⟨fun hon hoff => absurd hoff hon, h⟩
    | cons w queue =>
      obtain ⟨hsettled, hta⟩ := settled_cons_audioWork w queue unit
      refine ⟨fun hon hoff => absurd (hta.symm.trans hoff) hon, fun hon => ?_⟩
      have hbefore : unit.tuner.radio.hasTaWork ≠ 0 := h (hsettled.symm.trans hon)
      intro hoff
      exact hbefore (hta.symm.trans hoff)
  | softOff =>
    refine ⟨fun hon hoff => absurd hoff hon, fun hon => h ?_⟩
    exact settled_mono (fun hfalse => absurd hfalse Bool.false_ne_true) hon

/-- Every end of an announcement is said, and the audio module stays with the radio, if and only if the
    tuner is never retuned during an announcement while RDS is on. -/
theorem announcements_end_iff (u : AudioUnit) (steps : List TaStep) :
    Run.Always next SaysEnd (start u) steps ∧ Run.Throughout next Together (start u) steps ↔
      Run.Always next NoRetune (start u) steps := by
  rw [Run.throughout_iff, and_iff_right (settled_start u).together, ← Run.always_and]
  refine Run.always_iff Settled (settled_start u) (fun s step h hstep => (h.next hstep).2) ?_
  intro s step h
  constructor
  · rintro ⟨htold, -⟩
    cases step with
    | retuneEnd freq withData =>
      by_contra hboth
      obtain ⟨hrds, hon⟩ := not_or.mp hboth
      exact not_saysEnd_retune hrds hon htold
    | _ => trivial
  · intro hstep
    exact ⟨(h.next hstep).1, (h.next hstep).2.together⟩

/-- The driver wants announcements, and six groups of a good signal announce one. -/
def announcement : List TaStep :=
  [.config 1 2 0, .setTa 1, .staValid, .radioCmd ⟨4, 0xFF, 0, 0⟩] ++
    List.replicate 6 (.group 0x0410 0 0 0 0)

/-- The driver tunes to another station during the announcement. -/
theorem not_announcements_end_retune :
    ¬ (Run.Always next SaysEnd (start default) (announcement ++ [.retuneEnd 95000000 0]) ∧
      Run.Throughout next Together (start default) (announcement ++ [.retuneEnd 95000000 0])) := by
  rintro ⟨htold, -⟩
  have hduring : (Run.after next (start default) announcement).radio.cfgRds ≠ 0 ∧
      (Run.after next (start default) announcement).radio.hasTaWork ≠ 0 := by
    decide
  exact not_saysEnd_retune hduring.1 hduring.2 (htold announcement _ [] rfl)

end TaSystem

end MtcDrivers
