import MtcDrivers.Audio.Proofs.LoudnessProofs
import MtcDrivers.Audio.Proofs.OneSourceProofs

/-!
# Proofs: the mute pin is lifted

Only `enterNormal` touches the pin. Of its two flags the one that the old channel looks at is set whenever
the pin was muted.
-/

namespace MtcDrivers

namespace AudioUnit

/-! ## What leaves the pin alone -/

/-- The pin is as it was, and nothing was sent to it. -/
structure SamePin (u v : AudioUnit) : Prop where
  muteAll : v.state.muteAll = u.state.muteAll
  pinLog : v.pinLog = u.pinLog

variable {u v w : AudioUnit}

theorem SamePin.refl (u : AudioUnit) : SamePin u u := ⟨rfl, rfl⟩

theorem SamePin.trans (h : SamePin u v) (h' : SamePin v w) : SamePin u w :=
  ⟨h'.muteAll.trans h.muteAll, h'.pinLog.trans h.pinLog⟩

theorem SamePin.of_audio (h : v.audio = u.audio) : SamePin u v :=
  ⟨congrArg (fun a => a.state.muteAll) h, congrArg (fun a => a.log.filterMap pinEvent) h⟩

theorem SamePin.emit (h : SamePin u v) {e : AudioEvent} (he : pinEvent e = none) :
    SamePin u (v.emit e) :=
  ⟨h.muteAll, (List.filterMap_cons_none he).trans h.pinLog⟩

theorem SamePin.map (h : SamePin u v) {f : AudioState → AudioState}
    (hf : ∀ s, (f s).muteAll = s.muteAll) : SamePin u (v.map f) :=
  ⟨(hf v.state).trans h.muteAll, h.pinLog⟩

theorem SamePin.frames (h : SamePin u v) (hw : OnlyFrames v w) : SamePin u w :=
  h.trans (.of_audio (by rw [hw]))

theorem SamePin.setVolume (h : SamePin u v) (volume : U32) : SamePin u (v.setVolume volume) :=
  (h.frames (onlyFrames_sendVolume volume v)).emit rfl

theorem SamePin.sendMute (h : SamePin u v) : SamePin u v.sendMute := (h.emit rfl).emit rfl

theorem SamePin.fadeIn (h : SamePin u v) : SamePin u v.fadeIn := by
  obtain ⟨w, hw, hfade⟩ := v.fadeIn_eq
  rw [hfade]
  exact (h.frames hw).emit rfl

theorem SamePin.fadeOut (h : SamePin u v) : SamePin u v.fadeOut := by
  obtain ⟨w, hw, hfade⟩ := v.fadeOut_eq
  rw [hfade]
  exact (h.frames hw).emit rfl

theorem SamePin.setMute_zero (h : SamePin u v) : SamePin u (v.setMute 0) := by
  unfold setMute
  split
  · exact h
  · rw [if_neg (by decide)]
    exact .fadeIn (.sendMute (.map h fun _ => rfl))

/-! ## The power of the sources -/

theorem SamePin.radioPower (h : SamePin u v) (on : Bool) : SamePin u (v.radioPower on) := by
  refine h.trans (.of_audio ?_)
  unfold AudioUnit.radioPower
  extract_lets power
  split <;> rfl

theorem SamePin.tvPower (h : SamePin u v) (on : Bool) : SamePin u (v.tvPower on) := by
  refine (h.emit ?_).trans (.of_audio rfl)
  cases on <;> rfl

theorem SamePin.dvdPower (h : SamePin u v) (on : Bool) : SamePin u (v.dvdPower on) :=
  h.trans (.of_audio rfl)

theorem SamePin.setChannel (h : SamePin u v) (ch : U32) : SamePin u (v.setChannel ch) :=
  h.map fun _ => rfl

theorem SamePin.replaceChannel (h : SamePin u v) (audioCh setCh : U32) :
    SamePin u (v.replaceChannel audioCh setCh) := by
  unfold AudioUnit.replaceChannel
  split
  · exact (h.radioPower false).setChannel setCh
  · split
    · exact (h.tvPower false).setChannel setCh
    · split
      · exact h.setChannel setCh
      · exact h.dvdPower false

theorem SamePin.powerOn (h : SamePin u v) (setCh : U32) : SamePin u (v.powerOn setCh) := by
  unfold AudioUnit.powerOn
  split
  · exact h.radioPower true
  · split
    · exact h.tvPower true
    · split
      · exact h.dvdPower true
      · exact h

theorem SamePin.showChannel (h : SamePin u v) (setCh : U32) (mode : Bool) :
    SamePin u (v.showChannel setCh mode) := by
  have hunmuted : SamePin u (if mode then (v.map fun s => { s with mute := 0 }).sendMute else v) := by
    split
    · exact .sendMute (.map h fun _ => rfl)
    · exact h
  unfold AudioUnit.showChannel
  extract_lets u1 u2 u3 u4
  have hshown : SamePin u u2 := (hunmuted.setChannel setCh).emit rfl
  have hpending : SamePin u u4 := SamePin.map (v := u3) (hshown.trans (.of_audio rfl)) fun _ => rfl
  split
  · exact hpending.setVolume 0
  · exact hpending

/-! ## `ch_sel_mode` 4 -/

theorem samePin_enterSecond (mode : Bool) (u : AudioUnit) : SamePin u (u.enterSecond mode) := by
  unfold enterSecond
  extract_lets u1 u2
  have hunmuted : SamePin u u1 := .sendMute (.map (.fadeOut (.refl u)) fun _ => rfl)
  have hsecond : SamePin u u2 := .map hunmuted fun _ => rfl
  exact (hsecond.emit rfl).setVolume 0

theorem samePin_leaveSelected (setCh : U32) (u : AudioUnit) : SamePin u (u.leaveSelected setCh) := by
  have hrefl := SamePin.refl u
  unfold leaveSelected
  dsimp only
  split
  · exact hrefl
  · split
    · exact (hrefl.radioPower false).setChannel channelSys
    · split
      · exact (hrefl.tvPower false).setChannel channelSys
      · split
        · exact hrefl.dvdPower false
        · exact hrefl.setChannel channelSys

theorem samePin_enterSelected (setCh : U32) (u : AudioUnit) : SamePin u (u.enterSelected setCh) := by
  have hrefl := SamePin.refl u
  unfold enterSelected
  dsimp only
  split
  · exact hrefl
  · split
    · exact (hrefl.radioPower true).replaceChannel _ setCh
    · split
      · exact (hrefl.tvPower true).replaceChannel _ setCh
      · split
        · exact hrefl.dvdPower true
        · exact hrefl.replaceChannel _ setCh

theorem samePin_enterChannelSelected (setCh : U32) (mode : Bool) (u : AudioUnit) :
    SamePin u (u.enterChannelSelected setCh mode) := by
  unfold enterChannelSelected
  split
  · exact samePin_enterSecond mode u
  · split
    · exact samePin_enterSelected setCh u
    · exact samePin_leaveSelected setCh u

/-! ## The pin -/

theorem SamePin.lifted (h : SamePin u v) (hpin : u.state.muteAll ≠ 1) : PinLifted u v :=
  ⟨by rwa [h.muteAll], [], h.pinLog, fun later earlier hsent => by simp at hsent⟩

/-- The pin was unmuted when `v` came, and has been muted since. -/
structure PinMuted (u v : AudioUnit) : Prop where
  muteAll : v.state.muteAll = 1
  pinLog : v.pinLog = true :: u.pinLog

theorem SamePin.mute (h : SamePin u v) (hpin : u.state.muteAll ≠ 1) :
    PinMuted u (v.mapAudio (Audio.setMutePin 1)) := by
  have hne : ¬ v.audio.state.muteAll = 1 := fun hv => hpin (h.muteAll.symm.trans hv)
  have hset : v.audio.setMutePin 1 =
      (v.audio.map fun s => { s with muteAll := 1 }).emit (.armSendMulti 0x9007 []) := if_neg hne
  constructor
  · show (v.audio.setMutePin 1).state.muteAll = 1
    rw [hset]
    rfl
  · show (v.audio.setMutePin 1).log.filterMap pinEvent = _
    rw [hset]
    exact congrArg (true :: ·) h.pinLog

theorem PinMuted.same (h : PinMuted u v) (h' : SamePin v w) : PinMuted u w :=
  ⟨h'.muteAll.trans h.muteAll, h'.pinLog.trans h.pinLog⟩

theorem PinMuted.unmute (h : PinMuted u v) : PinLifted u (v.mapAudio (Audio.setMutePin 0)) := by
  have hne : ¬ v.audio.state.muteAll = 0 := by
    intro hv
    exact absurd (h.muteAll.symm.trans hv) (by decide)
  have hset : v.audio.setMutePin 0 =
      (v.audio.map fun s => { s with muteAll := 0 }).emit (.armSendMulti 0x9008 []) := if_neg hne
  refine ⟨?_, [false, true], ?_, ?_⟩
  · show (v.audio.setMutePin 0).state.muteAll ≠ 1
    rw [hset]
    exact (by decide : (0 : U8) ≠ 1)
  · show (v.audio.setMutePin 0).log.filterMap pinEvent = _
    rw [hset]
    exact congrArg (false :: ·) h.pinLog
  · intro later earlier hsent
    rcases later with - | ⟨pin, later⟩
    · cases hsent
    · exact (List.cons.inj hsent).1 ▸ List.mem_cons_self

theorem PinLifted.same (h : PinLifted u v) (h' : SamePin v w) : PinLifted u w :=
  ⟨by rw [h'.muteAll]; exact h.muteAll, by rw [h'.pinLog]; exact h.lifted⟩

/-! ## `Audio_EnterChannel` -/

/-- The pin was muted if `muted`, and nothing was sent to it otherwise. -/
def PinAfter (muted : Bool) (u v : AudioUnit) : Prop := if muted then PinMuted u v else SamePin u v

variable {audioCh setCh : U32} {muted : Bool}

theorem PinAfter.same (h : PinAfter muted u v) (h' : SamePin v w) : PinAfter muted u w := by
  cases muted
  · exact SamePin.trans h h'
  · exact PinMuted.same h h'

/-- The unmuting that goes with the muting. -/
theorem PinAfter.unmute (h : PinAfter muted u v) (hpin : u.state.muteAll ≠ 1) :
    PinLifted u (if muted then v.mapAudio (Audio.setMutePin 0) else v) := by
  cases muted
  · exact SamePin.lifted h hpin
  · exact PinMuted.unmute h

theorem tuner_fadeOut (u : AudioUnit) : u.fadeOut.tuner = u.tuner := by
  obtain ⟨v, hv, hfade⟩ := u.fadeOut_eq
  rw [hfade]
  show v.tuner = u.tuner
  rw [hv]

/-- The flag `v8` says whether the pin is muted. -/
theorem pinAfter_fadeAndMute (audioCh setCh : U32) (hpin : u.state.muteAll ≠ 1) :
    PinAfter (u.mutePlan audioCh setCh).1 u (u.fadeAndMute audioCh setCh) := by
  unfold fadeAndMute
  extract_lets u1 u2
  have hu1 : u1.tuner = u.tuner ∧ SamePin u u1 := by
    show AudioUnit.tuner (if audioCh = channelDvd then _ else u) = _ ∧
      SamePin u (if audioCh = channelDvd then _ else u)
    split
    · exact ⟨rfl, .of_audio rfl⟩
    · exact ⟨rfl, .refl u⟩
  have hplan : u2.mutePlan audioCh setCh = u.mutePlan audioCh setCh := by
    unfold mutePlan
    rw [tuner_fadeOut, hu1.1]
  have hfaded : SamePin u u2 := hu1.2.fadeOut
  rw [hplan]
  unfold PinAfter
  split
  · exact hfaded.mute hpin
  · exact hfaded

/-- If the old channel is DVD, the flag `v10` is `v8`: only the radio sets one without the other. -/
theorem mutePlan_dvd (u : AudioUnit) (setCh : U32) :
    (u.mutePlan channelDvd setCh).2.2 = (u.mutePlan channelDvd setCh).1 := by
  have hne : decide (channelDvd ≠ channelFm) = true := by decide
  unfold mutePlan
  extract_lets hit
  rw [hne, Bool.true_or, if_pos rfl]
  split <;> rfl

theorem PinAfter.powerOff (h : PinAfter (w.mutePlan audioCh setCh).1 u v) (hpin : u.state.muteAll ≠ 1) :
    PinLifted u (v.powerOff audioCh (w.mutePlan audioCh setCh).1 (w.mutePlan audioCh setCh).2.2) := by
  have hrefl := SamePin.refl v
  unfold AudioUnit.powerOff
  dsimp only
  split
  · exact (h.same (hrefl.radioPower false)).unmute hpin
  · split
    · exact (h.same (hrefl.tvPower false)).unmute hpin
    · split
      · exact h.unmute hpin
      · rename_i hdvd
        obtain rfl : audioCh = channelDvd := not_not.mp hdvd
        rw [mutePlan_dvd]
        exact (h.unmute hpin).same ((SamePin.refl _).dvdPower false)

theorem enterNormal_lifts (audioCh setCh : U32) (mode : Bool) (hpin : u.state.muteAll ≠ 1) :
    PinLifted u (u.enterNormal audioCh setCh mode) := by
  have hmuted := pinAfter_fadeAndMute audioCh setCh hpin
  have hshown := ((SamePin.refl (u.fadeAndMute audioCh setCh)).powerOn setCh).showChannel setCh mode
  exact (hmuted.same hshown).powerOff hpin

theorem samePin_enterSimple (setCh : U32) (u : AudioUnit) : SamePin u (u.enterSimple setCh) := by
  unfold enterSimple
  refine .setVolume (.sendMute ?_) 0
  exact .map (.refl u) fun _ => rfl

theorem changeChannel_lifts (audioCh setCh : U32) (mode : Bool) (hpin : u.state.muteAll ≠ 1) :
    PinLifted u (u.changeChannel audioCh setCh mode) := by
  unfold changeChannel
  split
  · exact ((SamePin.refl u).replaceChannel audioCh setCh).lifted hpin
  · split
    · exact (samePin_enterSimple setCh u).lifted hpin
    · exact enterNormal_lifts audioCh setCh mode hpin

theorem enterAgain_lifts (hpin : u.state.muteAll ≠ 1) : PinLifted u u.enterAgain := by
  have hrefl := SamePin.refl u
  unfold enterAgain
  dsimp only
  split
  · split
    · exact hrefl.lifted hpin
    · exact hrefl.setMute_zero.lifted hpin
  · split
    · exact changeChannel_lifts _ _ true hpin
    · exact hrefl.lifted hpin

/-- `Audio_EnterChannel` does not leave the pin muted if it was not. -/
theorem enterChannel_lifts (u : AudioUnit) (setCh : U32) (mode : Bool) (hpin : u.state.muteAll ≠ 1) :
    PinLifted u (u.enterChannel setCh mode) := by
  unfold enterChannel
  dsimp only
  split
  · exact (samePin_enterChannelSelected setCh mode u).lifted hpin
  · split
    · split
      · exact enterAgain_lifts hpin
      · exact changeChannel_lifts _ setCh true hpin
    · split
      · exact (SamePin.refl u).lifted hpin
      · exact changeChannel_lifts _ channelSys false hpin

/-- From the radio to DTV the pin is muted on the way. -/
theorem enterChannel_lifts_dtv : PinLifted listening (listening.enterChannel channelDtv true) :=
  enterChannel_lifts listening channelDtv true (by decide)

end AudioUnit

end MtcDrivers
