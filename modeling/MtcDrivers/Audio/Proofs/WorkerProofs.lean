import MtcDrivers.Audio.Worker
import MtcDrivers.Audio.Proofs.VolumeProofs

/-!
# The audio part of the audio work

What the work with the volume frames does to the audio part is what the work without them does.
-/

namespace MtcDrivers

namespace AudioUnit

theorem fadeIn_audio (u : AudioUnit) : u.fadeIn.audio = u.audio.emit .fadeIn := by
  obtain ⟨v, hv, hfade⟩ := u.fadeIn_eq
  rw [hfade, emit_audio, hv]

theorem fadeOut_audio (u : AudioUnit) : u.fadeOut.audio = u.audio.emit .fadeOut := by
  obtain ⟨v, hv, hfade⟩ := u.fadeOut_eq
  rw [hfade, emit_audio, hv]

theorem setMute_audio (mute : U32) (u : AudioUnit) : (u.setMute mute).audio = u.audio.setMute mute := by
  unfold setMute Audio.setMute
  by_cases hsame : u.state.mute.setWidth 32 = mute
  · rw [if_pos hsame]
    exact (if_pos hsame).symm
  rw [if_neg hsame]
  refine Eq.trans ?_ (if_neg hsame).symm
  by_cases hmute : mute = 1
  · rw [if_pos hmute, if_pos hmute, sendMute_audio, map_audio, fadeOut_audio]
  · rw [if_neg hmute, if_neg hmute, fadeIn_audio, sendMute_audio, map_audio]

theorem applyActiveCmd_audio (u : AudioUnit) : u.applyActiveCmd.audio = u.audio.applyActiveCmd := by
  unfold applyActiveCmd Audio.applyActiveCmd
  extract_lets v8 src bit1 bit2 bit3 u1 u2 b8 bsrc b1 b2 b3 a1 a2
  by_cases hchange : u.state.actBit1 ≠ bit1 ∨ src ≠ u.state.audioSrc ∨ u.state.actBit2 ≠ bit2 ∨
      u.state.actBit3 ≠ bit3
  · rw [if_pos hchange]
    refine Eq.trans ?_ (if_pos hchange).symm
    have hbit3 : u1.audio = a1 := by
      show (if v8 &&& 0x80 ≠ 0 then _ else u : AudioUnit).audio = if v8 &&& 0x80 ≠ 0 then _ else u.audio
      split <;> rfl
    have hbits : u2.audio = a2 := congrArg
      (fun a : Audio => a.map fun s => { s with actBit2 := bit2, actBit1 := bit1, audioSrc := src }) hbit3
    rw [state, hbits]
    split
    · rw [setVolume_audio, hbits]
      rfl
    · exact hbits
  · rw [if_neg hchange]
    exact (if_neg hchange).symm

theorem activate_audio (u : AudioUnit) : u.activate.audio = u.audio.activate := by
  unfold activate Audio.activate
  extract_lets u1 u2 u3 u4 u5 a1 a2 a3 a4 a5
  by_cases hactive : u.state.audioActive ≠ 0
  · rw [if_pos hactive]
    exact (if_pos hactive).symm
  · rw [if_neg hactive, applyActiveCmd_audio]
    exact (if_neg hactive).symm

theorem workPhone_audio (w : AudioWork) (u : AudioUnit) : (u.workPhone w).audio = u.audio.workPhone w := by
  unfold workPhone Audio.workPhone
  by_cases hsame : w.cmd2 = u.state.chMode.setWidth 32
  · rw [if_pos hsame]
    exact (if_pos hsame).symm
  rw [if_neg hsame]
  refine Eq.trans ?_ (if_neg hsame).symm
  by_cases hcall : u.state.chMode ≠ 0
  · rw [if_pos hcall]
    refine Eq.trans ?_ (if_pos hcall).symm
    by_cases hmode : w.cmd2 ≠ 0
    · rw [if_pos hmode, if_pos hmode, emit_audio, setVolume_audio]
      rfl
    · rw [if_neg hmode, if_neg hmode, emit_audio]
      exact congrArg (fun a => a.emit (.carAddWork 30)) (phoneChannel_audio 0 u)
  · rw [if_neg hcall, phoneChannel_audio, emit_audio]
    exact (if_neg hcall).symm

theorem workPause_audio (w : AudioWork) (u : AudioUnit) : (u.workPause w).audio = u.audio.workPause w := by
  unfold workPause Audio.workPause
  extract_lets pause u1 a1
  by_cases hsame : w.cmd2 = u.state.gap11_1.setWidth 32
  · rw [if_pos hsame]
    exact (if_pos hsame).symm
  rw [if_neg hsame]
  refine Eq.trans ?_ (if_neg hsame).symm
  by_cases hmute : u1.state.mute ≠ 0 ∨ u1.state.audioActive = 0
  · rw [if_pos hmute]
    exact (if_pos hmute).symm
  rw [if_neg hmute]
  refine Eq.trans ?_ (if_neg hmute).symm
  by_cases hpause : pause = 1
  · rw [if_pos hpause, if_pos hpause, setVolume_audio, setWidth_setWidth]
    rfl
  · rw [if_neg hpause, if_neg hpause, fadeIn_audio]
    rfl

theorem ite_audio (b : Prop) [Decidable b] (u v : AudioUnit) :
    (if b then u else v).audio = if b then u.audio else v.audio := apply_ite AudioUnit.audio b u v

/-- On the audio part every item does what it does without the frames. -/
theorem workSwitch_audio (w : AudioWork) (u : AudioUnit) :
    (u.workSwitch w).audio =
      u.audio.workSwitch (fun ch mode _ => (u.enterChannel (ch.setWidth 32) mode).audio) w := by
  unfold workSwitch Audio.workSwitch
  generalize w.cmd1.toNat = item
  split
  · exact ite_audio _ _ _
  · exact ite_audio _ _ _
  · rw [ite_audio, setMute_audio]
    rfl
  · extract_lets u1
    rw [ite_audio, setVolume_audio, ite_audio, setMute_audio]
    rfl
  · extract_lets u1
    rw [ite_audio, setVolume_audio, ite_audio, setMute_audio]
    rfl
  · extract_lets u1
    rw [ite_audio, setVolume_audio]
    rfl
  · rw [ite_audio, setVolume_audio]
    rfl
  · rw [ite_audio, setVolume_audio]
    rfl
  · rfl
  · rfl
  · extract_lets u1
    rw [ite_audio, emit_audio]
    rfl
  · exact workPhone_audio w u
  · exact applyActiveCmd_audio _
  · exact applyActiveCmd_audio u
  · extract_lets u1
    rw [ite_audio, ite_audio, setVolume_audio]
    rfl
  · exact workPause_audio w u
  · rw [ite_audio, workPause_audio]
    rfl
  · exact activate_audio u
  · rfl
  · rw [ite_audio, ajxChannel_audio]
    rfl
  · rw [ite_audio, emit_audio, ajxChannel_audio]
    rfl
  · rw [ite_audio]
    exact congrArg (fun a => if u.state.chStatus = 0 then a else u.audio) (taChannel_audio 1 u)
  · rw [ite_audio]
    exact congrArg (fun a => if u.state.chStatus ≠ 0 then a else u.audio) (taChannel_audio 0 u)
  · extract_lets u1
    rw [ite_audio, ite_audio, setVolume_audio]
    rfl
  · rfl
  · -- none of the items
    simp [*]

/-- The work with the frames refines the work on the audio part. -/
theorem work_audio (w : AudioWork) (u : AudioUnit) :
    (u.work w).audio = u.audio.audioWork
      (fun ch mode _ => ((u.mapAudio Audio.releaseMutePin).enterChannel (ch.setWidth 32) mode).audio) w :=
  workSwitch_audio w _

/-- Only the items 0 and 1 enter a channel. -/
theorem workSwitch_enterChannel {w : AudioWork} (h0 : w.cmd1.toNat ≠ 0) (h1 : w.cmd1.toNat ≠ 1)
    (enterChannel enterChannel' : U8 → Bool → Audio → Audio) (a : Audio) :
    a.workSwitch enterChannel w = a.workSwitch enterChannel' w := by
  unfold Audio.workSwitch
  split
  · rename_i hitem
    exact absurd hitem h0
  · rename_i hitem
    exact absurd hitem h1
  all_goals rfl

/-- The work of the announcements is the work with the frames, on the audio part. -/
theorem audioWork_audio (w : AudioWork) (u : AudioUnit) : (u.audioWork w).audio = (u.work w).audio := by
  unfold audioWork work
  dsimp only
  generalize u.mapAudio Audio.releaseMutePin = v
  split
  · rename_i hitem
    simp only [workSwitch, hitem]
  · rename_i hitem
    simp only [workSwitch, hitem]
  · rename_i hitem
    simp only [workSwitch, hitem]
  · rename_i hitem
    simp only [workSwitch, hitem]
  · rename_i h0 h1 _ _
    rw [workSwitch_audio]
    exact workSwitch_enterChannel h0 h1 (fun _ _ a => a) _ v.audio

end AudioUnit

end MtcDrivers
