import MtcDrivers.Audio.Announcement

/-!
# Audio work with its volume frames

The cases of `audio_work` once more, for the audio module with its volume frames, the power of the sources and
what the channel code does to both.
-/

namespace MtcDrivers

namespace AudioUnit

/-- `LABEL_16` of `audio_work`, and the end of `audio_active`: the bits of `active_cmd`. -/
def applyActiveCmd (u : AudioUnit) : AudioUnit :=
  let v8 := u.state.activeCmd
  let src : U8 := if v8 &&& 3 ≠ 0 then 3 else 0
  let bit1 := (v8 >>> 1) &&& 1
  let bit2 := (v8 >>> 3) &&& 1
  let bit3 := (v8 >>> 2) &&& 1
  if u.state.actBit1 ≠ bit1 ∨ src ≠ u.state.audioSrc ∨ u.state.actBit2 ≠ bit2 ∨ u.state.actBit3 ≠ bit3
  then
    let u := if v8 &&& 0x80 ≠ 0 then u.map fun s => { s with actBit3 := bit3 } else u
    let u := u.map fun s => { s with actBit2 := bit2, actBit1 := bit1, audioSrc := src }
    if u.state.audioActive ≠ 0 then u.setVolume 0 else u
  else u

/-- `audio_active` -/
def activate (u : AudioUnit) : AudioUnit :=
  if u.state.audioActive ≠ 0 then u
  else
    let u := (u.emit .codecActive).map fun s =>
      { s with audioSrc := 0, actBit2 := 0, actBit1 := 0, actBit3 := 0, muteAll := 1, mute := 0,
               gap11_0 := 0 }
    let u := (u.emit (.vsSend 0x96 [0])).map fun s => { s with audioCh := 1 }
    let u := u.emit (.armSendMulti 0x9005 [])
    let u := u.emit (.armSendMulti 0x9023 [u.audio.mtcGetSetVolume u.state.volMain])
    let u := u.map fun s => { s with audioActive := 1 }
    let u := ((u.emit .balance).emit .eq).emit (.channel u.state.audioCh)
    (u.mapAudio (Audio.setMutePin 0)).applyActiveCmd

/-- `case 0xD`: the phone. -/
def workPhone (w : AudioWork) (u : AudioUnit) : AudioUnit :=
  if w.cmd2 = u.state.chMode.setWidth 32 then u
  else if u.state.chMode ≠ 0 then
    if w.cmd2 ≠ 0 then
      ((u.map fun s => { s with chMode := w.cmd2.setWidth 8 }).setVolume 0).emit
        (.btMicControl (w.cmd2.setWidth 8))
    else (u.phoneChannel 0).emit (.carAddWork 30)
  else (u.emit (.carAddWork 29)).phoneChannel ((w.cmd2.setWidth 8).setWidth 32)

/-- The cases 0x12 and 0x13 from `LABEL_27` on. -/
def workPause (w : AudioWork) (u : AudioUnit) : AudioUnit :=
  if w.cmd2 = u.state.gap11_1.setWidth 32 then u
  else
    let pause : U8 := if w.cmd2 ≠ 0 then 1 else 0
    let u := u.map fun s => { s with gap11_1 := pause }
    if u.state.mute ≠ 0 ∨ u.state.audioActive = 0 then u
    else if pause = 1 then u.setVolume (u.state.mute.setWidth 32)
    else u.fadeIn

/-- The `switch` of `audio_work`. -/
def workSwitch (w : AudioWork) (u : AudioUnit) : AudioUnit :=
  match w.cmd1.toNat with
  | 0 => if u.state.audioActive ≠ 0 then u.enterChannel ((w.cmd2.setWidth 8).setWidth 32) true else u
  | 1 => if u.state.audioActive ≠ 0 then u.enterChannel ((w.cmd2.setWidth 8).setWidth 32) false else u
  | 2 => if u.state.audioActive ≠ 0 then u.setMute w.cmd2 else u
  | 3 =>
    let u := (u.map fun s => { s with volMain := w.cmd2.setWidth 8 }).emit
      (.armSendMulti 0x9023 [u.audio.mtcGetSetVolume (w.cmd2.setWidth 8)])
    if u.state.audioActive ≠ 0 ∧ u.state.chMode = 0 then
      (if u.state.mute ≠ 1 then u else u.setMute 0).setVolume 0
    else u
  | 4 =>
    let u := (u.map fun s => { s with volAux := w.cmd2.setWidth 8 }).emit
      (.armSendMulti 0x9022 [u.audio.mtcGetSetVolume (w.cmd2.setWidth 8)])
    if u.state.chMode ≠ 0 then (if u.state.mute = 1 then u.setMute 0 else u).setVolume 0 else u
  | 6 =>
    let u := u.map fun s => { s with actBit3 := w.cmd2.setWidth 8 }
    if u.state.audioActive ≠ 0 ∧ u.state.avGpsMonitor = 0 then u.setVolume 0 else u
  | 7 => if u.state.audioActive ≠ 0 then u.setVolume 0 else u
  | 8 => if u.state.audioActive ≠ 0 ∧ u.state.avGpsMonitor ≠ 0 then u.setVolume 0 else u
  | 0xA => u.mapAudio (Audio.workBalance w)
  | 0xB => u.mapAudio (Audio.workEq w)
  | 0xC =>
    let u := u.map fun s => { s with eq1 := w.cmd2.setWidth 8 }
    if u.state.audioActive ≠ 0 then u.emit .eq else u
  | 0xD => u.workPhone w
  | 0xE => (u.map fun s => { s with activeCmd := w.cmd2.setWidth 8 }).applyActiveCmd
  | 0xF => u.applyActiveCmd
  | 0x11 =>
    if u.state.audioActive ≠ 0 then
      let u := u.emit (if u.state.camState ≠ 0 then .taCheckBack else .taCheckStart)
      if u.state.mute = 0 then u.setVolume 0 else u
    else u
  | 0x12 => u.workPause w
  | 0x13 => if u.state.audioCh ≠ 4 then u else u.workPause w
  | 0x14 => u.activate
  | 0x15 => u.mapAudio Audio.deactivate
  | 0x16 => if u.state.ajxActive = 0 then (u.emit (.carAddWork 29)).ajxChannel 1 else u
  | 0x17 => if u.state.ajxActive ≠ 0 then (u.ajxChannel 0).emit (.carAddWork 30) else u
  | 0x18 => if u.state.chStatus = 0 then u.taChannel 1 else u
  | 0x19 => if u.state.chStatus ≠ 0 then u.taChannel 0 else u
  | 0x1A =>
    if u.state.gap11_0 ≠ 0 then
      let u := u.map fun s => { s with gap11_0 := 0, gap11_1 := 0 }
      if u.state.mute = 0 ∧ u.state.audioActive ≠ 0 then u.setVolume 0 else u
    else u
  | 0x1B =>
    (u.map fun s => { s with chSelMode := w.cmd2.setWidth 8, audioCh2 := 0xFF }).emit
      (.setbtMicControl (w.cmd2.setWidth 8 = (4 : U8)))
  | _ => u

/-- `audio_work` -/
def work (w : AudioWork) (u : AudioUnit) : AudioUnit :=
  (u.mapAudio Audio.releaseMutePin).workSwitch w

end AudioUnit

end MtcDrivers
