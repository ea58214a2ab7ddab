import MtcDrivers.Audio.State

/-!
# Audio work

The cases of `audio_work`. `Audio_EnterChannel`, which the cases 0 and 1 call, is a parameter.
-/

namespace MtcDrivers

/-- `struct mtc_work`, as `audio_add_work` fills it. -/
structure AudioWork where
  cmd1 : U32
  cmd2 : U32
  cmd3 : U32
  val1 : U32
deriving DecidableEq, Repr

namespace Audio

/-- `mtcGetSetVolume`: what the MCU is sent for a volume. The `char` before the division is unsigned. -/
def mtcGetSetVolume (a1 : U8) (a : Audio) : U8 :=
  let v1 : U32 := 10000 * a1.setWidth 32
  let v4 : U32 :=
    if v1 ≤ 299999 then ((2863311532 * (v1 + 10000).setWidth 64 : BitVec 64) >>> 32).setWidth 32
    else if v1 ≤ 599999 then
      let v4 := v1 - 89088
      (v4 &&& ~~~0xFF) ||| ((v4 + 112) &&& 0xFF)
    else (50000 * a1.setWidth 32 - 950000).sshiftRight 2
  (v4 * a.cfgMaxvolume.setWidth 32).setWidth 8 / 64

/-- `Audio_SetMutePin` -/
def setMutePin (pin : U8) (a : Audio) : Audio :=
  if a.state.muteAll = pin then a
  else (a.map fun s => { s with muteAll := pin }).emit
    (.armSendMulti (if pin = 1 then 0x9007 else 0x9008) [])

/-- The messages after a change of `mute`. -/
def sendMute (a : Audio) : Audio :=
  (a.emit (.armSendMulti 0x9024 [a.state.mute])).emit (.vsSend 0x96 [a.state.mute])

/-- `Audio_Mute` -/
def setMute (mute : U32) (a : Audio) : Audio :=
  if a.state.mute.setWidth 32 = mute then a
  else if mute = 1 then ((a.emit .fadeOut).map fun s => { s with mute := 1 }).sendMute
  else ((a.map fun s => { s with mute := 0 }).sendMute).emit .fadeIn

/-- `Audio_PhoneChannel` -/
def phoneChannel (mode : U8) (a : Audio) : Audio :=
  if a.state.ajxActive ≠ 0 then
    ((a.map fun s => { s with chMode := mode }).emit
      (.armSendMulti (if mode ≠ 0 then 0x9020 else 0x9021) [])).emit (.btMicControl mode)
  else if mode ≠ 0 then
    -- `v2` is `ajx_active`, which is zero here
    let a := ((a.emit (.setVolume 60)).map fun s => { s with gap11_1 := 0, mute := 0 }).sendMute
    let a := (a.emit (.channel 8)).map fun s => { s with chMode := mode }
    ((a.emit (.btMicControl mode)).emit (.armSendMulti 0x9020 [])).emit (.setVolume 0)
  else
    let a := a.emit (.setVolume 60)
    let a := a.emit (.channel (if a.state.chStatus ≠ 0 then 4 else a.state.audioCh))
    let a := ((a.map fun s => { s with chMode := 0 }).emit (.btMicControl 0)).emit
      (.armSendMulti 0x9021 [])
    if a.state.mute ≠ 0 then a.emit (.setVolume 0) else a

/-- `Audio_AJXChannel` -/
def ajxChannel (mode : Bool) (a : Audio) : Audio :=
  if mode then
    let a := ((a.emit (.setVolume 60)).map fun s => { s with gap11_1 := 0, mute := 0 }).sendMute
    let a := (a.emit (.channel a.defaultAjxCh)).emit (.armSendMulti 0x9030 [])
    (a.map fun s => { s with ajxActive := 1 }).emit (.setVolume 0)
  else
    let a := a.emit (.setVolume 60)
    let a := a.emit (.channel
      (if a.state.chMode ≠ 0 then 8 else if a.state.chStatus ≠ 0 then 4 else a.state.audioCh))
    ((a.emit (.armSendMulti 0x9031 [])).map fun s => { s with ajxActive := 0 }).emit (.setVolume 0)

/-- `Audio_TAChannel` -/
def taChannel (mode : U8) (a : Audio) : Audio :=
  if a.state.ajxActive ≠ 0 ∨ a.state.chMode > 0 then a.map fun s => { s with chStatus := mode }
  else if mode ≠ 0 then
    if a.state.audioCh = 4 then
      (a.map fun s => { s with chStatus := mode }).emit (.setVolume a.state.chMode)
    else
      let a := ((a.emit (.setVolume 60)).map fun s => { s with gap11_1 := 0, mute := 0 }).sendMute
      ((a.emit (.channel 4)).map fun s => { s with chStatus := mode }).emit (.setVolume 0)
  else if a.state.audioCh = 4 then (a.map fun s => { s with chStatus := 0 }).emit (.setVolume 0)
  else
    let a := (a.emit (.setVolume 60)).map fun s => { s with chStatus := 0 }
    (a.emit (.channel a.state.audioCh)).emit (.setVolume 0)

/-- `LABEL_16` of `audio_work`, and the end of `audio_active`: the bits of `active_cmd`. -/
def applyActiveCmd (a : Audio) : Audio :=
  let v8 := a.state.activeCmd
  let src : U8 := if v8 &&& 3 ≠ 0 then 3 else 0
  let bit1 := (v8 >>> 1) &&& 1
  let bit2 := (v8 >>> 3) &&& 1
  let bit3 := (v8 >>> 2) &&& 1
  if a.state.actBit1 ≠ bit1 ∨ src ≠ a.state.audioSrc ∨ a.state.actBit2 ≠ bit2 ∨ a.state.actBit3 ≠ bit3
  then
    let a := if v8 &&& 0x80 ≠ 0 then a.map fun s => { s with actBit3 := bit3 } else a
    let a := a.map fun s => { s with actBit2 := bit2, actBit1 := bit1, audioSrc := src }
    if a.state.audioActive ≠ 0 then a.emit (.setVolume 0) else a
  else a

/-- `audio_active` -/
def activate (a : Audio) : Audio :=
  if a.state.audioActive ≠ 0 then a
  else
    let a := (a.emit .codecActive).map fun s =>
      { s with audioSrc := 0, actBit2 := 0, actBit1 := 0, actBit3 := 0, muteAll := 1, mute := 0,
               gap11_0 := 0 }
    let a := (a.emit (.vsSend 0x96 [0])).map fun s => { s with audioCh := 1 }
    let a := (a.emit (.armSendMulti 0x9005 [])).emit (.armSendMulti 0x9023 [a.mtcGetSetVolume a.state.volMain])
    let a := a.map fun s => { s with audioActive := 1 }
    let a := ((a.emit .balance).emit .eq).emit (.channel a.state.audioCh)
    (a.setMutePin 0).applyActiveCmd

/-- `audio_deactive` -/
def deactivate (a : Audio) : Audio :=
  if a.state.audioActive = 0 then a
  else
    let a := (a.map fun s => { s with audioActive := 0, chMode := 0 }).emit (.btMicControl 0)
    ((a.emit (.armSendMulti 0x9006 [])).map fun s => { s with muteAll := 1 }).emit .codecDeactive

/-- The lines before the `switch` of `audio_work`. -/
def releaseMutePin (a : Audio) : Audio :=
  if a.state.audioActive ≠ 0 ∧ a.state.mutePinLatch ≠ 0 then
    (a.map fun s => { s with mutePinLatch := 0 }).setMutePin 0
  else a

/-- `case 0xA`: the balance. -/
def workBalance (w : AudioWork) (a : Audio) : Audio :=
  if w.cmd2.sle 28 ∧ w.cmd3.sle 28 then
    let active := a.state.audioActive
    let a := a.map fun s => { s with balance1 := w.cmd2.setWidth 8, balance2 := w.cmd3.setWidth 8 }
    if active ≠ 0 then a.emit .balance else a
  else a

/-- `case 0xB`: the equaliser. -/
def workEq (w : AudioWork) (a : Audio) : Audio :=
  if w.cmd2.sle 20 ∧ w.cmd3.sle 20 ∧ w.val1.sle 20 then
    let active := a.state.audioActive
    let a := a.map fun s =>
      { s with eq2 := w.cmd2.setWidth 8, eq3 := w.cmd3.setWidth 8, eq4 := w.val1.setWidth 8 }
    if active ≠ 0 then a.emit .eq else a
  else a

/-- `case 0xD`: the phone. -/
def workPhone (w : AudioWork) (a : Audio) : Audio :=
  if w.cmd2 = a.state.chMode.setWidth 32 then a
  else if a.state.chMode ≠ 0 then
    if w.cmd2 ≠ 0 then
      ((a.map fun s => { s with chMode := w.cmd2.setWidth 8 }).emit (.setVolume 0)).emit
        (.btMicControl (w.cmd2.setWidth 8))
    else (a.phoneChannel 0).emit (.carAddWork 30)
  else (a.emit (.carAddWork 29)).phoneChannel (w.cmd2.setWidth 8)

/-- The cases 0x12 and 0x13 from `LABEL_27` on. -/
def workPause (w : AudioWork) (a : Audio) : Audio :=
  if w.cmd2 = a.state.gap11_1.setWidth 32 then a
  else
    let pause : U8 := if w.cmd2 ≠ 0 then 1 else 0
    let a := a.map fun s => { s with gap11_1 := pause }
    if a.state.mute ≠ 0 ∨ a.state.audioActive = 0 then a
    else if pause = 1 then a.emit (.setVolume a.state.mute)
    else a.emit .fadeIn

/-- The `switch` of `audio_work`. -/
def workSwitch (enterChannel : U8 → Bool → Audio → Audio) (w : AudioWork) (a : Audio) : Audio :=
  match w.cmd1.toNat with
  | 0 => if a.state.audioActive ≠ 0 then enterChannel (w.cmd2.setWidth 8) true a else a
  | 1 => if a.state.audioActive ≠ 0 then enterChannel (w.cmd2.setWidth 8) false a else a
  | 2 => if a.state.audioActive ≠ 0 then a.setMute w.cmd2 else a
  | 3 =>
    let a := (a.map fun s => { s with volMain := w.cmd2.setWidth 8 }).emit
      (.armSendMulti 0x9023 [a.mtcGetSetVolume (w.cmd2.setWidth 8)])
    if a.state.audioActive ≠ 0 ∧ a.state.chMode = 0 then
      (if a.state.mute ≠ 1 then a else a.setMute 0).emit (.setVolume 0)
    else a
  | 4 =>
    let a := (a.map fun s => { s with volAux := w.cmd2.setWidth 8 }).emit
      (.armSendMulti 0x9022 [a.mtcGetSetVolume (w.cmd2.setWidth 8)])
    if a.state.chMode ≠ 0 then (if a.state.mute = 1 then a.setMute 0 else a).emit (.setVolume 0) else a
  | 6 =>
    let a := a.map fun s => { s with actBit3 := w.cmd2.setWidth 8 }
    if a.state.audioActive ≠ 0 ∧ a.state.avGpsMonitor = 0 then a.emit (.setVolume 0) else a
  | 7 => if a.state.audioActive ≠ 0 then a.emit (.setVolume 0) else a
  | 8 =>
    if a.state.audioActive ≠ 0 ∧ a.state.avGpsMonitor ≠ 0 then a.emit (.setVolume 0) else a
  | 0xA => a.workBalance w
  | 0xB => a.workEq w
  | 0xC =>
    let a := a.map fun s => { s with eq1 := w.cmd2.setWidth 8 }
    if a.state.audioActive ≠ 0 then a.emit .eq else a
  | 0xD => a.workPhone w
  | 0xE => (a.map fun s => { s with activeCmd := w.cmd2.setWidth 8 }).applyActiveCmd
  | 0xF => a.applyActiveCmd
  | 0x11 =>
    if a.state.audioActive ≠ 0 then
      let a := a.emit (if a.state.camState ≠ 0 then .taCheckBack else .taCheckStart)
      if a.state.mute = 0 then a.emit (.setVolume 0) else a
    else a
  | 0x12 => a.workPause w
  | 0x13 => if a.state.audioCh ≠ 4 then a else a.workPause w
  | 0x14 => a.activate
  | 0x15 => a.deactivate
  | 0x16 => if a.state.ajxActive = 0 then (a.emit (.carAddWork 29)).ajxChannel true else a
  | 0x17 => if a.state.ajxActive ≠ 0 then (a.ajxChannel false).emit (.carAddWork 30) else a
  | 0x18 => if a.state.chStatus = 0 then a.taChannel 1 else a
  | 0x19 => if a.state.chStatus ≠ 0 then a.taChannel 0 else a
  | 0x1A =>
    if a.state.gap11_0 ≠ 0 then
      let a := a.map fun s => { s with gap11_0 := 0, gap11_1 := 0 }
      if a.state.mute = 0 ∧ a.state.audioActive ≠ 0 then a.emit (.setVolume 0) else a
    else a
  | 0x1B =>
    (a.map fun s => { s with chSelMode := w.cmd2.setWidth 8, audioCh2 := 0xFF }).emit
      (.setbtMicControl (w.cmd2.setWidth 8 = (4 : U8)))
  | _ => a

/-- `audio_work` -/
def audioWork (enterChannel : U8 → Bool → Audio → Audio) (w : AudioWork) (a : Audio) : Audio :=
  a.releaseMutePin.workSwitch enterChannel w

/-- `audio_add_work`: the items that it queues. -/
def audioAddWork (cmd1 cmd2 cmd3 val1 : U32) (a : Audio) : List AudioWork :=
  if a.audioReady ≠ 0 then [⟨cmd1, cmd2, cmd3, val1⟩] else []

end Audio

end MtcDrivers
