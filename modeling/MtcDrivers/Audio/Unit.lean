import MtcDrivers.Audio.Work
import MtcDrivers.Radio.Tuner

/-!
# The audio module with its volume frames

The audio state together with what the channel code also reads and does: the configuration behind a
volume, the frames that `Func_set_volume` sends, and the power of the sources. What a routine does to the
`Audio` part is that of the audio work.
-/

namespace MtcDrivers

/-- The sources that are powered by the channel code. -/
inductive Source where
  | fm
  | dtv
  | dvd
deriving DecidableEq, Repr

structure AudioUnit where
  audio : Audio
  tuner : Tuner
  cfgBt : U8
  mtcCustomer : U8
  backviewVol : U8
  avGpsSwitch : U8
  /-- The frames of `Func_set_volume`, newest first. -/
  frames : List (U8 × U8)
  /-- The sources switched on (`true`) and off, newest first. -/
  sources : List (Source × Bool)
  /-- The items of `capture_add_work` (`cmd1`, `cmd2`), newest first. -/
  captureWork : List (U32 × U32)
  /-- The commands of `dvd_send_command`, newest first. -/
  dvdCommands : List U32
deriving Inhabited

namespace AudioUnit

/-- `car_struct.audio` and the fields of `car_status` next to it. -/
def state (u : AudioUnit) : AudioState := u.audio.state

/-- Change the `Audio` part. -/
def mapAudio (u : AudioUnit) (f : Audio → Audio) : AudioUnit := { u with audio := f u.audio }

/-- Change the state. -/
def map (u : AudioUnit) (f : AudioState → AudioState) : AudioUnit := u.mapAudio fun a => a.map f

/-- Record an event. -/
def emit (u : AudioUnit) (e : AudioEvent) : AudioUnit := u.mapAudio fun a => a.emit e

/-! ## Volume -/

/-- The Bluetooth modules 2, 6 and 7. -/
def bt267 (u : AudioUnit) : Bool := u.cfgBt = 2 || u.cfgBt = 6 || u.cfgBt = 7

/-- `60 * (vol + 1) / 0x64 & 0xFF` -/
def scale (vol : U8) : U32 := 60 * (vol.setWidth 32 + 1) / 0x64 &&& 0xFF

/-- The channel `v1` of `Audio_SetVolume`. -/
def shownChannel (s : AudioState) : U8 :=
  if s.chSelMode = 4 then if s.audioCh2 = 255 then s.audioCh else s.audioCh2 else s.audioCh

/-- The levels `v2` and `v3` of `Audio_SetVolume` at `LABEL_91`: the system channel. -/
def systemLevels (s : AudioState) : U32 × U32 :=
  if s.audioSrc = 3 then if s.volMain ≠ 0 then (0, scale s.volMain + 8) else (0, 0) else (0, 0)

/-- The levels of the other channels, in front of `LABEL_55`. -/
def sourceLevels (u : AudioUnit) : U32 × U32 :=
  let s := u.state
  let v12 := scale s.volMain
  let v3 : U32 :=
    if s.gap11_1 = 1 ∨ s.gap11_0 = 1 ∨ s.actBit2 ≠ 0 then 0
    else if s.avGpsMonitor ≠ 0 then
      if s.actBit1 ≠ 0 then if u.avGpsSwitch = 0 then if v12 ≤ 0xB then 0 else v12 - 12 else 0
      else v12
    else if s.actBit3 ≠ 0 then 0
    else v12
  if s.chStatus ≠ 0 then
    let v3 : U32 := if s.gap11_1 = 1 then 0 else if s.gap11_0 = 1 then 0 else v12
    if s.audioSrc ≠ 3 then (0, v3)
    else if s.volMain ≠ 0 then if v12 > 3 then (v12 - 4, v3) else (0, v3)
    else (0, v3)
  else if s.audioSrc ≠ 3 then (0, v3)
  else if s.volMain ≠ 0 then (v12 + 8, v3)
  else (0, v3)

/-- `LABEL_55`: the levels while the camera is shown. -/
def cameraLevels (u : AudioUnit) (v : U32 × U32) : U32 × U32 :=
  if u.state.camState ≠ 0 then
    if u.backviewVol > 0xA then (0, 0)
    else
      let v13 : U32 := 11 - u.backviewVol.setWidth 32
      (v13 * v.1 / 0xB, v13 * v.2 / 0xB)
  else v

/-- The levels in a phone call. -/
def phoneLevels (u : AudioUnit) : U32 × U32 :=
  let s := u.state
  let v9 := scale s.volAux
  let v2 : U32 := if s.audioSrc = 3 then if s.volAux ≠ 0 then v9 + 8 else 0 else 0
  if u.cfgBt ≠ 2 then if u.cfgBt.setWidth 32 - 6 ≤ (1 : U32) then (v2, 0) else (0, v9)
  else if s.chMode = 1 then (v2, 0)
  else if s.chMode.setWidth 32 - 2 ≤ (1 : U32) then (0, v9)
  else (v2, v9)

/-- The levels `v2` and `v3` of `Audio_SetVolume`; `v3` is 0 where it goes to `LABEL_41`. -/
def levels (u : AudioUnit) : U32 × U32 :=
  let s := u.state
  if s.ajxActive ≠ 0 then (0, scale s.volMain)
  else if s.chMode ≠ 0 then u.phoneLevels
  else if s.chStatus = 0 ∧ (shownChannel s = 1 ∨ shownChannel s = 0 ∧ u.bt267) then
    u.cameraLevels (systemLevels s)
  else u.cameraLevels u.sourceLevels

/-- The register value of a level. -/
def register (v : U32) : U8 := if v ≠ 0 then (-67 - v).setWidth 8 else 0xFF

/-- The bytes `v14` and `v15` that `Audio_SetVolume` sends for a fade step. -/
def volumeFrame (u : AudioUnit) (volume : U32) : U8 × U8 :=
  if volume = 60 then (0xFF, 0xFF)
  else
    let v6 := (register u.levels.2).setWidth 32 + volume
    let v14 : U8 := if v6 > 0xCF then 0xFF else v6.setWidth 8
    if volume = 0 then (v14, register u.levels.1) else (v14, 0xFF)

/-- `Audio_SetVolume` without the entry in the log of the audio part. -/
def sendVolume (volume : U32) (u : AudioUnit) : AudioUnit :=
  if volume > 60 then u
  else if u.state.mute ≠ 1 then { u with frames := u.volumeFrame volume :: u.frames }
  else u

/-- The result of `Audio_SetVolume`. -/
def volumeResult (volume : U32) : U32 := if volume > 60 then 1 else volume

/-- `Audio_SetVolume` -/
def setVolume (volume : U32) (u : AudioUnit) : AudioUnit :=
  (u.sendVolume volume).emit (.setVolume (volume.setWidth 8))

/-! ## Fading -/

/-- `isAudioEnable` -/
def isAudioEnable (u : AudioUnit) : Bool :=
  let s := u.state
  if s.mute = 1 then false
  else if s.ajxActive ≠ 0 ∨ s.chStatus ≠ 0 then s.volMain ≠ 0
  else if s.chMode ≠ 0 then if s.volAux ≠ 0 then true else s.audioSrc ≤ 3
  else if s.audioCh = 1 then if s.volMain ≠ 0 then s.audioSrc ≤ 3 else false
  else if s.audioCh ≠ 0 then if s.volMain ≠ 0 then true else s.audioSrc ≤ 3
  else if u.bt267 then if s.volMain ≠ 0 then s.audioSrc ≤ 3 else false
  else if s.volMain ≠ 0 then true
  else s.audioSrc ≤ 3

/-- `MTC_CUSTOMER_AM` -/
def customerAm : U8 := 8

/-- The loop of `Audio_FadeIn`. -/
def fadeInSteps (u : AudioUnit) : AudioUnit :=
  [60, 55, 50, 45, 40, 35, 30, 25, 20, 15, 10, 5, 0].foldl (fun u volume => u.sendVolume volume) u

/-- `Audio_FadeIn` -/
def fadeIn (u : AudioUnit) : AudioUnit :=
  (if u.isAudioEnable then
    if u.mtcCustomer = customerAm then u.sendVolume 0 else u.fadeInSteps
  else u).emit .fadeIn

/-- The loop of `Audio_FadeOut`, which ends at the first result that is not zero. -/
def fadeOutSteps : List U32 → AudioUnit → AudioUnit
  | [], u => u
  | volume :: rest, u =>
    if volumeResult volume ≠ 0 then u.sendVolume volume else fadeOutSteps rest (u.sendVolume volume)

/-- `Audio_FadeOut` -/
def fadeOut (u : AudioUnit) : AudioUnit :=
  (if u.state.muteAll ≠ 1 then
    if u.mtcCustomer = customerAm then u.sendVolume 60
    else fadeOutSteps [0, 5, 10, 15, 20, 25, 30, 35, 40, 45, 50, 55, 60] u
  else u).emit .fadeOut

/-- The messages after a change of `mute`. -/
def sendMute (u : AudioUnit) : AudioUnit := u.mapAudio Audio.sendMute

/-- `Audio_Mute` -/
def setMute (mute : U32) (u : AudioUnit) : AudioUnit :=
  if u.state.mute.setWidth 32 = mute then u
  else if mute = 1 then (u.fadeOut.map fun s => { s with mute := 1 }).sendMute
  else ((u.map fun s => { s with mute := 0 }).sendMute).fadeIn

/-! ## Phone, AJX and traffic -/

/-- The beginning of a switch to the phone, AJX or traffic: silence, and `mute` is cleared. -/
def silence (u : AudioUnit) : AudioUnit :=
  ((u.setVolume 60).map fun s => { s with gap11_1 := 0, mute := 0 }).sendMute

/-- `Audio_PhoneChannel(0)` outside AJX, up to its last test of `mute`. -/
def hangUp (u : AudioUnit) : AudioUnit :=
  let u := u.setVolume 60
  let u := u.emit (.channel (if u.state.chStatus ≠ 0 then 4 else u.state.audioCh))
  ((u.map fun s => { s with chMode := 0 }).emit (.btMicControl 0)).emit (.armSendMulti 0x9021 [])

/-- `Audio_PhoneChannel` -/
def phoneChannel (mode : U32) (u : AudioUnit) : AudioUnit :=
  if u.state.ajxActive ≠ 0 then
    ((u.map fun s => { s with chMode := mode.setWidth 8 }).emit
      (.armSendMulti (if mode ≠ 0 then 0x9020 else 0x9021) [])).emit (.btMicControl (mode.setWidth 8))
  else if mode ≠ 0 then
    -- `v2` is `ajx_active`, which is zero here
    let u := (u.silence.emit (.channel 8)).map fun s => { s with chMode := mode.setWidth 8 }
    ((u.emit (.btMicControl (mode.setWidth 8))).emit (.armSendMulti 0x9020 [])).setVolume 0
  else if u.hangUp.state.mute ≠ 0 then u.hangUp.setVolume 0
  else u.hangUp

/-- `Audio_AJXChannel` -/
def ajxChannel (mode : U32) (u : AudioUnit) : AudioUnit :=
  if mode ≠ 0 then
    let u := (u.silence.emit (.channel u.audio.defaultAjxCh)).emit (.armSendMulti 0x9030 [])
    (u.map fun s => { s with ajxActive := 1 }).setVolume 0
  else
    let u := u.setVolume 60
    let u := u.emit (.channel
      (if u.state.chMode ≠ 0 then 8 else if u.state.chStatus ≠ 0 then 4 else u.state.audioCh))
    ((u.emit (.armSendMulti 0x9031 [])).map fun s => { s with ajxActive := 0 }).setVolume 0

/-- `Audio_TAChannel` -/
def taChannel (mode : U32) (u : AudioUnit) : AudioUnit :=
  if u.state.ajxActive ≠ 0 ∨ u.state.chMode > 0 then
    u.map fun s => { s with chStatus := mode.setWidth 8 }
  else if mode ≠ 0 then
    if u.state.audioCh = 4 then
      (u.map fun s => { s with chStatus := mode.setWidth 8 }).setVolume (u.state.chMode.setWidth 32)
    else
      ((u.silence.emit (.channel 4)).map fun s => { s with chStatus := mode.setWidth 8 }).setVolume 0
  else if u.state.audioCh = 4 then (u.map fun s => { s with chStatus := 0 }).setVolume 0
  else
    let u := (u.setVolume 60).map fun s => { s with chStatus := 0 }
    (u.emit (.channel u.state.audioCh)).setVolume 0

end AudioUnit

end MtcDrivers
