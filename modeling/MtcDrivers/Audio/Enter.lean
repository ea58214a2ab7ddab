import MtcDrivers.Audio.Unit

/-!
# Entering and leaving a channel

`Audio_EnterChannel`, with the three copies of its code that switches the sources. The channels are
`MTC_AV_CHANNEL`: 0 is the GSM module, 1 the system, 2 DVD, 3 the line input, 4 the radio and 5 DTV.
-/

namespace MtcDrivers

namespace AudioUnit

/-- Record that a source is switched. -/
def switched (u : AudioUnit) (src : Source) (on : Bool) : AudioUnit :=
  { u with sources := (src, on) :: u.sources }

/-- `Radio_Power`: it sends nothing if `radio.power` is the argument. -/
def radioPower (on : Bool) (u : AudioUnit) : AudioUnit :=
  let power : U32 := if on then 1 else 0
  if power = u.tuner.power then u
  else { u with tuner := u.tuner.radioPower power }.switched .fm on

/-- `arm_send_multi(MTC_CMD_TV_ON, 0, 0)` and `MTC_CMD_TV_OFF`. -/
def tvPower (on : Bool) (u : AudioUnit) : AudioUnit :=
  (u.emit (.armSendMulti (if on then 0x9400 else 0x9401) [])).switched .dtv on

/-- `dvd_power` -/
def dvdPower (on : Bool) (u : AudioUnit) : AudioUnit := u.switched .dvd on

/-- `audio->audio_ch = set_ch` -/
def setChannel (ch : U32) (u : AudioUnit) : AudioUnit := u.map fun s => { s with audioCh := ch.setWidth 8 }

/-- `MTC_AV_CHANNEL_SYS` -/
def channelSys : U32 := 1

/-- `MTC_AV_CHANNEL_DVD` -/
def channelDvd : U32 := 2

/-- `MTC_AV_CHANNEL_LINE` -/
def channelLine : U32 := 3

/-- `MTC_AV_CHANNEL_FM` -/
def channelFm : U32 := 4

/-- `MTC_AV_CHANNEL_DTV` -/
def channelDtv : U32 := 5

/-! ## `ch_sel_mode` 4 -/

/-- The channel 0 in `ch_sel_mode` 4. -/
def enterSecond (mode : Bool) (u : AudioUnit) : AudioUnit :=
  let u := (u.fadeOut.map fun s => { s with mute := 0 }).sendMute
  let u := u.map fun s => { s with audioCh2 := if mode then 0 else s.audioCh }
  (u.emit (.channel u.state.audioCh2)).setVolume 0

/-- Leaving a channel in `ch_sel_mode` 4. -/
def leaveSelected (setCh : U32) (u : AudioUnit) : AudioUnit :=
  let audioCh := u.state.audioCh.setWidth 32
  if audioCh ≠ setCh then u
  else if audioCh = channelFm then (u.radioPower false).setChannel channelSys
  else if audioCh = channelDtv then (u.tvPower false).setChannel channelSys
  else if audioCh = channelDvd then u.dvdPower false
  else u.setChannel channelSys

/-- The old channel `audioCh` is switched off and the new one recorded, except that DVD is not replaced. -/
def replaceChannel (audioCh setCh : U32) (u : AudioUnit) : AudioUnit :=
  if audioCh = channelFm then (u.radioPower false).setChannel setCh
  else if audioCh = channelDtv then (u.tvPower false).setChannel setCh
  else if audioCh ≠ channelDvd then u.setChannel setCh
  else u.dvdPower false

/-- Entering a channel in `ch_sel_mode` 4. -/
def enterSelected (setCh : U32) (u : AudioUnit) : AudioUnit :=
  let audioCh := u.state.audioCh.setWidth 32
  if audioCh = setCh then u
  else if setCh = channelFm then (u.radioPower true).replaceChannel audioCh setCh
  else if setCh = channelDtv then (u.tvPower true).replaceChannel audioCh setCh
  else if setCh = channelDvd then u.dvdPower true
  else u.replaceChannel audioCh setCh

/-- The `ch_sel_mode == 4` block of `Audio_EnterChannel`. -/
def enterChannelSelected (setCh : U32) (mode : Bool) (u : AudioUnit) : AudioUnit :=
  if setCh = 0 then u.enterSecond mode
  else if mode then u.enterSelected setCh
  else u.leaveSelected setCh

/-! ## The other modes -/

/-- `bt == 2 || bt == 6 || bt == 7` with the channels 0 and 1. -/
def enterSimple (setCh : U32) (u : AudioUnit) : AudioUnit :=
  ((u.map fun s =>
    { s with audioCh := setCh.setWidth 8, gap11_1 := 0, mute := 0, gap11_0 := 0 }).sendMute).setVolume 0

/-- The switch between the channels 0 and 1. -/
def isSimple (audioCh setCh : U32) (u : AudioUnit) : Bool :=
  u.bt267 && (if setCh = channelSys then audioCh = 0 else setCh = 0 && audioCh = channelSys)

/-- The power of the new channel behind `LABEL_17`. -/
def powerOn (setCh : U32) (u : AudioUnit) : AudioUnit :=
  if setCh = channelFm then u.radioPower true
  else if setCh = channelDtv then u.tvPower true
  else if setCh = channelDvd then u.dvdPower true
  else u

/-- `v8`, `v9` and `v10` of `Audio_EnterChannel`: the pin is muted, and how it is unmuted. -/
def mutePlan (audioCh setCh : U32) (u : AudioUnit) : Bool × Bool × Bool :=
  let hit := u.tuner.radio.cfgRadio = 2 || u.tuner.radio.cfgRadio = 4
  if setCh ≠ channelDtv && (setCh ≠ channelFm || hit) then
    if audioCh ≠ channelFm || hit then (false, false, false) else (true, true, false)
  else (true, false, true)

/-- The end of `Audio_EnterChannel`: the power of the old channel and the mute pin. -/
def powerOff (audioCh : U32) (v8 v10 : Bool) (u : AudioUnit) : AudioUnit :=
  let unmute (b : Bool) (u : AudioUnit) : AudioUnit := if b then u.mapAudio (Audio.setMutePin 0) else u
  if audioCh = channelFm then unmute v8 (u.radioPower false)
  else if audioCh = channelDtv then unmute v8 (u.tvPower false)
  else if audioCh ≠ channelDvd then unmute v8 u
  else (unmute v10 u).dvdPower false

/-- The new value of `gap11[0]` and `gap11[1]`. -/
def pendingUnmute (setCh : U32) : U8 :=
  if setCh = channelDvd ∨ ¬ (setCh - 4 ≥ 1) ∨ setCh - 4 = 1 then 1 else 0

/-- `Audio_EnterChannel` between `LABEL_11` and `LABEL_17`. -/
def fadeAndMute (audioCh setCh : U32) (u : AudioUnit) : AudioUnit :=
  let u := if audioCh = channelDvd then { u with dvdCommands := 0x30003 :: u.dvdCommands } else u
  let u := u.fadeOut
  if (u.mutePlan audioCh setCh).1 then u.mapAudio (Audio.setMutePin 1) else u

/-- The new channel is shown. -/
def showChannel (setCh : U32) (mode : Bool) (u : AudioUnit) : AudioUnit :=
  let u := if mode then (u.map fun s => { s with mute := 0 }).sendMute else u
  let u := (u.setChannel setCh).emit (.channel (setCh.setWidth 8))
  let u := { u with captureWork := (0x2E, u.state.audioCh.setWidth 32) :: u.captureWork }
  let u := u.map fun s => { s with gap11_1 := pendingUnmute setCh, gap11_0 := pendingUnmute setCh }
  if u.state.mute = 0 then u.setVolume 0 else u

/-- `LABEL_11` of `Audio_EnterChannel`. -/
def enterNormal (audioCh setCh : U32) (mode : Bool) (u : AudioUnit) : AudioUnit :=
  let plan := u.mutePlan audioCh setCh
  ((((u.fadeAndMute audioCh setCh).powerOn setCh).showChannel setCh mode).powerOff audioCh plan.1 plan.2.2)

/-- The phone, AJX or a traffic announcement has the sound. -/
def busy (u : AudioUnit) : Bool := u.state.chMode ≠ 0 || u.state.ajxActive ≠ 0 || u.state.chStatus ≠ 0

/-- A change of the channel from `audioCh` to `setCh`. -/
def changeChannel (audioCh setCh : U32) (mode : Bool) (u : AudioUnit) : AudioUnit :=
  if u.busy then u.replaceChannel audioCh setCh
  else if u.isSimple audioCh setCh then u.enterSimple setCh
  else u.enterNormal audioCh setCh mode

/-- The `if (mode)` block of `Audio_EnterChannel` where the channel is the current one: the system is
    unmuted, and only the line input goes on. -/
def enterAgain (u : AudioUnit) : AudioUnit :=
  let audioCh := u.state.audioCh.setWidth 32
  if audioCh = channelSys then if u.state.mute ≠ 1 then u else u.setMute 0
  else if audioCh = channelLine then u.changeChannel audioCh audioCh true
  else u

/-- `Audio_EnterChannel` -/
def enterChannel (setCh : U32) (mode : Bool) (u : AudioUnit) : AudioUnit :=
  let audioCh := u.state.audioCh.setWidth 32
  if u.state.chSelMode = 4 then u.enterChannelSelected setCh mode
  else if mode then
    if audioCh = setCh then u.enterAgain else u.changeChannel audioCh setCh true
  else if audioCh ≠ setCh ∨ audioCh = channelSys then u
  else u.changeChannel audioCh channelSys false

/-! ## The mute pin -/

/-- `MTC_CMD_MUTE_ALL` and `MTC_CMD_UNMUTE_ALL`, the two messages of `Audio_SetMutePin`. -/
def pinEvent : AudioEvent → Option Bool
  | .armSendMulti cmd _ => if cmd = 0x9007 then some true else if cmd = 0x9008 then some false else none
  | _ => none

/-- What was sent to the pin, newest first: `true` mutes. -/
def pinLog (u : AudioUnit) : List Bool := u.audio.log.filterMap pinEvent

/-- From `u` to `v` every muting of the pin is followed by an unmuting, and the pin is not left muted. -/
structure PinLifted (u v : AudioUnit) : Prop where
  muteAll : v.state.muteAll ≠ 1
  lifted : ∃ sent, v.pinLog = sent ++ u.pinLog ∧
    ∀ later earlier, sent = later ++ true :: earlier → false ∈ later

end AudioUnit

end MtcDrivers
