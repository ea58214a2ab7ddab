import MtcDrivers.Audio.Announcement
import MtcDrivers.Audio.Gate
import MtcDrivers.Audio.Request

/-!
# Requests that control the other parts

The set half of `car_ioctl` behind `canbus_rsp`: the requests that start with `rpt_`, `av_` and `ctl_`, with
those of the configuration. What a request makes the other modules do is recorded, newest first. All items for
the car worker are queued without a delay and without a flush. The pointer behind the two flags of the boot and
the logo report is a placeholder in the source, a null pointer: what is read there may be anything, and what is
stored there is no part of the state. The formats of three `printk` are placeholders as well, and `printk` is left
out.
-/

namespace MtcDrivers

/-- What a request makes the other modules do. -/
inductive ControlAct where
  | armSend (cmd : U32)
  | armSendMulti (cmd : U32) (data : List U8)
  /-- An item in `audio_wq`. -/
  | audioWork (w : AudioWork)
  | audioFlushWork
  | audioChannelSwitchUnmute
  /-- An item in `car_wq`. -/
  | carWork (cmd1 cmd2 : U32)
  | captureAddWork (cmd1 cmd2 delay : U32) (flush : Bool)
  | lcdShow (str : Text)
  | dvdSendCommand (command : U32)
  | radioTA (a1 : U32)
  | radioAF (af : U32)
  | radioSetSearch (a1 : U8)
  | radioSetFrequency (freq withData : U32)
  | radioSetMute (mute : U32)
  | radioSetStereo (a1 : U32)
  | tvSetFrequency (freq : U32)
  | tvSetDemod (a1 : U32)
  | msleep (ms : ℕ)
  | kernelRestart (cmd : Text)
deriving DecidableEq

/-- What a request finds around it, with what it reads through the placeholder. -/
structure ControlEnv extends SetEnv where
  /-- `*(off_C08318AC + 0xFFFFFB75)`, where the boot is reported complete -/
  v180 : U8
  /-- `*(off_C08318AC + 0xFFFFFB74)`, where the logo is -/
  v179 : U8

structure Control where
  /-- The configuration, with what its own requests do. -/
  set : SetState
  unit : AudioUnit
  rptBootAndroid : U8
  rptBootAppinit : U8
  rptPower : U8
  keyMode : U8
  avChannelFlag1 : U8
  avGpsGain : U8
  uvCal : U8
  /-- `reserved_22[8]` -/
  reserved22_8 : U8
  decoderState : U8
  radarVal : U8
  backlightStatus : U8
  power2Flag : U8
  wipeFlag : U8
  /-- Newest first. -/
  acts : List ControlAct

namespace ConfigData

/-- `d.cfg_frontview` -/
def cfgFrontview : ℕ := 23

end ConfigData

namespace Control

def emit (s : Control) (a : ControlAct) : Control := { s with acts := a :: s.acts }

/-- `audio_add_work` -/
def audioAddWork (cmd1 cmd2 cmd3 val1 : U32) (s : Control) : Control :=
  { s with acts := (s.unit.audio.audioAddWork cmd1 cmd2 cmd3 val1).map .audioWork ++ s.acts }

/-- `car_add_work` and `car_add_work_delay` -/
def carAddWork (cmd1 cmd2 : U32) (s : Control) : Control := s.emit (.carWork cmd1 cmd2)

/-- `key_enter_mode` -/
def keyEnterMode (mode : U8) (s : Control) : Control := { s with keyMode := mode }

/-- `LABEL_62` -/
def label62 (s : Control) : ℤ × Control := (0, s)

/-- `LABEL_140` -/
def label140 (s : Control) : ℤ × Control := (-1, s)

/-- The code behind a key; the text is the one at `token_pos`. -/
abbrev Handler := Text → Control → ℤ × Control

/-- The value is compared with some words, one after the other. -/
def onWord (words : List (Text × (Control → Control))) : Handler := fun value s =>
  match words.lookup value with
  | some run => label62 (run s)
  | none => label140 s

/-- A number is taken from the value. -/
def onNumber (run : U32 → Control → Control) : Handler := fun value s =>
  let v := (getTokenInt value).1
  if taken v then label62 (run v s) else label140 s

/-! ## `rpt_` -/

/-- `"rpt_boot_complete"` and `"rpt_logo_complete"`, with the flag that was read of the other report. The flag of
    its own is stored through the placeholder. -/
def rptComplete (other : U8) : Handler := onWord [
  (ascii "true", fun s => if other ≠ 0 then s.carAddWork 37 0 else s)]

/-- `"rpt_boot_complete"` -/
def rptBootComplete (env : ControlEnv) : Handler := rptComplete env.v180

/-- `"rpt_logo_complete"` -/
def rptLogoComplete (env : ControlEnv) : Handler := rptComplete env.v179

/-- `"rpt_boot_android"` -/
def rptBootAndroidKey : Handler := fun value s =>
  let s := { s with rptBootAppinit := 0 }
  onWord [
    (ascii "true", fun s =>
      let s := s.emit (.armSend 0x204)
      { s with rptBootAndroid := 1 }.carAddWork 38 0)] value s

/-- `"rpt_boot_appinit"` -/
def rptBootAppinitKey : Handler := fun value s =>
  label62 { s with rptBootAppinit := if value = ascii "start" then 1 else 0 }

/-- `"rpt_boot_recovery"` -/
def rptBootRecovery : Handler := onWord [
  (ascii "true", fun s => (s.emit (.armSend 0x208)).keyEnterMode 3)]

/-- `"rpt_reboot"` -/
def rptReboot : Handler := onWord [(ascii "0", id)]

/-- `"rpt_power"` -/
def rptPowerKey : Handler := onWord [
  (ascii "true", id),
  (ascii "false", fun s => { s with rptPower := 0 })]

/-- `"rpt_key_mode"` -/
def rptKeyMode : Handler := onWord [
  (ascii "recovery", keyEnterMode 3),
  (ascii "assign", keyEnterMode 1),
  (ascii "normal", keyEnterMode 0),
  (ascii "steering", keyEnterMode 2)]

/-- The comparisons of a key that starts with `rpt_`. -/
def rptHandlers (env : ControlEnv) : List (Text × Handler) := [
  (ascii "rpt_boot_complete", rptBootComplete env),
  (ascii "rpt_logo_complete", rptLogoComplete env),
  (ascii "rpt_boot_android", rptBootAndroidKey),
  (ascii "rpt_boot_appinit", rptBootAppinitKey),
  (ascii "rpt_boot_recovery", rptBootRecovery),
  (ascii "rpt_reboot", rptReboot),
  (ascii "rpt_power", rptPowerKey),
  (ascii "rpt_key_mode", rptKeyMode)]

/-! ## `av_` -/

/-- What the source does for a channel that is entered or left. -/
def channelWork (cmd1 : U32) (cmd3 val1 : U32) (ch : U32) (s : Control) : Control :=
  ((s.audioAddWork cmd1 ch cmd3 val1).emit .audioFlushWork).emit .audioChannelSwitchUnmute

/-- `audio_add_work(AUDIO_WORK_CH_ENTER, av_channel, 800, AUDIO_WORK_CH_ENTER)` and what follows it. -/
def enter (ch : U32) (s : Control) : Control := s.channelWork 0 800 0 ch

/-- `audio_add_work(AUDIO_WORK_CH_EXIT, av_channel, 0, 0)` and what follows it. -/
def leave (ch : U32) (s : Control) : Control := s.channelWork 1 0 0 ch

/-- `av_channel_flag1 = 0` -/
def clearFlag1 (s : Control) : Control := { s with avChannelFlag1 := 0 }

/-- `"av_channel_enter"` -/
def avChannelEnter : Handler := onWord [
  (ascii "gsm_bt", enter 0),
  (ascii "sys", enter 1),
  (ascii "dvd", enter 2),
  (ascii "line", fun s => s.clearFlag1.enter 3),
  (ascii "fm", enter 4),
  (ascii "dtv", fun s => s.clearFlag1.enter 5),
  (ascii "dvr", fun s => s.clearFlag1.enter 7),
  (ascii "ipod", enter 6)]

/-- `"av_channel_exit"` -/
def avChannelExit : Handler := onWord [
  (ascii "gsm_bt", leave 0),
  (ascii "sys", leave 1),
  (ascii "dvd", leave 2),
  (ascii "line", leave 3),
  (ascii "dvr", leave 7),
  (ascii "fm", leave 4),
  (ascii "dtv", leave 5),
  (ascii "ipod", leave 6)]

/-- `"av_volume"` and `"av_phone_volume"` -/
def avVolumeOf (key : VolumeKey) : Handler := fun value s =>
  let r := Audio.ioctlVolume key value s.unit.audio
  (r.1, { s with acts := r.2.map .audioWork ++ s.acts })

/-- `"av_phone"` and `"av_balance"` -/
def avRequest (key : AvKey) : Handler := fun value s =>
  let r := Audio.ioctlAv key value s.unit.audio
  (r.1, { s with unit := { s.unit with audio := r.2.2 }, acts := r.2.1.map .audioWork ++ s.acts })

/-- `"av_mute"` -/
def avMute : Handler := onWord [
  (ascii "true", audioAddWork 2 1 0 0),
  (ascii "false", audioAddWork 2 0 0 0)]

/-- `"av_speech"` -/
def avSpeech : Handler := onWord [
  (ascii "in", audioAddWork 27 4 0 0),
  (ascii "out", audioAddWork 27 5 0 0)]

/-- `"av_gps_ontop"` -/
def avGpsOntop : Handler := onWord [
  (ascii "true", audioAddWork 6 1 0 0),
  (ascii "false", audioAddWork 6 0 0 0)]

/-- `"av_lud"` -/
def avLud : Handler := onWord [
  (ascii "on", audioAddWork 12 1 0 0),
  (ascii "off", audioAddWork 12 0 0 0)]

/-- `"av_eq"` -/
def avEq : Handler := fun value s =>
  let eq1 := getTokenInt value
  if taken eq1.1 then
    let eq2 := getTokenInt eq1.2
    if taken eq2.1 then
      let eq3 := getTokenInt eq2.2
      if taken eq3.1 then label62 (s.audioAddWork 11 eq1.1 eq2.1 eq3.1) else label140 s
    else label140 s
  else label140 s

/-- `av_gps_monitor` -/
def setGpsMonitor (b : U8) (s : Control) : Control :=
  { s with unit := s.unit.map fun t => { t with avGpsMonitor := b } }

/-- `"av_gps_monitor"` -/
def avGpsMonitor : Handler := onWord [
  (ascii "on", fun s =>
    if s.unit.state.avGpsMonitor ≠ 1 then (s.setGpsMonitor 1).audioAddWork 7 1 0 0 else s),
  (ascii "off", fun s =>
    if s.unit.state.avGpsMonitor ≠ 0 then (s.setGpsMonitor 0).audioAddWork 7 0 0 0 else s)]

/-- `av_gps_switch` -/
def setGpsSwitch (b : U8) (s : Control) : Control := { s with unit := { s.unit with avGpsSwitch := b } }

/-- `"av_gps_switch"` -/
def avGpsSwitch : Handler := onWord [
  (ascii "on", fun s =>
    if s.unit.avGpsSwitch ≠ 1 then (s.setGpsSwitch 1).audioAddWork 8 1 0 0 else s),
  (ascii "off", fun s =>
    if s.unit.avGpsSwitch ≠ 0 then (s.setGpsSwitch 0).audioAddWork 8 0 0 0 else s)]

/-- `"av_gps_gain"` -/
def avGpsGainKey : Handler := onNumber fun v s =>
  if s.avGpsGain.setWidth 32 ≠ v then { s with avGpsGain := v.setWidth 8 } else s

/-- `"av_active"` -/
def avActive : Handler := onNumber fun v => audioAddWork 14 v 0 0

/-- The comparisons of a key that starts with `av_`. -/
def avHandlers : List (Text × Handler) := [
  (ascii "av_channel_enter", avChannelEnter),
  (ascii "av_channel_exit", avChannelExit),
  (ascii "av_volume", avVolumeOf .avVolume),
  (ascii "av_phone_volume", avVolumeOf .avPhoneVolume),
  (ascii "av_mute", avMute),
  (ascii "av_phone", avRequest .avPhone),
  (ascii "av_speech", avSpeech),
  (ascii "av_gps_ontop", avGpsOntop),
  (ascii "av_lud", avLud),
  (ascii "av_balance", avRequest .avBalance),
  (ascii "av_eq", avEq),
  (ascii "av_gps_monitor", avGpsMonitor),
  (ascii "av_gps_switch", avGpsSwitch),
  (ascii "av_gps_gain", avGpsGainKey),
  (ascii "av_active", avActive)]

/-! ## `ctl_` -/

/-- `"ctl_uv_cal"` -/
def ctlUvCal : Handler := fun value s =>
  if s.reserved22_8 ≠ 0 ∨ s.decoderState ≠ 1 then label62 { s with uvCal := 0 }
  else
    let v178 : U32 :=
      if value = ascii "start" then 0
      else if value = ascii "ok" then 1
      else if value = ascii "cancel" then 2
      else 0
    label62 ({ s with uvCal := 1 }.emit (.captureAddWork 50 v178 0 false))

/-- `"ctl_cvbs_brightness"` -/
def ctlCvbsBrightness : Handler := fun value s =>
  let brightness := (getTokenInt value).1
  if taken brightness then label62 (s.emit (.captureAddWork 51 brightness 0 false)) else label62 s

/-- `"ctl_lcd"` -/
def ctlLcd : Handler := fun value s => label62 (s.emit (.lcdShow value))

/-- `"ctl_camera"` -/
def ctlCamera : Handler := fun value s =>
  if value = ascii "start_front" then
    let camFront : U32 := if s.set.config.byte ConfigData.cfgFrontview ≠ 0 then 1 else 0
    label62 (s.emit (.captureAddWork 52 camFront 0 false))
  else if value = ascii "start_back" then label62 (s.emit (.captureAddWork 52 0 0 false))
  else label62 (s.emit (.captureAddWork 53 0 0 false))

/-- `"ctl_capture_on"` -/
def ctlCaptureOn : Handler := onWord [
  (ascii "dvd", fun s => s.emit (.captureAddWork 48 2 0 true)),
  (ascii "line", fun s => s.emit (.captureAddWork 48 3 0 true)),
  (ascii "dvr", fun s => s.emit (.captureAddWork 48 7 0 true)),
  (ascii "dtv", fun s => s.emit (.captureAddWork 48 5 0 true))]

/-- `"ctl_capture_off"` -/
def ctlCaptureOff : Handler := onWord [
  (ascii "dvd", fun s => s.emit (.captureAddWork 49 2 0 true)),
  (ascii "line", fun s => s.emit (.captureAddWork 49 3 0 true)),
  (ascii "dtv", fun s => s.emit (.captureAddWork 49 5 0 true)),
  (ascii "dvr", fun s => s.emit (.captureAddWork 49 7 0 true))]

/-- `"ctl_radar"` -/
def ctlRadar : Handler := onWord [
  (ascii "true", fun s => s.emit (.captureAddWork 64 0 (s.radarVal.setWidth 32) false)),
  (ascii "false", id)]

/-- `"ctl_beep"` -/
def ctlBeepKey : Handler := fun value s =>
  if s.set.config.byte ConfigData.ctlBeep ≠ 0 ∧ taken (getTokenInt value).1 then
    label62 (s.emit (.armSendMulti 0x9520 [5]))
  else label140 s

/-- `"ctl_dtv_ir"`: the four numbers are not checked. -/
def ctlDtvIr : Handler := fun value s =>
  let ir0 := getTokenInt value
  let ir1 := getTokenInt ir0.2
  let ir2 := getTokenInt ir1.2
  let ir3 := getTokenInt ir2.2
  label62 (s.emit (.armSendMulti 0x9523
    [ir0.1.setWidth 8, ir1.1.setWidth 8, ir2.1.setWidth 8, ir3.1.setWidth 8]))

/-- `"ctl_dvd_cmd"` -/
def ctlDvdCmd : Handler := onNumber fun v s => s.emit (.dvdSendCommand v)

/-- `"ctl_dvd_door"` -/
def ctlDvdDoor : Handler := onWord [
  (ascii "open", fun s => s.emit (.armSend 0x101)),
  (ascii "close", fun s => s.emit (.armSend 0x102)),
  (ascii "eject", fun s => s.emit (.armSend 0x105))]

/-- `"ctl_radio_ta"` -/
def ctlRadioTa : Handler := onWord [
  (ascii "true", fun s => s.emit (.radioTA 1)),
  (ascii "false", fun s => s.emit (.radioTA 0))]

/-- `"ctl_radio_af"` -/
def ctlRadioAf : Handler := onWord [
  (ascii "true", fun s => s.emit (.radioAF 1)),
  (ascii "false", fun s => s.emit (.radioAF 0))]

/-- `"ctl_radio_search"` -/
def ctlRadioSearch : Handler := fun value s =>
  label62 (s.emit (.radioSetSearch (if value = ascii "true" then 1 else 0)))

/-- `"ctl_radio_frequency"` -/
def ctlRadioFrequency : Handler := onNumber fun v s => s.emit (.radioSetFrequency v 0)

/-- `"ctl_radio_sfrequency"` -/
def ctlRadioSfrequency : Handler := onNumber fun v s => s.emit (.radioSetFrequency v 1)

/-- `"ctl_soft_mute"` -/
def ctlSoftMute : Handler := onWord [
  (ascii "true", audioAddWork 18 1 0 0),
  (ascii "false", audioAddWork 18 0 0 0)]

/-- `"ctl_radio_mute"`: muting goes to the audio module first, unmuting last. -/
def ctlRadioMute : Handler := onWord [
  (ascii "true", fun s => (s.audioAddWork 19 1 0 0).emit (.radioSetMute 1)),
  (ascii "false", fun s => (s.emit (.radioSetMute 0)).audioAddWork 19 0 0 0)]

/-- `"ctl_radio_stereo"` -/
def ctlRadioStereo : Handler := onWord [
  (ascii "true", fun s => s.emit (.radioSetStereo 1)),
  (ascii "false", fun s => s.emit (.radioSetStereo 0))]

/-- `backview_vol` -/
def setBackviewVol (b : U8) (s : Control) : Control := { s with unit := { s.unit with backviewVol := b } }

/-- `"ctl_backview_vol"` -/
def ctlBackviewVol : Handler := onNumber fun v => setBackviewVol (v.setWidth 8)

/-- `"ctl_backview_mute"` -/
def ctlBackviewMute : Handler := onWord [
  (ascii "false", setBackviewVol 11),
  (ascii "true", setBackviewVol 0)]

/-- `"ctl_tv_frequency"` -/
def ctlTvFrequency : Handler := onNumber fun v s => s.emit (.tvSetFrequency v)

/-- `"ctl_tv_demod"`: the comparison with 7 is one of `int`s. -/
def ctlTvDemod : Handler := onNumber fun v s =>
  if (v - 1).sle 7 then
    ({ s with avChannelFlag1 := v.setWidth 8 }.emit (.captureAddWork 61 0 0 true)).emit (.tvSetDemod v)
  else s

/-- `"screenbrightness"` of `"ctl_key"` -/
def screenBrightness (s : Control) : Control :=
  if s.backlightStatus ≠ 0 then s.carAddWork 36 0 else s.carAddWork 35 0

/-- `"ctl_key"` -/
def ctlKey : Handler := onWord [
  (ascii "power", fun s => s.emit (.armSendMulti 0x9527 [])),
  (ascii "power2", fun s => { s.emit (.armSendMulti 0x9529 []) with power2Flag := 1 }),
  (ascii "eject", fun s => s.emit (.armSendMulti 0x9528 [])),
  (ascii "screenbrightness", screenBrightness),
  (ascii "parrot_updata", carAddWork 74 1),
  (ascii "parrot_normal", carAddWork 74 0)]

/-- `"ctl_power"` -/
def ctlPower : Handler := onWord [(ascii "on", id), (ascii "off", id)]

/-- `"ctl_reset"` -/
def ctlReset : Handler := onWord [
  (ascii "0", fun s => (s.emit (.armSendMulti 0xA123 [])).emit (.msleep 100)),
  (ascii "1", fun s =>
    if s.wipeFlag &&& 0x40 ≠ 0 then
      (s.emit (.armSendMulti 0xA124 [])).emit (.kernelRestart (ascii "recovery"))
    else (s.emit (.armSendMulti 0xA123 [])).emit (.msleep 100))]

/-- The comparisons of a key that starts with `ctl_`. -/
def ctlHandlers : List (Text × Handler) := [
  (ascii "ctl_uv_cal", ctlUvCal),
  (ascii "ctl_cvbs_brightness", ctlCvbsBrightness),
  (ascii "ctl_lcd", ctlLcd),
  (ascii "ctl_camera", ctlCamera),
  (ascii "ctl_capture_on", ctlCaptureOn),
  (ascii "ctl_capture_off", ctlCaptureOff),
  (ascii "ctl_radar", ctlRadar),
  (ascii "ctl_beep", ctlBeepKey),
  (ascii "ctl_dtv_ir", ctlDtvIr),
  (ascii "ctl_dvd_cmd", ctlDvdCmd),
  (ascii "ctl_dvd_door", ctlDvdDoor),
  (ascii "ctl_radio_ta", ctlRadioTa),
  (ascii "ctl_radio_af", ctlRadioAf),
  (ascii "ctl_radio_search", ctlRadioSearch),
  (ascii "ctl_radio_frequency", ctlRadioFrequency),
  (ascii "ctl_radio_sfrequency", ctlRadioSfrequency),
  (ascii "ctl_soft_mute", ctlSoftMute),
  (ascii "ctl_radio_mute", ctlRadioMute),
  (ascii "ctl_radio_stereo", ctlRadioStereo),
  (ascii "ctl_backview_vol", ctlBackviewVol),
  (ascii "ctl_backview_mute", ctlBackviewMute),
  (ascii "ctl_tv_frequency", ctlTvFrequency),
  (ascii "ctl_tv_demod", ctlTvDemod),
  (ascii "ctl_key", ctlKey),
  (ascii "ctl_power", ctlPower),
  (ascii "ctl_reset", ctlReset)]

/-! ## The set half -/

/-- The comparisons of one prefix; a key that equals none of them goes to `LABEL_140`. -/
def compareKeys (handlers : List (Text × Handler)) (key : Text) : Handler := fun value s =>
  match handlers.lookup key with
  | some run => run value s
  | none => label140 s

/-- The requests of the configuration. -/
def cfgRequest (env : SetEnv) (key : Text) : Handler := fun value s =>
  let r := cfgSet env key value s.set
  (r.1, { s with set := r.2 })

/-- The set half of `car_ioctl` behind `"canbus_rsp"`. -/
def setRequest (env : ControlEnv) (key : Text) : Handler := fun value s =>
  if key.length ≤ 4 then label62 s
  else if key.head? = some 0x63 then
    if key.take 4 = ascii "cfg_" then cfgRequest env.toSetEnv key value s
    else if key.take 4 = ascii "ctl_" then compareKeys ctlHandlers key value s
    else label62 s
  else if key.head? = some 0x61 then
    if key.take 3 = ascii "av_" then compareKeys avHandlers key value s else label62 s
  else if key.take 4 = ascii "rpt_" then compareKeys (rptHandlers env) key value s
  else label62 s

end Control

/-! ## Which requests are accepted

The keys of the set half with the values that each of them takes, and what a request leaves that is not
accepted. -/

namespace Control

/-- The values that a key takes. -/
inductive ValueForm where
  | anything
  | words (ws : List Text)
  /-- At least so many numbers. -/
  | numbers (n : ℕ)
  /-- A number up to 100. -/
  | volume
  /-- A number, as long as the beep is configured. -/
  | beep
deriving DecidableEq

def ValueForm.Matches (value : Text) (s : Control) : ValueForm → Prop
  | anything => True
  | words ws => value ∈ ws
  | numbers n => (readInts n value).isSome = true
  | volume => (readInts 1 value).isSome = true ∧ (getTokenInt value).1.sle 100
  | beep => (readInts 1 value).isSome = true ∧ s.set.config.byte ConfigData.ctlBeep ≠ 0

instance (value : Text) (s : Control) (f : ValueForm) : Decidable (f.Matches value s) :=
  match f with
  | .anything => instDecidableTrue
  | .words ws => decidable_of_iff (ws.contains value = true) List.contains_iff_mem
  | .numbers n => inferInstanceAs (Decidable ((readInts n value).isSome = true))
  | .volume => inferInstanceAs (Decidable (_ ∧ _))
  | .beep => inferInstanceAs (Decidable (_ ∧ _))

def wordForm (ws : List String) : ValueForm := .words (ws.map ascii)

def rptForms : List (Text × ValueForm) := [
  (ascii "rpt_boot_complete", wordForm ["true"]),
  (ascii "rpt_logo_complete", wordForm ["true"]),
  (ascii "rpt_boot_android", wordForm ["true"]),
  (ascii "rpt_boot_appinit", .anything),
  (ascii "rpt_boot_recovery", wordForm ["true"]),
  (ascii "rpt_reboot", wordForm ["0"]),
  (ascii "rpt_power", wordForm ["true", "false"]),
  (ascii "rpt_key_mode", wordForm ["recovery", "assign", "normal", "steering"])]

def avForms : List (Text × ValueForm) := [
  (ascii "av_channel_enter", wordForm ["gsm_bt", "sys", "dvd", "line", "fm", "dtv", "dvr", "ipod"]),
  (ascii "av_channel_exit", wordForm ["gsm_bt", "sys", "dvd", "line", "dvr", "fm", "dtv", "ipod"]),
  (ascii "av_volume", .volume),
  (ascii "av_phone_volume", .volume),
  (ascii "av_mute", wordForm ["true", "false"]),
  (ascii "av_phone", wordForm ["in", "out", "hangup", "answer"]),
  (ascii "av_speech", wordForm ["in", "out"]),
  (ascii "av_gps_ontop", wordForm ["true", "false"]),
  (ascii "av_lud", wordForm ["on", "off"]),
  (ascii "av_balance", .numbers 2),
  (ascii "av_eq", .numbers 3),
  (ascii "av_gps_monitor", wordForm ["on", "off"]),
  (ascii "av_gps_switch", wordForm ["on", "off"]),
  (ascii "av_gps_gain", .numbers 1),
  (ascii "av_active", .numbers 1)]

def ctlForms : List (Text × ValueForm) := [
  (ascii "ctl_uv_cal", .anything),
  (ascii "ctl_cvbs_brightness", .anything),
  (ascii "ctl_lcd", .anything),
  (ascii "ctl_camera", .anything),
  (ascii "ctl_capture_on", wordForm ["dvd", "line", "dvr", "dtv"]),
  (ascii "ctl_capture_off", wordForm ["dvd", "line", "dtv", "dvr"]),
  (ascii "ctl_radar", wordForm ["true", "false"]),
  (ascii "ctl_beep", .beep),
  (ascii "ctl_dtv_ir", .anything),
  (ascii "ctl_dvd_cmd", .numbers 1),
  (ascii "ctl_dvd_door", wordForm ["open", "close", "eject"]),
  (ascii "ctl_radio_ta", wordForm ["true", "false"]),
  (ascii "ctl_radio_af", wordForm ["true", "false"]),
  (ascii "ctl_radio_search", .anything),
  (ascii "ctl_radio_frequency", .numbers 1),
  (ascii "ctl_radio_sfrequency", .numbers 1),
  (ascii "ctl_soft_mute", wordForm ["true", "false"]),
  (ascii "ctl_radio_mute", wordForm ["true", "false"]),
  (ascii "ctl_radio_stereo", wordForm ["true", "false"]),
  (ascii "ctl_backview_vol", .numbers 1),
  (ascii "ctl_backview_mute", wordForm ["false", "true"]),
  (ascii "ctl_tv_frequency", .numbers 1),
  (ascii "ctl_tv_demod", .numbers 1),
  (ascii "ctl_key",
    wordForm ["power", "power2", "eject", "screenbrightness", "parrot_updata", "parrot_normal"]),
  (ascii "ctl_power", wordForm ["on", "off"]),
  (ascii "ctl_reset", wordForm ["0", "1"])]

def cfgForms : List (Text × ValueForm) := [
  (ascii "cfg_color", .numbers 1),
  (ascii "cfg_led_multi", .numbers 1),
  (ascii "cfg_wifi_pwr", .numbers 1),
  (ascii "cfg_blmode", .numbers 1),
  (ascii "cfg_powerdelay", .numbers 1),
  (ascii "cfg_mirror", wordForm ["true", "false"]),
  (ascii "cfg_backlight", .numbers 1),
  (ascii "cfg_beep", .numbers 1),
  (ascii "cfg_led", .numbers 3),
  (ascii "cfg_ir_assign", .numbers 60),
  (ascii "cfg_steer_assign", .numbers 50),
  (ascii "cfg_config", .numbers 512)]

/-- The forms of the keys with the prefix of this key. A key of at most four characters is passed over like one
    without a prefix. -/
def prefixForms (key : Text) : Option (List (Text × ValueForm)) :=
  if key.length ≤ 4 then none
  else if key.take 4 = ascii "cfg_" then some cfgForms
  else if key.take 4 = ascii "ctl_" then some ctlForms
  else if key.take 3 = ascii "av_" then some avForms
  else if key.take 4 = ascii "rpt_" then some rptForms
  else none

/-- The key is known, and takes the value. -/
def Accepted (key value : Text) (s : Control) : Prop :=
  ∃ forms f, prefixForms key = some forms ∧ forms.lookup key = some f ∧ f.Matches value s

/-- The state that a rejected request leaves beside its configuration. -/
def clearedBy (key : Text) (s : Control) : Control :=
  if key = ascii "rpt_boot_android" then { s with rptBootAppinit := 0 } else s

/-- A request of a history, with what the configuration code finds around it. -/
structure Request where
  env : ControlEnv
  key : Text
  value : Text

/-- The state after a request. -/
def request (s : Control) (r : Request) : Control := (setRequest r.env r.key r.value s).2

end Control

end MtcDrivers
