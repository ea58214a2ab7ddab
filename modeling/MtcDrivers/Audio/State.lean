import MtcDrivers.Car.State

/-!
# The state of the audio module

`mtc_audio_struct`, and the fields of `mtc_car_status` that decide about the channels. What the module
sends is recorded in a log; the register bytes behind a volume, a channel, the balance and the equaliser
are not part of the state and are not computed.
-/

namespace MtcDrivers

/-- What the audio code does to the outside. -/
inductive AudioEvent where
  | armSendMulti (cmd : U32) (data : List U8)
  /-- `vs_send(2, cmd, data, ...)` -/
  | vsSend (cmd : U8) (data : List U8)
  /-- `Audio_SetVolume` -/
  | setVolume (volume : U8)
  /-- `Audio_Channel` -/
  | channel (ch : U8)
  /-- `Audio_Balance` -/
  | balance
  /-- `Audio_Eq` -/
  | eq
  | fadeIn
  | fadeOut
  /-- The microphone pin, set by `btMicControl` for this `ch_mode` or by `SetbtMicControl`. -/
  | btMicControl (chMode : U8)
  | setbtMicControl (val : Bool)
  | carAddWork (cmd : U32)
  | codecActive
  | codecDeactive
  | taCheckStart
  | taCheckBack
  | backlightOff
deriving DecidableEq, Repr

/-- The fields of `struct mtc_audio_struct`, and `ch_mode` to `cam_state` of `car_status`. -/
structure AudioState where
  audioCh : U8
  volMain : U8
  volAux : U8
  audioCh2 : U8
  /-- `gap11[0]` -/
  gap11_0 : U8
  /-- `gap11[1]` -/
  gap11_1 : U8
  mute : U8
  muteAll : U8
  audioSrc : U8
  actBit1 : U8
  actBit3 : U8
  actBit2 : U8
  eq1 : U8
  eq2 : U8
  eq3 : U8
  eq4 : U8
  balance1 : U8
  balance2 : U8
  audioActive : U8
  mutePinLatch : U8
  activeCmd : U8
  chSelMode : U8
  /-- `car_status.ch_mode`, the phone mode. -/
  chMode : U8
  ajxActive : U8
  chStatus : U8
  avGpsMonitor : U8
  camState : U8
deriving DecidableEq, Inhabited

/-- The audio state with the events so far, and what does not change while audio work runs. -/
structure Audio where
  state : AudioState
  log : List AudioEvent
  /-- `car_status.audio_ready` -/
  audioReady : U8
  powerRefcnt : U8
  /-- `config_data.d.default_ajx_ch` -/
  defaultAjxCh : U8
  /-- `car_status.cfg_maxvolume` -/
  cfgMaxvolume : U8
deriving Inhabited

namespace Audio

/-- Record an event. -/
def emit (a : Audio) (e : AudioEvent) : Audio := { a with log := e :: a.log }

/-- Change the state. -/
def map (a : Audio) (f : AudioState → AudioState) : Audio := { a with state := f a.state }

@[simp] theorem emit_state (a : Audio) (e : AudioEvent) : (a.emit e).state = a.state := rfl

@[simp] theorem map_state (a : Audio) (f : AudioState → AudioState) :
    (a.map f).state = f a.state := rfl

end Audio

end MtcDrivers
