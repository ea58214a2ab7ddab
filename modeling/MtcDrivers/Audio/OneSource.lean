import MtcDrivers.Run.Basic
import MtcDrivers.Audio.Enter

/-!
# One powered source

The calls of `Audio_EnterChannel` in any order, and what the power of the sources has to do with the
channel.
-/

namespace MtcDrivers

/-- The channel of a source. -/
def Source.channel : Source → U8
  | .fm => 4
  | .dtv => 5
  | .dvd => 2

/-- The channel, the switches of the sources, the tuner and what `Audio_EnterChannel` asks first. -/
structure PowerView where
  audioCh : U8
  /-- The sources switched on (`true`) and off, newest first. -/
  sources : List (Source × Bool)
  tuner : Tuner
  /-- `ch_sel_mode == 4` -/
  selected : Bool
  chMode : U8
  ajxActive : U8
  chStatus : U8

namespace PowerView

/-- The phone, AJX or a traffic announcement has the sound. -/
def busy (v : PowerView) : Bool := v.chMode ≠ 0 || v.ajxActive ≠ 0 || v.chStatus ≠ 0

/-- The source is switched on, and not off since. -/
def Powered (v : PowerView) (src : Source) : Prop := v.sources.find? (fun e => e.1 = src) = some (src, true)

instance (v : PowerView) (src : Source) : Decidable (v.Powered src) := by
  unfold Powered
  infer_instance

/-- The source that was switched on last. -/
def lastOn (v : PowerView) : Option Source := (v.sources.find? (fun e => e.2)).map fun e => e.1

/-- The phone, AJX and traffic states in which `Audio_EnterChannel` only powers sources off. -/
def onlyOff (v : PowerView) : Bool := !v.selected && v.busy

/-- A source is powered only on its channel, and on the channel of a source that source is powered and
    the last one switched on, except in the states in which sources are only powered off. -/
structure OnePowered (v : PowerView) : Prop where
  channel : ∀ src, v.Powered src → v.audioCh = src.channel
  source : v.onlyOff = false → ∀ src, v.audioCh = src.channel → v.Powered src ∧ v.lastOn = some src

/-! The part of `Audio_EnterChannel` that a `PowerView` shows. -/

def switch (src : Source) (on : Bool) (v : PowerView) : PowerView :=
  { v with sources := (src, on) :: v.sources }

def setChannel (ch : U8) (v : PowerView) : PowerView := { v with audioCh := ch }

/-- `Radio_Power` -/
def radioPower (on : Bool) (v : PowerView) : PowerView :=
  let power : U32 := if on then 1 else 0
  if power = v.tuner.power then v else { v.switch .fm on with tuner := v.tuner.radioPower power }

/-- The power of the new channel. -/
def powerOn (ch : U8) (v : PowerView) : PowerView :=
  if ch = 4 then v.radioPower true
  else if ch = 5 then v.switch .dtv true
  else if ch = 2 then v.switch .dvd true
  else v

/-- The power of the old channel. -/
def powerOff (ch : U8) (v : PowerView) : PowerView :=
  if ch = 4 then v.radioPower false
  else if ch = 5 then v.switch .dtv false
  else if ch = 2 then v.switch .dvd false
  else v

/-- The old channel is switched off; it is recorded as left, except if it was DVD. -/
def replace (old ch : U8) (v : PowerView) : PowerView :=
  if old = 2 then v.powerOff old else (v.powerOff old).setChannel ch

/-- The new channel is switched on and recorded, and the old one switched off. -/
def exchange (old ch : U8) (v : PowerView) : PowerView := ((v.powerOn ch).setChannel ch).powerOff old

end PowerView

namespace AudioUnit

/-- What the power of the sources depends on. -/
def power (u : AudioUnit) : PowerView where
  audioCh := u.state.audioCh
  sources := u.sources
  tuner := u.tuner
  selected := u.state.chSelMode = 4
  chMode := u.state.chMode
  ajxActive := u.state.ajxActive
  chStatus := u.state.chStatus

/-- The unit as the rest of the driver has left it, with the channel and the power of the sources of `u`. -/
def carry (u between : AudioUnit) : AudioUnit :=
  { between.map fun s => { s with audioCh := u.state.audioCh } with
      tuner := { between.tuner with power := u.tuner.power }
      sources := u.sources }

end AudioUnit

/-- A call of `Audio_EnterChannel`, which takes the channel from the low byte of a work item. -/
structure ChannelCall where
  /-- The unit before the call, its channel and the power of the sources aside. -/
  between : AudioUnit
  setCh : U8
  mode : Bool

namespace ChannelCall

/-- The state in which the call is made. -/
def before (u : AudioUnit) (call : ChannelCall) : AudioUnit := u.carry call.between

/-- One call. -/
def next (u : AudioUnit) (call : ChannelCall) : AudioUnit :=
  (before u call).enterChannel (call.setCh.setWidth 32) call.mode

/-- The unit at the beginning: the system channel, and every source off. -/
def start : AudioUnit := (default : AudioUnit).map fun s => { s with audioCh := 1 }

/-- The call leaves the channel and the sources as they are. -/
def stays (selected : Bool) (audioCh setCh : U8) (mode : Bool) : Bool :=
  if selected then setCh = 0 || (if mode then audioCh = setCh else audioCh ≠ setCh)
  else if mode then audioCh = setCh && audioCh ≠ 3
  else audioCh ≠ setCh || audioCh = 1

/-- The channel that a call changes to. -/
def target (setCh : U8) (mode : Bool) : U8 := if mode then setCh else 1

/-- `Audio_EnterChannel`, as far as a `PowerView` shows it. -/
def enter (setCh : U8) (mode : Bool) (v : PowerView) : PowerView :=
  if stays v.selected v.audioCh setCh mode then v
  else if v.selected then
    if mode && setCh = 2 then v.switch .dvd true
    else (if mode then v.powerOn setCh else v).replace v.audioCh (target setCh mode)
  else if v.busy then v.replace v.audioCh (target setCh mode)
  else v.exchange v.audioCh (target setCh mode)

/-- A call that stays does not find the channel of a source that is off, but for the phone, AJX and
    traffic states. One that changes the channel does not find the tuner on at the channel of the radio,
    and with `ch_sel_mode` 4 it neither leaves nor enters DVD. -/
def KeepsPower (setCh : U8) (mode : Bool) (v : PowerView) : Prop :=
  if stays v.selected v.audioCh setCh mode then
    v.onlyOff = false → ∀ src, v.audioCh = src.channel → v.Powered src
  else
    ¬ (v.audioCh = 4 ∧ v.Powered .fm) ∧ (v.selected = true → v.audioCh ≠ 2 ∧ setCh ≠ 2)

/-- The call keeps one powered source. -/
def Meets (u : AudioUnit) (call : ChannelCall) : Prop := KeepsPower call.setCh call.mode (before u call).power

end ChannelCall

end MtcDrivers
