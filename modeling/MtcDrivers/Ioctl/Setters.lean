import Mathlib.Data.Int.Notation
import MtcDrivers.Ioctl.Config

/-!
# Set requests for the configuration

The set half of `car_ioctl` for the keys that start with `cfg_`. A parsing error leads to `LABEL_140`,
which returns -1; only `cfg_color` and `cfg_led_multi` go on to the next comparison of the key instead.
The payload pointers of some commands are placeholders in the source, so a command is recorded with its
number of bytes only. The power that `cfg_wifi_pwr` hands on and the allocation sizes of the lists are read
through such placeholders as well, null pointers: the first may be any byte, and an allocation is taken to succeed.
-/

namespace MtcDrivers

/-- What the set code does besides storing. -/
inductive SetEvent where
  | armSend (cmd : U32)
  | armSendMulti (cmd : U32) (count : ℕ)
  /-- `kmem_cache_alloc_trace`, for the array with number `p`. -/
  | alloc (p bytes : ℕ)
  | kfree (p : ℕ)
  | backlightUpdate
  | wifiPower (value : U8)
  | stwRangeCheck
deriving DecidableEq, Repr

/-- The configuration, the number of arrays allocated so far, and the events. -/
structure SetState where
  config : ConfigData
  arrays : ℕ
  log : List SetEvent

namespace ConfigData

/-- `d.cfg_color[0]` -/
def cfgColor : ℕ := 480

/-- `d.cfg_powerdelay` -/
def cfgPowerdelay : ℕ := 482

/-- `d.cfg_backlight` -/
def cfgBacklight : ℕ := 483

/-- `d.ctl_beep` -/
def ctlBeep : ℕ := 484

/-- `d.cfg_led[0]` -/
def cfgLed : ℕ := 485

/-- `d.wifi_pwr` -/
def wifiPwr : ℕ := 489

/-- `d.cfg_mirror` -/
def cfgMirror : ℕ := 491

/-- `d.cfg_led_multi` -/
def cfgLedMulti : ℕ := 492

/-- `d.cfg_blmode` -/
def cfgBlmode : ℕ := 495

end ConfigData

namespace SetState

/-- Record an event. -/
def emit (s : SetState) (e : SetEvent) : SetState := { s with log := e :: s.log }

/-- Store a byte of the configuration. -/
def put (s : SetState) (i : ℕ) (b : U8) : SetState := { s with config := s.config.put i b }

/-- Allocate an array; it gets the number `s.arrays`. -/
def alloc (bytes : ℕ) (s : SetState) : SetState :=
  { s.emit (.alloc s.arrays bytes) with arrays := s.arrays + 1 }

end SetState

/-- `LABEL_62` -/
def label62 (s : SetState) : ℤ × SetState := (0, s)

/-- `LABEL_140` -/
def label140 (s : SetState) : ℤ × SetState := (-1, s)

/-- The values of the driver around the request that the set code uses. -/
structure SetEnv where
  /-- The word behind the buffer of `cfg_steer_assign`. -/
  past : U32
  wifiCapable : Bool
  /-- `v174`, read through a placeholder -/
  v174 : U8

/-- A number that `get_token_int` has taken: it is not negative. -/
def taken (v : U32) : Bool := !v.slt 0#32

/-- A key with one number, stored in one byte and sent to the MCU. -/
def setScalar (offset : ℕ) (cmd : U32) (also : SetState → SetState) (pos : Text) (s : SetState) :
    ℤ × SetState :=
  let v := (getTokenInt pos).1
  if taken v then label62 (also ((s.put offset (v.setWidth 8)).emit (.armSendMulti cmd 1)))
  else label140 s

/-- A key with a list of numbers: they are collected in an array, which is freed on both ways. -/
def setArray (bytes count : ℕ) (store : List U32 → ConfigData → ConfigData)
    (send : SetState → SetState) (pos : Text) (s : SetState) : ℤ × SetState :=
  let p := s.arrays
  let s := s.alloc bytes
  match readInts count pos with
  | none => label140 (s.emit (.kfree p))
  | some r => label62 (send ({ s with config := store r.1 s.config }.emit (.kfree p)))

/-- `"cfg_wifi_pwr"` -/
def setWifiPwr (env : SetEnv) : Text → SetState → ℤ × SetState :=
  setScalar ConfigData.wifiPwr 0x9503 fun s =>
    if env.wifiCapable ∧ env.v174 ≠ 255 then s.emit (.wifiPower env.v174) else s

/-- `"cfg_blmode"` -/
def setBlmode : Text → SetState → ℤ × SetState :=
  setScalar ConfigData.cfgBlmode 0x950A fun s => s.emit .backlightUpdate

/-- `"cfg_powerdelay"` -/
def setPowerdelay : Text → SetState → ℤ × SetState :=
  setScalar ConfigData.cfgPowerdelay 0x950B id

/-- `"cfg_backlight"` -/
def setBacklight : Text → SetState → ℤ × SetState :=
  setScalar ConfigData.cfgBacklight 0x9502 id

/-- `"cfg_beep"` -/
def setBeep : Text → SetState → ℤ × SetState := setScalar ConfigData.ctlBeep 0x9501 id

/-- `"cfg_mirror"` -/
def setMirror (pos : Text) (s : SetState) : ℤ × SetState :=
  if pos = ascii "true" then label62 ((s.put ConfigData.cfgMirror 1).emit (.armSend 0x421))
  else if pos ≠ ascii "false" then label140 s
  else label62 ((s.put ConfigData.cfgMirror 0).emit (.armSend 0x422))

/-- `"cfg_led"` -/
def setLed (pos : Text) (s : SetState) : ℤ × SetState :=
  let led1 := getTokenInt pos
  if taken led1.1 then
    let led2 := getTokenInt led1.2
    if taken led2.1 then
      let led3 := getTokenInt led2.2
      if taken led3.1 then
        label62 ((((s.put ConfigData.cfgLed (led1.1.setWidth 8)).put (ConfigData.cfgLed + 1)
          (led2.1.setWidth 8)).put (ConfigData.cfgLed + 2) (led3.1.setWidth 8)).emit
            (.armSendMulti 0x9500 3))
      else label140 s
    else label140 s
  else label140 s

/-- `"cfg_ir_assign"` -/
def setIrAssign : Text → SetState → ℤ × SetState := setArray 0xF0 60 storeIrAssign id

/-- `"cfg_steer_assign"` -/
def setSteerAssign (env : SetEnv) : Text → SetState → ℤ × SetState :=
  setArray 0xC8 50 (fun xs => storeSteerAssign xs env.past) fun s =>
    (s.emit (.armSendMulti 0x950F 150)).emit .stwRangeCheck

/-- `"cfg_config"` -/
def setConfig : Text → SetState → ℤ × SetState :=
  setArray 0x800 512 storeConfig fun s => s.emit (.armSendMulti 0x95FE 512)

/-- The keys behind `"cfg_led_multi"`. -/
def cfgSetTail (env : SetEnv) (key pos : Text) (s : SetState) : ℤ × SetState :=
  if key = ascii "cfg_wifi_pwr" then setWifiPwr env pos s
  else if key = ascii "cfg_blmode" then setBlmode pos s
  else if key = ascii "cfg_powerdelay" then setPowerdelay pos s
  else if key = ascii "cfg_mirror" then setMirror pos s
  else if key = ascii "cfg_backlight" then setBacklight pos s
  else if key = ascii "cfg_beep" then setBeep pos s
  else if key = ascii "cfg_led" then setLed pos s
  else if key = ascii "cfg_ir_assign" then setIrAssign pos s
  else if key = ascii "cfg_steer_assign" then setSteerAssign env pos s
  else if key = ascii "cfg_config" then setConfig pos s
  else label140 s

/-- `"cfg_led_multi"`, and the keys behind it. -/
def cfgSetLedMulti (env : SetEnv) (key pos : Text) (s : SetState) : ℤ × SetState :=
  if key = ascii "cfg_led_multi" then
    let v := getTokenInt pos
    if taken v.1 then
      label62 ((s.put ConfigData.cfgLedMulti (v.1.setWidth 8)).emit (.armSendMulti 0x9508 1))
    else cfgSetTail env key v.2 s
  else cfgSetTail env key pos s

/-- The set half of `car_ioctl` for a key that starts with `cfg_`, from `"cfg_color"` on; a key of at
    most four characters is ignored. -/
def cfgSet (env : SetEnv) (key pos : Text) (s : SetState) : ℤ × SetState :=
  if key.length ≤ 4 then label62 s
  else if key = ascii "cfg_color" then
    let v := getTokenInt pos
    if taken v.1 then
      label62 (((s.put (ConfigData.cfgColor + 1) (v.1.setWidth 8)).put ConfigData.cfgColor
        ((v.1 >>> 8).setWidth 8)).emit (.armSendMulti 0x9507 2))
    else cfgSetLedMulti env key v.2 s
  else cfgSetLedMulti env key pos s

namespace SetEvent

/-- The event reaches the MCU or the hardware. -/
def isCommand : SetEvent → Bool
  | alloc _ _ | kfree _ => false
  | _ => true

end SetEvent

/-- A request has changed nothing: the configuration is the same, no command was sent, and every array
    that was allocated on the way has been freed once. -/
structure Unchanged (s s' : SetState) : Prop where
  config : s'.config = s.config
  log : ∃ new, s'.log = new ++ s.log ∧ (∀ e ∈ new, e.isCommand = false) ∧
    (∀ p bytes, .alloc p bytes ∈ new → new.count (.kfree p) = 1) ∧
    ∀ p, .kfree p ∈ new → ∃ bytes, .alloc p bytes ∈ new

end MtcDrivers
