import MtcDrivers.Ioctl.Setters
import MtcDrivers.Run.Basic

/-!
# What the setters send

The set requests that forward a value with `arm_send_multi`, with the address each of them hands over:
a field of the configuration, or one of the `off_` names, which are defined as `((char *)0)`. The bytes
behind the address are read at the call. What this is for: the MCU keeps a copy of the configuration,
and each request brings it up to date.
-/

namespace MtcDrivers

namespace ConfigData

/-- `d.steer_data` -/
def steerData : ℕ := 328

/-- The `n` bytes from offset `off` on. -/
def slice (c : ConfigData) (off n : ℕ) : List U8 := (List.range n).map fun i => c.byte (off + i)

/-- Write the bytes from offset `off` on. -/
def overwrite (c : ConfigData) (off : ℕ) (bytes : List U8) : ConfigData :=
  ⟨Vector.ofFn fun i : Fin 512 =>
    if off ≤ i.val ∧ i.val < off + bytes.length then bytes.getD (i.val - off) 0 else c.byte i⟩

end ConfigData

/-- The payload address of an `arm_send_multi`. -/
inductive PayloadAddress where
  /-- An offset into `config_data`. -/
  | config (off : ℕ)
  /-- `((char *)0)` -/
  | null
deriving DecidableEq, Repr

/-- A call of `arm_send_multi` with the configuration at that time. -/
structure MultiCall where
  cmd : U32
  count : ℕ
  address : PayloadAddress
  config : ConfigData

/-- The bytes that the call reads; there are none behind `((char *)0)`. -/
def MultiCall.payload (m : MultiCall) : Option (List U8) :=
  match m.address with
  | .config off => some (m.config.slice off m.count)
  | .null => none

/-- The set requests that forward a value. -/
inductive ForwardKey where
  | cfgColor
  | cfgLedMulti
  | cfgWifiPwr
  | cfgBlmode
  | cfgPowerdelay
  | cfgBacklight
  | cfgBeep
  | cfgLed
  | cfgSteerAssign
  | cfgConfig
deriving DecidableEq, Repr

namespace ForwardKey

def name : ForwardKey → Text
  | cfgColor => ascii "cfg_color"
  | cfgLedMulti => ascii "cfg_led_multi"
  | cfgWifiPwr => ascii "cfg_wifi_pwr"
  | cfgBlmode => ascii "cfg_blmode"
  | cfgPowerdelay => ascii "cfg_powerdelay"
  | cfgBacklight => ascii "cfg_backlight"
  | cfgBeep => ascii "cfg_beep"
  | cfgLed => ascii "cfg_led"
  | cfgSteerAssign => ascii "cfg_steer_assign"
  | cfgConfig => ascii "cfg_config"

/-- The offset of the field. -/
def offset : ForwardKey → ℕ
  | cfgColor => ConfigData.cfgColor
  | cfgLedMulti => ConfigData.cfgLedMulti
  | cfgWifiPwr => ConfigData.wifiPwr
  | cfgBlmode => ConfigData.cfgBlmode
  | cfgPowerdelay => ConfigData.cfgPowerdelay
  | cfgBacklight => ConfigData.cfgBacklight
  | cfgBeep => ConfigData.ctlBeep
  | cfgLed => ConfigData.cfgLed
  | cfgSteerAssign => ConfigData.steerData
  | cfgConfig => 0

/-- The declared length of the field. -/
def length : ForwardKey → ℕ
  | cfgColor => 2
  | cfgLed => 3
  | cfgSteerAssign => 150
  | cfgConfig => 512
  | _ => 1

/-- How many numbers the request takes. -/
def numbers : ForwardKey → ℕ
  | cfgLed => 3
  | cfgSteerAssign => 50
  | cfgConfig => 512
  | _ => 1

/-- The keys whose setter takes the payload address from an `off_` name. -/
def usesPlaceholder : ForwardKey → Bool
  | cfgBlmode | cfgPowerdelay | cfgBacklight | cfgLed => true
  | _ => false

end ForwardKey

/-- What an accepted request does: the configuration it leaves and its call. -/
structure Forwarded where
  config : ConfigData
  call : MultiCall

/-- Store, then hand over `address`. -/
def storeAndSend (c : ConfigData) (cmd : U32) (count : ℕ) (address : PayloadAddress) : Forwarded :=
  ⟨c, ⟨cmd, count, address, c⟩⟩

/-- A key with one number in one byte. -/
def forwardScalar (off : ℕ) (cmd : U32) (address : PayloadAddress) (pos : Text) (c : ConfigData) :
    Option Forwarded :=
  let v := (getTokenInt pos).1
  if taken v then some (storeAndSend (c.put off (v.setWidth 8)) cmd 1 address) else none

/-- `"cfg_color"` -/
def forwardColor (pos : Text) (c : ConfigData) : Option Forwarded :=
  let color := (getTokenInt pos).1
  if taken color then
    let c := (c.put (ConfigData.cfgColor + 1) (color.setWidth 8)).put ConfigData.cfgColor
      ((color >>> 8).setWidth 8)
    some (storeAndSend c 0x9507 2 (.config ConfigData.cfgColor))
  else none

/-- `"cfg_led_multi"` -/
def forwardLedMulti : Text → ConfigData → Option Forwarded :=
  forwardScalar ConfigData.cfgLedMulti 0x9508 (.config ConfigData.cfgLedMulti)

/-- `"cfg_wifi_pwr"` -/
def forwardWifiPwr : Text → ConfigData → Option Forwarded :=
  forwardScalar ConfigData.wifiPwr 0x9503 (.config ConfigData.wifiPwr)

/-- `"cfg_blmode"`, with `off_C0831888`. -/
def forwardBlmode : Text → ConfigData → Option Forwarded :=
  forwardScalar ConfigData.cfgBlmode 0x950A .null

/-- `"cfg_powerdelay"`, with `off_C0831884`. -/
def forwardPowerdelay : Text → ConfigData → Option Forwarded :=
  forwardScalar ConfigData.cfgPowerdelay 0x950B .null

/-- `"cfg_backlight"`, with `off_C0831880`. -/
def forwardBacklight : Text → ConfigData → Option Forwarded :=
  forwardScalar ConfigData.cfgBacklight 0x9502 .null

/-- `"cfg_beep"` -/
def forwardBeep : Text → ConfigData → Option Forwarded :=
  forwardScalar ConfigData.ctlBeep 0x9501 (.config ConfigData.ctlBeep)

/-- `"cfg_led"`, with `off_C083187C`. -/
def forwardLed (pos : Text) (c : ConfigData) : Option Forwarded :=
  let led1 := getTokenInt pos
  if taken led1.1 then
    let led2 := getTokenInt led1.2
    if taken led2.1 then
      let led3 := getTokenInt led2.2
      if taken led3.1 then
        let c := ((c.put ConfigData.cfgLed (led1.1.setWidth 8)).put (ConfigData.cfgLed + 1)
          (led2.1.setWidth 8)).put (ConfigData.cfgLed + 2) (led3.1.setWidth 8)
        some (storeAndSend c 0x9500 3 .null)
      else none
    else none
  else none

/-- `"cfg_steer_assign"`; `past` is the word behind the parsed numbers. -/
def forwardSteerAssign (past : U32) (pos : Text) (c : ConfigData) : Option Forwarded :=
  (readInts 50 pos).map fun r =>
    storeAndSend (storeSteerAssign r.1 past c) 0x950F 150 (.config ConfigData.steerData)

/-- `"cfg_config"`, with `p_config_data_4`, which `car_ioctl` has pointed to `config_data`. -/
def forwardConfig (pos : Text) (c : ConfigData) : Option Forwarded :=
  (readInts 512 pos).map fun r => storeAndSend (storeConfig r.1 c) 0x95FE 512 (.config 0)

/-- The set half for these keys; `none` is the way to `LABEL_140`. -/
def forwardSet : ForwardKey → U32 → Text → ConfigData → Option Forwarded
  | .cfgColor, _ => forwardColor
  | .cfgLedMulti, _ => forwardLedMulti
  | .cfgWifiPwr, _ => forwardWifiPwr
  | .cfgBlmode, _ => forwardBlmode
  | .cfgPowerdelay, _ => forwardPowerdelay
  | .cfgBacklight, _ => forwardBacklight
  | .cfgBeep, _ => forwardBeep
  | .cfgLed, _ => forwardLed
  | .cfgSteerAssign, past => forwardSteerAssign past
  | .cfgConfig, _ => forwardConfig

/-! ## The two copies -/

/-- A set request: the key, the word behind its numbers, and the text behind the `=`. -/
structure SetRequest where
  key : ForwardKey
  past : U32
  pos : Text

/-- All numbers of the request are there. -/
def SetRequest.Accepted (op : SetRequest) : Prop := (readInts op.key.numbers op.pos).isSome = true

instance (op : SetRequest) : Decidable op.Accepted := inferInstanceAs (Decidable (_ = true))

/-- The configuration of the kernel and the MCU's copy of it. -/
structure Copies where
  kernel : ConfigData
  mcu : ConfigData

/-- One request. The MCU stores a payload in the field of the command; from `((char *)0)` nothing
reaches it. -/
def copyStep (s : Copies) (op : SetRequest) : Copies :=
  match forwardSet op.key op.past op.pos s.kernel with
  | none => s
  | some r => ⟨r.config, r.call.payload.elim s.mcu (s.mcu.overwrite op.key.offset)⟩

/-- The request sends the bytes that it has stored, in the length of the field. -/
structure SendsStored (k : ForwardKey) (c : ConfigData) (r : Forwarded) : Prop where
  payload : r.call.payload = some (r.config.slice k.offset k.length)
  count : r.call.count = k.length
  stored : r.config = c.overwrite k.offset (r.config.slice k.offset k.length)

/-- An accepted request sends what it has stored, and the copies are the same behind it. -/
def KeepsCopies (s : Copies) (op : SetRequest) : Prop :=
  ∀ r, forwardSet op.key op.past op.pos s.kernel = some r →
    SendsStored op.key s.kernel r ∧ (copyStep s op).mcu = (copyStep s op).kernel

end MtcDrivers
