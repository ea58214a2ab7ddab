import Mathlib.Algebra.Group.Nat.Defs
import MtcDrivers.Ioctl.Answer
import MtcDrivers.Ioctl.Control
import MtcDrivers.Ioctl.Tokens
import MtcDrivers.Run.Basic

/-!
# The settings of the configuration

The keys of the configuration whose getter prints a number. What is printed was stored by the requests for the
same key or by those for `cfg_config`. The byte of `cfg_atvmode` is left out: the first number of `cfg_ir_assign`
is stored over it. So is `cfg_led`, whose format is a placeholder.
-/

namespace MtcDrivers

/-- A key, and the offsets of the bytes of its number, the high byte first. -/
structure Setting where
  key : Text
  place : List ℕ
deriving DecidableEq

namespace Setting

/-- The settings with a set request of their own. -/
def stored : List Setting := [
  ⟨ascii "cfg_color", [480, 481]⟩,
  ⟨ascii "cfg_led_multi", [492]⟩,
  ⟨ascii "cfg_wifi_pwr", [489]⟩,
  ⟨ascii "cfg_backlight", [483]⟩,
  ⟨ascii "cfg_blmode", [495]⟩,
  ⟨ascii "cfg_powerdelay", [482]⟩,
  ⟨ascii "cfg_beep", [484]⟩]

/-- The settings that come with the configuration. -/
def fixed : List Setting := [
  ⟨ascii "cfg_canbus", [1]⟩,
  ⟨ascii "cfg_canbus_cfg", [205]⟩,
  ⟨ascii "cfg_dtv", [2]⟩,
  ⟨ascii "cfg_frontview", [23]⟩,
  ⟨ascii "cfg_ipod", [3]⟩,
  ⟨ascii "cfg_dvd", [4]⟩,
  ⟨ascii "cfg_bt", [5]⟩,
  ⟨ascii "cfg_radio", [6]⟩,
  ⟨ascii "cfg_rds", [20]⟩,
  ⟨ascii "cfg_logo_type", [24]⟩,
  ⟨ascii "cfg_radio_area", [7]⟩,
  ⟨ascii "cfg_launcher", [8]⟩,
  ⟨ascii "cfg_led_type", [9]⟩,
  ⟨ascii "cfg_rudder", [27]⟩,
  ⟨ascii "cfg_key0", [10]⟩,
  ⟨ascii "cfg_appdisable", [30]⟩,
  ⟨ascii "cfg_language_selection", [11, 12]⟩,
  ⟨ascii "cfg_ill", [31]⟩,
  ⟨ascii "cfg_dvr", [29]⟩,
  ⟨ascii "cfg_wheelstudy_type", [203]⟩]

/-- A number of some bytes, high byte first. -/
def join (bytes : List U8) : ℕ := bytes.foldl (fun n b => n * 256 + b.toNat) 0

/-- The number of a setting, where `byte` are the bytes of the configuration. -/
def number (k : Setting) (byte : ℕ → U8) : ℕ := join (k.place.map byte)

/-- The number that a request gives to a setting, if it gives it any: a request for `cfg_config` brings all bytes
    of the configuration, and one for the key of the setting, if there is one, a number that is cut to its bytes. -/
def written (k : Setting) (r : Control.Request) : Option ℕ :=
  if r.key = ascii "cfg_config" then
    (readInts 512 r.value).map fun t => k.number fun i => (elem t.1 i).setWidth 8
  else if r.key = k.key ∧ k ∈ stored then
    let v := (getTokenInt r.value).1
    if taken v then some (v.toNat % 256 ^ k.place.length) else none
  else none

end Setting

end MtcDrivers
