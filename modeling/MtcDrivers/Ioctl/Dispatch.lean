import Mathlib.Data.Int.Notation
import MtcDrivers.Ioctl.Text

/-!
# Dispatch of requests

How `car_ioctl` finds out what a request wants: the special request numbers, the length check, the key
in front of the last `=`, and the read flag. What the two halves do with a key is a parameter
(`Handlers`), and so is the text that is in the answer buffer before.
-/

namespace MtcDrivers

/-- What a call of `car_ioctl` does. -/
inductive IoctlEvent where
  /-- `*(int *)arg = 0` -/
  | clearUser
  /-- `arm_send_multi(cmd, count, ...)` with data from the user. -/
  | upload (cmd : U32) (count : ℕ)
  /-- The length check fails. -/
  | tooLong
  /-- The text has no `=`. -/
  | noKey
  | setHalf (key value : Text)
  | getHalf (key value : Text)
  | copyToUser (text : Text)
deriving DecidableEq, Repr

/-- The code behind the keys. -/
structure Handlers where
  /-- The result of a set request. -/
  set : Text → Text → ℤ
  /-- The answer of a getter; `none` where it jumps to `LABEL_102`. -/
  get : Text → Text → Option Text
  /-- What is in the answer buffer. -/
  buf : Text

/-- The text before the last `c` and the text behind it. -/
def splitAtLast (c : U8) (t : Text) : Option (Text × Text) :=
  if c ∈ t then
    some (((t.reverse.dropWhile (· ≠ c)).drop 1).reverse, (t.reverse.takeWhile (· ≠ c)).reverse)
  else none

/-- `'='` -/
def equalSign : U8 := 0x3D

/-- The `sta_` keys that the get half compares with. -/
def staKeys : List Text := [
  "sta_dvd", "sta_dvd_folder", "sta_dvd_media", "sta_dvd_folder_cnt", "sta_dvd_media_cnt",
  "sta_dvd_folder_idx", "sta_dvd_media_idx", "sta_dvd_length", "sta_dvd_position", "sta_dvd_title",
  "sta_ipod", "sta_driving", "sta_ill", "sta_dtv", "sta_battery", "sta_touch", "sta_touch_adc",
  "sta_touch_cal", "sta_video_signal", "sta_radio_signal", "sta_tv_status", "sta_tv_signal",
  "sta_radio_stereo", "sta_mcu_version", "sta_mcu_date", "sta_mcu_time", "sta_uv_cal", "sta_view",
  "sta_touch_info", "sta_wipe"].map ascii

/-- The `cfg_` keys that the get half compares with. -/
def cfgKeys : List Text := [
  "cfg_maxvolume", "cfg_customer", "cfg_sn", "cfg_model", "cfg_password", "cfg_logo1", "cfg_logo2",
  "cfg_canbus", "cfg_canbus_cfg", "cfg_atvmode", "cfg_dtv", "cfg_frontview", "cfg_ipod", "cfg_dvd",
  "cfg_bt", "cfg_radio", "cfg_rds", "cfg_logo_type", "cfg_radio_area", "cfg_launcher",
  "cfg_led_type", "cfg_rudder", "cfg_key0", "cfg_appdisable", "cfg_language_selection", "cfg_color",
  "cfg_led_multi", "cfg_wifi_pwr", "cfg_mirror", "cfg_backlight", "cfg_blmode", "cfg_powerdelay",
  "cfg_ill", "cfg_beep", "cfg_led", "cfg_dvr", "cfg_wheelstudy_type", "cfg_key_assign",
  "cfg_ir_assign", "cfg_steer_assign", "cfg_config"].map ascii

/-- The `av_` keys that the get half compares with. -/
def avKeys : List Text :=
  ["av_mute", "av_channel", "av_gps_monitor", "av_gps_switch", "av_gps_gain"].map ascii

def readableKeys : List Text := staKeys ++ cfgKeys ++ avKeys

/-- The set half; its exits are `LABEL_62` and `LABEL_140`. -/
def ioctlSet (h : Handlers) (key value : Text) : List IoctlEvent × ℤ :=
  ([.setHalf key value], h.set key value)

/-- The get half. All its ways lead to `LABEL_30`, where the answer buffer is copied to the user. -/
def ioctlGet (h : Handlers) (key value : Text) : List IoctlEvent × ℤ :=
  match (if key ∈ readableKeys then h.get key value else none) with
  | some answer => ([.getHalf key value, .copyToUser answer], 0)
  | none => ([.getHalf key value, .copyToUser h.buf], -1)

/-- `car_ioctl`, for a request number and the bytes behind the user's pointer. The allocations of the
    special requests are assumed to succeed. -/
def carIoctl (h : Handlers) (cmd : U32) (user : List U8) : List IoctlEvent × ℤ :=
  if cmd = 119 then ([.clearUser], 0)
  else if cmd = 0xFE010000 then
    ([.upload 0xA000 (((user.getD 1 0).toNat ||| ((user.getD 0 0).toNat <<< 8)) + 2)], 0)
  else if cmd = 0xFD020000 then ([.upload 0x95FE 512], 0)
  else if cmd = 0xFC030000 then ([.upload 0x95FD 72], 0)
  else if cmd ≥ 3072 then ([.tooLong], -1)
  else
    match splitAtLast equalSign (cString (user.take cmd.toNat)) with
    | none => ([.noKey], -1)
    | some (key, value) =>
      if cmd &&& 0x10000 = 0 then ioctlSet h key value else ioctlGet h key value

/-- The request number has the read flag. -/
def ReadFlag (cmd : U32) : Prop := cmd &&& 0x10000 ≠ 0

/-- The user's text has a `=`, and a readable key in front of the last one. -/
def NamesReadable (user : List U8) : Prop :=
  ∃ key value, splitAtLast equalSign (cString user) = some (key, value) ∧ key ∈ readableKeys

instance (cmd : U32) : Decidable (ReadFlag cmd) := inferInstanceAs (Decidable (_ ≠ _))

/-- The request reaches the half of `car_ioctl` that its number asks for. -/
structure Dispatched (h : Handlers) (cmd : U32) (user : List U8) : Prop where
  get : ReadFlag cmd → NamesReadable user →
    ∃ key value answer, (carIoctl h cmd user).1 = [.getHalf key value, .copyToUser answer]
  set : ¬ ReadFlag cmd → cmd < 3072 → ∃ key value, (carIoctl h cmd user).1 = [.setHalf key value]
  notTooLong : ReadFlag cmd → .tooLong ∉ (carIoctl h cmd user).1

/-- A request with the read flag is one of the two special numbers that have its bit, and its text
    asks for nothing; a short request without the flag is not number 119 and has a `=` in the bytes
    that are copied. -/
def DispatchFits (cmd : U32) (user : List U8) : Prop :=
  if ReadFlag cmd then (cmd = 0xFE010000 ∨ cmd = 0xFC030000) ∧ ¬ NamesReadable user
  else cmd < 3072 → cmd ≠ 119 ∧ equalSign ∈ cString (user.take cmd.toNat)

end MtcDrivers
