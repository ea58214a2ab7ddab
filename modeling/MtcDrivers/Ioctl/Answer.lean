import MtcDrivers.Ioctl.Config
import MtcDrivers.Ioctl.Dispatch

/-!
# Answers of get requests

The get half of `car_ioctl` with its answer buffer. All getters share `mtc_sta_buf` (`buf_1`, `p_buf1`
and `p_buf2` point to it), and `LABEL_30` copies its text to the user. Nothing clears it: the entry and
`LABEL_102` clear the first byte of `car_struct.buffer2`, which no answer is taken from. A getter that
writes its words to `buffer2` is therefore one that leaves the answer buffer as it is.

The formats of `sta_touch_info` and `cfg_led` are placeholders in the source, null pointers: what `sprintf`
makes of the numbers with them is not known, and is a parameter.
-/

namespace MtcDrivers

/-- The bytes of `mtc_sta_buf` from its start; all bytes behind them are zero. -/
abbrev AnswerBuf := List U8

namespace AnswerBuf

/-- `sprintf` or `strcpy` of `t` to `&buf[i]`, where `i` is not behind the end of the text. -/
def store (buf : AnswerBuf) (i : ℕ) (t : Text) : AnswerBuf :=
  buf.take i ++ t ++ 0 :: buf.drop (i + t.length + 1)

/-- Stores to `buf[0]`, `buf[1]` and `buf[8]`. -/
def overwrite (buf : AnswerBuf) (b₀ b₁ b₈ : U8) : AnswerBuf :=
  (((buf.rightpad 9 0).set 0 b₀).set 1 b₁).set 8 b₈

end AnswerBuf

/-- The words that are copied by `*p = *w`, `p[1] = w[1]` and `p[8] = w[2]`. With `char` pointers that
    moves three bytes. -/
inductive LongWord where
  | nosignal
  | recovery
deriving DecidableEq, Repr

def LongWord.store : LongWord → AnswerBuf → AnswerBuf
  | nosignal, buf => buf.overwrite 0x6E 0x6F 0x73
  | recovery, buf => buf.overwrite 0x72 0x65 0x63

/-- What a getter does to the answer buffer. -/
inductive Reply where
  /-- A text at the start. -/
  | print (t : Text)
  /-- Texts at `strlen` of the buffer, one behind the other. -/
  | append (t : Text)
  /-- Words to `buffer2`. -/
  | elsewhere
  | long (w : LongWord)
  /-- The jump to `LABEL_102`. -/
  | label102
deriving DecidableEq, Repr

namespace Reply

def store : Reply → AnswerBuf → AnswerBuf
  | print t, buf => buf.store 0 t
  | append t, buf => buf.store (cString buf).length t
  | elsewhere, buf => buf
  | long w, buf => w.store buf
  | label102, buf => buf

/-- `res` -/
def result : Reply → ℤ
  | label102 => -1
  | _ => 0

end Reply

/-! ## What the getters read -/

/-- The parts of `car_status`, `config_data`, the audio module and `car_struct` that the text of an
    answer depends on. -/
structure GetState where
  battery : U8
  staVideoSignal : U8
  uvCal : U8
  cfgMaxvolume : U8
  touchWidth : U32
  touchHeight : U32
  touchInfo1 : U8
  touchInfo2 : U8
  avGpsGain : U8
  config : ConfigData
  /-- `audio->audio_ch` -/
  audioCh : U8
  mcuVersion : Vector U8 16
  mcuDate : Vector U8 16
  mcuTime : Vector U8 16
deriving DecidableEq, Inhabited

/-- What the devices report while a request is handled, and what is printed with the two missing formats. -/
structure Peripherals where
  /-- The numbers that `dvd_get_folder` prints for a folder; none if there is no such folder. -/
  dvdGetFolder : U32 → List U32
  /-- The numbers that `dvd_get_media` prints. -/
  dvdGetMedia : U32 → List U32
  /-- The numbers that `dvd_get_media_title` prints. -/
  dvdGetMediaTitle : List U32
  foldersCount : U32
  mediaCount : U32
  folderIdx : U32
  mediaIdx : U32
  dvdLength : U32
  dvdPosition : U32
  /-- The two words that `sta_touch_adc` prints. -/
  touchAdc : U32 × U32
  /-- The result of `sta_touch_cal`. -/
  staTouchCal : List U32 → U32
  radioGetSignal : GetState → U32
  tvGetStatus : GetState → U32
  checkTvSignal : GetState → U32
  /-- `sprintf` of the two sizes and the two bytes with the format of `sta_touch_info`. -/
  printTouchInfo : U32 → U32 → U8 → U8 → Text
  /-- `sprintf` of the three bytes with the format of `cfg_led`. -/
  printLed : U8 → U8 → U8 → Text

/-! ## Printed numbers -/

/-- `%d` of an `int`. -/
def decimalInt (v : U32) : Text :=
  if v.toInt < 0 then 0x2D :: decimal v.toInt.natAbs else decimal v.toInt.natAbs

/-- Numbers with a comma between them. -/
def commaList (vs : List U32) : Text := [comma].intercalate (vs.map decimalInt)

/-- Number `k` of the `cfg_key_assign` answer (`v108`). -/
def keyAssignAt (c : ConfigData) (k : ℕ) : ℕ :=
  (c.byte (3 * k + 0x82)).toNat |||
    (((c.byte (3 * k + 0x81)).toNat ||| ((c.byte (3 * k + 0x80)).toNat <<< 8)) <<< 8)

def getKeyAssign (c : ConfigData) (buf : Text) : Text :=
  printInts strFmtDComma2 strFmtD4 ((List.range 25).map (keyAssignAt c)) buf

/-! ## The getters -/

/-- The code behind a key; the text is the one at `token_pos`. -/
abbrev Getter := GetState → Peripherals → Text → Reply

/-- `sprintf` of an `int` with `%d` at the start. -/
def printNumber (read : GetState → Peripherals → U32) : Getter :=
  fun s p _ => .print (decimalInt (read s p))

/-- `printNumber` for a `char` of the status. -/
def printStatus (read : GetState → U8) : Getter := printNumber fun s _ => (read s).setWidth 32

/-- `printNumber` for the `char` at offset `i` of the configuration. -/
def printConfig (i : ℕ) : Getter := printNumber fun s _ => (s.config.byte i).setWidth 32

/-- `printNumber` for two configuration bytes, high byte first. -/
def printConfigPair (i : ℕ) : Getter :=
  printNumber fun s _ =>
    (s.config.byte (i + 1)).setWidth 32 ||| ((s.config.byte i).setWidth 32 <<< 8)

/-- `strcpy` from offset `i` of the configuration. -/
def copyConfig (i : ℕ) : Getter := fun s _ _ => .print (cString (s.config.u8.toList.drop i))

/-- `strcpy` from byte `i` of `mcu_version` and the two arrays behind it. -/
def copyMcu (i : ℕ) : Getter := fun s _ _ =>
  .print (cString ((s.mcuVersion.toList ++ s.mcuDate.toList ++ s.mcuTime.toList).drop i))

/-- The getters of the list keys. -/
def appendList (list : ConfigData → Text → Text) : Getter := fun s _ _ => .append (list s.config [])

def elsewhere : Getter := fun _ _ _ => .elsewhere

/-- `sta_dvd_folder` and `sta_dvd_media`. -/
def getDvdEntry (read : Peripherals → U32 → List U32) : Getter := fun _ p pos =>
  let token := (getTokenInt pos).1
  if token.slt 0#32 then .label102 else .append (commaList (read p token))

def getDvdTitle : Getter := fun _ p _ => .append (commaList p.dvdGetMediaTitle)

def getTouchAdc : Getter := fun _ p _ =>
  .print (decimalInt p.touchAdc.1 ++ [comma] ++ decimalInt p.touchAdc.2)

/-- `sta_touch_cal`; one negative number among the ten is enough for `LABEL_102`. -/
def getTouchCal : Getter := fun _ p pos =>
  (readInts 10 pos).elim .label102 fun r =>
    let result := p.staTouchCal r.1
    if result = 0 then .elsewhere
    else if result = 1 then .elsewhere
    else .long .recovery

def getVideoSignal : Getter := fun s _ _ =>
  if s.staVideoSignal ≠ 0 then .elsewhere else .long .nosignal

def getTvSignal : Getter := fun s p _ =>
  let signal := p.checkTvSignal s
  if signal = 1 then .elsewhere
  else if signal = 2 then .elsewhere
  else if signal = 3 then .elsewhere
  else .long .nosignal

def getTouchInfo : Getter := fun s p _ =>
  .print (p.printTouchInfo s.touchWidth s.touchHeight s.touchInfo1 s.touchInfo2)

def getLed : Getter := fun s p _ =>
  .print (p.printLed (s.config.byte 485) (s.config.byte 486) (s.config.byte 487))

/-- `av_channel`, with a name for each of the channels `MTC_AV_CHANNEL_GSM_BT` to
    `MTC_AV_CHANNEL_DVR`. -/
def getChannel : Getter := fun s _ _ => if s.audioCh ≤ 7 then .elsewhere else .label102

/-- The comparisons of a key that starts with `sta_`. -/
def staGetters : List (Text × Getter) := [
  (ascii "sta_dvd", elsewhere),
  (ascii "sta_dvd_folder", getDvdEntry Peripherals.dvdGetFolder),
  (ascii "sta_dvd_media", getDvdEntry Peripherals.dvdGetMedia),
  (ascii "sta_dvd_folder_cnt", printNumber fun _ p => p.foldersCount),
  (ascii "sta_dvd_media_cnt", printNumber fun _ p => p.mediaCount),
  (ascii "sta_dvd_folder_idx", printNumber fun _ p => p.folderIdx),
  (ascii "sta_dvd_media_idx", printNumber fun _ p => p.mediaIdx),
  (ascii "sta_dvd_length", printNumber fun _ p => p.dvdLength),
  (ascii "sta_dvd_position", printNumber fun _ p => p.dvdPosition),
  (ascii "sta_dvd_title", getDvdTitle),
  (ascii "sta_ipod", elsewhere),
  (ascii "sta_driving", elsewhere),
  (ascii "sta_ill", elsewhere),
  (ascii "sta_dtv", elsewhere),
  (ascii "sta_battery", printStatus GetState.battery),
  (ascii "sta_touch", elsewhere),
  (ascii "sta_touch_adc", getTouchAdc),
  (ascii "sta_touch_cal", getTouchCal),
  (ascii "sta_video_signal", getVideoSignal),
  (ascii "sta_radio_signal", printNumber fun s p => p.radioGetSignal s),
  (ascii "sta_tv_status", printNumber fun s p => p.tvGetStatus s),
  (ascii "sta_tv_signal", getTvSignal),
  (ascii "sta_radio_stereo", elsewhere),
  (ascii "sta_mcu_version", copyMcu 0),
  (ascii "sta_mcu_date", copyMcu 16),
  (ascii "sta_mcu_time", copyMcu 32),
  (ascii "sta_uv_cal", printStatus GetState.uvCal),
  (ascii "sta_view", elsewhere),
  (ascii "sta_touch_info", getTouchInfo),
  (ascii "sta_wipe", elsewhere)]

/-- The comparisons of a key that starts with `cfg_`, up to the lists. -/
def cfgGetters : List (Text × Getter) := [
  (ascii "cfg_maxvolume", printStatus GetState.cfgMaxvolume),
  (ascii "cfg_customer", copyConfig 32),
  (ascii "cfg_sn", copyConfig 64),
  (ascii "cfg_model", copyConfig 48),
  (ascii "cfg_password", copyConfig 80),
  (ascii "cfg_logo1", copyConfig 96),
  (ascii "cfg_logo2", copyConfig 112),
  (ascii "cfg_canbus", printConfig 1),
  (ascii "cfg_canbus_cfg", printConfig 205),
  (ascii "cfg_atvmode", printConfig 207),
  (ascii "cfg_dtv", printConfig 2),
  (ascii "cfg_frontview", printConfig 23),
  (ascii "cfg_ipod", printConfig 3),
  (ascii "cfg_dvd", printConfig 4),
  (ascii "cfg_bt", printConfig 5),
  (ascii "cfg_radio", printConfig 6),
  (ascii "cfg_rds", printConfig 20),
  (ascii "cfg_logo_type", printConfig 24),
  (ascii "cfg_radio_area", printConfig 7),
  (ascii "cfg_launcher", printConfig 8),
  (ascii "cfg_led_type", printConfig 9),
  (ascii "cfg_rudder", printConfig 27),
  (ascii "cfg_key0", printConfig 10),
  (ascii "cfg_appdisable", printConfig 30),
  (ascii "cfg_language_selection", printConfigPair 11),
  (ascii "cfg_color", printConfigPair 480),
  (ascii "cfg_led_multi", printConfig 492),
  (ascii "cfg_wifi_pwr", printConfig 489),
  (ascii "cfg_mirror", elsewhere),
  (ascii "cfg_backlight", printConfig 483),
  (ascii "cfg_blmode", printConfig 495),
  (ascii "cfg_powerdelay", printConfig 482),
  (ascii "cfg_ill", printConfig 31),
  (ascii "cfg_beep", printConfig 484),
  (ascii "cfg_led", getLed),
  (ascii "cfg_dvr", printConfig 29),
  (ascii "cfg_wheelstudy_type", printConfig 203)]

/-- The keys of the configuration lists, and the code that prints them. -/
def lists : List (Text × (ConfigData → Text → Text)) := [
  (ascii "cfg_key_assign", getKeyAssign),
  (ascii "cfg_ir_assign", getIrAssign),
  (ascii "cfg_steer_assign", getSteerAssign),
  (ascii "cfg_config", getConfig)]

/-- The comparisons of a key that starts with `av_`. -/
def avGetters : List (Text × Getter) := [
  (ascii "av_mute", elsewhere),
  (ascii "av_channel", getChannel),
  (ascii "av_gps_monitor", elsewhere),
  (ascii "av_gps_switch", elsewhere),
  (ascii "av_gps_gain", printStatus GetState.avGpsGain)]

def getters : List (Text × Getter) :=
  staGetters ++ (cfgGetters ++ lists.map fun l => (l.1, appendList l.2)) ++ avGetters

/-- What a get request does; a key that equals none of the names goes to `LABEL_102`. -/
def answerTo (key pos : Text) (s : GetState) (p : Peripherals) : Reply :=
  (getters.lookup key).elim .label102 fun g => g s p pos

/-! ## Requests one after the other -/

/-- The state that requests see: what the getters read, and the answer buffer. -/
structure AnswerState where
  state : GetState
  /-- `mtc_sta_buf` -/
  staBuf : AnswerBuf

/-- The get half: the new state, and the text and the result that the user gets. -/
def getHalf (p : Peripherals) (key pos : Text) (d : AnswerState) : AnswerState × Text × ℤ :=
  let a := answerTo key pos d.state p
  ({ d with staBuf := a.store d.staBuf }, cString (a.store d.staBuf), a.result)

/-- A step of a history. -/
inductive IoctlStep where
  /-- A request that does not reach the get half, or anything else that changes what the getters read.
      None of it writes to the answer buffer. -/
  | set (f : GetState → GetState)
  | get (p : Peripherals) (key pos : Text)

def IoctlStep.run : IoctlStep → AnswerState → AnswerState
  | set f, d => { d with state := f d.state }
  | get p key pos, d => (getHalf p key pos d).1

/-- The state after a history; the buffer is a static array, so it starts with zeros. -/
def afterSteps (s : GetState) (steps : List IoctlStep) : AnswerState :=
  steps.foldl (fun d step => step.run d) ⟨s, []⟩

/-- The text of the last answer that a history gives, or `shown` if it has no get request. -/
def lastText (shown : Text) : AnswerState → List IoctlStep → Text
  | _, [] => shown
  | d, .set f :: steps => lastText shown (IoctlStep.run (.set f) d) steps
  | d, .get p key pos :: steps => lastText (getHalf p key pos d).2.1 (getHalf p key pos d).1 steps

/-- The get half as a part of the dispatch, for this state of the answer buffer. -/
def getHandlers (set : Text → Text → ℤ) (p : Peripherals) (d : AnswerState) : Handlers where
  set := set
  get key pos :=
    if answerTo key pos d.state p = .label102 then none else some (getHalf p key pos d).2.1
  buf := cString d.staBuf

/-! ## Answers that depend on the state only -/

/-- The answer is the request's own: a list is that of the configuration, and an unknown key gives an
    error with an empty text. -/
structure OwnAnswer (p : Peripherals) (key pos : Text) (d : AnswerState) : Prop where
  list : ∀ print, lists.lookup key = some print →
    (getHalf p key pos d).2.1 = print d.state.config []
  unknown : key ∉ readableKeys → (getHalf p key pos d).2 = ([], -1)

/-- The same request gets the same answer in both states, and in each of them its own. -/
structure NoLeak (p : Peripherals) (key pos : Text) (d₁ d₂ : AnswerState) : Prop where
  same : (getHalf p key pos d₁).2 = (getHalf p key pos d₂).2
  own₁ : OwnAnswer p key pos d₁
  own₂ : OwnAnswer p key pos d₂

/-- Bytes 2 to 7 of the buffer, up to a zero. -/
def AnswerBuf.middle (buf : AnswerBuf) : Text := cString ((buf.drop 2).take 6)

/-- The bytes that three stores to 0, 1 and 8 leave visible are the same: those up to 7, and those
    behind 8 where no zero comes before. -/
def SameRest (buf₁ buf₂ : AnswerBuf) : Prop :=
  buf₁.middle = buf₂.middle ∧
    (buf₁.middle.length = 6 → cString (buf₁.drop 9) = cString (buf₂.drop 9))

/-- What two answer buffers must have in common for the same text after this answer. -/
def Reply.Hides : Reply → AnswerBuf → AnswerBuf → Prop
  | print _, _, _ => True
  | append _, buf₁, buf₂ => cString buf₁ = cString buf₂
  | elsewhere, buf₁, buf₂ => cString buf₁ = cString buf₂
  | long _, buf₁, buf₂ => SameRest buf₁ buf₂
  | label102, buf₁, buf₂ => cString buf₁ = cString buf₂

/-- The keys that are promised an answer without any earlier text: the lists and the unknown keys. -/
def PromisesOwn (key : Text) : Prop := (lists.lookup key).isSome ∨ key ∉ readableKeys

/-- What two answer buffers must have in common before a request that is answered by `a`. -/
structure LeftoversFit (key : Text) (buf₁ buf₂ : AnswerBuf) (a : Reply) : Prop where
  empty : PromisesOwn key → cString buf₁ = [] ∧ cString buf₂ = []
  hidden : ¬ PromisesOwn key → a.Hides buf₁ buf₂

end MtcDrivers
