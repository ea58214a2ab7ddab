import MtcDrivers.Camera.State

/-!
# The video decoders

The T132B and the ADV7181D, `camera_start`, `camera_stop` and `capture_check_work`. What the decoder
answers comes from outside: a reading is `none` if the transfer fails.
-/

namespace MtcDrivers

/-- What the decoder answers while the camera starts. -/
structure StartInput where
  /-- `v13` in `camera_start`, after the reading of register 17. -/
  v13 : U8
  /-- The reading of `check_np_adv7181d`. -/
  adv : Option U8
  /-- `v7` and `v8` in `T132B_CVBS_Auto`, for each poll before the 200 ms have passed. -/
  polls : List (U8 × U8)
  /-- The two bytes of the report of `camera_start`, where it leaves them as they are. -/
  v14 : U8
  v15 : U8

/-- The readings of `check_np`. -/
structure NpInput where
  v6 : Option U8
  v7 : Option U8

namespace Camera

/-- The page writes for one standard, and the reset of the decoder after them. -/
def writePages (set : PageSet) (s : Camera) : Camera :=
  { (s.emit (.pageWrite 0x40 set)).emit (.pageWrite 0x44 set) with page := some set }

def resetDecoder (s : Camera) : Camera :=
  (s.emit (.i2cWrite 0x44 63 1)).emit (.i2cWrite 0x44 63 0)

/-- The NTSC set of the customer; `MTC_CUSTOMER_YZ_RM_ZT` is 1. -/
def ntscSet (s : Camera) : PageSet := if s.mtcCustomer = 1 then .ntscYz else .ntsc

/-- `T132B_UV_Set` -/
def t132bUvSet (s : Camera) : Camera :=
  let s := { s with uValue := s.uvOffU + 112, vValue := s.uvOffV - 124 }
  (s.emit (.i2cWrite 0x40 12 s.uValue)).emit (.i2cWrite 0x40 10 s.vValue)

/-- The `while` loop of `T132B_CVBS_Auto`; it ends with the last poll at the timeout. -/
def cvbsPoll : List (U8 × U8) → U8 → U8 → Camera → U8 × Camera
  | [], _, _, s => (1, s)
  | (v7, v8) :: polls, sigCnt, palCnt, s =>
    let sigCnt := if v7 &&& 7 = 1 then sigCnt + 1 else 0
    if v7 &&& 7 = 1 ∧ sigCnt = 5 then (v7 &&& 7, s)
    else
      let palCnt := if v8 &&& 4 ≠ 0 then palCnt + 1 else 0
      if v8 &&& 4 ≠ 0 ∧ palCnt = 4 then
        (2, ({ s with cvbsAuto := 1 }.writePages .pal).resetDecoder)
      else cvbsPoll polls sigCnt palCnt s

/-- `T132B_CVBS_Auto` -/
def t132bCvbsAuto (polls : List (U8 × U8)) (s : Camera) : U8 × Camera :=
  let s := { s with cvbsAuto := 0 }.writePages s.ntscSet
  cvbsPoll polls 0 0 ((s.emit (.i2cWrite 0x44 129 11)).resetDecoder)

/-- `T132B_Init` -/
def t132bInit (type : U8) (polls : List (U8 × U8)) (s : Camera) : U8 × Camera :=
  let s := s.emit (.writeTable .t132bInit)
  if type = 1 then
    if s.decoderState ≠ 0 then
      (4, ({ s.emit (.pageWrite 0x40 .yuv) with page := some .yuv } : Camera).t132bUvSet)
    else (4, { s.emit (.pageWrite 0x40 .rgb) with page := some .rgb })
  else t132bCvbsAuto polls s

/-- `check_np` -/
def checkNp (np : NpInput) (sig : U8) (s : Camera) : U8 × Camera :=
  match np.v6, np.v7 with
  | some v6, some v7 =>
    if v6 &&& 1 = 0 then
      if v7 &&& 4 ≠ 0 then
        (2, if sig ≤ 1 then ({ s with cvbsAuto := 1 }.writePages .pal).resetDecoder else s)
      else
        (1, if sig = 2 ∨ sig = 0 then ({ s with cvbsAuto := 0 }.writePages s.ntscSet).resetDecoder else s)
    else (0, s)
  | _, _ => (0, s)

/-- `check_np_adv7181d`; the second result is `*changed`. -/
def checkNpAdv7181d (adv : Option U8) (a2 : Bool) (s : Camera) : U8 × Bool × Camera :=
  match adv with
  | none => (0, false, s)
  | some v7 =>
    let result := v7 &&& 0x15
    if result = 5 then (2, a2 && s.decoderType ≠ 3, { s with decoderType := 3 })
    else if result = 1 then (1, a2 && s.decoderType ≠ 2, { s with decoderType := 2 })
    else (result, a2 && s.decoderType ≠ 2, { s with decoderType := 2 })

/-- `ADV7181D_Init` -/
def adv7181dInit (type : U8) (adv : Option U8) (s : Camera) : U8 × Camera :=
  if type = 2 then (4, { s.emit (.writeTable .adv7181dYuvBack) with decoderType := 1 })
  else if type = 3 then (4, { s.emit (.writeTable .adv7181dRgbHact) with decoderType := 4 })
  else if type ≠ 0 then
    if s.decoderState ≠ 0 then (4, { s.emit (.writeTable .adv7181dYuv) with decoderType := 1 })
    else (4, { s.emit (.writeTable .adv7181dRgb) with decoderType := 0 })
  else
    let s := s.emit (.writeTable .adv7181dCvbs)
    let s := s.emit (.i2cWrite 0x42 10 (if s.camState ≠ 0 then s.reserved204 else s.camState))
    let r := checkNpAdv7181d adv false s
    (r.1, r.2.2)

/-- `camera_stop` -/
def cameraStop (s : Camera) : Camera :=
  if s.gap1b_0 ≠ 0 then
    let s := { s with gap1b_0 := 0, gap2_0 := 0 }.emit .cancelCheck
    { s with staVideoSignal := 0, clocks := s.clocks.add (-1) }.emit (.cifPower false)
  else s

/-- `v4` in `camera_start`, the input of the decoder. -/
def decoderInput (s : Camera) : U8 :=
  if s.camState ≠ 0 then if s.mtcCustomer = 20 then 3 else 0
  else if s.reserved11 ≠ 0 then 0
  else if s.videoMode = 2 then 1
  else s.reserved11

/-- `is_Atv` -/
def isAtv (s : Camera) : Bool := !(5 < s.cfgDtv && s.cfgDtv ≠ 14)

/-- `dtv_type` as `camera_start` sets it. -/
def startDtvType (s : Camera) : U8 :=
  if s.camState ≠ 0 ∨ s.reserved11 ≠ 0 then 0
  else if s.videoMode = 5 then
    if s.cfgDtv ≠ 1 ∧ s.cfgDtv ≠ 3 then if s.isAtv then 4 else 0 else s.cfgDtv
  else if s.videoMode = 7 then 5
  else 0

/-- The decoder part of `camera_start`, from `label_9` on. -/
def startDecoder (io : StartInput) (s : Camera) : Camera :=
  if io.v13 = 32 then
    let r := { s with reserved19 := 1 }.adv7181dInit s.decoderInput io.adv
    { r.2 with staVideoSignal := r.1 }
  else
    let r := { s with reserved19 := 0 }.t132bInit s.decoderInput io.polls
    { r.2 with staVideoSignal := r.1 }

/-- The report of `camera_start`, `v14` and `v15`. -/
def startReport (io : StartInput) (s : Camera) : List U8 :=
  let v14 : U8 := if s.staVideoSignal ≠ 0 then 1 else 0
  if s.camState ≠ 0 ∨ s.reserved9.setWidth 32 &&& 0xFF00FF00#32 ≠ 0 then [v14, 1]
  else if s.videoMode = 3 then [v14, 2]
  else if s.videoMode = 5 then [v14, 3]
  else if s.videoMode = 7 then [v14, 4]
  else [io.v14, io.v15]

/-- `camera_start`; `bss_C168AF2B`, which goes to `_gap1[0]`, is 0. -/
def cameraStart (io : StartInput) (s : Camera) : Camera :=
  let s := (if s.gap1b_0 ≠ 0 then s.cameraStop else s).emit (.cifPower true)
  let s := { s with clocks := s.clocks.add 1, gap1_0 := 0, dtvType := s.startDtvType }
  let s := s.startDecoder io
  let s := { s.emit (.vsSend 158 (s.startReport io)) with gap1b_0 := 1 }
  -- `vip_reset(1)` also clears `camera_working`
  ({ s.emit .vipReset with cameraWorking := 0 }).emit .queueCheck

/-- `video_mode` is the DVD, TV or AUX input. -/
def tvMode (s : Camera) : Bool := s.videoMode = 3 || s.videoMode = 5 || s.videoMode = 7

/-- The second byte of the report of `capture_check_work`. -/
def checkSource (s : Camera) : U8 :=
  if s.noView then
    if s.videoMode = 3 then 2
    else if s.videoMode = 5 then 3
    else if s.videoMode = 7 then 4
    else s.camState
  else 1

/-- `capture_check_work` -/
def captureCheckWork (np : NpInput) (adv : Option U8) (s : Camera) : Camera :=
  if s.gap1b_0 ≠ 0 then
    if s.decoderType = 4 then (s.emit (.vsSend 158 [1, 1])).emit .queueCheck
    else if s.noView ∧ ¬ s.tvMode then s.emit .queueCheck
    else if s.reserved19 ≠ 0 then
      let r := if s.staVideoSignal ≠ 4 then checkNpAdv7181d adv true s else (4, false, s)
      let s := { r.2.2 with staVideoSignal := r.1 }
      let s := s.emit (.vsSend 158 [if r.1 ≠ 0 then 1 else 0, s.checkSource])
      (if r.2.1 then { s with cameraWorking := 1 } else s).emit .queueCheck
    else
      let r := checkNp np s.staVideoSignal s
      let s := { r.2 with staVideoSignal := r.1 }
      (s.emit (.vsSend 158 [if r.1 ≠ 0 then 1 else 0, s.checkSource])).emit .queueCheck
  else s

end Camera

end MtcDrivers
