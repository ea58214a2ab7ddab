import MtcDrivers.Camera.Decoder

/-!
# Capture work

The commands of `capture_work`, one definition for each, and the labels that they share.
-/

namespace MtcDrivers

/-- What the decoder answers during one command. -/
structure CaptureInput where
  start : StartInput
  np : NpInput
  /-- The results of `IC_ReadByte` during the calibration; 0 when the list is at its end. -/
  uv : List U8

namespace Camera

/-- `fb = rk_get_fb(1); rk_direct_fb_open(fb, on)` -/
def fb1 (on : U8) (s : Camera) : Camera := s.emit (.fbOpen 1 on)

/-- `fb = rk_get_fb(0); rk_direct_fb_open(fb, on)` -/
def fb0 (on : U8) (s : Camera) : Camera := s.emit (.fbOpen 0 on)

/-- `camera_start`, with the frame buffer opened after it. -/
def startAndOpen (io : CaptureInput) (s : Camera) : Camera := (s.cameraStart io.start).fb1 1

/-- The frame buffer closed, and `camera_stop`. -/
def closeAndStop (s : Camera) : Camera := (s.fb1 0).cameraStop

/-- `LABEL_52`; the delay in front of it is left out. -/
def label52 (io : CaptureInput) (s : Camera) : Camera := s.startAndOpen io

/-- `LABEL_51` -/
def label51 (io : CaptureInput) (s : Camera) : Camera := (s.emit .videoChannel).label52 io

/-- `LABEL_50` -/
def label50 (io : CaptureInput) (camSig : U8) (s : Camera) : Camera :=
  ((s.fb1 camSig).cameraStop).label51 io

/-- `LABEL_57` -/
def label57 (io : CaptureInput) (s : Camera) : Camera :=
  if s.videoMode ≠ 0 ∧ s.reserved13 ≠ 0 then s.label52 io else s

/-- `LABEL_92` -/
def label92 (s : Camera) : Camera := s.emit (.audioAddWork 17)

/-- The report of the view: `vs_send(2, ...)` and `reserved_10`. -/
def reportView (s : Camera) : Camera :=
  { s.emit (.vsSend (if s.mcuCmdState = 5 then 0x8C else 0xA6) []) with reserved10 := 1 }

/-- `case '.'` -/
def work46 (cmd2 : U32) (s : Camera) : Camera :=
  let s := { s with gap2_3 := 1 }
  let s :=
    if s.videoMode ≠ 0 ∧ s.reserved13 ≠ 0 then
      let s := { s with reserved13 := 0 }
      if s.noView then s.closeAndStop else s
    else s
  if cmd2 ≠ 2 ∧ cmd2 ≠ 5 ∧ cmd2 ≠ 3 ∧ cmd2 ≠ 7 ∧ cmd2 ≠ 0xFF then
    { s with videoMode := 0 }.emit .videoChannel
  else { s with videoMode := cmd2.setWidth 8 }.emit .videoChannel

/-- `case '/'` -/
def work47 (s : Camera) : Camera := if s.gap2_3 ≠ 0 then s.emit .videoChannel else s

/-- `case '0'` -/
def work48 (io : CaptureInput) (cmd2 : U32) (s : Camera) : Camera :=
  if s.videoMode.setWidth 32 = cmd2 ∧ s.reserved13 = 0 then
    let s := { s with reserved13 := 1 }
    if s.noView then s.startAndOpen io else s
  else s

/-- `case '1'` -/
def work49 (cmd2 : U32) (s : Camera) : Camera :=
  if s.videoMode.setWidth 32 = cmd2 ∧ s.reserved13 ≠ 0 then
    let s := { s with reserved13 := 0 }
    if s.noView then s.closeAndStop else s
  else s

/-- The wait for register 192, with `sync_to` readings left; `none` at the timeout. -/
def uvSync : ℕ → List U8 → Option (List U8)
  | 0, _ => none
  | syncTo + 1, rs => if rs.headD 0 = 227 then some rs.tail else uvSync syncTo rs.tail

/-- `|value - 2048|` -/
def uvDistance (value : ℕ) : ℕ := if value < 2048 then 2048 - value else value - 2048

/-- `IC_WritByte(66, 192, 224); IC_WritByte(66, 192, 225)` -/
def uvTrigger (s : Camera) : Camera :=
  (s.emit (.i2cWrite 66 192 224)).emit (.i2cWrite 66 192 225)

/-- One search of the calibration, with `n` positions left; register `reg` sets the position. -/
def uvScan (reg : U8) : ℕ → ℕ → ℕ → ℕ → List U8 → Camera → Option (ℕ × List U8) × Camera
  | 0, _, _, final, rs, s => (some (final, rs), s)
  | n + 1, pos, best, final, rs, s =>
    match uvSync 24 rs with
    | none => (none, s)
    | some rs =>
      let value := (rs.headD 0).toNat + 256 * (rs.tail.headD 0).toNat
      let better := uvDistance value < uvDistance best
      let s := s.emit (.i2cWrite 64 reg (BitVec.ofNat 8 (pos + 4)))
      uvScan reg n (pos + 4) (if better then value else best) (if better then pos else final)
        rs.tail.tail (if n = 0 then s else s.uvTrigger)

/-- `LABEL_138` -/
def label138 (s : Camera) : Camera := { s with uvCal := 2 }.t132bUvSet

/-- The calibration of `case '2'`. -/
def uvCalibrate (rs : List U8) (s : Camera) : Camera :=
  let s := ([(64, 38, 132), (66, 202, 3), (66, 203, 0), (66, 204, 240), (66, 206, 16), (64, 10, 96),
    (64, 12, 96), (64, 6, 0)] : List (U8 × U8 × U8)).foldl
      (fun s w => s.emit (.i2cWrite w.1 w.2.1 w.2.2)) s
  let u := uvScan 12 12 96 0x7FFF 0 rs s.uvTrigger
  match u.1 with
  | none => u.2.label138
  | some (uFinal, rs) =>
    let v := uvScan 10 12 96 0x7FFF 0 rs u.2.uvTrigger
    match v.1 with
    | none => v.2.label138
    | some (vFinal, _) =>
      let s := { v.2 with uValue := BitVec.ofNat 8 uFinal, vValue := BitVec.ofNat 8 vFinal }
      let s := (s.emit (.i2cWrite 64 12 s.uValue)).emit (.i2cWrite 64 10 s.vValue)
      { s.emit (.i2cWrite 64 38 4) with uvCal := 3 }

/-- `case '2'` -/
def work50 (io : CaptureInput) (cmd2 : U32) (s : Camera) : Camera :=
  if s.videoMode ≠ 2 ∨ s.reserved19 ≠ 0 ∨ s.decoderState ≠ 1 then s
  else if cmd2 = 0 then s.uvCalibrate io.uv
  else if cmd2 = 1 then
    let s := { s with uvOffU := s.uValue - 112, uvOffV := s.vValue + 124 }
    s.emit (.armSendMulti 38153 [s.uvOffU, s.uvOffV])
  else if cmd2 = 2 then s.t132bUvSet
  else s

/-- `case '3'` -/
def work51 (cmd2 : U32) (s : Camera) : Camera :=
  if s.reserved19 = 1 then s.emit (.i2cWrite 0x42 10 (cmd2.setWidth 8)) else s

/-- `case '4'` -/
def work52 (io : CaptureInput) (cmd2 : U32) (s : Camera) : Camera :=
  if s.reserved11 ≠ 0 then
    if s.camState = 0 ∧ s.camSignal = 0 ∧ s.staView.setWidth 32 ≠ cmd2 then
      { s with staView := cmd2.setWidth 8 }.label50 io s.camSignal
    else s
  else
    let s := { s with reserved11 := 1, staView := cmd2.setWidth 8 }
    if s.camState = 0 ∧ s.camSignal = 0 then
      if s.reserved13 ≠ 0 then s.label50 io s.camSignal else s.label51 io
    else s

/-- `case '5'` -/
def work53 (io : CaptureInput) (s : Camera) : Camera :=
  if s.reserved11 = 0 then s
  else
    let s := { s with reserved11 := 0 }
    if s.camState ≠ 0 ∨ s.camSignal ≠ 0 then s
    else (s.closeAndStop.emit .videoChannel).label57 io

/-- `case '6'` -/
def work54 (io : CaptureInput) (s : Camera) : Camera :=
  if s.camState = 0 ∧ s.camSignal = 0 then
    let s := { s with camSignal := 1 }
    let s := if s.reserved11 ≠ 0 ∨ s.reserved13 ≠ 0 then s.closeAndStop else s
    ((s.emit .videoChannel).startAndOpen io).fb0 0
  else s

/-- `case '7'` -/
def work55 (io : CaptureInput) (s : Camera) : Camera :=
  let camStateOld := s.camState
  if s.camState ≠ 0 ∨ s.camSignal = 0 then s
  else
    let s := { s with camSignal := s.camState }.emit (.fbOpen camStateOld 1)
    let s := ((s.fb1 camStateOld).cameraStop).emit .videoChannel
    if s.reserved11 ≠ 0 then s.label52 io else s.label57 io

/-- The end of `case '8'`. -/
def showView (s : Camera) : Camera :=
  let s := if s.callActive = 0 ∨ s.radarVal ≠ 0 then s.fb0 0 else s
  (s.emit .backlightOn).label92

/-- `case '8'` -/
def work56 (io : CaptureInput) (cmd2 : U32) (s : Camera) : Camera :=
  if s.camState ≠ 0 ∧ (s.reserved8 = 0 ∨ s.reserved9 ≠ 1) then s
  else
    let wasOff := s.camState = 0
    let s := { s with reserved9 := 0, camState := 1, camSignal := 0, radarVal := cmd2.setWidth 8 }
    let s := if s.callActive ≠ 0 ∧ wasOff then s.reportView else s
    if s.reserved11 ≠ 0 ∨ s.reserved13 ≠ 0 then
      let s := ({ s.closeAndStop with reserved8 := 0 }.emit .videoChannel).startAndOpen io
      if wasOff then s.showView else s
    else if wasOff then
      (({ s with reserved8 := 0 }.emit .videoChannel).startAndOpen io).showView
    else ({ s.closeAndStop with reserved8 := 0 }.emit .videoChannel).label52 io

/-- `case '9'` -/
def work57 (io : CaptureInput) (s : Camera) : Camera :=
  if s.camState = 0 then s
  else
    let s := if s.callActive ≠ 0 then s.reportView else s
    s.closeAndStop.label51 io

/-- `case ':'` -/
def work58 (cmd2 : U32) (s : Camera) : Camera :=
  if s.camState ≠ 0 then
    { { s with radarVal := cmd2.setWidth 8 }.emit (.vsSend 0x8C []) with reserved10 := 1 }
  else s

/-- `case ';'` -/
def work59 (io : CaptureInput) (s : Camera) : Camera :=
  if s.camState = 0 then s
  else
    let s := { s with reserved8 := 0 }
    let s := if s.powerRefcnt = 0 then s.emit .backlightOff else s
    let s : Camera := { s with camState := 0 }
    let s := if s.callActive ≠ 0 then { s.emit (.vsSend 0x8D []) with reserved10 := 0 } else s
    let s := ((s.fb0 1).closeAndStop).emit .videoChannel
    (if s.reserved11 ≠ 0 ∨ s.videoMode ≠ 0 ∧ s.reserved13 ≠ 0 then s.startAndOpen io else s).label92

/-- `case '<'` -/
def work60 (io : CaptureInput) (s : Camera) : Camera :=
  if s.camState ≠ 0 ∧ s.reserved8 = 0 then
    let s := (s.fb1 s.reserved8).cameraStop
    ({ s with reserved9 := 1, reserved8 := 1 }.emit .videoChannel).startAndOpen io
  else s

/-- The condition of `case '='`. -/
def checksStandard (s : Camera) : Bool :=
  s.reserved13 ≠ 0 && s.noView && s.tvMode && s.reserved19 = 0

/-- `case '='` -/
def work61 (io : CaptureInput) (s : Camera) : Camera :=
  if s.checksStandard then
    -- the result of `check_np` is not stored
    (checkNp io.np 0 (s.emit .cancelCheck)).2.emit .queueCheck
  else s

/-- `case '@'` -/
def work64 (s : Camera) : Camera :=
  if s.camState ≠ 0 then ({ s with radarVal := 0 }.fb0 1).emit .fbShow else s

/-- `case 'B'` -/
def work66 (io : CaptureInput) (s : Camera) : Camera :=
  if s.camState ≠ 0 then
    let s := s.emit .backlightOff
    let was := s.reserved9 ≠ 0
    let s := { s with reserved9 := if s.reserved9 = 0 then 1 else 0 }
    let s := { s.emit (.vsSend (if was then 0x8C else 0x9D) []) with reserved10 := 1 }
    ((s.cameraStop.emit .videoChannel).cameraStart io.start).emit .backlightOn
  else s

/-- `capture_work` -/
def captureWork (cmd1 : ℕ) (cmd2 : U32) (io : CaptureInput) (s : Camera) : Camera :=
  match cmd1 with
  | 46 => s.work46 cmd2
  | 47 => s.work47
  | 48 => s.work48 io cmd2
  | 49 => s.work49 cmd2
  | 50 => s.work50 io cmd2
  | 51 => s.work51 cmd2
  | 52 => s.work52 io cmd2
  | 53 => s.work53 io
  | 54 => s.work54 io
  | 55 => s.work55 io
  | 56 => s.work56 io cmd2
  | 57 => s.work57 io
  | 58 => s.work58 cmd2
  | 59 => s.work59 io
  | 60 => s.work60 io
  | 61 => s.work61 io
  | 64 => s.work64
  | 66 => s.work66 io
  | _ => s

/-- One command of the work queue. -/
structure CaptureCommand where
  cmd1 : ℕ
  cmd2 : U32
  io : CaptureInput

/-- The state after the commands, in their order. -/
def captureRun (cs : List CaptureCommand) (s : Camera) : Camera :=
  cs.foldl (fun s c => s.captureWork c.cmd1 c.cmd2 c.io) s

/-- The camera is running for one of its uses, the clocks run with it, and the two views are never both
    on. -/
structure EngineOk (s : Camera) : Prop where
  running : s.gap1b_0 = 1 ↔
    s.camState ≠ 0 ∨ s.camSignal ≠ 0 ∨ s.reserved11 ≠ 0 ∨ s.reserved13 ≠ 0
  pdCif0 : s.clocks.pdCif0 = s.gap1b_0.toNat
  aclkCif0 : s.clocks.aclkCif0 = s.gap1b_0.toNat
  hclkCif0 : s.clocks.hclkCif0 = s.gap1b_0.toNat
  clkCif0In : s.clocks.clkCif0In = s.gap1b_0.toNat
  clkCif0Out : s.clocks.clkCif0Out = s.gap1b_0.toNat
  exclusive : ¬ (s.camState ≠ 0 ∧ s.camSignal ≠ 0)

/-- After `backview_probe`: nothing uses the camera. -/
structure Unused (s : Camera) : Prop where
  gap1b_0 : s.gap1b_0 = 0
  clocks : s.clocks = ⟨0, 0, 0, 0, 0⟩
  camState : s.camState = 0
  camSignal : s.camSignal = 0
  reserved11 : s.reserved11 = 0
  reserved13 : s.reserved13 = 0

/-- The commands `'0'` and `'1'` name a source. -/
def NamesSource (c : CaptureCommand) : Prop := c.cmd1 = 48 ∨ c.cmd1 = 49 → c.cmd2 ≠ 0

end Camera

end MtcDrivers
