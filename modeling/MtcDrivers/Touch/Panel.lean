import Mathlib.Data.Int.Notation
import Mathlib.Logic.Function.Basic
import MtcDrivers.Car.State
import MtcDrivers.Run.Basic

/-!
# The TSC2003 touch panel

`tsc2003_irq` and `tsc2003_work`. The struct from `calib_x_avg` on is kept as the 32-bit words it
occupies, followed by the words behind it: an index past the end of one of the two arrays reaches the
fields behind it. A run of the work is given what the controller, the pen line and `isTouchDisable`
answer; what it does to the outside is the list of its effects.
-/

namespace MtcDrivers

/-- The input events of the panel. -/
inductive TouchEvent
  | btnTouch
  | absX
  | absY
  | synReport
deriving DecidableEq

/-- What the interrupt and the work do to the outside. -/
inductive TouchEffect
  | disableIrq
  | enableIrq
  /-- `queue_delayed_work` with the delay in milliseconds. -/
  | queueDelayedWork (ms : ℕ)
  | backlightOn
  | inputEvent (event : TouchEvent) (value : U32)
deriving DecidableEq

/-- `struct tsc2003` and the file-scope globals of the work. -/
structure TouchPanel where
  debounce : U8
  penDown : U8
  /-- The words of the struct from `calib_x_avg` on, and those behind the struct. -/
  words : ℕ → U32
  tscCalibX : U32
  tscCalibY : U32
  tscPenDown : U8
  touchEnable : U8
  mtcStatus : U32
  keyState : U8
  blState : U8

/-- What one run of the work reads: six transfers of the controller (`none` if one fails), the pen line
and the two flags. -/
structure TouchSample where
  x0 : Option (U8 × U8)
  y0 : Option (U8 × U8)
  x1 : Option (U8 × U8)
  y1 : Option (U8 × U8)
  pressX : Option (U8 × U8)
  pressY : Option (U8 × U8)
  gpio : U32
  isTouchDisable : Bool
  suspended : Bool
deriving DecidableEq

/-- `TouchPanelCalibrateAPoint`, which is not in the repository. -/
abbrev CalibrateAPoint := U32 → U32 → U32 × U32

/-- Byte `k` of a little-endian word. -/
def wordByte (w : U32) (k : ℕ) : U8 := (w >>> (8 * k)).setWidth 8

/-- Store byte `k` of a little-endian word. -/
def setWordByte (w : U32) (k : ℕ) (b : U8) : U32 :=
  (w &&& ~~~(0xFF#32 <<< (8 * k))) ||| (b.setWidth 32 <<< (8 * k))

namespace TouchPanel

/-- The length of `calib_x_avg` and of `calib_y_avg`. -/
def calibLen : ℕ := 2

/-- The word that holds `calib_idx`, `sample_cnt` and `reserved2`. -/
def countersWord : ℕ := 2 * calibLen

variable (ts : TouchPanel)

/-- `calib_x_avg[i]`. -/
def calibXAvg (i : ℕ) : U32 := ts.words i

/-- `calib_y_avg[i]`. -/
def calibYAvg (i : ℕ) : U32 := ts.words (calibLen + i)

def calibIdx : U8 := wordByte (ts.words countersWord) 0

def sampleCnt : U8 := wordByte (ts.words countersWord) 1

def touchX : U32 := ts.words (countersWord + 1)

def touchY : U32 := ts.words (countersWord + 2)

/-- Store a word of the struct. -/
def poke (i : ℕ) (v : U32) : TouchPanel := { ts with words := Function.update ts.words i v }

def setCalibX (i : ℕ) (v : U32) : TouchPanel := ts.poke i v

def setCalibY (i : ℕ) (v : U32) : TouchPanel := ts.poke (calibLen + i) v

def setCalibIdx (b : U8) : TouchPanel := ts.poke countersWord (setWordByte (ts.words countersWord) 0 b)

def setSampleCnt (b : U8) : TouchPanel := ts.poke countersWord (setWordByte (ts.words countersWord) 1 b)

def setTouch (x y : U32) : TouchPanel := (ts.poke (countersWord + 1) x).poke (countersWord + 2) y

end TouchPanel

/-- The value of the two bytes of a transfer, which fits into eight bits. -/
def touchValue (buf : U8 × U8) : U8 := (buf.1 &&& 0x0F#8) <<< 4 ||| buf.2 >>> 4

/-- `raw[0..3]`. -/
structure TouchRaw where
  r0 : U8
  r1 : U8
  r2 : U8
  r3 : U8
deriving DecidableEq

namespace TouchRaw

/-- `(raw[0] + raw[1]) / 2`. -/
def midX (r : TouchRaw) : ℕ := (r.r0.toNat + r.r1.toNat) / 2

/-- `(raw[2] + raw[3]) / 2`. -/
def midY (r : TouchRaw) : ℕ := (r.r2.toNat + r.r3.toNat) / 2

end TouchRaw

namespace TouchSample

variable (op : TouchSample)

/-- The two points; `none` is the jump to `pen_up`. -/
def points : Option TouchRaw := do
  let r0 ← op.x0.map touchValue
  if r0 = 0 then none
  let r1 ← op.y0.map touchValue
  let r2 ← op.x1.map touchValue
  if r2 = 0 then none
  let r3 ← op.y1.map touchValue
  pure ⟨r0, r1, r2, r3⟩

/-- The points of an accepted sample; `none` is the way to `pen_up`. -/
def accepted : Option TouchRaw := do
  let r ← op.points
  let pressX ← op.pressX.map fun buf => (touchValue buf).toNat
  let pressY ← op.pressY.map fun buf => (touchValue buf).toNat
  if pressX ≠ 0 ∧ pressX < pressY ∧ (pressY - pressX) * r.midX / pressX ≤ 5000 then
    let dx := ((r.r1.toNat : ℤ) - r.r0.toNat).natAbs
    let dy := ((r.r3.toNat : ℤ) - r.r2.toNat).natAbs
    if dx ≤ 200 ∧ dy ≤ 200 then pure r else none
  else none

end TouchSample

/-- The result of a run: the panel it leaves and its effects in order. -/
structure TouchRun where
  panel : TouchPanel
  effects : List TouchEffect

/-- `tsc2003_irq`. -/
def tsc2003Irq (ts : TouchPanel) : TouchRun :=
  ⟨({ ts with debounce := 0 }.setCalibIdx 0).setSampleCnt 0, [.disableIrq, .queueDelayedWork 10]⟩

namespace TouchPanel

/-- The middle of the pair goes to both arrays at `calib_idx`. -/
def storePoint (ts : TouchPanel) (r : TouchRaw) : TouchPanel :=
  let ts := ts.setCalibX ts.calibIdx.toNat (BitVec.ofNat 32 r.midX)
  ts.setCalibY ts.calibIdx.toNat (BitVec.ofNat 32 r.midY)

/-- The two saturating counters. -/
def countPoint (ts : TouchPanel) : TouchPanel :=
  let ts := if ts.calibIdx ≤ 1 then ts.setCalibIdx (ts.calibIdx + 1) else ts
  if ts.sampleCnt ≤ 2 then ts.setSampleCnt (ts.sampleCnt + 1) else ts

/-- The sum over `j < sample_cnt`. -/
def calibSum (ts : TouchPanel) (calib : ℕ → U32) : U32 :=
  (List.range ts.sampleCnt.toNat).foldl (fun sum j => sum + calib j) 0

/-- The average over the first `sample_cnt` entries. -/
def calibAverage (ts : TouchPanel) (calib : ℕ → U32) : U32 :=
  (ts.calibSum calib).sdiv (ts.sampleCnt.setWidth 32)

/-- `abs`. -/
def intAbs (v : U32) : U32 := if v.toInt < 0 then -v else v

/-- Small moves of the point are dropped. -/
def smooth (ts : TouchPanel) (calX calY : U32) : TouchPanel :=
  if ts.sampleCnt ≤ 1 then ts.setTouch calX calY
  else if 2 < (intAbs (calX - ts.touchX)).toInt ∨ 2 < (intAbs (calY - ts.touchY)).toInt then
    ts.setTouch calX calY
  else ts

/-- The input events of an accepted point. -/
def reportPoint (ts : TouchPanel) : TouchRun :=
  if ts.keyState ≠ 0 then
    let down := if ts.penDown = 0 then [TouchEffect.inputEvent .btnTouch 1] else []
    let ts := if ts.penDown = 0 then { ts with penDown := 1 } else ts
    ⟨ts, down ++ [.inputEvent .absX ts.touchX, .inputEvent .absY ts.touchY, .inputEvent .synReport 0]⟩
  else ⟨{ ts with keyState := 1, tscPenDown := 1 }, [.backlightOn]⟩

/-- The part behind `tsc2003_touch_enable`. -/
def touchPoint (op : TouchSample) (calX calY : U32) (ts : TouchPanel) : TouchRun :=
  let light := if ts.mtcStatus &&& 0xFFFF00#32 = 0 then [TouchEffect.backlightOn] else []
  let ts := { ts with tscPenDown := 1 }
  if ts.keyState ≠ 0 ∧ ts.blState = 0 then
    let ts := ts.smooth calX calY
    if !op.isTouchDisable then
      let report := ts.reportPoint
      ⟨report.panel, light ++ report.effects⟩
    else ⟨ts, light⟩
  else ⟨ts, light⟩

/-- An accepted sample. -/
def acceptPoint (calibrate : CalibrateAPoint) (op : TouchSample) (r : TouchRaw) (ts : TouchPanel) :
    TouchRun :=
  let ts := (ts.storePoint r).countPoint
  let avgX := ts.calibAverage ts.calibXAvg
  let avgY := ts.calibAverage ts.calibYAvg
  let cal := calibrate avgX avgY
  let ts := { ts with tscCalibX := avgX, tscCalibY := avgY }
  let point := if ts.touchEnable ≠ 0 then touchPoint op (cal.1.sdiv 4) (cal.2.sdiv 4) ts else ⟨ts, []⟩
  ⟨{ point.panel with debounce := 0 }, point.effects ++ [.queueDelayedWork 20]⟩

/-- The release behind the debounce window. -/
def release (op : TouchSample) (ts : TouchPanel) : TouchRun :=
  let up := !op.isTouchDisable ∧ ts.tscPenDown = 0 ∧ ts.penDown ≠ 0
  let events := if up then [TouchEffect.inputEvent .btnTouch 0, .inputEvent .synReport 0] else []
  let ts := if up then { ts with penDown := 0 } else ts
  let ts := if !op.isTouchDisable then { ts with tscPenDown := 0 } else ts
  ⟨ts, events ++ [.enableIrq]⟩

/-- The code behind the label `pen_up`. -/
def penUp (op : TouchSample) (ts : TouchPanel) : TouchRun :=
  let ts := { ts with debounce := 0 }
  if op.gpio ≠ 1 then ⟨ts, [.queueDelayedWork 10]⟩
  else
    let ts := { ts with debounce := ts.debounce + 1 }
    if ts.debounce ≤ 7 then ⟨ts, [.queueDelayedWork 10]⟩
    else ts.release op

end TouchPanel

/-- `tsc2003_work`. -/
def tsc2003Work (calibrate : CalibrateAPoint) (op : TouchSample) (ts : TouchPanel) : TouchRun :=
  if op.suspended then ⟨ts, []⟩
  else
    match op.accepted with
    | some r => ts.acceptPoint calibrate op r
    | none => ts.penUp op

/-- The panel after one run. -/
def touchStep (calibrate : CalibrateAPoint) (ts : TouchPanel) (op : TouchSample) : TouchPanel :=
  (tsc2003Work calibrate op ts).panel

/-- The panel after the runs. -/
abbrev touchAfter (calibrate : CalibrateAPoint) (ts : TouchPanel) (ops : List TouchSample) : TouchPanel :=
  Run.after (touchStep calibrate) ts ops

/-- The effects of the runs, in their order. -/
def touchEffects (calibrate : CalibrateAPoint) : TouchPanel → List TouchSample → List TouchEffect
  | _, [] => []
  | ts, op :: ops =>
    (tsc2003Work calibrate op ts).effects ++ touchEffects calibrate (touchStep calibrate ts op) ops

/-! ## The release of the touch panel

What the debounce window of the work is for: the pen counts as up when eight runs in a row found no
point and the line high. Then the touch is over for the input system, the interrupt is enabled again
and the work ends; until then every run queues the next one. -/

def TouchEffect.isQueue : TouchEffect → Bool
  | .queueDelayedWork _ => true
  | _ => false

/-- How often a run queues the work again. -/
def requeues (calibrate : CalibrateAPoint) (ts : TouchPanel) (op : TouchSample) : ℕ :=
  (tsc2003Work calibrate op ts).effects.countP TouchEffect.isQueue

/-- The run ends behind `pen_up` with the line read high. -/
def TouchSample.PenHigh (op : TouchSample) : Prop := op.accepted = none ∧ op.gpio = 1

instance (op : TouchSample) : Decidable op.PenHigh := inferInstanceAs (Decidable (_ ∧ _))

/-- The last eight runs found the pen up. -/
def EightHigh (ops : List TouchSample) : Prop :=
  ∃ before last, ops = before ++ last ∧ last.length = 8 ∧ ∀ op ∈ last, op.PenHigh

/-- The touch is over. -/
structure Released (calibrate : CalibrateAPoint) (ts : TouchPanel) (ops : List TouchSample) : Prop where
  btnTouch : ∀ before later,
    touchEffects calibrate ts ops = before ++ .inputEvent .btnTouch 1 :: later →
      .inputEvent .btnTouch 0 ∈ later
  penDown : (touchAfter calibrate ts ops).penDown = 0
  enabled : .enableIrq ∈ touchEffects calibrate ts ops
  ended : ∀ pre op, ops = pre ++ [op] → requeues calibrate (touchAfter calibrate ts pre) op = 0

/-- The touch ends behind eight runs with the pen up, and no run ends it before. -/
structure ReleaseLaw (calibrate : CalibrateAPoint) (ts : TouchPanel) (ops : List TouchSample) : Prop where
  released : ∀ pre post, ops = pre ++ post → EightHigh pre → Released calibrate ts pre
  requeued : ∀ pre op post, ops = pre ++ op :: post →
    (∀ first rest, pre ++ [op] = first ++ rest → ¬EightHigh first) →
      requeues calibrate (touchAfter calibrate ts pre) op = 1

/-! ## The averages of the touch panel

What the two arrays are for: an accepted sample stores its middle points inside them, and the reported
average lies among the middle points stored since the interrupt. -/

/-- The points that a run stores. -/
def TouchSample.stored (op : TouchSample) : Option TouchRaw :=
  if op.suspended then none else op.accepted

/-- The `int` value `avg` lies between the smallest and the largest of the middle points. -/
def Between (mids : List ℕ) (avg : U32) : Prop :=
  (∃ lo ∈ mids, (lo : ℤ) ≤ avg.toInt) ∧ ∃ hi ∈ mids, avg.toInt ≤ (hi : ℤ)

/-- The sample with the points `r`, accepted behind the points `earlier`, is averaged in bounds. -/
structure AveragedWell (calibrate : CalibrateAPoint) (ts : TouchPanel) (op : TouchSample) (r : TouchRaw)
    (earlier : List TouchRaw) : Prop where
  indexX : ts.calibIdx.toNat < TouchPanel.calibLen
  indexY : (ts.setCalibX ts.calibIdx.toNat (BitVec.ofNat 32 r.midX)).calibIdx.toNat < TouchPanel.calibLen
  loop : ∀ j < (ts.storePoint r).countPoint.sampleCnt.toNat, j < TouchPanel.calibLen
  divides : 1 ≤ (ts.storePoint r).countPoint.sampleCnt.toNat
  betweenX : Between ((earlier ++ [r]).map TouchRaw.midX) (touchStep calibrate ts op).tscCalibX
  betweenY : Between ((earlier ++ [r]).map TouchRaw.midY) (touchStep calibrate ts op).tscCalibY

/-- Every accepted sample of the runs behind an interrupt is averaged in bounds. -/
def AverageLaw (calibrate : CalibrateAPoint) (ts : TouchPanel) (ops : List TouchSample) : Prop :=
  ∀ pre op post r, ops = pre ++ op :: post → op.stored = some r →
    AveragedWell calibrate (touchAfter calibrate ts pre) op r (pre.filterMap TouchSample.stored)

/-! ## The pairs of the touch panel

What the four samples of a run are for: `raw` holds `x0`, `y0`, `x1` and `y1` in this order. The two samples of
an axis belong together, in the tests on their distance and in the middle that is stored. -/

/-- The 12-bit value of the two bytes of a transfer. -/
def replyValue (buf : U8 × U8) : ℕ := 16 * buf.1.toNat + buf.2.toNat / 16

/-- The middle of two samples. -/
def middle (a b : U8) : ℕ := (a.toNat + b.toNat) / 2

/-- Two samples are close to each other. -/
def Near (a b : U8) : Prop := ((b.toNat : ℤ) - a.toNat).natAbs ≤ 200

instance (a b : U8) : Decidable (Near a b) := inferInstanceAs (Decidable (_ ≤ _))

/-- `calib_x_avg[calib_idx] = midX; calib_y_avg[calib_idx] = midY` -/
def TouchPanel.storeMids (ts : TouchPanel) (midX midY : ℕ) : TouchPanel :=
  let ts := ts.setCalibX ts.calibIdx.toNat (BitVec.ofNat 32 midX)
  ts.setCalibY ts.calibIdx.toNat (BitVec.ofNat 32 midY)

namespace TouchSample

variable (op : TouchSample)

/-- The pressure that the run reads is that of a touch in the middle of `a` and `b`, and the samples of each of
the two pairs are close to each other. -/
def Passes (a b c d : U8) : Prop :=
  ∃ px py : U8, op.pressX.map touchValue = some px ∧ op.pressY.map touchValue = some py ∧
    px ≠ 0 ∧ px < py ∧ (py.toNat - px.toNat) * middle a b / px.toNat ≤ 5000 ∧ Near a b ∧ Near c d

/-- The run accepts the samples by the distances on the two axes, and stores the middle of each axis. -/
structure PairedRight (x0 y0 x1 y1 : U8) : Prop where
  accepted : op.stored = some ⟨x0, y0, x1, y1⟩ ↔ op.Passes x0 x1 y0 y1
  middles : op.stored = some ⟨x0, y0, x1, y1⟩ → ∀ ts : TouchPanel,
    ts.storePoint ⟨x0, y0, x1, y1⟩ = ts.storeMids (middle x0 x1) (middle y0 y1)

/-- The samples for which it does not matter that `y0` and `x1` stand for each other: they are the same; or
both ways to pair the samples fail; or both pass, `y0` and `x1` differ by one, and the smaller of them, `x0` and
`y1` are all even or all odd. -/
def PairsFit (x0 y0 x1 y1 : U8) : Prop :=
  y0 = x1 ∨ (¬op.Passes x0 x1 y0 y1 ∧ ¬op.Passes x0 y0 x1 y1) ∨
    (op.Passes x0 x1 y0 y1 ∧ op.Passes x0 y0 x1 y1 ∧
      (y0.toNat = x1.toNat + 1 ∧ x0.toNat % 2 = x1.toNat % 2 ∧ y1.toNat % 2 = x1.toNat % 2 ∨
        x1.toNat = y0.toNat + 1 ∧ x0.toNat % 2 = y0.toNat % 2 ∧ y1.toNat % 2 = y0.toNat % 2))

end TouchSample

end MtcDrivers
