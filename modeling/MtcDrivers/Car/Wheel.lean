import MtcDrivers.Car.State
import MtcDrivers.Run.Basic

/-!
# The steering wheel knob

`adc_wheel_callback`, which turns the samples of an ADC channel into knob events. `wheel_state` packs
the sector of the last sample (high nibble) and the last accepted sector (low nibble); after an event
the counter `key_repeat_cnt` suppresses the next ones. `add_wheel_work` is not in the repository: its
calls are listed, and its result is a parameter.
-/

namespace MtcDrivers

/-- `d.adc_wheel_gate`. -/
def ConfigData.adcWheelGate : ℕ := 25

/-- The fields of `struct mtc_wheel_study` that the callback reads. -/
structure WheelStudy where
  adcEnabled : U32
  adcType : U8
  dirInv : U8
deriving DecidableEq, Inhabited

/-- `struct mtc_wheel_state`; `adc_ref_up` and `adc_ref_dn` by the values they point to. -/
structure WheelState where
  keyRepeatCnt : U32
  adcRefUp : U32
  adcRefDn : U32
  wheelState : U8
  wheelLastKey : U8
  adcUpVal : U32
  adcDnVal : U32
deriving DecidableEq, Inhabited

/-- The state of a wheel that has not been sampled. -/
def WheelState.zeroed : WheelState := ⟨0, 0, 0, 0, 0, 0, 0⟩

/-- What one callback is given: `*adc_cur`, `adc_val` and the globals it reads. -/
structure WheelSample where
  study : WheelStudy
  config : ConfigData
  adcCur : U32
  adcVal : U32
deriving DecidableEq, Inhabited

/-- What one callback does: its result, the state it leaves and the keys of its `add_wheel_work` calls. -/
structure WheelTurn where
  ret : U32
  ws : WheelState
  works : List U32
deriving DecidableEq

/-- `add_wheel_work`: its result for a key and a wheel state, which it does not write. -/
abbrev AddWheelWork := U32 → WheelState → U32

/-- `(unsigned int)(adc_val - low) <= width`. -/
def inRange (adcVal low width : U32) : Bool := adcVal - low ≤ width

/-- The sector of a sample in normal mode. -/
def normalDir (adcType : U8) (adcVal : U32) : U8 :=
  if adcType = 1 then
    if inRange adcVal 488 0x30 then 1
    else if inRange adcVal 658 0x30 then 2
    else if inRange adcVal 385 0x30 then 3
    else if 1000 < adcVal.toInt then 4
    else 0
  else
    if inRange adcVal 437 0x30 then 1
    else if inRange adcVal 590 0x30 then 2
    else if inRange adcVal 330 0x30 then 3
    else if 1000 < adcVal.toInt then 4
    else 0

/-- The sector of a sample in steering mode. -/
def steeringDir (adcVal : U32) : U8 :=
  if inRange adcVal 316 0x3A then 1
  else if inRange adcVal 483 0x3A then 2
  else if inRange adcVal 585 0x3A then 3
  else 0

/-- The sector of the two levels in study mode. -/
def studyDir (dirInv : U8) (up dn : U32) : U8 :=
  if 199 < up.toInt then
    if dn.toInt ≤ 199 then if dirInv ≠ 0 then 2 else 1 else 4
  else if 199 < dn.toInt then if dirInv ≠ 0 then 1 else 2
  else 3

namespace WheelState

/-- The sector of the last sample. -/
def candidate (ws : WheelState) : U8 := ws.wheelState >>> 4

/-- The last accepted sector. -/
def accepted (ws : WheelState) : U8 := ws.wheelState &&& 0xF#8

/-- A sample of another sector than the last one. -/
def moveTo (ws : WheelState) (dir : U8) : WheelState :=
  { ws with wheelState := (ws.wheelState &&& 0xF#8) ||| (dir <<< 4) }

/-- `LABEL_28`: the sector becomes the accepted one. -/
def accept (ws : WheelState) (dir : U8) : WheelState := { ws with wheelState := dir ||| (dir <<< 4) }

/-- `ret > 0` counts down. -/
def countDown (ws : WheelState) : WheelState :=
  if 0 < ws.keyRepeatCnt.toInt then { ws with keyRepeatCnt := ws.keyRepeatCnt - 1 } else ws

end WheelState

section Callback

variable (addWheelWork : AddWheelWork)

/-- An event: the hold-off starts, the work is added and the sector accepted. -/
def emitAndAccept (key : U32) (hi : U8) (ws : WheelState) : WheelTurn :=
  let ws := { ws with keyRepeatCnt := 40 }
  ⟨addWheelWork key ws, ws.accept hi, [key]⟩

/-- The tail of study mode: `last_key` follows a change of the accepted sector. -/
def studyAccept (st hi : U8) (t : WheelTurn) : WheelTurn :=
  let ws := if st &&& 0xF#8 = hi then t.ws else { t.ws with wheelLastKey := st }
  { t with ws := ws.accept hi }

/-- Study mode behind the confirmed sector, for the counter `ret` after its decrement. -/
def studyConfirmed (ret : U32) (st hi : U8) (ws : WheelState) : WheelTurn :=
  studyAccept st hi <|
    if ret = 0 then
      let marked := if ws.wheelLastKey = 0x40 then { ws with wheelLastKey := st } else ws
      let armed := { marked with keyRepeatCnt := 40 }
      if st = 20 then
        if ws.wheelLastKey ≠ 0x41 then ⟨addWheelWork ret armed, armed, [ret]⟩ else ⟨ret, ws, []⟩
      else if st = 36 then
        if ws.wheelLastKey ≠ 0x42 then ⟨addWheelWork 1 armed, armed, [1]⟩ else ⟨ret, ws, []⟩
      else ⟨ret, ws, []⟩
    else ⟨ret, ws, []⟩

/-- Study mode: the sample is the level of one of the two learned channels. -/
def studyTurn (op : WheelSample) (ws : WheelState) : WheelTurn :=
  let ws :=
    if op.adcCur = ws.adcRefUp then { ws with adcUpVal := op.adcVal }
    else if op.adcCur = ws.adcRefDn then { ws with adcDnVal := op.adcVal }
    else ws
  if ws.adcUpVal.toInt < 0 then ⟨0, ws, []⟩
  else if ws.adcDnVal.toInt < 0 then ⟨0, ws, []⟩
  else
    let ws := ws.countDown
    let ret := ws.keyRepeatCnt
    let dir := studyDir op.study.dirInv ws.adcUpVal ws.adcDnVal
    let st := ws.wheelState
    if st >>> 4 ≠ dir then ⟨ret, ws.moveTo dir, []⟩
    else studyConfirmed addWheelWork ret st dir ws

/-- Normal mode, for the counter `ret` before its decrement. -/
def normalTurn (ret : U32) (dir : U8) (ws : WheelState) : WheelTurn :=
  let st := ws.wheelState
  let hi := st >>> 4
  if hi ≠ dir then ⟨ret, ws.moveTo dir, []⟩
  else if dir ≠ 0 then
    if ret ≠ 0 then ⟨ret, ws.accept hi, []⟩
    else if st ≠ 20 ∧ st ≠ 35 then
      if st ≠ 36 then
        if st ≠ 19 then ⟨ret, ws.accept hi, []⟩
        else emitAndAccept addWheelWork 1 hi ws
      else emitAndAccept addWheelWork 1 hi ws
    -- 4 to 1 and 3 to 2 leave the state as it is
    else ⟨ret, ws, []⟩
  else ⟨ret, ws, []⟩

/-- Steering mode, for the counter `ret` before its decrement. -/
def steeringTurn (ret : U32) (dir : U8) (ws : WheelState) : WheelTurn :=
  let st := ws.wheelState
  let hi := st >>> 4
  if hi ≠ dir then ⟨ret, ws.moveTo dir, []⟩
  else if dir ≠ 0 then
    if ret ≠ 0 then ⟨ret, ws.accept hi, []⟩
    else if st = 33 ∨ st = 50 ∨ st = 19 then emitAndAccept addWheelWork 1 hi ws
    else if st ≠ 49 ∧ st ≠ 18 ∧ st ≠ 35 then ⟨ret, ws.accept hi, []⟩
    else emitAndAccept addWheelWork ret hi ws
  else ⟨ret, ws, []⟩

/-- `adc_wheel_callback`. -/
def adcWheelCallback (op : WheelSample) (ws : WheelState) : WheelTurn :=
  if op.study.adcEnabled ≠ 0 then studyTurn addWheelWork op ws
  else if op.config.byte ConfigData.adcWheelGate = 0 then
    normalTurn addWheelWork ws.keyRepeatCnt (normalDir op.study.adcType op.adcVal) ws.countDown
  else steeringTurn addWheelWork ws.keyRepeatCnt (steeringDir op.adcVal) ws.countDown

/-- The state after one callback. -/
def wheelStep (ws : WheelState) (op : WheelSample) : WheelState :=
  (adcWheelCallback addWheelWork op ws).ws

/-- The events of a callback: the keys of its `add_wheel_work` calls. -/
def wheelEvents (ws : WheelState) (op : WheelSample) : List U32 :=
  (adcWheelCallback addWheelWork op ws).works

end Callback

namespace WheelSample

/-- The callback runs in normal mode. -/
def Normal (op : WheelSample) : Prop :=
  op.study.adcEnabled = 0 ∧ op.config.byte ConfigData.adcWheelGate = 0

/-- The callback runs in steering mode. -/
def Steering (op : WheelSample) : Prop :=
  op.study.adcEnabled = 0 ∧ op.config.byte ConfigData.adcWheelGate ≠ 0

/-- The sector of the sample in normal mode. -/
def sector (op : WheelSample) : U8 := normalDir op.study.adcType op.adcVal

/-- The sector of the sample in steering mode. -/
def steeringSector (op : WheelSample) : U8 := steeringDir op.adcVal

instance (op : WheelSample) : Decidable op.Normal := inferInstanceAs (Decidable (_ ∧ _))

instance (op : WheelSample) : Decidable op.Steering := inferInstanceAs (Decidable (_ ∧ _))

end WheelSample

end MtcDrivers
