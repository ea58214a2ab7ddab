import Mathlib.Data.Int.Notation
import Mathlib.Data.Stream.Defs
import Mathlib.Logic.Function.Basic
import MtcDrivers.Proc.Basic
import MtcDrivers.Car.State

/-!
# The MCU link: pins, clock and observable effects

The driver talks to the MCU by toggling three pins in software. The peer and the passage of time are
arbitrary: the `k`-th read of a pin returns the `k`-th entry of that pin's stream, and the `k`-th
reading of the wall clock the `k`-th entry of the clock stream. Delays (`udelay`) have no effect of
their own, since the streams may hold anything after them.

The world records what the driver does in a log, newest entry first. Functions of other translation
units that the link calls (`vs_send`, `car_add_work`, `rds_input`, ...) are log entries.
-/

namespace MtcDrivers

/-- The pins of the MCU link (`enum mtc_gpio`). -/
inductive Gpio where
  | mcuClk
  | mcuDin
  | mcuDout
deriving DecidableEq, Repr

/-- One pin of the port: its direction and the level in its output latch. -/
structure Pad where
  isOutput : Bool
  latch : Bool
deriving DecidableEq, Repr

/-- The interrupt and mutex operations of the link, on the `MCU_DIN` line and on `car_lock`. -/
inductive SyncOp where
  | disableIrq
  | enableIrq
  | mutexLock
  | mutexUnlock
deriving DecidableEq, Repr

/-- What the driver does and sees. -/
inductive Event where
  /-- `getPin` or `getPin2` returned the level `v`. -/
  | level (p : Gpio) (v : Bool)
  | setValue (p : Gpio) (v : Bool)
  | directionOutput (p : Gpio) (v : Bool)
  | directionInput (p : Gpio)
  | sync (op : SyncOp)
  /-- `process_mcu_command` was entered with this argument. -/
  | command (cmd : U32)
  /-- `arm_rev_bytes` returned `ok`, having stored `data` from offset `off` of an array of `size`
      bytes. -/
  | received (size off : ℕ) (ok : Bool) (data : List U8)
  /-- Byte `i` of a local receive buffer was used; `rcvd` tells whether it was received before. -/
  | load (i : ℕ) (rcvd : Bool)
  /-- `arm_rev_ack` returned `ok`. -/
  | ack (ok : Bool)
  | vsSend (port : ℕ) (cmd : U8) (data : List U8)
  | vsSendRaw (port : ℕ) (data : List U8)
  | carAddWork (a1 a2 flush : ℕ)
  | rdsInput (a1 : U32)
  | rdsInput2 (a1 : U32)
  | rdsInput3A (rds : List U8)
  | rdsInput3 (rds : List U8)
  | hitRadioSta (a1 a2 a3 a4 a5 : U8)
  | backlightUpdate
  | printk (fmt : String) (args : List ℕ)
deriving DecidableEq

/-- The indeterminate contents of the locals of `process_mcu_command` when it is entered: the
    variable `r`, which some cases never set, and the bytes of its receive buffers. -/
structure Frame where
  r : ℤ
  bytes : ℕ → U8

/-- Everything a link function can observe or change. -/
structure World where
  /-- The levels that successive reads of a pin will return. -/
  levels : Gpio → Stream' Bool
  /-- The successive readings of the wall clock, in microseconds. -/
  clock : Stream' ℕ
  /-- The successive stack frames of `process_mcu_command`. -/
  frames : Stream' Frame
  pads : Gpio → Pad
  car : CarStruct
  /-- What happened so far, newest first. -/
  log : List Event

/-- Procedures of the MCU link. -/
abbrev Link := Proc World

namespace World

def emit (w : World) (e : Event) : World := { w with log := e :: w.log }

def setPad (w : World) (p : Gpio) (d : Pad) : World :=
  { w with pads := Function.update w.pads p d }

def popLevel (w : World) (p : Gpio) : World :=
  { w with levels := Function.update w.levels p (w.levels p).tail }

def popClock (w : World) : World := { w with clock := w.clock.tail }

def popFrame (w : World) : World := { w with frames := w.frames.tail }

def modifyCar (w : World) (f : CarStruct → CarStruct) : World := { w with car := f w.car }

end World

/-! ## Primitives -/

def emit (e : Event) : Link Unit := Proc.modify (·.emit e)

def modifyCar (f : CarStruct → CarStruct) : Link Unit := Proc.modify (·.modifyCar f)

def modifyStatus (f : CarStatus → CarStatus) : Link Unit :=
  modifyCar fun c => { c with status := f c.status }

def printk (fmt : String) (args : List ℕ) : Link Unit := emit (.printk fmt args)

def udelay (_usec : ℕ) : Link Unit := pure ()

def gpioGetValue (p : Gpio) : Link Bool := do
  let w ← Proc.get
  Proc.modify (·.popLevel p)
  return (w.levels p).head

def gpioSetValue (p : Gpio) (v : Bool) : Link Unit := do
  Proc.modify fun w => w.setPad p { w.pads p with latch := v }
  emit (.setValue p v)

def gpioDirectionOutput (p : Gpio) (v : Bool) : Link Unit := do
  Proc.modify fun w => w.setPad p { isOutput := true, latch := v }
  emit (.directionOutput p v)

def gpioDirectionInput (p : Gpio) : Link Unit := do
  Proc.modify fun w => w.setPad p { w.pads p with isOutput := false }
  emit (.directionInput p)

/-- `do_gettimeofday`, as microseconds since the epoch. -/
def doGettimeofday : Link ℕ := do
  let w ← Proc.get
  Proc.modify (·.popClock)
  return w.clock.head

/-- The locals of the next call of `process_mcu_command`. -/
def popFrame : Link Frame := do
  let w ← Proc.get
  Proc.modify (·.popFrame)
  return w.frames.head

/-! ## Time -/

/-- `GetCurTimer`: the microsecond part of the wall clock. -/
def getCurTimer : Link ℤ := do
  let t ← doGettimeofday
  return ((t % 1000000 : ℕ) : ℤ)

/-- Whether a quarter of a second has passed from the microsecond part `timeout` to `usec`. -/
def timedOut (timeout usec : ℤ) : Bool :=
  (if usec < timeout then usec + 1000000 else usec) - timeout > 249999

/-- `CheckTimeOut`. -/
def checkTimeOut (timeout : ℤ) : Link Bool := do
  let t ← doGettimeofday
  return timedOut timeout ((t % 1000000 : ℕ) : ℤ)

/-! ## Debounced reads -/

/-- The loop of `getPin` and `getPin2`: read the pin twice, `delay` microseconds apart, until both
    reads agree. -/
def readSettled (delay : ℕ) (p : Gpio) : Link Bool := do
  let value ← Proc.repeatUntil do
    let value ← gpioGetValue p
    udelay delay
    let again ← gpioGetValue p
    if value ≠ again then return .inl () else return .inr value
  emit (.level p value)
  return value

def getPin (p : Gpio) : Link Bool := readSettled 1 p

def getPin2 (p : Gpio) : Link Bool := readSettled 5 p

/-- The wait that the link functions write as `timeout = GetCurTimer(); while (read != level) if
    (CheckTimeOut(timeout)) ...`, and also as a `do`-loop with the same tests: poll until the level
    is seen (`true`) or the timeout has passed (`false`). -/
def waitLevel (read : Link Bool) (level : Bool) : Link Bool := do
  let timeout ← getCurTimer
  Proc.repeatUntil do
    let v ← read
    if v = level then
      return .inr true
    else if ← checkTimeOut timeout then
      return .inr false
    else
      return .inl ()

/-- The wait without a timeout: `while (read != level) ;`. -/
def spinUntil (read : Link Bool) (level : Bool) : Link Unit :=
  Proc.repeatUntil do
    let v ← read
    if v = level then return .inr () else return .inl ()

end MtcDrivers
