import Mathlib.Data.Int.Notation
import Mathlib.Data.Stream.Defs
import Mathlib.Logic.Function.Basic
import MtcDrivers.Proc.Basic
import MtcDrivers.Car.State

/-!
# The DVD bus: lines, clock and observable effects

The driver talks to the DVD drive over three lines that either side may pull. The drive, the passage of
time and `dvd_power_on`, which other threads clear, are arbitrary: the `k`-th read of a line, of the clock
or of the variable returns the `k`-th entry of a stream. What the driver does is recorded in a log, newest
entry first.
-/

namespace MtcDrivers

namespace Dvd

/-- The lines of the drive. -/
inductive Gpio where
  | data
  | stb
  | ack
deriving DecidableEq, Repr

/-- The errors that are printed, with their number and the bit that was on its way. -/
inductive ErrorText where
  /-- `"!!!!!!! DSND ERROR n -bit"` -/
  | dsnd (n : ℕ) (bit : Option ℕ)
  /-- `"!!!!!!! DREV ERROR n -bit"` -/
  | drev (n : ℕ) (bit : Option ℕ)
deriving DecidableEq, Repr

/-- What the driver does and sees. -/
inductive Event where
  /-- A read of the line returned the level `v`. -/
  | level (p : Gpio) (v : Bool)
  | directionOutput (p : Gpio) (v : Bool)
  | directionInput (p : Gpio)
  | mutexLock
  | mutexUnlock
  | disableIrq
  | enableIrq
  /-- `dvd_add_work` -/
  | addWork (cmd1 cmd2 : U32)
  | printk (text : ErrorText)
deriving DecidableEq, Repr

/-- Everything the bus functions can observe or change. -/
structure World where
  /-- The levels that successive reads of a line will return. -/
  levels : Gpio → Stream' Bool
  /-- The successive readings of the wall clock, in microseconds. -/
  clock : Stream' ℕ
  /-- The values that successive reads of `dvd_power_on` will find. -/
  power : Stream' Bool
  /-- The level that the driver drives on a line; `none` is an input. -/
  lines : Gpio → Option Bool
  /-- `dvd_rev_mutex` is held. -/
  locked : Bool
  /-- What happened so far, newest first. -/
  log : List Event

namespace World

def emit (w : World) (e : Event) : World := { w with log := e :: w.log }

def setLine (w : World) (p : Gpio) (v : Option Bool) : World :=
  { w with lines := Function.update w.lines p v }

def setLocked (w : World) (locked : Bool) : World := { w with locked := locked }

def popLevel (w : World) (p : Gpio) : World :=
  { w with levels := Function.update w.levels p (w.levels p).tail }

def popClock (w : World) : World := { w with clock := w.clock.tail }

def popPower (w : World) : World := { w with power := w.power.tail }

end World

/-! ## Primitives -/

def emit (e : Event) : Proc World Unit := Proc.modify (·.emit e)

def printk (text : ErrorText) : Proc World Unit := emit (.printk text)

def gpioGetValue (p : Gpio) : Proc World Bool := do
  let w ← Proc.get
  Proc.modify fun w' => (w'.popLevel p).emit (.level p (w.levels p).head)
  return (w.levels p).head

def gpioDirectionOutput (p : Gpio) (v : Bool) : Proc World Unit :=
  Proc.modify fun w => (w.setLine p (some v)).emit (.directionOutput p v)

def gpioDirectionInput (p : Gpio) : Proc World Unit :=
  Proc.modify fun w => (w.setLine p none).emit (.directionInput p)

/-- `mutex_lock`: it waits as long as the mutex is held. -/
def mutexLock : Proc World Unit :=
  Proc.repeatUntil do
    let w ← Proc.get
    if w.locked then
      return .inl ()
    else
      Proc.modify fun w => (w.setLocked true).emit .mutexLock
      return .inr ()

def mutexUnlock : Proc World Unit := Proc.modify fun w => (w.setLocked false).emit .mutexUnlock

/-- `do_gettimeofday`, as microseconds since the epoch. -/
def doGettimeofday : Proc World ℕ := do
  let w ← Proc.get
  Proc.modify (·.popClock)
  return w.clock.head

/-- `tv.tv_usec` after `do_gettimeofday(&tv)`. -/
def tvUsec : Proc World ℤ := do
  let t ← doGettimeofday
  return ((t % 1000000 : ℕ) : ℤ)

/-- A read of `dvd_dev->dvd_power_on`. -/
def dvdPowerOn : Proc World Bool := do
  let w ← Proc.get
  Proc.modify (·.popPower)
  return w.power.head

/-- Whether 50 milliseconds have passed from the microsecond part `timeout` to `usec`. -/
def timedOut (timeout usec : ℤ) : Bool :=
  (if usec < timeout then usec + 1000000 else usec) - timeout > 49999

/-- `CheckTimeOut` -/
def checkTimeOut (timeout : ℤ) : Proc World Bool := do
  let usec ← tvUsec
  return timedOut timeout usec

/-- The wait that the bus functions write as a `while (1)`, a `while (read)` or a `do`-loop: poll until the
    level is seen (`true`) or the time since `timeout` is over (`false`). -/
def waitFrom (timeout : ℤ) (p : Gpio) (level : Bool) : Proc World Bool :=
  Proc.repeatUntil do
    let v ← gpioGetValue p
    if v = level then
      return .inr true
    else if ← checkTimeOut timeout then
      return .inr false
    else
      return .inl ()

/-- A wait from now on. -/
def waitLevel (p : Gpio) (level : Bool) : Proc World Bool := do
  let timeout ← tvUsec
  waitFrom timeout p level

end Dvd

end MtcDrivers
