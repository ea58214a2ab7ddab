import Mathlib.Data.Stream.Defs
import Mathlib.Logic.Function.Basic
import MtcDrivers.Bits.ShiftRegister
import MtcDrivers.Car.State
import MtcDrivers.Proc.Basic
import MtcDrivers.Proc.History

/-!
# The LCD of the panel

`Lcd_work`, which clocks a command and the page out to the LCD, and `lcd_flash`, which changes the page
and schedules the work. The wall clock is arbitrary: its `k`-th reading is the `k`-th entry of a stream.
What the functions do is recorded in a log, newest entry first.
-/

namespace MtcDrivers

namespace Lcd

/-- The lines of the LCD. -/
inductive Gpio where
  | cs
  | clk
  | dat
deriving DecidableEq, Repr

/-- What the functions do. -/
inductive Event where
  | directionOutput (p : Gpio) (v : Bool)
  | mutexLock
  | mutexUnlock
  /-- `del_timer_sync` on the timer of the work, and `clear_bit` of its pending bit. -/
  | cancelWork
  /-- `schedule_delayed_work` with the delay in milliseconds. -/
  | scheduleWork (ms : ℕ)
deriving DecidableEq, Repr

structure World where
  /-- `lcd_page` -/
  page : Vector U8 32
  /-- `lcd_enabled` -/
  enabled : U32
  /-- `lcd_mutex` is held. -/
  locked : Bool
  /-- The successive readings of the wall clock, in microseconds. -/
  clock : Stream' ℕ
  /-- The levels that the lines are driven to. -/
  lines : Gpio → Bool
  log : List Event

namespace World

def emit (w : World) (e : Event) : World := { w with log := e :: w.log }

def setLine (w : World) (p : Gpio) (v : Bool) : World :=
  { w with lines := Function.update w.lines p v, log := .directionOutput p v :: w.log }

def setLocked (w : World) (locked : Bool) : World := { w with locked := locked }

/-- `lcd_page[i] = b` -/
def setPage (w : World) (i : ℕ) (b : U8) : World := { w with page := w.page.setIfInBounds i b }

/-- `lcd_page[i]` -/
def pageByte (w : World) (i : ℕ) : U8 := w.page[i]?.getD 0

end World

def gpioDirectionOutput (p : Gpio) (v : Bool) : Proc World Unit := Proc.modify (·.setLine p v)

/-- `mutex_lock(&lcd_mutex)`: it waits as long as the mutex is held. -/
def mutexLock : Proc World Unit :=
  Proc.repeatUntil do
    let w ← Proc.get
    if w.locked then
      return .inl ()
    else
      Proc.modify fun w => (w.setLocked true).emit .mutexLock
      return .inr ()

def mutexUnlock : Proc World Unit := Proc.modify fun w => (w.setLocked false).emit .mutexUnlock

/-- `tv.tv_usec` after `do_gettimeofday(&tv)`. -/
def tvUsec : Proc World ℕ := do
  let w ← Proc.get
  Proc.modify fun w => { w with clock := w.clock.tail }
  return w.clock.head % 1000000

/-- `lcd_delay` -/
def lcdDelay : Proc World Unit := do
  let usec ← tvUsec
  Proc.repeatUntil do
    let now ← tvUsec
    let check := if now < usec then now + 1000000 - usec else now - usec
    if check ≤ 5 then return .inl () else return .inr ()

/-- One clock pulse with the level `bit` on the data line. -/
def clockBit (bit : Bool) (shifted : U32) : Proc World U32 := do
  gpioDirectionOutput .clk false
  gpioDirectionOutput .dat bit
  lcdDelay
  gpioDirectionOutput .clk true
  lcdDelay
  return shifted

/-- One pass of the loop over the bits of the command, with `v` and `i`. -/
def commandPass (b : U32 × ℕ) : Proc World ((U32 × ℕ) ⊕ Unit) := do
  if 0 < b.2 then
    let v ← clockBit (b.1 &&& 0x100 ≠ 0) (b.1 <<< 1)
    return .inl (v, b.2 - 1)
  else return .inr ()

/-- One pass of `while (4)`: it has no way out. -/
def nibblePass (v : U32) : Proc World (U32 ⊕ Unit) := do
  let v ← clockBit (v &&& 1 ≠ 0) (v.sshiftRight 1)
  return .inl v

/-- One pass of the loop over the page. -/
def pagePass (i : ℕ) : Proc World (ℕ ⊕ Unit) := do
  if i < 32 then
    let w ← Proc.get
    Proc.iter nibblePass ((w.pageByte i).setWidth 32)
    return .inl (i + 1)
  else return .inr ()

/-- `Lcd_work` up to the loop over the page. -/
def lcdWorkHead : Proc World Unit := do
  mutexLock
  gpioDirectionOutput .cs false
  lcdDelay
  Proc.iter commandPass (320, 9)

/-- `Lcd_work` -/
def lcdWork : Proc World Unit := do
  lcdWorkHead
  Proc.iter pagePass 0
  gpioDirectionOutput .cs true
  gpioDirectionOutput .dat true
  lcdDelay
  mutexUnlock

/-- The first nine bytes of `symbol_map`. -/
def symbolMap : List U8 := [0x00, 0x40, 0x80, 0xC0, 0x42, 0x02, 0x81, 0x41, 0xC1]

/-- Set or clear the segment `seg` of the page. -/
def setSegment (seg : U8) (on : Bool) (w : World) : World :=
  let i := (seg &&& 0x1F#8).toNat
  let bit := 1#8 <<< (seg >>> 6)
  w.setPage i (if on then w.pageByte i ||| bit else w.pageByte i &&& ~~~bit)

/-- `lcd_flash` -/
def lcdFlash (mask : U32) : Proc World Unit := do
  let w ← Proc.get
  if w.enabled = 0 then return ()
  else
    Proc.modify (·.emit .cancelWork)
    mutexLock
    Proc.modify fun w => ((symbolMap.zipIdx).foldl
      (fun w segment => setSegment segment.1 (mask.sshiftRight segment.2 &&& 1 ≠ 0) w) w)
    mutexUnlock
    Proc.modify (·.emit (.scheduleWork 0))

/-! ## What a refresh is for -/

/-- The data bit at every rising clock of the events, oldest first; `dat` is the level before them. -/
def clocked : Bool → List Event → List Bool
  | _, [] => []
  | _, .directionOutput .dat v :: es => clocked v es
  | dat, .directionOutput .clk true :: es => dat :: clocked dat es
  | dat, _ :: es => clocked dat es

/-- The bits of a refresh: the command `0x140`, and the low four bits of each entry, lowest first. -/
def refreshBits (page : Vector U8 32) : List Bool :=
  ShiftRegister.msbFirst (0x140 : BitVec 9) ++
    page.toList.flatMap fun b => [b.getLsbD 0, b.getLsbD 1, b.getLsbD 2, b.getLsbD 3]

/-- Between `w` and `w'` the page was sent, and the LCD is deselected and unlocked again. -/
structure Refreshed (w w' : World) : Prop where
  bits : clocked (w.lines .dat) (History.since World.log w w') = refreshBits w.page
  pulses : (History.since World.log w w').count (.directionOutput .clk true) = 137
  released : w'.locked = false
  deselected : w'.lines .cs = true

end Lcd

end MtcDrivers
