import Mathlib.Data.Stream.Defs
import Mathlib.Logic.Function.Basic
import MtcDrivers.Car.State
import MtcDrivers.Proc.Basic

/-!
# The virtual serial ports

`vs_send`, which builds a frame in a fresh buffer and inserts its bytes one by one into the flip buffers
of the port's tty. `vs_rx` may be cleared by the reader of the port at any time: the `k`-th read of it
returns the `k`-th entry of a stream. The allocation is assumed to succeed, and the number of data bytes
not to be negative.
-/

namespace MtcDrivers

namespace Vs

/-- The used part of a `struct tty_buffer`: as many characters and flags as `used` counts. -/
structure TtyBuffer where
  chars : List U8
  flags : List U8
  size : ℕ
deriving DecidableEq

namespace TtyBuffer

def used (b : TtyBuffer) : ℕ := b.chars.length

/-- Store a character and its flag at `used`, and count it. -/
def append (b : TtyBuffer) (flag char : U8) : TtyBuffer :=
  { b with chars := b.chars ++ [char], flags := b.flags ++ [flag] }

end TtyBuffer

/-- The flip buffers of a tty. -/
structure Tty where
  /-- The buffers before the tail, oldest first, those already consumed included. -/
  older : List TtyBuffer
  tail : Option TtyBuffer
  /-- How many of the inserted bytes a push has covered. -/
  pushed : ℕ
deriving DecidableEq

namespace Tty

/-- All bytes inserted so far. -/
def inserted (t : Tty) : List U8 := t.older.flatMap TtyBuffer.chars ++ (t.tail.map TtyBuffer.chars).getD []

end Tty

/-- The functions of the tty core, which are not in the repository. -/
structure TtyCore where
  /-- `tty_insert_flip_string_flags` with one character. -/
  insertFlipStringFlags : U8 → U8 → Tty → Tty
  /-- `tty_flip_buffer_push`. -/
  flipBufferPush : Tty → Tty

/-- What the driver relies on: an inserted character goes behind the others, and a push covers
everything that was inserted. -/
structure TtyCore.Documented (core : TtyCore) : Prop where
  inserted_insert : ∀ char flag t,
    (core.insertFlipStringFlags char flag t).inserted = t.inserted ++ [char]
  inserted_push : ∀ t, (core.flipBufferPush t).inserted = t.inserted
  pushed_push : ∀ t, (core.flipBufferPush t).pushed = t.inserted.length

/-- `struct mtc_vs_port`, as far as `vs_send` uses it. -/
structure Port where
  /-- The values that successive reads of `vs_rx` will find. -/
  vsRx : Stream' U32
  /-- `uart_port.icount.rx` -/
  icountRx : U32
  /-- `lock` is held. -/
  locked : Bool
  tty : Tty

namespace Port

/-- A read of `vs_rx` has happened. -/
def popRx (port : Port) : Port := { port with vsRx := port.vsRx.tail }

/-- `++uart_port.icount.rx` -/
def countRx (port : Port) : Port := { port with icountRx := port.icountRx + 1 }

def setLocked (locked : Bool) (port : Port) : Port := { port with locked := locked }

/-- `tty_flip_buffer_push` on the tty of the port. -/
def push (core : TtyCore) (port : Port) : Port := { port with tty := core.flipBufferPush port.tty }

/-- One byte goes into the tail while there is room, and through the core otherwise. -/
def insertByte (core : TtyCore) (chars : U8) (port : Port) : Port :=
  match port.tty.tail with
  | some tail =>
    if tail.used < tail.size then
      { port with tty := { port.tty with tail := some (tail.append 0 chars) } }
    else { port with tty := core.insertFlipStringFlags chars 0 port.tty }
  | none => { port with tty := core.insertFlipStringFlags chars 0 port.tty }

end Port

/-- The module's globals, with `call_active` of the car status. -/
structure World where
  /-- `vs_uart_init` -/
  uartInit : Bool
  callActive : U8
  /-- `vs_portlist.vss_dev` -/
  vssDev : Fin 4 → Port

/-- Change one port. -/
def World.setPort (w : World) (p : Fin 4) (f : Port → Port) : World :=
  { w with vssDev := Function.update w.vssDev p (f (w.vssDev p)) }

section Send

variable (core : TtyCore) (p : Fin 4)

def modifyPort (f : Port → Port) : Proc World Unit := Proc.modify (·.setPort p f)

/-- A read of `vs_port->vs_rx`. -/
def readVsRx : Proc World U32 := do
  let w ← Proc.get
  modifyPort p Port.popRx
  return (w.vssDev p).vsRx.head

/-- `mutex_lock(&vs_port->lock)`: it waits as long as the mutex is held. -/
def mutexLock : Proc World Unit :=
  Proc.repeatUntil do
    let w ← Proc.get
    if (w.vssDev p).locked then
      return .inl ()
    else
      modifyPort p (Port.setLocked true)
      return .inr ()

def mutexUnlock : Proc World Unit := modifyPort p (Port.setLocked false)

def countRx : Proc World Unit := modifyPort p Port.countRx

/-- The local variables of the loop that copies the data: the allocated buffer and the two pointers, as
offsets into `data` and `cmd_data`. -/
structure Copy where
  data : ℕ → U8
  dataPos : ℕ
  cmdP : ℕ
  checksum : U8

/-- One pass of the `do`-loop over the data bytes. -/
def copyPass (cmdData : ℕ → U8) (count : ℕ) (c : Copy) : Proc World (Copy ⊕ Copy) := do
  let cmdByte := cmdData c.cmdP
  let c : Copy :=
    ⟨Function.update c.data (c.dataPos + 1) cmdByte, c.dataPos + 1, c.cmdP + 1, c.checksum + cmdByte⟩
  if c.cmdP ≠ count then return .inl c else return .inr c

/-- A push, if the condition holds. -/
def pushIf (c : Bool) : Proc World Unit := if c then modifyPort p (Port.push core) else pure ()

/-- One pass of the `do`-loop over the bytes of the frame, with the index `i`. -/
def insertPass (data : ℕ → U8) (size i : ℕ) : Proc World (ℕ ⊕ Unit) := do
  modifyPort p (Port.insertByte core (data i))
  let flipBuf : Bool := i &&& 0xF = 15
  pushIf core p flipBuf
  if size ≤ i + 1 then
    -- `LABEL_22`: the last byte may have ended with a push
    pushIf core p (!flipBuf)
    return .inr ()
  else
    let vsRx ← readVsRx p
    countRx p
    if vsRx ≠ 0 then return .inl (i + 1) else return .inr ()

/-- The zeroed buffer with the first three bytes of the frame. -/
def header (cmd count : U8) : ℕ → U8 :=
  Function.update (Function.update (Function.update (fun _ => 0) 1 cmd) 0 46) 2 count

/-- The bytes of a frame, built in the buffer `data`. -/
def buildFrame (cmd : U8) (cmdData : ℕ → U8) (count : ℕ) : Proc World (ℕ → U8) := do
  let checksum := BitVec.ofNat 8 count + cmd
  let data := header cmd (BitVec.ofNat 8 count)
  if count ≠ 0 then
    let c ← Proc.iter (copyPass cmdData count) ⟨data, 2, 0, checksum⟩
    return Function.update c.data (count + 3) (~~~c.checksum)
  else
    return Function.update data 3 (~~~checksum)

/-- `vs_send` -/
def vsSend (cmd : U8) (cmdData : ℕ → U8) (count : ℕ) : Proc World U32 := do
  let w ← Proc.get
  if w.uartInit ∧ w.callActive ≠ 0 then
    let enabled ← readVsRx p
    if enabled ≠ 0 then
      let size := count + 4
      mutexLock p
      let data ← buildFrame cmd cmdData count
      let vsRx ← readVsRx p
      countRx p
      if vsRx ≠ 0 then Proc.iter (insertPass core p data size) 0 else pure ()
      mutexUnlock p
      return 0
    else return (BitVec.ofBool w.uartInit).setWidth 32
  else return (BitVec.ofBool w.uartInit).setWidth 32

end Send

/-- A call of `vs_send`: the port, the command, the caller's memory and the number of data bytes, which
the frame can carry. -/
structure Call where
  port : Fin 4
  cmd : U8
  cmdData : ℕ → U8
  count : ℕ
  small : count ≤ 255

/-- The calls, one after the other. -/
def sendAll (core : TtyCore) : List Call → Proc World Unit
  | [] => pure ()
  | c :: calls => do
    let _ ← vsSend core c.port c.cmd c.cmdData c.count
    sendAll core calls

end Vs

end MtcDrivers
