import MtcDrivers.Framing.Basic
import MtcDrivers.Vs.Port

/-!
# The frames of the virtual serial ports

A frame carries a command and up to 255 data bytes: a header byte, the command, the number of data
bytes, the data, and the complement of the 8-bit sum of everything behind the header.
-/

namespace MtcDrivers

namespace Vs

/-- What a frame carries. -/
structure Frame where
  cmd : U8
  data : List U8
  small : data.length ≤ 255
deriving DecidableEq

namespace Frame

/-- The number of data bytes, as it is sent. -/
def count (f : Frame) : U8 := BitVec.ofNat 8 f.data.length

/-- The complement of the sum of `cmd`, `count` and the data. -/
def checksum (cmd count : U8) (data : List U8) : U8 := ~~~(data.foldl (fun sum b => sum + b) (cmd + count))

/-- The bytes of a frame. -/
def bytes (f : Frame) : List U8 :=
  0x2E :: f.cmd :: f.count :: (f.data ++ [checksum f.cmd f.count f.data])

/-- Read a header, take as many data bytes as it says and check the last byte. -/
def parse : List U8 → Option (Frame × List U8)
  | header :: cmd :: count :: rest =>
    if h : header = 0x2E ∧ (rest.drop count.toNat).head? =
        some (checksum cmd count (rest.take count.toNat)) then
      have small : (rest.take count.toNat).length ≤ 255 := by
        have := count.isLt
        rw [List.length_take]
        omega
      some (⟨cmd, rest.take count.toNat, small⟩, (rest.drop count.toNat).tail)
    else none
  | _ => none

theorem toNat_count (f : Frame) : f.count.toNat = f.data.length := by
  have := f.small
  rw [count, BitVec.toNat_ofNat]
  exact Nat.mod_eq_of_lt (by omega)

theorem parse_bytes (f : Frame) (rest : List U8) : parse (f.bytes ++ rest) = some (f, rest) := by
  have htake : (f.data ++ checksum f.cmd f.count f.data :: rest).take f.count.toNat = f.data := by
    rw [toNat_count, List.take_left]
  have hdrop : (f.data ++ checksum f.cmd f.count f.data :: rest).drop f.count.toNat =
      checksum f.cmd f.count f.data :: rest := by
    rw [toNat_count, List.drop_left]
  have hbytes : f.bytes ++ rest =
      0x2E :: f.cmd :: f.count :: (f.data ++ checksum f.cmd f.count f.data :: rest) := by
    simp [bytes]
  rw [hbytes, parse]
  simp only [htake, hdrop, List.head?_cons, and_self, dif_pos, List.tail_cons]

end Frame

/-- The data bytes of a call. -/
def payload (cmdData : ℕ → U8) (count : ℕ) : List U8 := (List.range count).map cmdData

/-- What a call is to send. -/
def Call.frame (c : Call) : Frame where
  cmd := c.cmd
  data := payload c.cmdData c.count
  small := by simpa [payload] using c.small

/-- The frames that the calls are to send on the port `p`. -/
def framesOf (p : Fin 4) (calls : List Call) : List Frame :=
  (calls.filter fun c => c.port = p).map Call.frame

/-- The port can send: it is open, a call is active, and no other call holds its mutex. It stays so while
every read of `vs_rx` finds it set. -/
structure World.Enabled (w : World) (p : Fin 4) : Prop where
  init : w.uartInit = true
  active : w.callActive ≠ 0
  rx : ∀ i, (w.vssDev p).vsRx.get i ≠ 0
  free : (w.vssDev p).locked = false

/-- Every inserted byte has been covered by a push. -/
def Port.Covered (port : Port) : Prop := port.tty.pushed = port.tty.inserted.length

/-- The frames as a framing of the byte stream. -/
def framing : Framing Frame U8 where
  encode := Frame.bytes
  decode := Frame.parse
  encode_ne_nil _ := List.cons_ne_nil _ _
  decode_encode := Frame.parse_bytes

end Vs

/-! ## Raw bytes on the virtual serial ports

`vs_send_raw`, which inserts the bytes of its caller as they are, and its calls mixed with those of `vs_send`. The
reader of a port may close it at any time, and then a call ends where it is. A negative number of bytes is
no pass of the loop, as 0 is. -/

namespace Vs

section SendRaw

variable (core : TtyCore) (p : Fin 4)

/-- One pass of the `for`-loop with `i` and `flip_buf`; `none` is `LABEL_8`. -/
def rawPass (data : ℕ → U8) (count : ℕ) (b : ℕ × Bool) : Proc World ((ℕ × Bool) ⊕ Option Bool) := do
  if b.1 < count then
    countRx p
    let vsRx ← readVsRx p
    if vsRx ≠ 0 then
      modifyPort p (Port.insertByte core (data b.1))
      let flipBuf : Bool := b.1 &&& 0xF = 15
      pushIf core p flipBuf
      return .inl (b.1 + 1, flipBuf)
    else return .inr none
  else return .inr (some b.2)

/-- `vs_send_raw`; `stale` is what `flip_buf` holds before it is set. -/
def vsSendRaw (data : ℕ → U8) (count : ℕ) (stale : Bool) : Proc World Unit := do
  let w ← Proc.get
  if w.uartInit ∧ w.callActive ≠ 0 then
    let enabled ← readVsRx p
    if enabled ≠ 0 then
      mutexLock p
      let flipBuf ← Proc.iter (rawPass core p data count) (0, stale)
      pushIf core p (flipBuf = some false)
      mutexUnlock p
    else pure ()
  else pure ()

end SendRaw

/-- A call of one of the two functions. -/
inductive PortCall where
  | frame (c : Call)
  | raw (port : Fin 4) (data : ℕ → U8) (count : ℕ) (stale : Bool)

namespace PortCall

def port : PortCall → Fin 4
  | frame c => c.port
  | raw port _ _ _ => port

/-- The bytes that the call is to insert. -/
def wire : PortCall → List U8
  | frame c => c.frame.bytes
  | raw _ data count _ => payload data count

def run (core : TtyCore) : PortCall → Proc World Unit
  | frame c => do
    let _ ← vsSend core c.port c.cmd c.cmdData c.count
    return ()
  | raw port data count stale => vsSendRaw core port data count stale

end PortCall

/-- The calls, one after the other. -/
def sendMixed (core : TtyCore) : List PortCall → Proc World Unit
  | [] => pure ()
  | c :: calls => do
    c.run core
    sendMixed core calls

/-- The bytes that the calls are to insert on a port. -/
def wiresOf (p : Fin 4) (calls : List PortCall) : List (List U8) :=
  (calls.filter fun c => c.port = p).map PortCall.wire

/-- What a port has got from some calls: of each one a first part, in their order and nothing else. As long as the
    port is enabled, nothing is cut off, and everything is pushed. -/
structure Received (w : World) (p : Fin 4) (wires : List (List U8)) (port : Port) : Prop where
  parts : ∃ parts : List (List U8), List.Forall₂ (fun part wire => part <+: wire) parts wires ∧
    port.tty.inserted = (w.vssDev p).tty.inserted ++ parts.flatten ∧ (w.Enabled p → parts = wires)
  free : port.locked = false
  covered : w.Enabled p → wires.flatten ≠ [] ∨ (w.vssDev p).Covered → port.Covered

end Vs

end MtcDrivers
