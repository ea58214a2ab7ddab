import Mathlib.Data.Int.Notation
import Mathlib.Data.Stream.Defs
import MtcDrivers.Ioctl.Text
import MtcDrivers.Proc.Basic
import MtcDrivers.Proc.History
import MtcDrivers.Radio.State

/-!
# The panel tool

`goodix_tool_read` and `goodix_tool_write`, with the I2C functions below them. The panel is a memory of registers;
whether a transfer succeeds is arbitrary, and a transfer that fails moves nothing. The buffers are the memory from
their start on, and every store is recorded with its range, newest first.
-/

namespace MtcDrivers

namespace PanelTool

/-- `struct goodix_tool_data` -/
structure Header where
  len : U16
  comfirm : U8
  sleepTime : U16
  dataLen : U16
  addr : U16
  comfirmAddr : U8
  retry : U8
deriving DecidableEq, Repr

/-- The header in the 20 bytes from a pointer on. -/
def Header.ofBytes (h : List U8) : Header where
  len := h.getD 1 0 ++ h.getD 0 0
  comfirm := h.getD 2 0
  sleepTime := h.getD 9 0 ++ h.getD 8 0
  dataLen := h.getD 11 0 ++ h.getD 10 0
  addr := h.getD 13 0 ++ h.getD 12 0
  comfirmAddr := h.getD 14 0
  retry := h.getD 15 0

/-- The printed errors. -/
inductive ErrorText where
  /-- `"<<-GTP-ERROR->> [READ]Read data failed!"` -/
  | readFailed
  /-- `"<<-GTP-ERROR->> [READ]Comfirm fail!"` -/
  | readComfirm
  /-- `"<<-GTP-ERROR->> [WRITE]Write data failed!"` -/
  | writeFailed
  /-- `"<<-GTP-ERROR->> [WRITE]Comfirm fail!"` -/
  | writeComfirm
  /-- `"<<-GTP-ERROR->> copy_from_user failed."` -/
  | copyFailed
deriving DecidableEq, Repr

/-- What the functions do. -/
inductive Event where
  | printk (text : ErrorText)
  | msleep (ms : U16)
  /-- A store in `goodix_tool_buf`. -/
  | storeBuf (off len : ℕ)
  /-- A store in `goodix_tool_buf2`. -/
  | storeBuf2 (off len : ℕ)
  /-- A store in `userbuf`. -/
  | storeUser (off : ℕ) (bytes : List U8)
  /-- `gtp_read` of the buffer, and whether it returned more than 0. -/
  | gtpRead (len : ℕ) (ok : Bool)
  /-- `gtp_write` of the bytes from `goodix_tool_buf[off]` on, and whether it returned more than 0. -/
  | gtpWrite (off : ℕ) (bytes : List U8) (ok : Bool)
deriving DecidableEq, Repr

/-- The functions that `gtp_read` and `gtp_write` point to. -/
inductive I2cFunc where
  | noExtra
  | withExtra
deriving DecidableEq, Repr

/-- Everything the tool can observe or change. -/
structure Tool where
  /-- `goodix_tool_data` -/
  header : Header
  /-- `goodix_tool_buf` -/
  buf : ℕ → U8
  /-- `goodix_tool_buf2` -/
  buf2 : ℕ → U8
  /-- `gtp_read` and `gtp_write`, which are set together. -/
  gtp : Option I2cFunc
  /-- The registers of the panel. -/
  registers : U16 → U8
  /-- Whether the successive calls of `i2c_transfer` will return more than 0. -/
  transfers : Stream' Bool
  /-- The flag of the device, if there is a client. -/
  gestureFlag : Option U8
  touchStatus : U8
  touchX : U8
  touchY : U16
  log : List Event

namespace Tool

def emit (s : Tool) (e : Event) : Tool := { s with log := e :: s.log }

end Tool

/-- `memcpy` to a place in memory -/
def store (memory : ℕ → U8) (off : ℕ) (bytes : List U8) (k : ℕ) : U8 :=
  if off ≤ k ∧ k < off + bytes.length then bytes.getD (k - off) 0 else memory k

def emit (e : Event) : Proc Tool Unit := Proc.modify (·.emit e)

/-- A store in `goodix_tool_buf`. -/
def storeBuf (off : ℕ) (bytes : List U8) : Proc Tool Unit :=
  Proc.modify fun s => { s with buf := store s.buf off bytes }.emit (.storeBuf off bytes.length)

/-- A store in `goodix_tool_buf2`. -/
def storeBuf2 (off : ℕ) (bytes : List U8) : Proc Tool Unit :=
  Proc.modify fun s => { s with buf2 := store s.buf2 off bytes }.emit (.storeBuf2 off bytes.length)

/-- The bytes of `goodix_tool_buf` in a range. -/
def bufBytes (off n : ℕ) : Proc Tool (List U8) := do
  let s ← Proc.get
  return (List.range n).map fun k => s.buf (off + k)

/-! ## I2C -/

/-- At most `retry` transfers, up to the first that succeeds. -/
def attempts : ℕ → Stream' Bool → Bool × Stream' Bool
  | 0, transfers => (false, transfers)
  | n + 1, transfers => if transfers.head then (true, transfers.tail) else attempts n transfers.tail

/-- The loop of the I2C functions. -/
def i2cTransfer : Proc Tool Bool := do
  let s ← Proc.get
  let r := attempts s.header.retry.toNat s.transfers
  Proc.modify fun s => { s with transfers := r.2 }
  return r.1

/-- Writing bytes to the panel: the first two are the address of the others. -/
def panelWrite (registers : U16 → U8) : List U8 → U16 → U8
  | hi :: lo :: data => fun a => data.getD (a - (hi ++ lo)).toNat (registers a)
  | _ => registers

/-- `tool_i2c_write_no_extra` -/
def toolI2cWriteNoExtra (bytes : List U8) : Proc Tool Bool := do
  let ok ← i2cTransfer
  if ok then
    Proc.modify fun s => { s with registers := panelWrite s.registers bytes }
    return true
  else return false

/-- `tool_i2c_read_no_extra` of `goodix_tool_buf`: the registers from the address in its first two bytes on. -/
def toolI2cReadNoExtra (len : ℕ) : Proc Tool Bool := do
  let ok ← i2cTransfer
  if ok then
    let s ← Proc.get
    let start : U16 := s.buf 0 ++ s.buf 1
    storeBuf 2 ((List.range len).map fun k => s.registers (start + BitVec.ofNat 16 k))
    return true
  else return false

/-- The commands before and behind a transfer. -/
def withExtra (m : Proc Tool Bool) : Proc Tool Bool := do
  let _ ← toolI2cWriteNoExtra [0x0F, 0xFF]
  let ok ← m
  let _ ← toolI2cWriteNoExtra [0x80, 0x00]
  return ok

/-- `gtp_read(goodix_tool_buf, len)` -/
def gtpRead (f : I2cFunc) (len : ℕ) : Proc Tool Bool := do
  let ok ← match f with
    | .noExtra => toolI2cReadNoExtra len
    | .withExtra => withExtra (toolI2cReadNoExtra len)
  emit (.gtpRead len ok)
  return ok

/-- `gtp_write(&goodix_tool_buf[off], len)` -/
def gtpWrite (f : I2cFunc) (off len : ℕ) : Proc Tool Bool := do
  let bytes ← bufBytes off len
  -- The functions take the length as a `u16`.
  let ok ← match f with
    | .noExtra => toolI2cWriteNoExtra (bytes.take (len % 65536))
    | .withExtra => withExtra (toolI2cWriteNoExtra (bytes.take (len % 65536)))
  emit (.gtpWrite off bytes ok)
  return ok

/-- The chips of `goodix_register_i2c_func` that do without the extra commands. -/
def chipNames : List Text := [ascii "GT8110", ascii "GT8105", ascii "GT801", ascii "GT800", ascii "GT801PLUS",
  ascii "GT811", ascii "GTxxx"]

/-- `ic_type` -/
def icType : List U8 := List.replicate 16 0

/-- `goodix_register_i2c_func` -/
def goodixRegisterI2cFunc : Proc Tool Unit :=
  Proc.modify fun s =>
    { s with gtp := some (if chipNames.all fun name => icType.take name.length != name then .withExtra else .noExtra) }

/-- `goodix_comfirm` -/
def goodixComfirm : ℕ := 1

/-- `msleep(goodix_tool_data.sleep_time)`, if there is one -/
def sleep (h : Header) : Proc Tool Unit := do
  if h.sleepTime ≠ 0 then emit (.msleep h.sleepTime) else return ()

/-- The low byte of `addr`. -/
def Header.addrLow (h : Header) : U8 := h.addr.setWidth 8

/-! ## `goodix_tool_read` -/

/-- The pass over a chunk, with `remaining` and `i`. -/
def readPass (f : I2cFunc) (b : U16 × ℕ) : Proc Tool ((U16 × ℕ) ⊕ Bool) := do
  if b.1 > 0 then
    let chunk := if b.1 > 128 then 128 else b.1
    if ← gtpRead f chunk.toNat then
      let i := b.2 + chunk.toNat
      let bytes ← bufBytes 2 chunk.toNat
      emit (.storeUser i bytes)
      return .inl (b.1 - chunk, i)
    else
      emit (.printk .readFailed)
      return .inr false
  else return .inr true

/-- The register reads. -/
def readRegisters (h : Header) : Proc Tool ℤ := do
  sleep h
  if h.dataLen > 0 then
    storeBuf 0 [h.comfirmAddr, h.addrLow]
    match (← Proc.get).gtp with
    | none => return -19
    | some f => if ← Proc.iter (readPass f) (h.dataLen, 0) then return h.dataLen.toNat else return 0
  else return h.dataLen.toNat

/-- What is read without the panel. -/
def readStatus (h : Header) : Proc Tool Unit := do
  let s ← Proc.get
  if h.len = 4 then
    emit (.storeUser 0 [s.touchStatus, s.touchX, (s.touchY >>> 8).setWidth 8, s.touchY.setWidth 8])
  else if h.len = 8 then emit (.storeUser 0 (ascii "V1.2<201" ++ [0]))
  else return ()

/-- `goodix_tool_read` -/
def goodixToolRead : Proc Tool ℤ := do
  let h := (← Proc.get).header
  if h.len &&& 1 ≠ 0 then return 0
  else if h.len ≠ 0 then
    readStatus h
    return h.dataLen.toNat
  else if h.comfirm ≠ 1 ∨ goodixComfirm ≠ 0 then readRegisters h
  else
    emit (.printk .readComfirm)
    return 0

/-! ## `goodix_tool_write` -/

/-- `copy_from_user` of `n` bytes, of which `user` can be read: whether all of them were, and the bytes that are
stored, zeros for the others. -/
def copyFromUser (user : List U8) (off n : ℕ) : Bool × List U8 :=
  (decide (off + n ≤ user.length), (List.range n).map fun k => user.getD (off + k) 0)

/-- The payload goes to `goodix_tool_buf[2]`, and zeros if it cannot be read. -/
def copyPayload (user : List U8) (n : ℕ) : Proc Tool Unit := do
  let r := copyFromUser user 20 n
  storeBuf 2 r.2
  if r.1 then return () else storeBuf 2 (List.replicate n 0)

/-- `GTP_WRITE` -/
def toolWriteRegisters (user : List U8) (h : Header) : Proc Tool ℤ := do
  copyPayload user h.dataLen.toNat
  storeBuf 0 [h.comfirmAddr, h.addrLow]
  if h.comfirm = 1 ∧ goodixComfirm = 0 then
    emit (.printk .writeComfirm)
    return 0
  else
    match (← Proc.get).gtp with
    | none => return -19
    | some f =>
      if ← gtpWrite f 2 (h.addr.toNat + h.dataLen.toNat) then
        sleep h
        return h.dataLen.toNat + 20
      else
        emit (.printk .writeFailed)
        return 0

/-- A payload that is not empty goes to `goodix_tool_buf`. -/
def copyRegister (user : List U8) (n : ℕ) : Proc Tool Unit := do
  if n ≠ 0 then
    let r := copyFromUser user 20 n
    storeBuf 0 r.2
    if r.1 then return () else emit (.printk .copyFailed)
  else return ()

/-- `GTP_READ_REG` -/
def toolRegister (user : List U8) (h : Header) : Proc Tool ℤ := do
  let n := h.dataLen.toNat
  copyRegister user n
  let bytes ← bufBytes 0 n
  storeBuf2 0 bytes
  goodixRegisterI2cFunc
  return n + 20

/-- `GUP_UPDATE_PROC`: `goodix_gup_update_proc` returns 0. -/
def toolUpdateProc (user : List U8) (h : Header) : Proc Tool ℤ := do
  let n := h.dataLen.toNat
  storeBuf 0 (List.replicate (n + 1) 0)
  storeBuf 0 (copyFromUser user 20 n).2
  return 0

/-- The gesture flag -/
def toolGesture (user : List U8) (h : Header) : Proc Tool ℤ := do
  copyPayload user h.dataLen.toNat
  Proc.modify fun s => { s with gestureFlag := s.gestureFlag.map fun _ => if s.buf 2 ≠ 0 then 1 else s.buf 2 }
  return 20

/-- The commands. The operations on the device and on the update mode are empty, and entering it returns 0. -/
def toolCommand (user : List U8) (h : Header) : Proc Tool ℤ :=
  if h.len = 1 then toolWriteRegisters user h
  else if h.len = 3 then toolRegister user h
  else if h.len = 5 then return h.dataLen.toNat + 20
  else if h.len = 7 ∨ h.len = 9 then return 20
  else if h.len = 0xB then return 0
  else if h.len = 0xD then return 20
  else if h.len = 0xF then toolUpdateProc user h
  else if h.len = 0x11 then toolGesture user h
  else return 20

/-- `goodix_tool_write`, with the bytes that can be read from `kbuf` on -/
def goodixToolWrite (user : List U8) : Proc Tool ℤ := do
  let r := copyFromUser user 0 20
  let h := Header.ofBytes r.2
  Proc.modify fun s => { s with header := h }
  if r.1 then toolCommand user h
  else
    emit (.printk .copyFailed)
    return 0

/-! ## What reading is for -/

/-- The address of the first register. -/
def Header.start (h : Header) : U16 := h.comfirmAddr ++ h.addrLow

/-- The byte of `userbuf` that an event stores. -/
def Event.userByte (k : ℕ) : Event → Option U8
  | .storeUser off bytes => if off ≤ k then bytes[k - off]? else none
  | _ => none

/-- What is in `userbuf` after the events, oldest first; `none` where nothing was written. -/
def written (events : List Event) (k : ℕ) : Option U8 := events.reverse.findSome? (Event.userByte k)

/-- The results of the register reads. -/
def registerReads (events : List Event) : List Bool :=
  events.filterMap fun
    | .gtpRead _ ok => some ok
    | _ => none

/-- The first `n` registers from the start address on, and nothing else. -/
def Holds (s : Tool) (n : ℕ) (u : ℕ → Option U8) : Prop :=
  ∀ k, u k = if k < n then some (s.registers (s.header.start + BitVec.ofNat 16 k)) else none

/-- A call that reads registers and returns their number has stored them all, and one in which a read fails returns
0 and has stored the first of them. -/
structure ReadRight (s : Tool) (v : ℤ) (s' : Tool) : Prop where
  whole : registerReads (History.since Tool.log s s') ≠ [] → v = s.header.dataLen.toNat →
    Holds s s.header.dataLen.toNat (written (History.since Tool.log s s'))
  failed : false ∈ registerReads (History.since Tool.log s s') →
    v = 0 ∧ ∃ n ≤ s.header.dataLen.toNat, Holds s n (written (History.since Tool.log s s'))

/-- No register is read: something else is asked for, nothing is, or `gtp_read` is not set. -/
def NoRegisterRead (s : Tool) : Prop := s.header.len ≠ 0 ∨ s.header.dataLen = 0 ∨ s.gtp = none

/-- The next `gtp_read` succeeds: behind the command before it, if there is one, a transfer does. -/
def readSucceeds (s : Tool) : I2cFunc → Bool
  | .noExtra => (attempts s.header.retry.toNat s.transfers).1
  | .withExtra => (attempts s.header.retry.toNat (attempts s.header.retry.toNat s.transfers).2).1

/-- The first chunk is not read. -/
def FirstReadFails (s : Tool) : Prop := ∃ f, s.gtp = some f ∧ readSucceeds s f = false

/-! ## What writing is for -/

/-- A store lies in its buffer. -/
def Event.InBounds : Event → Prop
  | .storeBuf off len => off + len ≤ 256
  | .storeBuf2 off len => off + len ≤ 256
  | _ => True

/-- The data of a command fits into the buffer. -/
def Header.Fits (h : Header) : Prop :=
  if h.len = 1 ∨ h.len = 0x11 then h.dataLen.toNat ≤ 254
  else if h.len = 3 then h.dataLen.toNat ≤ 256
  else if h.len = 0xF then h.dataLen.toNat ≤ 255
  else True

/-- The payload behind a header. -/
def payload (user : List U8) (h : Header) : List U8 := (user.drop 20).take h.dataLen.toNat

/-- A call stores in the buffers alone, passes the register address and the payload on from there, and leaves the
buffers as they were if the data does not fit. -/
structure WriteRight (user : List U8) (s s' : Tool) : Prop where
  inside : ∀ e ∈ History.since Tool.log s s', e.InBounds
  passed : ∀ off bytes ok, .gtpWrite off bytes ok ∈ History.since Tool.log s s' → off + bytes.length ≤ 256 ∧
    bytes = [(Header.ofBytes user).comfirmAddr, (Header.ofBytes user).addrLow] ++ payload user (Header.ofBytes user)
  rejected : ¬(Header.ofBytes user).Fits → s'.buf = s.buf ∧ s'.buf2 = s.buf2

/-- The bytes alternate between the two. -/
def Alternates (a b : U8) (xs : List U8) : Prop := ∀ k (h : k < xs.length), xs[k] = if k % 2 = 0 then a else b

/-- The payload and the two bytes behind it in the buffer are as if the register address stood in front of it. -/
def PassesRight (user : List U8) (s : Tool) : Prop :=
  (Header.ofBytes user).addr = 2 ∧ (Header.ofBytes user).dataLen.toNat ≤ 252 ∧
    Alternates (Header.ofBytes user).comfirmAddr 2 (payload user (Header.ofBytes user) ++
      [s.buf (2 + (Header.ofBytes user).dataLen.toNat), s.buf (3 + (Header.ofBytes user).dataLen.toNat)])

/-- The data fits, and where registers are written the transfer is right by the bytes that happen to be there. -/
def WriteFits (user : List U8) (s : Tool) : Prop :=
  (Header.ofBytes user).Fits ∧ ((Header.ofBytes user).len = 1 → s.gtp = none ∨ PassesRight user s)

end PanelTool

end MtcDrivers
