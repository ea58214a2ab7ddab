import MtcDrivers.Link.World

/-!
# Receiving from the MCU

`arm_rev_8bits`, `arm_rev_bytes` and `arm_rev_ack`. Functions of the source that return `1` or `0`
return a `Bool` here; `arm_rev_8bits` returns the byte it stores.
-/

namespace MtcDrivers

/-- A `unsigned char` array of a declared size. The contents are a view of memory from the start of
    the array, so that accesses beyond `size` are visible; `rcvd` marks the bytes that
    `arm_rev_bytes` stored. -/
structure CArray where
  size : ℕ
  val : ℕ → U8
  rcvd : ℕ → Bool

namespace CArray

/-- A local array of `size` bytes on the stack frame `f`. -/
def onFrame (size : ℕ) (f : Frame) : CArray := ⟨size, f.bytes, fun _ => false⟩

/-- A store by the code itself. -/
def put (a : CArray) (i : ℕ) (b : U8) : CArray := { a with val := Function.update a.val i b }

/-- The stores of received bytes at consecutive offsets. -/
def receive (a : CArray) (off : ℕ) : List U8 → CArray
  | [] => a
  | b :: data =>
    { a with
      val := Function.update a.val off b
      rcvd := Function.update a.rcvd off true }.receive (off + 1) data

/-- Use byte `i`. -/
def load (a : CArray) (i : ℕ) : Link U8 := do
  emit (.load i (a.rcvd i))
  return a.val i

/-- Use `n` bytes from offset `i`. -/
def loads (a : CArray) (i : ℕ) : ℕ → Link (List U8)
  | 0 => pure []
  | n + 1 => do
    let b ← a.load i
    let rest ← a.loads (i + 1) n
    return b :: rest

end CArray

/-- One pass of the loop of `arm_rev_8bits` (from `LABEL_2`): sample one bit while the MCU holds the
    clock low, and acknowledge it on `MCU_DOUT`. -/
def armRev8bitsPass (bit_n : ℕ) (byte : U8) : Link ((ℕ × U8) ⊕ Option U8) := do
  if ← waitLevel (getPin .mcuClk) false then
    let byte := byte <<< 1
    let din ← getPin .mcuDin
    let byte := if din then byte ||| 1 else byte
    gpioSetValue .mcuDout false
    if ← waitLevel (getPin .mcuClk) true then
      gpioSetValue .mcuDout true
      if bit_n + 1 ≠ 8 then return .inl (bit_n + 1, byte) else return .inr (some byte)
    else
      printk "~ arm_rev_8bits err1 %d\n" [bit_n]
      gpioSetValue .mcuDout true
      return .inr none
  else
    let w ← Proc.get
    printk "~ arm_rev_8bits err0 %x %x %d\n"
      [w.car.revBytesCount.toNat, w.car.armRevCmd.toNat, bit_n]
    gpioSetValue .mcuDout true
    return .inr none

/-- `arm_rev_8bits`: `some` is the byte stored when it returns `1`. -/
def armRev8bits : Link (Option U8) := do
  gpioDirectionInput .mcuClk
  Proc.iter (fun p => armRev8bitsPass p.1 p.2) (0, 0)

/-- One pass of the loop of `arm_rev_bytes`; `data` are the bytes stored so far, so `pos` is its
    length. -/
def armRevBytesPass (count : ℕ) (data : List U8) : Link (List U8 ⊕ (Bool × List U8)) := do
  modifyCar fun c => { c with revBytesCount := c.revBytesCount + 1 }
  match ← armRev8bits with
  | none => return .inr (false, data)
  | some b =>
    if data.length + 1 = count then return .inr (true, data ++ [b])
    else return .inl (data ++ [b])

/-- `arm_rev_bytes(&a[off], count)`: the result and the array with the stored bytes. The `int count`
    is a length in every call, so it is a natural number here. -/
def armRevBytes (a : CArray) (off count : ℕ) : Link (Bool × CArray) := do
  let (ok, data) ←
    (if count ≠ 0 then Proc.iter (armRevBytesPass count) [] else pure (true, []))
  emit (.received a.size off ok data)
  return (ok, a.receive off data)

/-- `arm_rev_ack`. -/
def armRevAck : Link Bool := do
  if ← waitLevel (getPin .mcuDin) false then
    gpioDirectionOutput .mcuClk false
    if ← waitLevel (getPin .mcuDin) true then
      gpioDirectionInput .mcuClk
      udelay 10
      let _ ← getPin .mcuDin
      emit (.ack true)
      return true
    else
      printk "~ arm_rev_ack err1\n" []
      gpioDirectionInput .mcuClk
      udelay 10
      emit (.ack false)
      return false
  else
    printk "~ arm_rev_ack err0\n" []
    gpioDirectionInput .mcuClk
    udelay 10
    emit (.ack false)
    return false

end MtcDrivers
