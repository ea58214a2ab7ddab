import MtcDrivers.Link.Command

/-!
# Sending to the MCU

`arm_send_cmd`, `arm_send_ack`, `arm_send`, `arm_send_multi`, the receive work `mtc_car_work` and the
set-up of the pins in `car_comm_init`.
-/

namespace MtcDrivers

/-- One pass of the restart loop of `arm_send_cmd`. While the MCU asks to be heard first, its message
    is received; the result of `arm_rev` is not looked at. -/
def armSendRestartPass : Link (Unit ⊕ Bool) := do
  if ← getPin2 .mcuClk then
    if ← getPin2 .mcuDin then
      return .inr true
    else
      printk "~ REV RESTART 0\n" []
      let _ ← armRev
      return .inl ()
  else
    printk "~ SND EXIT 0\n" []
    return .inr false

/-- The restart loop of `arm_send_cmd`: `true` if the bus is free (`MCU_CLK` and `MCU_DIN` high),
    `false` if the MCU holds the clock low. -/
def armSendRestart : Link Bool := Proc.repeatUntil armSendRestartPass

/-- `send_err0` -/
def sendErr0 : Link Unit := do
  gpioSetValue .mcuDout true
  gpioDirectionInput .mcuClk
  udelay 10
  gpioSetValue .mcuDout true

/-- One pass of the bit loop of `arm_send_cmd` (from `LABEL_10`). -/
def armSendPass (cmd : U32) (bit_pos : ℕ) : Link (ℕ ⊕ Bool) := do
  if ← waitLevel (getPin .mcuDin) true then
    let bit := if cmd &&& 0x8000 = 0 then false else true
    gpioSetValue .mcuDout bit
    gpioDirectionOutput .mcuClk false
    if ← waitLevel (getPin .mcuDin) false then
      if bit_pos ≠ 15 then
        gpioDirectionOutput .mcuClk true
        return .inl (bit_pos + 1)
      else
        gpioSetValue .mcuDout true
        gpioDirectionOutput .mcuClk true
        return .inr true
    else
      printk "~ arm_send_16bits err1 %d\n" [bit_pos]
      sendErr0
      return .inr false
  else
    printk "~ arm_send_16bits err0 %d\n" [bit_pos]
    sendErr0
    return .inr false

/-- The part of `arm_send_cmd` after the restart loop: the request handshake and the 16 bits. -/
def armSendWord (cmd : U32) : Link Bool := do
  gpioDirectionOutput .mcuDout false
  if ← waitLevel (getPin2 .mcuClk) false then
    gpioSetValue .mcuDout true
    if ← waitLevel (getPin2 .mcuClk) true then
      modifyCar fun c => { c with revBytesCount := 0x10000, armRevCmd := cmd }
      udelay 10
      Proc.iter (armSendPass cmd) 0
    else
      printk "~ arm_send err1\n" []
      gpioSetValue .mcuDout true
      return false
  else
    printk "~ arm_send err0 %04x\n" [cmd.toNat]
    gpioSetValue .mcuDout true
    return false

/-- `arm_send_cmd`. -/
def armSendCmd (cmd : U32) : Link Bool := do
  if ← armSendRestart then
    armSendWord cmd
  else
    gpioSetValue .mcuDout true
    return false

/-- `arm_send_ack`. -/
def armSendAck : Link Bool := do
  gpioDirectionInput .mcuClk
  if ← waitLevel (getPin .mcuDin) true then
    gpioSetValue .mcuDout false
    if ← waitLevel (getPin .mcuClk) false then
      gpioSetValue .mcuDout true
      if ← waitLevel (getPin .mcuClk) true then
        return true
      else
        printk "~ arm_send_ack err2\n" []
        gpioSetValue .mcuDout true
        return false
    else
      printk "~ arm_send_ack err1\n" []
      gpioSetValue .mcuDout true
      return false
  else
    printk "~ arm_send_ack err0\n" []
    gpioSetValue .mcuDout true
    return false

def disableIrq : Link Unit := emit (.sync .disableIrq)

def enableIrq : Link Unit := emit (.sync .enableIrq)

/-- `mutex_lock(&car_comm->car_lock)` -/
def lockCar : Link Unit := emit (.sync .mutexLock)

def unlockCar : Link Unit := emit (.sync .mutexUnlock)

/-- The transfer of `arm_send`, between taking and releasing the link. `buf` is the `byteval` local,
    whose byte nothing reads. -/
def armSendBody (cmd : U32) : Link Unit := do
  if ← armSendCmd cmd then
    if cmd &&& 0xFF00 = 0xF00 ∨ cmd = 0x201 then
      if (← armRev8bits).isSome then
        let _ ← armRevAck
    else
      let _ ← armSendAck

/-- `arm_send`. -/
def armSend (cmd : U32) : Link Unit := do
  disableIrq
  lockCar
  armSendBody cmd
  enableIrq
  unlockCar

/-- One pass of the bit loop of the ordinary write path of `arm_send_multi`: `bit_pos` counts up and
    the loop runs while it is below 7. `some` is the accumulator after the last pass. -/
def armSend8bitsPass (bit_pos : ℕ) (byte : U8) : Link ((ℕ × U8) ⊕ Bool) := do
  if bit_pos < 7 then
    if ← waitLevel (getPin .mcuDin) true then
      let bit := if byte &&& 0x80 = 0 then false else true
      gpioSetValue .mcuDout bit
      gpioDirectionOutput .mcuClk false
      if ← waitLevel (getPin .mcuDin) false then
        if bit_pos ≠ 7 then
          gpioDirectionOutput .mcuClk true
        return .inl (bit_pos + 1, byte <<< 1)
      else
        printk "~ arm_send_8bits err1 %d\n" [bit_pos]
        return .inr false
    else
      printk "~ arm_send_8bits err0 %d\n" [bit_pos]
      return .inr false
  else return .inr true

/-- One pass of the byte loop of the ordinary write path; `LABEL_23` is the failing exit. -/
def armSendBytesPass (buf : CArray) (count pos : ℕ) : Link (ℕ ⊕ Bool) := do
  if pos < count then
    modifyCar fun c => { c with revBytesCount := c.revBytesCount + 0x100 }
    if ← Proc.iter (fun p => armSend8bitsPass p.1 p.2) (0, buf.val pos) then
      gpioSetValue .mcuDout true
      gpioDirectionOutput .mcuClk true
      return .inl (pos + 1)
    else
      gpioSetValue .mcuDout true
      gpioDirectionInput .mcuClk
      udelay 10
      return .inr false
  else return .inr true

/-- The ordinary write path of `arm_send_multi`, up to its acknowledge. -/
def armSendBytes (buf : CArray) (count : ℕ) : Link Bool :=
  Proc.iter (armSendBytesPass buf count) 0

/-- One pass of the bit loop of the firmware path of `arm_send_multi`: `bit_pos` counts down from 8,
    and the waits have no timeout. -/
def armSendFirmwareBit (bit_pos : ℕ) (byte : U8) : Link ((ℕ × U8) ⊕ Unit) := do
  spinUntil (getPin .mcuDin) true
  let bit := if byte &&& 0x80 = 0 then false else true
  let byte := byte <<< 1
  gpioSetValue .mcuDout bit
  gpioDirectionOutput .mcuClk false
  spinUntil (getPin .mcuDin) false
  if bit_pos = 1 then
    gpioSetValue .mcuDout true
    gpioDirectionOutput .mcuClk true
    return .inr ()
  else
    gpioDirectionOutput .mcuClk true
    if bit_pos - 1 = 0 then return .inr () else return .inl (bit_pos - 1, byte)

/-- The firmware path of `arm_send_multi` (`cmd == 0xA000`), up to its acknowledge. -/
def armSendFirmware (buf : CArray) (count : ℕ) : Link Unit :=
  Proc.iter (fun pos => do
    if pos < count then
      Proc.iter (fun p => armSendFirmwareBit p.1 p.2) (8, buf.val pos)
      return .inl (pos + 1)
    else return .inr ()) 0

/-- The transfer of `arm_send_multi` after its command word: the result and the buffer. -/
def armSendPayload (cmd : U32) (count : ℕ) (buf : CArray) : Link (Bool × CArray) := do
  if cmd ≠ 0xA000 then
    if cmd &&& 0x8000 ≠ 0 then
      if ← armSendBytes buf count then
        let ok ← armSendAck
        return (ok, buf)
      else return (false, buf)
    else
      let (recv, buf) ← armRevBytes buf 0 count
      if recv then
        let ok ← armRevAck
        return (ok, buf)
      else return (false, buf)
  else
    armSendFirmware buf count
    let ok ← armSendAck
    return (ok, buf)

/-- The transfer of `arm_send_multi`, between taking and releasing the link. -/
def armSendMultiBody (cmd : U32) (count : ℕ) (buf : CArray) : Link (Bool × CArray) := do
  if ← armSendCmd cmd then armSendPayload cmd count buf else return (false, buf)

/-- `arm_send_multi`. The `int count` is the length of the buffer in every call, so it is a natural
    number here. -/
def armSendMulti (cmd : U32) (count : ℕ) (buf : CArray) : Link (Bool × CArray) := do
  disableIrq
  lockCar
  let res ← armSendMultiBody cmd count buf
  enableIrq
  unlockCar
  return res

/-- The drain loop of `mtc_car_work`. -/
def mtcCarDrain : Link Unit :=
  Proc.repeatUntil do
    if ← getPin .mcuDin then return .inr ()
    else if (← armRev) ≠ 0 then return .inl () else return .inr ()

/-- `mtc_car_work`. -/
def mtcCarWork : Link Unit := do
  lockCar
  udelay 20
  mtcCarDrain
  enableIrq
  unlockCar

/-- The set-up of the MCU pins in `car_comm_init`. -/
def carCommInit : Link Unit := do
  gpioDirectionInput .mcuClk
  gpioDirectionInput .mcuDin
  gpioDirectionOutput .mcuDout true

end MtcDrivers
