import MtcDrivers.Dvd.World

/-!
# The two handshakes

`dvd_rev_part_2` takes 16-bit words from the drive, and `cmd_send` sends it a 24-bit command. Both hold
`dvd_rev_mutex`.
-/

namespace MtcDrivers

namespace Dvd

/-- `dvd_add_work` -/
def dvdAddWork (cmd1 cmd2 : U32) : Proc World Unit := emit (.addWork cmd1 cmd2)

/-! ## Receiving -/

/-- One bit of a word, with the word so far; `inr none` where the word is given up. -/
def revBit (cmd : U32) (bitPos : ℕ) : Proc World ((U32 × ℕ) ⊕ Option U32) := do
  gpioDirectionOutput .ack true
  if ← waitLevel .stb false then
    let bit ← gpioGetValue .data
    let cmd := if bit then cmd * 2 ||| 1 else cmd * 2
    gpioDirectionOutput .ack false
    if ← waitLevel .stb true then
      if bitPos + 1 ≠ 16 then return .inl (cmd, bitPos + 1) else return .inr (some cmd)
    else
      printk (.drev 2 (some bitPos))
      gpioDirectionInput .ack
      return .inr none
  else
    printk (.drev 1 (some bitPos))
    gpioDirectionInput .ack
    return .inr none

/-- The end of a word: `inl` where the drive has another one. -/
def revEnd (cmd : U32) : Proc World (Unit ⊕ Bool) := do
  gpioDirectionInput .ack
  if ← waitLevel .ack false then
    gpioDirectionOutput .stb false
    if ← waitLevel .ack true then
      gpioDirectionInput .stb
      dvdAddWork 5 cmd
      let data ← gpioGetValue .data
      if data then return .inr true else return .inl ()
    else
      printk (.drev 4 none)
      gpioDirectionInput .stb
      return .inr false
  else
    printk (.drev 3 none)
    return .inr false

/-- One word. -/
def revWord : Proc World (Unit ⊕ Bool) := do
  let data ← gpioGetValue .data
  if data then
    return .inr false
  else
    gpioDirectionOutput .ack false
    if ← waitLevel .data true then
      match ← Proc.iter (fun b : U32 × ℕ => revBit b.1 b.2) (0, 0) with
      | some cmd => revEnd cmd
      | none => return .inr false
    else
      printk (.drev 0 none)
      gpioDirectionInput .ack
      return .inr false

/-- `dvd_rev_part_2` -/
def dvdRevPart2 : Proc World Bool := do
  mutexLock
  let stbVal ← Proc.repeatUntil revWord
  mutexUnlock
  return stbVal

/-! ## Sending -/

/-- `dvd_cmd_bit_count`, which nothing sets to another value. -/
def dvdCmdBitCount : ℕ := 24

/-- One bit of a command; `inr` tells whether it was the last one or the command is given up. -/
def sendBit (cmd : U32) (bitPos : ℕ) : Proc World (ℕ ⊕ Bool) := do
  gpioDirectionOutput .data (cmd &&& (0x800000 : U32) >>> bitPos ≠ 0)
  gpioDirectionOutput .stb false
  if ← waitLevel .ack false then
    gpioDirectionOutput .stb true
    if ← waitLevel .ack true then
      if dvdCmdBitCount > bitPos + 1 then return .inl (bitPos + 1) else return .inr true
    else
      printk (.dsnd 3 (some bitPos))
      gpioDirectionInput .stb
      gpioDirectionInput .data
      return .inr false
  else
    printk (.dsnd 2 (some bitPos))
    gpioDirectionInput .stb
    gpioDirectionInput .data
    return .inr false

/-- `LABEL_21` of `cmd_send`. -/
def sendEnd : Proc World Unit := do
  gpioDirectionInput .data
  gpioDirectionInput .stb
  gpioDirectionOutput .ack false
  if ← waitLevel .stb false then
    gpioDirectionOutput .ack true
    if ← waitLevel .stb true then
      gpioDirectionInput .ack
    else
      printk (.dsnd 5 none)
      gpioDirectionInput .ack
  else
    printk (.dsnd 4 none)
    gpioDirectionInput .ack

/-- The bits of a command and their end. -/
def sendBits (cmd : U32) : Proc World Unit := do
  if dvdCmdBitCount > 0 then
    if ← Proc.iter (sendBit cmd) 0 then sendEnd else pure ()
  else
    sendEnd

/-- `cmd_send` while it holds the mutex. -/
def sendCommand (cmd : U32) : Proc World Unit := do
  gpioDirectionOutput .data false
  let timeout ← tvUsec
  if ← waitFrom timeout .ack false then
    gpioDirectionOutput .data true
    -- the clock is not read again
    if ← waitFrom timeout .ack true then
      sendBits cmd
    else
      printk (.dsnd 1 none)
      gpioDirectionInput .data
  else
    printk (.dsnd 0 none)
    gpioDirectionInput .data

/-- The end of `cmd_send`: the drive may have something to say. -/
def sendFinish : Proc World Unit := do
  if ← dvdPowerOn then
    emit .enableIrq
    if ← dvdPowerOn then
      let _ ← dvdRevPart2
      pure ()
    else
      pure ()
  else
    pure ()

/-- `cmd_send` -/
def cmdSend (cmd : U32) : Proc World Unit := do
  emit .disableIrq
  if ← dvdPowerOn then
    mutexLock
    sendCommand cmd
    mutexUnlock
    sendFinish
  else
    pure ()

end Dvd

end MtcDrivers
