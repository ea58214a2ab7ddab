import MtcDrivers.Link.Receive

/-!
# Messages from the MCU

`process_mcu_command` and `arm_rev`. The command word selects a case by a tree of comparisons; the
cases of one subtree are one definition here. The three tail labels of the source are `retTail`,
`tailAck` and `errRet0`. A case that jumps to `tail_ack` without having set the local variable `r`
passes on its indeterminate value.
-/

namespace MtcDrivers

def vsSend (port : ℕ) (cmd : U8) (data : List U8) : Link Unit := emit (.vsSend port cmd data)

def vsSendRaw (port : ℕ) (data : List U8) : Link Unit := emit (.vsSendRaw port data)

def carAddWork (a1 a2 flush : ℕ) : Link Unit := emit (.carAddWork a1 a2 flush)

/-- `return arm_rev_ack();` -/
def returnAck : Link ℤ := do
  let ok ← armRevAck
  return if ok then 1 else 0

/-- `ret_tail` -/
def retTail (cmd : U32) : Link ℤ :=
  return if cmd.toInt < 0 then 0 else (cmd &&& 0x8000).toNat

/-- `tail_ack` -/
def tailAck (r : ℤ) : Link ℤ := if r ≠ 0 then returnAck else return 0

/-- `err_ret0` -/
def errRet0 (cmd : U32) : Link ℤ := do
  printk "~ mtc rev err cmd %04x\n" [cmd.toNat]
  return 0

/-- `LABEL_21`: an unknown command of the first group is reported and acknowledged. -/
def errAck (cmd : U32) : Link ℤ := do
  printk "~ mtc rev err cmd %04x\n" [cmd.toNat]
  returnAck

/-- `(buf[i] << 8) | buf[i + 1]`, as the source assembles a 16-bit value. -/
def CArray.loadWord (a : CArray) (i : ℕ) : Link U32 := do
  let hi ← a.load i
  let lo ← a.load (i + 1)
  return lo.setWidth 32 ||| (hi.setWidth 32 <<< 8)

/-- The commands without payload, `(cmd & 0x7000) < 0x1000`. -/
def mcuNotice (cmd : U32) : Link ℤ :=
  if cmd ≤ 0x602 then
    if cmd > 0x600 then returnAck
    else if cmd = 0x103 then do vsSend 2 134 []; returnAck
    else if cmd ≤ 0x103 then
      if cmd = 0x101 then do vsSend 2 132 []; returnAck
      else if cmd = 0x102 then do vsSend 2 133 []; returnAck
      else errAck cmd
    else if cmd = 0x402 then do vsSend 2 241 []; returnAck
    else if cmd = 0x408 then do vsSend 2 135 []; returnAck
    else if cmd = 0x401 then do vsSend 2 241 []; returnAck
    else errAck cmd
  else if cmd > 0x705 then
    if cmd = 0x801 then do vsSend 2 136 []; returnAck
    else if cmd = 0x802 then do
      modifyStatus fun s => { s with power2Flag := 1 }
      returnAck
    else if cmd = 0x755 then do
      printk "MCU_SHUTDOWN\n" []
      carAddWork 73 0 0
      returnAck
    else errAck cmd
  else if cmd ≥ 0x704 then returnAck
  else if cmd ≠ 0x702 then
    if cmd ≤ 0x702 then
      if cmd ≠ 0x701 then errAck cmd else do carAddWork 35 0 0; returnAck
    else do
      let w ← Proc.get
      if w.car.status.camSignal = 0 then do carAddWork 35 0 0; returnAck
      else do carAddWork 36 0 0; returnAck
  else do carAddWork 36 0 0; returnAck

/-- `0xDnnn`: the low byte of the command is the length of the payload. -/
def mcuBlock (f : Frame) (cmd : U32) : Link ℤ := do
  let n := (cmd &&& 0xFF).toNat
  let (ok, buf) ← armRevBytes (CArray.onFrame 8 f) 1 n
  if ok then
    if cmd &&& 0xF00 = 0x100 then
      if (← buf.load 1) = 0 then
        let b ← buf.load 2
        modifyCar fun c => { c with config := c.config.put ConfigData.cfgRadio b }
    returnAck
  else return 0

/-- A case that receives `n` bytes into `buf`, returns `0` if that fails, and else runs `use`. -/
def withPayload (f : Frame) (n : ℕ) (use : CArray → Link ℤ) (fail : Link ℤ) : Link ℤ := do
  let (ok, buf) ← armRevBytes (CArray.onFrame 8 f) 0 n
  if ok then use buf else fail

/-- A case that acknowledges first, hands the received bytes on and returns `1`. -/
def ackThen (deliver : Link Unit) : Link ℤ := do
  let _ ← armRevAck
  deliver
  return 1

/-- A case that forwards its `n` payload bytes on port 0 and acknowledges. -/
def forward (f : Frame) (cmd : U8) (n : ℕ) (r : ℤ) : Link ℤ :=
  withPayload f n (fun buf => do
    let data ← buf.loads 0 n
    vsSend 0 cmd data
    tailAck r) (return 0)

/-- `0xF000`, `0xF001`, `0xF003`, `0xF004`, `0xF005` and `0xF006`: values the MCU reports. -/
def mcuReport (f : Frame) (cmd : U32) : Link ℤ :=
  if cmd = 0xF003 then
    withPayload f 2 (fun buf => do
      let v := 2275 * (← buf.loadWord 0)
      modifyStatus fun s => { s with intval3 := v.sshiftRight 10 }
      let buf := (buf.put 0 ((v.sshiftRight 18).setWidth 8)).put 1 ((v.sshiftRight 10).setWidth 8)
      let data ← buf.loads 0 2
      vsSend 2 146 data
      tailAck 1) (return 0)
  else if cmd > 0xF003 then
    if cmd = 0xF005 then
      withPayload f 2 (fun buf => do
        let v ← buf.loadWord 0
        modifyStatus fun s => { s with intval4 := if v = 0 then 1 else v }
        tailAck 1) (retTail cmd)
    else if cmd > 0xF005 then
      withPayload f 2 (fun buf => do
        let v : U8 := (← buf.loadWord 0).setWidth 8
        modifyStatus fun s => { s with wipeFlag := if v = 0 then 1 else v }
        tailAck 1) (retTail cmd)
    else
      withPayload f 1 (fun buf => do
        let nv ← buf.load 0
        let w ← Proc.get
        let dv := nv ^^^ w.car.status.staBits
        if dv &&& 0x10 ≠ 0 then vsSend 2 144 [if nv &&& 0x10 ≠ 0 then 1 else 0]
        if dv &&& 0x20 ≠ 0 then vsSend 2 145 [if nv &&& 0x20 = 0 then 1 else 0]
        if dv &&& 0x48 ≠ 0 then
          if dv &&& 8 ≠ 0 then vsSend 2 147 [if nv &&& 8 = 0 then 1 else 0]
          modifyStatus fun s => { s with staBits := nv }
          emit .backlightUpdate
        modifyStatus fun s => { s with staBits := nv }
        tailAck 1) (retTail cmd)
  else if cmd = 0xF000 then
    withPayload f 2 (fun buf => do
      let v := (← buf.loadWord 0).udiv 3
      modifyStatus fun s => { s with intval1 := if v = 0 then 1 else v }
      tailAck 1) (retTail cmd)
  else if cmd = 0xF001 then
    withPayload f 2 (fun buf => do
      let v := (← buf.loadWord 0).udiv 3
      modifyStatus fun s => { s with intval2 := if v = 0 then 1 else v }
      tailAck 1) (retTail cmd)
  else if cmd = 0xE000 then do
    let (ok, mmsg) ← armRevBytes (CArray.onFrame 256 f) 0 1
    if ok then
      let n ← mmsg.load 0
      let mmsg := mmsg.put n.toNat 0
      let n ← mmsg.load 0
      let (ok, mmsg) ← armRevBytes mmsg 0 n.toNat
      if ok then
        printk "--mtc mmsg %s\n"
          (((List.range 256).map fun i => (mmsg.val i).toNat).takeWhile (· ≠ 0))
        tailAck 1
      else return 0
    else retTail cmd
  else errRet0 cmd

/-- The commands up to `0xF012` other than `0xF012` itself. -/
def mcuStream (f : Frame) (cmd : U32) : Link ℤ :=
  if cmd = 0xF007 then
    withPayload f 5 (fun buf => ackThen do
      let hi ← buf.loadWord 0
      let lo ← buf.loadWord 2
      emit (.rdsInput (lo ||| (hi <<< 16)))) (return 0)
  else if cmd > 0xF007 then
    if cmd = 0xF00B then
      withPayload f 2 (fun buf => ackThen do
        let rds ← buf.loads 0 2
        emit (.rdsInput3A rds)) (return 0)
    else if cmd ≤ 0xF00B then
      if cmd = 0xF009 then
        withPayload f 5 (fun buf => do
          emit (.hitRadioSta (← buf.load 0) (← buf.load 1) (← buf.load 2) (← buf.load 3)
            (← buf.load 4))
          tailAck 1) (return 0)
      else if cmd > 0xF009 then
        withPayload f 3 (fun buf => ackThen do
          let hi ← buf.loadWord 0
          let lo ← buf.load 2
          emit (.rdsInput2 (lo.setWidth 32 ||| (hi <<< 8)))) (return 0)
      else
        withPayload f 4 (fun buf => do
          emit (.hitRadioSta (← buf.load 0) (← buf.load 1) (← buf.load 2) 0 (← buf.load 3))
          tailAck 1) (return 0)
    else if cmd = 0xF010 then forward f 16 1 1
    else if cmd > 0xF010 then forward f 17 5 1
    else if cmd = 0xF00C then
      withPayload f 8 (fun buf => ackThen do
        let rds ← buf.loads 0 8
        emit (.rdsInput3 rds)) (return 0)
    else errRet0 cmd
  else mcuReport f cmd

/-- `0xF202` .. `0xF207` and `0xF210`: power and camera requests. -/
def mcuPower (f : Frame) (cmd : U32) : Link ℤ :=
  if cmd = 0xF205 then do carAddWork 34 0 0; returnAck
  else if cmd ≤ 0xF205 then
    if cmd = 0xF203 then do carAddWork 44 0 0; returnAck
    else if cmd > 0xF203 then do camera 5
    else do carAddWork 45 0 0; returnAck
  else if cmd = 0xF207 then camera 6
  else if cmd < 0xF207 then do carAddWork 33 0 0; returnAck
  else if cmd = 0xF210 then
    withPayload f 1 (fun _ => do
      modifyStatus fun s => { s with mcuCmdState := 6 }
      carAddWork 42 0 0
      tailAck 1) (return 0)
  else errRet0 cmd
where
  /-- The bodies of `0xF204` and `0xF207`, which differ in the state they enter. -/
  camera (state : U8) : Link ℤ := do
    let w ← Proc.get
    modifyStatus fun s => { s with mcuCmdState := state }
    if w.car.status.reserved10 = 0 ∨ w.car.status.mcuCmdState = state then carAddWork 31 0 0
    else carAddWork 32 0 0
    returnAck

/-- The commands above `0xF012`. -/
def mcuRequest (f : Frame) (cmd : U32) : Link ℤ :=
  if cmd = 0xF201 then
    withPayload f 1 (fun buf => do
      let b ← buf.load 0
      if b = 0 then modifyStatus fun s => { s with mcuCmdState := 5 }
      carAddWork 42 b.toNat 0
      tailAck b.toNat) (return 0)
  else if cmd > 0xF201 then mcuPower f cmd
  else if cmd = 0xF016 then
    withPayload f 1 (fun buf => do
      let b ← buf.load 0
      printk "--mtc hold %d\n" [b.toNat]
      carAddWork 70 b.toNat 0
      tailAck 1) (return 0)
  else if cmd ≤ 0xF016 then
    if cmd = 0xF014 then
      withPayload f 1 (fun buf => do
        let b ← buf.load 0
        printk "--mtc press %d\n" [b.toNat]
        carAddWork 69 b.toNat 0
        tailAck f.r) (return 0)
    else if cmd > 0xF014 then withPayload f 1 (fun _ => tailAck 1) (tailAck 0)
    else forward f 19 2 1
  else if cmd ≠ 0xF021 then
    if cmd = 0xF200 then
      withPayload f 1 (fun buf => do
        let b ← buf.load 0
        carAddWork 43 b.toNat 0
        tailAck 1) (return 0)
    else if cmd = 0xF020 then do
      let (ok, len) ← armRevBytes (CArray.onFrame 1 f) 0 1
      if ok then
        let n ← len.load 0
        withPayload f n.toNat (fun buf => do
          let data ← buf.loads 0 n.toNat
          vsSendRaw 0 data
          tailAck 1) (return 0)
      else retTail cmd
    else errRet0 cmd
  else do
    let (ok, mmsg32) ← armRevBytes (CArray.onFrame 32 f) 0 32
    if ok then
      let tab ← mmsg32.loads 0 32
      modifyStatus fun s => { s with reserved22 := Vector.ofFn fun k => tab.getD k 0 }
      tailAck 1
    else retTail cmd

/-- The body of `process_mcu_command` with the locals `f`. -/
def mcuCase (f : Frame) (cmd : U32) : Link ℤ :=
  if cmd &&& 0x7000 < 0x1000 then mcuNotice cmd
  else if cmd &&& 0xF000 = 0xD000 then mcuBlock f cmd
  else if cmd = 0xF012 then forward f 18 2 f.r
  else if cmd ≤ 0xF012 then mcuStream f cmd
  else mcuRequest f cmd

/-- `process_mcu_command`. -/
def processMcuCommand (cmd : U32) : Link ℤ := do
  emit (.command cmd)
  let f ← popFrame
  mcuCase f cmd

/-- One pass of the bit loop of `arm_rev` (from `LABEL_8`). The new accumulator is cut to an
    `unsigned char` before the sampled bit is added. -/
def armRevPass (bit_pos : ℕ) (cmd : U32) : Link ((ℕ × U32) ⊕ Option U32) := do
  if ← waitLevel (getPin .mcuClk) false then
    let cmd : U32 := ((cmd <<< 1).setWidth 8 : U8).setWidth 32
    let din ← getPin .mcuDin
    let cmd := if din then cmd ||| 1 else cmd
    gpioSetValue .mcuDout false
    if ← waitLevel (getPin .mcuClk) true then
      gpioSetValue .mcuDout true
      if bit_pos + 1 ≠ 16 then return .inl (bit_pos + 1, cmd) else return .inr (some cmd)
    else
      printk "~ arm_rev_16bits err1 %d\n" [bit_pos]
      gpioSetValue .mcuDout true
      return .inr none
  else
    printk "~ arm_rev_16bits err0 %d\n" [bit_pos]
    gpioSetValue .mcuDout true
    return .inr none

/-- `arm_rev` up to its call of `process_mcu_command`: the handshake and the 16 bits of the command
    word. `none` covers the exits that return `0`. -/
def armRevWord : Link (Option U32) := do
  if ← getPin2 .mcuClk then
    if ← getPin2 .mcuDin then return none
    else
      gpioDirectionOutput .mcuClk false
      udelay 1
      if ← waitLevel (getPin2 .mcuDin) true then
        gpioDirectionOutput .mcuClk true
        udelay 1
        modifyCar fun c => { c with revBytesCount := 0x20000 }
        gpioDirectionInput .mcuClk
        Proc.iter (fun p => armRevPass p.1 p.2) (0, 0)
      else
        printk "~ arm_rev err0\n" []
        gpioDirectionInput .mcuClk
        udelay 10
        return none
  else return none

/-- `arm_rev`. -/
def armRev : Link ℤ := do
  match ← armRevWord with
  | none => return 0
  | some cmd =>
    modifyCar fun c => { c with armRevCmd := cmd }
    processMcuCommand cmd

end MtcDrivers
