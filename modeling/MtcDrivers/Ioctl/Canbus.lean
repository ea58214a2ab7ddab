import Mathlib.Logic.Function.Basic
import MtcDrivers.Ioctl.Dispatch
import MtcDrivers.Ioctl.Setters
import MtcDrivers.Proc.Basic

/-!
# The `canbus_rsp` request

The branch of `car_ioctl` that collects the numbers of a CAN bus reply in `can_buf` and sends them, with
`get_token_int` as it walks over the request in memory. All values of `token_pos` and all indices of
`can_buf` that are written to are kept.
-/

namespace MtcDrivers

/-- `strcmp` -/
def strcmp : Text → Text → ℤ
  | [], [] => 0
  | [], c :: _ => -c.toNat
  | c :: _, [] => c.toNat
  | c :: s, d :: t => if c = d then strcmp s t else c.toNat - d.toNat

/-- What the branch reads and writes. -/
structure CanbusState where
  /-- `car_struct.ioctl_buf1` with the request; all bytes behind it are zero. -/
  ioctlBuf1 : List U8
  /-- `token_pos`, as an index of `ioctl_buf1`. -/
  tokenPos : ℕ
  /-- The values of `token_pos` so far. -/
  moved : List ℕ
  /-- `can_buf` on the stack, with what is behind it. -/
  canBuf : ℕ → U8
  /-- The indices of `can_buf` that have been written. -/
  written : List ℕ
  /-- The commands of `arm_send_multi` with their bytes. -/
  sent : List (U32 × List U8)

namespace CanbusState

/-- The byte at an index of `ioctl_buf1`. -/
def byteAt (s : CanbusState) (p : ℕ) : U8 := s.ioctlBuf1.getD p 0

/-- `*pos = p` -/
def moveTo (p : ℕ) (s : CanbusState) : CanbusState := { s with tokenPos := p, moved := s.moved ++ [p] }

/-- `can_buf[i] = b` -/
def store (i : ℕ) (b : U8) (s : CanbusState) : CanbusState :=
  { s with canBuf := Function.update s.canBuf i b, written := s.written ++ [i] }

/-- `arm_send_multi(cmd, count, can_buf)` -/
def armSendMulti (cmd : U32) (count : ℕ) (s : CanbusState) : CanbusState :=
  { s with sent := s.sent ++ [(cmd, (List.range count).map s.canBuf)] }

/-- At the set half: the last `=` is overwritten with zero, and `token_pos` is behind it. -/
def atSetHalf (key value : Text) (stack : ℕ → U8) : CanbusState :=
  ⟨key ++ 0 :: value, key.length + 1, [key.length + 1], stack, [], []⟩

end CanbusState

/-- The local variables of the loop in `get_token_int`. -/
structure TokenLocals where
  p : ℕ
  c : U8
  val : U32

/-- One pass of the loop in `get_token_int`. -/
def tokenPass (l : TokenLocals) : Proc CanbusState (TokenLocals ⊕ U32) := do
  let s ← Proc.get
  let p := l.p + 1
  let next := s.byteAt p
  Proc.modify (·.moveTo p)
  let val := addDigit l.val l.c
  if next = 0 then return .inr val
  else if next = comma then
    Proc.modify (·.moveTo (p + 1))
    return .inr val
  else if isDigit next then return .inl ⟨p, next, val⟩
  else return .inr (-1)

/-- `get_token_int(&token_pos)` -/
def getTokenIntAt : Proc CanbusState U32 := do
  let s ← Proc.get
  let p := s.tokenPos
  let c := s.byteAt p
  if c = 0 then return -1
  else if c = comma then
    Proc.modify (·.moveTo (p + 1))
    return 0
  else if isDigit c then Proc.iter tokenPass ⟨p, c, 0⟩
  else return -1

/-- The two ways out of the loop over the tokens. -/
inductive CanbusExit where
  /-- `goto LABEL_99`, with `count` and `can_buf_pos`. -/
  | label99 (count : ℕ) (canBufPos : U8)
  /-- The `break`, with the counter. -/
  | negative (i : ℕ)

/-- One pass of the loop over the tokens; `i` is the counter. -/
def canbusPass (i : ℕ) : Proc CanbusState (ℕ ⊕ CanbusExit) := do
  let intval ← getTokenIntAt
  if taken intval then
    let i := i + 1
    Proc.modify (·.store i (intval.setWidth 8))
    if i = 99 then return .inr (.label99 100 99) else return .inl i
  else return .inr (.negative i)

/-- `LABEL_99`: the first byte is the length of the data. `LABEL_62` behind it returns 0. -/
def label99 (count : ℕ) (canBufPos : U8) : Proc CanbusState ℤ := do
  Proc.modify (·.store 0 canBufPos)
  Proc.modify (·.armSendMulti 0xC000 count)
  return 0

/-- Behind the loop; without any number it is `LABEL_140`. -/
def afterTokens : CanbusExit → Proc CanbusState ℤ
  | .label99 count canBufPos => label99 count canBufPos
  | .negative i => if i = 0 then return -1 else label99 (i + 1) (BitVec.ofNat 8 i)

/-- `"canbus_rsp"`. The counter starts as the result of the comparison. For another key the comparisons
go on. -/
def canbusRsp : Proc CanbusState (Option ℤ) := do
  let s ← Proc.get
  let i := strcmp (cString s.ioctlBuf1) (ascii "canbus_rsp")
  if i = 0 then
    let exit ← Proc.iter canbusPass i.toNat
    let res ← afterTokens exit
    return some res
  else return none

/-! ## The reply -/

/-- The numbers that `get_token_int` yields before its first negative result, up to `limit` of them. -/
def numbersBefore : ℕ → Text → List U32
  | 0, _ => []
  | limit + 1, text =>
    let (v, rest) := getTokenInt text
    if taken v then v :: numbersBefore limit rest else []

/-- The message of a reply: its length, and the low byte of every number. -/
def canbusMessage (bs : List U32) : U32 × List U8 :=
  (0xC000, BitVec.ofNat 8 bs.length :: bs.map fun b => b.setWidth 8)

/-- The request is answered: one message with up to 99 numbers, or an error if there is none. -/
structure CanbusAnswered (text : Text) (ret : Option ℤ) (s' : CanbusState) : Prop where
  reply : numbersBefore 99 text ≠ [] →
    ret = some 0 ∧ s'.sent = [canbusMessage (numbersBefore 99 text)]
  refusal : numbersBefore 99 text = [] → ret = some (-1) ∧ s'.sent = []
  /-- `can_buf` has the size 100. -/
  written : ∀ i ∈ s'.written, i < 100
  /-- The zero behind the request is never passed. -/
  moved : ∀ p ∈ s'.moved, p ≤ (ascii "canbus_rsp").length + 1 + text.length

end MtcDrivers
