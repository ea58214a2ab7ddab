import MtcDrivers.Link.Send
import MtcDrivers.Proc.History

/-!
# One message from the MCU

What a message is, apart from what its bytes mean: the receptions of its payload, then the
acknowledge, then the result that tells `mtc_car_work` whether to go on. `caseOf` lists the commands
that `process_mcu_command` recognises with the way each of them answers.
-/

namespace MtcDrivers

/-- A step of a message: a reception by `arm_rev_bytes`, or an acknowledge by `arm_rev_ack`. -/
inductive Call where
  | payload (ok : Bool) (data : List U8)
  | ack (ok : Bool)
deriving DecidableEq

/-- The steps in a log, newest first. -/
def calls : List Event → List Call
  | [] => []
  | .received _ _ ok data :: log => .payload ok data :: calls log
  | .ack ok :: log => .ack ok :: calls log
  | _ :: log => calls log

/-- The steps so far. -/
def callsSoFar (w : World) : List Call := calls w.log

/-- The receptions among the steps of a message. -/
def receptions : List Call → List (Bool × List U8) :=
  List.filterMap fun
    | .payload ok data => some (ok, data)
    | .ack _ => none

/-- The results of the acknowledges among the steps of a message. -/
def acks : List Call → List Bool :=
  List.filterMap fun
    | .payload .. => none
    | .ack ok => some ok

/-- Every reception succeeded. -/
def AllReceived (rs : List (Bool × List U8)) : Prop := ∀ p ∈ rs, p.1 = true

instance (rs : List (Bool × List U8)) : Decidable (AllReceived rs) :=
  inferInstanceAs (Decidable (∀ p ∈ rs, p.1 = true))

/-- Received bytes are stored inside their array, and a byte of a receive buffer is used only if it
was received. -/
def Event.SafeUse : Event → Prop
  | .received size off _ data => off + data.length ≤ size
  | .load _ rcvd => rcvd = true
  | _ => True

/-- How a case answers a payload that it has received. -/
inductive Answer where
  /-- It returns the result of the acknowledge. -/
  | result
  /-- It acknowledges and returns `1`. -/
  | one
  /-- It acknowledges if the local variable `r`, which it has not set, is not `0`. -/
  | ifR
  /-- It acknowledges if the first byte of the payload is not `0`. -/
  | ifByte
deriving DecidableEq

/-- The course of a case of `process_mcu_command`. -/
inductive Course where
  /-- No payload. -/
  | notice
  /-- A payload of known length; the case returns `0` if it is not received. -/
  | fixed (answer : Answer)
  /-- A payload of known length; the case leaves through `ret_tail` if it is not received. -/
  | report
  /-- A length byte, and as many bytes as it says. -/
  | sized
deriving DecidableEq

/-- The commands without payload. -/
def noticeCommands : List U32 :=
  [0x101, 0x102, 0x103, 0x401, 0x402, 0x408, 0x601, 0x602, 0x701, 0x702, 0x703, 0x704, 0x705, 0x755,
    0x801, 0x802, 0xF202, 0xF203, 0xF204, 0xF205, 0xF206, 0xF207]

/-- The commands that return `0` if their payload is not received, and else the acknowledge. -/
def plainCommands : List U32 :=
  [0xF003, 0xF008, 0xF009, 0xF010, 0xF011, 0xF013, 0xF015, 0xF016, 0xF200, 0xF210]

/-- The commands that acknowledge their payload before they use it. -/
def streamCommands : List U32 := [0xF007, 0xF00A, 0xF00B, 0xF00C]

/-- The commands that leave through `ret_tail` if their payload is not received. -/
def reportCommands : List U32 := [0xF000, 0xF001, 0xF004, 0xF005, 0xF006, 0xF021]

/-- The commands that a length byte follows. -/
def sizedCommands : List U32 := [0xE000, 0xF020]

/-- The commands that reach `tail_ack` without having set `r`. -/
def unsetCommands : List U32 := [0xF012, 0xF014]

/-- The commands that acknowledge depending on their payload. -/
def byteCommands : List U32 := [0xF201]

/-- The case that a command word selects; `none` for words that the source does not know. -/
def caseOf (cmd : U32) : Option Course :=
  if cmd &&& 0xF000 = 0xD000 ∨ cmd ∈ plainCommands then some (.fixed .result)
  else if cmd ∈ noticeCommands then some .notice
  else if cmd ∈ streamCommands then some (.fixed .one)
  else if cmd ∈ reportCommands then some .report
  else if cmd ∈ sizedCommands then some .sized
  else if cmd ∈ unsetCommands then some (.fixed .ifR)
  else if cmd ∈ byteCommands then some (.fixed .ifByte)
  else none

/-- The value of `return arm_rev_ack()`. -/
def ackValue (ok : Bool) : ℤ := if ok then 1 else 0

/-- The result of a command whose message was acknowledged. -/
def ackResult (cmd : U32) (ok : Bool) : ℤ := if cmd ∈ streamCommands then 1 else ackValue ok

/-- A received payload `data` is answered by the steps `new` and the result `v`. -/
def Answer.Gives (f : Frame) (data : List U8) (new : List Call) (v : ℤ) : Answer → Prop
  | .result => ∃ ok, new = [.ack ok] ∧ v = ackValue ok
  | .one => ∃ ok, new = [.ack ok] ∧ v = 1
  | .ifR => if f.r = 0 then new = [] ∧ v = 0 else ∃ ok, new = [.ack ok] ∧ v = ackValue ok
  | .ifByte =>
    if data.head? = some 0 then new = [] ∧ v = 0 else ∃ ok, new = [.ack ok] ∧ v = ackValue ok

/-- A payload of known length, which is answered if it is received; else the result is `fails`. -/
def PayloadThen (fails : ℤ) (answer : Answer) (f : Frame) (new : List Call) (v : ℤ) : Prop :=
  (∃ data, new = [.payload false data] ∧ v = fails) ∨
    ∃ data rest, new = .payload true data :: rest ∧ answer.Gives f data rest v

/-- The steps `new` and the result `v` are a course of this kind. -/
def Course.Takes (f : Frame) (new : List Call) (v : ℤ) : Course → Prop
  | .notice => ∃ ok, new = [.ack ok] ∧ v = ackValue ok
  | .fixed answer => PayloadThen 0 answer f new v
  | .report => PayloadThen 0x8000 .result f new v
  | .sized =>
    (∃ data, new = [.payload false data] ∧ v = 0x8000) ∨
      (∃ len data, new = [.payload true len, .payload false data] ∧ v = 0) ∨
        ∃ len data ok, new = [.payload true len, .payload true data, .ack ok] ∧ v = ackValue ok

end MtcDrivers
