import Mathlib.Data.Int.Notation
import MtcDrivers.Run.Basic
import MtcDrivers.Car.Memory

/-!
# Key presses

`case 69` of `car_work`, a key that the MCU reports as pressed: the debounce against `car_struct.tv`, the
inner `switch` over the codes up to `0x1F`, and the codes above it. The other parts change the car status
between two items, so an item comes with the status it finds.
-/

namespace MtcDrivers

/-- `struct timeval`, as `do_gettimeofday` fills it. -/
structure Timeval where
  tvSec : U32
  tvUsec : U32
  tvUsec_lt : tvUsec.toNat < 1000000

namespace Timeval

/-- `car_struct.tv` after `car_probe`. -/
def zero : Timeval := ⟨0, 0, by decide⟩

/-- The reading in microseconds. -/
def micros (tv : Timeval) : ℤ := 1000000 * tv.tvSec.toInt + tv.tvUsec.toNat

end Timeval

/-- What the item does. -/
inductive PressEffect
  | sendIrKey (key : U32)
  | sendEventKey (key : U32)
  /-- `car_add_work(cmd1, 0, 0)` -/
  | carAddWork (cmd1 : ℕ)
  /-- `car_status->video_src_ready = b` -/
  | videoSrcReady (b : U8)
  | keyBeep
  /-- `audio_add_work(cmd1, 0, 0, 0)` -/
  | audioAddWork (cmd1 : ℕ)
  /-- `vs_send(2, cmd, 0, 0)` -/
  | vsSend (cmd : U8)
  | backlightOff
  | carAvm
deriving DecidableEq

/-- An item with the reading of the wall clock and the status that it finds. -/
structure PressItem where
  cmd2 : U32
  tv : Timeval
  status : StatusBytes

namespace PressItem

/-- `LABEL_93` up to the `break`: whether the press goes on, and `car_struct.tv`. -/
def debounce (item : PressItem) (kept : Timeval) : Bool × Timeval :=
  let oldSec := item.tv.tvSec - kept.tvSec
  let kept := item.tv
  (¬ (item.tv.tvUsec - kept.tvUsec + 1000000 * oldSec).toInt ≤ 29999, kept)

/-- The `case` of the inner `switch` for a code that does not leave it by `goto`. -/
def pressCase (cmd2 : U32) : List PressEffect :=
  match cmd2.toNat with
  | 2 => [.sendIrKey 26]
  | 3 => [.sendIrKey 58]
  | 4 => [.sendIrKey 57]
  | 5 => [.sendIrKey 68]
  | 6 => [.sendIrKey 3]
  | 7 => [.sendIrKey 1]
  | 8 => [.sendIrKey 69]
  | 9 => [.sendIrKey 5]
  | 10 => [.sendIrKey 13]
  | 11 => [.sendIrKey 8]
  | 12 => [.sendIrKey 10]
  | 13 => [.sendIrKey 9]
  | 16 => [.sendIrKey 54]
  | 17 => [.sendIrKey 66]
  | 18 => [.sendIrKey 50]
  | 19 => [.sendEventKey 28]
  | 20 => [.sendEventKey 139]
  | _ => []

/-- `LABEL_96` -/
def label96 : List PressEffect := [.sendIrKey 1]

/-- `LABEL_97`; `CAR_WORK_BL_ON` is 35 and `CAR_WORK_BL_OFF` is 36. -/
def label97 (status : StatusBytes) : List PressEffect :=
  if status.byte StatusBytes.backlightStatus ≠ 0 then [.carAddWork 35] else [.carAddWork 36]

/-- The inner `switch` and what follows it: a `break` of the `switch` ends up at `LABEL_96`. -/
def pressSwitch (item : PressItem) : List PressEffect :=
  if item.cmd2 = 1 then label96
  else if item.cmd2 = 21 then label97 item.status
  else pressCase item.cmd2 ++ label96

/-- `LABEL_93` -/
def label93 (item : PressItem) (kept : Timeval) : List PressEffect × Timeval :=
  let passed := item.debounce kept
  if ¬ passed.1 then ([], passed.2)
  else if 31 < item.cmd2.toInt then ([.sendIrKey (item.cmd2 - 32)], passed.2)
  else (item.pressSwitch, passed.2)

/-- `case 69` -/
def carWork (item : PressItem) (kept : Timeval) : List PressEffect × Timeval :=
  let status := item.status
  if item.cmd2.toInt ≤ 0x1F then item.label93 kept
  else if item.cmd2 - 32 = 0x40 then
    ([.videoSrcReady 1, .keyBeep] ++
      (if status.byte StatusBytes.rptBootAndroid ≠ 0 then [.audioAddWork 0x16] else []) ++
      (if status.byte StatusBytes.callActive ≠ 0 then [.vsSend 0x9F] else []), kept)
  else if item.cmd2 - 32 ≠ 0x41 then
    if item.cmd2 - 32 = 0x5E then ([.carAvm], kept) else item.label93 kept
  else
    ([.videoSrcReady 0, .keyBeep] ++
      (if status.byte StatusBytes.rptBootAndroid ≠ 0 then
        (if status.byte StatusBytes.ajxActive ≠ 0 ∧ status.byte StatusBytes.powerRefcnt = 1 then
          [.backlightOff] else []) ++ [.audioAddWork 0x17]
      else []) ++
      (if status.byte StatusBytes.callActive ≠ 0 then [.vsSend 0xA0] else []), kept)

/-! ## What a press is for -/

/-- The effects that the inner `switch` assigns to the code of an item; a code without a `case` has none. -/
def assigned (item : PressItem) : List PressEffect :=
  if item.cmd2 = 1 then label96 else if item.cmd2 = 21 then label97 item.status else pressCase item.cmd2

/-- A code of the inner `switch`. -/
def IsPress (item : PressItem) : Prop := 1 ≤ item.cmd2.toInt ∧ item.cmd2.toInt ≤ 31

/-- The item is one that is debounced. -/
def Debounced (item : PressItem) : Prop :=
  item.cmd2.toInt ≤ 0x1F ∨ item.cmd2 - 32 ≠ 0x40 ∧ item.cmd2 - 32 ≠ 0x41 ∧ item.cmd2 - 32 ≠ 0x5E

instance (item : PressItem) : Decidable item.Debounced := by unfold Debounced; infer_instance

/-- The clock at the last of the items that was debounced. -/
def lastDebounced (items : List PressItem) : Timeval :=
  ((items.filter (Debounced ·)).getLast?.map PressItem.tv).getD .zero

/-- 30 milliseconds have passed since `prev`. -/
def Due (prev : Timeval) (item : PressItem) : Prop := 30000 ≤ item.tv.micros - prev.micros

/-- What the code makes of an item, where the last one that was debounced was at `prev`. -/
structure PressRight (prev kept : Timeval) (item : PressItem) : Prop where
  accepted : (item.debounce kept).1 ↔ item.Due prev
  emitted : (item.debounce kept).1 → (item.carWork kept).1 = item.assigned
  rejected : ¬ (item.debounce kept).1 → (item.carWork kept).1 = []

/-- The whole seconds since `prev` make up 30 milliseconds exactly if so much has passed, and then the code is
    one of those that leave the `switch` by `goto`. -/
def PressFits (prev : Timeval) (item : PressItem) : Prop :=
  (29999 < (1000000 * (item.tv.tvSec - prev.tvSec)).toInt ↔ item.Due prev) ∧
    (item.Due prev → item.cmd2 = 1 ∨ item.cmd2 = 21)

/-- `car_struct.tv` after an item. -/
def keep (kept : Timeval) (item : PressItem) : Timeval := (item.carWork kept).2

/-- Every press of a sequence of items is right. -/
def PressesRight (items : List PressItem) : Prop :=
  ∀ pre item post, items = pre ++ item :: post → item.IsPress →
    PressRight (lastDebounced pre) (Run.after keep .zero pre) item

/-- Every press of the sequence is in the case in which it is right. -/
def PressesFit (items : List PressItem) : Prop :=
  ∀ pre item post, items = pre ++ item :: post → item.IsPress → PressFits (lastDebounced pre) item

end PressItem

end MtcDrivers
