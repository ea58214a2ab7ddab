import Mathlib.Logic.Relation
import MtcDrivers.Link.World

/-!
# The MCU interrupt and its receive work

`mcu_isr`, the work item it queues, and the calls of `arm_send` and `arm_send_multi`, all running at
once. A call and the work are given by the interrupt and mutex operations they have still to do: their
transfers in between do not touch the line or the mutex. The interrupt handler runs in one step, and
only while the line is enabled.
-/

namespace MtcDrivers

/-- What the operations act on: the disable depth of the `MCU_DIN` line and `car_lock`. -/
structure Line where
  depth : ℕ
  locked : Bool
deriving DecidableEq, Repr

/-- The effect of one operation; `none` while it blocks. An `enable_irq` too many is ignored by the
    kernel. -/
def SyncOp.run : SyncOp → Line → Option Line
  | .disableIrq, l => some { l with depth := l.depth + 1 }
  | .enableIrq, l => some { l with depth := l.depth - 1 }
  | .mutexLock, l => if l.locked then none else some { l with locked := true }
  | .mutexUnlock, l => some { l with locked := false }

/-- The operations of `arm_send` and `arm_send_multi`, in their order. -/
def senderScript : List SyncOp := [.disableIrq, .mutexLock, .enableIrq, .mutexUnlock]

/-- The operations of `mtc_car_work`, in their order. -/
def workScript : List SyncOp := [.mutexLock, .enableIrq, .mutexUnlock]

structure IrqState where
  line : Line
  /-- The work item is queued and has not started. -/
  pending : Bool
  /-- What the running receive work has still to do. -/
  work : List SyncOp
  /-- What each call of a sender so far has still to do. -/
  calls : List (List SyncOp)
  /-- The interrupts taken. -/
  taken : ℕ
  /-- The receive works started. -/
  started : ℕ
deriving DecidableEq, Repr

namespace IrqState

/-- After `car_comm_init`. -/
def init : IrqState := ⟨⟨0, false⟩, false, [], [], 0, 0⟩

/-- `queue_work`: nothing happens while the item is pending. -/
def queueWork (s : IrqState) : IrqState := if s.pending then s else { s with pending := true }

/-- `mcu_isr`. -/
def mcuIsr (s : IrqState) : IrqState :=
  { s with line := { s.line with depth := s.line.depth + 1 }, taken := s.taken + 1 }.queueWork

/-- One step of any of the parties. -/
inductive Step : IrqState → IrqState → Prop
  | interrupt {s : IrqState} (enabled : s.line.depth = 0) : Step s s.mcuIsr
  /-- The single-threaded workqueue starts the item when the last run of it has returned. -/
  | start {s : IrqState} (pending : s.pending = true) (free : s.work = []) :
      Step s { s with pending := false, work := workScript, started := s.started + 1 }
  | work {s : IrqState} {op : SyncOp} {rest : List SyncOp} {l : Line}
      (hwork : s.work = op :: rest) (hrun : op.run s.line = some l) :
      Step s { s with line := l, work := rest }
  | call {s : IrqState} : Step s { s with calls := senderScript :: s.calls }
  | sender {s : IrqState} {before after : List (List SyncOp)} {op : SyncOp} {rest : List SyncOp}
      {l : Line} (hcalls : s.calls = before ++ (op :: rest) :: after)
      (hrun : op.run s.line = some l) :
      Step s { s with line := l, calls := before ++ rest :: after }

def Reachable (s : IrqState) : Prop := Relation.ReflTransGen Step init s

end IrqState

/-- Between `disable_irq` and `enable_irq`. -/
def Masking (rest : List SyncOp) : Prop := .enableIrq ∈ rest ∧ .disableIrq ∉ rest

/-- Between `mutex_lock` and `mutex_unlock`. -/
def Holding (rest : List SyncOp) : Prop := .mutexUnlock ∈ rest ∧ .mutexLock ∉ rest

instance : DecidablePred Masking := fun _ => inferInstanceAs (Decidable (_ ∧ _))

instance : DecidablePred Holding := fun _ => inferInstanceAs (Decidable (_ ∧ _))

namespace IrqState

/-- The receive work is pending, or running and not yet past its `enable_irq`. -/
def Outstanding (s : IrqState) : Prop := s.pending = true ∨ .enableIrq ∈ s.work

instance (s : IrqState) : Decidable s.Outstanding := inferInstanceAs (Decidable (_ ∨ _))

/-- The senders between their `disable_irq` and `enable_irq`. -/
def masking (s : IrqState) : ℕ := s.calls.countP (Masking ·)

/-- The senders that hold the mutex. -/
def holding (s : IrqState) : ℕ := s.calls.countP (Holding ·)

end IrqState

end MtcDrivers
