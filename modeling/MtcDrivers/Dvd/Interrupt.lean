import MtcDrivers.Irq.Model
import MtcDrivers.Run.Basic

/-!
# The DVD interrupt and the power switch

`dvd_isr`, `rev_work` on its queue, the calls of `cmd_send` by the work items of `dvd_wq`, and the calls of
`dvd_power`, all running at once. Each is given by what it has still to do to the interrupt line, to
`dvd_rev_mutex` and to `dvd_power_on`; the handshakes in between touch none of these.
-/

namespace MtcDrivers

namespace Dvd

/-- One thing that a thread has to do. -/
inductive Task where
  | sync (op : SyncOp)
  /-- `if (dvd_power_on) {`, with all the rest inside. -/
  | ifOn
  /-- The block `if (dvd_power_on) { .. }` of `dvd_power(1)`, in front of the rest. -/
  | resetIfOn
  | setOn (b : Bool)
  /-- The `cancel_delayed_work_sync` of the three items, and `flush_workqueue(dvd_wq)`. -/
  | flush
deriving DecidableEq, Repr

/-- `dvd_rev_part_2` -/
def revPart2Tasks : List Task := [.sync .mutexLock, .sync .mutexUnlock]

/-- `rev_work` -/
def revWork : List Task := .ifOn :: revPart2Tasks ++ .ifOn :: .sync .enableIrq :: .ifOn :: revPart2Tasks

/-- `cmd_send` -/
def cmdSendTasks : List Task :=
  .sync .disableIrq :: .ifOn :: .sync .mutexLock :: .sync .mutexUnlock ::
    .ifOn :: .sync .enableIrq :: .ifOn :: revPart2Tasks

/-- What `dvd_poweroff` and `dvd_power(1)` do to a drive that is on. -/
def powerDown : List Task := [.setOn false, .flush, .sync .disableIrq]

/-- `dvd_poweroff` -/
def dvdPoweroff : List Task := .ifOn :: powerDown

/-- `dvd_power` -/
def dvdPower (pwr : Bool) : List Task :=
  if pwr then [.resetIfOn, .setOn true, .sync .enableIrq] else dvdPoweroff

structure Drive where
  /-- The interrupt of the drive and `dvd_rev_mutex`. -/
  line : Line
  /-- `dvd_power_on` -/
  on : Bool
  /-- The receive work is queued and has not started. -/
  pending : Bool
  /-- What the running `rev_work` has still to do. -/
  rev : List Task
  /-- What the running `cmd_send` has still to do. -/
  send : List Task
  /-- What the running call of `dvd_power` has still to do. -/
  power : List Task
deriving DecidableEq, Repr

namespace Drive

/-- After `dvd_probe`. -/
def probed : Drive := ⟨⟨1, false⟩, false, false, [], [], []⟩

/-- The next thing of a thread, with what it has to do after it; a thread that has to wait stays as it is. -/
def advance (s : Drive) : List Task → Drive × List Task
  | [] => (s, [])
  | .sync op :: rest =>
    match op.run s.line with
    | some line => ({ s with line := line }, rest)
    | none => (s, .sync op :: rest)
  | .ifOn :: rest => (s, if s.on then rest else [])
  | .resetIfOn :: rest => (s, if s.on then powerDown ++ rest else rest)
  | .setOn b :: rest => ({ s with on := b }, rest)
  | .flush :: rest => (s, if s.send = [] then rest else .flush :: rest)

/-- `dvd_isr`; `queue_work` does nothing while the item is pending. -/
def dvdIsr (s : Drive) : Drive :=
  { s with line := { s.line with depth := s.line.depth + 1 }, pending := true }

inductive Step where
  | interrupt
  /-- The single-threaded `dvd_rev_wq` starts its item. -/
  | startRev
  | rev
  /-- An item of the single-threaded `dvd_wq` calls `cmd_send`. -/
  | startSend
  | send
  /-- An audio item calls `dvd_power`; `audio->lock` lets no second one in. -/
  | startPower (pwr : Bool)
  | power
deriving DecidableEq, Repr

/-- One step; one that cannot be taken changes nothing. -/
def step (s : Drive) : Step → Drive
  | .interrupt => if s.line.depth = 0 then s.dvdIsr else s
  | .startRev => if s.pending ∧ s.rev = [] then { s with pending := false, rev := revWork } else s
  | .rev => { (s.advance s.rev).1 with rev := (s.advance s.rev).2 }
  | .startSend => if s.send = [] then { s with send := cmdSendTasks } else s
  | .send => { (s.advance s.send).1 with send := (s.advance s.send).2 }
  | .startPower pwr => if s.power = [] then { s with power := dvdPower pwr } else s
  | .power => { (s.advance s.power).1 with power := (s.advance s.power).2 }

/-- The drive is on, and nobody is at work. -/
structure Resting (s : Drive) : Prop where
  on : s.on = true
  pending : s.pending = false
  rev : s.rev = []
  send : s.send = []
  power : s.power = []

/-- A drive that rests can interrupt. -/
def CanBeHeard (s : Drive) : Prop := s.Resting → s.line.depth = 0

/-- The next thing of the thread is a test in front of an `enable_irq`, and it finds the drive off. -/
def GivesUp (s : Drive) (tasks : List Task) : Prop :=
  s.on = false ∧ tasks.head? = some .ifOn ∧ .sync .enableIrq ∈ tasks

/-- The receive work and `cmd_send` get to their `enable_irq`. -/
def FindsOn (s : Drive) : Step → Prop
  | .rev => ¬ s.GivesUp s.rev
  | .send => ¬ s.GivesUp s.send
  | _ => True

end Drive

end Dvd

end MtcDrivers
