import MtcDrivers.Power.Work
import MtcDrivers.Proc.Basic

/-!
# Waiting for the report of the power-off

The items of the power with the loops in which `car_work` waits until the app has reported that it is off: a
request `rpt_power=false`, which may come during any of the sleeps. The sleeps are counted; `reports k` says
whether a report comes during the one with number `k`.
-/

namespace MtcDrivers

/-- The items of `car_work` for the power. -/
inductive PowerItem where
  | acquire
  | release
  | on (cmd2 : U32)
  | off
  | offAcc
deriving DecidableEq, Repr

namespace PowerItem

/-- The item without its waiting. -/
def atomic : PowerItem → Power → Power
  | acquire => Power.workAcquire
  | release => Power.workRelease
  | on cmd2 => Power.workOn cmd2
  | off => Power.workOff
  | offAcc => Power.workOffAcc

end PowerItem

/-- The power, and how often and for how many milliseconds the worker has slept. -/
structure PowerWait where
  power : Power
  sleeps : ℕ
  elapsed : ℕ

namespace PowerWait

section Items

variable (reports : ℕ → Bool)

def onPower (f : Power → Power) : Proc PowerWait Unit := Proc.modify fun w => { w with power := f w.power }

/-- `rpt_power = 0` -/
def reported (p : Power) : Power := { p with rptPower := 0 }

/-- `msleep` -/
def msleep (ms : ℕ) : Proc PowerWait Unit :=
  Proc.modify fun w =>
    ⟨if reports w.sleeps then reported w.power else w.power, w.sleeps + 1, w.elapsed + ms⟩

/-- One pass of a waiting loop. -/
def waitPass (ms t : ℕ) : Proc PowerWait (ℕ ⊕ Unit) := do
  msleep reports ms
  let t := t - 1
  let w ← Proc.get
  if w.power.rptPower ≠ 0 ∧ t ≠ 0 then return .inl t else return .inr ()

def waitReport (ms t : ℕ) : Proc PowerWait Unit := Proc.iter (waitPass reports ms) t

/-- `rpt_power = 1; vs_send(2, 0xF0, 0, 0)` -/
def announce (p : Power) : Power := { p with rptPower := 1 }.emit (.vsSend 0xF0)

/-- `case 43` up to the question whether the app is asked. -/
def beforeOff (p : Power) : Power :=
  let p := p.setRefcnt 0
  if p.camSignal ≠ 0 then p.emit (.captureAddWork 0x37 0 true) else p

/-- `case 43` -/
def runOff : Proc PowerWait Unit := do
  onPower beforeOff
  let w ← Proc.get
  if w.power.callActive ≠ 0 then do
    onPower announce
    waitReport reports 50 40
  else pure ()
  onPower Power.powerSoftOff
  waitReport reports 50 80
  onPower (·.emit (.armSend 0x20B))

/-- `case 45` up to the question whether the app is asked. -/
def beforeOffAcc (p : Power) : Power :=
  let p := p.emit (.vsSend 0x8A)
  if p.audio.state.camState ≠ 0 then p.emit (.captureAddWork 0x3B 0 true)
  else if p.camSignal ≠ 0 then p.emit (.captureAddWork 0x37 0 true)
  else p

/-- `case 45` -/
def runOffAcc : Proc PowerWait Unit := do
  onPower beforeOffAcc
  let w ← Proc.get
  if w.power.refcnt ≠ 0 then do
    onPower fun p => announce (p.setRefcnt 0)
    waitReport reports 40 40
  else pure ()
  onPower Power.powerSoftOff
  waitReport reports 50 80

def run : PowerItem → Proc PowerWait Unit
  | .off => runOff reports
  | .offAcc => runOffAcc reports
  | item => onPower item.atomic

end Items

end PowerWait

/-! ## What the waiting is to come to -/

namespace PowerItem

/-- The item asks the app to go off. -/
def Asks (p : Power) : PowerItem → Prop
  | off => p.callActive ≠ 0
  | offAcc => p.refcnt ≠ 0
  | _ => False

instance (p : Power) : DecidablePred (Asks p) := fun item => by
  cases item <;> unfold Asks <;> infer_instance

/-- The longest time that an item sleeps before `power_soft_off`, and in all. -/
def limits : PowerItem → ℕ × ℕ
  | off => (2000, 6000)
  | offAcc => (1600, 5600)
  | _ => (0, 0)

/-- The time of one of the sleeps before `power_soft_off`. -/
def pace : PowerItem → ℕ
  | offAcc => 40
  | _ => 50

end PowerItem

namespace PowerWait

/-- No report comes in these sleeps. -/
def Silent (reports : ℕ → Bool) (start n : ℕ) : Prop := ∀ i < n, reports (start + i) = false

/-- An item has come to its end. -/
structure Settled (reports : ℕ → Bool) (item : PowerItem) (w w' : PowerWait) : Prop where
  /-- It is the item without its waiting, with some value of `rpt_power`. -/
  power : ∃ rpt, w'.power = { item.atomic w.power with rptPower := rpt }
  limit : w'.elapsed ≤ w.elapsed + item.limits.2
  /-- An app that is asked and reports in time is waited for to its report, and one sleep more. -/
  answered : ∀ k < 40, item.Asks w.power → Silent reports w.sleeps k → reports (w.sleeps + k) = true →
    w'.elapsed = w.elapsed + item.pace * (k + 1) + 50 ∧ w'.power.rptPower = 0
  /-- One that reports later is waited for to its report. -/
  late : ∀ k < 80, item.Asks w.power → Silent reports w.sleeps (40 + k) → reports (w.sleeps + 40 + k) = true →
    w'.elapsed = w.elapsed + item.limits.1 + 50 * (k + 1) ∧ w'.power.rptPower = 0
  /-- And one that does not is given up. -/
  silent : item.Asks w.power → Silent reports w.sleeps 120 →
    w'.elapsed = w.elapsed + item.limits.2 ∧ w'.power.rptPower = 1

end PowerWait

end MtcDrivers
