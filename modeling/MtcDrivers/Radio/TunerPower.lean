import Mathlib.Data.List.Chain
import MtcDrivers.Run.Basic
import MtcDrivers.Radio.Tuner
import MtcDrivers.Radio.Band

/-!
# Power of the tuner

The calls of `Radio_Power` and the early-suspend callbacks in any order, and what the power commands of a
span without such a callback have to be.
-/

namespace MtcDrivers

namespace Tuner

/-- The commands 0x9206 and 0x9207 sent so far, newest first: `true` is ON. -/
def powerCommands (t : Tuner) : List Bool :=
  t.radio.mcuCommands.filterMap fun c =>
    if c.1 = 37382 then some true else if c.1 = 37383 then some false else none

end Tuner

/-- The calls. -/
inductive PowerCall where
  /-- `Radio_Power(1)` or `Radio_Power(0)` -/
  | power (on : Bool)
  | suspend
  | resume
deriving DecidableEq, Repr

/-- The tuner, and what happened in the span since the last callback. -/
structure PowerSpan where
  tuner : Tuner
  /-- The power commands that were sent, newest first. -/
  sent : List Bool
  /-- The last call of `Radio_Power`. -/
  called : Option Bool

namespace PowerSpan

/-- The argument of a call. -/
def arg (on : Bool) : U32 := if on then 1 else 0

/-- One call. -/
def next (s : PowerSpan) : PowerCall → PowerSpan
  | .power on =>
    let t := s.tuner.radioPower (arg on)
    ⟨t, t.powerCommands.take (t.powerCommands.length - s.tuner.powerCommands.length) ++ s.sent, some on⟩
  | .suspend => ⟨s.tuner.suspend, [], none⟩
  | .resume => ⟨s.tuner.resume, [], none⟩

/-- A span that begins with a tuner. -/
def start (t : Tuner) : PowerSpan := ⟨t, [], none⟩

/-- The commands of the span alternate, and `radio.power` is the last of them. -/
structure Tracked (s : PowerSpan) : Prop where
  alternates : s.sent.IsChain (· ≠ ·)
  cached : ∀ on, s.sent.head? = some on → s.tuner.power = arg on

/-- A call leaves the commands tracked, and `Radio_Power(0)` behind `Radio_Power(1)` sends OFF. -/
structure Follows (s : PowerSpan) (call : PowerCall) : Prop where
  tracked : (s.next call).Tracked
  off : call = .power false → s.called = some true → (s.next call).sent = false :: s.sent

/-- A call of `Radio_Power(1)` finds the tuner marked as on. -/
def NotOn (s : PowerSpan) (call : PowerCall) : Prop := call = .power true → s.tuner.power = 1

end PowerSpan

end MtcDrivers
