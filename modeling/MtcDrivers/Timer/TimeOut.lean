import MtcDrivers.Dvd.World
import MtcDrivers.Link.World
import MtcDrivers.Proc.Collect
import MtcDrivers.Timer.Wraparound

/-!
# `CheckTimeOut`

The two functions of this name, called again and again with the microseconds of one start.
-/

namespace MtcDrivers

open Search

/-- The first `true` of some answers is that of the first poll at least `d` microseconds behind the start.
The start is reading 0 of the clock, and poll `k` is reading `k + 1`. -/
def FirstLate (d : ℕ) (clock : ℕ → ℕ) (answers : List Bool) : Prop :=
  ∀ k, IsFirst (fun k => answers[k]? = some true) answers.length k ↔
    IsFirst (fun k => d ≤ clock (k + 1) - clock 0) answers.length k

/-- The answers of `CheckTimeOut` at `n` polls behind a call of `GetCurTimer`. -/
def timeOutAnswers (n : ℕ) : Link (List Bool) := do
  let timeout ← getCurTimer
  Proc.collect (checkTimeOut timeout) n

/-- The same for the DVD drive, which has no function for the start. -/
def Dvd.timeOutAnswers (n : ℕ) : Proc Dvd.World (List Bool) := do
  let timeout ← Dvd.tvUsec
  Proc.collect (Dvd.checkTimeOut timeout) n

end MtcDrivers
