import MtcDrivers.Proc.History
import MtcDrivers.Radio.AfList
import MtcDrivers.Radio.Tuner

/-!
# The search for an alternative frequency

The steps of `work_signal_low`, `work_af`, `Radio_AF`, `Radio_Set_Frequency` and `rds_af_add` in any
order, and what it means that a search reads the list that `rds_af_add` built.
-/

namespace MtcDrivers

/-- The steps. -/
inductive AfOp where
  /-- `rds_af_add` on the list -/
  | add (af : U16)
  | signalLow
  | af (signal : U32) (cleared : Bool)
  | setAf (af : U32)
  /-- `Radio_Set_Frequency`, before and after its flush of `af_wq`. -/
  | setFrequencyBegin
  | setFrequencyEnd (freq withData : U32)
deriving DecidableEq, Repr

namespace Tuner

/-- One step; a remainder by zero leaves the tuner as it is. -/
def afNext (t : Tuner) : AfOp → Tuner
  | .add af => t.mapRadio fun r => r.mapS2 (rdsAfAdd afBase af)
  | .signalLow => t.workSignalLow
  | .af signal cleared => (t.workAf signal cleared).getD t
  | .setAf af => t.setAf af
  | .setFrequencyBegin => t.setFrequencyBegin
  | .setFrequencyEnd freq withData => t.setFrequencyEnd freq withData

/-- What a run of `work_af` sends. -/
def sent (t t' : Tuner) : List RadioEvent := History.since (·.radio.log) t t'

/-- `work_signal_low` starts a search. -/
def StartsSearch (t : Tuner) : Prop := t.endTa.mayStart = true ∧ t.endTa.searchStart.isSome = true

instance (t : Tuner) : Decidable t.StartsSearch := inferInstanceAs (Decidable (_ ∧ _))

/-- The step starts no search. -/
def NoStart (t : Tuner) (op : AfOp) : Prop := op = .signalLow → ¬ t.StartsSearch

/-- No search is on, and the count byte is one that `rds_af_add` can have stored. -/
structure AtRest (t : Tuner) : Prop where
  noSearch : t.radio.hasAfWork = 0
  count : (t.tbl 0).toNat ≤ 25

end Tuner

end MtcDrivers
