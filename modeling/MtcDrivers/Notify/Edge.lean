import Mathlib.Tactic.SplitIfs

/-!
# Reports of changes

A quantity that is sampled again and again, and reported when a sample differs from the one before. Samples
come newest first; `init` is what stands before the first of them.
-/

namespace Notify

variable {β γ : Type} (changed : β → β → Prop) [DecidableRel changed] (report : β → γ) (init : β)

/-- The last report, if there has been one. -/
def lastReport : List β → Option γ
  | [] => none
  | sample :: samples =>
    if changed (samples.headD init) sample then some (report sample) else lastReport samples

variable {changed report init}

/-- Where a report depends on nothing but what is compared, the last one is still true. -/
theorem lastReport_eq (hsame : ∀ prev sample, ¬ changed prev sample → report sample = report prev)
    {samples : List β} {v : γ} (h : lastReport changed report init samples = some v) :
    v = report (samples.headD init) := by
  induction samples with
  | nil => cases h
  | cons sample samples ih =>
    unfold lastReport at h
    split_ifs at h with hchanged
    · exact (Option.some.inj h).symm
    · exact (ih h).trans (hsame _ _ hchanged).symm

end Notify
