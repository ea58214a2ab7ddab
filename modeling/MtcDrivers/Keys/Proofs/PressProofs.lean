import Mathlib.Data.List.Induction
import MtcDrivers.Keys.Press

/-!
# Which key presses are right

`car_struct.tv` is overwritten before its microseconds are subtracted, so only whole seconds count, and the
`break`s of the inner `switch` end up at `LABEL_96`.
-/

namespace MtcDrivers

namespace PressItem

variable {item : PressItem} {kept prev : Timeval}

/-! ## The debounce -/

theorem debounce_fst (item : PressItem) (kept : Timeval) :
    (item.debounce kept).1 = true ↔ 29999 < (1000000 * (item.tv.tvSec - kept.tvSec)).toInt := by
  unfold debounce
  rw [decide_eq_true_iff, BitVec.sub_self, BitVec.zero_add]
  exact Int.not_le

/-- With less than 2147 seconds between two readings, only the microseconds of the same or the next second
    decide whether the whole seconds are enough. -/
theorem seconds_iff_due {item : PressItem} {prev : Timeval} (hle : prev.tvSec.toInt ≤ item.tv.tvSec.toInt)
    (hlt : item.tv.tvSec.toInt - prev.tvSec.toInt < 2147) :
    (29999 < (1000000 * (item.tv.tvSec - prev.tvSec)).toInt ↔ item.Due prev) ↔
      (item.tv.tvSec = prev.tvSec → item.tv.tvUsec.toNat < prev.tvUsec.toNat + 30000) ∧
        (item.tv.tvSec.toInt = prev.tvSec.toInt + 1 →
          prev.tvUsec.toNat + 30000 ≤ item.tv.tvUsec.toNat + 1000000) := by
  have hsec : (item.tv.tvSec - prev.tvSec).toInt = item.tv.tvSec.toInt - prev.tvSec.toInt := by
    rw [BitVec.toInt_sub]
    exact Int.bmod_eq_of_le (by omega) (by omega)
  have hprod : (1000000 * (item.tv.tvSec - prev.tvSec)).toInt =
      1000000 * (item.tv.tvSec.toInt - prev.tvSec.toInt) := by
    rw [BitVec.toInt_mul, hsec]
    exact Int.bmod_eq_of_le (by rw [show (1000000 : U32).toInt = 1000000 from rfl]; omega)
      (by rw [show (1000000 : U32).toInt = 1000000 from rfl]; omega)
  have heq : item.tv.tvSec = prev.tvSec ↔ item.tv.tvSec.toInt = prev.tvSec.toInt := BitVec.toInt_inj.symm
  have husec := item.tv.tvUsec_lt
  have husec' := prev.tvUsec_lt
  unfold Due Timeval.micros
  rw [hprod, heq]
  omega

/-! ## What is kept -/

theorem label93_snd (item : PressItem) (kept : Timeval) : (item.label93 kept).2 = item.tv := by
  unfold label93
  simp only
  split_ifs
  · rfl
  · rfl
  · rfl

/-- An item that is debounced sets the kept time. -/
theorem keep_of_debounced (h : item.Debounced) : keep kept item = item.tv := by
  unfold keep carWork
  rcases h with hlow | ⟨h60, h61, h7E⟩
  · simp only [if_pos hlow, label93_snd]
  · simp only [if_neg h60, if_pos h61, if_neg h7E, label93_snd, ite_self]

/-- The other items leave it. -/
theorem keep_of_not_debounced (h : ¬ item.Debounced) : keep kept item = kept := by
  unfold Debounced at h
  rw [not_or] at h
  obtain ⟨hlow, hcodes⟩ := h
  unfold keep carWork
  by_cases h60 : item.cmd2 - 32 = 0x40
  · simp only [if_neg hlow, if_pos h60]
  by_cases h61 : item.cmd2 - 32 = 0x41
  · simp only [if_neg hlow, if_neg h60, if_neg (not_not_intro h61)]
  by_cases h7E : item.cmd2 - 32 = 0x5E
  · simp only [if_neg hlow, if_neg h60, if_pos h61, if_pos h7E]
  · exact absurd ⟨h60, h61, h7E⟩ hcodes

theorem lastDebounced_concat (items : List PressItem) (item : PressItem) :
    lastDebounced (items ++ [item]) = if item.Debounced then item.tv else lastDebounced items := by
  unfold lastDebounced
  rw [List.filter_append]
  by_cases h : item.Debounced
  · have hlast : [item].filter (Debounced ·) = [item] := List.filter_cons_of_pos (decide_eq_true h)
    rw [if_pos h, hlast, List.getLast?_concat]
    rfl
  · have hskip : ¬ decide item.Debounced = true := fun hd => h (of_decide_eq_true hd)
    have hnone : [item].filter (Debounced ·) = [] := List.filter_cons_of_neg hskip
    rw [if_neg h, hnone, List.append_nil]

/-- The kept time is the one of the last item that was debounced. -/
theorem after_keep (items : List PressItem) : Run.after keep .zero items = lastDebounced items := by
  induction items using List.reverseRecOn with
  | nil => rfl
  | append_singleton items item ih =>
    rw [Run.after_append, lastDebounced_concat, ih]
    show keep (lastDebounced items) item = _
    by_cases h : item.Debounced
    · rw [if_pos h, keep_of_debounced h]
    · rw [if_neg h, keep_of_not_debounced h]

/-! ## What is emitted -/

/-- A press that is not accepted has no effect. -/
theorem carWork_rejected (hpress : item.IsPress) (h : ¬ (item.debounce kept).1) :
    (item.carWork kept).1 = [] := by
  unfold carWork label93
  simp only [if_pos hpress.2, if_pos h]

theorem carWork_accepted (hpress : item.IsPress) (h : (item.debounce kept).1) :
    (item.carWork kept).1 = item.pressSwitch := by
  have hle : ¬ 31 < item.cmd2.toInt := Int.not_lt.mpr hpress.2
  unfold carWork label93
  simp only [if_pos hpress.2, if_neg (not_not_intro h), if_neg hle]

/-- The `switch` gives a code what it assigns to it exactly if the code leaves it by `goto`. -/
theorem pressSwitch_eq_assigned_iff : item.pressSwitch = item.assigned ↔ item.cmd2 = 1 ∨ item.cmd2 = 21 := by
  unfold pressSwitch assigned
  by_cases h1 : item.cmd2 = 1
  · rw [if_pos h1, if_pos h1]
    exact iff_of_true rfl (.inl h1)
  rw [if_neg h1, if_neg h1]
  by_cases h21 : item.cmd2 = 21
  · rw [if_pos h21, if_pos h21]
    exact iff_of_true rfl (.inr h21)
  rw [if_neg h21, if_neg h21]
  refine iff_of_false ?_ (not_or.mpr ⟨h1, h21⟩)
  intro h
  exact absurd (List.append_right_eq_self.mp h) (List.cons_ne_nil _ _)

/-- A press is right exactly if it fits. -/
theorem pressRight_iff (hpress : item.IsPress) : PressRight prev prev item ↔ PressFits prev item := by
  constructor
  · intro h
    have hdue : 29999 < (1000000 * (item.tv.tvSec - prev.tvSec)).toInt ↔ item.Due prev :=
      (debounce_fst item prev).symm.trans h.accepted
    refine ⟨hdue, fun hd => ?_⟩
    have hacc := h.accepted.mpr hd
    exact pressSwitch_eq_assigned_iff.mp ((carWork_accepted hpress hacc).symm.trans (h.emitted hacc))
  · rintro ⟨hdue, hcode⟩
    have haccepted : (item.debounce prev).1 = true ↔ item.Due prev := (debounce_fst item prev).trans hdue
    refine ⟨haccepted, fun hacc => ?_, carWork_rejected hpress⟩
    rw [carWork_accepted hpress hacc]
    exact pressSwitch_eq_assigned_iff.mpr (hcode (haccepted.mp hacc))

/-- In every sequence of items, the presses are right exactly if each of them fits. -/
theorem pressesRight_iff (items : List PressItem) : PressesRight items ↔ PressesFit items := by
  unfold PressesRight PressesFit
  refine forall_congr' fun pre => forall_congr' fun item => forall_congr' fun post =>
    imp_congr_right fun _ => imp_congr_right fun hpress => ?_
  rw [after_keep]
  exact pressRight_iff hpress

/-- Code 2 is pressed one second after the start of the clock. -/
def secondKey : PressItem := ⟨2, ⟨1, 0, Timeval.zero.tvUsec_lt⟩, .zeroed⟩

/-- The key of code 2 is followed by key 1. -/
theorem secondKey_emits : (secondKey.carWork .zero).1 = [.sendIrKey 26, .sendIrKey 1] := by
  decide

/-- Even with codes of the inner `switch` only and a clock that does not run backwards. -/
theorem not_pressesRight : ¬ ∀ items : List PressItem, (∀ item ∈ items, item.IsPress) →
    items.Pairwise (fun a b => a.tv.micros ≤ b.tv.micros) → PressesRight items := by
  intro h
  have hpress : secondKey.IsPress := ⟨by decide, by decide⟩
  have hall : ∀ item ∈ [secondKey], item.IsPress := by
    intro item hitem
    rw [List.mem_singleton.mp hitem]
    exact hpress
  have hright := h [secondKey] hall (List.pairwise_singleton _ _) [] secondKey [] rfl hpress
  have hemit : (secondKey.carWork .zero).1 = secondKey.assigned := hright.emitted (by decide)
  rw [secondKey_emits] at hemit
  exact absurd hemit (by decide)

end PressItem

end MtcDrivers
