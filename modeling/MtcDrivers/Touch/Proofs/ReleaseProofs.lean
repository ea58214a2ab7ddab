import Mathlib.Tactic.SplitIfs
import MtcDrivers.Touch.Panel

/-!
# Proofs: the release of the touch panel

Every run that is not suspended queues the work again: behind `pen_up` the debounce counter is cleared
before it is counted up, so that it never leaves its window.
-/

namespace MtcDrivers

variable {calibrate : CalibrateAPoint} {ts : TouchPanel} {op : TouchSample}

/-! ## Every run queues the next one -/

theorem reportPoint_no_queue (ts : TouchPanel) :
    ts.reportPoint.effects.countP TouchEffect.isQueue = 0 := by
  unfold TouchPanel.reportPoint
  split_ifs <;> simp [TouchEffect.isQueue]

theorem touchPoint_no_queue (calX calY : U32) (ts : TouchPanel) :
    (TouchPanel.touchPoint op calX calY ts).effects.countP TouchEffect.isQueue = 0 := by
  have hlight : (if ts.mtcStatus &&& 0xFFFF00#32 = 0 then [TouchEffect.backlightOn]
      else []).countP TouchEffect.isQueue = 0 := by
    split <;> rfl
  dsimp only [TouchPanel.touchPoint]
  by_cases hon : ts.keyState ≠ 0 ∧ ts.blState = 0
  · rw [if_pos hon]
    by_cases htouch : (!op.isTouchDisable) = true
    · rw [if_pos htouch]
      simp only [List.countP_append, hlight, reportPoint_no_queue]
    · rw [if_neg htouch]
      exact hlight
  · rw [if_neg hon]
    exact hlight

theorem acceptPoint_queue (r : TouchRaw) :
    (ts.acceptPoint calibrate op r).effects.countP TouchEffect.isQueue = 1 := by
  unfold TouchPanel.acceptPoint
  simp only [List.countP_append]
  split_ifs
  · rw [touchPoint_no_queue]
    rfl
  · rfl

/-- Behind `pen_up` the counter is counted up from zero, and the release is not reached. -/
theorem penUp_eq (op : TouchSample) (ts : TouchPanel) : ts.penUp op =
    ⟨{ ts with debounce := if op.gpio = 1 then 1 else 0 }, [.queueDelayedWork 10]⟩ := by
  have hwindow : (0 + 1 : U8) ≤ 7 := by decide
  dsimp only [TouchPanel.penUp]
  by_cases hhigh : op.gpio = 1
  · rw [if_neg (not_not_intro hhigh), if_pos hwindow, if_pos hhigh]
    rfl
  · rw [if_pos hhigh, if_neg hhigh]

theorem requeues_eq_one (hop : op.suspended = false) : requeues calibrate ts op = 1 := by
  rw [requeues, tsc2003Work, hop, if_neg (by decide)]
  cases op.accepted with
  | some r => exact acceptPoint_queue r
  | none =>
    dsimp only
    rw [penUp_eq]
    rfl

/-! ## The release law -/

/-- Behind eight runs with the pen up, the last one queues the work again. -/
theorem not_released {ops : List TouchSample} (hops : ∀ op ∈ ops, op.suspended = false)
    (height : EightHigh ops) : ¬Released calibrate ts ops := by
  intro hreleased
  obtain ⟨before, last, rfl, hlength, -⟩ := height
  obtain ⟨pre, op, rfl⟩ : ∃ pre op, last = pre ++ [op] := by
    rcases List.eq_nil_or_concat last with rfl | ⟨pre, op, rfl⟩
    · simp at hlength
    · exact ⟨pre, op, List.concat_eq_append⟩
  have hended := hreleased.ended (before ++ pre) op (by rw [List.append_assoc])
  rw [requeues_eq_one (hops op (by simp))] at hended
  exact absurd hended (by decide)

/-- The touch is released as it should be in the runs without eight pen-up samples in a row, and in no
others. -/
theorem releaseLaw_iff (calibrate : CalibrateAPoint) (ts : TouchPanel) (ops : List TouchSample)
    (hops : ∀ op ∈ ops, op.suspended = false ∧ op.isTouchDisable = false) :
    ReleaseLaw calibrate (tsc2003Irq ts).panel ops ↔ ∀ pre post, ops = pre ++ post → ¬EightHigh pre := by
  constructor
  · rintro hlaw pre post rfl height
    have hpre : ∀ op ∈ pre, op.suspended = false := fun op hop =>
      (hops op (List.mem_append_left _ hop)).1
    exact not_released hpre height (hlaw.released pre post rfl height)
  · intro hnone
    constructor
    · intro pre post hsplit height
      exact absurd height (hnone pre post hsplit)
    · rintro pre op post rfl -
      exact requeues_eq_one (hops op (by simp)).1

/-- A run that finds no point, with the line high. -/
def penHighSample : TouchSample := ⟨none, none, none, none, none, none, 1, false, false⟩

/-- A panel that was never touched. -/
def freshPanel : TouchPanel := ⟨0, 0, fun _ => 0, 0, 0, 0, 1, 0, 0, 0⟩

theorem releaseLaw_short : ReleaseLaw (fun x y => (x, y)) (tsc2003Irq freshPanel).panel
    (List.replicate 7 penHighSample) := by
  refine (releaseLaw_iff (fun x y => (x, y)) freshPanel _ (by decide)).mpr ?_
  rintro pre post hsplit ⟨before, last, rfl, hlength, -⟩
  have hseven := congrArg List.length hsplit
  simp only [List.length_replicate, List.length_append] at hseven
  omega

/-- Eight runs with the pen up, and the touch goes on. -/
theorem releaseLaw_fails :
    ¬∀ (calibrate : CalibrateAPoint) (ts : TouchPanel),
      ReleaseLaw calibrate (tsc2003Irq ts).panel (List.replicate 8 penHighSample) := by
  intro h
  have hlaw := h (fun x y => (x, y)) freshPanel
  have height : EightHigh (List.replicate 8 penHighSample) := ⟨[], _, rfl, rfl, by decide⟩
  have hended := (hlaw.released _ [] (List.append_nil _).symm height).ended
    (List.replicate 7 penHighSample) penHighSample rfl
  revert hended
  decide

end MtcDrivers
