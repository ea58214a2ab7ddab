import MtcDrivers.Car.Wheel

/-!
# A knob with sectors

What the callback tracks: a sector is accepted when two samples in a row lie in it, and `0` (between
the sectors) is never accepted. In steering mode the sectors `1`, `2`, `3` follow each other in a
circle.
-/

namespace MtcDrivers

/-- The sector of the last sample and the last accepted one. -/
structure Knob where
  candidate : U8
  accepted : U8
deriving DecidableEq

namespace Knob

/-- A sample in the sector `s`. -/
def sample (k : Knob) (s : U8) : Knob := ⟨s, if s = k.candidate ∧ s ≠ 0 then s else k.accepted⟩

/-- The knob after samples in these sectors. -/
def track (sectors : List U8) : Knob := sectors.foldl sample ⟨0, 0⟩

/-- The successor of a sector on the circle. -/
def next (s : U8) : U8 := if s = 1 then 2 else if s = 2 then 3 else if s = 3 then 1 else s

/-- The event of a turn from the sector `a` to `s`: `1` forwards, `0` backwards. -/
def rotation (a s : U8) : Option U32 :=
  if s = a then none else if s = next a then some 1 else if a = next s then some 0 else none

theorem track_concat (sectors : List U8) (s : U8) :
    track (sectors ++ [s]) = (track sectors).sample s :=
  List.foldl_append

theorem candidate_track (sectors : List U8) :
    (track sectors).candidate = sectors.getLast?.getD 0 := by
  rcases List.eq_nil_or_concat sectors with rfl | ⟨pre, s, rfl⟩
  · rfl
  · rw [List.concat_eq_append, track_concat]
    simp [sample]

end Knob

/-- The knob packed in `wheel_state`. -/
def WheelState.knob (ws : WheelState) : Knob := ⟨ws.candidate, ws.accepted⟩

/-- The state after the callbacks. -/
abbrev wheelAfter (addWheelWork : AddWheelWork) (ws : WheelState) (ops : List WheelSample) : WheelState :=
  Run.after (wheelStep addWheelWork) ws ops

/-- The sample confirms one of the two transitions that the callback drops. -/
def WheelSample.Lost (op : WheelSample) (ws : WheelState) : Prop :=
  op.sector = ws.candidate ∧ ws.keyRepeatCnt = 0 ∧
    (ws.accepted = 4 ∧ op.sector = 1 ∨ ws.accepted = 3 ∧ op.sector = 2)

/-- The sample confirms one of the two transitions that the callback reports. -/
def WheelSample.Turned (op : WheelSample) (ws : WheelState) : Prop :=
  op.sector = ws.candidate ∧ ws.keyRepeatCnt = 0 ∧
    (ws.accepted = 4 ∧ op.sector = 2 ∨ ws.accepted = 3 ∧ op.sector = 1)

/-- What a callback in normal mode is for: sector 1 or 2 confirmed behind 3 or 4 without a hold-off is
one event, `e` for 4 to 2 and 3 to 1 and `f` for 4 to 1 and 3 to 2, and every confirmed sector is
accepted. -/
def WheelSample.Answered (addWheelWork : AddWheelWork) (e f : U32) (ws : WheelState)
    (op : WheelSample) : Prop :=
  (op.sector = ws.candidate → op.sector = 1 ∨ op.sector = 2 → ws.accepted = 3 ∨ ws.accepted = 4 →
    ws.keyRepeatCnt = 0 →
      wheelEvents addWheelWork ws op =
        [if ws.accepted = 4 ∧ op.sector = 1 ∨ ws.accepted = 3 ∧ op.sector = 2 then f else e]) ∧
  (op.sector = ws.candidate → op.sector ≠ 0 →
    (wheelStep addWheelWork ws op).accepted = op.sector)

instance (op : WheelSample) (ws : WheelState) : Decidable (op.Lost ws) :=
  inferInstanceAs (Decidable (_ ∧ _ ∧ _))

end MtcDrivers
