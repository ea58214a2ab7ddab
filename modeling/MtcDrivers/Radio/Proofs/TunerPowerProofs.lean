import MtcDrivers.Radio.TunerPower

/-!
# The power commands of the tuner

`Radio_Power(1)` does not mark the tuner as on; the commands are tracked exactly as long as it is not
called where it would send.
-/

namespace MtcDrivers

namespace Tuner

theorem radioPower_same {t : Tuner} {power : U32} (h : power = t.power) : t.radioPower power = t :=
  if_pos h

theorem radioPower_on {t : Tuner} (h : ¬ (1 : U32) = t.power) :
    (t.radioPower 1).powerCommands = true :: t.powerCommands ∧ (t.radioPower 1).power = t.power := by
  unfold radioPower
  rw [if_neg h]
  exact ⟨rfl, rfl⟩

theorem radioPower_off {t : Tuner} (h : ¬ (0 : U32) = t.power) :
    (t.radioPower 0).powerCommands = false :: t.powerCommands ∧ (t.radioPower 0).power = 0 := by
  unfold radioPower
  rw [if_neg h]
  exact ⟨rfl, rfl⟩

end Tuner

namespace PowerSpan

theorem take_new {b : Bool} {l : List Bool} : (b :: l).take ((b :: l).length - l.length) = [b] := by
  simp

/-- A call that finds its argument in `radio.power` sends nothing. -/
theorem next_same {s : PowerSpan} {on : Bool} (h : arg on = s.tuner.power) :
    s.next (.power on) = ⟨s.tuner, s.sent, some on⟩ := by
  simp [next, Tuner.radioPower_same h]

theorem next_on {s : PowerSpan} (h : s.tuner.power ≠ 1) :
    (s.next (.power true)).sent = true :: s.sent ∧ (s.next (.power true)).tuner.power = s.tuner.power := by
  obtain ⟨hsent, hpower⟩ := Tuner.radioPower_on (t := s.tuner) (Ne.symm h)
  refine ⟨?_, hpower⟩
  show _ ++ s.sent = _
  rw [show s.tuner.radioPower (arg true) = s.tuner.radioPower 1 from rfl, hsent, take_new]
  rfl

theorem next_off {s : PowerSpan} (h : s.tuner.power ≠ 0) :
    (s.next (.power false)).sent = false :: s.sent ∧ (s.next (.power false)).tuner.power = 0 := by
  obtain ⟨hsent, hpower⟩ := Tuner.radioPower_off (t := s.tuner) (Ne.symm h)
  refine ⟨?_, hpower⟩
  show _ ++ s.sent = _
  rw [show s.tuner.radioPower (arg false) = s.tuner.radioPower 0 from rfl, hsent, take_new]
  rfl

/-- In a span in which ON was never sent, at most one OFF was. -/
structure OffOnly (s : PowerSpan) : Prop where
  sent : s.sent = [] ∨ s.sent = [false] ∧ s.tuner.power = 0
  called : s.called = some true → s.tuner.power = 1

theorem OffOnly.start (t : Tuner) : (start t).OffOnly where
  sent := .inl rfl
  called := by simp [PowerSpan.start]

theorem OffOnly.next {s : PowerSpan} (h : s.OffOnly) {call : PowerCall} (hcall : s.NotOn call) :
    (s.next call).OffOnly := by
  cases call with
  | suspend => exact ⟨.inl rfl, by simp [PowerSpan.next]⟩
  | resume => exact ⟨.inl rfl, by simp [PowerSpan.next]⟩
  | power on =>
    cases on with
    | true =>
      have hpower : s.tuner.power = arg true := hcall rfl
      rw [next_same hpower.symm]
      exact ⟨h.sent, fun _ => hpower⟩
    | false =>
      by_cases hpower : s.tuner.power = arg false
      · rw [next_same hpower.symm]
        exact ⟨h.sent, by simp⟩
      · obtain ⟨hsent, hoff⟩ := next_off hpower
        rcases h.sent with hnil | ⟨-, hzero⟩
        · rw [hnil] at hsent
          exact ⟨.inr ⟨hsent, hoff⟩, by simp [PowerSpan.next]⟩
        · exact absurd hzero hpower

theorem OffOnly.tracked {s : PowerSpan} (h : s.OffOnly) : s.Tracked := by
  rcases h.sent with hnil | ⟨hone, hpower⟩
  · constructor
    · rw [hnil]
      exact .nil
    · intro on hon
      rw [hnil] at hon
      cases hon
  · constructor
    · rw [hone]
      exact .singleton _
    · intro on hon
      rw [hone] at hon
      cases hon
      exact hpower

/-- The calls follow what was requested exactly as long as none switches the tuner on. -/
theorem OffOnly.follows_iff {s : PowerSpan} (h : s.OffOnly) (call : PowerCall) :
    s.Follows call ↔ s.NotOn call := by
  constructor
  · rintro ⟨htracked, -⟩ rfl
    by_contra hpower
    obtain ⟨hsent, hkept⟩ := next_on hpower
    have hcached := htracked.cached true (by rw [hsent]; rfl)
    rw [hkept] at hcached
    exact hpower hcached
  · intro hcall
    refine ⟨(h.next hcall).tracked, ?_⟩
    rintro rfl hcalled
    have hpower := h.called hcalled
    exact (next_off (by rw [hpower]; decide)).1

/-- From any tuner: every call of a run follows what was requested if and only if no call of
    `Radio_Power(1)` comes while `radio.power` is not 1. -/
theorem powerCalls_follow_iff (t : Tuner) (calls : List PowerCall) :
    Run.Always next Follows (start t) calls ↔ Run.Always next NotOn (start t) calls :=
  Run.always_iff OffOnly (OffOnly.start t) (fun _ _ h hcall => h.next hcall) fun _ call h => h.follows_iff call

/-- After `Radio_Power(1)` the tuner cannot be switched off. -/
theorem not_powerCalls_follow_on_off :
    ¬ Run.Always next Follows (start default) [.power true, .power false] := by
  intro h
  have hoff := (h [.power true] (.power false) [] rfl).off rfl rfl
  revert hoff
  decide

end PowerSpan

end MtcDrivers
