import MtcDrivers.Ioctl.Setters

/-!
# Rejected set requests

Every setter parses all of its numbers before it stores or sends anything, and the array of a list is
freed before `LABEL_140`.
-/

namespace MtcDrivers

theorem unchanged_refl (s : SetState) : Unchanged s s where
  config := rfl
  log := ⟨[], rfl, by simp, by simp, by simp⟩

/-- An array that is freed at once. -/
theorem unchanged_alloc (bytes : ℕ) (s : SetState) :
    Unchanged s ((s.alloc bytes).emit (.kfree s.arrays)) where
  config := rfl
  log := by
    refine ⟨[.kfree s.arrays, .alloc s.arrays bytes], rfl, ?_, ?_, ?_⟩
    · intro e he
      rcases List.mem_cons.mp he with rfl | he
      · rfl
      · rw [List.mem_singleton.mp he]
        rfl
    · intro p n hp
      have hpn : p = s.arrays := by
        rcases List.mem_cons.mp hp with h | h
        · cases h
        · have heq := List.mem_singleton.mp h
          cases heq
          rfl
      subst hpn
      simp
    · intro p hp
      rcases List.mem_cons.mp hp with h | h
      · cases h
        exact ⟨bytes, by simp⟩
      · cases List.mem_singleton.mp h

/-- The result -1 is that of `LABEL_140`. -/
def RejectsUnchanged (s : SetState) (r : ℤ × SetState) : Prop := r.1 = -1 → Unchanged s r.2

theorem rejectsUnchanged_label62 (s s' : SetState) : RejectsUnchanged s (label62 s') := by
  intro h
  have hne : (0 : ℤ) ≠ -1 := by decide
  exact absurd h hne

theorem rejectsUnchanged_label140 {s s' : SetState} (h : Unchanged s s') :
    RejectsUnchanged s (label140 s') := fun _ => h

theorem rejectsUnchanged_ite {s : SetState} {c : Prop} [Decidable c] {r r' : ℤ × SetState}
    (hr : RejectsUnchanged s r) (hr' : RejectsUnchanged s r') :
    RejectsUnchanged s (if c then r else r') := by
  by_cases hc : c
  · rw [if_pos hc]
    exact hr
  · rw [if_neg hc]
    exact hr'

theorem rejectsUnchanged_setScalar (offset : ℕ) (cmd : U32) (also : SetState → SetState) (pos : Text)
    (s : SetState) : RejectsUnchanged s (setScalar offset cmd also pos s) := by
  apply rejectsUnchanged_ite
  · exact rejectsUnchanged_label62 s _
  · exact rejectsUnchanged_label140 (unchanged_refl s)

/-- However many numbers a list request has, its array is freed before it is rejected. -/
theorem rejectsUnchanged_setArray (bytes count : ℕ) (store : List U32 → ConfigData → ConfigData)
    (send : SetState → SetState) (pos : Text) (s : SetState) :
    RejectsUnchanged s (setArray bytes count store send pos s) := by
  unfold setArray
  dsimp only
  cases readInts count pos with
  | none => exact rejectsUnchanged_label140 (unchanged_alloc bytes s)
  | some r => exact rejectsUnchanged_label62 s _

theorem rejectsUnchanged_setMirror (pos : Text) (s : SetState) :
    RejectsUnchanged s (setMirror pos s) := by
  apply rejectsUnchanged_ite
  · exact rejectsUnchanged_label62 s _
  · apply rejectsUnchanged_ite
    · exact rejectsUnchanged_label140 (unchanged_refl s)
    · exact rejectsUnchanged_label62 s _

theorem rejectsUnchanged_setLed (pos : Text) (s : SetState) : RejectsUnchanged s (setLed pos s) := by
  have hreject : RejectsUnchanged s (label140 s) := rejectsUnchanged_label140 (unchanged_refl s)
  apply rejectsUnchanged_ite
  · apply rejectsUnchanged_ite
    · apply rejectsUnchanged_ite
      · exact rejectsUnchanged_label62 s _
      · exact hreject
    · exact hreject
  · exact hreject

theorem rejectsUnchanged_cfgSetTail (env : SetEnv) (key pos : Text) (s : SetState) :
    RejectsUnchanged s (cfgSetTail env key pos s) := by
  have hscalar := fun offset cmd also => rejectsUnchanged_setScalar offset cmd also pos s
  have harray := fun bytes count store send => rejectsUnchanged_setArray bytes count store send pos s
  apply rejectsUnchanged_ite (hscalar _ _ _)
  apply rejectsUnchanged_ite (hscalar _ _ _)
  apply rejectsUnchanged_ite (hscalar _ _ _)
  apply rejectsUnchanged_ite (rejectsUnchanged_setMirror pos s)
  apply rejectsUnchanged_ite (hscalar _ _ _)
  apply rejectsUnchanged_ite (hscalar _ _ _)
  apply rejectsUnchanged_ite (rejectsUnchanged_setLed pos s)
  apply rejectsUnchanged_ite (harray _ _ _ _)
  apply rejectsUnchanged_ite (harray _ _ _ _)
  apply rejectsUnchanged_ite (harray _ _ _ _)
  exact rejectsUnchanged_label140 (unchanged_refl s)

/-- A color or led request that is rejected goes on to the comparisons behind it. -/
theorem rejectsUnchanged_cfgSetLedMulti (env : SetEnv) (key pos : Text) (s : SetState) :
    RejectsUnchanged s (cfgSetLedMulti env key pos s) := by
  apply rejectsUnchanged_ite
  · apply rejectsUnchanged_ite
    · exact rejectsUnchanged_label62 s _
    · exact rejectsUnchanged_cfgSetTail env key _ s
  · exact rejectsUnchanged_cfgSetTail env key pos s

theorem rejectsUnchanged_cfgSet (env : SetEnv) (key pos : Text) (s : SetState) :
    RejectsUnchanged s (cfgSet env key pos s) := by
  apply rejectsUnchanged_ite
  · exact rejectsUnchanged_label62 s _
  · apply rejectsUnchanged_ite
    · apply rejectsUnchanged_ite
      · exact rejectsUnchanged_label62 s _
      · exact rejectsUnchanged_cfgSetLedMulti env key _ s
    · exact rejectsUnchanged_cfgSetLedMulti env key pos s

/-- A set request that is rejected changes nothing, whatever its key and its list of numbers. -/
theorem cfgSet_rejected_unchanged (env : SetEnv) (key pos : Text) (s : SetState)
    (h : (cfgSet env key pos s).1 = -1) : Unchanged s (cfgSet env key pos s).2 :=
  rejectsUnchanged_cfgSet env key pos s h

/-- `cfgSet_rejected_unchanged` for a `cfg_ir_assign` list that breaks off after two numbers. -/
theorem cfgSet_rejected_short_list :
    Unchanged ⟨default, 0, []⟩
      (cfgSet ⟨0, false, 255⟩ (ascii "cfg_ir_assign") (ascii "7,8,x") ⟨default, 0, []⟩).2 :=
  cfgSet_rejected_unchanged ⟨0, false, 255⟩ (ascii "cfg_ir_assign") (ascii "7,8,x") ⟨default, 0, []⟩
    (by decide)

end MtcDrivers
