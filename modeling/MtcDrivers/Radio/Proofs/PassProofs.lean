import MtcDrivers.Radio.Proofs.FrameProofs

/-!
# One pass of the synchroniser

`radio_rds_pass` takes a window that has the syndrome of a block expected in the present state, and
otherwise goes back to state 0 and drops one bit.
-/

namespace MtcDrivers

open RdsBlock

namespace Radio

/-- What the branch of a block in `radio_rds_pass` does before `LABEL_96`. -/
structure Accepted (x : RdsBlock) (word : U16) (r r' : Radio) : Prop where
  word : r'.blockWord x = word
  gap13_7 : r'.gap13_7 = r.gap13_7
  gap14 : r'.gap14 = r.gap14
  cfgRadio : r'.cfgRadio = r.cfgRadio
  /-- The way back from a traffic announcement, in block B, resets the synchroniser. -/
  state : r'.staRdsCache0 = x.next ∨ x = .b ∧ r'.staRdsCache0 = 0
  calls : r'.processCalls = r.processCalls + if x = .d then 1 else 0

theorem accepted_a (word : U16) (r : Radio) :
    Accepted .a word r { r with u16_2 := word, staRdsCache0 := 1 } :=
  ⟨rfl, rfl, rfl, rfl, .inl rfl, rfl⟩

theorem accepted_b (word : U16) (r : Radio) : Accepted .b word r (r.rdsBlockB word) := by
  unfold rdsBlockB
  dsimp only
  generalize hs : Radio.mapS2 _ _ = s
  have hword : s.gap13_0 = word := by rw [← hs]; rfl
  have hstate : s.staRdsCache0 = 2 := by rw [← hs]; rfl
  have hcalls : s.processCalls = r.processCalls := by rw [← hs]; rfl
  have h13 : s.gap13_7 = r.gap13_7 := by rw [← hs]; rfl
  have h14 : s.gap14 = r.gap14 := by rw [← hs]; rfl
  have hcfg : s.cfgRadio = r.cfgRadio := by rw [← hs]; rfl
  have hend : ∀ t : Radio, Keeps s t → Accepted .b word r t := by
    intro t ht
    refine ⟨ht.gap13_0.trans hword, ht.gap13_7.trans h13, ht.gap14.trans h14,
      ht.cfgRadio.trans hcfg, ?_, ht.calls.trans hcalls⟩
    rcases ht.state with hkept | hreset
    · exact .inl (hkept.trans hstate)
    · exact .inr ⟨rfl, hreset⟩
  split_ifs with htuned
  · exact hend _ (keeps_rdsSendSta s)
  · exact hend _ (keeps_taBack s)

theorem accepted_d (word : U16) (r : Radio) :
    Accepted .d word r (rdsProcess { r with gap13_4 := word, staRdsCache0 := 0 }) := by
  obtain ⟨e, he, hkeeps⟩ := keeps_rdsProcess { r with gap13_4 := word, staRdsCache0 := 0 }
  refine ⟨hkeeps.gap13_4, hkeeps.gap13_7, hkeeps.gap14, hkeeps.cfgRadio, .inl ?_, ?_⟩
  · rcases hkeeps.state with h | h <;> exact h
  · exact processCalls_rdsProcess _

/-- What the ways to `LABEL_96` leave. -/
theorem rdsAccept_eq_some {v1 bword : U32} {r r' : Radio} (h : r.rdsAccept v1 bword = some r') :
    r' = { r with u16_2 := bword.setWidth 16, staRdsCache0 := 1 } ∨
      r' = r.rdsBlockB (bword.setWidth 16) ∨
      r' = { r with staRdsCache0 := 3, gap13_2 := bword.setWidth 16 } ∨
      r' = rdsProcess { r with gap13_4 := bword.setWidth 16, staRdsCache0 := 0 } := by
  unfold rdsAccept at h
  dsimp only at h
  split_ifs at h
  all_goals
    have hr := (Option.some.inj h).symm
    simp only [hr, true_or, or_true]

/-- The branch of an expected block. -/
theorem rdsAccept_expected (x : RdsBlock) (bword : U32) (r : Radio)
    (hx : x.ExpectedIn r.staRdsCache0) :
    ∃ r', r.rdsAccept x.tag bword = some r' ∧ Accepted x (bword.setWidth 16) r r' := by
  cases x with
  | a => exact ⟨_, rfl, accepted_a _ r⟩
  | b =>
    have hstate : r.staRdsCache0 = 1 := hx
    refine ⟨_, ?_, accepted_b _ r⟩
    simp [rdsAccept, tag, hstate]
  | c =>
    have hstate : r.staRdsCache0 = 2 := hx
    refine ⟨{ r with staRdsCache0 := 3, gap13_2 := bword.setWidth 16 }, ?_,
      ⟨rfl, rfl, rfl, rfl, .inl rfl, rfl⟩⟩
    simp [rdsAccept, tag, hstate]
  | cAlt =>
    have hstate : r.staRdsCache0 = 2 := hx
    refine ⟨{ r with staRdsCache0 := 3, gap13_2 := bword.setWidth 16 }, ?_,
      ⟨rfl, rfl, rfl, rfl, .inl rfl, rfl⟩⟩
    simp [rdsAccept, tag, hstate]
  | d =>
    have hstate : r.staRdsCache0 = 3 := hx
    refine ⟨_, ?_, accepted_d _ r⟩
    simp [rdsAccept, tag, hstate]

/-- Every other window is rejected. -/
theorem rdsAccept_unexpected {v1 : U32} (bword : U32) {r : Radio}
    (h : ∀ x : RdsBlock, v1 = x.tag → ¬ x.ExpectedIn r.staRdsCache0) :
    r.rdsAccept v1 bword = none := by
  have ha : v1 ≠ 984 := fun hv => h .a hv trivial
  have hb : v1 = 980 → r.staRdsCache0 ≠ 1 := h .b
  have hc : v1 = 604 → r.staRdsCache0 ≠ 2 := h .c
  have hcAlt : v1 = 972 → r.staRdsCache0 ≠ 2 := h .cAlt
  have hd : v1 = 600 → r.staRdsCache0 ≠ 3 := h .d
  unfold rdsAccept
  dsimp only
  by_cases h972 : v1 = 972
  · rw [if_pos h972, if_neg (hcAlt h972)]
  rw [if_neg h972]
  by_cases habove : v1 > 0x3CC
  · rw [if_pos habove]
    by_cases h980 : v1 = 980
    · rw [if_pos h980, if_pos (hb h980)]
    · rw [if_neg h980, if_pos ha]
  rw [if_neg habove]
  by_cases h600 : v1 = 600
  · rw [if_pos h600, if_pos (hd h600)]
  rw [if_neg h600]
  by_cases h604 : v1 = 604
  · rw [if_pos h604, if_neg (hc h604)]
  · rw [if_neg h604]

/-- A pass takes a block that is expected in the present state, with its 26 bits. -/
theorem radioRdsPass_expected (x : RdsBlock) (v12 : U8) (bword : U32) (r : Radio)
    (hx : x.ExpectedIn r.staRdsCache0) :
    ∃ r', Accepted x (bword.setWidth 16) r r' ∧ radioRdsPass v12 x.tag bword r =
      (v12 - 26, { r' with gap13_7 := v12 - 26, gap14 := r.gap14 <<< 26 }) := by
  obtain ⟨r', hr', hacc⟩ := rdsAccept_expected x bword r hx
  refine ⟨r', hacc, ?_⟩
  rw [radioRdsPass, hr', ← hacc.gap14]

/-- A pass drops one bit of every other window and resets the synchroniser. -/
theorem radioRdsPass_unexpected {v1 : U32} (v12 : U8) (bword : U32) {r : Radio}
    (h : ∀ x : RdsBlock, v1 = x.tag → ¬ x.ExpectedIn r.staRdsCache0) :
    radioRdsPass v12 v1 bword r =
      (v12 - 1, { r with staRdsCache0 := 0, gap13_7 := v12 - 1, gap14 := r.gap14 * 2 }) := by
  rw [radioRdsPass, rdsAccept_unexpected bword h]

end Radio

end MtcDrivers
