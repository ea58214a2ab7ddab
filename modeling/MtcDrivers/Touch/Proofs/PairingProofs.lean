import MtcDrivers.Touch.Panel
import MtcDrivers.Touch.Proofs.AverageProofs

/-!
# Proofs: the pairs of the touch panel

The decode drops the high bits of the first byte, and the run pairs each sample with its neighbour in `raw`:
the tests and the middles are those of `x0` with `y0` and of `x1` with `y1`.
-/

namespace MtcDrivers

open TouchPanel

variable {op : TouchSample} {x0 y0 x1 y1 : U8}

/-! ## One transfer -/

theorem touchValue_toNat (buf : U8 × U8) :
    (touchValue buf).toNat = 16 * (buf.1.toNat % 16) + buf.2.toNat / 16 := by
  have hlow : (buf.1 &&& 0x0F#8).toNat = buf.1.toNat % 16 := by
    rw [BitVec.toNat_and]
    exact Nat.and_two_pow_sub_one_eq_mod buf.1.toNat 4
  have hhigh : (buf.2 >>> 4).toNat = buf.2.toNat / 16 := by
    rw [BitVec.toNat_ushiftRight, Nat.shiftRight_eq_div_pow]
  have hshift : ((buf.1 &&& 0x0F#8) <<< 4).toNat = (buf.1.toNat % 16) <<< 4 := by
    rw [BitVec.toNat_shiftLeft, hlow, Nat.shiftLeft_eq]
    omega
  have hlt := buf.2.isLt
  rw [touchValue, BitVec.toNat_or, hshift, hhigh, ← Nat.shiftLeft_add_eq_or_of_lt (by omega), Nat.shiftLeft_eq]
  omega

theorem touchValue_eq_iff (buf : U8 × U8) : (touchValue buf).toNat = replyValue buf ↔ buf.1.toNat < 16 := by
  rw [touchValue_toNat, replyValue]
  omega

/-! ## Four samples -/

/-- The run tests `x0` with `y0` and `x1` with `y1`. -/
theorem sample_accepted_iff (hpoints : op.points = some ⟨x0, y0, x1, y1⟩) :
    op.accepted = some ⟨x0, y0, x1, y1⟩ ↔ op.Passes x0 y0 x1 y1 := by
  have hne : ∀ px : U8, px.toNat ≠ 0 ↔ px ≠ 0 := fun px => not_congr (BitVec.toNat_inj (y := 0))
  rw [TouchSample.accepted, hpoints, TouchSample.Passes]
  cases hpx : op.pressX with
  | none => simp
  | some bufX =>
    cases hpy : op.pressY with
    | none => simp
    | some bufY =>
      simp only [Option.bind_eq_bind, Option.bind_some, Option.map_some]
      constructor
      · intro h
        split_ifs at h with hpress hnear
        exact ⟨_, _, rfl, rfl, (hne _).mp hpress.1, hpress.2.1, hpress.2.2, hnear.1, hnear.2⟩
      · rintro ⟨px, py, hX, hY, hzero, hlt, hle, hfirst, hsecond⟩
        obtain rfl := Option.some.inj hX
        obtain rfl := Option.some.inj hY
        rw [if_pos ⟨(hne _).mpr hzero, hlt, hle⟩, if_pos ⟨hfirst, hsecond⟩]
        rfl

theorem stored_iff (hpoints : op.points = some ⟨x0, y0, x1, y1⟩) (hon : op.suspended = false) :
    op.stored = some ⟨x0, y0, x1, y1⟩ ↔ op.Passes x0 y0 x1 y1 := by
  rw [TouchSample.stored, hon, if_neg Bool.false_ne_true, sample_accepted_iff hpoints]

theorem storePoint_eq_storeMids (ts : TouchPanel) (r : TouchRaw) :
    ts.storePoint r = ts.storeMids (middle r.r0 r.r1) (middle r.r2 r.r3) := rfl

/-- Whatever the panel, it gets the right middles exactly if they are those of the neighbours in `raw`. -/
theorem storePoint_right_iff :
    (∀ ts : TouchPanel, ts.storePoint ⟨x0, y0, x1, y1⟩ = ts.storeMids (middle x0 x1) (middle y0 y1)) ↔
      middle x0 y0 = middle x0 x1 ∧ middle x1 y1 = middle y0 y1 := by
  have hbyte : ∀ a b : U8, middle a b < 2 ^ 32 := by
    intro a b
    have ha := a.isLt
    have hb := b.isLt
    unfold middle
    omega
  have hinj : ∀ {a b c d : U8}, BitVec.ofNat 32 (middle a b) = BitVec.ofNat 32 (middle c d) →
      middle a b = middle c d := by
    intro a b c d h
    have hnat := congrArg BitVec.toNat h
    rwa [BitVec.toNat_ofNat, BitVec.toNat_ofNat, Nat.mod_eq_of_lt (hbyte a b),
      Nat.mod_eq_of_lt (hbyte c d)] at hnat
  constructor
  · intro h
    -- a panel with `calib_idx` 0 shows what is stored
    have hsame := h ⟨0, 0, fun _ => 0, 0, 0, 0, 0, 0, 0, 0⟩
    have hx := congrFun (congrArg TouchPanel.words hsame) 0
    have hy := congrFun (congrArg TouchPanel.words hsame) 2
    exact ⟨hinj hx, hinj hy⟩
  · rintro ⟨hx, hy⟩ ts
    rw [storePoint_eq_storeMids, hx, hy]

theorem middle_comm (a b : U8) : middle a b = middle b a := by
  rw [middle, Nat.add_comm, ← middle]

/-- Two samples have the same middle with a third one if they agree, and some neighbours have. -/
theorem middle_eq_iff (a b c : U8) : middle a b = middle a c ↔
    b = c ∨ (b.toNat = c.toNat + 1 ∧ a.toNat % 2 = c.toNat % 2) ∨
      (c.toNat = b.toNat + 1 ∧ a.toNat % 2 = b.toNat % 2) := by
  rw [← BitVec.toNat_inj, middle, middle]
  omega

/-- The middles agree where the two samples in question do, and for some neighbours. -/
theorem middles_eq_iff : middle x0 y0 = middle x0 x1 ∧ middle x1 y1 = middle y0 y1 ↔
    y0 = x1 ∨ (y0.toNat = x1.toNat + 1 ∧ x0.toNat % 2 = x1.toNat % 2 ∧ y1.toNat % 2 = x1.toNat % 2) ∨
      (x1.toNat = y0.toNat + 1 ∧ x0.toNat % 2 = y0.toNat % 2 ∧ y1.toNat % 2 = y0.toNat % 2) := by
  rw [middle_comm x1 y1, middle_comm y0 y1, middle_eq_iff, middle_eq_iff]
  constructor
  · rintro ⟨heq | ⟨hnext, hx⟩ | ⟨hnext, hx⟩, hy⟩
    · exact Or.inl heq
    · rcases hy with rfl | ⟨hback, _⟩ | ⟨_, hy⟩
      · exact Or.inl rfl
      · omega
      · exact Or.inr (Or.inl ⟨hnext, hx, hy⟩)
    · rcases hy with rfl | ⟨_, hy⟩ | ⟨hback, _⟩
      · exact Or.inl rfl
      · exact Or.inr (Or.inr ⟨hnext, hx, hy⟩)
      · omega
  · rintro (rfl | ⟨hnext, hx, hy⟩ | ⟨hnext, hx, hy⟩)
    · exact ⟨Or.inl rfl, Or.inl rfl⟩
    · exact ⟨Or.inr (Or.inl ⟨hnext, hx⟩), Or.inr (Or.inr ⟨hnext, hy⟩)⟩
    · exact ⟨Or.inr (Or.inr ⟨hnext, hx⟩), Or.inr (Or.inl ⟨hnext, hy⟩)⟩

theorem pairedRight_iff (hpoints : op.points = some ⟨x0, y0, x1, y1⟩) (hon : op.suspended = false) :
    op.PairedRight x0 y0 x1 y1 ↔ op.PairsFit x0 y0 x1 y1 := by
  have hstored := stored_iff hpoints hon
  constructor
  · intro h
    by_cases hpass : op.Passes x0 y0 x1 y1
    · have hright : op.Passes x0 x1 y0 y1 := h.accepted.mp (hstored.mpr hpass)
      rcases middles_eq_iff.mp (storePoint_right_iff.mp (h.middles (hstored.mpr hpass))) with heq | hnext
      · exact Or.inl heq
      · exact Or.inr (Or.inr ⟨hright, hpass, hnext⟩)
    · exact Or.inr (Or.inl ⟨fun hright => hpass (hstored.mp (h.accepted.mpr hright)), hpass⟩)
  · rintro (rfl | ⟨hright, hpass⟩ | ⟨hright, hpass, hnext⟩)
    · exact ⟨hstored, fun _ => storePoint_right_iff.mpr ⟨rfl, rfl⟩⟩
    · exact ⟨hstored.trans (iff_of_false hpass hright), fun h => absurd (hstored.mp h) hpass⟩
    · refine ⟨hstored.trans (iff_of_true hpass hright), fun _ => storePoint_right_iff.mpr ?_⟩
      exact middles_eq_iff.mpr (Or.inr hnext)

/-- A reply gives its 12 bits, and a run pairs its four samples by their axes, exactly if the high bits of the
first byte are zero and it does not matter that `y0` and `x1` stand for each other. -/
theorem samplePairs_right_iff (buf : U8 × U8) (hpoints : op.points = some ⟨x0, y0, x1, y1⟩)
    (hon : op.suspended = false) :
    ((touchValue buf).toNat = replyValue buf ∧ op.PairedRight x0 y0 x1 y1) ↔
      buf.1.toNat < 16 ∧ op.PairsFit x0 y0 x1 y1 :=
  and_congr (touchValue_eq_iff buf) (pairedRight_iff hpoints hon)

/-- A touch of light pressure at `(10, 250)`, held still. -/
def stillTouch : TouchSample :=
  ⟨some (0, 0xA0), some (15, 0xA0), some (0, 0xA0), some (15, 0xA0), some (0, 0xA0), some (0, 0xB0), 0, false,
    false⟩

theorem samplePairs_right_iff_still :
    ((touchValue (0x0F, 0xA0)).toNat = replyValue (0x0F, 0xA0) ∧ stillTouch.PairedRight 10 250 10 250) ↔
      (0x0F : U8).toNat < 16 ∧ stillTouch.PairsFit 10 250 10 250 :=
  samplePairs_right_iff (0x0F, 0xA0) rfl rfl

/-- The high bits of a first byte 0x20 are lost, and the still touch is rejected. -/
theorem not_samplePairs_right_still :
    stillTouch.points = some ⟨10, 250, 10, 250⟩ ∧ stillTouch.suspended = false ∧
      (touchValue (0x20, 0)).toNat ≠ replyValue (0x20, 0) ∧ ¬stillTouch.PairedRight 10 250 10 250 := by
  refine ⟨rfl, rfl, by decide, fun h => ?_⟩
  have hright : stillTouch.Passes 10 10 250 250 :=
    ⟨10, 11, rfl, rfl, by decide, by decide, by decide, by decide, by decide⟩
  exact absurd (h.accepted.mpr hright) (by decide)

end MtcDrivers
