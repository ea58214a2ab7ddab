import MtcDrivers.Camera.Decoder

/-!
# Proofs: what the decoder routines leave alone

A value of the state that no transfer and no field of the decoder changes is the same after each of the
routines.
-/

namespace MtcDrivers

namespace Camera

/-- The transfers and the fields that belong to the decoder do not change `f`. -/
structure Keeps {β : Type*} (f : Camera → β) : Prop where
  writeTable : ∀ (s : Camera) (table : DecoderTable), f (s.emit (.writeTable table)) = f s
  pageWrite : ∀ (s : Camera) (dev : U8) (set : PageSet), f (s.emit (.pageWrite dev set)) = f s
  i2cWrite : ∀ (s : Camera) (dev reg dat : U8), f (s.emit (.i2cWrite dev reg dat)) = f s
  page : ∀ (s : Camera) (page : Option PageSet), f { s with page := page } = f s
  cvbsAuto : ∀ (s : Camera) (auto : U8), f { s with cvbsAuto := auto } = f s
  uvValue : ∀ (s : Camera) (u v : U8), f { s with uValue := u, vValue := v } = f s
  decoderType : ∀ (s : Camera) (type : U8), f { s with decoderType := type } = f s

namespace Keeps

variable {β : Type*} {f : Camera → β}

theorem writePages (hf : Keeps f) (set : PageSet) (s : Camera) : f (s.writePages set) = f s := by
  unfold Camera.writePages
  rw [hf.page, hf.pageWrite, hf.pageWrite]

theorem resetDecoder (hf : Keeps f) (s : Camera) : f s.resetDecoder = f s := by
  unfold Camera.resetDecoder
  rw [hf.i2cWrite, hf.i2cWrite]

theorem t132bUvSet (hf : Keeps f) (s : Camera) : f s.t132bUvSet = f s := by
  unfold Camera.t132bUvSet
  dsimp only
  rw [hf.i2cWrite, hf.i2cWrite, hf.uvValue]

theorem cvbsPoll (hf : Keeps f) (polls : List (U8 × U8)) (sigCnt palCnt : U8) (s : Camera) :
    f (Camera.cvbsPoll polls sigCnt palCnt s).2 = f s := by
  induction polls generalizing sigCnt palCnt with
  | nil => rfl
  | cons poll polls ih =>
    rcases poll with ⟨v7, v8⟩
    unfold Camera.cvbsPoll
    dsimp only
    by_cases hsig : v7 &&& 7 = 1 ∧ (if v7 &&& 7 = 1 then sigCnt + 1 else 0) = 5
    · rw [if_pos hsig]
    · rw [if_neg hsig]
      by_cases hpal : v8 &&& 4 ≠ 0 ∧ (if v8 &&& 4 ≠ 0 then palCnt + 1 else 0) = 4
      · rw [if_pos hpal, hf.resetDecoder, hf.writePages, hf.cvbsAuto]
      · rw [if_neg hpal]
        exact ih _ _

theorem t132bCvbsAuto (hf : Keeps f) (polls : List (U8 × U8)) (s : Camera) :
    f (Camera.t132bCvbsAuto polls s).2 = f s := by
  unfold Camera.t132bCvbsAuto
  dsimp only
  rw [hf.cvbsPoll, hf.resetDecoder, hf.i2cWrite, hf.writePages, hf.cvbsAuto]

theorem t132bInit (hf : Keeps f) (type : U8) (polls : List (U8 × U8)) (s : Camera) :
    f (Camera.t132bInit type polls s).2 = f s := by
  unfold Camera.t132bInit
  dsimp only
  by_cases htype : type = 1
  · rw [if_pos htype]
    by_cases hyuv : (s.emit (.writeTable .t132bInit)).decoderState ≠ 0
    · rw [if_pos hyuv, hf.t132bUvSet, hf.page, hf.pageWrite, hf.writeTable]
    · rw [if_neg hyuv, hf.page, hf.pageWrite, hf.writeTable]
  · rw [if_neg htype, hf.t132bCvbsAuto, hf.writeTable]

theorem checkNp (hf : Keeps f) (np : NpInput) (sig : U8) (s : Camera) :
    f (Camera.checkNp np sig s).2 = f s := by
  have hwrite : ∀ (c : Prop) [Decidable c] (auto : U8) (set : PageSet),
      f (if c then ({ s with cvbsAuto := auto }.writePages set).resetDecoder else s) = f s := by
    intro c _ auto set
    by_cases hc : c
    · rw [if_pos hc, hf.resetDecoder, hf.writePages, hf.cvbsAuto]
    · rw [if_neg hc]
  unfold Camera.checkNp
  split
  · split
    · split
      · exact hwrite _ _ _
      · exact hwrite _ _ _
    · rfl
  · rfl

theorem checkNpAdv7181d (hf : Keeps f) (adv : Option U8) (a2 : Bool) (s : Camera) :
    f (Camera.checkNpAdv7181d adv a2 s).2.2 = f s := by
  unfold Camera.checkNpAdv7181d
  cases adv with
  | none => rfl
  | some v7 =>
    dsimp only
    split
    · exact hf.decoderType s 3
    · split
      · exact hf.decoderType s 2
      · exact hf.decoderType s 2

theorem adv7181dInit (hf : Keeps f) (type : U8) (adv : Option U8) (s : Camera) :
    f (Camera.adv7181dInit type adv s).2 = f s := by
  have htable : ∀ (table : DecoderTable) (type : U8),
      f { s.emit (.writeTable table) with decoderType := type } = f s := by
    intro table type
    rw [hf.decoderType, hf.writeTable]
  unfold Camera.adv7181dInit
  dsimp only
  split
  · exact htable _ _
  · split
    · exact htable _ _
    · split
      · split
        · exact htable _ _
        · exact htable _ _
      · rw [hf.checkNpAdv7181d, hf.i2cWrite, hf.writeTable]

/-- `camera_start` stores in `reserved_19` and in `sta_video_signal` what it found. -/
theorem startDecoder (hf : Keeps f) (hfound : ∀ (s : Camera) (reserved19 sta : U8),
    f { s with reserved19 := reserved19 } = f s ∧ f { s with staVideoSignal := sta } = f s)
    (io : StartInput) (s : Camera) : f (s.startDecoder io) = f s := by
  unfold Camera.startDecoder
  dsimp only
  by_cases hadv : io.v13 = 32
  · rw [if_pos hadv, (hfound _ 0 _).2, hf.adv7181dInit, (hfound s 1 0).1]
  · rw [if_neg hadv, (hfound _ 0 _).2, hf.t132bInit, (hfound s 0 0).1]

end Keeps

end Camera

end MtcDrivers
