import Mathlib.Tactic.SplitIfs
import MtcDrivers.Dvd.Track

/-!
# Proofs: track selection

The number that is compared with `media_count` is the whole command plus one, so its tag alone is above
every 16-bit count.
-/

namespace MtcDrivers

namespace Dvd

/-! ## The command of a track -/

@[simp] theorem getLsbD_trackCommand (t : U32) (i : ℕ) :
    (trackCommand t).getLsbD i = ((0xB0000 : U32).getLsbD i || t.getLsbD i) := by
  simp only [trackCommand, BitVec.getLsbD_or]

/-- Bit 19 of the tag tells a track from the commands that start and stop a disc. -/
theorem trackCommand_ne {t c : U32} (h : c.getLsbD 19 = false) : trackCommand t ≠ c := by
  intro heq
  have hbit : (trackCommand t).getLsbD 19 = true := by rw [getLsbD_trackCommand]; rfl
  rw [heq, h] at hbit
  cases hbit

/-- Bit 17 tells its tag from the tags `0x9` and `0xD`. -/
theorem trackCommand_tag_ne {t c : U32} (h : c.getLsbD 17 = false) :
    trackCommand t &&& 0xFF0000 ≠ c := by
  intro heq
  have hbit : (trackCommand t &&& 0xFF0000).getLsbD 17 = true := by
    rw [BitVec.getLsbD_and, getLsbD_trackCommand]; rfl
  rw [heq, h] at hbit
  cases hbit

/-- The tag survives if the bits of the number leave it alone. -/
theorem trackCommand_tag_iff (t : U32) :
    trackCommand t &&& 0xFF0000 = 0xB0000 ↔ t &&& 0xF40000 = 0 := by
  have hmask : (0xFF0000 : U32) = 0xB0000 ||| 0xF40000 := rfl
  have htag : (trackCommand t &&& 0xFF0000) = 0xB0000 ||| (t &&& 0xF40000) := by
    ext i hi
    simp only [BitVec.getElem_and, BitVec.getElem_or, hmask, trackCommand]
    cases (0xB0000 : U32)[i] <;> simp
  rw [htag]
  constructor
  · intro h
    have hdisj : (0xB0000 ||| (t &&& 0xF40000)) &&& 0xF40000 = t &&& 0xF40000 := by
      ext i hi
      have hb : ((0xB0000 : U32)[i] && (0xF40000 : U32)[i]) = false := by
        rw [← BitVec.getElem_and]
        exact BitVec.getElem_zero _
      simp only [BitVec.getElem_and, BitVec.getElem_or]
      cases h1 : (0xB0000 : U32)[i] <;> cases h2 : (0xF40000 : U32)[i] <;> simp_all
    rw [← hdisj, h]
    rfl
  · intro h
    rw [h]
    rfl

/-- A command with the tag of a track, plus one, is above every count as an `int`, unless it is negative. -/
theorem count_below_iff {c : U32} (htag : c &&& 0xFF0000 = 0xB0000) (count : U16) :
    (c + 1).sle (count.setWidth 32) = true ↔ c.msb = true := by
  have hlow : 0xB0000 ≤ c.toNat := by
    have h : (c &&& 0xFF0000).toNat ≤ c.toNat := by rw [BitVec.toNat_and]; exact Nat.and_le_left
    rw [htag] at h
    exact h
  -- a command of ones only has another tag, so there is no carry into or out of the sign
  have hmax : c.toNat ≠ 2 ^ 32 - 1 ∧ c.toNat ≠ 2 ^ 31 - 1 := by
    constructor <;> intro h
    · rw [show c = 0xFFFFFFFF from BitVec.eq_of_toNat_eq h] at htag
      exact absurd htag (by decide)
    · rw [show c = 0x7FFFFFFF from BitVec.eq_of_toNat_eq h] at htag
      exact absurd htag (by decide)
  have hcount : (count.setWidth 32).toInt = count.toNat := by
    rw [BitVec.toInt_eq_toNat_of_lt] <;> rw [BitVec.toNat_setWidth_of_le (by decide)]
    omega
  have hsum : (c + 1).toNat = c.toNat + 1 := by
    rw [BitVec.toNat_add, show (1 : U32).toNat = 1 from rfl]
    omega
  rw [BitVec.sle_iff_toInt_le, hcount, BitVec.toInt_eq_toNat_cond, hsum, BitVec.msb_eq_decide,
    decide_eq_true_eq]
  split_ifs <;> omega

theorem msb_trackCommand (t : U32) : (trackCommand t).msb = t.msb := by
  rw [trackCommand, BitVec.msb_or]
  rfl

/-- The two conditions on a track number in one: it leaves alone the tag and the sign. -/
theorem fits_iff (t : U32) : t &&& 0x80F40000 = 0 ↔ t &&& 0xF40000 = 0 ∧ t.msb = false := by
  have hmask : (0x80F40000 : U32) = 0xF40000 ||| BitVec.twoPow 32 31 := rfl
  have hsplit : t &&& 0x80F40000 = (t &&& 0xF40000) ||| (t &&& BitVec.twoPow 32 31) := by
    rw [hmask]
    ext i hi
    simp only [BitVec.getElem_and, BitVec.getElem_or, Bool.and_or_distrib_left]
  have hsign : t &&& BitVec.twoPow 32 31 = 0 ↔ t.msb = false := by
    rw [BitVec.and_twoPow, BitVec.msb_eq_getLsbD_last]
    cases t.getLsbD 31 <;> simp
  rw [hsplit, ← hsign]
  exact BitVec.or_eq_zero_iff

namespace Player

/-! ## The branches of a track -/

variable {s : Player} {t : U32}

/-- What is left of `dvd_send_command_direct` for a track. -/
theorem direct_track (h : s.TakesTracks) (t : U32) :
    s.dvdSendCommandDirect (trackCommand t) =
      if t &&& 0xF40000 ≠ 0 then (s, [.addWork 1 (trackCommand t)])
      else if t.msb = true then s.stageTrack (trackCommand t)
      else (s, []) := by
  have hmode : ¬ s.dvdU16val3.setWidth 32 - 1 > (1 : U32) := by
    rcases h.mode with hm | hm <;> rw [hm] <;> decide
  have hstart : ¬ (trackCommand t = 0x22220 ∧ s.dvdFlag1 &&& 0xFF = 0 ∨
      trackCommand t = 0x32200 ∧ s.dvdFlag1 &&& 0xFF = 1) := by
    rintro (⟨hc, -⟩ | ⟨hc, -⟩) <;> exact trackCommand_ne rfl hc
  have hstop : trackCommand t ≠ if s.dvdFlag1 &&& 0xFF = 0 then 0x20F0D else 0x30F00 := by
    split_ifs <;> exact trackCommand_ne rfl
  unfold dvdSendCommandDirect
  rw [if_neg (not_not_intro h.on), if_neg hmode]
  dsimp only
  rw [if_neg hstart, if_neg (trackCommand_tag_ne rfl), if_neg (trackCommand_tag_ne rfl),
    if_neg (not_not_intro h.track), if_neg hstop]
  by_cases htag : t &&& 0xF40000 = 0
  · have hcmd := (trackCommand_tag_iff t).mpr htag
    rw [if_neg (not_not_intro hcmd), if_neg (not_not_intro htag)]
    simp only [count_below_iff hcmd, msb_trackCommand]
  · rw [if_pos (mt (trackCommand_tag_iff t).mp htag), if_pos htag]

theorem direct_of_fits (h : s.TakesTracks) (ht : t &&& 0x80F40000 = 0) :
    s.dvdSendCommandDirect (trackCommand t) = (s, []) := by
  obtain ⟨htag, hsign⟩ := (fits_iff t).mp ht
  rw [direct_track h, if_neg (not_not_intro htag), hsign, if_neg Bool.false_ne_true]

/-- Every other number asks for something. -/
theorem direct_ne_of_not_fits (h : s.TakesTracks) (ht : t &&& 0x80F40000 ≠ 0) :
    s.dvdSendCommandDirect (trackCommand t) ≠ (s, []) := by
  rw [direct_track h]
  split_ifs with htag hsign
  · exact fun heq => absurd (congrArg Prod.snd heq) (List.cons_ne_nil _ _)
  · unfold stageTrack
    dsimp only
    split_ifs <;> exact fun heq => absurd (congrArg Prod.snd heq) (List.cons_ne_nil _ _)
  · exact absurd ((fits_iff t).mpr ⟨not_not.mp htag, Bool.eq_false_iff.mpr hsign⟩) ht

theorem fits_of_lt {count : U16} (h : t.toNat < count.toNat) : t &&& 0x80F40000 = 0 := by
  have hlow : t &&& 0xFFFF = t := by
    refine BitVec.eq_of_toNat_eq ?_
    rw [BitVec.toNat_and]
    exact (Nat.and_two_pow_sub_one_eq_mod t.toNat 16).trans (Nat.mod_eq_of_lt (by omega))
  have hapart : (0xFFFF : U32) &&& 0x80F40000 = 0 := rfl
  rw [← hlow, BitVec.and_assoc, hapart]
  exact BitVec.and_zero

theorem selectsTrack_iff (h : s.TakesTracks) (t : U32) :
    s.SelectsTrack t ↔ s.mediaCount.toNat ≤ t.toNat ∧ t &&& 0x80F40000 = 0 := by
  constructor
  · intro hsel
    have habove : s.mediaCount.toNat ≤ t.toNat := by
      by_contra hlt
      obtain ⟨ms, hms⟩ := (hsel.present (by omega)).scheduled
      rw [direct_of_fits h (fits_of_lt (by omega : t.toNat < s.mediaCount.toNat))] at hms
      exact List.not_mem_nil hms
    exact ⟨habove, not_not.mp fun ht => direct_ne_of_not_fits h ht (hsel.absent habove)⟩
  · rintro ⟨habove, ht⟩
    exact ⟨fun hlt => absurd habove (by omega), fun _ => direct_of_fits h ht⟩

/-! ## What the staged number becomes -/

/-- The tag of a staged number reaches the opcode of the second word. -/
theorem staged_opcode (n : U32) :
    ∃ first second, indexWords 0 (n ||| 0xB0000) = [first, second] ∧ second.getLsbD 16 = true := by
  refine ⟨_, _, if_neg (by decide), ?_⟩
  simp

/-- So a track that passed the test would not be sent as the drive expects it. -/
theorem staged_ne_trackFrames (n t : U32) : indexWords 0 (n ||| 0xB0000) ≠ trackFrames t := by
  intro heq
  obtain ⟨first, second, hwords, hbit⟩ := staged_opcode n
  have hsecond : second = frame 0x0C ((t + 1).extractLsb' 0 8) := by
    rw [hwords] at heq
    exact (List.cons.inj (List.cons.inj heq).2).1
  have hframe : (frame 0x0C ((t + 1).extractLsb' 0 8)).getLsbD 16 = false := by
    unfold frame
    rw [BitVec.getLsbD_setWidth, BitVec.getLsbD_append, BitVec.getLsbD_append]
    rfl
  rw [hsecond, hframe] at hbit
  cases hbit

theorem mediaIndexWork_of_staged (h : s.TakesTracks) (hidle : s.doMediaIndex ≠ 1)
    (hdata : s.mcuCmdData ≠ 0) :
    s.mediaIndexWork.2 = (indexWords s.dvdFlag1 s.mcuCmdData).map .cmdSend := by
  unfold mediaIndexWork
  rw [if_neg (not_not_intro h.on), if_neg hidle, if_neg (not_not_intro h.track), if_neg hdata]

/-- What the work sends for a track that passed the test. -/
theorem stageTrack_sends (h : s.TakesTracks) (command : U32) :
    (s.stageTrack command).1.stopped.mediaIndexWork.2 =
      (indexWords s.dvdFlag1 ((command + 1) ||| 0xB0000)).map .cmdSend := by
  have hdata : (command + 1) ||| 0xB0000 ≠ 0 := fun heq =>
    absurd (BitVec.or_eq_zero_iff.mp heq).2 (by decide)
  unfold stageTrack
  dsimp only
  split_ifs
  all_goals exact mediaIndexWork_of_staged ⟨h.on, h.mode, h.track⟩ (show (0 : U8) ≠ 1 by decide) hdata

theorem stageTrack_flag (command : U32) : (s.stageTrack command).1.dvdFlag1 = s.dvdFlag1 := by
  unfold stageTrack
  dsimp only
  split_ifs <;> rfl

/-- So passing the test is not enough: whatever the count, the drive is not sent the track. -/
theorem stageTrack_not_selected (h : s.TakesTracks) (hflag : s.dvdFlag1 = 0) (t : U32) :
    ¬ Selected t (s.stageTrack (trackCommand t)) := by
  intro hsel
  have hsent := hsel.sent ((stageTrack_flag _).trans hflag)
  rw [stageTrack_sends h, hflag] at hsent
  exact staged_ne_trackFrames _ t ((List.map_inj_right fun _ _ => Effect.cmdSend.inj).mp hsent)

/-! ## One disc -/

/-- A disc with ten tracks that has not started. -/
def tenTracks : Player where
  dvdPowerOn := true
  dvdU16val3 := 1
  dvdFlag1 := 0
  mediaState := 0
  dvdByteval5 := 0
  dvdByteval6 := 0
  array1 := Vector.replicate 32 0
  array2 := Vector.replicate 32 0
  array3 := Vector.replicate 32 0
  array4 := Vector.replicate 32 0
  mediaCount := 10
  mediaIdx := 0
  dvdLength := 0
  dvdPosition := 0
  trackFlag := 0
  doMediaIndex := 0
  mcuCmdData := 0
  mcuCmdT9 := 0
  mcuCmdTD := 0
  dvdByteval16 := 0
  dvdByteval17 := 0

theorem takesTracks_tenTracks : tenTracks.TakesTracks := ⟨rfl, .inl rfl, rfl⟩

theorem selectsTrack_ten : tenTracks.TakesTracks ∧ tenTracks.SelectsTrack 10 :=
  ⟨takesTracks_tenTracks, (selectsTrack_iff takesTracks_tenTracks 10).mpr ⟨by decide, rfl⟩⟩

theorem not_selectsTrack_three : tenTracks.TakesTracks ∧ ¬ tenTracks.SelectsTrack 3 := by
  refine ⟨takesTracks_tenTracks, fun hsel => ?_⟩
  have hnone : tenTracks.dvdSendCommandDirect (trackCommand 3) = (tenTracks, []) := by decide
  obtain ⟨ms, hms⟩ := (hsel.present (by decide)).scheduled
  rw [hnone] at hms
  exact List.not_mem_nil hms

end Player

end Dvd

end MtcDrivers
