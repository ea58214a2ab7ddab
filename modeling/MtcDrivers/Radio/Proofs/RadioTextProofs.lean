import MtcDrivers.Radio.Proofs.AfListProofs
import MtcDrivers.Radio.RadioText

/-!
# Proofs: radio text

`rds_send_rt` sends what is at `rds_psn_buf[162]`, where no group puts anything, so every message has an
empty text. It is the right one if the text in `ps_text` is empty.
-/

namespace MtcDrivers

namespace Radio

/-! ## The end of a text -/

/-- Nothing is at `rds_psn_buf[162]`. -/
theorem rdsSendRt_empty {r : Radio} (hclear : r.s2.rdsPsnBuf 162 = 0) :
    r.rdsSendRt = r.emit (.vsSend 0x9C [r.s2.psnData 1, r.s2.psnData 0, 0]) := by
  have htext : ((List.range (1116 - 162)).map fun i => r.s2.rdsPsnBuf (162 + i)).takeWhile (· ≠ 0) = [] := by
    rw [show 1116 - 162 = 953 + 1 from rfl, List.range_succ_eq_map, List.map_cons,
      List.takeWhile_cons_of_neg (by simp [hclear])]
  unfold rdsSendRt
  rw [htext]
  rfl

theorem front_rdsAfCount (r : Radio) : r.rdsAfCount.s2.front = r.s2.front := by
  show RadioStruct2.front (if r.s2.afLastCount ≠ r.s2.rdsPti 2 then _ else r.s2) = _
  split <;> rfl

theorem psText_rdsAfCount (r : Radio) : r.rdsAfCount.s2.psText = r.s2.psText := by
  show RadioStruct2.psText (if r.s2.afLastCount ≠ r.s2.rdsPti 2 then _ else r.s2) = _
  split <;> rfl

/-- What a group does from `q`, where its characters are still to be stored at `p`: it sends an empty text
or nothing. `c` is its first character. -/
structure TextStored (p : ℕ) (c : U8) (sends : Prop) (q q' : Radio) : Prop where
  front : q'.s2.front = q.s2.front
  sent : sends → q'.log = .vsSend 0x9C [q.s2.psnData 1, q.s2.psnData 0, 0] :: q.log
  silent : ¬ sends → q'.log = q.log
  text : sends → (q'.s2.psText 0 = 0 ↔ if p = 0 then c = 0 ∨ c = 13 else q.s2.psText 0 = 0)

variable {p : ℕ} {c : U8} {sends : Prop} {q q' : Radio}

/-- `LABEL_11` changes nothing of it. -/
theorem TextStored.rdsAfCount (h : TextStored p c sends q q') : TextStored p c sends q q'.rdsAfCount where
  front := (front_rdsAfCount q').trans h.front
  sent := h.sent
  silent := h.silent
  text hs := by
    rw [psText_rdsAfCount]
    exact h.text hs

theorem psText_putText_head (s : RadioStruct2) (p : ℕ) (c : U8) (rest : List U8) :
    (putText s p (c :: rest)).psText 0 = if p = 0 then c else s.psText 0 := by
  unfold putText
  by_cases hp : p = 0
  · have hin : p ≤ 0 ∧ 0 < p + (c :: rest).length := by
      rw [hp, List.length_cons]
      exact ⟨Nat.le_refl 0, by omega⟩
    rw [if_pos hp]
    exact (if_pos hin).trans (by rw [hp]; rfl)
  · rw [if_neg hp]
    exact if_neg fun h => hp (Nat.le_zero.mp h.1)

theorem psText_putText_ne (s : RadioStruct2) {p : ℕ} (hp : p ≠ 0) (bytes : List U8) :
    (putText s p bytes).psText 0 = s.psText 0 :=
  if_neg fun h => hp (Nat.le_zero.mp h.1)

variable {rest : List U8}

theorem textStored_silent (hs : ¬ sends) :
    TextStored p c sends q (q.mapS2 fun s => putText s p (c :: rest)) :=
  ⟨rfl, fun h => absurd h hs, fun _ => rfl, fun h => absurd h hs⟩

/-- The first character ends the text. -/
theorem textStored_first (hs : sends) (hclear : q.s2.rdsPsnBuf 162 = 0) (hc : c = 13) :
    TextStored p c sends q
      ((q.mapS2 fun s => putText s p (c :: rest)).mapS2 fun s => putText s p [0]).rdsSendRt := by
  rw [rdsSendRt_empty (by exact hclear)]
  refine ⟨rfl, fun _ => rfl, fun h => absurd hs h, fun _ => ?_⟩
  show (putText (putText q.s2 p (c :: rest)) p [0]).psText 0 = 0 ↔ _
  rw [psText_putText_head, psText_putText_head]
  by_cases hp : p = 0
  · rw [if_pos hp, if_pos hp]
    exact iff_of_true rfl (.inr hc)
  · rw [if_neg hp, if_neg hp, if_neg hp]

/-- Another character ends the text. -/
theorem textStored_later (hs : sends) (hclear : q.s2.rdsPsnBuf 162 = 0) (hc : c ≠ 13) {k : ℕ} (hk : k ≠ 0) :
    TextStored p c sends q
      ((q.mapS2 fun s => putText s p (c :: rest)).mapS2 fun s => putText s (p + k) [0]).rdsSendRt := by
  rw [rdsSendRt_empty (by exact hclear)]
  refine ⟨rfl, fun _ => rfl, fun h => absurd hs h, fun _ => ?_⟩
  show (putText (putText q.s2 p (c :: rest)) (p + k) [0]).psText 0 = 0 ↔ _
  rw [psText_putText_ne _ (by omega), psText_putText_head]
  by_cases hp : p = 0
  · rw [if_pos hp, if_pos hp]
    exact (or_iff_left hc).symm
  · rw [if_neg hp, if_neg hp]

/-- The last segment ends the text. -/
theorem textStored_last (hs : sends) (hclear : q.s2.rdsPsnBuf 162 = 0) (hp : p ≠ 0) :
    TextStored p c sends q (q.mapS2 fun s => putText s p (c :: rest)).rdsSendRt := by
  rw [rdsSendRt_empty (by exact hclear)]
  refine ⟨rfl, fun _ => rfl, fun h => absurd hs h, fun _ => ?_⟩
  rw [if_neg hp]
  show (putText q.s2 p (c :: rest)).psText 0 = 0 ↔ _
  rw [psText_putText_ne _ hp]

theorem psText_putText (s : RadioStruct2) (p : ℕ) (bytes : List U8) {k : ℕ} (hk : k < bytes.length) :
    (putText s p bytes).psText (p + k) = bytes.getD k 0 := by
  have hin : p ≤ p + k ∧ p + k < p + bytes.length := by omega
  refine (if_pos hin).trans ?_
  rw [Nat.add_sub_cancel_left]

/-! ## The two versions -/

/-- Version A: the characters are those of `rds_fw_b`, `rds_fw_a`, `rds_fw_d` and `rds_fw_c`. -/
theorem textStored_rdsText4 (p : ℕ) (q : Radio) (hclear : q.s2.rdsPsnBuf 162 = 0) :
    TextStored p q.s2.rdsFwB (q.s2.psnData 0 ≠ 0 ∧
      (13 ∈ [q.s2.rdsFwB, q.s2.rdsFwA, q.s2.rdsFwD, q.s2.rdsFwC] ∨ p = 60)) q (q.rdsText4 p) := by
  have hfirst : (putText q.s2 p [q.s2.rdsFwB, q.s2.rdsFwA, q.s2.rdsFwD, q.s2.rdsFwC]).psText p =
      q.s2.rdsFwB := psText_putText q.s2 p _ (k := 0) (by simp)
  have hsecond : (putText q.s2 p [q.s2.rdsFwB, q.s2.rdsFwA, q.s2.rdsFwD, q.s2.rdsFwC]).psText (p + 1) =
      q.s2.rdsFwA := psText_putText q.s2 p _ (k := 1) (by simp)
  have hthird : (putText q.s2 p [q.s2.rdsFwB, q.s2.rdsFwA, q.s2.rdsFwD, q.s2.rdsFwC]).psText (p + 2) =
      q.s2.rdsFwD := psText_putText q.s2 p _ (k := 2) (by simp)
  show TextStored p _ _ q (if q.s2.psnData 0 = 0 then _
    else if (putText q.s2 p _).psText p = 13 then _
    else if (putText q.s2 p _).psText (p + 1) = 13 then _
    else if (putText q.s2 p _).psText (p + 2) = 13 then _
    else if q.s2.rdsFwC = 13 then _ else if p = 60 then _ else _)
  rw [hfirst, hsecond, hthird]
  by_cases hpsn : q.s2.psnData 0 = 0
  · rw [if_pos hpsn]
    exact (textStored_silent fun h => h.1 hpsn).rdsAfCount
  rw [if_neg hpsn]
  by_cases h1 : q.s2.rdsFwB = 13
  · rw [if_pos h1]
    exact (textStored_first ⟨hpsn, .inl (by simp [h1])⟩ hclear h1).rdsAfCount
  rw [if_neg h1]
  by_cases h2 : q.s2.rdsFwA = 13
  · rw [if_pos h2]
    exact (textStored_later ⟨hpsn, .inl (by simp [h2])⟩ hclear h1 Nat.one_ne_zero).rdsAfCount
  rw [if_neg h2]
  by_cases h3 : q.s2.rdsFwD = 13
  · rw [if_pos h3]
    exact (textStored_later ⟨hpsn, .inl (by simp [h3])⟩ hclear h1 (by decide : 2 ≠ 0)).rdsAfCount
  rw [if_neg h3]
  by_cases h4 : q.s2.rdsFwC = 13
  · rw [if_pos h4]
    exact (textStored_later ⟨hpsn, .inl (by simp [h4])⟩ hclear h1 (by decide : 3 ≠ 0)).rdsAfCount
  rw [if_neg h4]
  by_cases h5 : p = 60
  · rw [if_pos h5]
    exact textStored_last ⟨hpsn, .inr h5⟩ hclear (by omega)
  · rw [if_neg h5]
    refine (textStored_silent ?_).rdsAfCount
    rintro ⟨-, hmem | hlast⟩
    · simp only [List.mem_cons, List.not_mem_nil, or_false] at hmem
      rcases hmem with h | h | h | h
      · exact h1 h.symm
      · exact h2 h.symm
      · exact h3 h.symm
      · exact h4 h.symm
    · exact h5 hlast

/-- Version B: the characters are those of `rds_fw_d` and `rds_fw_c`. -/
theorem textStored_rdsText5 (p : ℕ) (q : Radio) (hclear : q.s2.rdsPsnBuf 162 = 0) :
    TextStored p q.s2.rdsFwD (q.s2.psnData 0 ≠ 0 ∧ (13 ∈ [q.s2.rdsFwD, q.s2.rdsFwC] ∨ p = 30)) q
      (q.rdsText5 p) := by
  have hfirst : (putText q.s2 p [q.s2.rdsFwD, q.s2.rdsFwC]).psText p = q.s2.rdsFwD :=
    psText_putText q.s2 p _ (k := 0) (by simp)
  show TextStored p _ _ q (if q.s2.psnData 0 = 0 then _
    else if (putText q.s2 p _).psText p = 13 then _
    else if q.s2.rdsFwC = 13 then _ else if p = 30 then _ else _)
  rw [hfirst]
  by_cases hpsn : q.s2.psnData 0 = 0
  · rw [if_pos hpsn]
    exact (textStored_silent fun h => h.1 hpsn).rdsAfCount
  rw [if_neg hpsn]
  by_cases h1 : q.s2.rdsFwD = 13
  · rw [if_pos h1]
    exact textStored_first ⟨hpsn, .inl (by simp [h1])⟩ hclear h1
  rw [if_neg h1]
  by_cases h2 : q.s2.rdsFwC = 13
  · rw [if_pos h2]
    exact textStored_later ⟨hpsn, .inl (by simp [h2])⟩ hclear h1 Nat.one_ne_zero
  rw [if_neg h2]
  by_cases h3 : p = 30
  · rw [if_pos h3]
    exact textStored_last ⟨hpsn, .inr h3⟩ hclear (by omega)
  · rw [if_neg h3]
    refine (textStored_silent ?_).rdsAfCount
    rintro ⟨-, hmem | hlast⟩
    · simp only [List.mem_cons, List.not_mem_nil, or_false] at hmem
      rcases hmem with h | h
      · exact h1 h.symm
      · exact h2 h.symm
    · exact h3 hlast

/-- `rds_process` up to the text, which is one of the other kind or goes on. -/
def textBegun (r : Radio) : Radio :=
  (r.emit (.rdsProcess r.s2.rdsWordU16 [r.s2.rdsFwA, r.s2.rdsFwB, r.s2.rdsFwC, r.s2.rdsFwD])).mapS2
    fun s => rdsTextStart r.s2.rdsWordU16
      { (s.putFront 0 (r.s2.rdsWordU16.setWidth 8)).putFront 12
          (((r.s2.rdsWordU16 >>> 5) &&& 0x1F).setWidth 8) with
        rdsPsBit := if r.s2.rdsWordU16 &&& 0x400 ≠ 0 then 1 else 0 }

theorem rdsProcess_four {r : Radio} (h : (r.s2.rdsWordU16 >>> 11).toNat = 4) :
    r.rdsProcess = r.textBegun.rdsText4 (4 * (r.s2.rdsWordU16 &&& 0xF).toNat) := by
  unfold rdsProcess
  dsimp only
  rw [h]
  rfl

theorem rdsProcess_five {r : Radio} (h : (r.s2.rdsWordU16 >>> 11).toNat = 5) :
    r.rdsProcess = r.textBegun.rdsText5 (2 * (r.s2.rdsWordU16 &&& 0xF).toNat) := by
  unfold rdsProcess
  dsimp only
  rw [h]
  rfl

end Radio

namespace TextGroup

open Radio

/-! ## One group -/

/-- The block with the group in it. -/
def loaded (s : RadioStruct2) (g : TextGroup) : RadioStruct2 :=
  { ((s.putFront16 0 g.code).putFront 0 (g.info.setWidth 8)).putFront 12
      (((g.info >>> 5) &&& 0x1F).setWidth 8) with
    rdsWordU16 := g.info, rdsFwA := g.fwA, rdsFwB := g.fwB, rdsFwC := g.fwC, rdsFwD := g.fwD,
    rdsPsBit := if g.info &&& 0x400 ≠ 0 then 1 else 0 }

/-- The module in front of the text code: a text of the other kind has begun. -/
def ready (r : Radio) (g : TextGroup) : Radio :=
  (r.emit (.rdsProcess g.info [g.fwA, g.fwB, g.fwC, g.fwD])).mapS2 fun s =>
    rdsTextStart g.info (g.loaded s)

theorem info_eq (g : TextGroup) : (g.info >>> 11).toNat = if g.versionA then 4 else 5 := by
  have htype := congrArg BitVec.toNat g.typeTwo
  have htwo : (2 : U16).toNat = 2 := rfl
  rw [BitVec.toNat_ushiftRight, Nat.shiftRight_eq_div_pow, htwo] at htype
  by_cases hA : g.info >>> 11 = 4
  · rw [if_pos (show g.versionA = true from decide_eq_true hA), hA]
    rfl
  · have hB : ¬ g.versionA = true := fun h => hA (of_decide_eq_true h)
    have hne : (g.info >>> 11).toNat ≠ 4 := fun h => hA (BitVec.eq_of_toNat_eq h)
    rw [if_neg hB]
    rw [BitVec.toNat_ushiftRight, Nat.shiftRight_eq_div_pow] at hne ⊢
    omega

theorem receive_eq (r : Radio) (g : TextGroup) : g.receive r =
    if g.versionA then (g.ready r).rdsText4 (4 * g.segment) else (g.ready r).rdsText5 (2 * g.segment) := by
  have hinfo := g.info_eq
  by_cases hA : g.versionA = true
  · rw [if_pos hA] at hinfo ⊢
    exact rdsProcess_four hinfo
  · rw [if_neg hA] at hinfo ⊢
    exact rdsProcess_five hinfo

variable {r : Radio} {g : TextGroup}

theorem ready_of_begins (h : g.Begins r) : (g.ready r).s2 =
    { ((g.loaded r.s2).putFront 0 g.fwC) with
      psText := fun i => if i < 65 then 0x20 else r.s2.psText i, psTextExt := 0, rdsPsGrp := g.kind } :=
  if_pos h

theorem ready_of_not_begins (h : ¬ g.Begins r) : (g.ready r).s2 = g.loaded r.s2 := if_neg h

theorem ready_fw : (g.ready r).s2.rdsFwA = g.fwA ∧ (g.ready r).s2.rdsFwB = g.fwB ∧
    (g.ready r).s2.rdsFwC = g.fwC ∧ (g.ready r).s2.rdsFwD = g.fwD := by
  by_cases h : g.Begins r
  · rw [ready_of_begins h]
    exact ⟨rfl, rfl, rfl, rfl⟩
  · rw [ready_of_not_begins h]
    exact ⟨rfl, rfl, rfl, rfl⟩

theorem front_loaded (s : RadioStruct2) {i : ℕ} (hi : 13 ≤ i) : (g.loaded s).front i = s.front i := by
  show (((s.putFront16 0 g.code).putFront 0 (g.info.setWidth 8)).putFront 12
    (((g.info >>> 5) &&& 0x1F).setWidth 8)).front i = _
  rw [front_putFront_ne _ (by omega), front_putFront_ne _ (by omega)]
  exact (front_putFront_ne _ (by omega) _).trans (front_putFront_ne s (by omega) _)

theorem ready_front {i : ℕ} (hi : 13 ≤ i) : (g.ready r).s2.front i = r.s2.front i := by
  by_cases h : g.Begins r
  · rw [ready_of_begins h]
    exact (Function.update_of_ne (by omega) _ _).trans (front_loaded r.s2 hi)
  · rw [ready_of_not_begins h]
    exact front_loaded r.s2 hi

theorem ready_station : (g.ready r).s2.psnData 0 = g.stationByte r := by
  unfold stationByte
  by_cases h : g.Begins r
  · rw [ready_of_begins h, if_pos h]
    exact Function.update_self 0 _ (g.loaded r.s2).front
  · rw [ready_of_not_begins h, if_neg h]
    show (((r.s2.putFront16 0 g.code).putFront 0 (g.info.setWidth 8)).putFront 12
      (((g.info >>> 5) &&& 0x1F).setWidth 8)).front 0 = _
    rw [front_putFront_ne _ (by decide)]
    exact front_putFront_self _ _ _

theorem ready_text : (g.ready r).s2.psText 0 = if g.Begins r then 0x20 else r.s2.psText 0 := by
  by_cases h : g.Begins r
  · rw [ready_of_begins h, if_pos h]
    rfl
  · rw [ready_of_not_begins h, if_neg h]
    rfl

theorem textStored_receive (hclear : r.s2.rdsPsnBuf 162 = 0) :
    ∃ p, (p = 0 ↔ g.segment = 0) ∧
      TextStored p g.firstChar (g.Sends r) (g.ready r) (g.receive r) := by
  have hready : (g.ready r).s2.rdsPsnBuf 162 = 0 := (ready_front (by decide)).trans hclear
  obtain ⟨hA, hB, hC, hD⟩ := ready_fw (r := r) (g := g)
  have hseg : g.segment ≤ 15 := by
    unfold segment
    rw [BitVec.toNat_and]
    exact Nat.and_le_right
  rw [receive_eq]
  by_cases hversion : g.versionA = true
  · have hstored := textStored_rdsText4 (4 * g.segment) (g.ready r) hready
    rw [hA, hB, hC, hD, ready_station] at hstored
    have hsends : (g.stationByte r ≠ 0 ∧ (13 ∈ [g.fwB, g.fwA, g.fwD, g.fwC] ∨ 4 * g.segment = 60)) =
        g.Sends r := by
      unfold Sends Ends chars
      rw [if_pos hversion]
      exact propext (and_congr_right fun _ => or_congr_right (by omega))
    rw [if_pos hversion]
    refine ⟨4 * g.segment, by omega, ?_⟩
    rw [← hsends, show g.firstChar = g.fwB from if_pos hversion]
    exact hstored
  · have hstored := textStored_rdsText5 (2 * g.segment) (g.ready r) hready
    rw [hC, hD, ready_station] at hstored
    have hsends : (g.stationByte r ≠ 0 ∧ (13 ∈ [g.fwD, g.fwC] ∨ 2 * g.segment = 30)) = g.Sends r := by
      unfold Sends Ends chars
      rw [if_neg hversion]
      exact propext (and_congr_right fun _ => or_congr_right (by omega))
    rw [if_neg hversion]
    refine ⟨2 * g.segment, by omega, ?_⟩
    rw [← hsends, show g.firstChar = g.fwD from if_neg hversion]
    exact hstored

theorem assembled_eq_nil_iff (s : RadioStruct2) : s.assembled = [] ↔ s.psText 0 = 0 := by
  unfold RadioStruct2.assembled
  rw [show 65 = 64 + 1 from rfl, List.range_succ_eq_map, List.map_cons]
  by_cases hzero : s.psText 0 = 0
  · exact iff_of_true (List.takeWhile_cons_of_neg (by simp [hzero])) hzero
  · have hhead : (fun c : U8 => decide (c ≠ 0)) (s.psText 0) = true := decide_eq_true hzero
    rw [List.takeWhile_cons_of_pos (p := fun c : U8 => decide (c ≠ 0)) hhead]
    exact iff_of_false (List.cons_ne_nil _ _) hzero

/-- The message of a group is right if and only if it leaves no text to send. -/
theorem textSent_iff (hclear : r.s2.rdsPsnBuf 162 = 0) :
    TextSent r g ↔ (g.Sends r → g.LeavesEmpty r) := by
  obtain ⟨p, hp, hstored⟩ := textStored_receive (g := g) hclear
  have hfront : ∀ i, (g.receive r).s2.psnData i = (g.ready r).s2.psnData i := fun i =>
    congrFun hstored.front i
  by_cases hsends : g.Sends r
  · have hlog : (g.receive r).log = [.vsSend 0x9C [(g.ready r).s2.psnData 1, (g.ready r).s2.psnData 0, 0],
        .rdsProcess g.info [g.fwA, g.fwB, g.fwC, g.fwD]] ++ r.log := hstored.sent hsends
    have hempty : g.LeavesEmpty r ↔ (g.receive r).s2.assembled = [] := by
      rw [assembled_eq_nil_iff, hstored.text hsends, ready_text]
      unfold LeavesEmpty
      by_cases hseg : g.segment = 0
      · rw [if_pos hseg, if_pos (hp.mpr hseg)]
      · rw [if_neg hseg, if_neg (fun h => hseg (hp.mp h))]
        by_cases hbegins : g.Begins r
        · rw [if_pos hbegins]
          exact iff_of_false (fun h => h.1 hbegins) (by decide)
        · rw [if_neg hbegins]
          exact and_iff_right hbegins
    rw [imp_iff_right hsends, hempty]
    constructor
    · rintro ⟨sent, hsent, hdata⟩
      obtain rfl := List.append_cancel_right (hsent.symm.trans hlog)
      obtain ⟨-, hmessage⟩ := hdata _ List.mem_cons_self
      rw [hfront, hfront] at hmessage
      have htext := (List.cons.inj (List.cons.inj hmessage).2).2
      exact List.self_eq_append_left.mp htext
    · intro hnil
      refine ⟨_, hlog, fun data hdata => ?_⟩
      rw [hfront, hfront, hnil]
      rcases List.mem_cons.mp hdata with hmessage | hrest
      · obtain rfl := (RadioEvent.vsSend.inj hmessage).2
        exact ⟨(by decide : 3 ≤ 16), rfl⟩
      · cases List.mem_singleton.mp hrest
  · have hlog : (g.receive r).log = [.rdsProcess g.info [g.fwA, g.fwB, g.fwC, g.fwD]] ++ r.log :=
      hstored.silent hsends
    refine iff_of_true ⟨_, hlog, fun data hdata => ?_⟩ fun h => absurd h hsends
    cases List.mem_singleton.mp hdata

/-! ## Runs -/

theorem rdsPsnBuf_receive (hclear : r.s2.rdsPsnBuf 162 = 0) : (g.receive r).s2.rdsPsnBuf 162 = 0 := by
  obtain ⟨p, -, hstored⟩ := textStored_receive (g := g) hclear
  exact (congrFun hstored.front _).trans ((ready_front (by decide)).trans hclear)

/-- From a cleared block, the messages of a run are right if and only if every group that sends one leaves no
text to send. -/
theorem textSent_throughout_iff (r : Radio) (groups : List TextGroup) :
    Run.Always receive TextSent r.cleared groups ↔
      Run.Always receive (fun r g => g.Sends r → g.LeavesEmpty r) r.cleared groups :=
  Run.always_iff (fun r => r.s2.rdsPsnBuf 162 = 0) rfl (fun _ _ h _ => rdsPsnBuf_receive h)
    fun _ _ h => textSent_iff h

/-- A first segment of version A: the text `OK`. -/
def okText : TextGroup where
  code := 0xD3A1
  info := 0x2040
  fwA := 0x4B
  fwB := 0x4F
  fwC := 0x20
  fwD := 13
  typeTwo := by decide

/-- The message has the station code and no text. -/
theorem not_textSent_okText : ¬ Run.Always receive TextSent (default : Radio).cleared [okText] := by
  intro h
  have hsends : okText.Sends (default : Radio).cleared := ⟨by decide, .inl (by decide)⟩
  have hempty := (textSent_iff rfl).mp (h [] okText [] rfl) hsends
  rcases hempty with hnil | hend
  · exact absurd hnil (by decide)
  · exact absurd hend (by decide)

end TextGroup

end MtcDrivers
