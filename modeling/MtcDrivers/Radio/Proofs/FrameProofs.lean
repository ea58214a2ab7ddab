import MtcDrivers.Radio.Block

/-!
# What the group code leaves alone

`rds_process`, `ta_back` and the messages do not touch the words of the blocks and the bit accumulator,
and they can only reset the synchroniser.
-/

namespace MtcDrivers

namespace Radio

/-- The stream part of the state is kept, the synchroniser possibly reset, and `rds_process` not
    called. -/
structure Keeps (r r' : Radio) : Prop where
  u16_2 : r'.u16_2 = r.u16_2
  gap13_0 : r'.gap13_0 = r.gap13_0
  gap13_2 : r'.gap13_2 = r.gap13_2
  gap13_4 : r'.gap13_4 = r.gap13_4
  gap13_7 : r'.gap13_7 = r.gap13_7
  gap14 : r'.gap14 = r.gap14
  cfgRadio : r'.cfgRadio = r.cfgRadio
  state : r'.staRdsCache0 = r.staRdsCache0 ∨ r'.staRdsCache0 = 0
  calls : r'.processCalls = r.processCalls

theorem Keeps.refl (r : Radio) : Keeps r r := ⟨rfl, rfl, rfl, rfl, rfl, rfl, rfl, .inl rfl, rfl⟩

theorem Keeps.trans {r s t : Radio} (h₁ : Keeps r s) (h₂ : Keeps s t) : Keeps r t where
  u16_2 := h₂.u16_2.trans h₁.u16_2
  gap13_0 := h₂.gap13_0.trans h₁.gap13_0
  gap13_2 := h₂.gap13_2.trans h₁.gap13_2
  gap13_4 := h₂.gap13_4.trans h₁.gap13_4
  gap13_7 := h₂.gap13_7.trans h₁.gap13_7
  gap14 := h₂.gap14.trans h₁.gap14
  cfgRadio := h₂.cfgRadio.trans h₁.cfgRadio
  state := by
    rcases h₂.state with h | h
    · rw [h]
      exact h₁.state
    · exact .inr h
  calls := h₂.calls.trans h₁.calls

theorem keeps_emit (r : Radio) {e : RadioEvent} (he : e.isProcess = false) : Keeps r (r.emit e) :=
  ⟨rfl, rfl, rfl, rfl, rfl, rfl, rfl, .inl rfl, by simp [processCalls, emit, he]⟩

theorem keeps_mapS2 (r : Radio) (f : RadioStruct2 → RadioStruct2) : Keeps r (r.mapS2 f) :=
  ⟨rfl, rfl, rfl, rfl, rfl, rfl, rfl, .inl rfl, rfl⟩

theorem keeps_staInvalid (r : Radio) : Keeps r r.staInvalid := by
  refine ⟨rfl, rfl, rfl, rfl, rfl, rfl, rfl, .inr rfl, ?_⟩
  simp [processCalls, staInvalid, emit, RadioEvent.isProcess]

theorem keeps_rdsSendSta (r : Radio) : Keeps r r.rdsSendSta := by
  unfold rdsSendSta
  dsimp only
  split_ifs with h
  · exact keeps_emit r rfl
  · exact ⟨rfl, rfl, rfl, rfl, rfl, rfl, rfl, .inl rfl, rfl⟩

theorem keeps_radioSetMute (mute : Bool) (r : Radio) : Keeps r (r.radioSetMute mute) :=
  keeps_emit r rfl

theorem keeps_radioSetFrequencyCom (freq a2 : U32) (r : Radio) :
    Keeps r (r.radioSetFrequencyCom freq a2) := by
  unfold radioSetFrequencyCom
  dsimp only
  have hinv := keeps_staInvalid r
  cases tuningWord freq with
  | none => exact hinv
  | some v5 =>
    -- the message to the MCU, the empty station, and the fields of the tuner
    refine hinv.trans ⟨rfl, rfl, rfl, rfl, rfl, rfl, rfl, .inl rfl, ?_⟩
    simp [processCalls, rdsSendStaEmpty, emit, RadioEvent.isProcess]

theorem keeps_taBack (r : Radio) : Keeps r r.taBack := by
  have hsend : ∀ s : Radio, Keeps s ((s.emit (.vsSend 155 [0])).emit (.audioAddWork 25 1)) :=
    fun s => (keeps_emit s rfl).trans (keeps_emit _ rfl)
  unfold taBack
  dsimp only
  refine Keeps.trans ?_ (hsend _)
  split_ifs with h1 h2
  · have hfree : Keeps r { r with hasTaWork := 0 } := ⟨rfl, rfl, rfl, rfl, rfl, rfl, rfl, .inl rfl, rfl⟩
    have hfreq : ∀ s : Radio, Keeps s { s with radioFreq := s.curFreq } := fun s =>
      ⟨rfl, rfl, rfl, rfl, rfl, rfl, rfl, .inl rfl, rfl⟩
    exact (((hfree.trans (keeps_staInvalid _)).trans (hfreq _)).trans
      (keeps_radioSetFrequencyCom _ _ _)).trans (keeps_radioSetMute _ _)
  · exact ⟨rfl, rfl, rfl, rfl, rfl, rfl, rfl, .inl rfl, rfl⟩
  · exact Keeps.refl r

theorem keeps_rdsSendPsn (r : Radio) : Keeps r r.rdsSendPsn := by
  have hhead : ∀ f : ℕ → U8, Keeps r { r with psnData := f } := fun f =>
    ⟨rfl, rfl, rfl, rfl, rfl, rfl, rfl, .inl rfl, rfl⟩
  unfold rdsSendPsn
  dsimp only
  split_ifs with h
  · exact (hhead _).trans (keeps_emit _ rfl)
  · exact hhead _

theorem keeps_rdsSendRt (r : Radio) : Keeps r r.rdsSendRt := keeps_emit r rfl

theorem keeps_rdsAfCount (r : Radio) : Keeps r r.rdsAfCount := keeps_mapS2 r _

theorem keeps_rdsBasic (v0 : U16) (r : Radio) : Keeps r (r.rdsBasic v0) := by
  unfold rdsBasic
  dsimp only
  have hpsn : ∀ s : Radio, Keeps s
      (if s.s2.piWords = 15 then (s.mapS2 fun t => { t with piWords := 0 }).rdsSendPsn else s) := by
    intro s
    split_ifs with h
    · exact (keeps_mapS2 s _).trans (keeps_rdsSendPsn _)
    · exact Keeps.refl s
  have hlamp : ∀ s : Radio, Keeps s (if s.backlightStatus = 0 then s.emit (.vsSend 155 [1]) else s) := by
    intro s
    split_ifs with h
    · exact keeps_emit s rfl
    · exact Keeps.refl s
  have hmaps : ∀ f g h, Keeps r ((((r.emit .scheduleRdslost).mapS2 f).mapS2 g).mapS2 h) :=
    fun f g h => (((keeps_emit r (by rfl)).trans (keeps_mapS2 _ f)).trans (keeps_mapS2 _ g)).trans
      (keeps_mapS2 _ h)
  generalize hq : Radio.mapS2 (Radio.mapS2 (Radio.mapS2 (r.emit _) _) _) _ = q
  refine Keeps.trans (s := q) (hq ▸ hmaps _ _ _) ((hpsn q).trans ?_)
  generalize (if q.s2.piWords = 15 then _ else _ : Radio) = s
  by_cases hwork : s.hasTaWork ≠ 0
  · rw [if_pos hwork]
    split_ifs with hback
    · exact keeps_taBack s
    · exact keeps_rdsAfCount s
  · rw [if_neg hwork]
    by_cases hcnt : s.gap11_2 = 0 ∨ s.s2.rdsPsBit = 0 ∨ s.s2.rdsTaCnt ≤ 5
    · rw [if_pos hcnt]
      exact keeps_rdsAfCount s
    · rw [if_neg hcnt]
      by_cases hsig : s.radioRdsFlag > 0xA9
      · rw [if_pos hsig]
        have hta : ∀ t : Radio, Keeps t { t with hasTaWork := 2 } := fun t =>
          ⟨rfl, rfl, rfl, rfl, rfl, rfl, rfl, .inl rfl, rfl⟩
        exact (hlamp s).trans ((hta _).trans (keeps_emit _ rfl))
      · rw [if_neg hsig]
        exact Keeps.refl s

theorem keeps_rdsText4 (p : ℕ) (r : Radio) : Keeps r (r.rdsText4 p) := by
  have hend : ∀ (f : RadioStruct2 → RadioStruct2) (s : Radio),
      Keeps s (s.mapS2 f).rdsSendRt.rdsAfCount := fun f s =>
    ((keeps_mapS2 s f).trans (keeps_rdsSendRt _)).trans (keeps_rdsAfCount _)
  unfold rdsText4
  dsimp only
  generalize hs : r.mapS2 _ = s
  refine Keeps.trans (s := s) (hs ▸ keeps_mapS2 r _) ?_
  split_ifs
  · exact keeps_rdsAfCount s
  · exact hend _ s
  · exact hend _ s
  · exact hend _ s
  · exact hend _ s
  · exact keeps_rdsSendRt s
  · exact keeps_rdsAfCount s

theorem keeps_rdsText5 (p : ℕ) (r : Radio) : Keeps r (r.rdsText5 p) := by
  have hend : ∀ (f : RadioStruct2 → RadioStruct2) (s : Radio), Keeps s (s.mapS2 f).rdsSendRt :=
    fun f s => (keeps_mapS2 s f).trans (keeps_rdsSendRt _)
  unfold rdsText5
  dsimp only
  generalize hs : r.mapS2 _ = s
  refine Keeps.trans (s := s) (hs ▸ keeps_mapS2 r _) ?_
  split_ifs
  · exact keeps_rdsAfCount s
  · exact hend _ s
  · exact hend _ s
  · exact keeps_rdsSendRt s
  · exact keeps_rdsAfCount s

/-- `rds_process` after the record of its call. -/
theorem keeps_rdsProcess (r : Radio) :
    ∃ e : RadioEvent, e.isProcess = true ∧ Keeps (r.emit e) r.rdsProcess := by
  refine ⟨.rdsProcess r.s2.rdsWordU16 [r.s2.rdsFwA, r.s2.rdsFwB, r.s2.rdsFwC, r.s2.rdsFwD], rfl, ?_⟩
  unfold rdsProcess
  dsimp only
  generalize hs : Radio.mapS2 (r.emit _) _ = s
  refine Keeps.trans (s := s) (hs ▸ keeps_mapS2 _ _) ?_
  split
  · exact (keeps_mapS2 s _).trans (keeps_rdsBasic _ _)
  · exact keeps_rdsBasic _ s
  · exact (keeps_mapS2 s _).trans (keeps_rdsAfCount _)
  · exact (keeps_mapS2 s _).trans (keeps_rdsAfCount _)
  · exact (keeps_mapS2 s _).trans (keeps_rdsText4 _ _)
  · exact (keeps_mapS2 s _).trans (keeps_rdsText5 _ _)
  · exact (keeps_mapS2 s _).trans (keeps_rdsAfCount _)
  · exact Keeps.refl s

theorem processCalls_rdsProcess (r : Radio) : r.rdsProcess.processCalls = r.processCalls + 1 := by
  obtain ⟨e, he, hkeeps⟩ := keeps_rdsProcess r
  rw [hkeeps.calls]
  simp [processCalls, emit, he]

end Radio

end MtcDrivers
