import MtcDrivers.Link.Wire
import MtcDrivers.Link.Proofs.PeerProofs

/-!
# Proofs: the bits that are received

A received byte has the eight sampled bits, most significant first, and a received payload its bytes
in order. A received command word has only the last eight of its sixteen bits: `arm_rev` cuts its
accumulator to an `unsigned char` in every pass.
-/

namespace MtcDrivers

open Proc ShiftRegister History

/-- Polling `MCU_CLK` samples nothing. -/
theorem sameSamples_reads :
    KeptByReads .mcuClk fun w w' => sampledBits w' = sampledBits w where
  refl _ := rfl
  trans _ _ _ h h' := h'.trans h
  level _ := rfl
  clock _ := rfl
  seen _ _ := rfl

/-- A level of `MCU_DIN` counts as a sample if `MCU_CLK` was seen low just before. -/
theorem samples_din {log : List Event} {v : Bool} (h : log.head? = some (.level .mcuClk false)) :
    samples (.level .mcuDin v :: log) = v :: samples log := by
  cases log with
  | nil => simp at h
  | cons e log =>
    obtain rfl : e = .level .mcuClk false := by simpa using h
    rfl

/-- One sampled bit: the wait for a low clock and the read of `MCU_DIN` after it. -/
theorem wlp_sampleBit {Q : Bool → World → Prop} {w w1 : World}
    (hsame : sampledBits w1 = sampledBits w) (hlow : w1.log.head? = some (.level .mcuClk false))
    (hQ : ∀ v w2, Grew sampledBits [v] w w2 → Q v w2) : (getPin .mcuDin).wlp Q w1 := by
  refine wlp_mono readSettled_log fun v w2 h2 => hQ v w2 ?_
  have hnew : sampledBits w2 = v :: sampledBits w1 := by
    rw [sampledBits, h2, samples_din hlow, sampledBits]
  simp [Grew, hnew, hsame]

theorem wlp_waitClk_samples {Q : Bool → World → Prop} {level : Bool} {w : World}
    (hQ : ∀ ok w', sampledBits w' = sampledBits w →
      (ok = true → w'.log.head? = some (.level .mcuClk level)) → Q ok w') :
    (waitLevel (getPin .mcuClk) level).wlp Q w :=
  wlp_mono (wlp_and ((sameSamples_reads.waitLevel 1 level).wlp fun _ _ h => h) waitLevel_head)
    fun ok w' h => hQ ok w' h.1 h.2

/-! ## Payload -/

/-- One pass of `arm_rev_8bits` shifts one sampled bit into the accumulator. -/
theorem armRev8bitsPass_sampled {bit_n : ℕ} {byte : U8} {w : World} :
    (armRev8bitsPass bit_n byte).wlp (fun x => x.elim
      (fun p w' => p.1 = bit_n + 1 ∧ bit_n + 1 ≠ 8 ∧
        ∃ v, p.2 = byte.shiftConcat v ∧ Grew sampledBits [v] w w')
      (fun o w' => ∀ b, o = some b → bit_n + 1 = 8 ∧
        ∃ v, b = byte.shiftConcat v ∧ Grew sampledBits [v] w w')) w := by
  unfold armRev8bitsPass
  rw [wlp_bind]
  refine wlp_waitClk_samples fun ok w1 hsame hlow => ?_
  cases ok with
  | false => simp
  | true =>
    simp only [if_true, wlp_bind]
    refine wlp_sampleBit hsame (hlow rfl) fun v w2 h2 => ?_
    simp only [wlp_gpioSetValue]
    refine wlp_waitClk_samples fun ok w3 h3 _ => ?_
    cases ok with
    | false => simp
    | true =>
      have hbit : Grew sampledBits [v] w w3 := h3.trans h2
      rw [if_pos rfl, wlp_bind, wlp_gpioSetValue, wlp_ite]
      constructor
      · intro hne
        rw [wlp_pure]
        exact ⟨rfl, hne, v, (shiftConcat_eq byte v).symm, hbit⟩
      · intro heq
        rw [wlp_pure]
        rintro b hb
        obtain rfl := Option.some.inj hb
        exact ⟨not_not.mp heq, v, (shiftConcat_eq byte v).symm, hbit⟩

/-- A received byte has the bits that were sampled for it. -/
theorem armRev8bits_sampled {w : World} :
    armRev8bits.wlp (fun o w' => ∀ b, o = some b → Grew sampledBits (msbFirst b) w w') w := by
  unfold armRev8bits
  simp only [wlp_bind, wlp_gpioDirectionInput]
  -- after `n` passes the accumulator holds the `n` bits sampled so far
  refine wlp_iter (fun p w' => p.1 < 8 ∧ ∃ bits : List Bool, bits.length = p.1 ∧
    p.2 = shiftIn 0 bits ∧ Grew sampledBits bits w w') (fun p w1 hI => ?_)
    ⟨by omega, [], rfl, rfl, rfl⟩
  obtain ⟨hlt, bits, hlen, hacc, hgrew⟩ := hI
  refine wlp_mono armRev8bitsPass_sampled fun x w2 hx => ?_
  have hshift : ∀ v, p.2.shiftConcat v = shiftIn 0 (bits ++ [v]) := by
    intro v
    rw [shiftIn_append, ← hacc]
    rfl
  cases x with
  | inl q =>
    obtain ⟨hq, hne, v, hv, h2⟩ := hx
    refine ⟨by omega, bits ++ [v], by simp [hlen, hq], ?_, hgrew.trans h2⟩
    rw [hv, hshift]
  | inr o =>
    intro b hb
    obtain ⟨hlast, v, hv, h2⟩ := hx b hb
    have hall : msbFirst b = bits ++ [v] := by
      rw [hv, hshift]
      exact msbFirst_shiftIn _ (by simp [hlen, hlast])
    rw [hall]
    exact hgrew.trans h2

/-- A received payload consists of the bytes that were sampled, in order. -/
theorem armRevBytes_sampled {a : CArray} {off n : ℕ} {w : World} :
    (armRevBytes a off n).wlp (fun r w' => r.1 = true → Grew sampledBits
      (((List.range n).map fun i => r.2.val (off + i)).flatMap msbFirst) w w') w := by
  unfold armRevBytes
  rw [wlp_bind]
  refine wlp_mono (Q := fun r w' => r.1 = true →
    r.2.length = n ∧ Grew sampledBits (r.2.flatMap msbFirst) w w') ?_ fun r w1 h1 => ?_
  · rw [wlp_ite]
    refine ⟨fun _ => ?_, fun hn => wlp_pure.mpr fun _ => ⟨(not_not.mp hn).symm, grew_refl w⟩⟩
    refine wlp_iter (fun data w' => Grew sampledBits (data.flatMap msbFirst) w w')
      (fun data w1 hI => ?_) (grew_refl w)
    unfold armRevBytesPass
    simp only [wlp_bind, wlp_modifyCar]
    refine wlp_mono armRev8bits_sampled fun o w2 h2 => ?_
    cases o with
    | none => simp
    | some b =>
      have hmore : Grew sampledBits ((data ++ [b]).flatMap msbFirst) w w2 := by
        rw [List.flatMap_append, List.flatMap_singleton]
        exact Grew.trans hI (h2 b rfl)
      rw [wlp_ite]
      refine ⟨fun heq => ?_, fun hne => ?_⟩
      · rw [wlp_pure]
        exact fun _ => ⟨by simpa using heq, hmore⟩
      · rw [wlp_pure]
        exact hmore
  · obtain ⟨ok, data⟩ := r
    simp only [wlp_bind, wlp_emit, wlp_pure]
    intro hok
    obtain ⟨rfl, hgrew⟩ := h1 hok
    rw [receive_map]
    exact hgrew

/-! ## The command word -/

/-- One pass of the bit loop of `arm_rev`. -/
theorem armRevPass_sampled {bit_pos : ℕ} {x : U8} {w : World} :
    (armRevPass bit_pos (x.setWidth 32)).wlp (fun y => y.elim
      (fun p w' => p.1 = bit_pos + 1 ∧ bit_pos + 1 ≠ 16 ∧
        ∃ v, p.2 = (x.shiftConcat v).setWidth 32 ∧ Grew sampledBits [v] w w')
      (fun o w' => ∀ cmd, o = some cmd → bit_pos + 1 = 16 ∧
        ∃ v, cmd = (x.shiftConcat v).setWidth 32 ∧ Grew sampledBits [v] w w')) w := by
  unfold armRevPass
  rw [wlp_bind]
  refine wlp_waitClk_samples fun ok w1 hsame hlow => ?_
  cases ok with
  | false => simp
  | true =>
    simp only [if_true, wlp_bind]
    refine wlp_sampleBit hsame (hlow rfl) fun v w2 h2 => ?_
    simp only [wlp_gpioSetValue, armRev_shift]
    refine wlp_waitClk_samples fun ok w3 h3 _ => ?_
    cases ok with
    | false => simp
    | true =>
      have hbit : Grew sampledBits [v] w w3 := h3.trans h2
      rw [if_pos rfl, wlp_bind, wlp_gpioSetValue, wlp_ite]
      constructor
      · intro hne
        rw [wlp_pure]
        exact ⟨rfl, hne, v, rfl, hbit⟩
      · intro heq
        rw [wlp_pure]
        rintro cmd hcmd
        obtain rfl := Option.some.inj hcmd
        exact ⟨not_not.mp heq, v, rfl, hbit⟩

/-- The command word that `arm_rev` passes on is what an eight-bit register keeps of the sixteen
sampled bits. -/
theorem armRevWord_sampled {w : World} :
    armRevWord.wlp (fun o w' => ∀ cmd, o = some cmd → ∃ bits : List Bool, bits.length = 16 ∧
      latest sampledBits 16 w' = bits ∧ cmd = ((shiftIn 0 bits : U8).setWidth 32 : U32)) w := by
  unfold armRevWord
  rw [wlp_bind]
  intro clk w1 _
  cases clk with
  | false => simp
  | true =>
    simp only [if_true, wlp_bind]
    intro din w2 _
    cases din with
    | true => simp
    | false =>
      simp only [Bool.false_eq_true, if_false, wlp_bind, wlp_gpioDirectionOutput, wlp_udelay]
      intro ok w3 _
      cases ok with
      | false => simp
      | true =>
        simp only [if_true, wlp_bind, wlp_gpioDirectionOutput, wlp_udelay, wlp_modifyCar,
          wlp_gpioDirectionInput]
        refine wlp_iter (fun p w' => p.1 < 16 ∧ ∃ bits : List Bool, bits.length = p.1 ∧
          p.2 = ((shiftIn 0 bits : U8).setWidth 32 : U32) ∧ Grew sampledBits bits w3 w')
          (fun p w4 hI => ?_) ⟨by omega, [], rfl, rfl, rfl⟩
        obtain ⟨hlt, bits, hlen, hacc, hgrew⟩ := hI
        have hshift : ∀ v, (shiftIn 0 bits : U8).shiftConcat v = shiftIn 0 (bits ++ [v]) := by
          intro v
          rw [shiftIn_append]
          rfl
        rw [hacc]
        refine wlp_mono armRevPass_sampled fun x w5 hx => ?_
        cases x with
        | inl q =>
          obtain ⟨hq, hne, v, hv, h5⟩ := hx
          exact ⟨by omega, bits ++ [v], by simp [hlen, hq], by rw [hv, hshift], hgrew.trans h5⟩
        | inr o =>
          intro cmd hcmd
          obtain ⟨hlast, v, hv, h5⟩ := hx cmd hcmd
          have hlen16 : (bits ++ [v]).length = 16 := by simp [hlen, hlast]
          refine ⟨bits ++ [v], hlen16, ?_, by rw [hv, hshift]⟩
          rw [← hlen16]
          exact (hgrew.trans h5).latest

/-- `arm_rev`, started in `w`, calls `process_mcu_command` with `cmd` in `w1`. -/
def ReachesCommand (w : World) (cmd : U32) (w1 : World) : Prop :=
  ∃ w0, armRevWord.Ends w (some cmd) w0 ∧ w1 = w0.modifyCar fun c => { c with armRevCmd := cmd }

/-- The rest of `arm_rev` is then the run of `process_mcu_command`. -/
theorem armRev_ends {w w1 w' : World} {cmd : U32} {r : ℤ} (h1 : ReachesCommand w cmd w1) :
    armRev.Ends w r w' ↔ (processMcuCommand cmd).Ends w1 r w' := by
  obtain ⟨w0, h0, rfl⟩ := h1
  unfold armRev
  constructor
  · intro h
    obtain ⟨o, w2, hword, h⟩ := ends_bind.mp h
    obtain ⟨rfl, rfl⟩ := h0.det hword
    obtain ⟨_, w3, hcar, h⟩ := ends_bind.mp h
    obtain rfl := ends_modifyCar.mp hcar
    exact h
  · intro h
    exact ends_bind.mpr ⟨_, w0, h0, ends_bind.mpr ⟨(), _, ends_modifyCar.mpr rfl, h⟩⟩

/-- `cmd` is the 16-bit number whose bits, most significant first, were sampled last. -/
def IsSampledWord (cmd : U32) (w : World) : Prop :=
  ∃ c : BitVec 16, cmd = c.setWidth 32 ∧ msbFirst c = latest sampledBits 16 w

theorem isSampledWord_iff {w w1 : World} {cmd : U32} (h : ReachesCommand w cmd w1) :
    IsSampledWord cmd w1 ↔ (latest sampledBits 16 w1).take 8 = List.replicate 8 false := by
  obtain ⟨w0, h0, rfl⟩ := h
  obtain ⟨bits, hlen, hbits, rfl⟩ := armRevWord_sampled _ w0 h0 cmd rfl
  have hlast : latest sampledBits 16
      (w0.modifyCar fun c => { c with armRevCmd := (shiftIn 0 bits : U8).setWidth 32 }) = bits := hbits
  rw [IsSampledWord, hlast]
  have hlow : msbFirst ((shiftIn 0 bits : U8).setWidth (8 + 8)) =
      List.replicate 8 false ++ bits.drop 8 := by
    rw [msbFirst_setWidth, msbFirst_shiftIn_drop _ (by omega), hlen]
  constructor
  · rintro ⟨c, hc, hmsb⟩
    have hcut : c = (shiftIn 0 bits : U8).setWidth (8 + 8) := by
      have h16 := congrArg (BitVec.setWidth 16) hc
      simpa using h16.symm
    rw [← hmsb, hcut, hlow, List.take_left' (by simp)]
  · intro hzero
    refine ⟨(shiftIn 0 bits : U8).setWidth 16, by simp, ?_⟩
    rw [hlow, ← hzero, List.take_append_drop]

/-- The argument of `process_mcu_command` is the sampled word exactly if the first eight samples are
low, and received bytes are always the sampled ones. -/
theorem arm_rev_decodes_iff (w : World) :
    (∀ cmd w1, ReachesCommand w cmd w1 →
      (IsSampledWord cmd w1 ↔ (latest sampledBits 16 w1).take 8 = List.replicate 8 false)) ∧
      ∀ a off n a' w', (armRevBytes a off n).Ends w (true, a') w' →
        since sampledBits w w' = ((List.range n).map fun i => a'.val (off + i)).flatMap msbFirst :=
  ⟨fun _ _ h => isSampledWord_iff h, fun _ _ _ _ w' h => (armRevBytes_sampled _ w' h rfl).since⟩

theorem caller_reaches (word : BitVec 16) :
    ∃ w1, ReachesCommand (.caller word) ((shiftIn 0 (msbFirst word) : U8).setWidth 32) w1 ∧
      latest sampledBits 16 w1 = msbFirst word := by
  obtain ⟨o, w0, h0, -, hbits, rfl⟩ := armRevWord_peer (w := .caller word) (msbFirst word)
    (by simp) ahead_ofPeer
  exact ⟨_, ⟨w0, h0, rfl⟩, hbits⟩

/-- A word with a clear high byte, and the byte `0x5A`. -/
theorem arm_rev_decodes_iff_caller :
    (∃ cmd w1, ReachesCommand (.caller 0x0055) cmd w1 ∧
      (IsSampledWord cmd w1 ↔ (latest sampledBits 16 w1).take 8 = List.replicate 8 false)) ∧
      ∃ a' w', (armRevBytes (CArray.onFrame 8 ⟨0, fun _ => 0⟩) 0 1).Ends (.sender [0x5A]) (true, a') w' ∧
        since sampledBits (.sender [0x5A]) w' =
          ((List.range 1).map fun i => a'.val (0 + i)).flatMap msbFirst := by
  obtain ⟨w1, h1, -⟩ := caller_reaches 0x0055
  obtain ⟨r, w', h', -, rfl⟩ := armRevBytes_peer (CArray.onFrame 8 ⟨0, fun _ => 0⟩) 0
    (w := .sender [0x5A]) (ahead_sender [0x5A])
  exact ⟨⟨_, w1, h1, (arm_rev_decodes_iff _).1 _ _ h1⟩, _, w', h',
    (arm_rev_decodes_iff _).2 _ _ _ _ _ h'⟩

/-- The power request `0xF203` arrives as `0x0003`. -/
theorem arm_rev_drops_high_byte : ¬ ∀ w cmd w1, ReachesCommand w cmd w1 → IsSampledWord cmd w1 := by
  intro h
  obtain ⟨w1, h1, hbits⟩ := caller_reaches 0xF203
  have hzero := (isSampledWord_iff h1).mp (h _ _ w1 h1)
  rw [hbits] at hzero
  exact absurd hzero (by decide)

end MtcDrivers
