import Mathlib.Data.List.Basic
import MtcDrivers.Link.Wire
import MtcDrivers.Link.Proofs.PeerProofs

/-!
# Proofs: the bits that are sent

The command word goes out as sixteen copies of bit 15, because `arm_send_cmd` tests the same bit in
every pass and never shifts its argument. A payload byte goes out with seven of its eight bits on the
ordinary write path and completely on the firmware path.
-/

namespace MtcDrivers

open Proc ShiftRegister History

/-- The two logs agree on what is on the wires. -/
def SameWire (w w' : World) : Prop :=
  clockFalls w'.log = clockFalls w.log ∧ doutLevel w'.log = doutLevel w.log

theorem sameWire_reads (p : Gpio) : KeptByReads p SameWire where
  refl _ := ⟨rfl, rfl⟩
  trans _ _ _ h h' := ⟨h'.1.trans h.1, h'.2.trans h.2⟩
  level _ := ⟨rfl, rfl⟩
  clock _ := ⟨rfl, rfl⟩
  seen _ _ := ⟨rfl, rfl⟩

section Waiting

variable {Q : Bool → World → Prop} {w : World}

theorem wlp_waitPin_wire {p : Gpio} {level : Bool} (h : ∀ v w', SameWire w w' → Q v w') :
    (waitLevel (getPin p) level).wlp Q w :=
  ((sameWire_reads p).waitLevel 1 level).wlp h

theorem wlp_waitPin2_wire {p : Gpio} {level : Bool} (h : ∀ v w', SameWire w w' → Q v w') :
    (waitLevel (getPin2 p) level).wlp Q w :=
  ((sameWire_reads p).waitLevel 5 level).wlp h

theorem wlp_spinPin_wire {p : Gpio} {level : Bool} {Q : Unit → World → Prop}
    (h : ∀ w', SameWire w w' → Q () w') : (spinUntil (getPin p) level).wlp Q w :=
  ((sameWire_reads p).spinUntil 1 level).wlp fun _ => h

end Waiting

/-- The levels `bits` went out between `w` and `w'`. -/
def Sent (bits : List Bool) (w w' : World) : Prop := Grew sentBits (bits.map some) w w'

theorem sent_nil (w : World) : Sent [] w w := grew_refl w

theorem Sent.trans {a b : List Bool} {w w' w'' : World} (h : Sent a w w') (h' : Sent b w' w'') :
    Sent (a ++ b) w w'' := by
  have hab := Grew.trans h h'
  rwa [← List.map_append] at hab

/-! ## The command word -/

/-- One pass of the bit loop sends bit 15 of the command, whatever `bit_pos` is. -/
theorem armSendPass_sent {cmd : U32} {bit_pos : ℕ} {w : World} :
    (armSendPass cmd bit_pos).wlp (fun x => x.elim
      (fun b w' => b = bit_pos + 1 ∧ bit_pos ≠ 15 ∧ Sent [cmd.getLsbD 15] w w')
      (fun ok w' => ok = true → bit_pos = 15 ∧ Sent [cmd.getLsbD 15] w w')) w := by
  have hbit : (if cmd &&& 0x8000 = 0 then false else true) = cmd.getLsbD 15 :=
    testBit_mask (by omega) rfl
  unfold armSendPass sendErr0
  rw [wlp_bind]
  refine wlp_waitPin_wire fun v w1 h1 => ?_
  cases v with
  | false => simp
  | true =>
    simp only [if_true, wlp_bind, wlp_gpioSetValue, wlp_gpioDirectionOutput, hbit]
    refine wlp_waitPin_wire fun v w2 h2 => ?_
    obtain ⟨h2, -⟩ := h2
    simp only [World.emit_log, clockFalls, World.setPad_log, doutLevel, h1.1] at h2
    cases v with
    | false => simp
    | true => by_cases hp : bit_pos = 15 <;> simp [hp, Sent, Grew, sentBits, clockFalls, h2]

/-- A completed transfer of the command word has put sixteen times the same level on the wire. -/
theorem armSendWord_sent {cmd : U32} {w : World} :
    (armSendWord cmd).wlp (fun ok w' => ok = true →
      Sent (List.replicate 16 (cmd.getLsbD 15)) w w') w := by
  unfold armSendWord
  simp only [wlp_bind, wlp_gpioDirectionOutput]
  refine wlp_waitPin2_wire fun v w1 h1 => ?_
  cases v with
  | false => simp
  | true =>
    simp only [if_true, wlp_bind, wlp_gpioSetValue]
    refine wlp_waitPin2_wire fun v w2 h2 => ?_
    cases v with
    | false => simp
    | true =>
      simp only [if_true, wlp_bind, wlp_modifyCar, wlp_udelay]
      -- after `b` passes the level has been driven `b` times
      refine wlp_iter (fun b w' => b ≤ 15 ∧ Sent (List.replicate b (cmd.getLsbD 15)) w w')
        (fun b w3 hI => ?_) ?_
      · refine wlp_mono armSendPass_sent fun x w4 hx => ?_
        cases x with
        | inl b' =>
          obtain ⟨rfl, hne, hs⟩ := hx
          refine ⟨by omega, ?_⟩
          rw [List.replicate_succ']
          exact hI.2.trans hs
        | inr ok =>
          intro hok
          obtain ⟨rfl, hs⟩ := hx hok
          rw [List.replicate_succ' (n := 15)]
          exact hI.2.trans hs
      · simp [Sent, grew_nil, sentBits, h2.1, h1.1, clockFalls]

theorem armSendCmd_latest {cmd : U32} {w : World} :
    (armSendCmd cmd).wlp (fun ok w' => ok = true →
      latest sentBits 16 w' = (List.replicate 16 (cmd.getLsbD 15)).map some) w := by
  unfold armSendCmd
  rw [wlp_bind]
  intro free w1 _
  cases free with
  | false => simp
  | true =>
    refine wlp_mono armSendWord_sent fun ok w2 h2 hok => ?_
    simpa using Grew.latest (h2 hok)

/-- Every completed `arm_send_cmd` for `cmd` has sent the bits of `cmd`, most significant first. -/
def SendsWord (cmd : BitVec 16) : Prop :=
  ∀ w w', (armSendCmd (cmd.setWidth 32)).Ends w true w' →
    latest sentBits 16 w' = (msbFirst cmd).map some

/-- `arm_send_cmd` sends its argument for the two words whose bits are all alike, and no other. -/
theorem arm_send_cmd_sends_word_iff (cmd : BitVec 16) :
    SendsWord cmd ↔ cmd = 0 ∨ cmd = 0xFFFF := by
  have hbit : (cmd.setWidth 32).getLsbD 15 = cmd.msb := by simp [BitVec.msb_eq_getLsbD_last]
  have hsent : ∀ w w', (armSendCmd (cmd.setWidth 32)).Ends w true w' →
      latest sentBits 16 w' = (List.replicate 16 cmd.msb).map some := by
    intro w w' h
    rw [← hbit]
    exact armSendCmd_latest true w' h rfl
  have hrep : List.replicate 16 cmd.msb = msbFirst cmd ↔ cmd = 0 ∨ cmd = 0xFFFF := by
    rw [eq_comm, msbFirst_eq_replicate]
    cases hm : cmd.msb with
    | false =>
      refine ⟨Or.inl, ?_⟩
      rintro (rfl | rfl)
      · rfl
      · exact absurd hm (by decide)
    | true =>
      refine ⟨Or.inr, ?_⟩
      rintro (rfl | rfl)
      · exact absurd hm (by decide)
      · rfl
  rw [← hrep]
  constructor
  · intro h
    obtain ⟨ok, w', hrun, rfl, -⟩ := armSendCmd_peer (cmd.setWidth 32) (w := World.ofPeer
      (grantClk (.const true)) (grantDin (.const true))) ahead_ofPeer
    have heq := (hsent _ w' hrun).symm.trans (h _ w' hrun)
    exact List.map_injective_iff.mpr (Option.some_injective _) heq
  · intro h w w' hrun
    rw [hsent w w' hrun, h]

/-- The shutdown command `0x0755` goes out as sixteen zeros. -/
theorem arm_send_cmd_drops_word : ¬ ∀ cmd, SendsWord cmd := by
  intro h
  obtain ⟨ok, w', hrun, rfl, -⟩ := armSendCmd_peer ((0x0755 : BitVec 16).setWidth 32)
    (w := World.ofPeer (grantClk (.const true)) (grantDin (.const true))) ahead_ofPeer
  have hsent := armSendCmd_latest true w' hrun rfl
  rw [h 0x0755 _ w' hrun] at hsent
  exact absurd hsent (by decide)

/-! ## The payload -/

theorem byteBit_eq (byte : U8) : (if byte &&& 0x80 = 0 then false else true) = byte.msb := by
  rw [BitVec.msb_eq_getLsbD_last]
  exact testBit_mask (by omega) rfl

/-- The ordinary write path sends the top seven bits of a byte. -/
theorem armSend8bits_sent {byte : U8} {w : World} :
    (Proc.iter (fun p => armSend8bitsPass p.1 p.2) (0, byte)).wlp
      (fun ok w' => ok = true → Sent (shiftOut 7 byte) w w') w := by
  -- what was sent, with what the accumulator still holds, are the top seven bits
  refine wlp_iter (fun p w' => p.1 ≤ 7 ∧
    ∃ bits, shiftOut 7 byte = bits ++ shiftOut (7 - p.1) p.2 ∧ Sent bits w w')
    (fun p w1 hI => ?_) ⟨by omega, [], rfl, sent_nil w⟩
  obtain ⟨hp, bits, hbits, hsent⟩ := hI
  unfold armSend8bitsPass
  rw [wlp_ite]
  constructor
  · intro hlt
    rw [wlp_bind]
    refine wlp_waitPin_wire fun v w2 h2 => ?_
    cases v with
    | false => simp
    | true =>
      simp only [if_true, wlp_bind, wlp_gpioSetValue, wlp_gpioDirectionOutput, byteBit_eq]
      refine wlp_waitPin_wire fun v w3 h3 => ?_
      cases v with
      | false => simp
      | true =>
        have hne : p.1 ≠ 7 := by omega
        have hone : Sent [p.2.msb] w1 w3 := by
          simp [Sent, Grew, sentBits, h3.1, h2.1, clockFalls, doutLevel]
        have hrest : shiftOut (7 - p.1) p.2 = p.2.msb :: shiftOut (7 - (p.1 + 1)) (p.2 <<< 1) := by
          rw [show 7 - p.1 = (7 - (p.1 + 1)) + 1 by omega, shiftOut]
        simp only [if_true, if_pos hne, wlp_bind, wlp_gpioDirectionOutput, wlp_pure, Sum.elim_inl]
        refine ⟨by omega, bits ++ [p.2.msb], ?_, ?_⟩
        · rw [hbits, hrest, List.append_assoc, List.singleton_append]
        · exact hsent.trans hone
  · intro hge
    have hzero : 7 - p.1 = 0 := by omega
    rw [hzero, shiftOut, List.append_nil] at hbits
    simpa [hbits] using hsent

/-- The ordinary write path sends the top seven bits of every byte. -/
theorem armSendBytes_sent {buf : CArray} {count : ℕ} {w : World} :
    (armSendBytes buf count).wlp (fun ok w' => ok = true →
      Sent ((List.range count).flatMap fun i => shiftOut 7 (buf.val i)) w w') w := by
  refine wlp_iter (fun pos w' => pos ≤ count ∧
    Sent ((List.range pos).flatMap fun i => shiftOut 7 (buf.val i)) w w')
    (fun pos w1 hI => ?_) ⟨by omega, sent_nil w⟩
  obtain ⟨hpos, hsent⟩ := hI
  unfold armSendBytesPass
  rw [wlp_ite]
  constructor
  · intro hlt
    simp only [wlp_bind, wlp_modifyCar]
    refine wlp_mono armSend8bits_sent fun ok w2 h2 => ?_
    cases ok with
    | false => simp
    | true =>
      have hbyte : Sent (shiftOut 7 (buf.val pos)) w1 w2 := h2 rfl
      simp only [if_true, wlp_bind, wlp_gpioSetValue, wlp_gpioDirectionOutput, wlp_pure,
        Sum.elim_inl, List.range_succ, List.flatMap_append, List.flatMap_singleton]
      exact ⟨hlt, hsent.trans hbyte⟩
  · intro hge
    have heq : pos = count := by omega
    simpa [heq] using hsent

/-- The firmware path counts its bits down from eight and sends all of them. -/
theorem armSendFirmwareByte_sent {byte : U8} {w : World} :
    (Proc.iter (fun p => armSendFirmwareBit p.1 p.2) (8, byte)).wlp
      (fun _ w' => Sent (msbFirst byte) w w') w := by
  refine wlp_iter (fun p w' => 1 ≤ p.1 ∧
    ∃ bits, msbFirst byte = bits ++ shiftOut p.1 p.2 ∧ Sent bits w w')
    (fun p w1 hI => ?_) ⟨by omega, [], by rw [List.nil_append, shiftOut_all], sent_nil w⟩
  obtain ⟨hp, bits, hbits, hsent⟩ := hI
  unfold armSendFirmwareBit
  rw [wlp_bind]
  refine wlp_spinPin_wire fun w2 h2 => ?_
  simp only [wlp_bind, wlp_gpioSetValue, wlp_gpioDirectionOutput, byteBit_eq]
  refine wlp_spinPin_wire fun w3 h3 => ?_
  have hone : Sent [p.2.msb] w1 w3 := by
    simp [Sent, Grew, sentBits, h3.1, h2.1, clockFalls, doutLevel]
  have hrest : shiftOut p.1 p.2 = p.2.msb :: shiftOut (p.1 - 1) (p.2 <<< 1) := by
    rw [show p.1 = (p.1 - 1) + 1 by omega, shiftOut, Nat.add_sub_cancel]
  rw [hrest] at hbits
  rw [wlp_ite]
  constructor
  · intro hlast
    rw [hlast, show 1 - 1 = 0 by omega, shiftOut] at hbits
    simp only [wlp_bind, wlp_gpioSetValue, wlp_gpioDirectionOutput, wlp_pure, Sum.elim_inr, hbits]
    exact hsent.trans hone
  · intro hmore
    have hpos : p.1 - 1 ≠ 0 := by omega
    simp only [wlp_bind, wlp_gpioDirectionOutput, if_neg hpos, wlp_pure, Sum.elim_inl]
    refine ⟨by omega, bits ++ [p.2.msb], ?_, hsent.trans hone⟩
    rw [hbits, List.append_assoc, List.singleton_append]

theorem armSendFirmware_sent {buf : CArray} {count : ℕ} {w : World} :
    (armSendFirmware buf count).wlp (fun _ w' => Sent (payloadBits buf count) w w') w := by
  refine wlp_iter (fun pos w' => pos ≤ count ∧ Sent (payloadBits buf pos) w w')
    (fun pos w1 hI => ?_) ⟨by omega, sent_nil w⟩
  obtain ⟨hpos, hsent⟩ := hI
  rw [wlp_ite]
  constructor
  · intro hlt
    rw [wlp_bind]
    refine wlp_mono armSendFirmwareByte_sent fun _ w2 h2 => ?_
    simp only [wlp_pure, Sum.elim_inl, payloadBits, List.range_succ, List.flatMap_append,
      List.flatMap_singleton]
    exact ⟨hlt, hsent.trans h2⟩
  · intro hge
    have heq : pos = count := by omega
    simpa [heq] using hsent

/-- The acknowledge that follows a payload sends nothing. -/
theorem armSendAck_sent {w : World} : armSendAck.wlp (fun _ w' => Sent [] w w') w := by
  unfold armSendAck
  simp only [wlp_bind, wlp_gpioDirectionInput]
  refine wlp_waitPin_wire fun v w1 h1 => ?_
  cases v with
  | false => simp [Sent, grew_nil, sentBits, h1.1, clockFalls]
  | true =>
    simp only [if_true, wlp_bind, wlp_gpioSetValue]
    refine wlp_waitPin_wire fun v w2 h2 => ?_
    cases v with
    | false => simp [Sent, grew_nil, sentBits, h2.1, h1.1, clockFalls]
    | true =>
      simp only [if_true, wlp_bind, wlp_gpioSetValue]
      refine wlp_waitPin_wire fun v w3 h3 => ?_
      cases v <;> simp [Sent, grew_nil, sentBits, h3.1, h2.1, h1.1, clockFalls]

theorem armSendPayload_write_sent {cmd : U32} {count : ℕ} {buf : CArray} (hf : cmd ≠ 0xA000)
    (hw : cmd &&& 0x8000 ≠ 0) {w : World} :
    (armSendPayload cmd count buf).wlp (fun r w' => r.1 = true →
      Sent ((List.range count).flatMap fun i => shiftOut 7 (buf.val i)) w w') w := by
  unfold armSendPayload
  rw [if_pos hf, if_pos hw, wlp_bind]
  refine wlp_mono armSendBytes_sent fun ok w1 h1 => ?_
  cases ok with
  | false => simp
  | true =>
    simp only [if_true, wlp_bind]
    refine wlp_mono armSendAck_sent fun ok w2 h2 => ?_
    rw [wlp_pure]
    intro _
    simpa using (h1 rfl).trans h2

theorem armSendPayload_firmware_sent {count : ℕ} {buf : CArray} {w : World} :
    (armSendPayload 0xA000 count buf).wlp (fun _ w' => Sent (payloadBits buf count) w w') w := by
  unfold armSendPayload
  simp only [ne_eq, not_true_eq_false, if_false, wlp_bind]
  refine wlp_mono armSendFirmware_sent fun _ w1 h1 => ?_
  refine wlp_mono armSendAck_sent fun ok w2 h2 => ?_
  simpa using h1.trans h2

/-- Once the command word is sent, the rest of `arm_send_multi` is the transfer of its payload and
the release of the link. -/
theorem armSendMulti_ends {cmd : U32} {count : ℕ} {buf : CArray} {w w1 w' : World}
    {r : Bool × CArray} (h1 : CommandSent cmd w w1) :
    (armSendMulti cmd count buf).Ends w r w' ↔ ∃ w2, (armSendPayload cmd count buf).Ends w1 r w2 ∧
      w' = (w2.emit (.sync .enableIrq)).emit (.sync .mutexUnlock) := by
  unfold armSendMulti armSendMultiBody disableIrq lockCar enableIrq unlockCar
  constructor
  · intro h
    obtain ⟨_, _, hdis, h2⟩ := ends_bind.mp h
    obtain ⟨_, _, hlock, h3⟩ := ends_bind.mp h2
    obtain ⟨res, w2, hbody, h4⟩ := ends_bind.mp h3
    obtain ⟨_, _, hen, h5⟩ := ends_bind.mp h4
    obtain ⟨_, _, hun, h6⟩ := ends_bind.mp h5
    obtain ⟨ok, w3, hcmd, hpay⟩ := ends_bind.mp hbody
    rw [ends_emit] at hdis hlock hen hun
    subst hdis hlock hen hun
    obtain ⟨rfl, rfl⟩ := h1.det hcmd
    obtain ⟨rfl, rfl⟩ := ends_pure.mp h6
    exact ⟨w2, hpay, rfl⟩
  · rintro ⟨w2, hpay, rfl⟩
    refine ends_bind.mpr ⟨(), _, ends_emit.mpr rfl, ends_bind.mpr ⟨(), _, ends_emit.mpr rfl, ?_⟩⟩
    refine ends_bind.mpr ⟨r, w2, ends_bind.mpr ⟨true, w1, h1, hpay⟩, ?_⟩
    refine ends_bind.mpr ⟨(), _, ends_emit.mpr rfl, ends_bind.mpr ⟨(), _, ends_emit.mpr rfl, ?_⟩⟩
    exact ends_pure.mpr ⟨rfl, rfl⟩

/-- Every completed `arm_send_multi` of the first `count` bytes of `buf` with `cmd` sends the bits of
these bytes after its command word. -/
def SendsPayload (cmd : U32) (count : ℕ) (buf : CArray) : Prop :=
  ∀ w w1 w' buf', CommandSent cmd w w1 → (armSendMulti cmd count buf).Ends w (true, buf') w' →
    since sentBits w1 w' = (payloadBits buf count).map some

theorem sendsPayload_of_sent {cmd : U32} {count : ℕ} {buf : CArray}
    (h : ∀ w, (armSendPayload cmd count buf).wlp (fun r w' => r.1 = true →
      Sent (payloadBits buf count) w w') w) : SendsPayload cmd count buf := by
  intro w w1 w' buf' h1 hrun
  obtain ⟨w2, hpay, rfl⟩ := (armSendMulti_ends h1).mp hrun
  have hsent : Sent (payloadBits buf count) w1
      ((w2.emit (.sync .enableIrq)).emit (.sync .mutexUnlock)) := h w1 _ w2 hpay rfl
  exact hsent.since

/-- The ordinary write path loses a bit of the first byte. -/
theorem sendsPayload_write_empty {cmd : U32} {count : ℕ} {buf : CArray} (hw : cmd &&& 0x8000 ≠ 0)
    (hf : cmd ≠ 0xA000) (h : SendsPayload cmd count buf) : count = 0 := by
  let w := World.ofPeer (grantClk (holds [false, true] (.const true)))
    (grantDin (pulses (7 * count) (hold true (.const true))))
  have hpeer : Ahead w.taken _ _ := ahead_ofPeer
  obtain ⟨ok, w1, hcmd, rfl, h1⟩ := armSendCmd_peer cmd hpeer
  obtain ⟨r, w2, hpay, rfl⟩ := armSendPayload_peer buf hf hw h1
  have hrun := (armSendMulti_ends (w := w) hcmd).mpr ⟨w2, hpay, rfl⟩
  have hsent : Sent ((List.range count).flatMap fun i => shiftOut 7 (buf.val i)) w1
      ((w2.emit (.sync .enableIrq)).emit (.sync .mutexUnlock)) :=
    armSendPayload_write_sent hf hw _ w2 hpay rfl
  have hlen := congrArg List.length (hsent.since.symm.trans (h w w1 _ buf hcmd hrun))
  simp only [payloadBits, List.length_map, List.length_flatMap, length_shiftOut, length_msbFirst,
    List.map_const', List.length_range, List.sum_replicate_nat] at hlen
  omega

/-- The ordinary write path of `arm_send_multi` sends its buffer only if that is empty; the firmware
path sends every buffer. -/
theorem arm_send_multi_sends_payload_iff (count : ℕ) (buf : CArray) :
    (∀ cmd : U32, cmd &&& 0x8000 ≠ 0 → cmd ≠ 0xA000 → (SendsPayload cmd count buf ↔ count = 0)) ∧
      SendsPayload 0xA000 count buf := by
  refine ⟨fun cmd hw hf => ⟨sendsPayload_write_empty hw hf, ?_⟩, ?_⟩
  · rintro rfl
    exact sendsPayload_of_sent fun w => armSendPayload_write_sent hf hw
  · exact sendsPayload_of_sent fun w => wlp_mono armSendPayload_firmware_sent fun _ _ h _ => h

/-- A single byte, written with `0x9001`. -/
theorem arm_send_multi_sends_payload_iff_byte :
    ((0x9001 : U32) &&& 0x8000 ≠ 0 ∧ (0x9001 : U32) ≠ 0xA000) ∧
      (SendsPayload 0x9001 1 ⟨1, fun _ => 0x5A, fun _ => false⟩ ↔ 1 = 0) :=
  ⟨by decide, (arm_send_multi_sends_payload_iff 1 _).1 0x9001 (by decide) (by decide)⟩

/-- The bits of that byte do not all arrive. -/
theorem arm_send_multi_drops_bit :
    ¬ ∀ cmd count buf, cmd &&& 0x8000 ≠ 0 → cmd ≠ 0xA000 → SendsPayload cmd count buf := by
  intro h
  have hone : 1 = 0 := sendsPayload_write_empty (by decide) (by decide)
    (h 0x9001 1 ⟨1, fun _ => 0x5A, fun _ => false⟩ (by decide) (by decide))
  omega

end MtcDrivers
