import Mathlib.Data.Stream.Init
import MtcDrivers.Link.Peer
import MtcDrivers.Link.Wire
import MtcDrivers.Link.Proofs.WorldProofs

/-!
# Proofs: runs with a cooperating MCU

With the levels of `Peer` ahead, the transfers of the link complete: every wait sees its level at
once. `Ahead w clk din` says which levels are still to come, and each transfer consumes its part.
-/

namespace MtcDrivers

open Proc ShiftRegister History

@[simp] theorem holds_nil (s : Stream' Bool) : holds [] s = s := rfl

@[simp] theorem holds_cons (v : Bool) (vs : List Bool) (s : Stream' Bool) :
    holds (v :: vs) s = hold v (holds vs s) := rfl

/-- The levels still to come on the two pins that the MCU drives. -/
def Ahead (w : World) (clk din : Stream' Bool) : Prop :=
  w.levels .mcuClk = clk ∧ w.levels .mcuDin = din

section Ahead

variable {w : World} {clk din : Stream' Bool}

@[simp] theorem ahead_emit {e : Event} : Ahead (w.emit e) clk din ↔ Ahead w clk din := Iff.rfl

@[simp] theorem ahead_setPad {p : Gpio} {d : Pad} :
    Ahead (w.setPad p d) clk din ↔ Ahead w clk din := Iff.rfl

@[simp] theorem ahead_modifyCar {f : CarStruct → CarStruct} :
    Ahead (w.modifyCar f) clk din ↔ Ahead w clk din := Iff.rfl

@[simp] theorem ahead_popClock : Ahead w.popClock clk din ↔ Ahead w clk din := Iff.rfl

@[simp] theorem ahead_popFrame : Ahead w.popFrame clk din ↔ Ahead w clk din := Iff.rfl

theorem ahead_ofPeer : Ahead (World.ofPeer clk din) clk din := ⟨rfl, rfl⟩

theorem Ahead.readClk {v : Bool} (h : Ahead w (hold v clk) din) :
    Ahead ((w.popLevel .mcuClk).popLevel .mcuClk) clk din := by
  obtain ⟨hclk, hdin⟩ := h
  simp [Ahead, hclk, hdin, hold]

theorem Ahead.readDin {v : Bool} (h : Ahead w clk (hold v din)) :
    Ahead ((w.popLevel .mcuDin).popLevel .mcuDin) clk din := by
  obtain ⟨hclk, hdin⟩ := h
  simp [Ahead, hclk, hdin, hold]

end Ahead

/-! ## Reads that settle at once -/

section Reads

variable {w : World} {p : Gpio} {v : Bool} {s clk din : Stream' Bool} {Q : Bool → World → Prop}
  {delay : ℕ}

theorem wp_readSettled_hold (h : w.levels p = hold v s) :
    (readSettled delay p).wp Q w ↔
      Q v (((w.popLevel p).popLevel p).emit (.level p v)) := by
  unfold readSettled repeatUntil
  rw [wp_bind, wp_iter_pass]
  simp [gpioGetValue, hold, h]

theorem wp_waitLevel_hold (h : w.levels p = hold v s) :
    (waitLevel (readSettled delay p) v).wp Q w ↔
      Q true (((w.popClock.popLevel p).popLevel p).emit (.level p v)) := by
  unfold waitLevel repeatUntil getCurTimer doGettimeofday
  simp only [wp_bind, wp_get, wp_modify, wp_pure]
  rw [wp_iter_pass, wp_bind, wp_readSettled_hold (w := w.popClock) h]
  simp

theorem wp_readClk (h : Ahead w (hold v clk) din)
    (hQ : ∀ w', Ahead w' clk din → w'.log = .level .mcuClk v :: w.log → Q v w') :
    (readSettled delay .mcuClk).wp Q w :=
  (wp_readSettled_hold h.1).mpr (hQ _ h.readClk rfl)

theorem wp_readDin (h : Ahead w clk (hold v din))
    (hQ : ∀ w', Ahead w' clk din → w'.log = .level .mcuDin v :: w.log → Q v w') :
    (readSettled delay .mcuDin).wp Q w :=
  (wp_readSettled_hold h.2).mpr (hQ _ h.readDin rfl)

theorem wp_waitClk (h : Ahead w (hold v clk) din)
    (hQ : ∀ w', Ahead w' clk din → w'.log = .level .mcuClk v :: w.log → Q true w') :
    (waitLevel (readSettled delay .mcuClk) v).wp Q w :=
  (wp_waitLevel_hold h.1).mpr (hQ _ (Ahead.readClk (w := w.popClock) h) rfl)

theorem wp_waitDin (h : Ahead w clk (hold v din))
    (hQ : ∀ w', Ahead w' clk din → w'.log = .level .mcuDin v :: w.log → Q true w') :
    (waitLevel (readSettled delay .mcuDin) v).wp Q w :=
  (wp_waitLevel_hold h.2).mpr (hQ _ (Ahead.readDin (w := w.popClock) h) rfl)

end Reads

/-! ## The command word -/

section Send

variable {clk din : Stream' Bool} {w : World}

theorem armSendPass_peer {cmd : U32} {bit_pos : ℕ} (h : Ahead w clk (hold true (hold false din))) :
    (armSendPass cmd bit_pos).wp (fun x w' => x.elim
      (fun b => b = bit_pos + 1 ∧ bit_pos ≠ 15 ∧ Ahead w' clk din)
      (fun ok => ok = true ∧ bit_pos = 15 ∧ Ahead w' clk din)) w := by
  unfold armSendPass
  rw [wp_bind]
  refine wp_waitDin h fun w1 h1 _ => ?_
  simp only [if_true, wp_bind, wp_gpioSetValue, wp_gpioDirectionOutput]
  refine wp_waitDin (by simpa using h1) fun w2 h2 _ => ?_
  by_cases hp : bit_pos = 15 <;> simpa [hp] using h2

theorem armSendBits_peer {cmd : U32} {bit_pos : ℕ} (hpos : bit_pos ≤ 15)
    (h : Ahead w clk (pulses (16 - bit_pos) din)) :
    (Proc.iter (armSendPass cmd) bit_pos).wp (fun ok w' => ok = true ∧ Ahead w' clk din) w := by
  refine wp_iter
    (fun b w => b ≤ 15 ∧ Ahead w clk (pulses (16 - b) din)) (fun b _ => 16 - b)
    (fun b w1 hI => ?_) ⟨hpos, h⟩
  obtain ⟨hb, h1⟩ := hI
  rw [show 16 - b = (16 - (b + 1)) + 1 by omega] at h1
  refine wp_mono (armSendPass_peer h1) fun x w2 hx => ?_
  cases x with
  | inl b' =>
    obtain ⟨rfl, hne, h2⟩ := hx
    exact ⟨⟨by omega, h2⟩, by omega⟩
  | inr ok =>
    obtain ⟨rfl, rfl, h2⟩ := hx
    exact ⟨rfl, h2⟩

/-- A granting MCU takes every command word. -/
theorem armSendCmd_peer (cmd : U32) (h : Ahead w (grantClk clk) (grantDin din)) :
    (armSendCmd cmd).wp (fun ok w' => ok = true ∧ Ahead w' clk din) w := by
  unfold armSendCmd
  rw [wp_bind]
  refine wp_mono (Q := fun free w' =>
    free = true ∧ Ahead w' (holds [false, true] clk) (pulses 16 din)) ?_ fun free w1 hx => ?_
  · unfold armSendRestart repeatUntil
    rw [wp_iter_pass, armSendRestartPass, wp_bind]
    refine wp_readClk h fun w1 h1 _ => ?_
    simp only [if_true, wp_bind]
    refine wp_readDin h1 fun w2 h2 _ => ?_
    simpa using h2
  · obtain ⟨rfl, h1⟩ := hx
    simp only [holds_cons, holds_nil] at h1
    unfold armSendWord
    simp only [if_true, wp_bind, wp_gpioDirectionOutput]
    refine wp_waitClk (by simpa using h1) fun w2 h2 _ => ?_
    simp only [if_true, wp_bind, wp_gpioSetValue]
    refine wp_waitClk (by simpa using h2) fun w3 h3 _ => ?_
    simp only [if_true, wp_bind, wp_modifyCar, wp_udelay]
    exact armSendBits_peer (by omega) (by simpa using h3)

/-! ## The payload -/

theorem pulses_add (m n : ℕ) (s : Stream' Bool) : pulses (m + n) s = pulses m (pulses n s) := by
  induction m with
  | zero => simp [pulses]
  | succ m ih => rw [Nat.succ_add, pulses, pulses, ih]

theorem armSend8bits_peer {byte : U8} (h : Ahead w clk (pulses 7 din)) :
    (Proc.iter (fun p => armSend8bitsPass p.1 p.2) (0, byte)).wp
      (fun ok w' => ok = true ∧ Ahead w' clk din) w := by
  refine wp_iter (fun p w => p.1 ≤ 7 ∧ Ahead w clk (pulses (7 - p.1) din)) (fun p _ => 7 - p.1)
    (fun p w1 hI => ?_) ⟨by omega, h⟩
  obtain ⟨hp, h1⟩ := hI
  unfold armSend8bitsPass
  rw [wp_ite]
  constructor
  · intro hlt
    rw [show 7 - p.1 = (7 - (p.1 + 1)) + 1 by omega] at h1
    rw [wp_bind]
    refine wp_waitDin h1 fun w2 h2 _ => ?_
    simp only [if_true, wp_bind, wp_gpioSetValue, wp_gpioDirectionOutput]
    refine wp_waitDin (by simpa using h2) fun w3 h3 _ => ?_
    have hne : p.1 ≠ 7 := by omega
    have hle : p.1 + 1 ≤ 7 := by omega
    have hdec : 6 - p.1 < 7 - p.1 := by omega
    simpa [hne, hle, hdec] using h3
  · intro hge
    have hzero : 7 - p.1 = 0 := by omega
    simpa [hzero, pulses] using h1

theorem armSendBytes_peer {buf : CArray} {count : ℕ} (h : Ahead w clk (pulses (7 * count) din)) :
    (armSendBytes buf count).wp (fun ok w' => ok = true ∧ Ahead w' clk din) w := by
  refine wp_iter (fun pos w => pos ≤ count ∧ Ahead w clk (pulses (7 * (count - pos)) din))
    (fun pos _ => count - pos) (fun pos w1 hI => ?_) ⟨by omega, h⟩
  obtain ⟨hpos, h1⟩ := hI
  unfold armSendBytesPass
  rw [wp_ite]
  constructor
  · intro hlt
    rw [show 7 * (count - pos) = 7 + 7 * (count - (pos + 1)) by omega, pulses_add] at h1
    simp only [wp_bind, wp_modifyCar]
    refine wp_mono (armSend8bits_peer (w := w1.modifyCar _) h1) fun ok w2 hx => ?_
    obtain ⟨rfl, h2⟩ := hx
    have hdec : count - (pos + 1) < count - pos := by omega
    simpa [hdec, Nat.succ_le_of_lt hlt] using h2
  · intro hge
    have hzero : count - pos = 0 := by omega
    simpa [hzero, pulses] using h1

theorem armSendAck_peer (h : Ahead w (holds [false, true] clk) (hold true din)) :
    armSendAck.wp (fun ok w' => ok = true ∧ Ahead w' clk din) w := by
  simp only [holds_cons, holds_nil] at h
  unfold armSendAck
  simp only [wp_bind, wp_gpioDirectionInput]
  refine wp_waitDin (by simpa using h) fun w1 h1 _ => ?_
  simp only [if_true, wp_bind, wp_gpioSetValue]
  refine wp_waitClk (by simpa using h1) fun w2 h2 _ => ?_
  simp only [if_true, wp_bind, wp_gpioSetValue]
  refine wp_waitClk (by simpa using h2) fun w3 h3 _ => ?_
  simpa using h3

/-- A cooperating MCU takes every payload on the ordinary write path. -/
theorem armSendPayload_peer {cmd : U32} {count : ℕ} (buf : CArray) (hf : cmd ≠ 0xA000)
    (hw : cmd &&& 0x8000 ≠ 0)
    (h : Ahead w (holds [false, true] clk) (pulses (7 * count) (hold true din))) :
    (armSendPayload cmd count buf).wp (fun r _ => r = (true, buf)) w := by
  unfold armSendPayload
  rw [if_pos hf, if_pos hw, wp_bind]
  refine wp_mono (armSendBytes_peer h) fun ok w1 hx => ?_
  obtain ⟨rfl, h1⟩ := hx
  simp only [if_true, wp_bind]
  refine wp_mono (armSendAck_peer h1) fun ok w2 hx => ?_
  obtain ⟨rfl, h2⟩ := hx
  simp

end Send

/-! ## Receiving -/

section Receive

variable {clk din : Stream' Bool} {w : World}

theorem strobes_add (m n : ℕ) (s : Stream' Bool) : strobes (m + n) s = strobes m (strobes n s) := by
  induction m with
  | zero => simp [strobes]
  | succ m ih => rw [Nat.succ_add, strobes, strobes, ih]

theorem holds_append (a b : List Bool) (s : Stream' Bool) :
    holds (a ++ b) s = holds a (holds b s) :=
  List.foldr_append

theorem armRev8bitsPass_peer {bit_n : ℕ} {byte : U8} {v : Bool}
    (h : Ahead w (hold false (hold true clk)) (hold v din)) :
    (armRev8bitsPass bit_n byte).wp (fun x w' => Ahead w' clk din ∧
      x = if bit_n + 1 ≠ 8 then .inl (bit_n + 1, byte.shiftConcat v)
        else .inr (some (byte.shiftConcat v))) w := by
  unfold armRev8bitsPass
  rw [wp_bind]
  refine wp_waitClk h fun w1 h1 _ => ?_
  simp only [if_true, wp_bind]
  refine wp_readDin h1 fun w2 h2 _ => ?_
  simp only [wp_gpioSetValue, ← shiftConcat_eq]
  refine wp_waitClk (by simpa using h2) fun w3 h3 _ => ?_
  by_cases hn : bit_n = 7 <;> simpa [hn] using h3

theorem armRev8bits_peer {bits : List Bool} (hlen : bits.length = 8)
    (h : Ahead w (strobes 8 clk) (holds bits din)) :
    armRev8bits.wp (fun o w' => Ahead w' clk din ∧ o = some (shiftIn 0 bits)) w := by
  -- the loop with the bits that are still to come
  have main : ∀ (bits : List Bool) (n : ℕ) (acc : U8) (w : World), bits ≠ [] →
      n + bits.length = 8 → Ahead w (strobes bits.length clk) (holds bits din) →
      (Proc.iter (fun p : ℕ × U8 => armRev8bitsPass p.1 p.2) (n, acc)).wp
        (fun o w' => Ahead w' clk din ∧ o = some (shiftIn acc bits)) w := by
    intro bits
    induction bits with
    | nil => intro n acc w hne; exact absurd rfl hne
    | cons v bits ih =>
      intro n acc w _ hn h
      rw [List.length_cons] at hn
      refine wp_iter_pass.mpr (wp_mono (armRev8bitsPass_peer h) fun x w1 hx => ?_)
      obtain ⟨h1, rfl⟩ := hx
      cases bits with
      | nil =>
        have hlast : ¬ n + 1 ≠ 8 := by simpa using hn
        rw [if_neg hlast]
        exact ⟨h1, rfl⟩
      | cons v' bits =>
        have hmore : n + 1 ≠ 8 := by simp at hn; omega
        rw [if_pos hmore]
        exact ih (n + 1) _ w1 (by simp) (by omega) h1
  unfold armRev8bits
  simp only [wp_bind, wp_gpioDirectionInput]
  refine main bits 0 0 _ (by rintro rfl; simp at hlen) (by omega) ?_
  rw [hlen]
  simpa using h

theorem shiftIn_msbFirst (b : U8) : shiftIn 0 (msbFirst b) = b :=
  msbFirst_injective (msbFirst_shiftIn _ (by simp))

/-- A sending MCU delivers every payload. -/
theorem armRevBytes_peer (a : CArray) (off : ℕ) {data : List U8}
    (h : Ahead w (strobes (8 * data.length) clk) (holds (data.flatMap msbFirst) din)) :
    (armRevBytes a off data.length).wp
      (fun r w' => Ahead w' clk din ∧ r = (true, a.receive off data)) w := by
  have main : ∀ (rest done : List U8) (w : World), rest ≠ [] → done ++ rest = data →
      Ahead w (strobes (8 * rest.length) clk) (holds (rest.flatMap msbFirst) din) →
      (Proc.iter (armRevBytesPass data.length) done).wp
        (fun r w' => Ahead w' clk din ∧ r = (true, data)) w := by
    intro rest
    induction rest with
    | nil => intro done w hne; exact absurd rfl hne
    | cons b rest ih =>
      intro done w _ hdata h
      rw [List.length_cons, show 8 * (rest.length + 1) = 8 + 8 * rest.length by omega, strobes_add,
        List.flatMap_cons, holds_append] at h
      refine wp_iter_pass.mpr ?_
      unfold armRevBytesPass
      simp only [wp_bind, wp_modifyCar]
      refine wp_mono (armRev8bits_peer (w := w.modifyCar _) (by simp) h) fun o w1 hx => ?_
      obtain ⟨h1, rfl⟩ := hx
      rw [shiftIn_msbFirst]
      have hlen : data.length = done.length + (rest.length + 1) := by simp [← hdata]
      have hnext : (done ++ [b]) ++ rest = data := by simp [← hdata]
      cases rest with
      | nil =>
        have hlast : done.length + 1 = data.length := by simpa using hlen.symm
        have hall : done ++ [b] = data := by simpa using hnext
        simp only [hlast, hall, if_true, wp_pure, Sum.elim_inr]
        exact ⟨h1, trivial⟩
      | cons b' rest =>
        have hmore : done.length + 1 ≠ data.length := by simp at hlen; omega
        simp only [hmore, if_false, wp_pure, Sum.elim_inl]
        exact ih _ w1 (by simp) hnext h1
  unfold armRevBytes
  rw [wp_bind]
  refine wp_mono (Q := fun r w' => Ahead w' clk din ∧ r = (true, data)) ?_ fun r w1 hx => ?_
  · rw [wp_ite]
    refine ⟨fun hn => main data [] w (by rintro rfl; simp at hn) rfl h, fun hn => ?_⟩
    have hnil : data = [] := by simpa using hn
    subst hnil
    simpa [strobes] using h
  · obtain ⟨h1, rfl⟩ := hx
    simpa using h1

theorem ahead_sender (data : List U8) : Ahead (.sender data) (strobes (8 * data.length) (.const true))
    (holds (data.flatMap msbFirst) (holds [false, true, true] (.const true))) := by
  rw [← holds_append]
  exact ahead_ofPeer

theorem armRevAck_peer (clk din : Stream' Bool) {v : Bool} (h : Ahead w clk (holds [false, true, v] din)) :
    armRevAck.wp (fun ok w' => Ahead w' clk din ∧ ok = true) w := by
  simp only [holds_cons, holds_nil] at h
  unfold armRevAck
  rw [wp_bind]
  refine wp_waitDin h fun w1 h1 _ => ?_
  simp only [if_true, wp_bind, wp_gpioDirectionOutput]
  refine wp_waitDin (by simpa using h1) fun w2 h2 _ => ?_
  simp only [if_true, wp_bind, wp_gpioDirectionInput, wp_udelay]
  refine wp_readDin (by simpa using h2) fun w3 h3 _ => ?_
  simpa using h3

/-- The accumulator of `arm_rev` after one pass: a shift register of eight bits. -/
theorem armRev_shift (x : U8) (v : Bool) :
    (if v then (((x.setWidth 32 : U32) <<< 1).setWidth 8 : U8).setWidth 32 ||| 1
      else (((x.setWidth 32 : U32) <<< 1).setWidth 8 : U8).setWidth 32) =
      ((x.shiftConcat v).setWidth 32 : U32) := by
  have hshift : (((x.setWidth 32 : U32) <<< 1).setWidth 8 : U8) = x <<< 1 := by
    ext i hi
    cases i <;> simp
  rw [hshift, shiftConcat_eq]
  cases v with
  | false => rfl
  | true =>
    ext i hi
    cases i <;> simp

theorem armRevPass_peer {bit_pos : ℕ} {x : U8} {v : Bool}
    (h : Ahead w (hold false (hold true clk)) (hold v din)) :
    (armRevPass bit_pos (x.setWidth 32)).wp (fun y w' => Ahead w' clk din ∧
      Grew sampledBits [v] w w' ∧
      y = if bit_pos + 1 ≠ 16 then .inl (bit_pos + 1, (x.shiftConcat v).setWidth 32)
        else .inr (some ((x.shiftConcat v).setWidth 32))) w := by
  unfold armRevPass
  rw [wp_bind]
  refine wp_waitClk h fun w1 h1 hlog1 => ?_
  simp only [if_true, wp_bind]
  refine wp_readDin h1 fun w2 h2 hlog2 => ?_
  simp only [wp_gpioSetValue, armRev_shift]
  refine wp_waitClk (by simpa using h2) fun w3 h3 hlog3 => ?_
  have hgrew : Grew sampledBits [v] w w3 := by
    simp [Grew, sampledBits, hlog3, hlog2, hlog1, samples]
  by_cases hn : bit_pos = 15 <;> simpa [hn] using ⟨h3, hgrew⟩

/-- A calling MCU delivers the last eight bits of its command word. -/
theorem armRevWord_peer (bits : List Bool) (hlen : bits.length = 16)
    (h : Ahead w (callClk clk) (callDin bits din)) :
    armRevWord.wp (fun o w' => Ahead w' clk din ∧ latest sampledBits 16 w' = bits ∧
      o = some ((shiftIn 0 bits : U8).setWidth 32)) w := by
  have main : ∀ (bits : List Bool) (n : ℕ) (acc : U8) (w : World), bits ≠ [] →
      n + bits.length = 16 → Ahead w (strobes bits.length clk) (holds bits din) →
      (Proc.iter (fun p : ℕ × U32 => armRevPass p.1 p.2) (n, acc.setWidth 32)).wp
        (fun o w' => Ahead w' clk din ∧ Grew sampledBits bits w w' ∧
          o = some ((shiftIn acc bits).setWidth 32)) w := by
    intro bits
    induction bits with
    | nil => intro n acc w hne; exact absurd rfl hne
    | cons v bits ih =>
      intro n acc w _ hn h
      rw [List.length_cons] at hn
      refine wp_iter_pass.mpr (wp_mono (armRevPass_peer h) fun x w1 hx => ?_)
      obtain ⟨h1, hgrew, rfl⟩ := hx
      cases bits with
      | nil =>
        have hlast : ¬ n + 1 ≠ 16 := by simpa using hn
        rw [if_neg hlast]
        exact ⟨h1, hgrew, rfl⟩
      | cons v' bits =>
        have hmore : n + 1 ≠ 16 := by simp at hn; omega
        rw [if_pos hmore]
        refine wp_mono (ih (n + 1) _ w1 (by simp) (by omega) h1) fun o w2 h2 => ?_
        exact ⟨h2.1, hgrew.trans h2.2.1, h2.2.2⟩
  simp only [callDin, holds_append, holds_cons, holds_nil] at h
  unfold armRevWord
  rw [wp_bind]
  refine wp_readClk h fun w1 h1 _ => ?_
  simp only [if_true, wp_bind]
  refine wp_readDin h1 fun w2 h2 _ => ?_
  simp only [Bool.false_eq_true, if_false, wp_bind, wp_gpioDirectionOutput, wp_udelay]
  refine wp_waitDin (by simpa using h2) fun w3 h3 _ => ?_
  simp only [if_true, wp_bind, wp_gpioDirectionOutput, wp_udelay, wp_modifyCar,
    wp_gpioDirectionInput]
  have hbits : bits ≠ [] := by
    rintro rfl
    simp at hlen
  refine wp_mono (main bits 0 0 _ hbits (by omega) (by rw [hlen]; simpa using h3)) fun o w4 h4 => ?_
  refine ⟨h4.1, ?_, h4.2.2⟩
  rw [← hlen]
  exact h4.2.1.latest

end Receive

end MtcDrivers
