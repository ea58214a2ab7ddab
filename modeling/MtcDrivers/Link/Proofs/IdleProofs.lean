import MtcDrivers.Link.Proofs.KeptProofs

/-!
# Proofs: the bus is idle again

`MCU_CLK` released and `MCU_DOUT` driving `1` is the state in which `car_comm_init` leaves the pins.
`arm_send_cmd` returns success with the clock still driven, so the invariant is split: after it only
`MCU_DOUT` is known to be back, and each of its callers goes on with a function that releases the
clock on every exit.
-/

namespace MtcDrivers

open Proc

/-- `MCU_CLK` is an input. -/
def ClkReleased (w : World) : Prop := (w.pads .mcuClk).isOutput = false

/-- `MCU_DOUT` is an output and drives `1`. -/
def DoutHigh (w : World) : Prop := w.pads .mcuDout = ⟨true, true⟩

/-- The idle bus. -/
def BusIdle (w : World) : Prop := ClkReleased w ∧ DoutHigh w

/-- Nothing happened to the pads. -/
def SamePads (w w' : World) : Prop := w'.pads = w.pads

/-- An idle bus stays idle. -/
def KeepsIdle (w w' : World) : Prop := BusIdle w → BusIdle w'

@[simp] theorem doutHigh_emit {w : World} {e : Event} : DoutHigh (w.emit e) ↔ DoutHigh w := Iff.rfl

@[simp] theorem busIdle_emit {w : World} {e : Event} : BusIdle (w.emit e) ↔ BusIdle w := Iff.rfl

theorem busIdle_congr {w w' : World} (h : w'.pads = w.pads) : BusIdle w' ↔ BusIdle w := by
  simp [BusIdle, ClkReleased, DoutHigh, h]

theorem samePads_reads (p : Gpio) : KeptByReads p SamePads where
  refl _ := rfl
  trans _ _ _ h h' := h'.trans h
  level _ := rfl
  clock _ := rfl
  seen _ _ := rfl

section Waiting

variable {Q : Bool → World → Prop} {w : World}

theorem wlp_getPin_pads {p : Gpio} (h : ∀ v w', w'.pads = w.pads → Q v w') :
    (getPin p).wlp Q w :=
  ((samePads_reads p).readSettled 1).wlp h

theorem wlp_getPin2_pads {p : Gpio} (h : ∀ v w', w'.pads = w.pads → Q v w') :
    (getPin2 p).wlp Q w :=
  ((samePads_reads p).readSettled 5).wlp h

theorem wlp_waitPin_pads {p : Gpio} {level : Bool} (h : ∀ v w', w'.pads = w.pads → Q v w') :
    (waitLevel (getPin p) level).wlp Q w :=
  ((samePads_reads p).waitLevel 1 level).wlp h

theorem wlp_waitPin2_pads {p : Gpio} {level : Bool} (h : ∀ v w', w'.pads = w.pads → Q v w') :
    (waitLevel (getPin2 p) level).wlp Q w :=
  ((samePads_reads p).waitLevel 5 level).wlp h

theorem wlp_spinPin_pads {p : Gpio} {level : Bool} {Q : Unit → World → Prop}
    (h : ∀ w', w'.pads = w.pads → Q () w') : (spinUntil (getPin p) level).wlp Q w :=
  ((samePads_reads p).spinUntil 1 level).wlp fun _ => h

end Waiting

/-! ## Receiving -/

/-- `arm_rev_8bits` samples with the clock released and gives `MCU_DOUT` back after every bit. -/
theorem armRev8bitsPass_idle {bit_n : ℕ} {byte : U8} {w : World} (h : BusIdle w) :
    (armRev8bitsPass bit_n byte).wlp (fun _ => BusIdle) w := by
  unfold armRev8bitsPass
  rw [wlp_bind]
  refine wlp_waitPin_pads fun v w1 h1 => ?_
  rw [← busIdle_congr h1] at h
  obtain ⟨hclk, hdout⟩ := h
  unfold ClkReleased at hclk
  unfold DoutHigh at hdout
  cases v with
  | false =>
    simp [BusIdle, ClkReleased, DoutHigh, hclk, hdout]
  | true =>
    simp only [if_true, wlp_bind]
    refine wlp_getPin_pads fun din w2 h2 => ?_
    simp only [wlp_gpioSetValue]
    refine wlp_waitPin_pads fun v w3 h3 => ?_
    cases v <;> simp [BusIdle, ClkReleased, DoutHigh, h2, h3, hclk, hdout]

/-- The loop of `arm_rev_8bits` starts with the clock released, whatever it was before. -/
theorem armRev8bits_idle {w : World} (h : DoutHigh w) :
    armRev8bits.wlp (fun _ => BusIdle) w := by
  unfold armRev8bits
  simp only [wlp_bind, wlp_gpioDirectionInput]
  refine wlp_iter (fun _ => BusIdle) (fun p w1 hI => ?_) ?_
  · refine wlp_mono (armRev8bitsPass_idle hI) fun x w2 h2 => ?_
    cases x <;> exact h2
  · unfold DoutHigh at h
    simp [BusIdle, ClkReleased, DoutHigh, h]

/-- `arm_rev_bytes` keeps `MCU_DOUT` high; unless it received nothing, the clock is released. -/
theorem armRevBytes_dout {a : CArray} {off n : ℕ} {w : World} (h : DoutHigh w) :
    (armRevBytes a off n).wlp (fun r w' => DoutHigh w' ∧ (r.1 = false → BusIdle w')) w := by
  unfold armRevBytes
  rw [wlp_bind, wlp_ite]
  constructor
  · intro hn
    refine wlp_iter (fun _ => DoutHigh) (fun data w1 hI => ?_) h
    unfold armRevBytesPass
    simp only [wlp_bind, wlp_modifyCar]
    refine wlp_mono (armRev8bits_idle (w := w1.modifyCar _) hI) fun b w2 hw2 => ?_
    cases b with
    | none => simpa using ⟨hw2.2, hw2⟩
    | some b => rw [wlp_ite]; simpa using hw2.2
  · intro hn
    simpa using h

theorem armRevBytes_idle {a : CArray} {off n : ℕ} : Respects KeepsIdle (armRevBytes a off n) := by
  have hpre : IsPreorder World KeepsIdle :=
    { refl := fun _ h => h, trans := fun _ _ _ h h' hi => h' (h hi) }
  unfold armRevBytes
  refine Respects.bind (Respects.ite (Respects.iter (fun data => ?_) _) (respects_pure _)) fun r => ?_
  · refine Respects.bind (respects_modify fun _ h => h) fun _ => ?_
    refine Respects.bind (fun w b w' he hi => armRev8bits_idle hi.2 b w' he) fun b => ?_
    cases b with
    | none => exact respects_pure _
    | some b => exact Respects.ite (respects_pure _) (respects_pure _)
  · exact Respects.bind (respects_modify fun _ h => h) fun _ => respects_pure _

/-- `arm_rev_ack` releases the clock on every exit. -/
theorem armRevAck_idle {w : World} (h : DoutHigh w) : armRevAck.wlp (fun _ => BusIdle) w := by
  unfold DoutHigh at h
  unfold armRevAck
  rw [wlp_bind]
  refine wlp_waitPin_pads fun v w1 h1 => ?_
  cases v with
  | false => simp [BusIdle, ClkReleased, DoutHigh, h1, h]
  | true =>
    simp only [if_true, wlp_bind, wlp_gpioDirectionOutput]
    refine wlp_waitPin_pads fun v w2 h2 => ?_
    cases v with
    | false => simp [BusIdle, ClkReleased, DoutHigh, h1, h2, h]
    | true =>
      simp only [if_true, wlp_bind, wlp_gpioDirectionInput, wlp_udelay]
      refine wlp_getPin_pads fun din w3 h3 => ?_
      simp [BusIdle, ClkReleased, DoutHigh, h1, h2, h3, h]

theorem keepsIdle_command : CommandClosed (Respects KeepsIdle) where
  toClosed :=
    have : IsPreorder World KeepsIdle :=
      { refl := fun _ h => h, trans := fun _ _ _ h h' hi => h' (h hi) }
    respects_closed
  frame w f w' he h := by
    rw [(ends_popFrame.mp he).2]
    exact h
  car _ := respects_modify fun _ h => h
  note _ := respects_modify fun _ h => h
  bytes _ _ _ := armRevBytes_idle
  ack _ b w' he hi := armRevAck_idle hi.2 b w' he

theorem armRevPass_idle {bit_pos : ℕ} {cmd : U32} {w : World} (h : BusIdle w) :
    (armRevPass bit_pos cmd).wlp (fun _ => BusIdle) w := by
  unfold armRevPass
  rw [wlp_bind]
  refine wlp_waitPin_pads fun v w1 h1 => ?_
  rw [← busIdle_congr h1] at h
  obtain ⟨hclk, hdout⟩ := h
  unfold ClkReleased at hclk
  unfold DoutHigh at hdout
  cases v with
  | false => simp [BusIdle, ClkReleased, DoutHigh, hclk, hdout]
  | true =>
    simp only [if_true, wlp_bind]
    refine wlp_getPin_pads fun din w2 h2 => ?_
    simp only [wlp_gpioSetValue]
    refine wlp_waitPin_pads fun v w3 h3 => ?_
    cases v <;> simp [BusIdle, ClkReleased, DoutHigh, h2, h3, hclk, hdout]

/-- `arm_rev` takes the clock for its handshake and releases it before the first bit. -/
theorem armRevWord_idle {w : World} (h : BusIdle w) : armRevWord.wlp (fun _ => BusIdle) w := by
  unfold armRevWord
  rw [wlp_bind]
  refine wlp_getPin2_pads fun clk w1 h1 => ?_
  have hidle1 := (busIdle_congr h1).mpr h
  cases clk with
  | false => simpa using hidle1
  | true =>
    simp only [if_true, wlp_bind]
    refine wlp_getPin2_pads fun din w2 h2 => ?_
    have hidle2 := (busIdle_congr h2).mpr hidle1
    have hdout : w2.pads .mcuDout = ⟨true, true⟩ := hidle2.2
    cases din with
    | true => simpa using hidle2
    | false =>
      simp only [Bool.false_eq_true, if_false, wlp_bind, wlp_gpioDirectionOutput, wlp_udelay]
      refine wlp_waitPin2_pads fun v w3 h3 => ?_
      cases v with
      | false => simp [BusIdle, ClkReleased, DoutHigh, h3, hdout]
      | true =>
        simp only [if_true, wlp_bind, wlp_gpioDirectionOutput, wlp_gpioDirectionInput, wlp_udelay,
          wlp_modifyCar]
        refine wlp_iter (fun _ => BusIdle) (fun p w4 hI => ?_) ?_
        · refine wlp_mono (armRevPass_idle hI) fun x w5 h5 => ?_
          cases x <;> exact h5
        · simp [BusIdle, ClkReleased, DoutHigh, h3, hdout]

theorem armRev_idle {w : World} (h : BusIdle w) : armRev.wlp (fun _ => BusIdle) w := by
  unfold armRev
  rw [wlp_bind]
  refine wlp_mono (armRevWord_idle h) fun c w1 h1 => ?_
  cases c with
  | none => simpa using h1
  | some cmd =>
    simp only [wlp_bind, wlp_modifyCar]
    exact (keepsIdle_command.processMcuCommand cmd).wlp fun _ w2 h2 => h2 h1

/-! ## Sending -/

/-- The restart loop of `arm_send_cmd` receives whole messages, and each leaves the bus idle. -/
theorem armSendRestart_idle {w : World} (h : BusIdle w) :
    armSendRestart.wlp (fun _ => BusIdle) w := by
  refine wlp_repeatUntil BusIdle (fun w hI => ?_) h
  unfold armSendRestartPass
  rw [wlp_bind]
  refine wlp_getPin2_pads fun clk w1 h1 => ?_
  rw [← busIdle_congr h1] at hI
  cases clk with
  | false => simpa using hI
  | true =>
    simp only [if_true, wlp_bind]
    refine wlp_getPin2_pads fun din w2 h2 => ?_
    rw [← busIdle_congr h2] at hI
    cases din with
    | true => simpa using hI
    | false =>
      simp only [Bool.false_eq_true, if_false, wlp_bind, wlp_printk]
      refine wlp_mono (armRev_idle (w := w2.emit _) hI) fun r w3 h3 => ?_
      simpa using h3

/-- A pass of the bit loop keeps `MCU_DOUT` an output. The last pass leaves it high, and a failing
one also releases the clock. -/
theorem armSendPass_dout {cmd : U32} {bit_pos : ℕ} {w : World}
    (h : (w.pads .mcuDout).isOutput = true) :
    (armSendPass cmd bit_pos).wlp (fun x => x.elim
      (fun _ w' => (w'.pads .mcuDout).isOutput = true)
      (fun ok w' => DoutHigh w' ∧ (ok = false → BusIdle w'))) w := by
  unfold armSendPass sendErr0
  rw [wlp_bind]
  refine wlp_waitPin_pads fun v w1 h1 => ?_
  cases v with
  | false => simp [BusIdle, ClkReleased, DoutHigh, h1, h]
  | true =>
    simp only [if_true, wlp_bind, wlp_gpioSetValue, wlp_gpioDirectionOutput]
    refine wlp_waitPin_pads fun v w2 h2 => ?_
    cases v with
    | false => simp [BusIdle, ClkReleased, DoutHigh, h1, h2, h]
    | true => by_cases hp : bit_pos = 15 <;> simp [DoutHigh, h1, h2, h, hp]

/-- `arm_send_cmd` leaves the clock driven when it succeeds, and the bus idle when it fails. -/
theorem armSendCmd_dout {cmd : U32} {w : World} (h : BusIdle w) :
    (armSendCmd cmd).wlp (fun ok w' => DoutHigh w' ∧ (ok = false → BusIdle w')) w := by
  unfold armSendCmd
  rw [wlp_bind]
  refine wlp_mono (armSendRestart_idle h) fun free w1 h1 => ?_
  obtain ⟨hclk, hdout⟩ := h1
  unfold ClkReleased at hclk
  unfold DoutHigh at hdout
  cases free with
  | false => simp [BusIdle, ClkReleased, DoutHigh, hclk, hdout]
  | true =>
    unfold armSendWord
    simp only [if_true, wlp_bind, wlp_gpioDirectionOutput]
    refine wlp_waitPin2_pads fun v w2 h2 => ?_
    cases v with
    | false => simp [BusIdle, ClkReleased, DoutHigh, h2, hclk]
    | true =>
      simp only [if_true, wlp_bind, wlp_gpioSetValue]
      refine wlp_waitPin2_pads fun v w3 h3 => ?_
      cases v with
      | false => simp [BusIdle, ClkReleased, DoutHigh, h2, h3, hclk]
      | true =>
        simp only [if_true, wlp_bind, wlp_modifyCar, wlp_udelay]
        refine wlp_iter (fun _ w => (w.pads .mcuDout).isOutput = true)
          (fun p w4 hI => armSendPass_dout hI) ?_
        simp [h2, h3]

/-- `arm_send_ack` releases the clock first and leaves `MCU_DOUT` high on every exit. -/
theorem armSendAck_idle {w : World} (h : DoutHigh w) : armSendAck.wlp (fun _ => BusIdle) w := by
  unfold DoutHigh at h
  unfold armSendAck
  simp only [wlp_bind, wlp_gpioDirectionInput]
  refine wlp_waitPin_pads fun v w1 h1 => ?_
  cases v with
  | false => simp [BusIdle, ClkReleased, DoutHigh, h1, h]
  | true =>
    simp only [if_true, wlp_bind, wlp_gpioSetValue]
    refine wlp_waitPin_pads fun v w2 h2 => ?_
    cases v with
    | false => simp [BusIdle, ClkReleased, DoutHigh, h1, h2, h]
    | true =>
      simp only [if_true, wlp_bind, wlp_gpioSetValue]
      refine wlp_waitPin_pads fun v w3 h3 => ?_
      cases v <;> simp [BusIdle, ClkReleased, DoutHigh, h1, h2, h3, h]

theorem armSendBody_idle {cmd : U32} {w : World} (h : BusIdle w) :
    (armSendBody cmd).wlp (fun _ => BusIdle) w := by
  unfold armSendBody
  rw [wlp_bind]
  refine wlp_mono (armSendCmd_dout h) fun ok w1 h1 => ?_
  cases ok with
  | false => simpa using h1.2
  | true =>
    simp only [if_true, wlp_ite, wlp_bind]
    refine ⟨fun _ => wlp_mono (armRev8bits_idle h1.1) fun b w2 h2 => ?_,
      fun _ => wlp_mono (armSendAck_idle h1.1) fun b w2 h2 => by simpa using h2⟩
    cases b with
    | none => simpa using h2
    | some b =>
      simp only [Option.isSome_some, true_implies, not_true_eq_false, false_implies, and_true]
      exact wlp_mono (armRevAck_idle h2.2) fun b w3 h3 => by simpa using h3

theorem armSend8bitsPass_dout {bit_pos : ℕ} {byte : U8} {w : World}
    (h : (w.pads .mcuDout).isOutput = true) :
    (armSend8bitsPass bit_pos byte).wlp (fun _ w' => (w'.pads .mcuDout).isOutput = true) w := by
  unfold armSend8bitsPass
  rw [wlp_ite]
  refine ⟨fun _ => ?_, fun _ => by simpa using h⟩
  rw [wlp_bind]
  refine wlp_waitPin_pads fun v w1 h1 => ?_
  cases v with
  | false => simp [h1, h]
  | true =>
    simp only [if_true, wlp_bind, wlp_gpioSetValue, wlp_gpioDirectionOutput]
    refine wlp_waitPin_pads fun v w2 h2 => ?_
    cases v <;> simp [h1, h2, h]

theorem armSendBytes_dout {buf : CArray} {count : ℕ} {w : World} (h : DoutHigh w) :
    (armSendBytes buf count).wlp (fun ok w' => DoutHigh w' ∧ (ok = false → BusIdle w')) w := by
  refine wlp_iter (fun _ => DoutHigh) (fun pos w1 hI => ?_) h
  unfold armSendBytesPass
  rw [wlp_ite]
  refine ⟨fun _ => ?_, fun _ => by simpa using hI⟩
  simp only [wlp_bind, wlp_modifyCar]
  refine wlp_mono (Q := fun _ w' => (w'.pads .mcuDout).isOutput = true) ?_ fun ok w2 h2 => ?_
  · refine wlp_iter (fun _ w => (w.pads .mcuDout).isOutput = true) (fun p w2 h2 => ?_) ?_
    · refine wlp_mono (armSend8bitsPass_dout h2) fun x w3 h3 => ?_
      cases x <;> exact h3
    · unfold DoutHigh at hI
      simp [hI]
  · cases ok <;> simp [BusIdle, ClkReleased, DoutHigh, h2]

theorem armSendFirmwareBit_dout {bit_pos : ℕ} {byte : U8} {w : World}
    (h : (w.pads .mcuDout).isOutput = true) (hpos : bit_pos ≠ 0) :
    (armSendFirmwareBit bit_pos byte).wlp (fun x => x.elim
      (fun p w' => (w'.pads .mcuDout).isOutput = true ∧ p.1 ≠ 0) (fun _ => DoutHigh)) w := by
  unfold armSendFirmwareBit
  rw [wlp_bind]
  refine wlp_spinPin_pads fun w1 h1 => ?_
  simp only [wlp_bind, wlp_gpioSetValue, wlp_gpioDirectionOutput]
  refine wlp_spinPin_pads fun w2 h2 => ?_
  by_cases hp : bit_pos = 1
  · simp [DoutHigh, h1, h2, h, hp]
  · have hrest : bit_pos - 1 ≠ 0 := by omega
    simp [h1, h2, h, hp, hrest]

theorem armSendFirmware_dout {buf : CArray} {count : ℕ} {w : World} (h : DoutHigh w) :
    (armSendFirmware buf count).wlp (fun _ => DoutHigh) w := by
  refine wlp_iter (fun _ => DoutHigh) (fun pos w1 hI => ?_) h
  rw [wlp_ite]
  refine ⟨fun _ => ?_, fun _ => by simpa using hI⟩
  rw [wlp_bind]
  refine wlp_mono (Q := fun _ => DoutHigh) ?_ fun _ w2 h2 => by simpa using h2
  refine wlp_iter (fun p w => (w.pads .mcuDout).isOutput = true ∧ p.1 ≠ 0) (fun p w2 h2 => ?_) ?_
  · exact armSendFirmwareBit_dout h2.1 h2.2
  · unfold DoutHigh at hI
    simp [hI]

theorem armSendPayload_idle {cmd : U32} {count : ℕ} {buf : CArray} {w : World} (h : DoutHigh w) :
    (armSendPayload cmd count buf).wlp (fun _ => BusIdle) w := by
  have hack : ∀ {w'} (buf' : CArray), DoutHigh w' →
      (armSendAck >>= fun ok => (pure (ok, buf') : Link (Bool × CArray))).wlp
        (fun _ => BusIdle) w' := by
    intro w' buf' h'
    rw [wlp_bind]
    exact wlp_mono (armSendAck_idle h') fun ok w2 h2 => by simpa using h2
  unfold armSendPayload
  simp only [wlp_ite]
  refine ⟨fun _ => ⟨fun _ => ?_, fun _ => ?_⟩, fun _ => ?_⟩
  · rw [wlp_bind]
    refine wlp_mono (armSendBytes_dout h) fun ok w1 h1 => ?_
    cases ok with
    | false => simpa using h1.2
    | true => simpa using hack buf h1.1
  · rw [wlp_bind]
    refine wlp_mono (armRevBytes_dout h) fun r w1 h1 => ?_
    obtain ⟨recv, buf'⟩ := r
    cases recv with
    | false => simpa using h1.2
    | true =>
      simp only [if_true, wlp_bind]
      exact wlp_mono (armRevAck_idle h1.1) fun ok w2 h2 => by simpa using h2
  · rw [wlp_bind]
    exact wlp_mono (armSendFirmware_dout h) fun _ w1 h1 => hack _ h1

/-! ## The entry points -/

/-- `car_comm_init` sets up the idle bus, whatever the pins were before. -/
theorem carCommInit_idle {w : World} : carCommInit.wlp (fun _ => BusIdle) w := by
  unfold carCommInit
  simp [BusIdle, ClkReleased, DoutHigh]

theorem armSend_idle {cmd : U32} {w : World} (h : BusIdle w) :
    (armSend cmd).wlp (fun _ => BusIdle) w := by
  unfold armSend disableIrq lockCar enableIrq unlockCar
  simp only [wlp_bind, wlp_emit]
  exact armSendBody_idle h

theorem armSendMulti_idle {cmd : U32} {count : ℕ} {buf : CArray} {w : World} (h : BusIdle w) :
    (armSendMulti cmd count buf).wlp (fun _ => BusIdle) w := by
  unfold armSendMulti armSendMultiBody disableIrq lockCar enableIrq unlockCar
  simp only [wlp_bind, wlp_emit, wlp_pure]
  refine wlp_mono (armSendCmd_dout (w := (w.emit _).emit _) h) fun ok w1 h1 => ?_
  cases ok with
  | false => simpa using h1.2
  | true => exact armSendPayload_idle h1.1

theorem mtcCarWork_idle {w : World} (h : BusIdle w) : mtcCarWork.wlp (fun _ => BusIdle) w := by
  unfold mtcCarWork lockCar enableIrq unlockCar mtcCarDrain
  simp only [wlp_bind, wlp_emit, wlp_udelay]
  refine wlp_repeatUntil BusIdle (fun w1 hI => ?_) h
  rw [wlp_bind]
  refine wlp_getPin_pads fun din w2 h2 => ?_
  rw [← busIdle_congr h2] at hI
  cases din with
  | true => simpa using hI
  | false =>
    simp only [Bool.false_eq_true, if_false, wlp_bind]
    refine wlp_mono (armRev_idle hI) fun r w3 h3 => ?_
    rw [wlp_ite]
    exact ⟨fun _ => by simpa using h3, fun _ => by simpa using h3⟩

/-- Whatever the peer and the clock do: once `car_comm_init` has set up the bus, every call of
`arm_send`, `arm_send_multi` and `mtc_car_work` that returns leaves it idle. -/
theorem bus_idle_restored :
    carCommInit.Respects (fun _ w' => BusIdle w') ∧
      (∀ cmd, (armSend cmd).Respects KeepsIdle) ∧
      (∀ cmd count buf, (armSendMulti cmd count buf).Respects KeepsIdle) ∧
      mtcCarWork.Respects KeepsIdle := by
  refine ⟨?_, ?_, ?_, ?_⟩
  · exact fun w => carCommInit_idle
  · exact fun cmd w a w' he h => armSend_idle h a w' he
  · exact fun cmd count buf w a w' he h => armSendMulti_idle h a w' he
  · exact fun w a w' he h => mtcCarWork_idle h a w' he

end MtcDrivers
