import MtcDrivers.Link.Status
import MtcDrivers.Link.Proofs.WorldProofs

/-!
# Proofs: properties of all link functions

A property of procedures that is closed under sequencing holds of the link functions if it holds of
what they are built from. There are two layers: the transfers of bits (`TransferClosed`), and the cases
of `process_mcu_command` on top of `arm_rev_bytes` and `arm_rev_ack` (`CommandClosed`). Loops are
hypotheses there. For a preorder on worlds that holds across the primitives, they are discharged once
(`KeptByWire` and `Kept`).
-/

namespace MtcDrivers

open Proc

/-! ## Transfers -/

/-- The log entries of the functions that transfer bits. -/
def Event.isWire : Event → Bool
  | .level .. | .setValue .. | .directionOutput .. | .directionInput .. | .printk .. => true
  | _ => false

/-- A property of procedures that holds of what transfers of bits are made of where they leave the car
struct alone. -/
structure PinClosed (C : ∀ {α : Type}, Link α → Prop) : Prop extends Closed C where
  read : ∀ delay p, C (readSettled delay p)
  wait : ∀ delay p level, C (waitLevel (readSettled delay p) level)
  setValue : ∀ p v, C (gpioSetValue p v)
  output : ∀ p v, C (gpioDirectionOutput p v)
  input : ∀ p, C (gpioDirectionInput p)
  wire : ∀ {e : Event}, e.isWire = true → C (emit e)

namespace PinClosed

variable {C : ∀ {α : Type}, Link α → Prop} (k : PinClosed C)

include k

theorem armRev8bitsPass (bit_n : ℕ) (byte : U8) : C (MtcDrivers.armRev8bitsPass bit_n byte) := by
  unfold MtcDrivers.armRev8bitsPass getPin printk
  repeat' first
    | with_reducible exact k.setValue _ _
    | with_reducible exact k.read _ _
    | with_reducible exact k.wait _ _ _
    | (with_reducible refine k.wire ?_); rfl
    | with_reducible exact k.get
    | with_reducible exact k.pure _
    | with_reducible refine k.ite ?_ ?_
    | with_reducible refine k.bind ?_ fun _ => ?_

theorem armRevAck (hack : ∀ ok, C (emit (.ack ok))) : C MtcDrivers.armRevAck := by
  unfold MtcDrivers.armRevAck getPin printk udelay
  repeat' first
    | with_reducible exact k.output _ _
    | with_reducible exact k.input _
    | with_reducible exact k.read _ _
    | with_reducible exact k.wait _ _ _
    | (with_reducible refine k.wire ?_); rfl
    | with_reducible exact hack _
    | with_reducible exact k.pure _
    | with_reducible refine k.ite ?_ ?_
    | with_reducible refine k.bind ?_ fun _ => ?_

end PinClosed

/-- A property of procedures that holds of what transfers of bits are made of. -/
structure TransferClosed (C : ∀ {α : Type}, Link α → Prop) : Prop extends Closed C where
  read : ∀ delay p, C (readSettled delay p)
  wait : ∀ delay p level, C (waitLevel (readSettled delay p) level)
  setValue : ∀ p v, C (gpioSetValue p v)
  output : ∀ p v, C (gpioDirectionOutput p v)
  input : ∀ p, C (gpioDirectionInput p)
  car : ∀ f, C (modifyCar f)
  wire : ∀ {e : Event}, e.isWire = true → C (emit e)

namespace TransferClosed

variable {C : ∀ {α : Type}, Link α → Prop} (k : TransferClosed C)

include k

theorem pins : PinClosed C := ⟨k.toClosed, k.read, k.wait, k.setValue, k.output, k.input, k.wire⟩

theorem armRev8bitsPass (bit_n : ℕ) (byte : U8) : C (MtcDrivers.armRev8bitsPass bit_n byte) :=
  k.pins.armRev8bitsPass bit_n byte

theorem armRevBytesPass (h8 : C MtcDrivers.armRev8bits) (n : ℕ) (data : List U8) :
    C (MtcDrivers.armRevBytesPass n data) := by
  refine k.bind (k.car _) fun _ => k.bind h8 fun b => ?_
  cases b with
  | none => exact k.pure _
  | some b => exact k.ite (k.pure _) (k.pure _)

theorem armRevAck (hack : ∀ ok, C (emit (.ack ok))) : C MtcDrivers.armRevAck :=
  k.pins.armRevAck hack

theorem armRevPass (bit_pos : ℕ) (cmd : U32) : C (MtcDrivers.armRevPass bit_pos cmd) := by
  unfold MtcDrivers.armRevPass getPin printk
  repeat' first
    | with_reducible exact k.setValue _ _
    | with_reducible exact k.read _ _
    | with_reducible exact k.wait _ _ _
    | (with_reducible refine k.wire ?_); rfl
    | with_reducible exact k.pure _
    | with_reducible refine k.ite ?_ ?_
    | with_reducible refine k.bind ?_ fun _ => ?_

theorem armRevWord
    (hbits : C (Proc.iter (fun p => MtcDrivers.armRevPass p.1 p.2) (0, 0))) :
    C MtcDrivers.armRevWord := by
  unfold MtcDrivers.armRevWord getPin2 printk udelay
  repeat' first
    | with_reducible exact hbits
    | with_reducible exact k.output _ _
    | with_reducible exact k.input _
    | with_reducible exact k.read _ _
    | with_reducible exact k.wait _ _ _
    | with_reducible exact k.car _
    | (with_reducible refine k.wire ?_); rfl
    | with_reducible exact k.pure _
    | with_reducible refine k.ite ?_ ?_
    | with_reducible refine k.bind ?_ fun _ => ?_

theorem armSendRestartPass (hrev : C MtcDrivers.armRev) : C MtcDrivers.armSendRestartPass := by
  unfold MtcDrivers.armSendRestartPass getPin2 printk
  repeat' first
    | with_reducible exact hrev
    | with_reducible exact k.read _ _
    | (with_reducible refine k.wire ?_); rfl
    | with_reducible exact k.pure _
    | with_reducible refine k.ite ?_ ?_
    | with_reducible refine k.bind ?_ fun _ => ?_

theorem sendErr0 : C MtcDrivers.sendErr0 :=
  k.bind (k.setValue _ _) fun _ => k.bind (k.input _) fun _ => k.bind (k.pure _) fun _ =>
    k.setValue _ _

theorem armSendPass (cmd : U32) (bit_pos : ℕ) : C (MtcDrivers.armSendPass cmd bit_pos) := by
  unfold MtcDrivers.armSendPass getPin printk
  repeat' first
    | with_reducible exact k.sendErr0
    | with_reducible exact k.setValue _ _
    | with_reducible exact k.output _ _
    | with_reducible exact k.wait _ _ _
    | (with_reducible refine k.wire ?_); rfl
    | with_reducible exact k.pure _
    | with_reducible refine k.ite ?_ ?_
    | with_reducible refine k.bind ?_ fun _ => ?_

theorem armSendWord (cmd : U32) (hbits : C (Proc.iter (MtcDrivers.armSendPass cmd) 0)) :
    C (MtcDrivers.armSendWord cmd) := by
  unfold MtcDrivers.armSendWord getPin2 printk udelay
  repeat' first
    | with_reducible exact hbits
    | with_reducible exact k.setValue _ _
    | with_reducible exact k.output _ _
    | with_reducible exact k.wait _ _ _
    | with_reducible exact k.car _
    | (with_reducible refine k.wire ?_); rfl
    | with_reducible exact k.pure _
    | with_reducible refine k.ite ?_ ?_
    | with_reducible refine k.bind ?_ fun _ => ?_

theorem armSendAck : C MtcDrivers.armSendAck := by
  unfold MtcDrivers.armSendAck getPin printk
  repeat' first
    | with_reducible exact k.setValue _ _
    | with_reducible exact k.input _
    | with_reducible exact k.wait _ _ _
    | (with_reducible refine k.wire ?_); rfl
    | with_reducible exact k.pure _
    | with_reducible refine k.ite ?_ ?_
    | with_reducible refine k.bind ?_ fun _ => ?_

theorem armSend8bitsPass (bit_pos : ℕ) (byte : U8) :
    C (MtcDrivers.armSend8bitsPass bit_pos byte) := by
  unfold MtcDrivers.armSend8bitsPass getPin printk
  repeat' first
    | with_reducible exact k.setValue _ _
    | with_reducible exact k.output _ _
    | with_reducible exact k.wait _ _ _
    | (with_reducible refine k.wire ?_); rfl
    | with_reducible exact k.pure _
    | with_reducible refine k.ite ?_ ?_
    | with_reducible refine k.bind ?_ fun _ => ?_

theorem armSendBytesPass (buf : CArray) (count pos : ℕ)
    (hbits : ∀ byte, C (Proc.iter (fun p => MtcDrivers.armSend8bitsPass p.1 p.2) (0, byte))) :
    C (MtcDrivers.armSendBytesPass buf count pos) := by
  unfold MtcDrivers.armSendBytesPass udelay
  repeat' first
    | with_reducible exact hbits _
    | with_reducible exact k.setValue _ _
    | with_reducible exact k.output _ _
    | with_reducible exact k.input _
    | with_reducible exact k.car _
    | with_reducible exact k.pure _
    | with_reducible refine k.ite ?_ ?_
    | with_reducible refine k.bind ?_ fun _ => ?_

end TransferClosed

/-- A preorder on worlds that holds across the primitives on the pins. -/
structure KeptByPins (R : World → World → Prop) : Prop extends IsPreorder World R where
  level : ∀ w p, R w (w.popLevel p)
  clock : ∀ w, R w w.popClock
  pad : ∀ w p d, R w (w.setPad p d)
  wire : ∀ w e, e.isWire = true → R w (w.emit e)

namespace KeptByPins

variable {R : World → World → Prop} (k : KeptByPins R)

include k

theorem reads (p : Gpio) : KeptByReads p R where
  toIsPreorder := k.toIsPreorder
  level w := k.level w p
  clock := k.clock
  seen w _ := k.wire w _ rfl

theorem padEmit (d : World → World) (hd : ∀ w, R w (d w)) {e : Event} (he : e.isWire = true) :
    Respects R (do Proc.modify d; MtcDrivers.emit e) :=
  have := k.toIsPreorder
  (respects_modify hd).bind fun _ => respects_modify fun w => k.wire w e he

theorem pins : PinClosed (Respects R) where
  toClosed :=
    have := k.toIsPreorder
    respects_closed
  read delay p := (k.reads p).readSettled delay
  wait delay p level := (k.reads p).waitLevel delay level
  setValue p _ := k.padEmit _ (fun w => k.pad w p _) rfl
  output p _ := k.padEmit _ (fun w => k.pad w p _) rfl
  input p := k.padEmit _ (fun w => k.pad w p _) rfl
  wire he := respects_modify fun w => k.wire w _ he

theorem armRev8bits : Respects R MtcDrivers.armRev8bits := by
  have := k.toIsPreorder
  refine (k.pins.input _).bind fun _ => Respects.iter (fun p => ?_) _
  exact k.pins.armRev8bitsPass p.1 p.2

theorem armRevAck (hack : ∀ w ok, R w (w.emit (.ack ok))) : Respects R MtcDrivers.armRevAck :=
  k.pins.armRevAck fun ok => respects_modify fun w => hack w ok

/-- `arm_rev_bytes` transfers bits and counts the bytes, and then its reception is logged; if it succeeds, it
has stored as many bytes as were asked for. -/
theorem wlp_armRevBytes
    (hcount : ∀ w, R w (w.modifyCar fun c => { c with revBytesCount := c.revBytesCount + 1 }))
    {a : CArray} {off n : ℕ} {w : World} {Q : Bool × CArray → World → Prop}
    (hQ : ∀ ok data w1, R w w1 → (ok = true → data.length = n) →
      Q (ok, a.receive off data) (w1.emit (.received a.size off ok data))) :
    (MtcDrivers.armRevBytes a off n).wlp Q w := by
  have hpre := k.toIsPreorder
  unfold MtcDrivers.armRevBytes
  rw [wlp_bind]
  refine wlp_mono (Q := fun r w1 => R w w1 ∧ (r.1 = true → r.2.length = n)) ?_ fun r w1 h1 => ?_
  · rw [wlp_ite]
    refine ⟨fun _ => ?_, fun hn => wlp_pure.mpr ⟨refl_of R w, fun _ => (not_not.mp hn).symm⟩⟩
    refine wlp_iter (fun _ w1 => R w w1) (fun data w1 hI => ?_) (refl_of R w)
    unfold MtcDrivers.armRevBytesPass
    simp only [wlp_bind, wlp_modifyCar]
    have hcounted := trans_of R hI (hcount w1)
    refine k.armRev8bits.wlp fun o w2 h2 => ?_
    have hkept := trans_of R hcounted h2
    cases o with
    | none => exact wlp_pure.mpr ⟨hkept, fun h => absurd h Bool.false_ne_true⟩
    | some b =>
      rw [wlp_ite]
      refine ⟨fun heq => wlp_pure.mpr ⟨hkept, fun _ => ?_⟩, fun _ => wlp_pure.mpr hkept⟩
      rw [List.length_append]
      exact heq
  · simp only [wlp_bind, wlp_emit, wlp_pure]
    exact hQ r.1 r.2 w1 h1.1 h1.2

end KeptByPins

/-- The bytes of an array that are used one after the other, with a preorder that holds across their entries in
the log. -/
theorem wlp_loads {R : World → World → Prop} (hR : IsPreorder World R)
    (hload : ∀ w i rcvd, R w (w.emit (.load i rcvd))) {Q : List U8 → World → Prop} {a : CArray} {n i : ℕ}
    {w : World} (hQ : ∀ w', R w w' → Q ((List.range n).map fun k => a.val (i + k)) w') :
    (a.loads i n).wlp Q w := by
  induction n generalizing Q i w with
  | zero => exact wlp_pure.mpr (hQ w (refl_of R w))
  | succ n ih =>
    rw [CArray.loads]
    simp only [wlp_bind, CArray.load, wlp_emit, wlp_pure]
    refine ih fun w1 h1 => ?_
    have hrange : (List.range (n + 1)).map (fun k => a.val (i + k)) =
        a.val i :: (List.range n).map fun k => a.val (i + 1 + k) := by
      rw [List.range_succ_eq_map, List.map_cons, List.map_map]
      simp [Function.comp_def, Nat.add_comm 1, Nat.add_assoc]
    rw [← hrange]
    exact hQ w1 (trans_of R (hload w i _) h1)

/-- A preorder on worlds that holds across the primitives that transfer bits. -/
structure KeptByWire (R : World → World → Prop) : Prop extends IsPreorder World R where
  level : ∀ w p, R w (w.popLevel p)
  clock : ∀ w, R w w.popClock
  pad : ∀ w p d, R w (w.setPad p d)
  car : ∀ w f, R w (w.modifyCar f)
  wire : ∀ w e, e.isWire = true → R w (w.emit e)

namespace KeptByWire

variable {R : World → World → Prop} (k : KeptByWire R)

include k

theorem onPins : KeptByPins R := ⟨k.toIsPreorder, k.level, k.clock, k.pad, k.wire⟩

theorem reads (p : Gpio) : KeptByReads p R := k.onPins.reads p

theorem modifyCar (f : CarStruct → CarStruct) : Respects R (MtcDrivers.modifyCar f) :=
  respects_modify fun w => k.car w f

theorem transfer : TransferClosed (Respects R) where
  toClosed := k.onPins.pins.toClosed
  read := k.onPins.pins.read
  wait := k.onPins.pins.wait
  setValue := k.onPins.pins.setValue
  output := k.onPins.pins.output
  input := k.onPins.pins.input
  car := k.modifyCar
  wire := k.onPins.pins.wire

theorem armRev8bits : Respects R MtcDrivers.armRev8bits := k.onPins.armRev8bits

theorem armRevBytes (hrec : ∀ w size off ok data, R w (w.emit (.received size off ok data)))
    (a : CArray) (off n : ℕ) : Respects R (MtcDrivers.armRevBytes a off n) := by
  have := k.toIsPreorder
  intro w
  refine k.onPins.wlp_armRevBytes (fun w => k.car w _) fun ok data w1 h1 _ => ?_
  exact trans_of R h1 (hrec w1 _ _ _ _)

theorem armRevAck (hack : ∀ w ok, R w (w.emit (.ack ok))) :
    Respects R MtcDrivers.armRevAck := k.onPins.armRevAck hack

theorem armRevWord : Respects R MtcDrivers.armRevWord := by
  have := k.toIsPreorder
  refine k.transfer.armRevWord (Respects.iter (fun p => ?_) _)
  exact k.transfer.armRevPass p.1 p.2

theorem armSendWord (cmd : U32) : Respects R (MtcDrivers.armSendWord cmd) := by
  have := k.toIsPreorder
  refine k.transfer.armSendWord cmd (Respects.iter (fun bit_pos => ?_) _)
  exact k.transfer.armSendPass cmd bit_pos

end KeptByWire

/-! ## The cases of `process_mcu_command` -/

/-- The log entries made by the cases of `process_mcu_command` themselves, outside
    `arm_rev_bytes` and `arm_rev_ack`. -/
def Event.isNote : Event → Bool
  | .level .. | .setValue .. | .directionOutput .. | .directionInput .. | .sync .. |
    .received .. | .ack .. => false
  | _ => true

/-- The log entries made by the cases of `process_mcu_command` other than the status byte. -/
def Event.isQuiet : Event → Bool
  | .command _ => false
  | e => e.isNote && !e.isStatus

theorem Event.isNote_of_isQuiet {e : Event} (he : e.isQuiet = true) : e.isNote = true := by
  cases e <;> first | rfl | simp_all [Event.isQuiet, Event.isNote]

/-- A property of procedures that holds of `arm_rev_bytes`, of `arm_rev_ack` and of what the cases of
`process_mcu_command` other than the status byte do besides calling them. -/
structure QuietClosed (C : ∀ {α : Type}, Link α → Prop) : Prop extends Closed C where
  car : ∀ f : CarStruct → CarStruct, (∀ c, (f c).status.staBits = c.status.staBits) → C (modifyCar f)
  note : ∀ {e : Event}, e.isQuiet = true → C (emit e)
  bytes : ∀ a off n, C (armRevBytes a off n)
  ack : C armRevAck

namespace QuietClosed

variable {C : ∀ {α : Type}, Link α → Prop} (k : QuietClosed C)

include k

theorem load (a : CArray) (i : ℕ) : C (a.load i) :=
  k.bind (k.note rfl) fun _ => k.pure _

theorem loads (a : CArray) (n : ℕ) : ∀ i, C (a.loads i n) := by
  induction n with
  | zero => exact fun _ => k.pure _
  | succ n ih =>
    exact fun i => k.bind (k.load a i) fun _ => k.bind (ih (i + 1)) fun _ => k.pure _

theorem loadWord (a : CArray) (i : ℕ) : C (a.loadWord i) :=
  k.bind (k.load a i) fun _ => k.bind (k.load a (i + 1)) fun _ => k.pure _

theorem returnAck : C MtcDrivers.returnAck :=
  k.bind k.ack fun _ => k.pure _

theorem retTail (cmd : U32) : C (MtcDrivers.retTail cmd) :=
  k.pure _

theorem tailAck (r : ℤ) : C (MtcDrivers.tailAck r) :=
  k.ite k.returnAck (k.pure _)

theorem errRet0 (cmd : U32) : C (MtcDrivers.errRet0 cmd) :=
  k.bind (k.note rfl) fun _ => k.pure _

theorem mcuNotice (cmd : U32) : C (MtcDrivers.mcuNotice cmd) := by
  unfold MtcDrivers.mcuNotice errAck vsSend carAddWork printk modifyStatus
  repeat' first
    | with_reducible exact k.returnAck
    | (with_reducible refine k.note ?_); rfl
    | (with_reducible refine k.car _ ?_); exact fun _ => rfl
    | with_reducible exact k.get
    | with_reducible refine k.ite ?_ ?_
    | with_reducible refine k.bind ?_ fun _ => ?_

theorem withPayload (f : Frame) (n : ℕ) {use : CArray → Link ℤ} {fail : Link ℤ}
    (hu : ∀ buf, C (use buf)) (hf : C fail) :
    C (MtcDrivers.withPayload f n use fail) := by
  refine k.bind (k.bytes _ _ _) fun p => ?_
  exact k.ite (hu p.2) hf

theorem ackThen {deliver : Link Unit} (hd : C deliver) :
    C (MtcDrivers.ackThen deliver) :=
  k.bind k.ack fun _ => k.bind hd fun _ => k.pure _

theorem forward (f : Frame) (cmd : U8) (n : ℕ) (r : ℤ) :
    C (MtcDrivers.forward f cmd n r) :=
  k.withPayload f n (fun buf => k.bind (k.loads buf n 0) fun _ => k.bind (k.note rfl) fun _ =>
    k.tailAck r) (k.pure _)

theorem mcuBlock (f : Frame) (cmd : U32) : C (MtcDrivers.mcuBlock f cmd) := by
  refine k.bind (k.bytes _ _ _) fun p => ?_
  refine k.ite ?_ (k.pure _)
  repeat' first
    | with_reducible exact k.returnAck
    | with_reducible exact k.load _ _
    | (with_reducible refine k.car _ ?_); exact fun _ => rfl
    | with_reducible exact k.pure _
    | with_reducible refine k.ite ?_ ?_
    | with_reducible refine k.bind ?_ fun _ => ?_

/-- The reports other than the status byte; the case of the status byte is a hypothesis. -/
theorem mcuReport (f : Frame) (cmd : U32) (hstatus : cmd = 0xF004 → C (MtcDrivers.mcuReport f cmd)) :
    C (MtcDrivers.mcuReport f cmd) := by
  by_cases hcmd : cmd = 0xF004
  · exact hstatus hcmd
  unfold MtcDrivers.mcuReport
  by_cases habove : cmd > 0xF003
  · have hne : cmd ≠ 0xF003 := by bv_omega
    rw [if_neg hne, if_pos habove]
    by_cases hF005 : cmd = 0xF005
    · rw [if_pos hF005]
      refine k.withPayload f 2 (fun buf => ?_) (k.retTail _)
      exact k.bind (k.loadWord _ _) fun _ => k.bind (k.car _ fun _ => rfl) fun _ => k.tailAck _
    · have hgt : cmd > 0xF005 := by bv_omega
      rw [if_neg hF005, if_pos hgt]
      refine k.withPayload f 2 (fun buf => ?_) (k.retTail _)
      exact k.bind (k.loadWord _ _) fun _ => k.bind (k.car _ fun _ => rfl) fun _ => k.tailAck _
  · rw [if_neg habove]
    unfold vsSend printk modifyStatus
    repeat' first
      | with_reducible exact k.retTail _
      | with_reducible exact k.errRet0 _
      | with_reducible exact k.tailAck _
      | with_reducible exact k.load _ _
      | with_reducible exact k.loads _ _ _
      | with_reducible exact k.loadWord _ _
      | with_reducible exact k.bytes _ _ _
      | (with_reducible refine k.note ?_); rfl
      | (with_reducible refine k.car _ ?_); exact fun _ => rfl
      | with_reducible exact k.pure _
      | with_reducible refine k.withPayload f _ (fun _ => ?_) ?_
      | with_reducible refine k.ite ?_ ?_
      | with_reducible refine k.bind ?_ fun _ => ?_

theorem mcuStream (f : Frame) (cmd : U32) (hstatus : cmd = 0xF004 → C (MtcDrivers.mcuReport f cmd)) :
    C (MtcDrivers.mcuStream f cmd) := by
  unfold MtcDrivers.mcuStream
  repeat' first
    | with_reducible exact k.mcuReport _ _ hstatus
    | with_reducible exact k.forward _ _ _ _
    | with_reducible exact k.errRet0 _
    | with_reducible exact k.tailAck _
    | with_reducible exact k.load _ _
    | with_reducible exact k.loads _ _ _
    | with_reducible exact k.loadWord _ _
    | (with_reducible refine k.note ?_); rfl
    | with_reducible exact k.pure _
    | with_reducible refine k.withPayload f _ (fun _ => ?_) ?_
    | with_reducible refine k.ackThen ?_
    | with_reducible refine k.ite ?_ ?_
    | with_reducible refine k.bind ?_ fun _ => ?_

theorem mcuPower (f : Frame) (cmd : U32) : C (MtcDrivers.mcuPower f cmd) := by
  unfold MtcDrivers.mcuPower mcuPower.camera carAddWork modifyStatus
  repeat' first
    | with_reducible exact k.returnAck
    | with_reducible exact k.errRet0 _
    | with_reducible exact k.tailAck _
    | (with_reducible refine k.note ?_); rfl
    | (with_reducible refine k.car _ ?_); exact fun _ => rfl
    | with_reducible exact k.get
    | with_reducible exact k.pure _
    | with_reducible refine k.withPayload f _ (fun _ => ?_) ?_
    | with_reducible refine k.ite ?_ ?_
    | with_reducible refine k.bind ?_ fun _ => ?_

theorem mcuRequest (f : Frame) (cmd : U32) : C (MtcDrivers.mcuRequest f cmd) := by
  unfold MtcDrivers.mcuRequest vsSendRaw carAddWork printk modifyStatus
  repeat' first
    | with_reducible exact k.mcuPower _ _
    | with_reducible exact k.forward _ _ _ _
    | with_reducible exact k.retTail _
    | with_reducible exact k.errRet0 _
    | with_reducible exact k.tailAck _
    | with_reducible exact k.load _ _
    | with_reducible exact k.loads _ _ _
    | with_reducible exact k.bytes _ _ _
    | (with_reducible refine k.note ?_); rfl
    | (with_reducible refine k.car _ ?_); exact fun _ => rfl
    | with_reducible exact k.pure _
    | with_reducible refine k.withPayload f _ (fun _ => ?_) ?_
    | with_reducible refine k.ite ?_ ?_
    | with_reducible refine k.bind ?_ fun _ => ?_

theorem mcuCase (f : Frame) (cmd : U32) (hstatus : cmd = 0xF004 → C (MtcDrivers.mcuReport f cmd)) :
    C (MtcDrivers.mcuCase f cmd) :=
  k.ite (k.mcuNotice _) <| k.ite (k.mcuBlock _ _) <|
    k.ite (k.forward _ _ _ _) <| k.ite (k.mcuStream _ _ hstatus) (k.mcuRequest _ _)

end QuietClosed

/-- A property of procedures that holds of `arm_rev_bytes`, of `arm_rev_ack` and of what the cases
    of `process_mcu_command` do besides calling them. -/
structure CommandClosed (C : ∀ {α : Type}, Link α → Prop) : Prop extends Closed C where
  frame : C popFrame
  car : ∀ f, C (modifyCar f)
  note : ∀ {e : Event}, e.isNote = true → C (emit e)
  bytes : ∀ a off n, C (armRevBytes a off n)
  ack : C armRevAck

namespace CommandClosed

variable {C : ∀ {α : Type}, Link α → Prop} (k : CommandClosed C)

include k

theorem quiet : QuietClosed C where
  toClosed := k.toClosed
  car f _ := k.car f
  note he := k.note (Event.isNote_of_isQuiet he)
  bytes := k.bytes
  ack := k.ack

theorem load (a : CArray) (i : ℕ) : C (a.load i) := k.quiet.load a i

theorem loads (a : CArray) (n : ℕ) (i : ℕ) : C (a.loads i n) := k.quiet.loads a n i

theorem loadWord (a : CArray) (i : ℕ) : C (a.loadWord i) := k.quiet.loadWord a i

theorem returnAck : C MtcDrivers.returnAck := k.quiet.returnAck

theorem retTail (cmd : U32) : C (MtcDrivers.retTail cmd) := k.quiet.retTail cmd

theorem tailAck (r : ℤ) : C (MtcDrivers.tailAck r) := k.quiet.tailAck r

theorem errRet0 (cmd : U32) : C (MtcDrivers.errRet0 cmd) := k.quiet.errRet0 cmd

theorem mcuNotice (cmd : U32) : C (MtcDrivers.mcuNotice cmd) := k.quiet.mcuNotice cmd

theorem withPayload (f : Frame) (n : ℕ) {use : CArray → Link ℤ} {fail : Link ℤ}
    (hu : ∀ buf, C (use buf)) (hf : C fail) : C (MtcDrivers.withPayload f n use fail) :=
  k.quiet.withPayload f n hu hf

theorem ackThen {deliver : Link Unit} (hd : C deliver) : C (MtcDrivers.ackThen deliver) :=
  k.quiet.ackThen hd

theorem forward (f : Frame) (cmd : U8) (n : ℕ) (r : ℤ) : C (MtcDrivers.forward f cmd n r) :=
  k.quiet.forward f cmd n r

theorem mcuBlock (f : Frame) (cmd : U32) : C (MtcDrivers.mcuBlock f cmd) := k.quiet.mcuBlock f cmd

theorem mcuReport (f : Frame) (cmd : U32) : C (MtcDrivers.mcuReport f cmd) := by
  refine k.quiet.mcuReport f cmd fun hstatus => ?_
  rw [hstatus, mcuReport_status]
  unfold statusReport takeStatus vsSend modifyStatus
  refine k.withPayload f 1 (fun buf => ?_) (k.retTail _)
  repeat' first
    | with_reducible exact k.tailAck _
    | with_reducible exact k.load _ _
    | (with_reducible refine k.note ?_); rfl
    | with_reducible exact k.car _
    | with_reducible exact k.get
    | with_reducible exact k.pure _
    | with_reducible refine k.ite ?_ ?_
    | with_reducible refine k.bind ?_ fun _ => ?_

theorem mcuStream (f : Frame) (cmd : U32) : C (MtcDrivers.mcuStream f cmd) :=
  k.quiet.mcuStream f cmd fun _ => k.mcuReport f cmd

theorem mcuPower (f : Frame) (cmd : U32) : C (MtcDrivers.mcuPower f cmd) := k.quiet.mcuPower f cmd

theorem mcuRequest (f : Frame) (cmd : U32) : C (MtcDrivers.mcuRequest f cmd) := k.quiet.mcuRequest f cmd

theorem mcuCase (f : Frame) (cmd : U32) : C (MtcDrivers.mcuCase f cmd) :=
  k.quiet.mcuCase f cmd fun _ => k.mcuReport f cmd

/-- What holds of `arm_rev_bytes`, `arm_rev_ack` and the effects of the cases holds of a whole
message. -/
theorem processMcuCommand (cmd : U32) : C (MtcDrivers.processMcuCommand cmd) :=
  k.bind (k.note rfl) fun _ => k.bind k.frame fun f => k.mcuCase f cmd

end CommandClosed

/-! ## Whole sessions -/

/-- The interrupt and mutex operations, which only the outermost functions do. -/
def Event.isSync : Event → Bool
  | .sync _ => true
  | _ => false

/-- A preorder on worlds that holds across every primitive but the interrupt and mutex operations. -/
structure Kept (R : World → World → Prop) : Prop extends IsPreorder World R where
  level : ∀ w p, R w (w.popLevel p)
  clock : ∀ w, R w w.popClock
  frame : ∀ w, R w w.popFrame
  pad : ∀ w p d, R w (w.setPad p d)
  car : ∀ w f, R w (w.modifyCar f)
  emit : ∀ w e, e.isSync = false → R w (w.emit e)

namespace Kept

variable {R : World → World → Prop} (k : Kept R)

include k

theorem wire : KeptByWire R where
  toIsPreorder := k.toIsPreorder
  level := k.level
  clock := k.clock
  pad := k.pad
  car := k.car
  wire w e he := k.emit w e (by cases e <;> first | rfl | simp [Event.isWire] at he)

theorem command : CommandClosed (Respects R) where
  toClosed :=
    have := k.toIsPreorder
    respects_closed
  frame :=
    have := k.toIsPreorder
    respects_get.bind fun _ => (respects_modify k.frame).bind fun _ => respects_pure _
  car := k.wire.modifyCar
  note {e} he := respects_modify fun w =>
    k.emit w e (by cases e <;> first | rfl | simp [Event.isNote] at he)
  bytes := k.wire.armRevBytes fun w _ _ _ _ => k.emit w _ rfl
  ack := k.wire.armRevAck fun w _ => k.emit w _ rfl

theorem armRev : Respects R MtcDrivers.armRev := by
  have := k.toIsPreorder
  refine k.wire.armRevWord.bind fun c => ?_
  cases c with
  | none => exact respects_pure _
  | some cmd => exact (k.wire.modifyCar _).bind fun _ => k.command.processMcuCommand cmd

theorem armSendRestartPass : Respects R MtcDrivers.armSendRestartPass :=
  k.wire.transfer.armSendRestartPass k.armRev

theorem armSendRestart : Respects R MtcDrivers.armSendRestart :=
  have := k.toIsPreorder
  Respects.repeatUntil k.armSendRestartPass

theorem armSendCmd (cmd : U32) : Respects R (MtcDrivers.armSendCmd cmd) :=
  have := k.toIsPreorder
  k.armSendRestart.bind fun _ => Respects.ite (k.wire.armSendWord cmd)
    ((k.wire.transfer.setValue _ _).bind fun _ => respects_pure _)

theorem armSendBody (cmd : U32) : Respects R (MtcDrivers.armSendBody cmd) := by
  have := k.toIsPreorder
  refine (k.armSendCmd cmd).bind fun _ => Respects.ite (Respects.ite ?_ ?_) (respects_pure _)
  · exact k.wire.armRev8bits.bind fun o =>
      Respects.ite (k.command.ack.bind fun _ => respects_pure _) (respects_pure _)
  · exact k.wire.transfer.armSendAck.bind fun _ => respects_pure _

theorem armSendBytes (buf : CArray) (count : ℕ) : Respects R (MtcDrivers.armSendBytes buf count) := by
  have := k.toIsPreorder
  refine Respects.iter (fun pos => k.wire.transfer.armSendBytesPass buf count pos fun byte => ?_) 0
  exact Respects.iter (fun p => k.wire.transfer.armSend8bitsPass p.1 p.2) _

theorem armSendFirmware (buf : CArray) (count : ℕ) :
    Respects R (MtcDrivers.armSendFirmware buf count) := by
  have := k.toIsPreorder
  unfold MtcDrivers.armSendFirmware armSendFirmwareBit getPin
  repeat' first
    | with_reducible exact (k.wire.reads _).spinUntil _ _
    | with_reducible exact k.wire.transfer.setValue _ _
    | with_reducible exact k.wire.transfer.output _ _
    | with_reducible exact respects_pure _
    | with_reducible refine Respects.iter (fun _ => ?_) _
    | with_reducible refine Respects.ite ?_ ?_
    | with_reducible refine Respects.bind ?_ fun _ => ?_

theorem armSendMultiBody (cmd : U32) (count : ℕ) (buf : CArray) :
    Respects R (MtcDrivers.armSendMultiBody cmd count buf) := by
  have := k.toIsPreorder
  refine (k.armSendCmd cmd).bind fun _ => Respects.ite (Respects.ite (Respects.ite ?_ ?_) ?_)
    (respects_pure _)
  · exact (k.armSendBytes buf count).bind fun _ =>
      Respects.ite (k.wire.transfer.armSendAck.bind fun _ => respects_pure _) (respects_pure _)
  · exact (k.command.bytes _ _ _).bind fun p =>
      Respects.ite (k.command.ack.bind fun _ => respects_pure _) (respects_pure _)
  · exact (k.armSendFirmware buf count).bind fun _ =>
      k.wire.transfer.armSendAck.bind fun _ => respects_pure _

theorem mtcCarDrain : Respects R MtcDrivers.mtcCarDrain := by
  have := k.toIsPreorder
  refine Respects.repeatUntil (((k.wire.reads _).readSettled _).bind fun _ =>
    Respects.ite (respects_pure _) (k.armRev.bind fun _ => ?_))
  exact Respects.ite (respects_pure _) (respects_pure _)

end Kept

end MtcDrivers
