import MtcDrivers.Notify.Edge
import MtcDrivers.Link.Proofs.KeptProofs

/-!
# What a status byte changes

A message other than `0xF004` leaves `sta_bits` and the events of the status byte as they are. A message
`0xF004` whose byte is received stores the byte and adds the events of its changes.
-/

namespace MtcDrivers

open Proc

/-! ## The bits -/

/-- What the code compares is whether the bits under a mask differ. -/
theorem xor_and_eq_zero_iff (a b m : U8) : (a ^^^ b) &&& m = 0 ↔ a &&& m = b &&& m := by
  have hdistrib : (a ^^^ b) &&& m = (a &&& m) ^^^ (b &&& m) := by
    ext i hi
    simp only [BitVec.getElem_and, BitVec.getElem_xor]
    exact Bool.and_xor_distrib_right _ _ _
  rw [hdistrib]
  exact BitVec.xor_eq_zero_iff

namespace StatusKind

/-- The event of a kind depends on the bit of the kind only. -/
theorem value_eq_of_not_changed (k : StatusKind) (prev bits : U8) (h : ¬ k.Changed prev bits) :
    k.value bits = k.value prev := by
  have heq : bits &&& k.mask = prev &&& k.mask := not_not.mp h
  cases k with
  | driving =>
    show (if bits &&& 0x10 ≠ 0 then (1 : U8) else 0) = if prev &&& 0x10 ≠ 0 then 1 else 0
    rw [show bits &&& 0x10 = prev &&& 0x10 from heq]
  | ipod =>
    show (if bits &&& 0x20 = 0 then (1 : U8) else 0) = if prev &&& 0x20 = 0 then 1 else 0
    rw [show bits &&& 0x20 = prev &&& 0x20 from heq]
  | ill =>
    show (if bits &&& 0x08 = 0 then (1 : U8) else 0) = if prev &&& 0x08 = 0 then 1 else 0
    rw [show bits &&& 0x08 = prev &&& 0x08 from heq]

end StatusKind

/-! ## What the other messages leave -/

/-- What the world shows of the status byte. -/
def StatusView (w : World) : U8 × List Event × Option U32 × List U8 :=
  (w.car.status.staBits, w.log.filter Event.isStatus, lastCommand w.log, statusBytes w.log)

/-- Most log entries show nothing. -/
theorem statusView_emit (w : World) {e : Event} (hstatus : ¬ e.isStatus = true) (hpayload : e.payload = [])
    (hcommand : lastCommand (e :: w.log) = lastCommand w.log) : StatusView (w.emit e) = StatusView w := by
  unfold StatusView
  rw [World.emit_log, World.emit_car, List.filter_cons_of_neg hstatus, hcommand, statusBytes, hpayload,
    ite_self, List.nil_append]

theorem statusView_wire (w : World) {e : Event} (he : e.isWire = true) :
    StatusView (w.emit e) = StatusView w := by
  apply statusView_emit
  · cases e <;> simp_all [Event.isWire, Event.isStatus]
  · cases e <;> first | rfl | simp [Event.isWire] at he
  · cases e <;> first | rfl | simp [Event.isWire] at he

theorem statusView_quiet (w : World) {e : Event} (he : e.isQuiet = true) :
    StatusView (w.emit e) = StatusView w := by
  apply statusView_emit
  · cases e <;> simp_all [Event.isQuiet, Event.isNote]
  · cases e <;> first | rfl | simp [Event.isQuiet, Event.isNote] at he
  · cases e <;> first | rfl | simp [Event.isQuiet] at he

theorem statusView_ack (w : World) (ok : Bool) : StatusView (w.emit (.ack ok)) = StatusView w :=
  statusView_emit w Bool.false_ne_true rfl rfl

/-- Transferring bits shows nothing. -/
theorem statusView_pins : KeptByPins fun w w' => StatusView w' = StatusView w where
  refl _ := rfl
  trans _ _ _ h h' := h'.trans h
  level _ _ := rfl
  clock _ := rfl
  pad _ _ _ := rfl
  wire w _ he := statusView_wire w he

/-- While another message is handled, the view stays. -/
def KeepsView (w w' : World) : Prop := lastCommand w.log ≠ some 0xF004 → StatusView w' = StatusView w

theorem KeepsView.of_eq {w w' : World} (h : StatusView w' = StatusView w) : KeepsView w w' := fun _ => h

theorem keepsView_pins : KeptByPins KeepsView where
  refl _ := .of_eq rfl
  trans w w1 w2 h h' hw := by
    have hview := h hw
    have hcmd : lastCommand w1.log = lastCommand w.log := congrArg (·.2.2.1) hview
    exact (h' (hcmd ▸ hw)).trans hview
  level _ _ := .of_eq rfl
  clock _ := .of_eq rfl
  pad _ _ _ := .of_eq rfl
  wire w _ he := .of_eq (statusView_wire w he)

theorem keepsView_received (w : World) (size off : ℕ) (ok : Bool) (data : List U8) :
    KeepsView w (w.emit (.received size off ok data)) := by
  intro hw
  have hbytes : statusBytes (.received size off ok data :: w.log) = statusBytes w.log := by
    rw [statusBytes, if_neg hw, List.nil_append]
  unfold StatusView
  rw [World.emit_log, World.emit_car, hbytes]
  rfl

/-- What the cases other than the status byte do keeps the view. -/
theorem keepsView_quiet : QuietClosed (Respects KeepsView) where
  toClosed :=
    have := keepsView_pins.toIsPreorder
    respects_closed
  car f hf := respects_modify fun w => .of_eq (by
    unfold StatusView
    rw [World.modifyCar_car, World.modifyCar_log, hf])
  note he := respects_modify fun w => .of_eq (statusView_quiet w he)
  bytes a off n := by
    have := keepsView_pins.toIsPreorder
    intro w
    refine keepsView_pins.wlp_armRevBytes (fun w => .of_eq rfl) fun ok data w1 h1 _ => ?_
    exact trans_of KeepsView h1 (keepsView_received w1 _ _ _ _)
  ack := keepsView_pins.armRevAck fun w ok => .of_eq (statusView_ack w ok)

/-! ## What a status byte adds -/

/-- The world after several log entries, oldest first. -/
def World.emits (w : World) (es : List Event) : World := { w with log := es.reverse ++ w.log }

theorem World.emits_append (w : World) (es es' : List Event) :
    (w.emits es).emits es' = w.emits (es ++ es') := by
  unfold World.emits
  rw [List.reverse_append, List.append_assoc]

/-- A message that is sent under a condition, and what follows it either way. -/
theorem wlp_vsSendThen {α : Type} {c : Prop} [Decidable c] {port : ℕ} {cmd : U8} {data : List U8}
    {rest : Link α} {Q : α → World → Prop} {w : World} :
    (if c then (do vsSend port cmd data; rest) else rest).wlp Q w ↔
      rest.wlp Q (w.emits (if c then [.vsSend port cmd data] else [])) := by
  by_cases hc : c
  · rw [if_pos hc, if_pos hc, vsSend, wlp_bind, wlp_emit]
    rfl
  · rw [if_neg hc, if_neg hc]
    rfl

theorem lastCommand_append {es : List Event} (h : ∀ e ∈ es, e.isStatus = true) (log : List Event) :
    lastCommand (es ++ log) = lastCommand log := by
  induction es with
  | nil => rfl
  | cons e es ih =>
    have hrest := ih fun e' he' => h e' (List.mem_cons_of_mem _ he')
    have he := h e List.mem_cons_self
    rw [← hrest]
    cases e <;> first | rfl | simp [Event.isStatus] at he

theorem statusBytes_append {es : List Event} (h : ∀ e ∈ es, e.isStatus = true) (log : List Event) :
    statusBytes (es ++ log) = statusBytes log := by
  induction es with
  | nil => rfl
  | cons e es ih =>
    have hrest := ih fun e' he' => h e' (List.mem_cons_of_mem _ he')
    have he := h e List.mem_cons_self
    have hpayload : e.payload = [] := by cases e <;> first | rfl | simp [Event.isStatus] at he
    rw [List.cons_append, statusBytes, hpayload, ite_self, List.nil_append, hrest]

/-- Events of the status byte are all that they add. -/
theorem statusView_emits (w : World) {es : List Event} (h : ∀ e ∈ es, e.isStatus = true) :
    StatusView (w.emits es) = (w.car.status.staBits, es.reverse ++ w.log.filter Event.isStatus,
      lastCommand w.log, statusBytes w.log) := by
  have hrev : ∀ e ∈ es.reverse, e.isStatus = true := fun e he => h e (List.mem_reverse.mp he)
  have hfilter : (es.reverse ++ w.log).filter Event.isStatus = es.reverse ++ w.log.filter Event.isStatus := by
    rw [List.filter_append, List.filter_eq_self.mpr hrev]
  unfold StatusView World.emits
  rw [hfilter, lastCommand_append hrev, statusBytes_append hrev]

/-- The events of a message, one condition after the other. -/
theorem messageEvents_eq (prev bits : U8) : messageEvents prev bits =
    (if StatusKind.driving.Changed prev bits then [StatusKind.driving.event bits] else []) ++
    (if StatusKind.ipod.Changed prev bits then [StatusKind.ipod.event bits] else []) ++
    (if StatusKind.ill.Changed prev bits then [StatusKind.ill.event bits] else []) ++
      if bits &&& 0x48 ≠ prev &&& 0x48 then [.backlightUpdate] else [] := by
  unfold messageEvents
  congr 1
  simp only [List.filter_cons, List.filter_nil, decide_eq_true_eq]
  split_ifs <;> rfl

theorem isStatus_messageEvents (prev bits : U8) : ∀ e ∈ messageEvents prev bits, e.isStatus = true := by
  intro e he
  rcases List.mem_append.mp he with he | he
  · obtain ⟨k, -, rfl⟩ := List.mem_map.mp he
    cases k <;> rfl
  · split_ifs at he
    · rw [List.mem_singleton.mp he]
      rfl
    · cases he

/-- What is shown of the messages that have been received. -/
def StatusShown (w : World) : U8 × List Event × List U8 :=
  (w.car.status.staBits, w.log.filter Event.isStatus, statusBytes w.log)

theorem statusShown_eq {w w' : World} (h : StatusView w' = StatusView w) : StatusShown w' = StatusShown w :=
  congrArg (fun v => (v.1, v.2.1, v.2.2.2)) h

/-- No byte was received, or it is stored and its events are added. -/
def StatusTaken (w w' : World) : Prop :=
  StatusShown w' = StatusShown w ∨ ∃ nv, StatusShown w' = (nv,
    (messageEvents w.car.status.staBits nv).reverse ++ w.log.filter Event.isStatus, nv :: statusBytes w.log)

/-- A changed bit of a kind, as the code finds it. -/
theorem xor_mask_iff (prev bits m : U8) : (bits ^^^ prev) &&& m ≠ 0 ↔ bits &&& m ≠ prev &&& m :=
  not_congr (xor_and_eq_zero_iff bits prev m)

/-- The bit of the illumination is one of the two that the backlight depends on. -/
theorem ill_changed_backlight {prev bits : U8} (h : StatusKind.ill.Changed prev bits) :
    bits &&& 0x48 ≠ prev &&& 0x48 := by
  intro heq
  apply h
  show bits &&& 0x08 = prev &&& 0x08
  have hmask : ∀ x : U8, x &&& 0x08 = (x &&& 0x48) &&& 0x08 := by
    intro x
    rw [BitVec.and_assoc]
    rfl
  rw [hmask bits, hmask prev, heq]

theorem tailAck_view (r : ℤ) {w w1 : World} (h : StatusTaken w w1) :
    (tailAck r).wlp (fun _ w2 => StatusTaken w w2) w1 := by
  unfold tailAck returnAck
  rw [wlp_ite]
  refine ⟨fun _ => ?_, fun _ => wlp_pure.mpr h⟩
  rw [wlp_bind]
  refine (statusView_pins.armRevAck statusView_ack).wlp fun ok w2 h2 => wlp_pure.mpr ?_
  unfold StatusTaken at h ⊢
  rw [statusShown_eq h2]
  exact h

/-- The events of the message follow its reception, and the byte is stored. -/
theorem statusTaken_of {w w1 w2 : World} {nv : U8} (hview1 : StatusView w1 = (w.car.status.staBits,
      w.log.filter Event.isStatus, lastCommand w.log, nv :: statusBytes w.log))
    (hlog : w2.log = (w1.emits (messageEvents w.car.status.staBits nv)).log)
    (hbits : w2.car.status.staBits = nv) : StatusTaken w w2 := by
  refine .inr ⟨nv, ?_⟩
  have hview := statusView_emits w1 (isStatus_messageEvents w.car.status.staBits nv)
  unfold StatusView at hview hview1
  unfold StatusShown
  rw [← hlog] at hview
  simp only [Prod.mk.injEq] at hview hview1 ⊢
  obtain ⟨-, hfilter, -, hbytes⟩ := hview
  obtain ⟨-, hfilter1, -, hbytes1⟩ := hview1
  rw [hfilter1] at hfilter
  exact ⟨hbits, hfilter, hbytes.trans hbytes1⟩

/-- What the case does after its byte has been received. -/
theorem takeStatus_taken {w w1 : World} {buf : CArray} (hview : StatusView w1 = (w.car.status.staBits,
      w.log.filter Event.isStatus, lastCommand w.log, buf.val 0 :: statusBytes w.log)) :
    (takeStatus (fun _ => emit .backlightUpdate) buf).wlp (fun _ w' => StatusTaken w w') w1 := by
  have hload : StatusView (w1.emit (.load 0 (buf.rcvd 0))) = (w.car.status.staBits,
      w.log.filter Event.isStatus, lastCommand w.log, buf.val 0 :: statusBytes w.log) :=
    (statusView_quiet w1 rfl).trans hview
  unfold takeStatus CArray.load
  simp only [wlp_bind, wlp_emit, wlp_pure, wlp_get]
  generalize w1.emit (.load 0 (buf.rcvd 0)) = w2 at hload
  generalize buf.val 0 = nv at hload
  have hbits : w2.car.status.staBits = w.car.status.staBits := congrArg (·.1) hload
  simp only [hbits, xor_mask_iff, wlp_vsSendThen]
  by_cases h48 : nv &&& 0x48 ≠ w.car.status.staBits &&& 0x48
  · simp only [if_pos h48, wlp_vsSendThen, wlp_bind, wlp_modifyStatus, wlp_emit]
    refine tailAck_view 1 (statusTaken_of hload ?_ rfl)
    rw [messageEvents_eq, if_pos h48]
    simp only [← World.emits_append]
    rfl
  · simp only [if_neg h48, wlp_bind, wlp_modifyStatus]
    refine tailAck_view 1 (statusTaken_of hload ?_ rfl)
    have hill : ¬ StatusKind.ill.Changed w.car.status.staBits nv := fun h => h48 (ill_changed_backlight h)
    rw [messageEvents_eq, if_neg h48, if_neg hill, List.append_nil, List.append_nil, ← World.emits_append]
    rfl

/-- The case of the status byte. -/
theorem mcuReport_taken (f : Frame) {w : World} (hcmd : lastCommand w.log = some 0xF004) :
    (mcuReport f 0xF004).wlp (fun _ w' => StatusTaken w w') w := by
  rw [mcuReport_status]
  unfold statusReport withPayload
  rw [wlp_bind]
  refine statusView_pins.wlp_armRevBytes (fun _ => rfl) fun ok data w1 h1 hlen => ?_
  rw [wlp_ite]
  cases ok with
  | false =>
    refine ⟨fun h => absurd h Bool.false_ne_true, fun _ => wlp_pure.mpr (.inl (statusShown_eq ?_))⟩
    exact (statusView_emit w1 (e := .received _ _ false data) Bool.false_ne_true rfl rfl).trans h1
  | true =>
    refine ⟨fun _ => ?_, fun h => absurd rfl h⟩
    obtain ⟨nv, rfl⟩ := List.length_eq_one_iff.mp (hlen rfl)
    apply takeStatus_taken
    unfold StatusView at h1 ⊢
    simp only [Prod.mk.injEq] at h1 ⊢
    obtain ⟨hbits, hfilter, hcommand, hbytes⟩ := h1
    have hreceived : statusBytes (.received (CArray.onFrame 8 f).size 0 true [nv] :: w1.log) =
        nv :: statusBytes w.log := by
      rw [statusBytes, hcommand, if_pos hcmd, hbytes]
      rfl
    exact ⟨hbits, hfilter, hcommand, hreceived⟩

/-! ## Messages -/

/-- A message takes its status byte, or it leaves what is shown. -/
theorem processMcuCommand_taken (cmd : U32) (w : World) :
    (processMcuCommand cmd).wlp (fun _ w' => StatusTaken w w') w := by
  unfold processMcuCommand
  simp only [wlp_bind, wlp_emit, wlp_popFrame]
  have hshown : StatusShown (w.emit (.command cmd)).popFrame = StatusShown w := by
    unfold StatusShown
    rw [World.popFrame_log, World.emit_log, statusBytes]
    simp only [Event.payload, ite_self, List.nil_append]
    rfl
  have htaken : ∀ w', StatusTaken (w.emit (.command cmd)).popFrame w' → StatusTaken w w' := by
    unfold StatusTaken
    unfold StatusShown at hshown ⊢
    simp only [Prod.mk.injEq] at hshown ⊢
    rw [hshown.1, hshown.2.1, hshown.2.2]
    exact fun w' h => h
  have hcommand : lastCommand (w.emit (.command cmd)).popFrame.log = some cmd := rfl
  generalize (w.emit (.command cmd)).popFrame = w1 at htaken hcommand
  by_cases hcmd : cmd = 0xF004
  · rw [hcmd] at hcommand ⊢
    exact wlp_mono (mcuReport_taken _ hcommand) fun _ w' h => htaken w' h
  · have hquiet : Respects KeepsView (mcuCase w.frames.head cmd) :=
      keepsView_quiet.mcuCase _ cmd fun h => absurd h hcmd
    refine hquiet.wlp fun _ w' h => htaken w' (.inl (statusShown_eq (h ?_)))
    rw [hcommand]
    exact fun h => hcmd (Option.some.inj h)

end MtcDrivers
