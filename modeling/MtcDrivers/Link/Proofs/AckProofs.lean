import MtcDrivers.Link.Message
import MtcDrivers.Link.Proofs.KeptProofs
import MtcDrivers.Link.Proofs.PeerProofs

/-!
# Proofs: one acknowledge for each message

Every case of `process_mcu_command` takes the course that `caseOf` says. From this follows when a
message is acknowledged exactly once, and not at all if its payload is not received.
-/

namespace MtcDrivers

open Proc History ShiftRegister

/-! ## Steps -/

/-- Transferring bits is no step of a message. -/
theorem sameCalls_wire : KeptByWire fun w w' => callsSoFar w' = callsSoFar w where
  refl _ := rfl
  trans _ _ _ h h' := h'.trans h
  level _ _ := rfl
  clock _ := rfl
  pad _ _ _ := rfl
  car _ _ := rfl
  wire w e he := by cases e <;> first | rfl | simp [Event.isWire] at he

/-- `arm_rev_bytes` is one reception; if it succeeds, it has stored as many bytes as were asked
for. -/
theorem armRevBytes_calls {a : CArray} {off n : ℕ} {w : World} :
    (armRevBytes a off n).wlp (fun r w' => ∃ data, r.2 = a.receive off data ∧
      (r.1 = true → data.length = n) ∧ Grew callsSoFar [.payload r.1 data] w w' ∧
      .received a.size off r.1 data ∈ w'.log) w := by
  refine sameCalls_wire.onPins.wlp_armRevBytes (fun _ => rfl) fun ok data w1 hsame hlen => ?_
  refine ⟨data, rfl, hlen, ?_, by simp⟩
  simpa [Grew, callsSoFar, calls] using hsame

theorem receive_injective {a : CArray} {off : ℕ} {data data' : List U8}
    (hlen : data.length = data'.length) (h : a.receive off data = a.receive off data') :
    data = data' := by
  rw [← receive_map a off data, ← receive_map a off data', h, hlen]

/-- The reception of a payload that the MCU delivers. -/
theorem armRevBytes_delivered {a : CArray} {off n : ℕ} (data : List U8) {clk din : Stream' Bool}
    {w : World} (hn : data.length = n)
    (h : Ahead w (strobes (8 * data.length) clk) (holds (data.flatMap msbFirst) din)) :
    (armRevBytes a off n).wp (fun r w' => r = (true, a.receive off data) ∧ Ahead w' clk din ∧
      Grew callsSoFar [.payload true data] w w' ∧ .received a.size off true data ∈ w'.log) w := by
  subst hn
  refine wp_mono (wp_and_wlp (armRevBytes_peer a off h) armRevBytes_calls) fun r w' h' => ?_
  obtain ⟨⟨hahead, rfl⟩, data', hdata, hlen, hgrew, hlog⟩ := h'
  obtain rfl := receive_injective (hlen rfl).symm hdata
  exact ⟨rfl, hahead, hgrew, hlog⟩

theorem armRevAck_calls {w : World} :
    armRevAck.wlp (fun ok w' => Grew callsSoFar [.ack ok] w w') w := by
  unfold armRevAck
  rw [wlp_bind]
  refine ((sameCalls_wire.reads .mcuDin).waitLevel 1 false).wlp fun v w1 h1 => ?_
  cases v with
  | false => simpa [Grew, callsSoFar, calls] using h1
  | true =>
    simp only [if_true, wlp_bind, wlp_gpioDirectionOutput]
    refine ((sameCalls_wire.reads .mcuDin).waitLevel 1 true).wlp fun v w2 h2 => ?_
    cases v with
    | false => simpa [Grew, callsSoFar, calls] using h2.trans h1
    | true =>
      simp only [if_true, wlp_bind, wlp_gpioDirectionInput, wlp_udelay]
      refine ((sameCalls_wire.reads .mcuDin).readSettled 1).wlp fun din w3 h3 => ?_
      simpa [Grew, callsSoFar, calls] using h3.trans (h2.trans h1)

theorem loads_calls {Q : List U8 → World → Prop} {a : CArray} {n i : ℕ} {w : World}
    (hQ : ∀ w', callsSoFar w' = callsSoFar w → Q ((List.range n).map fun k => a.val (i + k)) w') :
    (a.loads i n).wlp Q w :=
  wlp_loads sameCalls_wire.toIsPreorder (fun _ _ _ => rfl) hQ

theorem wp_loads {Q : List U8 → World → Prop} {a : CArray} {n : ℕ} : ∀ {i : ℕ} {w : World},
    (∀ bs w', w'.levels = w.levels → callsSoFar w' = callsSoFar w → (∀ e ∈ w.log, e ∈ w'.log) →
      Q bs w') → (a.loads i n).wp Q w := by
  induction n generalizing Q with
  | zero =>
    intro i w hQ
    exact wp_pure.mpr (hQ [] w rfl rfl fun _ he => he)
  | succ n ih =>
    intro i w hQ
    rw [CArray.loads]
    simp only [wp_bind, CArray.load, wp_emit, wp_pure]
    refine ih fun bs w1 hlevels hcalls hlog => ?_
    exact hQ _ w1 hlevels hcalls fun e he => hlog e (List.mem_cons_of_mem _ he)

/-! ## Courses -/

/-- Between `w` and `w'` a message took the course `c` with result `v`. -/
def TookCourse (f : Frame) (c : Course) (w : World) (v : ℤ) (w' : World) : Prop :=
  ∃ new, Grew callsSoFar new w w' ∧ c.Takes f new v

/-- Between `w` and `w'` a received payload was answered, with result `v`. -/
def Answered (f : Frame) (data : List U8) (a : Answer) (w : World) (v : ℤ) (w' : World) : Prop :=
  ∃ new, Grew callsSoFar new w w' ∧ a.Gives f data new v

theorem returnAck_notice {f : Frame} {w : World} :
    returnAck.wlp (TookCourse f .notice w) w := by
  unfold returnAck
  rw [wlp_bind]
  refine wlp_mono armRevAck_calls fun ok w1 h1 => ?_
  exact wlp_pure.mpr ⟨_, h1, ok, rfl, rfl⟩

theorem returnAck_answered (f : Frame) (data : List U8) {w w1 : World}
    (h : callsSoFar w1 = callsSoFar w) : returnAck.wlp (Answered f data .result w) w1 := by
  unfold returnAck
  rw [wlp_bind]
  refine wlp_mono armRevAck_calls fun ok w2 h2 => ?_
  exact wlp_pure.mpr ⟨_, Grew.trans (grew_nil.mpr h) h2, ok, rfl, rfl⟩

theorem tailAck_answered {f : Frame} {data : List U8} {w w1 : World}
    (h : callsSoFar w1 = callsSoFar w) : (tailAck 1).wlp (Answered f data .result w) w1 := by
  unfold tailAck
  rw [if_pos (by decide)]
  exact returnAck_answered f data h

theorem tailAck_ifR {f : Frame} {data : List U8} {w w1 : World}
    (h : callsSoFar w1 = callsSoFar w) : (tailAck f.r).wlp (Answered f data .ifR w) w1 := by
  unfold tailAck
  rw [wlp_ite]
  refine ⟨fun hr => ?_, fun hr => ?_⟩
  · refine wlp_mono (returnAck_answered f data h) fun v w2 h2 => ?_
    obtain ⟨new, hgrew, hgives⟩ := h2
    exact ⟨new, hgrew, by simpa [Answer.Gives, hr] using hgives⟩
  · refine wlp_pure.mpr ⟨[], grew_nil.mpr h, ?_⟩
    simp [Answer.Gives, not_not.mp hr]

/-- A reception, and what is done with the bytes or without them. -/
theorem payload_course {f : Frame} {buf : CArray} {off n : ℕ} {use : Bool × CArray → Link ℤ}
    {fail : Link ℤ} {fails : ℤ} {a : Answer} {w : World}
    (hfail : ∀ w, fail.wlp (fun v w' => v = fails ∧ callsSoFar w' = callsSoFar w) w)
    (huse : ∀ data w, data.length = n →
      (use (true, buf.receive off data)).wlp (Answered f data a w) w) :
    (armRevBytes buf off n >>= fun r => if r.1 then use r else fail).wlp
      (fun v w' => ∃ new, Grew callsSoFar new w w' ∧ PayloadThen fails a f new v) w := by
  rw [wlp_bind]
  refine wlp_mono armRevBytes_calls fun r w1 h1 => ?_
  obtain ⟨ok, buf⟩ := r
  obtain ⟨data, rfl, hlen, hgrew, -⟩ := h1
  cases ok with
  | true =>
    refine wlp_mono (huse data w1 (hlen rfl)) fun v w2 h2 => ?_
    obtain ⟨new, hgrew2, hgives⟩ := h2
    exact ⟨_, hgrew.trans hgrew2, Or.inr ⟨data, new, rfl, hgives⟩⟩
  | false =>
    refine wlp_mono (hfail w1) fun v w2 h2 => ?_
    obtain ⟨rfl, hsame⟩ := h2
    exact ⟨_, Grew.trans hgrew (grew_nil.mpr hsame), Or.inl ⟨data, rfl, rfl⟩⟩

/-- A case with a payload of known length. -/
theorem withPayload_course {f : Frame} {n : ℕ} {use : CArray → Link ℤ} {fail : Link ℤ} {fails : ℤ}
    {a : Answer} {w : World}
    (hfail : ∀ w, fail.wlp (fun v w' => v = fails ∧ callsSoFar w' = callsSoFar w) w)
    (huse : ∀ data w, data.length = n →
      (use ((CArray.onFrame 8 f).receive 0 data)).wlp (Answered f data a w) w) :
    (withPayload f n use fail).wlp
      (fun v w' => ∃ new, Grew callsSoFar new w w' ∧ PayloadThen fails a f new v) w :=
  payload_course hfail huse

theorem returnZero_fails (w : World) :
    (pure 0 : Link ℤ).wlp (fun v w' => v = 0 ∧ callsSoFar w' = callsSoFar w) w :=
  wlp_pure.mpr ⟨rfl, rfl⟩

/-- A case that acknowledges before it delivers. -/
theorem ackThen_answered {f : Frame} {data : List U8} {deliver : Link Unit} {w : World}
    (hd : ∀ w, deliver.wlp (fun _ w' => callsSoFar w' = callsSoFar w) w) :
    (ackThen deliver).wlp (Answered f data .one w) w := by
  unfold ackThen
  simp only [wlp_bind]
  refine wlp_mono armRevAck_calls fun ok w1 h1 => ?_
  refine wlp_mono (hd w1) fun _ w2 h2 => ?_
  exact wlp_pure.mpr ⟨_, Grew.trans h1 (grew_nil.mpr h2), ok, rfl, rfl⟩

theorem forward_course {f : Frame} {cmd : U8} {n : ℕ} {w : World} :
    (forward f cmd n 1).wlp (TookCourse f (.fixed .result) w) w := by
  refine withPayload_course returnZero_fails fun data w1 _ => ?_
  rw [wlp_bind]
  refine loads_calls fun w2 h2 => ?_
  simp only [vsSend, wlp_bind, wlp_emit]
  exact tailAck_answered h2

theorem mcuNotice_course {f : Frame} {cmd : U32} {w : World} :
    (mcuNotice cmd).wlp (TookCourse f .notice w) w := by
  unfold mcuNotice errAck vsSend carAddWork
  simp only [wlp_ite, wlp_bind, wlp_emit, wlp_printk, wlp_get, wlp_modifyStatus]
  repeat' first
    | exact returnAck_notice
    | exact returnAck_notice (w := World.emit _ _)
    | exact returnAck_notice (w := World.modifyCar _ _)
    | with_reducible refine ⟨fun _ => ?_, fun _ => ?_⟩

theorem mcuBlock_course {f : Frame} {cmd : U32} {w : World} :
    (mcuBlock f cmd).wlp (TookCourse f (.fixed .result) w) w := by
  refine payload_course returnZero_fails fun data w1 _ => ?_
  have hack : ∀ w2, callsSoFar w2 = callsSoFar w1 → returnAck.wlp (Answered f data .result w1) w2 :=
    fun w2 h2 => returnAck_answered f data h2
  simp only [wlp_bind, wlp_ite, CArray.load, wlp_emit, wlp_pure, wlp_modifyCar]
  exact ⟨fun _ => ⟨fun _ => hack _ rfl, fun _ => hack _ rfl⟩, fun _ => hack _ rfl⟩

/-! ## The cases of `process_mcu_command` -/

section Cases

variable {f : Frame} {cmd : U32} {w : World}

theorem notice_course (h : cmd ∈ noticeCommands) :
    (mcuCase f cmd).wlp (TookCourse f .notice w) w := by
  simp only [noticeCommands, List.mem_cons, List.not_mem_nil, or_false] at h
  repeat' rcases h with rfl | h
  all_goals simp +decide only [mcuCase, mcuRequest, mcuPower, if_true, if_false]
  all_goals
    first
      | exact mcuNotice_course
      | simp only [mcuPower.camera, wlp_bind, wlp_ite, wlp_get, wlp_modifyStatus, carAddWork,
          wlp_emit]
  · exact returnAck_notice (w := World.emit _ _)
  · exact returnAck_notice (w := World.emit _ _)
  · exact ⟨fun _ => returnAck_notice (w := (World.modifyCar _ _).emit _),
      fun _ => returnAck_notice (w := (World.modifyCar _ _).emit _)⟩
  · exact returnAck_notice (w := World.emit _ _)
  · exact returnAck_notice (w := World.emit _ _)
  · exact ⟨fun _ => returnAck_notice (w := (World.modifyCar _ _).emit _),
      fun _ => returnAck_notice (w := (World.modifyCar _ _).emit _)⟩

/-- A case that uses its payload without a step and then acknowledges. -/
theorem plainUse_course {n : ℕ} {use : CArray → Link ℤ}
    (huse : ∀ data w, (use ((CArray.onFrame 8 f).receive 0 data)).wlp (Answered f data .result w) w) :
    (withPayload f n use (pure 0)).wlp (TookCourse f (.fixed .result) w) w :=
  withPayload_course returnZero_fails fun data w1 _ => huse data w1

theorem plain_course (h : cmd ∈ plainCommands) :
    (mcuCase f cmd).wlp (TookCourse f (.fixed .result) w) w := by
  simp only [plainCommands, List.mem_cons, List.not_mem_nil, or_false] at h
  rcases h with rfl | rfl | rfl | rfl | rfl | rfl | rfl | rfl | rfl | rfl
  all_goals
    simp +decide only [mcuCase, mcuStream, mcuReport, mcuRequest, mcuPower, if_true, if_false]
  · refine plainUse_course fun data w1 => ?_
    simp only [wlp_bind, CArray.loadWord, CArray.load, wlp_emit, wlp_pure, wlp_modifyStatus]
    refine loads_calls fun w2 h2 => ?_
    simp only [vsSend, wlp_emit]
    exact tailAck_answered h2
  · refine plainUse_course fun data w1 => ?_
    simp only [wlp_bind, CArray.load, wlp_emit, wlp_pure]
    refine tailAck_answered ?_
    simp only [callsSoFar, World.emit_log, calls]
  · refine plainUse_course fun data w1 => ?_
    simp only [wlp_bind, CArray.load, wlp_emit, wlp_pure]
    refine tailAck_answered ?_
    simp only [callsSoFar, World.emit_log, calls]
  · exact forward_course
  · exact forward_course
  · exact forward_course
  · exact plainUse_course fun data w1 => tailAck_answered rfl
  · refine plainUse_course fun data w1 => ?_
    simp only [wlp_bind, CArray.load, wlp_emit, wlp_pure, wlp_printk, carAddWork]
    refine tailAck_answered ?_
    simp only [callsSoFar, World.emit_log, calls]
  · refine plainUse_course fun data w1 => ?_
    simp only [wlp_bind, CArray.load, wlp_emit, wlp_pure, carAddWork]
    refine tailAck_answered ?_
    simp only [callsSoFar, World.emit_log, calls]
  · refine plainUse_course fun data w1 => ?_
    simp only [wlp_bind, wlp_emit, wlp_modifyStatus, carAddWork]
    refine tailAck_answered ?_
    simp only [callsSoFar, World.emit_log, World.modifyCar_log, calls]

theorem stream_course (h : cmd ∈ streamCommands) :
    (mcuCase f cmd).wlp (TookCourse f (.fixed .one) w) w := by
  simp only [streamCommands, List.mem_cons, List.not_mem_nil, or_false] at h
  rcases h with rfl | rfl | rfl | rfl
  all_goals
    simp +decide only [mcuCase, mcuStream, if_true, if_false]
    refine withPayload_course returnZero_fails fun data w1 _ => ackThen_answered fun w2 => ?_
    simp only [wlp_bind, CArray.loadWord, CArray.load, wlp_emit, wlp_pure]
  · rfl
  · rfl
  · exact loads_calls fun w3 h3 => h3
  · exact loads_calls fun w3 h3 => h3

theorem retTail_fails (w : World) (h : (if cmd.toInt < 0 then 0 else (cmd &&& 0x8000).toNat : ℤ) = 0x8000) :
    (retTail cmd).wlp (fun v w' => v = 0x8000 ∧ callsSoFar w' = callsSoFar w) w :=
  wlp_pure.mpr ⟨h, rfl⟩

/-- The reports of a word. -/
theorem wordReport_course (h : (if cmd.toInt < 0 then 0 else (cmd &&& 0x8000).toNat : ℤ) = 0x8000)
    (report : U32 → CarStatus → CarStatus) :
    (withPayload f 2 (fun buf => do
      let v ← buf.loadWord 0
      modifyStatus (report v)
      tailAck 1) (retTail cmd)).wlp (TookCourse f .report w) w := by
  refine withPayload_course (fun w => retTail_fails w h) fun data w1 _ => ?_
  simp only [wlp_bind, CArray.loadWord, CArray.load, wlp_emit, wlp_pure, wlp_modifyStatus]
  refine tailAck_answered ?_
  simp only [callsSoFar, World.emit_log, World.modifyCar_log, calls]

theorem report_course (h : cmd ∈ reportCommands) :
    (mcuCase f cmd).wlp (TookCourse f .report w) w := by
  simp only [reportCommands, List.mem_cons, List.not_mem_nil, or_false] at h
  rcases h with rfl | rfl | rfl | rfl | rfl | rfl
  all_goals
    simp +decide only [mcuCase, mcuStream, mcuReport, mcuRequest, if_true, if_false, ne_eq]
  · exact wordReport_course (by decide) fun v s => { s with intval1 := if v.udiv 3 = 0 then 1 else v.udiv 3 }
  · exact wordReport_course (by decide) fun v s => { s with intval2 := if v.udiv 3 = 0 then 1 else v.udiv 3 }
  · refine withPayload_course (fun w => retTail_fails w (by decide)) fun data w1 _ => ?_
    simp only [wlp_bind, CArray.load, wlp_emit, wlp_pure, wlp_get, wlp_ite, wlp_modifyStatus, vsSend]
    repeat' first
      | with_reducible refine ⟨fun _ => ?_, fun _ => ?_⟩
      | exact tailAck_answered
          (by simp only [callsSoFar, World.emit_log, World.modifyCar_log, calls])
  · exact wordReport_course (by decide) fun v s => { s with intval4 := if v = 0 then 1 else v }
  · exact wordReport_course (by decide) fun v s =>
      { s with wipeFlag := if v.setWidth 8 = 0 then 1 else v.setWidth 8 }
  · refine payload_course (fun w => retTail_fails w (by decide)) fun data w1 _ => ?_
    rw [wlp_bind]
    refine loads_calls fun w2 h2 => ?_
    simp only [wlp_bind, wlp_modifyStatus]
    refine tailAck_answered ?_
    simpa only [callsSoFar, World.modifyCar_log] using h2

/-- The length byte, and what is done when it has arrived. -/
theorem sized_length {a : CArray} {use : Bool × CArray → Link ℤ}
    (hcmd : (if cmd.toInt < 0 then 0 else (cmd &&& 0x8000).toNat : ℤ) = 0x8000)
    (huse : ∀ len w1, Grew callsSoFar [.payload true len] w w1 →
      (use (true, a.receive 0 len)).wlp (TookCourse f .sized w) w1) :
    (armRevBytes a 0 1 >>= fun r => if r.1 then use r else retTail cmd).wlp
      (TookCourse f .sized w) w := by
  rw [wlp_bind]
  refine wlp_mono armRevBytes_calls fun r w1 h1 => ?_
  obtain ⟨ok, buf⟩ := r
  obtain ⟨len, rfl, -, hgrew, -⟩ := h1
  cases ok with
  | true => exact huse len w1 hgrew
  | false =>
    refine wlp_mono (retTail_fails w1 hcmd) fun v w2 h2 => ?_
    exact ⟨_, Grew.trans hgrew (grew_nil.mpr h2.2), Or.inl ⟨len, rfl, h2.1⟩⟩

/-- The block behind a length byte that has arrived. -/
theorem sized_block {len : List U8} {w1 w2 : World} (hgrew : Grew callsSoFar [.payload true len] w w1)
    (hsame : callsSoFar w2 = callsSoFar w1) (a : CArray) (n : ℕ) (use : Bool × CArray → Link ℤ)
    (huse : ∀ r w, (use r).wlp (Answered f [] .result w) w) :
    (armRevBytes a 0 n >>= fun r => if r.1 then use r else pure 0).wlp (TookCourse f .sized w) w2 := by
  rw [wlp_bind]
  refine wlp_mono armRevBytes_calls fun r w3 h3 => ?_
  obtain ⟨ok, buf⟩ := r
  obtain ⟨data, rfl, -, hgrew3, -⟩ := h3
  have hboth := hgrew.trans (Grew.trans (grew_nil.mpr hsame) hgrew3)
  cases ok with
  | false => exact wlp_pure.mpr ⟨_, hboth, Or.inr (Or.inl ⟨len, data, rfl, rfl⟩)⟩
  | true =>
    refine wlp_mono (huse _ w3) fun v w4 h4 => ?_
    obtain ⟨new, hgrew4, ok, rfl, hv⟩ := h4
    exact ⟨_, hboth.trans hgrew4, Or.inr (Or.inr ⟨len, data, ok, rfl, hv⟩)⟩

theorem sized_course (h : cmd ∈ sizedCommands) :
    (mcuCase f cmd).wlp (TookCourse f .sized w) w := by
  simp only [sizedCommands, List.mem_cons, List.not_mem_nil, or_false] at h
  rcases h with rfl | rfl
  · simp +decide only [mcuCase, mcuStream, mcuReport, if_true, if_false]
    refine sized_length (by decide) fun len w1 hgrew => ?_
    simp only [wlp_bind, CArray.load, wlp_emit, wlp_pure]
    refine wlp_bind.mp (sized_block hgrew ?_ _ _ _ fun buf w => ?_)
    · simp only [callsSoFar, World.emit_log, calls]
    · simp only [wlp_bind, wlp_printk]
      exact tailAck_answered rfl
  · simp +decide only [mcuCase, mcuRequest, if_true, if_false]
    refine sized_length (by decide) fun len w1 hgrew => ?_
    simp only [wlp_bind, CArray.load, wlp_emit, wlp_pure, withPayload]
    refine wlp_bind.mp (sized_block hgrew ?_ _ _ _ fun buf w => ?_)
    · simp only [callsSoFar, World.emit_log, calls]
    · rw [wlp_bind]
      refine loads_calls fun w2 h2 => ?_
      simp only [vsSendRaw, wlp_bind, wlp_emit]
      exact tailAck_answered h2

theorem unset_course (h : cmd ∈ unsetCommands) :
    (mcuCase f cmd).wlp (TookCourse f (.fixed .ifR) w) w := by
  simp only [unsetCommands, List.mem_cons, List.not_mem_nil, or_false] at h
  rcases h with rfl | rfl
  all_goals
    simp +decide only [mcuCase, mcuRequest, if_true, if_false]
    refine withPayload_course returnZero_fails fun data w1 _ => ?_
    rw [wlp_bind]
  · refine loads_calls fun w2 h2 => ?_
    simp only [vsSend, wlp_bind, wlp_emit]
    exact tailAck_ifR h2
  · simp only [wlp_bind, CArray.load, wlp_emit, wlp_pure, wlp_printk, carAddWork]
    exact tailAck_ifR rfl

theorem byte_course (h : cmd ∈ byteCommands) :
    (mcuCase f cmd).wlp (TookCourse f (.fixed .ifByte) w) w := by
  obtain rfl := List.mem_singleton.mp h
  simp +decide only [mcuCase, mcuRequest, if_true, if_false]
  refine withPayload_course returnZero_fails fun data w1 hlen => ?_
  obtain ⟨b, rfl⟩ := List.length_eq_one_iff.mp hlen
  have hval : ((CArray.onFrame 8 f).receive 0 [b]).val 0 = b := by simp [receive_val]
  have htail : ∀ w2, callsSoFar w2 = callsSoFar w1 →
      (tailAck b.toNat).wlp (Answered f [b] .ifByte w1) w2 := by
    intro w2 h2
    by_cases hb : b = 0
    · subst hb
      exact wlp_pure.mpr ⟨[], grew_nil.mpr h2, by simp [Answer.Gives]⟩
    · have hne : (b.toNat : ℤ) ≠ 0 := by
        simpa using fun h => hb (BitVec.eq_of_toNat_eq h)
      rw [tailAck, if_pos hne]
      refine wlp_mono (returnAck_answered f [b] h2) fun v w3 h3 => ?_
      obtain ⟨new, hgrew, hgives⟩ := h3
      have hhead : ([b] : List U8).head? ≠ some 0 := by simpa using hb
      exact ⟨new, hgrew, by rw [Answer.Gives, if_neg hhead]; exact hgives⟩
  simp only [wlp_bind, wlp_ite, CArray.load, wlp_emit, wlp_pure, wlp_modifyStatus, carAddWork, hval]
  exact ⟨fun _ => htail _ rfl, fun _ => htail _ rfl⟩

/-- A command takes the course that `caseOf` says. -/
theorem mcuCase_course {c : Course} (hc : caseOf cmd = some c) :
    (mcuCase f cmd).wlp (TookCourse f c w) w := by
  unfold caseOf at hc
  split at hc
  case isTrue h =>
    obtain rfl := Option.some.inj hc
    rcases h with hblock | hplain
    · have hnotice : ¬ cmd &&& 0x7000 < 0x1000 := by
        have hmask : cmd &&& 0x7000 = (cmd &&& 0xF000) &&& 0x7000 := by
          rw [BitVec.and_assoc]
          rfl
        rw [hmask, hblock]
        decide
      rw [mcuCase, if_neg hnotice, if_pos hblock]
      exact mcuBlock_course
    · exact plain_course hplain
  split at hc
  case isTrue h =>
    obtain rfl := Option.some.inj hc
    exact notice_course h
  split at hc
  case isTrue h =>
    obtain rfl := Option.some.inj hc
    exact stream_course h
  split at hc
  case isTrue h =>
    obtain rfl := Option.some.inj hc
    exact report_course h
  split at hc
  case isTrue h =>
    obtain rfl := Option.some.inj hc
    exact sized_course h
  split at hc
  case isTrue h =>
    obtain rfl := Option.some.inj hc
    exact unset_course h
  split at hc
  case isTrue h =>
    obtain rfl := Option.some.inj hc
    exact byte_course h
  case isFalse => exact absurd hc (by simp)

end Cases

/-- A whole message takes the course of its command. -/
theorem processMcuCommand_course {cmd : U32} {c : Course} (hc : caseOf cmd = some c) {w : World} :
    (processMcuCommand cmd).wlp (TookCourse w.frames.head c w) w := by
  unfold processMcuCommand
  simp only [wlp_bind, wlp_emit, wlp_popFrame]
  exact mcuCase_course (w := (w.emit (.command cmd)).popFrame) hc

/-! ## Exactly one acknowledge -/

/-- The commands of each list are those that `caseOf` gives this course. -/
theorem caseOf_lists {cmd : U32} {c : Course} (hc : caseOf cmd = some c) :
    (cmd ∈ streamCommands ↔ c = .fixed .one) ∧
      (cmd ∈ reportCommands ↔ c = .report) ∧
      (cmd ∈ sizedCommands ↔ c = .sized) ∧
      (cmd ∈ unsetCommands ↔ c = .fixed .ifR) ∧
      (cmd ∈ byteCommands ↔ c = .fixed .ifByte) := by
  have hstream : cmd ∈ streamCommands → caseOf cmd = some (.fixed .one) := by
    intro h
    simp only [streamCommands, List.mem_cons, List.not_mem_nil, or_false] at h
    rcases h with rfl | rfl | rfl | rfl <;> rfl
  have hreport : cmd ∈ reportCommands → caseOf cmd = some .report := by
    intro h
    simp only [reportCommands, List.mem_cons, List.not_mem_nil, or_false] at h
    rcases h with rfl | rfl | rfl | rfl | rfl | rfl <;> rfl
  have hsized : cmd ∈ sizedCommands → caseOf cmd = some .sized := by
    intro h
    simp only [sizedCommands, List.mem_cons, List.not_mem_nil, or_false] at h
    rcases h with rfl | rfl <;> rfl
  have hunset : cmd ∈ unsetCommands → caseOf cmd = some (.fixed .ifR) := by
    intro h
    simp only [unsetCommands, List.mem_cons, List.not_mem_nil, or_false] at h
    rcases h with rfl | rfl <;> rfl
  have hbyte : cmd ∈ byteCommands → caseOf cmd = some (.fixed .ifByte) := by
    intro h
    obtain rfl := List.mem_singleton.mp h
    rfl
  refine ⟨⟨fun h => ?_, ?_⟩, ⟨fun h => ?_, ?_⟩, ⟨fun h => ?_, ?_⟩, ⟨fun h => ?_, ?_⟩,
    ⟨fun h => ?_, ?_⟩⟩
  · exact Option.some.inj (hc.symm.trans (hstream h))
  rotate_left
  · exact Option.some.inj (hc.symm.trans (hreport h))
  rotate_left
  · exact Option.some.inj (hc.symm.trans (hsized h))
  rotate_left
  · exact Option.some.inj (hc.symm.trans (hunset h))
  rotate_left
  · exact Option.some.inj (hc.symm.trans (hbyte h))
  -- no other list has the same course
  all_goals
    rintro rfl
    unfold caseOf at hc
    split_ifs at hc
    all_goals first | assumption | simp at hc

/-- A received message is acknowledged once, and the acknowledge is the result unless the command
always returns `1`; a message that is not received is not acknowledged, and the result is `0`. -/
def AckedOnce (cmd : U32) (new : List Call) (v : ℤ) : Prop :=
  if AllReceived (receptions new) then
    ∃ ok, acks new = [ok] ∧ v = ackResult cmd ok
  else acks new = [] ∧ v = 0

/-- The messages for which the acknowledge goes wrong: a received one whose test of `r` fails, and a
missing one that leaves through `ret_tail`. -/
def AckSlips (cmd : U32) (f : Frame) (rs : List (Bool × List U8)) : Prop :=
  if AllReceived rs then
    (cmd ∈ byteCommands ∧ rs.head?.bind (·.2.head?) = some 0) ∨ (cmd ∈ unsetCommands ∧ f.r = 0)
  else cmd ∈ reportCommands ∨ (cmd ∈ sizedCommands ∧ rs.length = 1)

/-- The courses alone decide whether there is exactly one acknowledge. -/
theorem ackedOnce_of_takes {cmd : U32} {c : Course} (hc : caseOf cmd = some c) {f : Frame}
    {new : List Call} {v : ℤ} (h : c.Takes f new v) :
    AckedOnce cmd new v ↔ ¬ AckSlips cmd f (receptions new) := by
  obtain ⟨h1, h2, h3, h4, h5⟩ := caseOf_lists hc
  unfold AckedOnce AckSlips ackResult
  cases c with
  | notice =>
    obtain ⟨ok, rfl, rfl⟩ := h
    simp [receptions, acks, AllReceived, h1, h4, h5]
  | sized =>
    rcases h with ⟨data, rfl, rfl⟩ | ⟨len, data, rfl, rfl⟩ | ⟨len, data, ok, rfl, rfl⟩
    · simp [receptions, acks, AllReceived, h3]
    · simp [receptions, acks, AllReceived, h2]
    · simp [receptions, acks, AllReceived, h1, h4, h5]
  | report =>
    rcases h with ⟨data, rfl, rfl⟩ | ⟨data, rest, rfl, ok, rfl, rfl⟩
    · simp [receptions, acks, AllReceived, h2]
    · simp [receptions, acks, AllReceived, h1, h4, h5]
  | fixed a =>
    rcases h with ⟨data, rfl, rfl⟩ | ⟨data, rest, rfl, hgives⟩
    · simp [receptions, acks, AllReceived, h2, h3]
    · cases a with
      | result =>
        obtain ⟨ok, rfl, rfl⟩ := hgives
        simp [receptions, acks, AllReceived, h1, h4, h5]
      | one =>
        obtain ⟨ok, rfl, rfl⟩ := hgives
        simp [receptions, acks, AllReceived, h1, h4, h5]
      | ifR =>
        rw [Answer.Gives] at hgives
        split at hgives
        case isTrue hr =>
          obtain ⟨rfl, rfl⟩ := hgives
          simp [receptions, acks, AllReceived, h4, hr]
        case isFalse hr =>
          obtain ⟨ok, rfl, rfl⟩ := hgives
          simp [receptions, acks, AllReceived, h1, h5, hr]
      | ifByte =>
        rw [Answer.Gives] at hgives
        split at hgives
        case isTrue hb =>
          obtain ⟨rfl, rfl⟩ := hgives
          simpa [receptions, acks, AllReceived, h5] using fun hne => absurd hb hne
        case isFalse hb =>
          obtain ⟨ok, rfl, rfl⟩ := hgives
          simpa [receptions, acks, AllReceived, h1, h4, h5] using hb

/-- A recognised message is acknowledged exactly once, and not at all if it is not received, exactly
if it does not slip through. -/
theorem acked_once_iff {cmd : U32} {c : Course} (hc : caseOf cmd = some c) {w w' : World} {v : ℤ}
    (h : (processMcuCommand cmd).Ends w v w') :
    AckedOnce cmd (since callsSoFar w w') v ↔
      ¬ AckSlips cmd w.frames.head (receptions (since callsSoFar w w')) := by
  obtain ⟨new, hgrew, htakes⟩ := processMcuCommand_course hc v w' h
  rw [hgrew.since]
  exact ackedOnce_of_takes hc htakes

/-- The camera request `0xF201` with payload `5` is received and then acknowledged. -/
theorem acked_once_iff_camera : ∃ v w', (processMcuCommand 0xF201).Ends (.sender [5]) v w' ∧
    receptions (since callsSoFar (.sender [5]) w') = [(true, [5])] ∧
      AckedOnce 0xF201 (since callsSoFar (.sender [5]) w') v := by
  have hrun : (processMcuCommand 0xF201).wp
      (fun _ w' => Grew callsSoFar [.payload true [5], .ack true] (.sender [5]) w') (.sender [5]) := by
    simp +decide only [processMcuCommand, mcuCase, mcuRequest, if_true, if_false, wp_bind, wp_emit,
      wp_popFrame, withPayload]
    refine wp_mono (armRevBytes_delivered [5] rfl
      (w := ((World.sender [5]).emit (.command 0xF201)).popFrame) (ahead_sender [5])) fun r w1 h1 => ?_
    obtain ⟨rfl, hahead, hgrew, -⟩ := h1
    simp [CArray.load, carAddWork, tailAck, receive_val, returnAck]
    refine wp_mono (wp_and_wlp (armRevAck_peer (.const true) (.const true) hahead) armRevAck_calls)
      fun ok w2 h2 => ?_
    obtain ⟨⟨-, rfl⟩, hack⟩ := h2
    have hboth : Grew callsSoFar ([.payload true [5]] ++ [.ack true]) (.sender [5]) w2 := Grew.trans hgrew hack
    exact hboth
  obtain ⟨v, w', h, hgrew⟩ := hrun
  refine ⟨v, w', h, ?_, (acked_once_iff rfl h).mpr ?_⟩
  · rw [hgrew.since]
    rfl
  · rw [hgrew.since]
    simp +decide [AckSlips]

/-- The camera request `0xF201` with payload `0` is received and never acknowledged. -/
theorem zero_byte_not_acked : ¬ ∀ cmd c w v w', caseOf cmd = some c →
    (processMcuCommand cmd).Ends w v w' → AckedOnce cmd (since callsSoFar w w') v := by
  intro hall
  have hrun : (processMcuCommand 0xF201).wp
      (fun _ w' => Grew callsSoFar [.payload true [0]] (.sender [0]) w') (.sender [0]) := by
    simp +decide only [processMcuCommand, mcuCase, mcuRequest, if_true, if_false, wp_bind, wp_emit,
      wp_popFrame, withPayload]
    refine wp_mono (armRevBytes_delivered [0] rfl
      (w := ((World.sender [0]).emit (.command 0xF201)).popFrame) (ahead_sender [0])) fun r w1 h1 => ?_
    obtain ⟨rfl, -, hgrew, -⟩ := h1
    simp [CArray.load, carAddWork, tailAck, receive_val]
    exact hgrew
  obtain ⟨v, w', h, hgrew⟩ := hrun
  have hacked := hall 0xF201 (.fixed .ifByte) _ v w' rfl h
  rw [hgrew.since] at hacked
  simp [AckedOnce, receptions, acks, AllReceived] at hacked

end MtcDrivers
