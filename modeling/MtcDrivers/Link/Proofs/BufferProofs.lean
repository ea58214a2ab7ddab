import MtcDrivers.Link.Proofs.AckProofs

/-!
# Proofs: the receive buffers

Which messages keep every received byte inside its array and use only received bytes. All lengths but
two are constants that fit; the length in the low byte of `0xDnnn` and the length byte after `0xF020`
are not compared with the eight bytes of the buffer.
-/

namespace MtcDrivers

open Proc History ShiftRegister

/-- Nothing unsafe happened to a receive buffer between two states. -/
def SafeStep : World → World → Prop := GrewWith World.log Event.SafeUse

instance : IsPreorder World SafeStep := grewWith_isPreorder _ _

theorem safeStep_wire : KeptByWire SafeStep where
  level _ _ := .of_eq rfl
  clock _ := .of_eq rfl
  pad _ _ _ := .of_eq rfl
  car _ _ := .of_eq rfl
  wire w e he := by
    refine .of_cons rfl ?_
    cases e <;> trivial

section Safe

theorem safe_emit {e : Event} (he : e.SafeUse) : Respects SafeStep (emit e) :=
  respects_modify fun _ => .of_cons rfl he

theorem safe_armRevAck : Respects SafeStep armRevAck :=
  safeStep_wire.armRevAck fun _ _ => .of_cons rfl trivial

/-- A reception is safe if the bytes that are asked for fit. -/
theorem safe_armRevBytes {a : CArray} {off n : ℕ} (h : off + n ≤ a.size) :
    Respects SafeStep (armRevBytes a off n) := by
  intro w
  unfold armRevBytes
  refine wlp_bind.mpr (wlp_mono (Q := fun r w' => r.2.length ≤ n ∧ SafeStep w w') ?_
    fun r w1 h1 => ?_)
  · rw [wlp_ite]
    refine ⟨fun hn => ?_, fun _ => wlp_pure.mpr ⟨Nat.zero_le n, refl_of SafeStep w⟩⟩
    -- a pass stops at the latest when `n` bytes are stored
    refine wlp_iter (fun data w' => data.length < n ∧ SafeStep w w') (fun data w1 hI => ?_)
      ⟨Nat.pos_of_ne_zero hn, refl_of SafeStep w⟩
    obtain ⟨hlt, hsafe⟩ := hI
    unfold armRevBytesPass
    simp only [wlp_bind, wlp_modifyCar]
    refine safeStep_wire.armRev8bits.wlp fun o w2 h2 => ?_
    have hsafe2 : SafeStep w w2 :=
      trans_of SafeStep hsafe (trans_of SafeStep (safeStep_wire.car w1 _) h2)
    cases o with
    | none => exact wlp_pure.mpr ⟨Nat.le_of_lt hlt, hsafe2⟩
    | some b =>
      rw [wlp_ite]
      refine ⟨fun _ => wlp_pure.mpr ⟨by simp; omega, hsafe2⟩, fun hne => wlp_pure.mpr ⟨?_, hsafe2⟩⟩
      simp
      omega
  · simp only [wlp_bind, wlp_emit, wlp_pure]
    refine trans_of SafeStep h1.2 (.of_cons rfl ?_)
    simp only [Event.SafeUse]
    omega

/-- All of the first `n` bytes were received. -/
def Filled (buf : CArray) (n : ℕ) : Prop := ∀ i < n, buf.rcvd i = true

theorem safe_load {buf : CArray} {i : ℕ} (h : buf.rcvd i = true) :
    Respects SafeStep (buf.load i) :=
  (safe_emit (e := .load i _) h).bind fun _ => respects_pure _

theorem safe_loads {buf : CArray} {n : ℕ} : ∀ {i : ℕ}, Filled buf (i + n) →
    Respects SafeStep (buf.loads i n) := by
  induction n with
  | zero => exact fun _ => respects_pure _
  | succ n ih =>
    intro i h
    refine (safe_load (h i (by omega))).bind fun _ => ?_
    exact (ih fun j hj => h j (by omega)).bind fun _ => respects_pure _

theorem safe_loadWord {buf : CArray} {i : ℕ} (h : Filled buf (i + 2)) :
    Respects SafeStep (buf.loadWord i) :=
  (safe_load (h i (by omega))).bind fun _ =>
    (safe_load (h (i + 1) (by omega))).bind fun _ => respects_pure _

theorem Filled.mono {buf : CArray} {m n : ℕ} (h : Filled buf n) (hmn : m ≤ n) : Filled buf m :=
  fun i hi => h i (by omega)

theorem Filled.put {buf : CArray} {n i : ℕ} {b : U8} (h : Filled buf n) : Filled (buf.put i b) n := h

theorem filled_receive (a : CArray) (data : List U8) : Filled (a.receive 0 data) data.length := by
  intro i hi
  simp [receive_rcvd, hi]

theorem safe_returnAck : Respects SafeStep returnAck :=
  safe_armRevAck.bind fun _ => respects_pure _

theorem safe_tailAck (r : ℤ) : Respects SafeStep (tailAck r) :=
  Respects.ite safe_returnAck (respects_pure _)

theorem safe_retTail (cmd : U32) : Respects SafeStep (retTail cmd) :=
  respects_pure _

theorem safe_errRet0 (cmd : U32) : Respects SafeStep (errRet0 cmd) :=
  (safe_emit (e := .printk _ _) trivial).bind fun _ => respects_pure _

theorem safe_ackThen {deliver : Link Unit} (h : Respects SafeStep deliver) :
    Respects SafeStep (ackThen deliver) :=
  safe_armRevAck.bind fun _ => h.bind fun _ => respects_pure _

@[simp] theorem receive_size {a : CArray} {off : ℕ} {data : List U8} :
    (a.receive off data).size = a.size := by
  induction data generalizing a off with
  | nil => rfl
  | cons b data ih => rw [CArray.receive, ih]

@[simp] theorem put_size {a : CArray} {i : ℕ} {b : U8} : (a.put i b).size = a.size := rfl

@[simp] theorem put_rcvd {a : CArray} {i : ℕ} {b : U8} : (a.put i b).rcvd = a.rcvd := rfl

/-- A reception that fits is safe if what follows it is. -/
theorem safe_receive {a : CArray} {off n : ℕ} {use fail : Bool × CArray → Link ℤ}
    (hn : off + n ≤ a.size)
    (hok : ∀ data, data.length = n → Respects SafeStep (use (true, a.receive off data)))
    (hfail : ∀ r, Respects SafeStep (fail r)) :
    Respects SafeStep (armRevBytes a off n >>= fun r => if r.1 = true then use r else fail r) := by
  intro w
  refine wlp_bind.mpr (wlp_mono (wlp_and (safe_armRevBytes hn w) armRevBytes_calls)
    fun r w1 h1 => ?_)
  obtain ⟨ok, buf⟩ := r
  obtain ⟨hsafe, data, rfl, hlen, -⟩ := h1
  cases ok with
  | false => exact (hfail _).wlp fun v w2 h2 => trans_of SafeStep hsafe h2
  | true => exact (hok data (hlen rfl)).wlp fun v w2 h2 => trans_of SafeStep hsafe h2

/-- A payload of at most eight bytes is safe if its use is. -/
theorem safe_withPayload {f : Frame} {n : ℕ} {use : CArray → Link ℤ} {fail : Link ℤ} (hn : n ≤ 8)
    (huse : ∀ buf, Filled buf n → Respects SafeStep (use buf)) (hfail : Respects SafeStep fail) :
    Respects SafeStep (withPayload f n use fail) := by
  refine safe_receive (by simpa [CArray.onFrame] using hn) (fun data hlen => ?_) fun buf => hfail
  refine huse _ ?_
  rw [← hlen]
  exact filled_receive _ _

theorem safe_forward {f : Frame} {cmd : U8} {n : ℕ} {r : ℤ} (hn : n ≤ 8) :
    Respects SafeStep (forward f cmd n r) := by
  refine safe_withPayload hn (fun buf hbuf => ?_) (respects_pure _)
  exact (safe_loads (by simpa using hbuf)).bind fun _ =>
    (safe_emit (e := .vsSend _ _ _) trivial).bind fun _ => safe_tailAck r

theorem safe_mcuNotice (cmd : U32) : Respects SafeStep (mcuNotice cmd) := by
  unfold mcuNotice errAck vsSend carAddWork printk modifyStatus
  repeat' first
    | with_reducible exact safe_returnAck
    | (with_reducible refine safe_emit ?_); trivial
    | with_reducible exact safeStep_wire.modifyCar _
    | with_reducible exact respects_get
    | with_reducible refine Respects.ite ?_ ?_
    | with_reducible refine Respects.bind ?_ fun _ => ?_

/-- The length byte of `0xE000` cannot exceed the array it fills. -/
theorem safe_mcuReport (f : Frame) (cmd : U32) : Respects SafeStep (mcuReport f cmd) := by
  unfold mcuReport vsSend printk modifyStatus
  repeat' first
    | with_reducible exact safe_retTail _
    | with_reducible exact safe_errRet0 _
    | with_reducible exact safe_tailAck _
    | (with_reducible refine safe_load ?_); exact hbuf _ (by omega)
    | (with_reducible refine safe_load ?_); simp [receive_rcvd, hlen]
    | with_reducible exact safe_loadWord (hbuf.mono (by omega))
    | with_reducible exact safe_loads (hbuf.mono (by omega)).put.put
    | (with_reducible refine safe_emit ?_); trivial
    | with_reducible exact safeStep_wire.modifyCar _
    | with_reducible exact respects_get
    | with_reducible exact respects_pure _
    | with_reducible refine safe_withPayload (by omega) (fun buf hbuf => ?_) ?_
    | (with_reducible refine safe_receive ?_ (fun data hlen => ?_) fun _ => ?_)
      · simp [CArray.onFrame]; try omega
    | with_reducible refine Respects.ite ?_ ?_
    | with_reducible refine Respects.bind ?_ fun _ => ?_

theorem safe_mcuStream (f : Frame) (cmd : U32) : Respects SafeStep (mcuStream f cmd) := by
  unfold mcuStream
  repeat' first
    | with_reducible exact safe_mcuReport _ _
    | with_reducible exact safe_forward (by omega)
    | with_reducible exact safe_errRet0 _
    | with_reducible exact safe_tailAck _
    | (with_reducible refine safe_load ?_); exact hbuf _ (by omega)
    | with_reducible exact safe_loadWord (hbuf.mono (by omega))
    | with_reducible exact safe_loads (hbuf.mono (by omega))
    | (with_reducible refine safe_emit ?_); trivial
    | with_reducible exact respects_pure _
    | with_reducible refine safe_withPayload (by omega) (fun buf hbuf => ?_) ?_
    | with_reducible refine safe_ackThen ?_
    | with_reducible refine Respects.ite ?_ ?_
    | with_reducible refine Respects.bind ?_ fun _ => ?_

theorem safe_mcuPower (f : Frame) (cmd : U32) : Respects SafeStep (mcuPower f cmd) := by
  unfold mcuPower mcuPower.camera carAddWork modifyStatus
  repeat' first
    | with_reducible exact safe_returnAck
    | with_reducible exact safe_errRet0 _
    | with_reducible exact safe_tailAck _
    | (with_reducible refine safe_emit ?_); trivial
    | with_reducible exact safeStep_wire.modifyCar _
    | with_reducible exact respects_get
    | with_reducible exact respects_pure _
    | with_reducible refine safe_withPayload (by omega) (fun buf hbuf => ?_) ?_
    | with_reducible refine Respects.ite ?_ ?_
    | with_reducible refine Respects.bind ?_ fun _ => ?_

theorem safe_mcuRequest (f : Frame) {cmd : U32} (hcmd : cmd ≠ 0xF020) :
    Respects SafeStep (mcuRequest f cmd) := by
  unfold mcuRequest vsSendRaw carAddWork printk modifyStatus
  rw [if_neg hcmd]
  repeat' first
    | with_reducible exact safe_mcuPower _ _
    | with_reducible exact safe_forward (by omega)
    | with_reducible exact safe_retTail _
    | with_reducible exact safe_errRet0 _
    | with_reducible exact safe_tailAck _
    | with_reducible exact safe_loads (hbuf.mono (by omega))
    | (with_reducible refine safe_load ?_); exact hbuf _ (by omega)
    | with_reducible exact safe_loads (by simpa [hlen] using filled_receive (CArray.onFrame 32 f) data)
    | (with_reducible refine safe_emit ?_); trivial
    | with_reducible exact safeStep_wire.modifyCar _
    | with_reducible exact respects_pure _
    | with_reducible refine safe_withPayload (by omega) (fun buf hbuf => ?_) ?_
    | (with_reducible refine safe_receive ?_ (fun data hlen => ?_) fun _ => ?_)
      · simp [CArray.onFrame]
    | with_reducible refine Respects.ite ?_ ?_
    | with_reducible refine Respects.bind ?_ fun _ => ?_

/-- `0xDnnn` stores from offset 1 and, in the radio case, uses two bytes. -/
theorem safe_mcuBlock (f : Frame) {cmd : U32} (hfit : (cmd &&& 0xFF).toNat ≤ 7)
    (hused : cmd &&& 0xF00 = 0x100 → 2 ≤ (cmd &&& 0xFF).toNat) :
    Respects SafeStep (mcuBlock f cmd) := by
  unfold mcuBlock
  refine safe_receive (by simp only [CArray.onFrame]; omega) (fun data hlen => ?_)
    fun _ => respects_pure _
  by_cases hradio : cmd &&& 0xF00 = 0x100
  · have htwo := hused hradio
    rw [if_pos hradio]
    refine (safe_load (by simp [receive_rcvd]; omega)).bind fun _ => ?_
    refine Respects.ite ?_ safe_returnAck
    refine (safe_load (by simp [receive_rcvd]; omega)).bind fun _ => ?_
    exact (safeStep_wire.modifyCar _).bind fun _ => safe_returnAck
  · rw [if_neg hradio]
    exact safe_returnAck

/-- The steps of a message are never taken back. -/
theorem callsGrew_kept : Kept (GrewWith callsSoFar fun _ => True) where
  toIsPreorder := grewWith_isPreorder _ _
  level _ _ := .of_eq rfl
  clock _ := .of_eq rfl
  frame _ := .of_eq rfl
  pad _ _ _ := .of_eq rfl
  car _ _ := .of_eq rfl
  emit w e _ := by cases e <;> first | exact .of_eq rfl | exact .of_cons rfl trivial

/-- `0xF020` is safe after a length byte of at most eight. -/
theorem safe_rawMessage {f : Frame} {w : World} :
    (mcuRequest f 0xF020).wlp (fun _ w' =>
      (∀ data, (receptions (since callsSoFar w w')).head? = some (true, data) →
        ∃ len : U8, data = [len] ∧ len.toNat ≤ 8) → SafeStep w w') w := by
  simp +decide only [mcuRequest, if_true, if_false, wlp_bind]
  have hsize : 0 + 1 ≤ (CArray.onFrame 1 f).size := by simp [CArray.onFrame]
  refine wlp_mono (wlp_and (safe_armRevBytes hsize w) armRevBytes_calls) fun r w1 h1 => ?_
  obtain ⟨ok, buf⟩ := r
  obtain ⟨hsafe, data, rfl, hlen, hgrew, -⟩ := h1
  cases ok with
  | false =>
    refine (safe_retTail _).wlp fun v w2 h2 _ => trans_of SafeStep hsafe h2
  | true =>
    obtain ⟨len, rfl⟩ := List.length_eq_one_iff.mp (hlen rfl)
    have hval : ((CArray.onFrame 1 f).receive 0 [len]).val 0 = len := by simp [receive_val]
    have hrcvd : ((CArray.onFrame 1 f).receive 0 [len]).rcvd 0 = true := by simp [receive_rcvd]
    simp only [if_true, CArray.load, wlp_bind, wlp_emit, wlp_pure, hval]
    by_cases hlen8 : len.toNat ≤ 8
    · have hrest : Respects SafeStep (withPayload f len.toNat (fun buf => do
          let data ← buf.loads 0 len.toNat
          vsSendRaw 0 data
          tailAck 1) (pure 0)) := by
        refine safe_withPayload hlen8 (fun buf hbuf => ?_) (respects_pure _)
        exact (safe_loads (by simpa using hbuf)).bind fun _ =>
          (safe_emit (e := .vsSendRaw _ _) trivial).bind fun _ => safe_tailAck 1
      refine hrest.wlp fun v w2 h2 _ => ?_
      exact trans_of SafeStep (trans_of SafeStep hsafe (.of_cons (e := .load 0 _) rfl hrcvd)) h2
    · -- a longer announcement contradicts the premise, whatever happens next
      have k := callsGrew_kept.command
      have hrest : Respects (GrewWith callsSoFar fun _ => True) (withPayload f len.toNat (fun buf => do
          let data ← buf.loads 0 len.toNat
          vsSendRaw 0 data
          tailAck 1) (pure 0)) :=
        k.withPayload f len.toNat
          (fun buf => k.bind (k.loads buf _ 0) fun _ => k.bind (k.note rfl) fun _ => k.tailAck 1)
          (k.pure 0)
      refine hrest.wlp fun v w2 h2 hprem => ?_
      obtain ⟨new, hnew, -⟩ := h2
      have hall := (Grew.trans hgrew hnew).since
      obtain ⟨len', hlen', hle⟩ := hprem [len] (by rw [hall]; rfl)
      obtain rfl : len = len' := by simpa using hlen'
      exact absurd hle hlen8

end Safe

/-! ## Lengths that fit -/

/-- In a message that starts with a length byte, `len` is that byte. -/
def Announces (cmd : U32) (len : U8) (rs : List (Bool × List U8)) : Prop :=
  cmd ∈ sizedCommands → ∀ data, rs.head? = some (true, data) → data = [len]

/-- Every message of this command that announces this length is safe for the receive buffers. -/
def SafeMessage (cmd : U32) (len : U8) : Prop :=
  ∀ w v w', (processMcuCommand cmd).Ends w v w' →
    Announces cmd len (receptions (since callsSoFar w w')) →
      ∀ e ∈ since World.log w w', e.SafeUse

/-- The length in the command word or in the length byte fits the buffer of eight bytes, and the radio
case has the two bytes that it uses. -/
def LengthFits (cmd : U32) (len : U8) : Prop :=
  (cmd &&& 0xF000 = 0xD000 → (cmd &&& 0xFF).toNat ≤ 7 ∧
    (cmd &&& 0xF00 = 0x100 → 2 ≤ (cmd &&& 0xFF).toNat)) ∧
    (cmd = 0xF020 → len.toNat ≤ 8)

theorem safe_mcuCase {f : Frame} {cmd : U32} {len : U8} (h : LengthFits cmd len)
    (hcmd : cmd ≠ 0xF020) : Respects SafeStep (mcuCase f cmd) := by
  unfold mcuCase
  refine Respects.ite (safe_mcuNotice cmd) ?_
  by_cases hblock : cmd &&& 0xF000 = 0xD000
  · rw [if_pos hblock]
    exact safe_mcuBlock f (h.1 hblock).1 (h.1 hblock).2
  · rw [if_neg hblock]
    exact Respects.ite (safe_forward (by omega))
      (Respects.ite (safe_mcuStream f cmd) (safe_mcuRequest f hcmd))

/-- Lengths that fit are safe. -/
theorem safeMessage_of_fits {cmd : U32} {len : U8} (h : LengthFits cmd len) :
    SafeMessage cmd len := by
  intro w v w' hrun hann
  refine GrewWith.since (P := Event.SafeUse) ?_
  have hstart : SafeStep w (w.emit (.command cmd)).popFrame := .of_cons (e := .command cmd) rfl trivial
  have hcase : (mcuCase w.frames.head cmd).Ends (w.emit (.command cmd)).popFrame v w' := by
    have hwlp : (processMcuCommand cmd).wlp (fun v' w'' =>
        (mcuCase w.frames.head cmd).Ends (w.emit (.command cmd)).popFrame v' w'') w := by
      simp only [processMcuCommand, wlp_bind, wlp_emit, wlp_popFrame]
      exact fun a s' ha => ha
    exact hwlp v w' hrun
  by_cases hraw : cmd = 0xF020
  · subst hraw
    simp +decide only [mcuCase, if_false] at hcase
    refine trans_of SafeStep hstart (safe_rawMessage v w' hcase fun data hdata => ⟨len, ?_, h.2 rfl⟩)
    exact hann (by decide) data hdata
  · exact trans_of SafeStep hstart (safe_mcuCase h hraw _ v w' hcase)

/-! ## Lengths that do not fit -/

/-- The log is never cut. -/
theorem logKept : Kept fun w w' => ∀ e ∈ w.log, e ∈ w'.log where
  refl _ _ he := he
  trans _ _ _ h h' e he := h' e (h e he)
  level _ _ _ he := he
  clock _ _ he := he
  frame _ _ he := he
  pad _ _ _ _ he := he
  car _ _ _ he := he
  emit _ _ _ _ he := List.mem_cons_of_mem _ he

theorem since_log_ofPeer {clk din : Stream' Bool} {w' : World} {e : Event} (he : e ∈ w'.log) :
    e ∈ since World.log (.ofPeer clk din) w' := by
  have hgrew : Grew World.log w'.log.reverse (.ofPeer clk din) w' := by
    simp [Grew, World.ofPeer]
  rw [hgrew.since]
  exact List.mem_reverse.mpr he

theorem returnAck_peer {w : World} (clk din : Stream' Bool) {v : Bool} {e : Event}
    (h : Ahead w clk (holds [false, true, v] din)) (he : e ∈ w.log) :
    returnAck.wp (fun _ w' => e ∈ w'.log) w := by
  unfold returnAck
  rw [wp_bind]
  refine wp_mono (wp_and_wlp (armRevAck_peer clk din h) (logKept.command.ack w)) fun ok w1 h1 => ?_
  exact wp_pure.mpr (h1.2 e he)

/-- The MCU sends the payload of `0xDnnn`: all of it is stored from offset 1, and the radio case goes
on to byte 2 if byte 1 is `0`. -/
theorem mcuBlock_peer {cmd : U32} (hblock : cmd &&& 0xF000 = 0xD000) {n : ℕ}
    (hn : (cmd &&& 0xFF).toNat = n) {e : Event}
    (he : e = .received 8 1 true (List.replicate n 0) ∨
      (cmd &&& 0xF00 = 0x100 ∧ e = .load 2 (decide (2 ≤ n)))) :
    (processMcuCommand cmd).wp (fun _ w' => e ∈ w'.log) (.sender (List.replicate n 0)) := by
  have hnotice : ¬ cmd &&& 0x7000 < 0x1000 := by
    have hmask : cmd &&& 0x7000 = (cmd &&& 0xF000) &&& 0x7000 := by
      rw [BitVec.and_assoc]
      rfl
    rw [hmask, hblock]
    decide
  simp only [processMcuCommand, mcuCase, if_neg hnotice, if_pos hblock, wp_bind, wp_emit, wp_popFrame,
    mcuBlock, hn]
  refine wp_mono (armRevBytes_delivered (List.replicate n 0) (by simp) (ahead_sender _))
    fun r w1 h1 => ?_
  obtain ⟨rfl, hahead, -, hlog⟩ := h1
  set buf := (CArray.onFrame 8 (World.emit (.sender (List.replicate n 0)) (.command cmd)).frames.head).receive 1
    (List.replicate n 0) with hbuf
  have hzero : buf.val 1 = 0 := by
    rw [hbuf, receive_val]
    by_cases hin : 1 ≤ 1 ∧ 1 - 1 < (List.replicate n (0 : U8)).length
    · rw [if_pos hin, ← List.getElem_eq_getD (h := hin.2), List.getElem_replicate]
    · rw [if_neg hin]
      rfl
  have htwo : buf.rcvd 2 = decide (2 ≤ n) := by
    simp [hbuf, receive_rcvd, CArray.onFrame]
    omega
  have hstored : .received 8 1 true (List.replicate n 0) ∈ w1.log := hlog
  by_cases hradio : cmd &&& 0xF00 = 0x100
  · simp only [if_true, if_pos hradio, CArray.load, wp_bind, wp_emit, wp_pure, if_pos hzero, htwo,
      wp_modifyCar]
    refine returnAck_peer (.const true) (.const true) (by simpa using hahead) ?_
    rcases he with rfl | ⟨-, rfl⟩
    · simpa using hstored
    · simp
  · simp only [if_true, if_neg hradio]
    obtain rfl := he.resolve_right fun h => hradio h.1
    exact returnAck_peer (.const true) (.const true) (by simpa using hahead) hstored

/-- A message of known length announces every length. -/
theorem announces_of_not_sized {cmd : U32} {len : U8} {rs : List (Bool × List U8)}
    (h : cmd ∉ sizedCommands) : Announces cmd len rs :=
  fun hc => absurd hc h

/-- The MCU sends `len` and as many bytes after `0xF020`. -/
theorem rawMessage_peer (len : U8) :
    (processMcuCommand 0xF020).wp (fun _ w' =>
      .received 8 0 true (List.replicate len.toNat 0) ∈ w'.log ∧
        ∃ rest, Grew callsSoFar (.payload true [len] :: rest)
          (.sender (len :: List.replicate len.toNat 0)) w')
      (.sender (len :: List.replicate len.toNat 0)) := by
  set w := World.sender (len :: List.replicate len.toNat 0)
  have hahead : Ahead ((w.emit (.command 0xF020)).popFrame)
      (strobes (8 * [len].length) (strobes (8 * len.toNat) (.const true)))
      (holds ([len].flatMap msbFirst) (holds ((List.replicate len.toNat (0 : U8)).flatMap msbFirst)
        (holds [false, true, true] (.const true)))) := by
    have h : Ahead w _ _ := ahead_sender (len :: List.replicate len.toNat 0)
    rw [List.flatMap_cons, holds_append, List.length_cons, List.length_replicate,
      show 8 * (len.toNat + 1) = 8 + 8 * len.toNat by omega, strobes_add] at h
    simpa using h
  simp +decide only [processMcuCommand, mcuCase, mcuRequest, if_true, if_false, wp_bind, wp_emit,
    wp_popFrame]
  refine wp_mono (armRevBytes_delivered [len] rfl hahead) fun r w1 h1 => ?_
  obtain ⟨rfl, h1, hgrew1, -⟩ := h1
  have hval : ((CArray.onFrame 1 (w.emit (.command 0xF020)).frames.head).receive 0 [len]).val 0 = len := by
    simp [receive_val]
  simp only [if_true, CArray.load, wp_bind, wp_emit, wp_pure, hval, withPayload]
  refine wp_mono (armRevBytes_delivered (List.replicate len.toNat 0) (by simp)
    (w := w1.emit _) (by simpa using h1)) fun r w2 h2 => ?_
  obtain ⟨rfl, h2, hgrew2, hlog⟩ := h2
  simp only [if_true, wp_bind]
  refine wp_loads fun bs w3 hlevels hcalls hlog3 => ?_
  simp only [vsSendRaw, wp_emit, tailAck]
  rw [if_pos (by decide), returnAck, wp_bind]
  have h3 : Ahead (w3.emit (.vsSendRaw 0 bs)) (.const true)
      (holds [false, true, true] (.const true)) := by
    obtain ⟨hclk, hdin⟩ := h2
    exact ⟨by simp [hlevels, hclk], by simp [hlevels, hdin]⟩
  have hkept := logKept.command.ack (w3.emit (.vsSendRaw 0 bs))
  refine wp_mono (wp_and_wlp (wp_and_wlp (armRevAck_peer _ _ h3) hkept) armRevAck_calls)
    fun ok w4 h4 => wp_pure.mpr ?_
  obtain ⟨⟨-, hlog4⟩, hgrew4⟩ := h4
  have hpayload : Grew callsSoFar [.payload true (List.replicate len.toNat 0)] w1 w2 := hgrew2
  have hack : Grew callsSoFar [.ack ok] w3 w4 := hgrew4
  exact ⟨hlog4 _ (List.mem_cons_of_mem _ (hlog3 _ hlog)), _,
    hgrew1.trans (hpayload.trans (Grew.trans (grew_nil.mpr hcalls) hack))⟩

/-- Lengths that are safe fit. -/
theorem fits_of_safeMessage {cmd : U32} {len : U8} (h : SafeMessage cmd len) :
    LengthFits cmd len := by
  refine ⟨fun hblock => ?_, ?_⟩
  · have hsized : cmd ∉ sizedCommands := by
      intro hc
      simp only [sizedCommands, List.mem_cons, List.not_mem_nil, or_false] at hc
      rcases hc with rfl | rfl <;> exact absurd hblock (by decide)
    have huse : ∀ e : Event, (e = .received 8 1 true (List.replicate (cmd &&& 0xFF).toNat 0) ∨
        (cmd &&& 0xF00 = 0x100 ∧ e = .load 2 (decide (2 ≤ (cmd &&& 0xFF).toNat)))) → e.SafeUse := by
      intro e he
      obtain ⟨v, w', hrun, hmem⟩ := mcuBlock_peer hblock rfl he
      exact h _ v w' hrun (announces_of_not_sized hsized) e (since_log_ofPeer hmem)
    constructor
    · have hstore := huse _ (Or.inl rfl)
      simp only [Event.SafeUse, List.length_replicate] at hstore
      omega
    · intro hradio
      have hload := huse _ (Or.inr ⟨hradio, rfl⟩)
      simpa [Event.SafeUse] using hload
  · rintro rfl
    obtain ⟨v, w', hrun, hmem, rest, hgrew⟩ := rawMessage_peer len
    have hann : Announces 0xF020 len (receptions (since callsSoFar
        (.sender (len :: List.replicate len.toNat 0)) w')) := by
      intro _ data hdata
      rw [hgrew.since] at hdata
      simpa [receptions] using hdata.symm
    have hstore := h _ v w' hrun hann _ (since_log_ofPeer hmem)
    simpa [Event.SafeUse] using hstore

/-- The messages of a command are safe for the receive buffers exactly if its announced length
fits. -/
theorem safe_message_iff (cmd : U32) (len : U8) : SafeMessage cmd len ↔ LengthFits cmd len :=
  ⟨fits_of_safeMessage, safeMessage_of_fits⟩

/-- `0xD0FF` stores 255 bytes behind an eight-byte buffer. -/
theorem long_block_not_safe : ¬ ∀ cmd len, SafeMessage cmd len := by
  intro h
  have hfits := (fits_of_safeMessage (h 0xD0FF 0)).1 (by decide)
  exact absurd hfits.1 (by decide)

end MtcDrivers
