import MtcDrivers.Vs.Frame
import MtcDrivers.Vs.Proofs.SendProofs

/-!
# Proofs: calls on ports that may be closed

Whatever the reads of `vs_rx` find, a call inserts its bytes from the first one on and in their order; it goes on to
the end if all of them find it set.
-/

namespace MtcDrivers

namespace Vs

variable {core : TtyCore} {p : Fin 4} {w w' : World}

/-! ## A port during a call -/

/-- These bytes have been inserted; where `stays` holds, the reads of `vs_rx` to come find it set. -/
structure Holding (stays : Prop) (bytes : List U8) (port : Port) : Prop where
  rx : stays → ∀ i, port.vsRx.get i ≠ 0
  inserted : port.tty.inserted = bytes
  locked : port.locked = true

variable {stays before : Prop} {bytes : List U8} {port : Port}

theorem locked_insertByte (char : U8) (port : Port) : (port.insertByte core char).locked = port.locked := by
  unfold Port.insertByte
  split
  · split <;> rfl
  · rfl

theorem vsRx_insertByte (char : U8) (port : Port) : (port.insertByte core char).vsRx = port.vsRx := by
  unfold Port.insertByte
  split
  · split <;> rfl
  · rfl

theorem inserted_insertByte (hcore : core.Documented) (char : U8) (port : Port) :
    (port.insertByte core char).tty.inserted = port.tty.inserted ++ [char] := by
  unfold Port.insertByte
  cases htail : port.tty.tail with
  | none => exact hcore.inserted_insert char 0 port.tty
  | some tail =>
    dsimp only
    split
    · simp [Tty.inserted, htail, TtyBuffer.append]
    · exact hcore.inserted_insert char 0 port.tty

theorem holding_insertByte (hcore : core.Documented) (char : U8) (h : Holding stays bytes port) :
    Holding stays (bytes ++ [char]) (port.insertByte core char) where
  rx hstays := by
    rw [vsRx_insertByte]
    exact h.rx hstays
  inserted := by rw [inserted_insertByte hcore, h.inserted]
  locked := by rw [locked_insertByte, h.locked]

theorem holding_push (hcore : core.Documented) (h : Holding stays bytes port) :
    Holding stays bytes (port.push core) where
  rx := h.rx
  inserted := by rw [Port.push, hcore.inserted_push, h.inserted]
  locked := h.locked

theorem holding_popRx (h : Holding stays bytes port) : Holding stays bytes port.popRx where
  rx hstays i := h.rx hstays (i + 1)
  inserted := h.inserted
  locked := h.locked

theorem holding_countRx (h : Holding stays bytes port) : Holding stays bytes port.countRx :=
  ⟨h.rx, h.inserted, h.locked⟩

theorem wp_pushIf_holding (hcore : core.Documented) (c : Bool) (h : Holding stays bytes (w.vssDev p)) :
    (pushIf core p c).wp (fun _ => w.AtPort p fun port =>
      Holding stays bytes port ∧ (c = true ∨ (w.vssDev p).Covered → port.Covered)) w := by
  rw [pushIf]
  cases c with
  | true =>
    rw [if_pos rfl, wp_modifyPort]
    exact World.atPort_setPort _ ⟨holding_push hcore h, fun _ => covered_push hcore _⟩
  | false =>
    rw [if_neg Bool.false_ne_true, Proc.wp_pure]
    refine ⟨⟨id, by simp [World.setPort]⟩, h, ?_⟩
    rintro (hfalse | hcovered)
    · exact absurd hfalse Bool.false_ne_true
    · exact hcovered

/-! ## The loop of `vs_send` -/

/-- The first `n` bytes of a buffer have been inserted; all of them where the port stays open. -/
structure Cut (stays : Prop) (bytes : List U8) (data : ℕ → U8) (size : ℕ) (port : Port) : Prop where
  holding : ∃ n ≤ size, Holding stays (bytes ++ (List.range n).map data) port ∧ (stays → n = size)
  covered : stays → port.Covered

theorem map_range_succ (data : ℕ → U8) (i : ℕ) :
    bytes ++ (List.range (i + 1)).map data = bytes ++ (List.range i).map data ++ [data i] := by
  rw [List.range_succ, List.map_append, List.append_assoc]
  rfl

theorem wp_insertPass_holding (hcore : core.Documented) (data : ℕ → U8) {size i : ℕ} (hi : i < size)
    (h : Holding stays (bytes ++ (List.range i).map data) (w.vssDev p)) :
    (insertPass core p data size i).wp (fun x w' =>
      (x = .inr () ∧ w.AtPort p (Cut stays bytes data size) w') ∨
        (x = .inl (i + 1) ∧ i + 1 < size ∧
          w.AtPort p (Holding stays (bytes ++ (List.range (i + 1)).map data)) w')) w := by
  have hbyte : w.AtPort p (Holding stays (bytes ++ (List.range (i + 1)).map data))
      (w.setPort p (Port.insertByte core (data i))) := by
    rw [map_range_succ]
    exact World.atPort_setPort _ (holding_insertByte hcore (data i) h)
  simp only [insertPass, Proc.wp_bind, wp_modifyPort]
  refine Proc.wp_mono (wp_pushIf_holding hcore _ hbyte.2) fun _ w1 h1 => ?_
  have hpushed := hbyte.trans h1
  rw [Proc.wp_ite]
  constructor
  · intro hlast
    have hsize : i + 1 = size := by omega
    simp only [Proc.wp_bind, Proc.wp_pure]
    refine Proc.wp_mono (wp_pushIf_holding hcore _ h1.2.1) fun _ w2 h2 => Or.inl ⟨trivial, ?_⟩
    refine ⟨(hpushed.trans h2).1, ⟨i + 1, hi, h2.2.1, fun _ => hsize⟩, fun _ => h2.2.2 ?_⟩
    by_cases hflip : i &&& 0xF = 15
    · exact Or.inr (h1.2.2 (Or.inl (decide_eq_true hflip)))
    · exact Or.inl (by simpa using hflip)
  · intro hmore
    have hread : w1.AtPort p (Holding stays (bytes ++ (List.range (i + 1)).map data)) (w1.setPort p Port.popRx) :=
      World.atPort_setPort _ (holding_popRx h1.2.1)
    have hcount := hread.trans (World.atPort_setPort Port.countRx (holding_countRx hread.2))
    simp only [Proc.wp_bind, wp_readVsRx, countRx, wp_modifyPort, Proc.wp_ite, Proc.wp_pure]
    constructor
    · intro _
      exact Or.inr ⟨trivial, by omega, hpushed.trans hcount⟩
    · intro hrx
      have hclosed : ¬ stays := fun hstays => hrx (h1.2.1.rx hstays 0)
      refine Or.inl ⟨trivial, (hpushed.trans hcount).1, ⟨i + 1, hi, hcount.2, fun hstays => absurd hstays hclosed⟩, ?_⟩
      exact fun hstays => absurd hstays hclosed

theorem wp_insertLoop_cut (hcore : core.Documented) (data : ℕ → U8) {size : ℕ} (hsize : 0 < size)
    (h : Holding stays bytes (w.vssDev p)) :
    (Proc.iter (insertPass core p data size) 0).wp (fun _ => w.AtPort p (Cut stays bytes data size)) w := by
  refine Proc.wp_iter
    (fun i w' => i < size ∧ w.AtPort p (Holding stays (bytes ++ (List.range i).map data)) w')
    (fun i _ => size - i) ?_ ⟨hsize, ⟨id, by simp [World.setPort]⟩, by simpa using h⟩
  rintro i w1 ⟨hi, h1⟩
  refine Proc.wp_mono (wp_insertPass_holding hcore data hi h1.2) fun x w2 hx => ?_
  rcases hx with ⟨rfl, h2⟩ | ⟨rfl, hlt, h2⟩
  · exact h1.trans h2
  · exact ⟨⟨hlt, h1.trans h2⟩, by omega⟩

/-! ## The loop of `vs_send_raw` -/

/-- The first bytes of the caller have been inserted; at `LABEL_8` the port has been found closed. Where `before`
    holds, everything had been pushed before the call. -/
structure RawCut (stays before : Prop) (bytes : List U8) (data : ℕ → U8) (count : ℕ) (flipBuf : Option Bool)
    (port : Port) : Prop where
  holding : ∃ n ≤ count, Holding stays (bytes ++ (List.range n).map data) port ∧ (stays → n = count)
  left : stays → flipBuf ≠ none
  covered : 0 < count ∨ before → flipBuf = some true → port.Covered

/-- What holds at the head of the loop; a byte whose `flip_buf` is set ended with a push. -/
structure RawHead (stays before : Prop) (bytes : List U8) (data : ℕ → U8) (count : ℕ) (b : ℕ × Bool)
    (port : Port) : Prop where
  le : b.1 ≤ count
  holding : Holding stays (bytes ++ (List.range b.1).map data) port
  covered : 0 < b.1 ∨ before → b.2 = true → port.Covered

theorem wp_rawPass (hcore : core.Documented) (data : ℕ → U8) {count : ℕ} {b : ℕ × Bool}
    (h : RawHead stays before bytes data count b (w.vssDev p)) :
    (rawPass core p data count b).wp (fun x w' =>
      (∃ flipBuf, x = .inr flipBuf ∧ w.AtPort p (RawCut stays before bytes data count flipBuf) w') ∨
        (∃ flipBuf, x = .inl (b.1 + 1, flipBuf) ∧ b.1 < count ∧
          w.AtPort p (RawHead stays before bytes data count (b.1 + 1, flipBuf)) w')) w := by
  obtain ⟨i, flipBuf⟩ := b
  obtain ⟨hle, hhold, hcovered⟩ := h
  dsimp only at hle hhold hcovered ⊢
  rw [rawPass, Proc.wp_ite]
  constructor
  · intro hi
    have hcount : w.AtPort p (Holding stays (bytes ++ (List.range i).map data)) (w.setPort p Port.countRx) :=
      World.atPort_setPort Port.countRx (holding_countRx hhold)
    have hread := hcount.trans (World.atPort_setPort Port.popRx (holding_popRx hcount.2))
    simp only [Proc.wp_bind, wp_readVsRx, countRx, wp_modifyPort, Proc.wp_ite, Proc.wp_pure]
    constructor
    · intro _
      have hbyte := hread.trans (World.atPort_setPort (Port.insertByte core (data i))
        (holding_insertByte hcore (data i) hread.2))
      rw [← map_range_succ] at hbyte
      refine Proc.wp_mono (wp_pushIf_holding hcore _ hbyte.2) fun _ w1 h1 => Or.inr ⟨_, rfl, hi, ?_⟩
      have hpushed := hbyte.trans h1
      exact ⟨hpushed.1, hi, h1.2.1, fun _ hflip => h1.2.2 (Or.inl hflip)⟩
    · intro hrx
      have hclosed : ¬ stays := fun hstays => hrx (hcount.2.rx hstays 0)
      refine Or.inl ⟨none, rfl, hread.1, ⟨i, hle, hread.2, fun hstays => absurd hstays hclosed⟩, ?_, ?_⟩
      · exact fun hstays => absurd hstays hclosed
      · exact fun _ hnone => absurd hnone (by simp)
  · intro hi
    have hend : i = count := by omega
    rw [Proc.wp_pure]
    refine Or.inl ⟨some flipBuf, rfl, ⟨id, by simp [World.setPort]⟩, ⟨i, hle, hhold, fun _ => hend⟩, ?_, ?_⟩
    · exact fun _ => Option.some_ne_none _
    · intro hpos hflip
      exact hcovered (hend ▸ hpos) (Option.some.inj hflip)

theorem wp_rawLoop (hcore : core.Documented) (data : ℕ → U8) (count : ℕ) (stale : Bool)
    (h : Holding stays bytes (w.vssDev p)) (hbefore : before → (w.vssDev p).Covered) :
    (Proc.iter (rawPass core p data count) (0, stale)).wp
      (fun flipBuf => w.AtPort p (RawCut stays before bytes data count flipBuf)) w := by
  have hstart : RawHead stays before bytes data count (0, stale) (w.vssDev p) :=
    ⟨Nat.zero_le count, by simpa using h, fun hpos _ => hbefore (hpos.resolve_left (Nat.lt_irrefl 0))⟩
  refine Proc.wp_iter (fun b w' => w.AtPort p (RawHead stays before bytes data count b) w')
    (fun b _ => count - b.1) ?_ ⟨⟨id, by simp [World.setPort]⟩, hstart⟩
  intro b w1 h1
  refine Proc.wp_mono (wp_rawPass hcore data h1.2) fun x w2 hx => ?_
  rcases hx with ⟨flipBuf, rfl, h2⟩ | ⟨flipBuf, rfl, hlt, h2⟩
  · exact h1.trans h2
  · exact ⟨h1.trans h2, by dsimp only; omega⟩

/-! ## A call -/

/-- What one call leaves on its port. -/
structure Sent (w : World) (p : Fin 4) (wire : List U8) (port : Port) : Prop where
  part : ∃ part, part <+: wire ∧ port.tty.inserted = (w.vssDev p).tty.inserted ++ part ∧
    (w.Enabled p → part = wire)
  rx : w.Enabled p → ∀ i, port.vsRx.get i ≠ 0
  free : port.locked = false
  covered : w.Enabled p → wire ≠ [] ∨ (w.vssDev p).Covered → port.Covered

theorem map_range_prefix (data : ℕ → U8) {n count : ℕ} (h : n ≤ count) :
    (List.range n).map data <+: (List.range count).map data := by
  obtain ⟨k, rfl⟩ := Nat.exists_eq_add_of_le h
  rw [List.range_add, List.map_append]
  exact List.prefix_append _ _

/-- A call that inserts nothing, as the port is not open to it. -/
theorem sent_none {wire : List U8} (hfree : (w.vssDev p).locked = false) (hclosed : ¬ w.Enabled p)
    (h : (w'.vssDev p).tty = (w.vssDev p).tty ∧ (w'.vssDev p).locked = (w.vssDev p).locked) :
    Sent w p wire (w'.vssDev p) where
  part := ⟨[], List.nil_prefix, by rw [h.1, List.append_nil], fun hw => absurd hw hclosed⟩
  rx hw := absurd hw hclosed
  free := by rw [h.2, hfree]
  covered hw := absurd hw hclosed

theorem wp_vsSendRaw (hcore : core.Documented) (hfree : (w.vssDev p).locked = false) (data : ℕ → U8)
    (count : ℕ) (stale : Bool) :
    (vsSendRaw core p data count stale).wp (fun _ => w.AtPort p (Sent w p (payload data count))) w := by
  simp only [vsSendRaw, Proc.wp_bind, Proc.wp_get, Proc.wp_ite, Proc.wp_pure, wp_readVsRx]
  refine ⟨fun hgate => ⟨fun hopen => ?_, fun hrx => ?_⟩, fun hgate => ?_⟩
  · refine wp_mutexLock (by simpa [Port.popRx] using hfree) ?_
    rw [World.setPort_setPort]
    have hready : w.AtPort p (Holding (w.Enabled p) (w.vssDev p).tty.inserted)
        (w.setPort p (Port.setLocked true ∘ Port.popRx)) :=
      World.atPort_setPort _ ⟨fun hw i => hw.rx (i + 1), rfl, rfl⟩
    have hbefore : (w.vssDev p).Covered →
        ((w.setPort p (Port.setLocked true ∘ Port.popRx)).vssDev p).Covered := by
      rw [World.vssDev_setPort_self]
      exact id
    refine Proc.wp_mono (wp_rawLoop hcore data count stale hready.2 hbefore) fun flipBuf w1 h1 => ?_
    obtain ⟨⟨n, hn, hhold, hall⟩, hleft, hcovered⟩ := h1.2
    refine Proc.wp_mono (wp_pushIf_holding hcore _ hhold) fun _ w2 h2 => ?_
    rw [mutexUnlock, wp_modifyPort]
    refine ((hready.trans h1).trans h2).trans (World.atPort_setPort (Port.setLocked false) ?_)
    obtain ⟨hhold2, hcovered2⟩ := h2.2
    refine ⟨⟨_, map_range_prefix data hn, hhold2.inserted, fun hw => by rw [hall hw, payload]⟩, hhold2.rx, rfl, ?_⟩
    intro hw hwire
    -- a byte whose `flip_buf` is clear is pushed behind the loop
    refine hcovered2 ?_
    cases hflip : flipBuf with
    | none => exact absurd hflip (hleft hw)
    | some pushed =>
      cases pushed with
      | false => exact Or.inl (decide_eq_true rfl)
      | true =>
        refine Or.inr (hcovered ?_ hflip)
        refine hwire.imp_left fun hne => Nat.pos_of_ne_zero fun hzero => hne ?_
        rw [hzero]
        rfl
  · exact ⟨⟨_, rfl⟩, sent_none hfree (fun hw => hrx (hw.rx 0)) (by simp [Port.popRx])⟩
  · exact ⟨⟨id, by simp [World.setPort]⟩, sent_none hfree (fun hw => hgate ⟨hw.init, hw.active⟩) ⟨rfl, rfl⟩⟩

theorem wp_vsSend_sent (hcore : core.Documented) (hfree : (w.vssDev p).locked = false) {cmdData : ℕ → U8}
    {count : ℕ} (f : Frame) (hdata : f.data = payload cmdData count) :
    (vsSend core p f.cmd cmdData count).wp (fun _ => w.AtPort p (Sent w p f.bytes)) w := by
  simp only [vsSend, Proc.wp_bind, Proc.wp_get, Proc.wp_ite, Proc.wp_pure, wp_readVsRx]
  refine ⟨fun hgate => ⟨fun hopen => ?_, fun hrx => ?_⟩, fun hgate => ?_⟩
  · refine wp_mutexLock (by simpa [Port.popRx] using hfree) ?_
    refine wp_buildFrame f hdata fun data hbytes => ?_
    simp only [World.setPort_setPort, countRx, wp_modifyPort]
    have hready : w.AtPort p (Holding (w.Enabled p) (w.vssDev p).tty.inserted)
        (w.setPort p (Port.countRx ∘ Port.popRx ∘ Port.setLocked true ∘ Port.popRx)) :=
      World.atPort_setPort _ ⟨fun hw i => hw.rx (i + 2), rfl, rfl⟩
    constructor
    · intro _
      refine Proc.wp_mono (wp_insertLoop_cut hcore data (Nat.succ_pos _) hready.2) fun _ w1 h1 => ?_
      obtain ⟨⟨n, hn, hhold, hall⟩, hcovered⟩ := h1.2
      simp only [mutexUnlock, wp_modifyPort]
      refine (hready.trans h1).trans (World.atPort_setPort (Port.setLocked false) ?_)
      refine ⟨⟨_, hbytes ▸ map_range_prefix data hn, hhold.inserted, fun hw => ?_⟩, hhold.rx, rfl,
        fun hw _ => hcovered hw⟩
      rw [hall hw, hbytes]
    · intro hrx
      have hclosed : ¬ w.Enabled p := fun hw => hrx (by
        rw [World.vssDev_setPort_self]
        exact hw.rx 1)
      simp only [mutexUnlock, wp_modifyPort]
      refine hready.trans (World.atPort_setPort (Port.setLocked false) ?_)
      exact ⟨⟨[], List.nil_prefix, by rw [List.append_nil]; exact hready.2.inserted, fun hw => absurd hw hclosed⟩,
        hready.2.rx, rfl, fun hw => absurd hw hclosed⟩
  · exact ⟨⟨_, rfl⟩, sent_none hfree (fun hw => hrx (hw.rx 0)) (by simp [Port.popRx])⟩
  · exact ⟨⟨id, by simp [World.setPort]⟩, sent_none hfree (fun hw => hgate ⟨hw.init, hw.active⟩) ⟨rfl, rfl⟩⟩

namespace PortCall

theorem wp_run (hcore : core.Documented) (c : PortCall) (hfree : (w.vssDev c.port).locked = false) :
    (c.run core).wp (fun _ => w.AtPort c.port (Sent w c.port c.wire)) w := by
  cases c with
  | frame c =>
    simp only [run, Proc.wp_bind, Proc.wp_pure]
    exact wp_vsSend_sent hcore hfree c.frame rfl
  | raw port data count stale => exact wp_vsSendRaw hcore hfree data count stale

end PortCall

/-! ## The calls one after the other -/

theorem wiresOf_cons (q : Fin 4) (c : PortCall) (calls : List PortCall) :
    wiresOf q (c :: calls) = if c.port = q then c.wire :: wiresOf q calls else wiresOf q calls := by
  by_cases hq : c.port = q <;> simp [wiresOf, hq]

/-- A port that is open stays so, whichever call comes next. -/
theorem enabled_of_sent {wire : List U8} (h : w.AtPort p (Sent w p wire) w') {q : Fin 4} (hq : w.Enabled q) :
    w'.Enabled q := by
  obtain ⟨⟨f, rfl⟩, hsent⟩ := h
  by_cases hqp : q = p
  · subst hqp
    exact ⟨hq.init, hq.active, hsent.rx hq, hsent.free⟩
  · have hsame := World.vssDev_setPort_ne w f hqp
    exact ⟨hq.init, hq.active, by rw [hsame]; exact hq.rx, by rw [hsame]; exact hq.free⟩

theorem received_nil (hfree : (w.vssDev p).locked = false) : Received w p [] (w.vssDev p) where
  parts := ⟨[], List.Forall₂.nil, by simp, fun _ => rfl⟩
  free := hfree
  covered _ h := h.resolve_left fun hne => hne rfl

/-- A call on the port, and then the others. -/
theorem received_cons {wire : List U8} {wires : List (List U8)} (h : w.AtPort p (Sent w p wire) w')
    (hrest : Received w' p wires port) : Received w p (wire :: wires) port := by
  obtain ⟨part, hpart, hbytes, hwhole⟩ := h.2.part
  obtain ⟨parts, hparts, hmore, hall⟩ := hrest.parts
  refine ⟨⟨part :: parts, List.Forall₂.cons hpart hparts, ?_, ?_⟩, hrest.free, ?_⟩
  · rw [hmore, hbytes, List.flatten_cons, List.append_assoc]
  · intro hw
    rw [hwhole hw, hall (enabled_of_sent h hw)]
  · intro hw hcover
    refine hrest.covered (enabled_of_sent h hw) ?_
    by_cases hwire : wire = []
    · subst hwire
      exact hcover.imp_right fun hcovered => h.2.covered hw (Or.inr hcovered)
    · exact Or.inr (h.2.covered hw (Or.inl hwire))

/-- A call on another port changes nothing here. -/
theorem received_skip {q : Fin 4} {wires : List (List U8)} {wire : List U8} (hq : q ≠ p)
    (h : w.AtPort p (Sent w p wire) w') (hrest : Received w' q wires port) : Received w q wires port := by
  have hsame : w'.vssDev q = w.vssDev q := by
    obtain ⟨⟨f, rfl⟩, -⟩ := h
    exact World.vssDev_setPort_ne w f hq
  obtain ⟨parts, hparts, hmore, hall⟩ := hrest.parts
  rw [hsame] at hmore
  refine ⟨⟨parts, hparts, hmore, fun hw => hall (enabled_of_sent h hw)⟩, hrest.free, fun hw hcover => ?_⟩
  refine hrest.covered (enabled_of_sent h hw) ?_
  rwa [hsame]

/-- Calls of both functions on any ports return, whenever the readers close their ports; each port has got a first
    part of every call, in the order of the calls, and its mutex is free. While it is open it has got everything. -/
theorem sendMixed_received (core : TtyCore) (hcore : core.Documented) (w : World) (calls : List PortCall)
    (hfree : ∀ q, (w.vssDev q).locked = false) :
    (sendMixed core calls).wp (fun _ w' => ∀ q, Received w q (wiresOf q calls) (w'.vssDev q)) w := by
  induction calls generalizing w with
  | nil =>
    simp only [sendMixed, Proc.wp_pure]
    intro q
    exact received_nil (hfree q)
  | cons c calls ih =>
    rw [sendMixed, Proc.wp_bind]
    refine Proc.wp_mono (c.wp_run hcore (hfree c.port)) fun _ w1 h1 => ?_
    have hfree1 : ∀ q, (w1.vssDev q).locked = false := by
      intro q
      by_cases hq : q = c.port
      · subst hq
        exact h1.2.free
      · obtain ⟨⟨f, rfl⟩, -⟩ := h1
        rw [World.vssDev_setPort_ne w f hq]
        exact hfree q
    refine Proc.wp_mono (ih w1 hfree1) fun _ w2 h2 q => ?_
    rw [wiresOf_cons]
    by_cases hq : c.port = q
    · subst hq
      rw [if_pos rfl]
      exact received_cons h1 (h2 c.port)
    · rw [if_neg hq]
      exact received_skip (Ne.symm hq) h1 (h2 q)

/-- Two raw bytes and a frame behind them on the first port. -/
theorem sendMixed_received_two :
    (sendMixed bufferCore
      [.raw 0 (fun i => BitVec.ofNat 8 (i + 7)) 2 false, .frame ⟨0, 0x96, fun _ => 1, 1, by decide⟩]).wp
      (fun _ w' => (w'.vssDev 0).tty.inserted = [7, 8, 0x2E, 0x96, 1, 1, 0x67] ∧ (w'.vssDev 0).Covered)
      openWorld := by
  have hopen : openWorld.Enabled 0 := ⟨rfl, by decide, fun _ => (by decide : (1 : U32) ≠ 0), rfl⟩
  refine Proc.wp_mono (sendMixed_received bufferCore bufferCore_documented openWorld _ fun _ => rfl) fun _ w' h => ?_
  obtain ⟨⟨parts, -, hbytes, hall⟩, -, hcovered⟩ := h 0
  refine ⟨?_, hcovered hopen (Or.inl (by decide))⟩
  rw [hbytes, hall hopen]
  decide

end Vs

end MtcDrivers
