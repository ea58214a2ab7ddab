import Mathlib.Tactic.SplitIfs
import MtcDrivers.Proc.Proofs.WlpProofs
import MtcDrivers.Vs.Frame

/-!
# Proofs: the frames of `vs_send`

A call on an enabled port returns; the buffer it builds holds the bytes of a frame, and it appends them
to the tty of its port and covers them with a push. The bytes that a sequence of calls inserts are then
read back as the list of their frames.
-/

namespace MtcDrivers

namespace Vs

variable {core : TtyCore} {p : Fin 4} {w w' : World} {Q : Unit → World → Prop}

/-! ## One port of the world -/

namespace World

@[simp] theorem vssDev_setPort_self (f : Port → Port) : (w.setPort p f).vssDev p = f (w.vssDev p) := by
  simp [setPort]

theorem vssDev_setPort_ne (w : World) (f : Port → Port) {q : Fin 4} (hq : q ≠ p) :
    (w.setPort p f).vssDev q = w.vssDev q := by
  simp [setPort, hq]

theorem setPort_setPort (f g : Port → Port) : (w.setPort p f).setPort p g = w.setPort p (g ∘ f) := by
  simp [setPort]

@[simp] theorem uartInit_setPort (f : Port → Port) : (w.setPort p f).uartInit = w.uartInit := rfl

@[simp] theorem callActive_setPort (f : Port → Port) : (w.setPort p f).callActive = w.callActive := rfl

/-- Only the port `p` changed, and it satisfies `P`. -/
def AtPort (w : World) (p : Fin 4) (P : Port → Prop) (w' : World) : Prop :=
  (∃ f, w' = w.setPort p f) ∧ P (w'.vssDev p)

theorem AtPort.trans {P P' : Port → Prop} {w'' : World} (h : w.AtPort p P w')
    (h' : w'.AtPort p P' w'') : w.AtPort p P' w'' := by
  obtain ⟨⟨f, rfl⟩, -⟩ := h
  obtain ⟨⟨g, rfl⟩, hP⟩ := h'
  exact ⟨⟨g ∘ f, setPort_setPort f g⟩, hP⟩

theorem atPort_setPort {P : Port → Prop} (f : Port → Port) (h : P (f (w.vssDev p))) :
    w.AtPort p P (w.setPort p f) :=
  ⟨⟨f, rfl⟩, by rwa [vssDev_setPort_self]⟩

end World

@[simp] theorem wp_modifyPort {f : Port → Port} : (modifyPort p f).wp Q w ↔ Q () (w.setPort p f) :=
  Proc.wp_modify

@[simp] theorem wp_readVsRx {Q : U32 → World → Prop} : (readVsRx p).wp Q w ↔
    Q (w.vssDev p).vsRx.head (w.setPort p Port.popRx) := by
  simp only [readVsRx, Proc.wp_bind, Proc.wp_get, wp_modifyPort, Proc.wp_pure]

/-! ## Inserting a byte -/

/-- A port during a call: it stays enabled, and these bytes have been inserted. -/
structure Inserting (bytes : List U8) (port : Port) : Prop where
  rx : ∀ i, port.vsRx.get i ≠ 0
  inserted : port.tty.inserted = bytes

theorem inserting_insertByte (hcore : core.Documented) {port : Port} {bytes : List U8} (char : U8)
    (h : Inserting bytes port) : Inserting (bytes ++ [char]) (port.insertByte core char) := by
  have hslow : Inserting (bytes ++ [char])
      { port with tty := core.insertFlipStringFlags char 0 port.tty } :=
    ⟨h.rx, by rw [hcore.inserted_insert, h.inserted]⟩
  unfold Port.insertByte
  cases htail : port.tty.tail with
  | none => exact hslow
  | some tail =>
    dsimp only
    split_ifs
    · refine ⟨h.rx, ?_⟩
      rw [← h.inserted]
      simp [Tty.inserted, htail, TtyBuffer.append]
    · exact hslow

theorem inserting_push (hcore : core.Documented) {port : Port} {bytes : List U8}
    (h : Inserting bytes port) : Inserting bytes (port.push core) :=
  ⟨h.rx, by rw [Port.push, hcore.inserted_push, h.inserted]⟩

theorem covered_push (hcore : core.Documented) (port : Port) :
    (port.push core).Covered := by
  rw [Port.Covered, Port.push, hcore.pushed_push, hcore.inserted_push]

theorem inserting_popRx {port : Port} {bytes : List U8} (h : Inserting bytes port) :
    Inserting bytes port.popRx :=
  ⟨fun i => h.rx (i + 1), h.inserted⟩

theorem inserting_countRx {port : Port} {bytes : List U8} (h : Inserting bytes port) :
    Inserting bytes port.countRx :=
  ⟨h.rx, h.inserted⟩

/-! ## The insertion loop -/

/-- A push, if there is one, keeps what was inserted, and covers it. -/
theorem wp_pushIf (hcore : core.Documented) (c : Bool) {bytes : List U8}
    (h : Inserting bytes (w.vssDev p)) :
    (pushIf core p c).wp (fun _ => w.AtPort p fun port =>
      Inserting bytes port ∧ (c = true ∨ (w.vssDev p).Covered → port.Covered)) w := by
  rw [pushIf]
  cases c with
  | true =>
    rw [if_pos rfl, wp_modifyPort]
    exact World.atPort_setPort _ ⟨inserting_push hcore h, fun _ => covered_push hcore _⟩
  | false =>
    rw [if_neg Bool.false_ne_true, Proc.wp_pure]
    refine ⟨⟨id, by simp [World.setPort]⟩, h, ?_⟩
    rintro (hfalse | hcovered)
    · exact absurd hfalse Bool.false_ne_true
    · exact hcovered

/-- One pass inserts one byte; the last one leaves nothing uncovered. -/
theorem wp_insertPass (hcore : core.Documented) (data : ℕ → U8) (size i : ℕ) {bytes : List U8}
    (h : Inserting bytes (w.vssDev p)) :
    (insertPass core p data size i).wp (fun x w' =>
      if size ≤ i + 1 then
        x = .inr () ∧ w.AtPort p (fun port => Inserting (bytes ++ [data i]) port ∧ port.Covered) w'
      else x = .inl (i + 1) ∧ w.AtPort p (Inserting (bytes ++ [data i])) w') w := by
  have hbyte : w.AtPort p (Inserting (bytes ++ [data i]))
      (w.setPort p (Port.insertByte core (data i))) :=
    World.atPort_setPort _ (inserting_insertByte hcore (data i) h)
  simp only [insertPass, Proc.wp_bind, wp_modifyPort]
  refine Proc.wp_mono (wp_pushIf hcore _ hbyte.2) fun _ w1 h1 => ?_
  have hpushed := hbyte.trans h1
  rw [Proc.wp_ite]
  constructor
  · intro hlast
    simp only [if_pos hlast, Proc.wp_bind, Proc.wp_pure]
    refine Proc.wp_mono (wp_pushIf hcore _ h1.2.1) fun _ w2 h2 => ?_
    refine ⟨trivial, (hpushed.trans h2).1, h2.2.1, h2.2.2 ?_⟩
    -- either the byte ended with a push, or the rest does
    by_cases hflip : i &&& 0xF = 15
    · exact Or.inr (h1.2.2 (Or.inl (decide_eq_true hflip)))
    · exact Or.inl (by simpa using hflip)
  · intro hmore
    have hread : w1.AtPort p (Inserting (bytes ++ [data i])) (w1.setPort p Port.popRx) :=
      World.atPort_setPort _ (inserting_popRx h1.2.1)
    have hcount := hread.trans (World.atPort_setPort Port.countRx (inserting_countRx hread.2))
    simp only [if_neg hmore, Proc.wp_bind, wp_readVsRx, countRx, wp_modifyPort, Proc.wp_ite, Proc.wp_pure]
    constructor
    · intro hrx
      exact ⟨trivial, hpushed.trans hcount⟩
    · intro hrx
      exact absurd (h1.2.1.rx 0) hrx

theorem wp_insertLoop (hcore : core.Documented) (data : ℕ → U8) {size : ℕ} (hsize : 0 < size)
    {bytes : List U8} (h : Inserting bytes (w.vssDev p)) :
    (Proc.iter (insertPass core p data size) 0).wp (fun _ => w.AtPort p fun port =>
      Inserting (bytes ++ (List.range size).map data) port ∧ port.Covered) w := by
  refine Proc.wp_iter
    (fun i w' => i < size ∧ w.AtPort p (Inserting (bytes ++ (List.range i).map data)) w')
    (fun i _ => size - i) ?_ ⟨hsize, ⟨id, by simp [World.setPort]⟩, by simpa using h⟩
  rintro i w1 ⟨hi, h1⟩
  have hnext : bytes ++ (List.range (i + 1)).map data =
      bytes ++ (List.range i).map data ++ [data i] := by
    rw [List.range_succ, List.map_append, List.append_assoc]
    rfl
  refine Proc.wp_mono (wp_insertPass hcore data size i h1.2) fun x w2 hx => ?_
  by_cases hlast : size ≤ i + 1
  · rw [if_pos hlast] at hx
    obtain ⟨rfl, h2⟩ := hx
    have hsize' : size = i + 1 := by omega
    dsimp only [Sum.elim_inr]
    rw [hsize', hnext]
    exact h1.trans h2
  · rw [if_neg hlast] at hx
    obtain ⟨rfl, h2⟩ := hx
    refine ⟨⟨by omega, ?_⟩, by omega⟩
    rw [hnext]
    exact h1.trans h2

/-! ## Building the frame -/

/-- The local variables of the copy loop after `n` data bytes. -/
structure Copied (cmdData : ℕ → U8) (header : ℕ → U8) (checksum : U8) (n : ℕ) (c : Copy) : Prop where
  cmdP : c.cmdP = n
  dataPos : c.dataPos = n + 2
  data : ∀ j, c.data j = if 3 ≤ j ∧ j < n + 3 then cmdData (j - 3) else header j
  checksum : c.checksum = (payload cmdData n).foldl (fun sum b => sum + b) checksum

theorem copied_pass {cmdData header : ℕ → U8} {checksum : U8} {n : ℕ} {c : Copy}
    (h : Copied cmdData header checksum n c) :
    Copied cmdData header checksum (n + 1) ⟨Function.update c.data (c.dataPos + 1) (cmdData c.cmdP),
      c.dataPos + 1, c.cmdP + 1, c.checksum + cmdData c.cmdP⟩ := by
  obtain ⟨hcmdP, hdataPos, hdata, hchecksum⟩ := h
  refine ⟨by rw [hcmdP], by rw [hdataPos], ?_, ?_⟩
  · intro j
    dsimp only
    rw [hcmdP, hdataPos]
    by_cases hj : j = n + 3
    · subst hj
      simp
    · rw [Function.update_of_ne hj, hdata j]
      have hiff : (3 ≤ j ∧ j < n + 1 + 3) ↔ 3 ≤ j ∧ j < n + 3 := by omega
      simp only [hiff]
  · dsimp only
    rw [hcmdP, hchecksum, payload, payload, List.range_succ, List.map_append, List.foldl_append]
    rfl

theorem wp_copyLoop {Q : Copy → World → Prop} (cmdData header : ℕ → U8) (checksum : U8) {count : ℕ}
    (hcount : count ≠ 0) (hQ : ∀ c, Copied cmdData header checksum count c → Q c w) :
    (Proc.iter (copyPass cmdData count) ⟨header, 2, 0, checksum⟩).wp Q w := by
  have hstart : Copied cmdData header checksum 0 ⟨header, 2, 0, checksum⟩ := by
    refine ⟨rfl, rfl, fun j => ?_, ?_⟩
    · have hno : ¬(3 ≤ j ∧ j < 0 + 3) := by omega
      rw [if_neg hno]
    · simp [payload]
  refine Proc.wp_iter
    (fun c w' => w' = w ∧ c.cmdP < count ∧ Copied cmdData header checksum c.cmdP c)
    (fun c _ => count - c.cmdP) ?_ ⟨rfl, Nat.pos_of_ne_zero hcount, hstart⟩
  rintro c _ ⟨rfl, hlt, hc⟩
  have hnext := copied_pass hc
  simp only [copyPass, Proc.wp_ite, Proc.wp_pure, Sum.elim_inl, Sum.elim_inr]
  constructor
  · intro hne
    exact ⟨⟨trivial, by omega, hnext⟩, by omega⟩
  · intro heq
    have hend : c.cmdP + 1 = count := not_not.mp heq
    rw [hend] at hnext
    refine hQ _ ?_
    rw [hend]
    exact hnext

/-- What the buffer of a frame must hold. -/
theorem map_range_eq_bytes {data cmdData : ℕ → U8} {count : ℕ} (f : Frame)
    (hdata : f.data = payload cmdData count) (h0 : data 0 = 0x2E) (h1 : data 1 = f.cmd)
    (h2 : data 2 = f.count) (hpayload : ∀ j < count, data (3 + j) = cmdData j)
    (hlast : data (3 + count) = Frame.checksum f.cmd f.count f.data) :
    (List.range (count + 4)).map data = f.bytes := by
  have hlen : count + 4 = 3 + (count + 1) := by omega
  have hfirst : (List.range 3).map data = [0x2E, f.cmd, f.count] := by
    rw [← h0, ← h1, ← h2]
    rfl
  have hmid : (List.range count).map (fun j => data (3 + j)) = f.data := by
    rw [hdata, payload]
    exact List.map_congr_left fun j hj => hpayload j (List.mem_range.mp hj)
  rw [hlen, List.range_add, List.map_append, hfirst, List.range_succ, List.map_append, List.map_append,
    List.map_map, List.map_singleton, List.map_singleton, hlast]
  change [0x2E, f.cmd, f.count] ++ ((List.range count).map (fun j => data (3 + j)) ++ _) = _
  rw [hmid]
  rfl

@[simp] theorem header_zero (cmd count : U8) : header cmd count 0 = 46 := by simp [header]

@[simp] theorem header_one (cmd count : U8) : header cmd count 1 = cmd := by simp [header]

@[simp] theorem header_two (cmd count : U8) : header cmd count 2 = count := by simp [header]

theorem wp_buildFrame {Q : (ℕ → U8) → World → Prop} {cmdData : ℕ → U8} {count : ℕ} (f : Frame)
    (hdata : f.data = payload cmdData count)
    (hQ : ∀ data, (List.range (count + 4)).map data = f.bytes → Q data w) :
    (buildFrame f.cmd cmdData count).wp Q w := by
  have hcount : f.count = BitVec.ofNat 8 count := by
    rw [Frame.count, hdata]
    simp [payload]
  rw [buildFrame]
  simp only [Proc.wp_ite, Proc.wp_bind, Proc.wp_pure, ← hcount]
  constructor
  · intro hne
    refine wp_copyLoop cmdData _ _ hne fun c hc => hQ _ (map_range_eq_bytes f hdata ?_ ?_ ?_ ?_ ?_)
    · simp [hc.data]
    · simp [hc.data]
    · simp [hc.data]
    · intro j hj
      have hin : 3 ≤ 3 + j ∧ 3 + j < count + 3 := by omega
      have hother : 3 + j ≠ count + 3 := by omega
      rw [Function.update_of_ne hother, hc.data, if_pos hin, Nat.add_sub_cancel_left]
    · rw [Nat.add_comm 3 count, Function.update_self, hc.checksum, Frame.checksum, hdata,
        BitVec.add_comm f.count]
  · intro hzero
    obtain rfl : count = 0 := not_not.mp hzero
    have hnil : f.data = [] := hdata
    refine hQ _ (map_range_eq_bytes f hdata ?_ ?_ ?_ ?_ ?_)
    · simp
    · simp
    · simp
    · intro j hj
      exact absurd hj (Nat.not_lt_zero j)
    · rw [Function.update_self, Frame.checksum, hnil, BitVec.add_comm f.count]
      rfl

/-! ## A call -/

theorem wp_mutexLock (hfree : (w.vssDev p).locked = false)
    (hQ : Q () (w.setPort p (Port.setLocked true))) : (mutexLock p).wp Q w := by
  rw [mutexLock, Proc.repeatUntil, Proc.wp_iter_pass]
  simp only [Proc.wp_bind, Proc.wp_get, Proc.wp_ite, wp_modifyPort, Proc.wp_pure, hfree]
  exact ⟨fun h => absurd h Bool.false_ne_true, fun _ => hQ⟩

/-- A call on an enabled port returns; it inserted its frame and covered it. -/
theorem wp_vsSend (hcore : core.Documented) (hw : w.Enabled p) {cmdData : ℕ → U8} {count : ℕ}
    (f : Frame) (hdata : f.data = payload cmdData count) :
    (vsSend core p f.cmd cmdData count).wp (fun _ => w.AtPort p fun port =>
      Inserting ((w.vssDev p).tty.inserted ++ f.bytes) port ∧ port.Covered ∧ port.locked = false) w := by
  have hstart : Inserting (w.vssDev p).tty.inserted (w.vssDev p) := ⟨hw.rx, rfl⟩
  have hgate : w.uartInit = true ∧ w.callActive ≠ 0 := ⟨hw.init, hw.active⟩
  have hopen : (w.vssDev p).vsRx.head ≠ 0 := hw.rx 0
  have hopen' : (w.vssDev p).vsRx.tail.head ≠ 0 := hw.rx 1
  simp only [vsSend, Proc.wp_bind, Proc.wp_get, if_pos hgate, wp_readVsRx, if_pos hopen]
  refine wp_mutexLock (by simpa [Port.popRx] using hw.free) ?_
  refine wp_buildFrame f hdata fun data hbytes => ?_
  simp only [World.setPort_setPort, World.vssDev_setPort_self, countRx, wp_modifyPort]
  have hread : ((Port.setLocked true ∘ Port.popRx) (w.vssDev p)).vsRx.head ≠ 0 := hopen'
  have hready : w.AtPort p (Inserting (w.vssDev p).tty.inserted)
      (w.setPort p (Port.countRx ∘ Port.popRx ∘ Port.setLocked true ∘ Port.popRx)) :=
    World.atPort_setPort _ ⟨fun i => hw.rx (i + 2), rfl⟩
  rw [if_pos hread, Proc.wp_bind]
  refine Proc.wp_mono (wp_insertLoop hcore data (Nat.succ_pos _) hready.2) fun _ w1 h1 => ?_
  rw [hbytes] at h1
  obtain ⟨hinserting, hcovered⟩ := h1.2
  simp only [mutexUnlock, Proc.wp_bind, wp_modifyPort, Proc.wp_pure]
  exact (hready.trans h1).trans
    (World.atPort_setPort (Port.setLocked false) ⟨⟨hinserting.rx, hinserting.inserted⟩, hcovered, rfl⟩)

/-! ## The calls one after the other -/

theorem enabled_of_atPort {P : Port → Prop} {bytes : List U8} {q : Fin 4} (hq : w.Enabled q)
    (h : w.AtPort p P w') (hport : Inserting bytes (w'.vssDev p) ∧ (w'.vssDev p).locked = false) :
    w'.Enabled q := by
  by_cases hqp : q = p
  · subst hqp
    obtain ⟨⟨f, rfl⟩, -⟩ := h
    exact ⟨hq.init, hq.active, hport.1.rx, hport.2⟩
  · obtain ⟨⟨f, rfl⟩, -⟩ := h
    have hsame := World.vssDev_setPort_ne w f hqp
    exact ⟨hq.init, hq.active, by rw [hsame]; exact hq.rx, by rw [hsame]; exact hq.free⟩

theorem framesOf_cons (c : Call) (calls : List Call) (q : Fin 4) :
    framesOf q (c :: calls) = if c.port = q then c.frame :: framesOf q calls else framesOf q calls := by
  by_cases hq : c.port = q <;> simp [framesOf, hq]

/-- The calls append their frames to the ttys of their ports, and cover them. -/
theorem wp_sendAll (hcore : core.Documented) (calls : List Call)
    (hw : ∀ c ∈ calls, w.Enabled c.port) :
    (sendAll core calls).wp (fun _ w' => ∀ q,
      (w'.vssDev q).tty.inserted =
        (w.vssDev q).tty.inserted ++ (framesOf q calls).flatMap Frame.bytes ∧
      ((∃ c ∈ calls, c.port = q) ∨ (w.vssDev q).Covered → (w'.vssDev q).Covered)) w := by
  induction calls generalizing w with
  | nil =>
    simp only [sendAll, Proc.wp_pure]
    rintro q
    refine ⟨by simp [framesOf], ?_⟩
    rintro (⟨c, hc, -⟩ | hcovered)
    · exact absurd hc List.not_mem_nil
    · exact hcovered
  | cons c calls ih =>
    obtain ⟨hc, hrest⟩ := List.forall_mem_cons.mp hw
    rw [sendAll, Proc.wp_bind]
    refine Proc.wp_mono (wp_vsSend hcore hc c.frame rfl) fun _ w1 h1 => ?_
    obtain ⟨hinserting, hcovered, hfree⟩ := h1.2
    have hw1 : ∀ c' ∈ calls, w1.Enabled c'.port := fun c' hc' =>
      enabled_of_atPort (hrest c' hc') h1 ⟨hinserting, hfree⟩
    refine Proc.wp_mono (ih hw1) fun _ w2 h2 q => ?_
    obtain ⟨hbytes, hcover⟩ := h2 q
    rw [framesOf_cons]
    by_cases hq : c.port = q
    · subst hq
      rw [if_pos rfl, hbytes, hinserting.inserted, List.flatMap_cons, List.append_assoc]
      exact ⟨rfl, fun _ => hcover (Or.inr hcovered)⟩
    · obtain ⟨⟨f, rfl⟩, -⟩ := h1
      have hsame := World.vssDev_setPort_ne w f (Ne.symm hq)
      rw [if_neg hq, hbytes, hsame]
      refine ⟨rfl, fun h => hcover ?_⟩
      rcases h with ⟨c', hc', hport⟩ | hold
      · rcases List.mem_cons.mp hc' with rfl | hmem
        · exact absurd hport hq
        · exact Or.inl ⟨c', hmem, hport⟩
      · rw [hsame]
        exact Or.inr hold

/-- What calls on enabled ports insert is the frames of their data; it is read back as these frames, and
every byte of it has been covered by a push. -/
theorem sendAll_frames (core : TtyCore) (hcore : core.Documented) (w : World) (calls : List Call)
    (hw : ∀ c ∈ calls, w.Enabled c.port) :
    (sendAll core calls).wp (fun _ w' => ∀ q,
      (w'.vssDev q).tty.inserted =
        (w.vssDev q).tty.inserted ++ (framesOf q calls).flatMap Frame.bytes ∧
      framing.decodeAll ((w'.vssDev q).tty.inserted.drop (w.vssDev q).tty.inserted.length) =
        some (framesOf q calls) ∧
      ((∃ c ∈ calls, c.port = q) → (w'.vssDev q).Covered)) w := by
  refine Proc.wp_mono (wp_sendAll hcore calls hw) fun _ w' h q => ?_
  obtain ⟨hbytes, hcovered⟩ := h q
  refine ⟨hbytes, ?_, fun hq => hcovered (Or.inl hq)⟩
  rw [hbytes, List.drop_left]
  exact framing.decodeAll_flatMap (framesOf q calls)

/-- A core that takes a new buffer for every character outside the tail. -/
def bufferCore : TtyCore where
  insertFlipStringFlags char flag t :=
    { t with older := t.older ++ t.tail.toList, tail := some ⟨[char], [flag], 256⟩ }
  flipBufferPush t := { t with pushed := t.inserted.length }

theorem bufferCore_documented : bufferCore.Documented where
  inserted_insert char flag t := by
    cases htail : t.tail with
    | none => simp [bufferCore, Tty.inserted, htail]
    | some tail => simp [bufferCore, Tty.inserted, htail]
  inserted_push _ := rfl
  pushed_push _ := rfl

/-- Four open ports. -/
def openWorld : World := ⟨true, 1, fun _ => ⟨Stream'.const 1, 0, false, ⟨[], none, 0⟩⟩⟩

/-- The mute flag, and a name of twenty bytes. -/
def muteAndName : List Call :=
  [⟨2, 0x96, fun _ => 1, 1, by decide⟩, ⟨2, 0x99, fun i => BitVec.ofNat 8 (0x41 + i), 20, by decide⟩]

theorem sendAll_frames_mute_name :
    (sendAll bufferCore muteAndName).wp (fun _ w' =>
      (w'.vssDev 2).tty.inserted = [0x2E, 0x96, 1, 1, 0x67] ++ (0x2E :: 0x99 :: 20 ::
        ((List.range 20).map (fun i => BitVec.ofNat 8 (0x41 + i)) ++ [0x80])) ∧
      (w'.vssDev 2).Covered) openWorld := by
  have hopen : ∀ q, openWorld.Enabled q := fun q => ⟨rfl, by decide, fun _ => (by decide : (1 : U32) ≠ 0), rfl⟩
  refine Proc.wp_mono (sendAll_frames bufferCore bufferCore_documented openWorld muteAndName
    fun c _ => hopen c.port) fun _ w' h => ?_
  obtain ⟨hbytes, -, hcovered⟩ := h 2
  exact ⟨hbytes.trans (by decide), hcovered ⟨_, List.mem_cons_self, rfl⟩⟩

end Vs

end MtcDrivers
