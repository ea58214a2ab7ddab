import Mathlib.Tactic.SplitIfs
import MtcDrivers.Proc.Proofs.WlpProofs
import MtcDrivers.Touch.Tool

/-!
# Proofs: reading with the panel tool

The offset into `userbuf` is advanced before the chunk is stored, so that the first byte is never written; the chunk
that was read last lands behind the end.
-/

namespace MtcDrivers

namespace PanelTool

open History Proc

variable {s s' s'' : Tool}

/-! ## What a part of a call does -/

/-- The event stores nothing in `userbuf`. -/
def NoStore (e : Event) : Prop := ∀ k, e.userByte k = none

/-- The event is no register read. -/
def NoRead (e : Event) : Prop := ∀ len ok, e ≠ .gtpRead len ok

/-- Nothing has been read, and nothing stored in `userbuf`. -/
def Quiet (e : Event) : Prop := NoStore e ∧ NoRead e

/-- The bus as it was, after events of no interest. -/
structure Prepared (s s' : Tool) : Prop where
  header : s'.header = s.header
  gtp : s'.gtp = s.gtp
  transfers : s'.transfers = s.transfers
  log : GrewWith Tool.log Quiet s s'

theorem Prepared.refl (s : Tool) : Prepared s s := ⟨rfl, rfl, rfl, .of_eq rfl⟩

theorem Prepared.trans (h : Prepared s s') (h' : Prepared s' s'') : Prepared s s'' where
  header := h'.header.trans h.header
  gtp := h'.gtp.trans h.gtp
  transfers := h'.transfers.trans h.transfers
  log := (grewWith_isPreorder Tool.log Quiet).trans _ _ _ h.log h'.log

theorem quiet_storeBuf (off len : ℕ) : Quiet (.storeBuf off len) := ⟨fun _ => rfl, fun _ _ => Event.noConfusion⟩

theorem wp_sleep {h : Header} {Q : Unit → Tool → Prop} (hQ : ∀ s', Prepared s s' → Q () s') : (sleep h).wp Q s := by
  have hsleep : ∀ ms, Quiet (.msleep ms) := fun ms => ⟨fun _ => rfl, fun _ _ => Event.noConfusion⟩
  rw [sleep]
  split_ifs
  · exact wp_modify.mpr (hQ _ ⟨rfl, rfl, rfl, .of_cons rfl (hsleep _)⟩)
  · exact wp_pure.mpr (hQ s (.refl s))

theorem wp_storeBuf {off : ℕ} {bytes : List U8} {Q : Unit → Tool → Prop} (hQ : ∀ s', Prepared s s' → Q () s') :
    (storeBuf off bytes).wp Q s :=
  wp_modify.mpr (hQ _ ⟨rfl, rfl, rfl, .of_cons rfl (quiet_storeBuf _ _)⟩)

/-! ## Reading the panel -/

theorem wp_i2cTransfer {Q : Bool → Tool → Prop} : i2cTransfer.wp Q s ↔
    Q (attempts s.header.retry.toNat s.transfers).1
      { s with transfers := (attempts s.header.retry.toNat s.transfers).2 } := by
  simp only [i2cTransfer, wp_bind, wp_get, wp_modify, wp_pure]

/-- A write to the panel records nothing by itself. -/
theorem wp_toolI2cWriteNoExtra {bytes : List U8} {Q : Bool → Tool → Prop}
    (hQ : ∀ ok s', s'.header = s.header → s'.transfers = (attempts s.header.retry.toNat s.transfers).2 →
      s'.log = s.log → Q ok s') : (toolI2cWriteNoExtra bytes).wp Q s := by
  rw [toolI2cWriteNoExtra, wp_bind, wp_i2cTransfer]
  split_ifs
  · simp only [wp_bind, wp_modify, wp_pure]
    exact hQ _ _ rfl rfl rfl
  · exact wp_pure.mpr (hQ _ _ rfl rfl rfl)

theorem wp_toolI2cReadNoExtra {len : ℕ} {Q : Bool → Tool → Prop}
    (hQ : ∀ s', s'.header = s.header → GrewWith Tool.log Quiet s s' →
      Q (attempts s.header.retry.toNat s.transfers).1 s') : (toolI2cReadNoExtra len).wp Q s := by
  rw [toolI2cReadNoExtra, wp_bind, wp_i2cTransfer]
  cases hok : (attempts s.header.retry.toNat s.transfers).1 with
  | true =>
    rw [hok] at hQ
    rw [if_pos rfl]
    simp only [wp_bind, wp_get, storeBuf, wp_modify, wp_pure]
    exact hQ _ rfl (.of_cons rfl (quiet_storeBuf _ _))
  | false =>
    rw [hok] at hQ
    exact wp_pure.mpr (hQ _ rfl (.of_eq rfl))

/-- `gtp_read` succeeds or not by the transfers that are ahead. -/
theorem wp_gtpRead (f : I2cFunc) {len : ℕ} {Q : Bool → Tool → Prop}
    (hQ : ∀ s' new, s'.header = s.header → Grew Tool.log new s s' → registerReads new = [readSucceeds s f] →
      (∀ e ∈ new, NoStore e) → Q (readSucceeds s f) s') : (gtpRead f len).wp Q s := by
  have hlast : ∀ (s1 : Tool) (ok : Bool), s1.header = s.header → GrewWith Tool.log Quiet s s1 →
      ok = readSucceeds s f → Q ok (s1.emit (.gtpRead len ok)) := by
    rintro s1 ok hheader ⟨new, hgrew, hquiet⟩ rfl
    have hend : Grew Tool.log [.gtpRead len (readSucceeds s f)] s1 (s1.emit (.gtpRead len (readSucceeds s f))) := rfl
    refine hQ _ (new ++ [.gtpRead len (readSucceeds s f)]) hheader (hgrew.trans hend) ?_ fun e he => ?_
    · have hnone : registerReads new = [] := by
        refine List.filterMap_eq_nil_iff.mpr fun e he => ?_
        have hread := (hquiet e he).2
        cases e with
        | gtpRead len ok => exact absurd rfl (hread len ok)
        | _ => rfl
      rw [registerReads, List.filterMap_append, ← registerReads, hnone]
      rfl
    · rcases List.mem_append.mp he with he | he
      · exact (hquiet e he).1
      · rw [List.mem_singleton.mp he]
        exact fun _ => rfl
  cases f with
  | noExtra =>
    rw [gtpRead, wp_bind]
    refine wp_toolI2cReadNoExtra fun s1 h1 hlog1 => ?_
    rw [wp_bind, emit, wp_modify]
    exact wp_pure.mpr (hlast s1 _ h1 hlog1 rfl)
  | withExtra =>
    rw [gtpRead, wp_bind, withExtra, wp_bind]
    refine wp_toolI2cWriteNoExtra fun _ s1 h1 htransfers1 hlog1 => ?_
    rw [wp_bind]
    refine wp_toolI2cReadNoExtra fun s2 h2 hlog2 => ?_
    rw [wp_bind]
    refine wp_toolI2cWriteNoExtra fun _ s3 h3 _ hlog3 => ?_
    rw [wp_pure, wp_bind, emit, wp_modify]
    refine wp_pure.mpr (hlast s3 _ (h3.trans (h2.trans h1)) ?_ ?_)
    · have hstart : GrewWith Tool.log Quiet s s1 := .of_eq hlog1
      have hend : GrewWith Tool.log Quiet s2 s3 := .of_eq hlog3
      have hpre := grewWith_isPreorder Tool.log Quiet
      exact hpre.trans _ _ _ (hpre.trans _ _ _ hstart hlog2) hend
    · rw [h1, htransfers1]
      rfl

theorem Prepared.readSucceeds (h : Prepared s s') (f : I2cFunc) : readSucceeds s' f = readSucceeds s f := by
  cases f with
  | noExtra => rw [PanelTool.readSucceeds, PanelTool.readSucceeds, h.header, h.transfers]
  | withExtra => rw [PanelTool.readSucceeds, PanelTool.readSucceeds, h.header, h.transfers]

/-! ## A chunk -/

/-- The first pass: the chunk is stored behind the place that it belongs to. -/
theorem wp_readPass (f : I2cFunc) {b : U16 × ℕ} (hleft : 0 < b.1) {Q : (U16 × ℕ) ⊕ Bool → Tool → Prop}
    (hfail : readSucceeds s f = false → ∀ s' new, Grew Tool.log new s s' → registerReads new = [false] →
      (∀ e ∈ new, NoStore e) → Q (.inr false) s')
    (hok : readSucceeds s f = true → ∀ s' new left i, b.2 < i → Grew Tool.log new s s' →
      registerReads new = [true] → (∀ e ∈ new, e.userByte 0 = none) → (∃ e ∈ new, e.userByte i ≠ none) →
      Q (.inl (left, i)) s') : (readPass f b).wp Q s := by
  have hchunk : 0 < (if b.1 > 128 then 128 else b.1).toNat := by
    split_ifs
    · decide
    · exact hleft
  rw [readPass, if_pos hleft, wp_bind]
  generalize (if b.1 > 128 then 128 else b.1) = chunk at hchunk ⊢
  refine wp_gtpRead f fun s1 new _ hgrew hreads hnone => ?_
  cases hread : readSucceeds s f with
  | false =>
    rw [hread] at hreads
    rw [if_neg Bool.false_ne_true, wp_bind, emit, wp_modify]
    have hprint : Grew Tool.log [.printk .readFailed] s1 (s1.emit (.printk .readFailed)) := rfl
    refine wp_pure.mpr (hfail hread _ _ (hgrew.trans hprint) ?_ fun e he => ?_)
    · rw [registerReads, List.filterMap_append, ← registerReads, hreads]
      rfl
    · rcases List.mem_append.mp he with he | he
      · exact hnone e he
      · rw [List.mem_singleton.mp he]
        exact fun _ => rfl
  | true =>
    rw [hread] at hreads
    rw [if_pos rfl, wp_bind, bufBytes, wp_bind, wp_get, wp_pure, wp_bind, emit, wp_modify]
    generalize hbytes : (List.range chunk.toNat).map (fun k => s1.buf (2 + k)) = bytes
    have hlen : bytes.length = chunk.toNat := by simp [← hbytes]
    have hstore : Grew Tool.log [.storeUser (b.2 + chunk.toNat) bytes] s1
      (s1.emit (.storeUser (b.2 + chunk.toNat) bytes)) := rfl
    refine wp_pure.mpr (hok hread _ _ _ (b.2 + chunk.toNat) (by omega) (hgrew.trans hstore) ?_ (fun e he => ?_) ?_)
    · rw [registerReads, List.filterMap_append, ← registerReads, hreads]
      rfl
    · rcases List.mem_append.mp he with he | he
      · exact hnone e he 0
      · rw [List.mem_singleton.mp he, Event.userByte, if_neg (by omega)]
    · refine ⟨.storeUser (b.2 + chunk.toNat) bytes, List.mem_append_right _ List.mem_cons_self, ?_⟩
      rw [Event.userByte, if_pos (Nat.le_refl _), Nat.sub_self, List.getElem?_eq_getElem (by omega)]
      exact Option.some_ne_none _

/-- Something has been stored, but not the first byte. -/
structure Misplaced (events : List Event) : Prop where
  first : ∀ e ∈ events, e.userByte 0 = none
  stored : ∃ e ∈ events, ∃ k, e.userByte k ≠ none
  read : registerReads events ≠ []

theorem Misplaced.append {events more : List Event} (h : Misplaced events) (hmore : ∀ e ∈ more, e.userByte 0 = none) :
    Misplaced (events ++ more) := by
  obtain ⟨e, he, hstored⟩ := h.stored
  refine ⟨fun e he => ?_, ⟨e, List.mem_append_left _ he, hstored⟩, ?_⟩
  · rcases List.mem_append.mp he with he | he
    · exact h.first e he
    · exact hmore e he
  · rw [registerReads, List.filterMap_append]
    exact List.append_ne_nil_of_left_ne_nil h.read _

/-- The loop, once a chunk has been stored. -/
theorem wlp_readLoop (f : I2cFunc) {b : U16 × ℕ} {new : List Event} (hgrew : Grew Tool.log new s s')
    (hnew : Misplaced new) : (iter (readPass f) b).wlp (fun ok s'' => ∃ new, Grew Tool.log new s s'' ∧
      Misplaced new ∧ (ok = false → false ∈ registerReads new)) s' := by
  refine wlp_iter (fun _ s1 => ∃ new, Grew Tool.log new s s1 ∧ Misplaced new) (fun b s1 h1 => ?_) ⟨new, hgrew, hnew⟩
  obtain ⟨new, hgrew, hnew⟩ := h1
  by_cases hleft : 0 < b.1
  · refine wlp_of_wp (wp_readPass f hleft (fun _ s2 more hmore hreads hnone => ?_)
      fun _ s2 more left i _ hmore _ hnone _ => ?_)
    · refine ⟨new ++ more, hgrew.trans hmore, hnew.append fun e he => hnone e he 0, fun _ => ?_⟩
      rw [registerReads, List.filterMap_append, ← registerReads, ← registerReads, hreads]
      exact List.mem_append_right _ List.mem_cons_self
    · exact ⟨new ++ more, hgrew.trans hmore, hnew.append hnone⟩
  · rw [readPass, if_neg hleft]
    exact wlp_pure.mpr ⟨new, hgrew, hnew, fun h => absurd h Bool.false_ne_true.symm⟩

/-! ## A call -/

theorem written_eq_none {events : List Event} {k : ℕ} :
    written events k = none ↔ ∀ e ∈ events, e.userByte k = none := by
  rw [written, List.findSome?_eq_none_iff]
  simp only [List.mem_reverse]

theorem readRight_of_noReads {v : ℤ} (h : GrewWith Tool.log NoRead s s') : ReadRight s v s' := by
  have hnone : registerReads (since Tool.log s s') = [] := by
    refine List.filterMap_eq_nil_iff.mpr fun e he => ?_
    have hread := h.since e he
    cases e with
    | gtpRead len ok => exact absurd rfl (hread len ok)
    | _ => rfl
  constructor
  · intro hreads
    exact absurd hnone hreads
  · intro hfailed
    rw [hnone] at hfailed
    exact absurd hfailed List.not_mem_nil

theorem readRight_of_noStores (hlen : s.header.dataLen.toNat ≠ 0) (h : GrewWith Tool.log NoStore s s') :
    ReadRight s 0 s' := by
  have hnone : ∀ k, written (since Tool.log s s') k = none := fun k => written_eq_none.mpr fun e he => h.since e he k
  constructor
  · intro _ hv
    exact absurd (Int.natCast_eq_zero.mp hv.symm) hlen
  · intro _
    refine ⟨rfl, 0, Nat.zero_le _, fun k => ?_⟩
    rw [hnone k, if_neg (Nat.not_lt_zero k)]

/-- The first byte is missing, and another one is not. -/
theorem not_holds {events : List Event} (hnew : Misplaced events) (n : ℕ) : ¬Holds s n (written events) := by
  intro h
  obtain ⟨e, he, k, hstored⟩ := hnew.stored
  have hsome : written events k ≠ none := fun hnone => hstored (written_eq_none.mp hnone e he)
  have hzero := written_eq_none.mpr hnew.first
  by_cases hk : k < n
  · rw [h 0, if_pos (Nat.zero_lt_of_lt hk)] at hzero
    exact absurd hzero (Option.some_ne_none _)
  · rw [h k, if_neg hk] at hsome
    exact hsome rfl

theorem noRead_of_quiet (h : GrewWith Tool.log Quiet s s') : GrewWith Tool.log NoRead s s' := by
  obtain ⟨new, hgrew, hquiet⟩ := h
  exact ⟨new, hgrew, fun e he => (hquiet e he).2⟩

theorem wp_readStatus {h : Header} {Q : Unit → Tool → Prop} (hQ : ∀ s', GrewWith Tool.log NoRead s s' → Q () s') :
    (readStatus h).wp Q s := by
  have hstore : ∀ off bytes, NoRead (.storeUser off bytes) := fun _ _ _ _ => Event.noConfusion
  rw [readStatus, wp_bind, wp_get]
  split_ifs
  · exact wp_modify.mpr (hQ _ (.of_cons rfl (hstore _ _)))
  · exact wp_modify.mpr (hQ _ (.of_cons rfl (hstore _ _)))
  · exact wp_pure.mpr (hQ s (.of_eq rfl))

theorem wp_readRegisters {h : Header} {Q : ℤ → Tool → Prop}
    (hnone : h.dataLen = 0 ∨ s.gtp = none → ∀ v s', GrewWith Tool.log Quiet s s' → Q v s')
    (hloop : ∀ f s', 0 < h.dataLen → s.gtp = some f → Prepared s s' →
      (iter (readPass f) (h.dataLen, 0)).wp (fun ok s'' => Q (if ok then (h.dataLen.toNat : ℤ) else 0) s'') s') :
    (readRegisters h).wp Q s := by
  rw [readRegisters, wp_bind]
  refine wp_sleep fun s1 h1 => ?_
  by_cases hlen : h.dataLen > 0
  · rw [if_pos hlen, wp_bind]
    refine wp_storeBuf fun s2 h2 => ?_
    have hprepared := h1.trans h2
    rw [wp_bind, wp_get, hprepared.gtp]
    cases hgtp : s.gtp with
    | none => exact wp_pure.mpr (hnone (Or.inr hgtp) _ _ hprepared.log)
    | some f =>
      rw [wp_bind]
      refine wp_mono (hloop f s2 hlen hgtp hprepared) fun ok s3 h3 => ?_
      cases ok with
      | true => exact wp_pure.mpr h3
      | false => exact wp_pure.mpr h3
  · have hzero : h.dataLen = 0 := BitVec.le_zero_iff.mp (BitVec.not_lt.mp hlen)
    rw [if_neg hlen]
    exact wp_pure.mpr (hnone (Or.inl hzero) _ _ h1.log)

/-- A call that does not read registers, or not even the first of them. -/
theorem read_right (h : NoRegisterRead s ∨ FirstReadFails s) :
    goodixToolRead.wp (fun v s' => ReadRight s v s') s := by
  rw [goodixToolRead, wp_bind, wp_get]
  by_cases hodd : s.header.len &&& 1 ≠ 0
  · rw [if_pos hodd]
    exact wp_pure.mpr (readRight_of_noReads (.of_eq rfl))
  · rw [if_neg hodd]
    by_cases hlen : s.header.len ≠ 0
    · rw [if_pos hlen, wp_bind]
      exact wp_readStatus fun s1 h1 => wp_pure.mpr (readRight_of_noReads h1)
    · rw [if_neg hlen, if_pos (Or.inr (by decide))]
      refine wp_readRegisters (fun _ v s1 h1 => readRight_of_noReads (noRead_of_quiet h1)) fun f s1 hdata hgtp h1 => ?_
      have hfails : readSucceeds s1 f = false := by
        rcases h with (hlen' | hdata' | hgtp') | ⟨f', hgtp', hfails⟩
        · exact absurd hlen' hlen
        · rw [hdata'] at hdata
          exact absurd hdata (by decide)
        · rw [hgtp'] at hgtp
          exact absurd hgtp (Option.some_ne_none f).symm
        · obtain rfl : f' = f := Option.some.inj (hgtp'.symm.trans hgtp)
          rw [h1.readSucceeds, hfails]
      refine wp_iter_pass.mpr (wp_readPass f hdata (fun _ s2 new hgrew _ hnone => ?_) fun hok => ?_)
      · have hstores : GrewWith Tool.log NoStore s s2 := by
          obtain ⟨before, hbefore, hquiet⟩ := h1.log
          refine ⟨before ++ new, hbefore.trans hgrew, fun e he => ?_⟩
          rcases List.mem_append.mp he with he | he
          · exact (hquiet e he).1
          · exact hnone e he
        have hne : s.header.dataLen.toNat ≠ 0 := Nat.pos_iff_ne_zero.mp hdata
        exact readRight_of_noStores hne hstores
      · rw [hfails] at hok
        exact absurd hok Bool.false_ne_true

/-- A call whose first chunk is read. -/
theorem read_wrong (h : ¬(NoRegisterRead s ∨ FirstReadFails s)) :
    goodixToolRead.wlp (fun v s' => ¬ReadRight s v s') s := by
  have hlen : s.header.len = 0 := by
    by_contra hne
    exact h (Or.inl (Or.inl hne))
  have hdata : 0 < s.header.dataLen := by
    by_contra hle
    exact h (Or.inl (Or.inr (Or.inl (BitVec.le_zero_iff.mp (BitVec.not_lt.mp hle)))))
  obtain ⟨f, hgtp⟩ : ∃ f, s.gtp = some f :=
    Option.ne_none_iff_exists'.mp fun hnone => h (Or.inl (Or.inr (Or.inr hnone)))
  have hreads : readSucceeds s f = true := by
    by_contra hfails
    exact h (Or.inr ⟨f, hgtp, eq_false_of_ne_true hfails⟩)
  have heven : ¬(s.header.len &&& 1 ≠ 0) := by
    rw [hlen]
    decide
  rw [goodixToolRead, wlp_bind, wlp_get, if_neg heven, if_neg (not_not.mpr hlen), if_pos (Or.inr (by decide)),
    readRegisters, wlp_bind]
  refine wlp_of_wp (wp_sleep fun s1 h1 => ?_)
  rw [if_pos hdata, wlp_bind]
  refine wlp_of_wp (wp_storeBuf fun s2 h2 => ?_)
  have hprepared := h1.trans h2
  rw [wlp_bind, wlp_get, hprepared.gtp, hgtp, wlp_bind]
  obtain ⟨before, hbefore, hquiet⟩ := hprepared.log
  refine wlp_iter_pass (wlp_of_wp (wp_readPass f hdata (fun hfails => ?_)
    fun _ s3 new left i hi hgrew hnew hfirst hstored => ?_))
  · rw [hprepared.readSucceeds, hreads] at hfails
    exact absurd hfails Bool.false_ne_true.symm
  · have hmisplaced : Misplaced (before ++ new) := by
      obtain ⟨e, he, hsome⟩ := hstored
      refine ⟨fun e he => ?_, ⟨e, List.mem_append_right _ he, i, hsome⟩, ?_⟩
      · rcases List.mem_append.mp he with he | he
        · exact (hquiet e he).1 0
        · exact hfirst e he
      · rw [registerReads, List.filterMap_append, ← registerReads, ← registerReads, hnew]
        exact List.append_ne_nil_of_right_ne_nil _ (List.cons_ne_nil _ _)
    refine wlp_mono (wlp_readLoop f (hbefore.trans hgrew) hmisplaced) fun ok s4 h4 => ?_
    obtain ⟨all, hall, hmisplaced, hfailed⟩ := h4
    cases ok with
    | true =>
      refine wlp_pure.mpr fun hright => ?_
      have hwhole := hright.whole
      rw [hall.since] at hwhole
      exact not_holds hmisplaced _ (hwhole hmisplaced.read rfl)
    | false =>
      refine wlp_pure.mpr fun hright => ?_
      have hprefix := hright.failed
      rw [hall.since] at hprefix
      obtain ⟨-, n, -, hholds⟩ := hprefix (hfailed rfl)
      exact not_holds hmisplaced n hholds

/-- Exactly the calls that store nothing are right. -/
theorem tool_read_right_iff (s : Tool) :
    goodixToolRead.wp (fun v s' => ReadRight s v s') s ↔ NoRegisterRead s ∨ FirstReadFails s := by
  constructor
  · intro hright
    by_contra h
    obtain ⟨v, s', -, hr, hwrong⟩ := wp_and_wlp hright (read_wrong h)
    exact hwrong hr
  · exact read_right

/-! ### One register of a panel that answers -/

/-- The transfers succeed, and one register is asked for. -/
def oneRegister : Tool where
  header :=
    { len := 0
      comfirm := 0
      sleepTime := 0
      dataLen := 1
      addr := 0x47
      comfirmAddr := 0x80
      retry := 1 }
  buf := fun _ => 0
  buf2 := fun _ => 0
  gtp := some .withExtra
  registers := fun _ => 0
  transfers := .const true
  gestureFlag := none
  touchStatus := 0
  touchX := 0
  touchY := 0
  log := []

/-- The byte lands in `userbuf[1]`. -/
theorem not_readRight_one : ¬ ∀ s, goodixToolRead.wp (fun v s' => ReadRight s v s') s := by
  intro hall
  have hone : ¬(NoRegisterRead oneRegister ∨ FirstReadFails oneRegister) := by
    rintro ((h | h | h) | ⟨f, hgtp, hfails⟩)
    · exact h rfl
    · exact absurd h (by decide)
    · exact absurd h (Option.some_ne_none _)
    · obtain rfl : f = .withExtra := (Option.some.inj hgtp).symm
      exact absurd hfails (by decide)
  obtain ⟨v, s', -, hright, hwrong⟩ := wp_and_wlp (hall oneRegister) (read_wrong hone)
  exact hwrong hright

end PanelTool

end MtcDrivers
