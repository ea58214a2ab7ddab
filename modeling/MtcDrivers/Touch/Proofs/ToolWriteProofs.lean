import Mathlib.Data.List.GetD
import Mathlib.Data.Nat.Init
import MtcDrivers.Touch.Proofs.ToolReadProofs

/-!
# Proofs: writing with the panel tool

The length in the header is never compared with the buffers, and what is passed to the panel begins behind the two
bytes of the register address.
-/

namespace MtcDrivers

namespace PanelTool

open History Proc

variable {s s' s'' : Tool} {user : List U8}

/-! ## What a part of a call stores -/

/-- The event passes nothing to the panel. -/
def NoWrite (e : Event) : Prop := ∀ off bytes ok, e ≠ .gtpWrite off bytes ok

/-- Nothing is passed to the panel, and the stores lie in their buffers exactly if `c`. -/
def StoresIf (c : Prop) (s s' : Tool) : Prop :=
  ∃ new, Grew Tool.log new s s' ∧ (∀ e ∈ new, NoWrite e) ∧ ((∀ e ∈ new, e.InBounds) ↔ c)

variable {c c' : Prop}

theorem StoresIf.of_eq (h : s'.log = s.log) : StoresIf True s s' :=
  ⟨[], grew_nil.mpr h, fun _ he => absurd he List.not_mem_nil,
    ⟨fun _ => trivial, fun _ _ he => absurd he List.not_mem_nil⟩⟩

theorem StoresIf.of_cons {e : Event} (h : s'.log = e :: s.log) (he : NoWrite e) (hc : e.InBounds ↔ c) :
    StoresIf c s s' := by
  refine ⟨[e], grew_one h, ?_, ?_⟩
  · rw [List.forall_mem_singleton]
    exact he
  · rw [List.forall_mem_singleton]
    exact hc

theorem StoresIf.trans (h : StoresIf c s s') (h' : StoresIf c' s' s'') : StoresIf (c ∧ c') s s'' := by
  obtain ⟨new, hgrew, hnone, hin⟩ := h
  obtain ⟨new', hgrew', hnone', hin'⟩ := h'
  refine ⟨new ++ new', hgrew.trans hgrew', fun e he => ?_, ?_⟩
  · rcases List.mem_append.mp he with he | he
    · exact hnone e he
    · exact hnone' e he
  · rw [List.forall_mem_append, hin, hin']

theorem StoresIf.congr (h : StoresIf c s s') (hc : c ↔ c') : StoresIf c' s s' := by
  rw [← hc]
  exact h

/-- A call that passes nothing on does right exactly if its stores lie in their buffers. -/
theorem StoresIf.writeRight_iff (h : StoresIf c s s') (hc : (Header.ofBytes user).Fits ↔ c)
    (hgtp : (Header.ofBytes user).len = 1 → s.gtp = none) : WriteRight user s s' ↔ WriteFits user s := by
  obtain ⟨new, hgrew, hnone, hin⟩ := h
  constructor
  · intro hright
    have hinside := hright.inside
    rw [hgrew.since] at hinside
    exact ⟨hc.mpr (hin.mp hinside), fun hlen => Or.inl (hgtp hlen)⟩
  · rintro ⟨hfits, -⟩
    constructor
    · rw [hgrew.since]
      exact hin.mpr (hc.mp hfits)
    · intro off bytes ok he
      rw [hgrew.since] at he
      exact absurd rfl (hnone _ he off bytes ok)
    · intro hnot
      exact absurd hfits hnot

/-- A call that passes something on does right exactly if, in addition, it passes on the right bytes. -/
theorem StoresIf.writeRight_iff_passes {s3 s4 : Tool} {off : ℕ} {bytes : List U8} {ok : Bool} (h : StoresIf c s s')
    (hgrew : Grew Tool.log [.gtpWrite off bytes ok] s' s3) (hrest : StoresIf True s3 s4)
    (hc : (Header.ofBytes user).Fits ↔ c) (hcmd : (Header.ofBytes user).len = 1) (hgtp : s.gtp ≠ none)
    (hpass : (off + bytes.length ≤ 256 ∧ bytes = [(Header.ofBytes user).comfirmAddr, (Header.ofBytes user).addrLow] ++
      payload user (Header.ofBytes user)) ↔ PassesRight user s) : WriteRight user s s4 ↔ WriteFits user s := by
  obtain ⟨new, hnew, hnone, hin⟩ := h
  obtain ⟨new', hnew', hnone', hin'⟩ := hrest
  have hall := (hnew.trans hgrew).trans hnew'
  constructor
  · intro hright
    have hinside := hright.inside
    have hpassed := hright.passed off bytes ok
    rw [hall.since, List.forall_mem_append, List.forall_mem_append] at hinside
    rw [hall.since] at hpassed
    refine ⟨hc.mpr (hin.mp hinside.1.1), fun _ => Or.inr (hpass.mp (hpassed ?_))⟩
    exact List.mem_append_left _ (List.mem_append_right _ List.mem_cons_self)
  · rintro ⟨hfits, hright⟩
    have hpasses := (hright hcmd).resolve_left hgtp
    constructor
    · rw [hall.since, List.forall_mem_append, List.forall_mem_append, List.forall_mem_singleton]
      exact ⟨⟨hin.mpr (hc.mp hfits), trivial⟩, hin'.mpr trivial⟩
    · intro off' bytes' ok' he
      rw [hall.since, List.mem_append, List.mem_append, List.mem_singleton] at he
      rcases he with (he | he) | he
      · exact absurd rfl (hnone _ he off' bytes' ok')
      · obtain ⟨rfl, rfl, rfl⟩ := Event.gtpWrite.inj he
        exact hpass.mpr hpasses
      · exact absurd rfl (hnone' _ he off' bytes' ok')
    · intro hnot
      exact absurd hfits hnot

/-! ## The bytes from the user -/

theorem copyFromUser_getD {off n k : ℕ} (hk : k < n) :
    (copyFromUser user off n).2.getD k 0 = user.getD (off + k) 0 := by
  rw [copyFromUser, List.getD_eq_getElem _ _ (by simpa using hk), List.getElem_map, List.getElem_range]

theorem length_copyFromUser (off n : ℕ) : (copyFromUser user off n).2.length = n := by
  rw [copyFromUser, List.length_map, List.length_range]

/-- What is read of the header is the header. -/
theorem ofBytes_copyFromUser : Header.ofBytes (copyFromUser user 0 20).2 = Header.ofBytes user := by
  have hget : ∀ k, k < 20 → (copyFromUser user 0 20).2.getD k 0 = user.getD k 0 := by
    intro k hk
    rw [copyFromUser_getD hk, Nat.zero_add]
  rw [Header.ofBytes, Header.ofBytes, hget 0, hget 1, hget 2, hget 8, hget 9, hget 10, hget 11, hget 12, hget 13,
    hget 14, hget 15]
  all_goals decide

theorem copyFromUser_payload {h : Header} (hlen : 20 + h.dataLen.toNat ≤ user.length) :
    copyFromUser user 20 h.dataLen.toNat = (true, payload user h) := by
  have hbytes : (copyFromUser user 20 h.dataLen.toNat).2 = payload user h := by
    refine List.ext_getElem ?_ fun k hk hk' => ?_
    · rw [length_copyFromUser, payload, List.length_take, List.length_drop]
      omega
    · rw [length_copyFromUser] at hk
      rw [← List.getD_eq_getElem _ 0, copyFromUser_getD hk, List.getD_eq_getElem _ _ (by omega)]
      simp only [payload, List.getElem_take, List.getElem_drop]
  rw [← hbytes, copyFromUser, decide_eq_true hlen]

theorem length_payload {h : Header} (hlen : 20 + h.dataLen.toNat ≤ user.length) :
    (payload user h).length = h.dataLen.toNat := by
  rw [payload, List.length_take, List.length_drop]
  omega

/-! ## What is passed on -/

theorem store_inside {memory : ℕ → U8} {off k : ℕ} {bytes : List U8} (hk : k < bytes.length) :
    store memory off bytes (off + k) = bytes[k] := by
  rw [store, if_pos (by omega), Nat.add_sub_cancel_left, List.getD_eq_getElem _ _ hk]

theorem store_outside {memory : ℕ → U8} {off k : ℕ} {bytes : List U8} (hk : k < off ∨ off + bytes.length ≤ k) :
    store memory off bytes k = memory k := by
  rw [store, if_neg (by omega)]

/-- `goodix_tool_buf` with a payload and the register address in front of it. -/
def loaded (buf : ℕ → U8) (p address : List U8) : ℕ → U8 := store (store buf 2 p) 0 address

/-- Two bytes more than the payload, from its start on. -/
theorem loaded_behind {buf : ℕ → U8} {p address : List U8} (haddress : address.length = 2) :
    ((List.range (p.length + 2)).map fun k => loaded buf p address (2 + k)) =
      p ++ [buf (2 + p.length), buf (3 + p.length)] := by
  have hbehind : ∀ k, loaded buf p address (2 + k) = store buf 2 p (2 + k) := fun k => store_outside (by omega)
  have hfirst : ((List.range p.length).map fun k => store buf 2 p (2 + k)) = p := by
    refine List.ext_getElem (by simp) fun k hk hk' => ?_
    rw [List.getElem_map, List.getElem_range, store_inside hk']
  simp only [hbehind, List.range_succ, List.map_append, hfirst, List.append_assoc, List.map_cons, List.map_nil,
    List.singleton_append]
  rw [store_outside (by omega), store_outside (by omega), show 2 + (p.length + 1) = 3 + p.length by omega]

/-- A list that is as it was with two bytes put in front, the last two dropped: the two alternate. -/
theorem append_eq_cons_iff {a b : U8} {xs ys : List U8} (hlen : ys.length = 2) :
    xs ++ ys = [a, b] ++ xs ↔ Alternates a b (xs ++ ys) := by
  constructor
  · intro heq k
    induction k using Nat.twoStepInduction with
    | zero => exact fun hk => List.getElem_of_eq heq hk
    | one => exact fun hk => List.getElem_of_eq heq hk
    | more k ih _ =>
      intro hk
      have hbefore : k < xs.length := by
        rw [List.length_append, hlen] at hk
        omega
      have hprev := ih (by omega)
      rw [List.getElem_append_left hbefore] at hprev
      rw [List.getElem_of_eq heq hk, Nat.add_mod_right, ← hprev]
      rfl
  · intro halt
    refine List.ext_getElem ?_ fun k hk hk' => ?_
    · rw [List.length_append, List.length_append, hlen, Nat.add_comm]
      rfl
    · rw [halt k hk]
      match k with
      | 0 => rfl
      | 1 => rfl
      | k + 2 =>
        have hbefore : k < xs.length := by
          rw [List.length_append, hlen] at hk
          omega
        have hprev := halt k (by omega)
        rw [List.getElem_append_left hbefore] at hprev
        rw [Nat.add_mod_right, ← hprev]
        rfl

/-- What `GTP_WRITE` passes on is right in the one case. -/
theorem passes_right_iff (hlen : 20 + (Header.ofBytes user).dataLen.toNat ≤ user.length) {h : Header}
    (hh : Header.ofBytes user = h) {bytes : List U8} (hbytes : bytes = (List.range (h.addr.toNat + h.dataLen.toNat)).map
      fun k => loaded s.buf (payload user h) [h.comfirmAddr, h.addrLow] (2 + k)) :
    (2 + bytes.length ≤ 256 ∧ bytes = [h.comfirmAddr, h.addrLow] ++ payload user h) ↔ PassesRight user s := by
  rw [hh] at hlen
  have hpayload := length_payload hlen
  have hlength : bytes.length = h.addr.toNat + h.dataLen.toNat := by
    rw [hbytes, List.length_map, List.length_range]
  have hfollow : h.addr = 2 → bytes = payload user h ++
      [s.buf (2 + h.dataLen.toNat), s.buf (3 + h.dataLen.toNat)] := by
    intro haddr
    have hcount : h.addr.toNat + h.dataLen.toNat = (payload user h).length + 2 := by
      rw [haddr, hpayload, Nat.add_comm]
      rfl
    rw [hbytes, hcount, loaded_behind rfl, hpayload]
  have htwo : h.addr = 2 → h.addr.toNat = 2 := fun haddr => congrArg BitVec.toNat haddr
  have hlow : h.addr = 2 → h.addrLow = 2 := fun haddr => congrArg (BitVec.setWidth 8) haddr
  rw [PassesRight, hh]
  constructor
  · rintro ⟨hin, heq⟩
    have haddr : h.addr = 2 := by
      have hsize := congrArg List.length heq
      rw [hlength, List.length_append, hpayload] at hsize
      exact BitVec.eq_of_toNat_eq (Nat.add_right_cancel hsize)
    rw [hlength, htwo haddr] at hin
    rw [hfollow haddr, hlow haddr] at heq
    exact ⟨haddr, by omega, (append_eq_cons_iff rfl).mp heq⟩
  · rintro ⟨haddr, hsize, halt⟩
    rw [hlength, htwo haddr, hfollow haddr, hlow haddr]
    exact ⟨by omega, (append_eq_cons_iff rfl).mpr halt⟩

/-! ## The commands -/

theorem storesIf_storeBuf {off : ℕ} {bytes : List U8} {Q : Unit → Tool → Prop}
    (hQ : ∀ s', StoresIf (off + bytes.length ≤ 256) s s' → s'.gtp = s.gtp → s'.buf = store s.buf off bytes →
      Q () s') : (storeBuf off bytes).wp Q s :=
  wp_modify.mpr (hQ _ (.of_cons rfl (fun _ _ _ => Event.noConfusion) Iff.rfl) rfl rfl)

theorem storesIf_sleep {h : Header} : (sleep h).wp (fun _ s' => StoresIf True s s') s := by
  rw [sleep]
  split_ifs
  · exact wp_modify.mpr (.of_cons rfl (fun _ _ _ => Event.noConfusion) Iff.rfl)
  · exact wp_pure.mpr (.of_eq rfl)

theorem storesIf_copyPayload {h : Header} (hlen : 20 + h.dataLen.toNat ≤ user.length) {Q : Unit → Tool → Prop}
    (hQ : ∀ s', StoresIf (h.dataLen.toNat ≤ 254) s s' → s'.gtp = s.gtp → s'.buf = store s.buf 2 (payload user h) →
      Q () s') : (copyPayload user h.dataLen.toNat).wp Q s := by
  rw [copyPayload, copyFromUser_payload hlen, wp_bind]
  refine storesIf_storeBuf fun s1 h1 hgtp hbuf => wp_pure.mpr (hQ s1 (h1.congr ?_) hgtp hbuf)
  rw [length_payload hlen]
  omega

theorem wp_gtpWrite (f : I2cFunc) {off len : ℕ} {Q : Bool → Tool → Prop}
    (hQ : ∀ ok s', Grew Tool.log [.gtpWrite off ((List.range len).map fun k => s.buf (off + k)) ok] s s' → Q ok s') :
    (gtpWrite f off len).wp Q s := by
  cases f with
  | noExtra =>
    rw [gtpWrite, bufBytes, wp_bind, wp_bind, wp_get, wp_pure, wp_bind]
    refine wp_toolI2cWriteNoExtra fun ok s1 _ _ hlog1 => ?_
    rw [wp_bind, emit, wp_modify]
    exact wp_pure.mpr (hQ ok _ (grew_one (congrArg _ hlog1)))
  | withExtra =>
    rw [gtpWrite, bufBytes, wp_bind, wp_bind, wp_get, wp_pure, wp_bind, withExtra, wp_bind]
    refine wp_toolI2cWriteNoExtra fun _ s1 _ _ hlog1 => ?_
    rw [wp_bind]
    refine wp_toolI2cWriteNoExtra fun ok s2 _ _ hlog2 => ?_
    rw [wp_bind]
    refine wp_toolI2cWriteNoExtra fun _ s3 _ _ hlog3 => ?_
    rw [wp_pure, wp_bind, emit, wp_modify]
    exact wp_pure.mpr (hQ ok _ (grew_one (congrArg _ (hlog3.trans (hlog2.trans hlog1)))))

/-- `GTP_WRITE` does right exactly if the data fits and, where something is passed on, that is right. -/
theorem writeRegisters_right (hlen : 20 + (Header.ofBytes user).dataLen.toNat ≤ user.length) {h : Header}
    (hh : Header.ofBytes user = h) (hcmd : h.len = 1) :
    (toolWriteRegisters user h).wp (fun _ s' => WriteRight user s s' ↔ WriteFits user s) s := by
  have hfits : (Header.ofBytes user).Fits ↔ h.dataLen.toNat ≤ 254 := by
    rw [Header.Fits, hh, if_pos (Or.inl hcmd)]
  rw [toolWriteRegisters, wp_bind]
  refine storesIf_copyPayload (hh ▸ hlen) fun s1 h1 hgtp1 hbuf1 => ?_
  rw [wp_bind]
  refine storesIf_storeBuf fun s2 h2 hgtp2 hbuf2 => ?_
  have hstores : StoresIf (h.dataLen.toNat ≤ 254) s s2 :=
    (h1.trans h2).congr (and_iff_left (show 0 + 2 ≤ 256 by decide))
  have hcomfirm : ¬(h.comfirm = 1 ∧ goodixComfirm = 0) := fun hno => absurd hno.2 (by decide)
  rw [if_neg hcomfirm, wp_bind, wp_get, hgtp2, hgtp1]
  cases hgtp : s.gtp with
  | none => exact wp_pure.mpr (hstores.writeRight_iff hfits fun _ => hgtp)
  | some f =>
    rw [wp_bind]
    refine wp_gtpWrite f fun ok s3 hgrew3 => ?_
    have hrest : ∀ s4, StoresIf True s3 s4 → (WriteRight user s s4 ↔ WriteFits user s) := by
      intro s4 h4
      refine hstores.writeRight_iff_passes hgrew3 h4 hfits (hh ▸ hcmd) (hgtp ▸ Option.some_ne_none f) ?_
      have hbuf : s2.buf = loaded s.buf (payload user h) [h.comfirmAddr, h.addrLow] := by
        rw [hbuf2, hbuf1]
        rfl
      rw [hbuf, hh]
      exact passes_right_iff hlen hh rfl
    cases ok with
    | true =>
      rw [if_pos rfl, wp_bind]
      exact wp_mono storesIf_sleep fun _ s4 h4 => wp_pure.mpr (hrest s4 h4)
    | false =>
      rw [if_neg Bool.false_ne_true, wp_bind, emit, wp_modify]
      exact wp_pure.mpr (hrest _ (.of_cons rfl (fun _ _ _ => Event.noConfusion) Iff.rfl))

theorem storesIf_register {h : Header} (hlen : 20 + h.dataLen.toNat ≤ user.length) :
    (toolRegister user h).wp (fun _ s' => StoresIf (h.dataLen.toNat ≤ 256) s s') s := by
  have hcopy : (copyRegister user h.dataLen.toNat).wp (fun _ s' => StoresIf (h.dataLen.toNat ≤ 256) s s') s := by
    rw [copyRegister]
    split_ifs with hempty
    · rw [copyFromUser_payload hlen, wp_bind]
      refine storesIf_storeBuf fun s1 h1 _ _ => wp_pure.mpr (h1.congr ?_)
      rw [length_payload hlen, Nat.zero_add]
    · have hfits : True ↔ h.dataLen.toNat ≤ 256 := by
        rw [not_not.mp hempty, true_iff]
        exact Nat.zero_le 256
      exact wp_pure.mpr ((StoresIf.of_eq rfl).congr hfits)
  rw [toolRegister, wp_bind]
  refine wp_mono hcopy fun _ s1 h1 => ?_
  rw [wp_bind, bufBytes, wp_bind, wp_get, wp_pure, wp_bind, storeBuf2, wp_modify, wp_bind, goodixRegisterI2cFunc,
    wp_modify]
  refine wp_pure.mpr ((h1.trans (.of_cons rfl (fun _ _ _ => Event.noConfusion) ?_)).congr (and_self_iff))
  rw [Event.InBounds, List.length_map, List.length_range, Nat.zero_add]

theorem storesIf_updateProc {h : Header} (hlen : 20 + h.dataLen.toNat ≤ user.length) :
    (toolUpdateProc user h).wp (fun _ s' => StoresIf (h.dataLen.toNat ≤ 255) s s') s := by
  rw [toolUpdateProc, wp_bind]
  refine storesIf_storeBuf fun s1 h1 _ _ => ?_
  rw [copyFromUser_payload hlen, wp_bind]
  refine storesIf_storeBuf fun s2 h2 _ _ => wp_pure.mpr ((h1.trans h2).congr ?_)
  rw [List.length_replicate, length_payload hlen]
  omega

theorem storesIf_gesture {h : Header} (hlen : 20 + h.dataLen.toNat ≤ user.length) :
    (toolGesture user h).wp (fun _ s' => StoresIf (h.dataLen.toNat ≤ 254) s s') s := by
  rw [toolGesture, wp_bind]
  refine storesIf_copyPayload hlen fun s1 h1 _ _ => ?_
  rw [wp_bind, wp_modify]
  exact wp_pure.mpr ((h1.trans (.of_eq rfl)).congr (and_iff_left trivial))

/-- The other commands only return. -/
theorem toolCommand_other {h : Header} (h1 : h.len ≠ 1) (h3 : h.len ≠ 3) (hF : h.len ≠ 0xF) (h11 : h.len ≠ 0x11) :
    ∃ v, toolCommand user h = pure v := by
  rw [toolCommand, if_neg h1, if_neg h3, if_neg hF, if_neg h11]
  split_ifs
  all_goals exact ⟨_, rfl⟩

theorem command_right (hlen : 20 + (Header.ofBytes user).dataLen.toNat ≤ user.length) {h : Header}
    (hh : Header.ofBytes user = h) :
    (toolCommand user h).wp (fun _ s' => WriteRight user s s' ↔ WriteFits user s) s := by
  have hstores : ∀ {c s'}, h.len ≠ 1 → (h.Fits ↔ c) → StoresIf c s s' → (WriteRight user s s' ↔ WriteFits user s) := by
    intro c s' hne hc hs'
    exact hs'.writeRight_iff (hh ▸ hc) fun hone => absurd (hh ▸ hone) hne
  by_cases h1 : h.len = 1
  · rw [toolCommand, if_pos h1]
    exact writeRegisters_right hlen hh h1
  rw [hh] at hlen
  by_cases h3 : h.len = 3
  · have hfits : h.Fits ↔ h.dataLen.toNat ≤ 256 := by simp [Header.Fits, h3]
    rw [toolCommand, if_neg h1, if_pos h3]
    exact wp_mono (storesIf_register hlen) fun _ _ => hstores h1 hfits
  by_cases hF : h.len = 0xF
  · have hcommand : toolCommand user h = toolUpdateProc user h := by simp [toolCommand, hF]
    have hfits : h.Fits ↔ h.dataLen.toNat ≤ 255 := by simp [Header.Fits, hF]
    rw [hcommand]
    exact wp_mono (storesIf_updateProc hlen) fun _ _ => hstores h1 hfits
  by_cases h11 : h.len = 0x11
  · have hcommand : toolCommand user h = toolGesture user h := by simp [toolCommand, h11]
    have hfits : h.Fits ↔ h.dataLen.toNat ≤ 254 := by simp [Header.Fits, h11]
    rw [hcommand]
    exact wp_mono (storesIf_gesture hlen) fun _ _ => hstores h1 hfits
  · have hfits : h.Fits ↔ True := by rw [Header.Fits, if_neg (not_or.mpr ⟨h1, h11⟩), if_neg h3, if_neg hF]
    obtain ⟨v, hv⟩ := toolCommand_other h1 h3 hF h11
    rw [hv]
    exact wp_pure.mpr (hstores h1 hfits (.of_eq rfl))

/-! ## A call -/

/-- The header that was there before plays no part. -/
theorem writeRight_header {h : Header} : WriteRight user { s with header := h } s' ↔ WriteRight user s s' :=
  ⟨fun hr => ⟨hr.inside, hr.passed, hr.rejected⟩, fun hr => ⟨hr.inside, hr.passed, hr.rejected⟩⟩

theorem write_right (hlen : 20 + (Header.ofBytes user).dataLen.toNat ≤ user.length) :
    (goodixToolWrite user).wp (fun _ s' => WriteRight user s s' ↔ WriteFits user s) s := by
  have hread : (copyFromUser user 0 20).1 = true := decide_eq_true (by omega)
  rw [goodixToolWrite, wp_bind, wp_modify, hread, if_pos rfl, ofBytes_copyFromUser]
  refine wp_mono (command_right hlen rfl) fun _ s' hs' => ?_
  rw [← writeRight_header, hs']
  exact Iff.rfl

/-- Exactly the calls whose data fits, and that pass on the right bytes by chance, are right. -/
theorem tool_write_right_iff (user : List U8) (s : Tool)
    (hlen : 20 + (Header.ofBytes user).dataLen.toNat ≤ user.length) :
    (goodixToolWrite user).wp (fun _ s' => WriteRight user s s') s ↔ WriteFits user s := by
  constructor
  · intro hright
    obtain ⟨v, s', -, hr, hiff⟩ := wp_and_wlp hright (wlp_of_wp (write_right hlen))
    exact hiff.mp hr
  · intro hfits
    exact wp_mono (write_right hlen) fun _ s' hiff => hiff.mpr hfits

/-- Two bytes for the register 0x8002 of a panel that answers, and what is in the buffer. -/
def alternating : Tool := { oneRegister with buf := fun k => if k % 2 = 0 then 0x80 else 2 }

theorem tool_write_right_iff_alternating :
    (goodixToolWrite [1, 0, 0, 0, 0, 0, 0, 0, 0, 0, 2, 0, 2, 0, 0x80, 1, 0, 0, 0, 0, 0x80, 2]).wp
      (fun _ s' => WriteRight [1, 0, 0, 0, 0, 0, 0, 0, 0, 0, 2, 0, 2, 0, 0x80, 1, 0, 0, 0, 0, 0x80, 2] alternating s')
      alternating := by
  refine (tool_write_right_iff _ alternating (by decide)).mpr ⟨show (2 : ℕ) ≤ 254 by decide, fun _ => Or.inr ?_⟩
  refine ⟨rfl, by decide, ?_⟩
  show ∀ k (h : k < 4), [(0x80 : U8), 2, 0x80, 2][k] = if k % 2 = 0 then 0x80 else 2
  decide

/-- 255 bytes for the register 0x8002. -/
def longWrite : List U8 := [1, 0, 0, 0, 0, 0, 0, 0, 0, 0, 255, 0, 2, 0, 0x80, 1, 0, 0, 0, 0] ++ List.replicate 255 0

/-- The last byte is stored behind the buffer. -/
theorem not_writeRight_long : ¬ ∀ user s, 20 + (Header.ofBytes user).dataLen.toNat ≤ user.length →
    (goodixToolWrite user).wp (fun _ s' => WriteRight user s s') s := by
  intro hall
  have hlen : 20 + (Header.ofBytes longWrite).dataLen.toNat ≤ longWrite.length := by
    rw [longWrite, List.length_append, List.length_replicate]
    decide
  obtain ⟨v, s', -, hr, hiff⟩ := wp_and_wlp (hall longWrite oneRegister hlen) (wlp_of_wp (write_right hlen))
  have hfits : (255 : ℕ) ≤ 254 := (hiff.mp hr).1
  exact absurd hfits (by decide)

end PanelTool

end MtcDrivers
