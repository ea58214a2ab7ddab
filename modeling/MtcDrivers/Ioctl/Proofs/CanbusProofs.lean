import Mathlib.Tactic.SplitIfs
import MtcDrivers.Ioctl.Canbus
import MtcDrivers.Ioctl.Proofs.TextProofs
import MtcDrivers.Proc.Proofs.WlpProofs

/-!
# Proofs: the `canbus_rsp` request

`get_token_int` in memory takes from the text behind `token_pos` what it takes from a text, and stops in
front of its zero. The loop over the tokens has then stored the low byte of number `j` at index `j`.
-/

namespace MtcDrivers

variable {s s' : CanbusState} {N : ℕ} {text : Text} {bs : List U32}

/-! ## A text in memory -/

/-- The text from `p` on is empty, or it starts with the byte there. -/
theorem cString_drop (l : List U8) (p : ℕ) :
    (l.getD p 0 = 0 ∧ cString (l.drop p) = []) ∨
      (l.getD p 0 ≠ 0 ∧ cString (l.drop p) = l.getD p 0 :: cString (l.drop (p + 1))) := by
  rcases Nat.lt_or_ge p l.length with hlt | hge
  · have hdrop := List.drop_eq_getElem_cons hlt
    have hbyte : l.getD p 0 = l[p] := by simp [List.getD, hlt]
    by_cases hzero : l[p] = 0
    · refine Or.inl ⟨hbyte.trans hzero, ?_⟩
      rw [hdrop, hzero]
      rfl
    · refine Or.inr ⟨hbyte ▸ hzero, ?_⟩
      rw [hdrop, cString_cons hzero, hbyte]
  · refine Or.inl ⟨by simp [List.getD, hge], ?_⟩
    rw [List.drop_eq_nil_of_le hge]
    rfl

/-- `token_pos` has `text` in front of it, up to the zero at `N`, which it has not passed so far. -/
structure StandsAt (N : ℕ) (text : Text) (s : CanbusState) : Prop where
  left : cString (s.ioctlBuf1.drop s.tokenPos) = text
  zero : s.tokenPos + text.length = N
  moved : ∀ p ∈ s.moved, p ≤ N

namespace StandsAt

theorem byteAt_nil (h : StandsAt N [] s) : s.byteAt s.tokenPos = 0 := by
  rcases cString_drop s.ioctlBuf1 s.tokenPos with ⟨hzero, -⟩ | ⟨-, hcons⟩
  · exact hzero
  · exact absurd (h.left.symm.trans hcons) (List.cons_ne_nil _ _).symm

theorem byteAt_cons {c : U8} (h : StandsAt N (c :: text) s) : s.byteAt s.tokenPos = c ∧ c ≠ 0 := by
  rcases cString_drop s.ioctlBuf1 s.tokenPos with ⟨-, hnil⟩ | ⟨hne, hcons⟩
  · exact absurd (h.left.symm.trans hnil) (List.cons_ne_nil _ _)
  · obtain ⟨hc, -⟩ := List.cons.inj (h.left.symm.trans hcons)
    exact ⟨hc.symm, hc ▸ hne⟩

theorem step {c : U8} (h : StandsAt N (c :: text) s) : StandsAt N text (s.moveTo (s.tokenPos + 1)) := by
  have hzero := h.zero
  rw [List.length_cons] at hzero
  refine ⟨?_, ?_, fun p hp => ?_⟩
  · rcases cString_drop s.ioctlBuf1 s.tokenPos with ⟨-, hnil⟩ | ⟨-, hcons⟩
    · exact absurd (h.left.symm.trans hnil) (List.cons_ne_nil _ _)
    · exact (List.cons.inj (h.left.symm.trans hcons)).2.symm
  · show s.tokenPos + 1 + text.length = N
    omega
  · rcases List.mem_append.mp hp with hp | hp
    · exact h.moved p hp
    · obtain rfl := List.mem_singleton.mp hp
      omega

end StandsAt

/-- Nothing but `token_pos` has changed. -/
structure OnlyMoved (s s' : CanbusState) : Prop where
  ioctlBuf1 : s'.ioctlBuf1 = s.ioctlBuf1
  canBuf : s'.canBuf = s.canBuf
  written : s'.written = s.written
  sent : s'.sent = s.sent

theorem onlyMoved_refl : OnlyMoved s s := ⟨rfl, rfl, rfl, rfl⟩

theorem OnlyMoved.moveTo (h : OnlyMoved s s') (p : ℕ) : OnlyMoved s (s'.moveTo p) :=
  ⟨h.ioctlBuf1, h.canBuf, h.written, h.sent⟩

/-! ## `get_token_int` in memory -/

/-- The value of `r`, with the rest of the text of `r` in front of `token_pos`. -/
def Token (N : ℕ) (s : CanbusState) (r : U32 × Text) (v : U32) (s' : CanbusState) : Prop :=
  v = r.1 ∧ StandsAt N r.2 s' ∧ OnlyMoved s s'

/-- The loop, at a digit `c` with the text behind it. -/
theorem wp_tokenLoop {s₀ : CanbusState} {c : U8} (val : U32) (h : StandsAt N (c :: text) s)
    (hmoved : OnlyMoved s₀ s) :
    (Proc.iter tokenPass ⟨s.tokenPos, c, val⟩).wp (Token N s₀ (tokenLoop val c text)) s := by
  induction text generalizing c val s with
  | nil =>
    have hnext : s.byteAt (s.tokenPos + 1) = 0 := h.step.byteAt_nil
    rw [Proc.wp_iter_pass, tokenLoop]
    simp only [tokenPass, Proc.wp_bind, Proc.wp_get, Proc.wp_modify, Proc.wp_ite, Proc.wp_pure, hnext]
    simp only [Sum.elim_inr, not_true_eq_false, false_implies, and_true, true_implies]
    exact ⟨rfl, h.step, hmoved.moveTo _⟩
  | cons next rest ih =>
    obtain ⟨hnext, hne⟩ := h.step.byteAt_cons
    have hnext : s.byteAt (s.tokenPos + 1) = next := hnext
    rw [Proc.wp_iter_pass, tokenLoop]
    simp only [tokenPass, Proc.wp_bind, Proc.wp_get, Proc.wp_modify, Proc.wp_ite, Proc.wp_pure, hnext]
    refine ⟨fun hzero => absurd hzero hne, fun _ => ⟨fun hcomma => ?_, fun hcomma => ⟨?_, ?_⟩⟩⟩
    · rw [if_pos hcomma]
      exact ⟨rfl, h.step.step, (hmoved.moveTo _).moveTo _⟩
    · intro hdigit
      rw [if_neg hcomma, if_pos hdigit]
      exact ih _ h.step (hmoved.moveTo _)
    · intro hdigit
      rw [if_neg hcomma, if_neg hdigit]
      exact ⟨rfl, h.step, hmoved.moveTo _⟩

theorem wp_getTokenIntAt (h : StandsAt N text s) : getTokenIntAt.wp (Token N s (getTokenInt text)) s := by
  cases text with
  | nil =>
    simp only [getTokenIntAt, Proc.wp_bind, Proc.wp_get, h.byteAt_nil, if_true, Proc.wp_pure]
    exact ⟨rfl, h, onlyMoved_refl⟩
  | cons c text =>
    obtain ⟨hc, hne⟩ := h.byteAt_cons
    rw [getTokenInt]
    simp only [getTokenIntAt, Proc.wp_bind, Proc.wp_get, hc, if_neg hne]
    split_ifs with hcomma hdigit
    · simp only [Proc.wp_bind, Proc.wp_modify, Proc.wp_pure]
      exact ⟨rfl, h.step, onlyMoved_refl.moveTo _⟩
    · exact wp_tokenLoop 0 h onlyMoved_refl
    · rw [Proc.wp_pure]
      exact ⟨rfl, h, onlyMoved_refl⟩

/-! ## The loop over the tokens -/

/-- The numbers `bs` have been collected, and nothing has been sent. -/
structure Collected (N : ℕ) (bs : List U32) (text : Text) (s : CanbusState) : Prop where
  standsAt : StandsAt N text s
  stored : (List.range bs.length).map (fun j => s.canBuf (j + 1)) = bs.map fun b => b.setWidth 8
  written : ∀ i ∈ s.written, i < 100
  sent : s.sent = []

theorem Collected.onlyMoved {text' : Text} (h : Collected N bs text s) (hmoved : OnlyMoved s s')
    (hstands : StandsAt N text' s') : Collected N bs text' s' where
  standsAt := hstands
  stored := by
    rw [hmoved.canBuf]
    exact h.stored
  written := by
    rw [hmoved.written]
    exact h.written
  sent := hmoved.sent.trans h.sent

/-- `can_buf[++i] = intval` -/
theorem Collected.store (h : Collected N bs text s) (hlen : bs.length < 99) (v : U32) :
    Collected N (bs ++ [v]) text (s.store (bs.length + 1) (v.setWidth 8)) where
  standsAt := ⟨h.standsAt.left, h.standsAt.zero, h.standsAt.moved⟩
  stored := by
    have hold : (List.range bs.length).map
        (fun j => Function.update s.canBuf (bs.length + 1) (v.setWidth 8) (j + 1)) =
          bs.map fun b => b.setWidth 8 := by
      rw [← h.stored]
      refine List.map_congr_left fun j hj => Function.update_of_ne ?_ _ _
      have hj := List.mem_range.mp hj
      omega
    rw [List.length_append, List.length_singleton, List.range_succ, List.map_append, List.map_append]
    exact congrArg₂ (· ++ ·) hold (by simp [CanbusState.store])
  written := by
    intro i hi
    rcases List.mem_append.mp hi with hi | hi
    · exact h.written i hi
    · obtain rfl := List.mem_singleton.mp hi
      omega
  sent := h.sent

/-- The ways out of the loop for `n` numbers. -/
inductive LeavesWith : ℕ → CanbusExit → Prop where
  | full : LeavesWith 99 (.label99 100 99)
  | negative (n : ℕ) : LeavesWith n (.negative n)

theorem wp_canbusPass (h : Collected N bs text s) (hlen : bs.length < 99) :
    (canbusPass bs.length).wp (fun x s' =>
      if taken (getTokenInt text).1 then
        x = (if bs.length + 1 = 99 then .inr (.label99 100 99) else .inl (bs.length + 1)) ∧
          Collected N (bs ++ [(getTokenInt text).1]) (getTokenInt text).2 s'
      else x = .inr (.negative bs.length) ∧ Collected N bs (getTokenInt text).2 s') s := by
  rw [canbusPass, Proc.wp_bind]
  refine Proc.wp_mono (wp_getTokenIntAt h.standsAt) ?_
  rintro v s1 ⟨rfl, hstands, hmoved⟩
  have hcollected := h.onlyMoved hmoved hstands
  by_cases htaken : taken (getTokenInt text).1
  · have hstore := hcollected.store hlen (getTokenInt text).1
    simp only [if_pos htaken, Proc.wp_bind, Proc.wp_modify]
    split_ifs with hfull
    · exact Proc.wp_pure.mpr ⟨rfl, hstore⟩
    · exact Proc.wp_pure.mpr ⟨rfl, hstore⟩
  · simp only [if_neg htaken]
    exact Proc.wp_pure.mpr ⟨rfl, hcollected⟩

theorem numbersBefore_succ (limit : ℕ) (text : Text) :
    numbersBefore (limit + 1) text =
      if taken (getTokenInt text).1 then
        (getTokenInt text).1 :: numbersBefore limit (getTokenInt text).2
      else [] := rfl

/-- The loop, with `limit + 1` numbers to go until `can_buf` is full. -/
theorem wp_canbusLoop {limit : ℕ} (h : Collected N bs text s) (hlimit : bs.length + (limit + 1) = 99) :
    (Proc.iter canbusPass bs.length).wp (fun exit s' =>
      LeavesWith (bs ++ numbersBefore (limit + 1) text).length exit ∧
        ∃ rest, Collected N (bs ++ numbersBefore (limit + 1) text) rest s') s := by
  induction limit generalizing bs text s with
  | zero =>
    rw [Proc.wp_iter_pass, numbersBefore_succ]
    refine Proc.wp_mono (wp_canbusPass h (by omega)) fun x s1 hx => ?_
    have hfull : bs.length + 1 = 99 := hlimit
    rw [if_pos hfull] at hx
    split_ifs at hx with htaken
    · obtain ⟨rfl, hcollected⟩ := hx
      rw [if_pos htaken, numbersBefore, List.length_append, List.length_singleton, hfull]
      exact ⟨.full, _, hcollected⟩
    · obtain ⟨rfl, hcollected⟩ := hx
      rw [if_neg htaken, List.append_nil]
      exact ⟨.negative _, _, hcollected⟩
  | succ limit ih =>
    rw [Proc.wp_iter_pass, numbersBefore_succ]
    refine Proc.wp_mono (wp_canbusPass h (by omega)) fun x s1 hx => ?_
    have hfull : ¬bs.length + 1 = 99 := by omega
    rw [if_neg hfull] at hx
    split_ifs at hx with htaken
    · obtain ⟨rfl, hcollected⟩ := hx
      have hrest := ih hcollected (by rw [List.length_append, List.length_singleton]; omega)
      rw [List.length_append, List.length_singleton, List.append_assoc, List.singleton_append] at hrest
      rw [if_pos htaken]
      exact hrest
    · obtain ⟨rfl, hcollected⟩ := hx
      rw [if_neg htaken, List.append_nil]
      exact ⟨.negative _, _, hcollected⟩

/-! ## The reply -/

/-- One message with these numbers, and nothing has been sent before. -/
theorem wp_label99 (h : Collected N bs text s) :
    (label99 (bs.length + 1) (BitVec.ofNat 8 bs.length)).wp (fun ret s' =>
      ret = 0 ∧ s'.sent = [canbusMessage bs] ∧ (∀ i ∈ s'.written, i < 100) ∧
        ∀ p ∈ s'.moved, p ≤ N) s := by
  simp only [label99, Proc.wp_bind, Proc.wp_modify, Proc.wp_pure]
  refine ⟨trivial, ?_, fun i hi => ?_, h.standsAt.moved⟩
  · have hbytes : (List.range (bs.length + 1)).map
        (Function.update s.canBuf 0 (BitVec.ofNat 8 bs.length)) =
          BitVec.ofNat 8 bs.length :: bs.map fun b => b.setWidth 8 := by
      rw [List.range_succ_eq_map, List.map_cons, Function.update_self, List.map_map, ← h.stored]
      refine congrArg _ (List.map_congr_left fun j _ => ?_)
      exact Function.update_of_ne (Nat.succ_ne_zero j) _ _
    simp only [CanbusState.armSendMulti, CanbusState.store, h.sent, List.nil_append, hbytes,
      canbusMessage]
  · rcases List.mem_append.mp hi with hi | hi
    · exact h.written i hi
    · obtain rfl := List.mem_singleton.mp hi
      omega

theorem wp_afterTokens {exit : CanbusExit} (hexit : LeavesWith bs.length exit)
    (h : Collected N bs text s) :
    (afterTokens exit).wp (fun ret s' =>
      (bs ≠ [] → ret = 0 ∧ s'.sent = [canbusMessage bs]) ∧ (bs = [] → ret = -1 ∧ s'.sent = []) ∧
        (∀ i ∈ s'.written, i < 100) ∧ ∀ p ∈ s'.moved, p ≤ N) s := by
  generalize hn : bs.length = n at hexit
  cases hexit with
  | full =>
    have hne : bs ≠ [] := List.ne_nil_of_length_pos (by omega)
    have hreply := wp_label99 h
    rw [hn] at hreply
    refine Proc.wp_mono hreply fun ret s1 h1 => ?_
    exact ⟨fun _ => ⟨h1.1, h1.2.1⟩, fun hnil => absurd hnil hne, h1.2.2⟩
  | negative =>
    rw [afterTokens]
    split_ifs with hzero
    · have hnil : bs = [] := List.eq_nil_of_length_eq_zero (hn.trans hzero)
      rw [Proc.wp_pure]
      exact ⟨fun hne => absurd hnil hne, fun _ => ⟨rfl, h.sent⟩, h.written, h.standsAt.moved⟩
    · have hne : bs ≠ [] := List.ne_nil_of_length_pos (by omega)
      subst hn
      refine Proc.wp_mono (wp_label99 h) fun ret s1 h1 => ?_
      exact ⟨fun _ => ⟨h1.1, h1.2.1⟩, fun hnil => absurd hnil hne, h1.2.2⟩

theorem strcmp_self (t : Text) : strcmp t t = 0 := by
  induction t with
  | nil => rfl
  | cons c t ih => rw [strcmp, if_pos rfl, ih]

theorem collected_atSetHalf (key value : Text) (stack : ℕ → U8) :
    Collected (key.length + 1 + (cString value).length) [] (cString value)
      (.atSetHalf key value stack) where
  standsAt := by
    have hdrop : (key ++ 0 :: value).drop (key.length + 1) = value := by simp
    refine ⟨congrArg cString hdrop, rfl, fun p hp => ?_⟩
    obtain rfl := List.mem_singleton.mp hp
    exact Nat.le_add_right _ _
  stored := rfl
  written i hi := absurd hi List.not_mem_nil
  sent := rfl

/-- Every `canbus_rsp` request is answered, whatever is behind the `=` and on the stack: the loop ends
without passing the zero of the request, and one message with up to 99 numbers is sent, or none. -/
theorem canbusRsp_answered (value : Text) (stack : ℕ → U8) :
    canbusRsp.wp (CanbusAnswered (cString value)) (.atSetHalf (ascii "canbus_rsp") value stack) := by
  have hkey : cString (CanbusState.atSetHalf (ascii "canbus_rsp") value stack).ioctlBuf1 =
      ascii "canbus_rsp" := by
    rw [CanbusState.atSetHalf, cString_append_zero]
    exact cString_eq_self (by simp [ascii])
  have hlimit : ([] : List U32).length + (98 + 1) = 99 := rfl
  have hloop := wp_canbusLoop (collected_atSetHalf (ascii "canbus_rsp") value stack) hlimit
  rw [List.nil_append] at hloop
  simp only [canbusRsp, Proc.wp_bind, Proc.wp_get, hkey, strcmp_self, if_true]
  refine Proc.wp_mono hloop ?_
  rintro exit s1 ⟨hexit, rest, hcollected⟩
  refine Proc.wp_mono (wp_afterTokens hexit hcollected) ?_
  rintro ret s2 ⟨hreply, hrefusal, hwritten, hmoved⟩
  rw [Proc.wp_pure]
  refine ⟨fun hne => ?_, fun hnil => ?_, hwritten, hmoved⟩
  · obtain ⟨rfl, hsent⟩ := hreply hne
    exact ⟨rfl, hsent⟩
  · obtain ⟨rfl, hsent⟩ := hrefusal hnil
    exact ⟨rfl, hsent⟩

end MtcDrivers
