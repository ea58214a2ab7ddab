import Mathlib.Data.List.Induction
import MtcDrivers.Radio.AfRing
import MtcDrivers.Radio.Proofs.AfListProofs
import MtcDrivers.Ring.Recent

/-!
# Proofs: the ring of pairs

A call sets a word of the block, gives codes to `rds_af_add` and stores its pair at the index. The ring is
the ring buffer of the pairs stored so far, since neither the list nor the words lie in it.
-/

namespace MtcDrivers

namespace AfCall

variable {s t : RadioStruct2} {c : AfCall}

/-! ## One call -/

theorem addAll_append (l l' : List U16) (s : RadioStruct2) :
    addAll (l ++ l') s = addAll l' (addAll l s) := List.foldl_append

theorem run_of_stores (h : c.stores = true) :
    c.run s = if afSeen c.pair s then
      if s.afU16 156 ≠ 0 then
        if s.afU16 156 = 1 ∨ s.afU16 156 = 2 ∧ c.Ascending then
          afStore c.pair (addAll [c.first, c.second] s)
        else afStore c.pair s
      else if s.afU16 152 = 0 then afStore c.pair (s.putFront16 (afBase + 152) c.pair)
      else if c.pair = s.afU16 152 then afStore c.pair s
      else if c.StartsPairs s then
        let s' := s.putFront16 (afBase + 156) 2
        let s' := if c.Ascending then addAll [c.first, c.second] s' else s'
        if ¬ ((lastPair s).1 = 0 ∨ (lastPair s).1 < (lastPair s).2) ∧ (lastPair s).2 ≠ 0 then
          afStore c.pair s'
        else afStore c.pair (addAll [(lastPair s).1, (lastPair s).2] s')
      else afStore c.pair (addAll [c.first, 0, (lastPair s).1, (lastPair s).2]
        (s.putFront16 (afBase + 156) 1))
    else afStore c.pair s := by
  unfold stores at h
  rw [Bool.and_eq_true, decide_eq_true_eq, decide_eq_true_eq] at h
  have hcodes : ¬ afCode c.word ||| afCode (c.hi.setWidth 16) = 0 := h.2
  unfold run rdsAfProcess
  dsimp only
  rw [if_neg h.1, if_neg hcodes]
  rfl

theorem run_of_not_stores (h : ¬ c.stores = true) : c.run s = s := by
  unfold stores at h
  rw [Bool.and_eq_true, decide_eq_true_eq, decide_eq_true_eq] at h
  unfold run rdsAfProcess
  dsimp only
  by_cases hhi : c.hi = 250
  · rw [if_pos hhi]
  · have hcodes : afCode c.word ||| afCode (c.hi.setWidth 16) = 0 :=
      Decidable.of_not_not fun hne => h ⟨hhi, hne⟩
    rw [if_neg hhi, if_pos hcodes]

theorem adds_eq_nil (hnot : ¬ c.Decides s) (hadd : ¬ (c.stores ∧ afSeen c.pair s ∧
    (s.afU16 156 = 1 ∨ s.afU16 156 = 2 ∧ c.Ascending))) : c.adds s = [] := by
  unfold adds
  rw [if_neg hnot, if_neg hadd]

theorem mark_eq_self (hnot : ¬ c.Decides s)
    (hfirst : ¬ (c.stores ∧ afSeen c.pair s ∧ s.afU16 156 = 0 ∧ s.afU16 152 = 0)) : c.mark s = s := by
  unfold mark
  rw [if_neg hnot, if_neg hfirst]

/-- What a call does: it sets a word, adds codes and stores its pair. -/
theorem run_eq (s : RadioStruct2) (c : AfCall) :
    c.run s = if c.stores then afStore c.pair (addAll (c.adds s) (c.mark s)) else s := by
  by_cases hstores : ¬ c.stores = true
  · rw [if_neg hstores, run_of_not_stores hstores]
  rw [Decidable.not_not] at hstores
  rw [if_pos hstores, run_of_stores hstores]
  by_cases hseen : ¬ afSeen c.pair s = true
  · have hnot : ¬ c.Decides s := fun h => hseen h.2.1
    rw [if_neg hseen, adds_eq_nil hnot fun h => hseen h.2.1, mark_eq_self hnot fun h => hseen h.2.1]
    rfl
  rw [Decidable.not_not] at hseen
  rw [if_pos hseen]
  by_cases hkind : s.afU16 156 ≠ 0
  · have hnot : ¬ c.Decides s := fun h => hkind h.2.2.1
    rw [if_pos hkind, mark_eq_self hnot fun h => hkind h.2.2.1]
    by_cases hadd : s.afU16 156 = 1 ∨ s.afU16 156 = 2 ∧ c.Ascending
    · rw [if_pos hadd]
      unfold adds
      rw [if_neg hnot, if_pos ⟨hstores, hseen, hadd⟩]
    · rw [if_neg hadd, adds_eq_nil hnot fun h => hadd h.2.2]
      rfl
  have hzero : s.afU16 156 = 0 := not_not.mp hkind
  have hnoadd : ¬ (c.stores ∧ afSeen c.pair s ∧
      (s.afU16 156 = 1 ∨ s.afU16 156 = 2 ∧ c.Ascending)) := by
    rw [hzero]
    rintro ⟨-, -, h | h⟩
    · exact absurd h (by decide)
    · exact absurd h.1 (by decide)
  rw [if_neg hkind]
  by_cases hlast : s.afU16 152 = 0
  · have hnot : ¬ c.Decides s := fun h => h.2.2.2.1 hlast
    rw [if_pos hlast, adds_eq_nil hnot hnoadd]
    unfold mark
    rw [if_neg hnot, if_pos ⟨hstores, hseen, hzero, hlast⟩]
    rfl
  rw [if_neg hlast]
  by_cases hsame : c.pair = s.afU16 152
  · have hnot : ¬ c.Decides s := fun h => h.2.2.2.2 hsame
    rw [if_pos hsame, adds_eq_nil hnot hnoadd, mark_eq_self hnot fun h => hlast h.2.2.2]
    rfl
  -- the second pair that is confirmed
  have hdecides : c.Decides s := ⟨hstores, hseen, hzero, hlast, hsame⟩
  unfold adds mark
  rw [if_neg hsame, if_pos hdecides, if_pos hdecides]
  by_cases hstarts : c.StartsPairs s
  · rw [if_pos hstarts, if_pos hstarts, if_pos hstarts, addAll_append]
    dsimp only
    split <;> split <;> rfl
  · rw [if_neg hstarts, if_neg hstarts, if_neg hstarts]

theorem stored_of_adds (h : c.adds s ≠ []) : c.stores = true ∧ afSeen c.pair s = true := by
  unfold adds at h
  by_cases hdecides : c.Decides s
  · exact ⟨hdecides.1, hdecides.2.1⟩
  · rw [if_neg hdecides] at h
    by_cases hadd : c.stores ∧ afSeen c.pair s ∧ (s.afU16 156 = 1 ∨ s.afU16 156 = 2 ∧ c.Ascending)
    · exact ⟨hadd.1, hadd.2.1⟩
    · exact absurd (if_neg hadd) h

/-! ## Which bytes a call uses -/

/-- The blocks have the same bytes at the offsets `P`. -/
def AgreeOn (P : ℕ → Prop) (s t : RadioStruct2) : Prop :=
  ∀ i, P i → t.front (afBase + i) = s.front (afBase + i)

variable {P : ℕ → Prop}

theorem AgreeOn.putFront (h : AgreeOn P s t) (i : ℕ) (b : U8) :
    AgreeOn P (s.putFront i b) (t.putFront i b) := by
  intro j hj
  show Function.update t.front i b _ = Function.update s.front i b _
  by_cases hji : afBase + j = i
  · rw [hji, Function.update_self, Function.update_self]
  · rw [Function.update_of_ne hji, Function.update_of_ne hji, h j hj]

theorem AgreeOn.putFront16 (h : AgreeOn P s t) (i : ℕ) (v : U16) :
    AgreeOn P (s.putFront16 i v) (t.putFront16 i v) :=
  (h.putFront i _).putFront (i + 1) _

/-- The search goes no further than byte 25. -/
theorem afSearch_agree (hP : ∀ i ≤ 25, P i) (h : AgreeOn P s t) (af : U16) (fuel pos : ℕ)
    (hpos : pos < 25) :
    afSearch t.front afBase af fuel pos = afSearch s.front afBase af fuel pos := by
  induction fuel generalizing pos with
  | zero => rfl
  | succ fuel ih =>
    have hbyte : t.front (afBase + pos + 1) = s.front (afBase + pos + 1) :=
      h (pos + 1) (hP _ (by omega))
    rw [afSearch, afSearch, hbyte]
    by_cases hlast : af = (s.front (afBase + pos + 1)).setWidth 16 ∨ pos + 1 = 25
    · rw [if_pos hlast, if_pos hlast]
    · rw [if_neg hlast, if_neg hlast, ih (pos + 1) (by omega)]

theorem AgreeOn.rdsAfAdd (hP : ∀ i ≤ 25, P i) (h : AgreeOn P s t) (af : U16) :
    AgreeOn P (rdsAfAdd afBase af s) (MtcDrivers.rdsAfAdd afBase af t) := by
  unfold MtcDrivers.rdsAfAdd
  rw [afSearch_agree hP h af 26 0 (by decide)]
  split
  · exact h
  · split
    · exact h
    · exact (h.putFront _ _).putFront _ _

theorem AgreeOn.addAll (hP : ∀ i ≤ 25, P i) (h : AgreeOn P s t) (l : List U16) :
    AgreeOn P (addAll l s) (AfCall.addAll l t) := by
  induction l generalizing s t with
  | nil => exact h
  | cons af l ih => exact ih (h.rdsAfAdd hP af)

/-- A place that is found is at byte 25 at the latest. -/
theorem afSearch_le {front : ℕ → U8} {af : U16} {fuel pos found : ℕ} (hpos : pos < 25)
    (h : afSearch front afBase af fuel pos = some found) : found ≤ 25 := by
  induction fuel generalizing pos with
  | zero => cases h
  | succ fuel ih =>
    rw [afSearch] at h
    by_cases hfree : front (afBase + pos + 1) = 0
    · rw [if_pos hfree] at h
      cases h
      omega
    · rw [if_neg hfree] at h
      by_cases hlast : af = (front (afBase + pos + 1)).setWidth 16 ∨ pos + 1 = 25
      · rw [if_pos hlast] at h
        cases h
      · rw [if_neg hlast] at h
        exact ih (by omega) h

/-- `rds_af_add` writes to the list. -/
theorem front_rdsAfAdd {j : ℕ} (hj : ∀ i ≤ 25, j ≠ afBase + i) (af : U16) (s : RadioStruct2) :
    (rdsAfAdd afBase af s).front j = s.front j := by
  unfold rdsAfAdd
  split
  · rfl
  · split
    · rfl
    · rename_i pos hpos
      have hle := afSearch_le (by decide) hpos
      have hcount : j ≠ afBase := hj 0 (Nat.zero_le _)
      rw [front_putFront_ne _ hcount, front_putFront_ne _ (hj pos hle)]

theorem front_addAll {j : ℕ} (hj : ∀ i ≤ 25, j ≠ afBase + i) (l : List U16) (s : RadioStruct2) :
    (addAll l s).front j = s.front j := by
  induction l generalizing s with
  | nil => rfl
  | cons af l ih => exact (ih _).trans (front_rdsAfAdd hj af s)

theorem front_putFront16_ne (s : RadioStruct2) {i j : ℕ} (h : j ≠ i) (h' : j ≠ i + 1) (v : U16) :
    (s.putFront16 i v).front j = s.front j :=
  (front_putFront_ne _ h' _).trans (front_putFront_ne _ h _)

/-- The words that a call sets are 152 and 156. -/
theorem front_mark {j : ℕ} (h152 : j ≠ afBase + 152) (h153 : j ≠ afBase + 153) (h156 : j ≠ afBase + 156)
    (h157 : j ≠ afBase + 157) (s : RadioStruct2) (c : AfCall) : (c.mark s).front j = s.front j := by
  unfold mark
  split
  · exact front_putFront16_ne s h156 h157 _
  · split
    · exact front_putFront16_ne s h152 h153 _
    · rfl

theorem front_afStore {j : ℕ} (v : U16) (s : RadioStruct2) (h : j ≠ afBase + 2 * ringIndex s + 82)
    (h' : j ≠ afBase + 2 * ringIndex s + 82 + 1) (h154 : j ≠ afBase + 154) :
    (afStore v s).front j = s.front j := by
  unfold afStore
  rw [front_putFront_ne _ h154]
  exact front_putFront16_ne s h h' v

/-- Up to the store, the ring with its index is as it was. -/
theorem front_before {i : ℕ} (hlo : 82 ≤ i) (hhi : i ≤ 151 ∨ i = 154) (l : List U16) (s : RadioStruct2)
    (c : AfCall) : (addAll l (c.mark s)).front (afBase + i) = s.front (afBase + i) := by
  rw [front_addAll (by omega), front_mark (by omega) (by omega) (by omega) (by omega)]

theorem ringIndex_before (l : List U16) (s : RadioStruct2) (c : AfCall) :
    ringIndex (addAll l (c.mark s)) = ringIndex s :=
  congrArg BitVec.toNat (front_before (by decide) (.inr rfl) l s c)

/-! ## The ring -/

theorem u16At_bytes (v : U16) : u16At (v.setWidth 8) ((v >>> 8).setWidth 8) = v := by
  apply BitVec.eq_of_getLsbD_eq
  intro i hi
  rw [u16At, BitVec.getLsbD_or, BitVec.getLsbD_shiftLeft, BitVec.getLsbD_setWidth, BitVec.getLsbD_setWidth,
    BitVec.getLsbD_setWidth, BitVec.getLsbD_setWidth, BitVec.getLsbD_ushiftRight]
  by_cases h8 : i < 8
  · simp [h8, hi]
  · have hback : 8 + (i - 8) = i := by omega
    have hlo : i - 8 < 8 := by omega
    have hwide : i - 8 < 16 := by omega
    simp [h8, hi, hback, hlo, hwide]

theorem afU16_afStore (v : U16) (s : RadioStruct2) (hindex : ringIndex s ≤ 34) {k : ℕ} (hk : k ≤ 34) :
    (afStore v s).afU16 (82 + 2 * k) = if k = ringIndex s then v else s.afU16 (82 + 2 * k) := by
  unfold RadioStruct2.afU16
  by_cases hat : k = ringIndex s
  · have hlo : (afStore v s).front (afBase + (82 + 2 * k)) = v.setWidth 8 := by
      unfold afStore
      rw [hat, front_putFront_ne _ (by omega),
        show afBase + (82 + 2 * ringIndex s) = afBase + 2 * ringIndex s + 82 by omega]
      exact (front_putFront_ne _ (by omega) _).trans (front_putFront_self _ _ _)
    have hhi : (afStore v s).front (afBase + (82 + 2 * k) + 1) = (v >>> 8).setWidth 8 := by
      unfold afStore
      rw [hat, front_putFront_ne _ (by omega),
        show afBase + (82 + 2 * ringIndex s) + 1 = afBase + 2 * ringIndex s + 82 + 1 by omega]
      exact front_putFront_self _ _ _
    rw [if_pos hat, hlo, hhi, u16At_bytes]
  · rw [if_neg hat, front_afStore v s (by omega) (by omega) (by omega),
      front_afStore v s (by omega) (by omega) (by omega)]

theorem ringIndex_afStore (v : U16) (s : RadioStruct2) :
    ringIndex (afStore v s) = if ringIndex s + 1 < 35 then ringIndex s + 1 else 0 := by
  have hbyte : (afStore v s).front (afBase + 154) =
      if s.front (afBase + 154) > 0x21 then 0 else s.front (afBase + 154) + 1 :=
    front_putFront_self _ _ _
  have hover : s.front (afBase + 154) > 0x21 ↔ ¬ ringIndex s + 1 < 35 := by
    show 33 < (s.front (afBase + 154)).toNat ↔ ¬ (s.front (afBase + 154)).toNat + 1 < 35
    omega
  unfold ringIndex at hover ⊢
  rw [hbyte]
  by_cases hlast : s.front (afBase + 154) > 0x21
  · rw [if_pos hlast, if_neg (hover.mp hlast)]
    rfl
  · have hlt : (s.front (afBase + 154)).toNat + 1 < 35 := Decidable.of_not_not fun h => hlast (hover.mpr h)
    rw [if_neg hlast, if_pos hlt, BitVec.toNat_add]
    exact Nat.mod_eq_of_lt (show _ + 1 < 256 by omega)

/-- The ring of the block. -/
def ring (s : RadioStruct2) (k : ℕ) : U16 := s.afU16 (82 + 2 * k)

theorem afSeen_iff (p : U16) (s : RadioStruct2) : afSeen p s = true ↔ ∃ k < 35, ring s k = p := by
  unfold afSeen
  rw [List.any_eq_true]
  constructor
  · rintro ⟨k, hk, heq⟩
    exact ⟨k, List.mem_range.mp hk, of_decide_eq_true heq⟩
  · rintro ⟨k, hk, heq⟩
    exact ⟨k, List.mem_range.mpr hk, decide_eq_true heq⟩

/-- A call stores its pair in the ring, if it comes that far. -/
theorem ring_run (s : RadioStruct2) (c : AfCall) (hindex : ringIndex s ≤ 34) {k : ℕ} (hk : k ≤ 34) :
    ring (c.run s) k = if c.stores ∧ k = ringIndex s then c.pair else ring s k := by
  rw [run_eq]
  by_cases hstores : c.stores = true
  · have hring : ring (addAll (c.adds s) (c.mark s)) k = ring s k := by
      unfold ring RadioStruct2.afU16
      rw [front_before (by omega) (.inl (by omega)), Nat.add_assoc,
        front_before (by omega) (.inl (by omega)), ← Nat.add_assoc]
    rw [if_pos hstores]
    unfold ring
    rw [afU16_afStore _ _ (by rwa [ringIndex_before]) hk, ringIndex_before]
    by_cases hat : k = ringIndex s
    · rw [if_pos hat, if_pos ⟨hstores, hat⟩]
    · rw [if_neg hat, if_neg (fun h => hat h.2)]
      exact hring
  · rw [if_neg hstores, if_neg (fun h => hstores h.1)]

theorem ringIndex_run (s : RadioStruct2) (c : AfCall) :
    ringIndex (c.run s) =
      if c.stores then if ringIndex s + 1 < 35 then ringIndex s + 1 else 0 else ringIndex s := by
  rw [run_eq]
  by_cases hstores : c.stores = true
  · rw [if_pos hstores, if_pos hstores, ringIndex_afStore, ringIndex_before]
  · rw [if_neg hstores, if_neg hstores]

/-! ## Runs -/

theorem stored_append (calls : List AfCall) (c : AfCall) :
    stored (calls ++ [c]) = if c.stores then c.pair :: stored calls else stored calls := by
  unfold stored
  rw [List.filter_append, List.map_append, List.reverse_append]
  by_cases hstores : c.stores = true
  · rw [if_pos hstores, List.filter_cons_of_pos hstores]
    rfl
  · rw [if_neg hstores, List.filter_cons_of_neg hstores]
    rfl

/-- Behind any calls the block holds the ring buffer of the pairs they stored. -/
theorem holds_after (calls : List AfCall) :
    Ring.Holds 35 0 (ring (Run.after run .zero calls)) (ringIndex (Run.after run .zero calls))
      (stored calls) := by
  induction calls using List.reverseRecOn with
  | nil =>
    refine Ring.holds_nil fun k _ => ?_
    show u16At 0 0 = 0
    rfl
  | append_singleton calls c ih =>
    have hindex := ih.head_lt (by decide)
    rw [Run.after_append, stored_append]
    show Ring.Holds 35 0 (ring (c.run (Run.after run .zero calls)))
      (ringIndex (c.run (Run.after run .zero calls))) _
    rw [ringIndex_run]
    by_cases hstores : c.stores = true
    · rw [if_pos hstores, if_pos hstores]
      refine ih.store (by decide) ?_ ?_ rfl
      · rw [ring_run _ c (by omega) (by omega), if_pos ⟨hstores, rfl⟩]
      · intro k hk hne
        rw [ring_run _ c (by omega) (by omega), if_neg (fun h => hne h.2)]
    · rw [if_neg hstores, if_neg hstores, run_of_not_stores hstores]
      exact ih

/-- What a zeroed entry would match is not taken for a pair. -/
theorem pair_ne_zero (h : c.stores = true) : c.pair ≠ 0 := by
  intro hpair
  unfold pair at hpair
  obtain ⟨hword, hhigh⟩ := BitVec.or_eq_zero_iff.mp hpair
  have hhi : c.hi = 0 := by
    have hnat := congrArg BitVec.toNat hhigh
    rw [BitVec.toNat_shiftLeft, BitVec.toNat_setWidth, Nat.shiftLeft_eq] at hnat
    have hlt := c.hi.isLt
    apply BitVec.eq_of_toNat_eq
    show c.hi.toNat = 0
    rw [Nat.mod_eq_of_lt (by omega), Nat.mod_eq_of_lt (by omega)] at hnat
    exact (Nat.mul_eq_zero.mp hnat).resolve_right (by decide)
  unfold stores second first at h
  rw [hword, hhi] at h
  exact absurd h (by decide)

end AfCall

open AfCall

/-- Above the list, only what a call sets itself. -/
theorem front_run (s : RadioStruct2) (c : AfCall) (hindex : ringIndex s ≤ 34) {j : ℕ}
    (hj : ∀ i, AfBlock i → j ≠ afBase + i) : (c.run s).front j = s.front j := by
  have hlist : ∀ i ≤ 25, j ≠ afBase + i := fun i hi => hj i (.inl hi)
  have hring : ∀ i, 82 ≤ i → i ≤ 154 → j ≠ afBase + i := fun i hlo hhi => hj i (.inr (.inl ⟨hlo, hhi⟩))
  have h156 : j ≠ afBase + 156 := hj 156 (.inr (.inr (.inl rfl)))
  have h157 : j ≠ afBase + 157 := hj 157 (.inr (.inr (.inr rfl)))
  rw [run_eq]
  split
  · have hlo := hring (82 + 2 * ringIndex s) (by omega) (by omega)
    have hhi := hring (82 + 2 * ringIndex s + 1) (by omega) (by omega)
    rw [front_afStore _ _ (by rw [ringIndex_before]; omega) (by rw [ringIndex_before]; omega)
      (hring 154 (by decide) (by decide)), front_addAll hlist,
      front_mark (hring 152 (by decide) (by decide)) (hring 153 (by decide) (by decide)) h156 h157]
  · rfl

theorem front_run_list (s : RadioStruct2) (c : AfCall) {i : ℕ} (hi : i ≤ 25) :
    (c.run s).front (afBase + i) = (addAll (c.adds s) s).front (afBase + i) := by
  have hmark : AgreeOn (· ≤ 25) s (c.mark s) := fun j hj =>
    front_mark (by omega) (by omega) (by omega) (by omega) s c
  rw [run_eq]
  by_cases hstores : c.stores = true
  · rw [if_pos hstores, front_afStore _ _ (by omega) (by omega) (by omega)]
    exact hmark.addAll (fun _ h => h) _ i hi
  · have hnil : c.adds s = [] := Decidable.of_not_not fun h => hstores (stored_of_adds h).1
    rw [if_neg hstores, hnil]
    rfl

section Reads

variable {s t : RadioStruct2} (h : AgreeOn AfBlock s t)

include h

theorem afU16_agree {i : ℕ} (hi : AfBlock i) (hi' : AfBlock (i + 1)) : t.afU16 i = s.afU16 i := by
  unfold RadioStruct2.afU16
  rw [h i hi, Nat.add_assoc, h (i + 1) hi', ← Nat.add_assoc]

theorem afSeen_agree (p : U16) : afSeen p t = afSeen p s := by
  have hring : ∀ k < 35, ring t k = ring s k := fun k hk =>
    afU16_agree h (.inr (.inl ⟨by omega, by omega⟩)) (.inr (.inl ⟨by omega, by omega⟩))
  rw [Bool.eq_iff_iff, afSeen_iff, afSeen_iff]
  exact exists_congr fun k => and_congr_right fun hk => by rw [hring k hk]

theorem last_agree : t.afU16 152 = s.afU16 152 :=
  afU16_agree h (.inr (.inl (by decide))) (.inr (.inl (by decide)))

theorem kind_agree : t.afU16 156 = s.afU16 156 :=
  afU16_agree h (.inr (.inr (.inl rfl))) (.inr (.inr (.inr rfl)))

theorem lastPair_agree : lastPair t = lastPair s := by
  unfold lastPair
  rw [last_agree h]

theorem decides_agree (c : AfCall) : c.Decides t ↔ c.Decides s := by
  unfold Decides
  rw [afSeen_agree h, kind_agree h, last_agree h]

theorem startsPairs_agree (c : AfCall) : c.StartsPairs t ↔ c.StartsPairs s := by
  unfold StartsPairs
  rw [lastPair_agree h]

theorem adds_agree (c : AfCall) : c.adds t = c.adds s := by
  unfold adds
  rw [lastPair_agree h, kind_agree h, afSeen_agree h]
  exact if_congr (decides_agree h c) (if_congr (startsPairs_agree h c) rfl rfl) rfl

theorem mark_agree (c : AfCall) : AgreeOn AfBlock (c.mark s) (c.mark t) := by
  have hkind : (if c.StartsPairs t then 2 else 1 : U16) = if c.StartsPairs s then 2 else 1 :=
    if_congr (startsPairs_agree h c) rfl rfl
  unfold mark
  rw [afSeen_agree h, last_agree h, kind_agree h, hkind]
  by_cases hdecides : c.Decides s
  · rw [if_pos hdecides, if_pos ((decides_agree h c).mpr hdecides)]
    exact h.putFront16 _ _
  · rw [if_neg hdecides, if_neg (fun ht => hdecides ((decides_agree h c).mp ht))]
    split
    · exact h.putFront16 _ _
    · exact h

theorem afStore_agree (v : U16) : AgreeOn AfBlock (afStore v s) (afStore v t) := by
  have hindex : t.front (afBase + 154) = s.front (afBase + 154) := h 154 (.inr (.inl (by decide)))
  unfold afStore
  rw [hindex]
  exact (h.putFront16 _ v).putFront _ _

end Reads

/-- What a call makes of the block depends on the block only. -/
theorem run_agree {s t : RadioStruct2} (h : AgreeOn AfBlock s t) (c : AfCall) :
    AgreeOn AfBlock (c.run s) (c.run t) := by
  rw [run_eq, run_eq, adds_agree h]
  split
  · exact afStore_agree ((mark_agree h c).addAll (fun _ hi => .inl hi) _) _
  · exact h

/-- The ring of `rds_af_process` stays in its bytes and holds the last 35 pairs, and codes are added for a
pair that it holds. -/
theorem afRing_kept (calls : List AfCall) (c : AfCall) :
    AfRingKept calls c (Run.after AfCall.run .zero calls) := by
  have hring := holds_after calls
  have hindex : ringIndex (Run.after AfCall.run .zero calls) ≤ 34 := by
    have hlt := hring.head_lt (by decide)
    omega
  have hentries : ∀ p, p ≠ 0 → (afSeen p (Run.after AfCall.run .zero calls) ↔ p ∈ (stored calls).take 35) := by
    intro p hp
    rw [afSeen_iff]
    exact hring.exists_slot_iff hp
  refine ⟨hindex, fun k hk => ring_run _ c hindex hk, hentries, ?_, fun i hi => front_run_list _ c hi,
    fun j hj => front_run _ c hindex hj, fun t ht => ⟨adds_agree ht c, run_agree ht c⟩⟩
  intro hadds
  obtain ⟨hstores, hseen⟩ := stored_of_adds hadds
  exact (hentries c.pair (pair_ne_zero hstores)).mp hseen

end MtcDrivers
