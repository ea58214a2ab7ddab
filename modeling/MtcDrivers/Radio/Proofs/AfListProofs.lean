import MtcDrivers.Radio.AfList

/-!
# The list of alternative frequencies keeps its form

`rds_af_add` on the bytes is `afPut` on the codes. Count, length and range hold in every run; a code is
stored twice exactly when a word with a high byte brings in the code of its second frequency again.
-/

namespace MtcDrivers

/-! ## The bytes of the list -/

/-- The block holds the list `l`. -/
structure AfHolds (s : RadioStruct2) (l : List U8) : Prop where
  count : s.front afBase = BitVec.ofNat 8 l.length
  bytes : ∀ i < 80, s.front (afBase + 1 + i) = l.getD i 0
  bounded : l.length ≤ 25
  range : ∀ c ∈ l, 1 ≤ c.toNat ∧ c.toNat ≤ 204

theorem AfHolds.ne_zero {s : RadioStruct2} {l : List U8} (h : AfHolds s l) {c : U8} (hc : c ∈ l) :
    c ≠ 0 := by
  rintro rfl
  have hrange := (h.range 0 hc).1
  simp at hrange

theorem takeWhile_append_replicate {l : List U8} (h : ∀ c ∈ l, c ≠ 0) (n : ℕ) :
    (l ++ List.replicate n 0).takeWhile (· ≠ 0) = l := by
  rw [List.takeWhile_append_of_pos (by simpa using h)]
  cases n with
  | zero => simp
  | succ n => simp [List.replicate_succ]

theorem AfHolds.afCodes_eq {s : RadioStruct2} {l : List U8} (h : AfHolds s l) : s.afCodes = l := by
  have hlen := h.bounded
  have hbytes : ((List.range 80).map fun i => s.front (afBase + 1 + i)) =
      l ++ List.replicate (80 - l.length) 0 := by
    apply List.ext_getElem
    · simp only [List.length_map, List.length_range, List.length_append, List.length_replicate]
      omega
    · intro i hi _
      simp only [List.length_map, List.length_range] at hi
      rw [List.getElem_map, List.getElem_range, h.bytes i hi, List.getElem_append]
      split
      · rename_i hlt
        rw [List.getD_eq_getElem?_getD, List.getElem?_eq_getElem hlt]
        rfl
      · rename_i hge
        rw [List.getD_eq_getElem?_getD, List.getElem?_eq_none (by omega), List.getElem_replicate]
        rfl
  unfold RadioStruct2.afCodes
  rw [hbytes]
  exact takeWhile_append_replicate (fun _ hc => h.ne_zero hc) _

theorem front_putFront_ne (s : RadioStruct2) {i j : ℕ} (h : j ≠ i) (b : U8) :
    (s.putFront i b).front j = s.front j :=
  Function.update_of_ne h _ _

theorem front_putFront_self (s : RadioStruct2) (i : ℕ) (b : U8) : (s.putFront i b).front i = b := by
  show Function.update s.front i b i = b
  rw [Function.update_self]

/-- What is written behind the list leaves it alone. -/
theorem AfHolds.putFront {s : RadioStruct2} {l : List U8} (h : AfHolds s l) {i : ℕ} (hi : 81 ≤ i)
    (b : U8) : AfHolds (s.putFront (afBase + i) b) l where
  count := by
    rw [front_putFront_ne s (by omega), h.count]
  bytes j hj := by
    rw [front_putFront_ne s (by omega), h.bytes j hj]
  bounded := h.bounded
  range := h.range

theorem AfHolds.putFront16 {s : RadioStruct2} {l : List U8} (h : AfHolds s l) {i : ℕ} (hi : 81 ≤ i)
    (v : U16) : AfHolds (s.putFront16 (afBase + i) v) l :=
  (h.putFront hi _).putFront (i := i + 1) (by omega) _

theorem AfHolds.afStore {s : RadioStruct2} {l : List U8} (h : AfHolds s l) (v4 : U16) :
    AfHolds (afStore v4 s) l := by
  have hword : AfHolds (s.putFront16 (afBase + 2 * (s.front (afBase + 154)).toNat + 82) v4) l := by
    rw [Nat.add_assoc]
    exact h.putFront16 (by omega) v4
  exact hword.putFront (by decide) _

/-! ## `rds_af_add` -/

theorem afSearch_eq {s : RadioStruct2} {l : List U8} (h : AfHolds s l) (af : U16) (fuel : ℕ) :
    ∀ pos, fuel + pos = 26 → pos ≤ l.length → pos < 25 →
      afSearch s.front afBase af fuel pos =
        if l.length = 25 ∨ af ∈ (l.drop pos).map (·.setWidth 16) then none else some (l.length + 1) := by
  induction fuel with
  | zero =>
    intro pos hfuel _ hpos
    omega
  | succ fuel ih =>
    intro pos hfuel hle hpos
    have hbyte : s.front (afBase + pos + 1) = l.getD pos 0 := by
      rw [Nat.add_right_comm]
      exact h.bytes pos (by omega)
    rw [afSearch, hbyte]
    by_cases hlt : pos < l.length
    · have hget : l.getD pos 0 = l[pos] := by simp [hlt]
      have hmem : af ∈ (l.drop pos).map (·.setWidth 16) ↔
          af = l[pos].setWidth 16 ∨ af ∈ (l.drop (pos + 1)).map (·.setWidth 16) := by
        rw [List.drop_eq_getElem_cons hlt, List.map_cons, List.mem_cons]
      rw [hget, if_neg (h.ne_zero (List.getElem_mem hlt))]
      by_cases haf : af = l[pos].setWidth 16
      · rw [if_pos (.inl haf), if_pos (.inr (hmem.mpr (.inl haf)))]
      · by_cases hlast : pos + 1 = 25
        · have hlen := h.bounded
          rw [if_pos (.inr hlast), if_pos (.inl (by omega))]
        · rw [if_neg (by rintro (hc | hc) <;> contradiction), ih (pos + 1) (by omega) hlt (by omega)]
          simp only [hmem, haf, false_or]
    · have hend : pos = l.length := by omega
      have hget : l.getD pos 0 = 0 := by simp [hend]
      rw [hget, if_pos rfl, hend, List.drop_length, if_neg (by simp; omega)]

/-- `rds_af_add` stores the code behind the others, unless it is there or the list is full. -/
theorem AfHolds.rdsAfAdd {s : RadioStruct2} {l : List U8} (h : AfHolds s l) {af : U16}
    (haf : af ≠ 0 → 1 ≤ (af.setWidth 8 : U8).toNat ∧ (af.setWidth 8 : U8).toNat ≤ 204) :
    AfHolds (rdsAfAdd afBase af s) (afPut l af) := by
  unfold MtcDrivers.rdsAfAdd afPut
  by_cases hzero : af = 0
  · rw [if_pos hzero, if_pos (.inl hzero)]
    exact h
  rw [if_neg hzero]
  by_cases hfull : l.length = 25
  · have hsearch : afSearch s.front afBase af 26 0 = none := by
      rw [afSearch_eq h af 26 0 rfl (Nat.zero_le _) (by decide), if_pos (.inl hfull)]
    rw [hsearch, if_pos (.inr (.inl hfull))]
    exact h
  have hsearch := afSearch_eq h af 26 0 rfl (Nat.zero_le _) (by decide)
  rw [List.drop_zero] at hsearch
  by_cases hmem : af ∈ l.map (·.setWidth 16)
  · rw [hsearch, if_pos (.inr hmem), if_pos (.inr (.inr hmem))]
    exact h
  have hnone : ¬ (l.length = 25 ∨ af ∈ l.map (·.setWidth 16)) := by
    rintro (hc | hc) <;> contradiction
  rw [hsearch, if_neg hnone, if_neg (by rintro (hc | hc) <;> contradiction)]
  have hlen := h.bounded
  constructor
  · simp [RadioStruct2.putFront]
  · intro i hi
    have hne : afBase + 1 + i ≠ afBase := by omega
    show Function.update (Function.update s.front _ _) _ _ _ = _
    rw [Function.update_of_ne hne]
    by_cases hi' : i = l.length
    · rw [hi', show afBase + 1 + l.length = afBase + (l.length + 1) by omega, Function.update_self]
      simp
    · rw [Function.update_of_ne (by omega), h.bytes i hi]
      by_cases hlt : i < l.length
      · simp [List.getElem?_append, hlt]
      · simp [List.getElem?_eq_none (show l.length ≤ i by omega),
          List.getElem?_eq_none (show (l ++ [af.setWidth 8]).length ≤ i by simp; omega)]
  · simp
    omega
  · intro c hc
    rcases List.mem_append.mp hc with hc | hc
    · exact h.range c hc
    · rw [List.mem_singleton.mp hc]
      exact haf hzero

/-! ## Codes stored twice -/

theorem afPut_eq_self_or (l : List U8) (af : U16) : afPut l af = l ∨ afPut l af = l ++ [af.setWidth 8] := by
  unfold afPut
  split
  · exact .inl rfl
  · exact .inr rfl

theorem nodup_append_singleton {l : List U8} {c : U8} : (l ++ [c]).Nodup ↔ l.Nodup ∧ c ∉ l := by
  rw [List.nodup_append]
  constructor
  · rintro ⟨hl, -, hne⟩
    exact ⟨hl, fun hc => hne c hc c (List.mem_singleton.mpr rfl) rfl⟩
  · rintro ⟨hl, hc⟩
    refine ⟨hl, List.pairwise_singleton _ c, ?_⟩
    rintro a ha b hb rfl
    rw [List.mem_singleton.mp hb] at ha
    exact hc ha

/-- An entry never goes away again. -/
theorem nodup_of_afPut {l : List U8} {af : U16} (h : (afPut l af).Nodup) : l.Nodup := by
  rcases afPut_eq_self_or l af with heq | heq
  · rwa [heq] at h
  · rw [heq] at h
    exact (nodup_append_singleton.mp h).1

/-- A code without a high byte is found again. -/
theorem nodup_afPut_of_lt {l : List U8} {af : U16} (hbyte : af.toNat < 256) :
    (afPut l af).Nodup ↔ l.Nodup := by
  refine ⟨nodup_of_afPut, fun h => ?_⟩
  unfold afPut
  split
  · exact h
  · rename_i hnew
    refine nodup_append_singleton.mpr ⟨h, fun hc => hnew (.inr (.inr ?_))⟩
    refine List.mem_map.mpr ⟨_, hc, ?_⟩
    apply BitVec.eq_of_toNat_eq
    simp only [BitVec.toNat_setWidth]
    omega

/-- A code with a high byte is never found. -/
theorem nodup_afPut_of_le {l : List U8} {af : U16} (hword : 256 ≤ af.toNat) :
    (afPut l af).Nodup ↔ l.Nodup ∧ (l.length = 25 ∨ af.setWidth 8 ∉ l) := by
  have hzero : af ≠ 0 := by
    rintro rfl
    simp at hword
  have hmem : af ∉ l.map (·.setWidth 16) := by
    intro hc
    obtain ⟨c, -, rfl⟩ := List.mem_map.mp hc
    have hc8 := c.isLt
    simp only [BitVec.toNat_setWidth] at hword
    omega
  unfold afPut
  by_cases hfull : l.length = 25
  · rw [if_pos (.inr (.inl hfull))]
    simp [hfull]
  · have hnot : ¬ (af = 0 ∨ l.length = 25 ∨ af ∈ l.map (·.setWidth 16)) := by
      rintro (hc | hc | hc) <;> contradiction
    rw [if_neg hnot, nodup_append_singleton]
    simp [hfull]

/-- Codes without a high byte enter the list one after the other. -/
inductive AddsBytes : List U8 → List U8 → Prop where
  | refl (l : List U8) : AddsBytes l l
  | put {l l' : List U8} {af : U16} (h : AddsBytes l l') (hbyte : af.toNat < 256) :
      AddsBytes l (afPut l' af)

theorem AddsBytes.nodup {l l' : List U8} (h : AddsBytes l l') : l'.Nodup ↔ l.Nodup := by
  induction h with
  | refl => rfl
  | put _ hbyte ih => rw [nodup_afPut_of_lt hbyte, ih]

/-! ## The words of `rds_af_process` -/

/-- What passes the range test is a code in its low byte. -/
theorem afCode_range {c : U16} (h : afCode c ≠ 0) :
    1 ≤ ((afCode c).setWidth 8 : U8).toNat ∧ ((afCode c).setWidth 8 : U8).toNat ≤ 204 := by
  unfold afCode at h ⊢
  split at h
  · exact absurd rfl h
  · rename_i hrange
    rw [if_neg hrange]
    have hle : ((c - 1).setWidth 8 : U8).toNat ≤ 203 := Nat.le_of_not_lt fun hlt =>
      hrange (BitVec.lt_def.mpr hlt)
    have hone : (1 : U16).toNat = 1 := rfl
    simp only [BitVec.toNat_setWidth, BitVec.toNat_sub, hone] at hle ⊢
    omega

theorem afCode_byte (c : U8) : (afCode (c.setWidth 16)).toNat < 256 := by
  unfold afCode
  split
  · decide
  · have hc := c.isLt
    simp only [BitVec.toNat_setWidth]
    omega

theorem afCode_lt {c : U16} (h : c.toNat < 256) : (afCode c).toNat < 256 := by
  unfold afCode
  split
  · decide
  · exact h

theorem afFirst_lt (word : U16) : (afFirst word).toNat < 256 := afCode_byte _

theorem AfHolds.addCode {s : RadioStruct2} {l : List U8} (h : AfHolds s l) (c : U16) :
    AfHolds (MtcDrivers.rdsAfAdd afBase (afCode c) s) (afPut l (afCode c)) :=
  h.rdsAfAdd afCode_range

theorem AfHolds.addBoth {s : RadioStruct2} {l : List U8} (h : AfHolds s l) (a b : U16) :
    AfHolds (afAddBoth (afCode a) (afCode b) s) (afPut (afPut l (afCode a)) (afCode b)) :=
  (h.addCode a).addCode b

theorem AfHolds.addOne {s : RadioStruct2} {l : List U8} (h : AfHolds s l) (a : U16) :
    AfHolds (afAddBoth (afCode a) 0 s) (afPut l (afCode a)) :=
  h.addCode a

theorem hi_word (word : U16) :
    word ||| ((word >>> 8).setWidth 8 : U8).setWidth 16 <<< 8 = word := by
  apply BitVec.eq_of_getLsbD_eq
  intro i hi
  rw [BitVec.getLsbD_or, BitVec.getLsbD_shiftLeft, BitVec.getLsbD_setWidth, BitVec.getLsbD_setWidth,
    BitVec.getLsbD_ushiftRight]
  by_cases h8 : i < 8
  · simp [h8]
  · rw [Nat.add_sub_cancel' (Nat.le_of_not_lt h8)]
    cases word.getLsbD i <;> simp

/-- `rds_af_process` on a word, by the offsets from the list. -/
theorem rdsAfWord_eq (s : RadioStruct2) (word : U16) :
    rdsAfWord s word =
      if (word >>> 8).setWidth 8 = (250 : U8) then s
      else if afSecond word ||| afFirst word = 0 then s
      else if afSeen word s then
        if s.afU16 156 ≠ 0 then
          if s.afU16 156 = 1 ∨ s.afU16 156 = 2 ∧ AfAscending word then
            afStore word (afAddBoth (afFirst word) (afSecond word) s)
          else afStore word s
        else if s.afU16 152 = 0 then afStore word (s.putFront16 (afBase + 152) word)
        else if word = s.afU16 152 then afStore word s
        else
          let v9 := afCode (s.afU16 152 >>> 8)
          let v8 := afCode (s.afU16 152 &&& 0xFF)
          if (afFirst word ≠ 0 ∧ (afFirst word = v9 ∨ afFirst word = v8)) ∨ afSecond word ≠ 0 then
            let s := s.putFront16 (afBase + 156) 2
            let s := if AfAscending word then afAddBoth (afFirst word) (afSecond word) s else s
            if ¬ (v9 = 0 ∨ v9 < v8) ∧ v8 ≠ 0 then afStore word s
            else afStore word (afAddBoth v9 v8 s)
          else
            afStore word (afAddBoth v9 v8 (afAddBoth (afFirst word) 0 (s.putFront16 (afBase + 156) 1)))
      else afStore word s := by
  unfold rdsAfWord rdsAfProcess
  rw [hi_word]
  rfl

/-- What a word does to the list `l`: it adds its pair or not, and it may add bytes of the last pair. -/
def WordAdds (word : U16) (s : RadioStruct2) (l l' : List U8) : Prop :=
  AfAddsPair word s ∧ AddsBytes (afPut (afPut l (afFirst word)) (afSecond word)) l' ∨
    ¬ AfAddsPair word s ∧ AddsBytes l l'

theorem afCode_high_lt (v : U16) : (afCode (v >>> 8)).toNat < 256 := by
  apply afCode_lt
  have hv := v.isLt
  simp only [BitVec.toNat_ushiftRight, Nat.shiftRight_eq_div_pow]
  omega

theorem afCode_low_lt (v : U16) : (afCode (v &&& 0xFF)).toNat < 256 := by
  apply afCode_lt
  rw [BitVec.toNat_and]
  exact Nat.lt_of_le_of_lt Nat.and_le_right (by decide)

/-- The pair of the last word `v` is added, or it is not. -/
theorem AfHolds.lastPair {s : RadioStruct2} {l : List U8} (h : AfHolds s l) (v word : U16) :
    ∃ l', AfHolds
      (if ¬ (afCode (v >>> 8) = 0 ∨ afCode (v >>> 8) < afCode (v &&& 0xFF)) ∧ afCode (v &&& 0xFF) ≠ 0
        then MtcDrivers.afStore word s
        else MtcDrivers.afStore word (afAddBoth (afCode (v >>> 8)) (afCode (v &&& 0xFF)) s)) l' ∧
      AddsBytes l l' := by
  split
  · exact ⟨l, h.afStore word, .refl l⟩
  · exact ⟨_, (h.addBoth _ _).afStore word,
      ((AddsBytes.refl l).put (afCode_high_lt v)).put (afCode_low_lt v)⟩

section NewWord

variable {s : RadioStruct2} {word : U16}

/-- A new word while the kind of the list is known. -/
theorem afAddsPair_known_iff (hhi : (word >>> 8).setWidth 8 ≠ (250 : U8))
    (hzero : afSecond word ||| afFirst word ≠ 0) (hseen : afSeen word s = true)
    (hstate : s.afU16 156 ≠ 0) :
    AfAddsPair word s ↔ s.afU16 156 = 1 ∨ s.afU16 156 = 2 ∧ AfAscending word := by
  constructor
  · rintro ⟨-, -, -, hone | htwo | ⟨hstart, -⟩⟩
    · exact .inl hone
    · exact .inr htwo
    · exact absurd hstart.1 hstate
  · rintro (hone | htwo)
    · exact ⟨hhi, hzero, hseen, .inl hone⟩
    · exact ⟨hhi, hzero, hseen, .inr (.inl htwo)⟩

/-- A new word while it is not. -/
theorem afAddsPair_start_iff (hhi : (word >>> 8).setWidth 8 ≠ (250 : U8))
    (hzero : afSecond word ||| afFirst word ≠ 0) (hseen : afSeen word s = true)
    (hstate : s.afU16 156 = 0) : AfAddsPair word s ↔ AfStartsPairs word s ∧ AfAscending word := by
  constructor
  · rintro ⟨-, -, -, hone | ⟨htwo, -⟩ | hstart⟩
    · rw [hstate] at hone
      exact absurd hone (by decide)
    · rw [hstate] at htwo
      exact absurd htwo (by decide)
    · exact hstart
  · intro hstart
    exact ⟨hhi, hzero, hseen, .inr (.inr hstart)⟩

end NewWord

/-- The list after a word, for every state of the filter. -/
theorem AfHolds.word {s : RadioStruct2} {l : List U8} (h : AfHolds s l) (word : U16) :
    ∃ l', AfHolds (rdsAfWord s word) l' ∧ WordAdds word s l l' := by
  have hsecond : ∀ {s l}, AfHolds s l → AfHolds (afAddBoth (afFirst word) (afSecond word) s)
      (afPut (afPut l (afFirst word)) (afSecond word)) := fun h => h.addBoth _ _
  rw [rdsAfWord_eq]
  by_cases hhi : (word >>> 8).setWidth 8 = (250 : U8)
  · rw [if_pos hhi]
    exact ⟨l, h, .inr ⟨fun hadds => hadds.1 hhi, .refl l⟩⟩
  rw [if_neg hhi]
  by_cases hzero : afSecond word ||| afFirst word = 0
  · rw [if_pos hzero]
    exact ⟨l, h, .inr ⟨fun hadds => hadds.2.1 hzero, .refl l⟩⟩
  rw [if_neg hzero]
  by_cases hnew : ¬ afSeen word s = true
  · rw [if_neg hnew]
    exact ⟨l, h.afStore word, .inr ⟨fun hadds => hnew hadds.2.2.1, .refl l⟩⟩
  have hseen := Decidable.of_not_not hnew
  rw [if_pos hseen]
  by_cases hstate : s.afU16 156 ≠ 0
  · -- the kind of the list is known
    have hadds_iff := afAddsPair_known_iff hhi hzero hseen hstate
    rw [if_pos hstate]
    by_cases hpair : s.afU16 156 = 1 ∨ s.afU16 156 = 2 ∧ AfAscending word
    · rw [if_pos hpair]
      exact ⟨_, (hsecond h).afStore word, .inl ⟨hadds_iff.mpr hpair, .refl _⟩⟩
    · rw [if_neg hpair]
      exact ⟨l, h.afStore word, .inr ⟨fun hadds => hpair (hadds_iff.mp hadds), .refl l⟩⟩
  rw [if_neg hstate]
  have hstate0 : s.afU16 156 = 0 := Decidable.of_not_not hstate
  have hadds_iff := afAddsPair_start_iff hhi hzero hseen hstate0
  by_cases hlast : s.afU16 152 = 0
  · rw [if_pos hlast]
    refine ⟨l, (h.putFront16 (by decide) word).afStore word, .inr ⟨?_, .refl l⟩⟩
    intro hadds
    exact (hadds_iff.mp hadds).1.2.1 hlast
  rw [if_neg hlast]
  by_cases hsame : word = s.afU16 152
  · rw [if_pos hsame]
    refine ⟨l, h.afStore word, .inr ⟨?_, .refl l⟩⟩
    intro hadds
    exact (hadds_iff.mp hadds).1.2.2.1 hsame
  rw [if_neg hsame]
  -- the word starts a list of one kind or the other, and the last pair is added behind it
  dsimp only
  by_cases hkind : (afFirst word ≠ 0 ∧ (afFirst word = afCode (s.afU16 152 >>> 8) ∨
      afFirst word = afCode (s.afU16 152 &&& 0xFF))) ∨ afSecond word ≠ 0
  · rw [if_pos hkind]
    have hstart : AfStartsPairs word s := ⟨hstate0, hlast, hsame, hkind⟩
    have hmark := h.putFront16 (i := 156) (by decide) 2
    by_cases hasc : AfAscending word
    · rw [if_pos hasc]
      obtain ⟨l', hl', hbytes⟩ := (hsecond hmark).lastPair (s.afU16 152) word
      exact ⟨l', hl', .inl ⟨hadds_iff.mpr ⟨hstart, hasc⟩, hbytes⟩⟩
    · rw [if_neg hasc]
      obtain ⟨l', hl', hbytes⟩ := hmark.lastPair (s.afU16 152) word
      exact ⟨l', hl', .inr ⟨fun hadds => hasc (hadds_iff.mp hadds).2, hbytes⟩⟩
  · rw [if_neg hkind]
    have hpair : ¬ AfAddsPair word s := fun hadds => hkind (hadds_iff.mp hadds).1.2.2.2
    have hmark := h.putFront16 (i := 156) (by decide) 1
    have hone : AfHolds (afAddBoth (afFirst word) 0 (s.putFront16 (afBase + 156) 1))
        (afPut l (afFirst word)) := hmark.addOne _
    exact ⟨_, (hone.addBoth _ _).afStore word, .inr ⟨hpair, (((AddsBytes.refl _).put
      (afFirst_lt word)).put (afCode_high_lt _)).put (afCode_low_lt _)⟩⟩

/-! ## Runs -/

theorem AfHolds.ok_iff {s : RadioStruct2} {l : List U8} (h : AfHolds s l) : AfListOk s ↔ l.Nodup := by
  constructor
  · intro hok
    rw [← h.afCodes_eq]
    exact hok.nodup
  · intro hnodup
    have hlen := h.bounded
    refine ⟨?_, ?_, ?_, ?_⟩
    · rw [h.count, h.afCodes_eq, BitVec.toNat_ofNat]
      omega
    · rw [h.afCodes_eq]
      exact hlen
    · rw [h.afCodes_eq]
      exact h.range
    · rw [h.afCodes_eq]
      exact hnodup

theorem afHolds_zero : AfHolds .zero [] where
  count := rfl
  bytes _ _ := rfl
  bounded := by decide
  range := by
    intro c hc
    cases hc

/-- From a list without repetitions, a word leaves one if and only if it adds no code twice. -/
theorem AfHolds.ok_word_iff {s : RadioStruct2} {l : List U8} (h : AfHolds s l) (hnodup : l.Nodup)
    (word : U16) : AfListOk (rdsAfWord s word) ↔ AddsNoCodeTwice s word := by
  obtain ⟨l', hl', hadds⟩ := h.word word
  rw [hl'.ok_iff]
  unfold AddsNoCodeTwice
  rw [h.afCodes_eq]
  have hfirst : (afPut l (afFirst word)).Nodup := (nodup_afPut_of_lt (afFirst_lt word)).mpr hnodup
  rcases hadds with ⟨hpair, hbytes⟩ | ⟨hpair, hbytes⟩
  · rw [hbytes.nodup]
    by_cases hbyte : (afSecond word).toNat < 256
    · rw [nodup_afPut_of_lt hbyte]
      exact ⟨fun _ _ => .inl hbyte, fun _ => hfirst⟩
    · rw [nodup_afPut_of_le (by omega)]
      constructor
      · rintro ⟨-, hnew⟩ -
        exact .inr hnew
      · intro hnew
        exact ⟨hfirst, (hnew hpair).resolve_left hbyte⟩
  · rw [hbytes.nodup]
    exact ⟨fun _ hc => absurd hc hpair, fun _ => hnodup⟩

/-- From the zeroed block: the list has its form after every word of a run if and only if no word of the
    run adds a code twice. -/
theorem afList_ok_iff (words : List U16) :
    Run.Always rdsAfWord (fun s word => AfListOk (rdsAfWord s word)) .zero words ↔
      Run.Always rdsAfWord AddsNoCodeTwice .zero words := by
  refine Run.always_iff (fun s => ∃ l, AfHolds s l ∧ l.Nodup) ⟨[], afHolds_zero, .nil⟩ ?_ ?_
  · rintro s word ⟨l, hl, hnodup⟩ hword
    obtain ⟨l', hl', -⟩ := hl.word word
    exact ⟨l', hl', hl'.ok_iff.mp ((hl.ok_word_iff hnodup word).mpr hword)⟩
  · rintro s word ⟨l, hl, hnodup⟩
    exact hl.ok_word_iff hnodup word

/-- The third 0x0206 stores code 6 again. -/
theorem not_afList_ok_three_times :
    ¬ Run.Always rdsAfWord (fun s word => AfListOk (rdsAfWord s word)) .zero
      [0x0105, 0x0105, 0x0206, 0x0206, 0x0206] := by
  intro h
  have hnodup := (h [0x0105, 0x0105, 0x0206, 0x0206] 0x0206 [] rfl).nodup
  revert hnodup
  decide

end MtcDrivers
