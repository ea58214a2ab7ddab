import Mathlib.Data.Int.ModEq
import Mathlib.Tactic.IntervalCases
import Mathlib.Tactic.LinearCombination
import MtcDrivers.Lcd.Show

/-!
# Proofs: texts on the LCD

The segments of the nine digit positions are disjoint from each other and from those of the symbols, so that what is
at a position is what its character wrote there. The loop over the number starts one character behind it, and the
end of the text is taken for its last digit.
-/

namespace MtcDrivers

namespace Lcd

open History Proc

variable {w w' : World} {str : ℕ → U8} {s s' s'' : ShowState}

/-! ## Segments of the page -/

/-- The byte and the bit of a segment, as one number. -/
def segmentKey (seg : U8) : ℕ := seg.toNat % 32 * 4 + seg.toNat / 64

theorem toNat_index (seg : U8) : (seg &&& 0x1F#8).toNat = seg.toNat % 32 := by
  rw [BitVec.toNat_and]
  exact Nat.and_two_pow_sub_one_eq_mod seg.toNat 5

theorem toNat_bit (seg : U8) : (seg >>> 6).toNat = seg.toNat / 64 := by
  rw [BitVec.toNat_ushiftRight, Nat.shiftRight_eq_div_pow]

theorem pageByte_setPage {i : ℕ} (hi : i < 32) (b : U8) (j : ℕ) :
    (w.setPage i b).pageByte j = if i = j then b else w.pageByte j := by
  rw [World.pageByte, World.setPage, Vector.getElem?_setIfInBounds]
  split_ifs with h
  · rfl
  · rfl

theorem getLsbD_bit (seg : U8) (j : ℕ) :
    ((1#8 : U8) <<< (seg >>> 6)).getLsbD j = decide (j = seg.toNat / 64) := by
  have hlt := seg.isLt
  rw [BitVec.getLsbD_shiftLeft', toNat_bit, BitVec.getLsbD_one]
  by_cases h : j = seg.toNat / 64
  · have hj : j < 8 := by omega
    simp [h]
    omega
  · rw [decide_eq_false h]
    simp
    omega

theorem segmentKey_eq_iff (seg seg' : U8) : segmentKey seg = segmentKey seg' ↔
    seg.toNat % 32 = seg'.toNat % 32 ∧ seg.toNat / 64 = seg'.toNat / 64 := by
  have hpair : ∀ {i i' k k' : ℕ}, k < 4 → k' < 4 → (i * 4 + k = i' * 4 + k' ↔ i = i' ∧ k = k') := by
    intro i i' k k' hk hk'
    omega
  have hlt := seg.isLt
  have hlt' := seg'.isLt
  exact hpair (by omega) (by omega)

theorem getLsbD_write (b bit : U8) (on : Bool) {j : ℕ} (hj : j < 8) :
    (if on then b ||| bit else b &&& ~~~bit).getLsbD j = if bit.getLsbD j then on else b.getLsbD j := by
  cases on with
  | true =>
    rw [if_pos rfl, BitVec.getLsbD_or]
    cases bit.getLsbD j with
    | true => rw [Bool.or_true, if_pos rfl]
    | false => rw [Bool.or_false, if_neg Bool.false_ne_true]
  | false =>
    rw [if_neg Bool.false_ne_true, BitVec.getLsbD_and, BitVec.getLsbD_not, decide_eq_true hj, Bool.true_and]
    cases bit.getLsbD j with
    | true => rw [Bool.not_true, Bool.and_false, if_pos rfl]
    | false => rw [Bool.not_false, Bool.and_true, if_neg Bool.false_ne_true]

theorem pageBit_setSegment (seg seg' : U8) (on : Bool) :
    pageBit (setSegment seg on w) seg' = if segmentKey seg = segmentKey seg' then on else pageBit w seg' := by
  have hlt : seg'.toNat / 64 < 8 := by
    have h := seg'.isLt
    omega
  rw [pageBit, pageBit, setSegment, toNat_index, toNat_index, toNat_bit, pageByte_setPage (Nat.mod_lt _ (by decide)),
    if_congr (segmentKey_eq_iff seg seg') rfl rfl]
  by_cases hbyte : seg.toNat % 32 = seg'.toNat % 32
  · rw [if_pos hbyte, getLsbD_write _ _ _ hlt, getLsbD_bit, hbyte]
    by_cases hbit : seg.toNat / 64 = seg'.toNat / 64
    · rw [if_pos (decide_eq_true hbit.symm), if_pos ⟨rfl, hbit⟩]
    · rw [decide_eq_false (Ne.symm hbit), if_neg Bool.false_ne_true, if_neg fun h => hbit h.2]
  · rw [if_neg hbyte, if_neg fun h => hbyte h.1]

/-- The bit of a segment after some have been written. -/
def bitAfter (segments : List (U8 × Bool)) (seg : U8) (b : Bool) : Bool :=
  segments.foldl (fun b s => if segmentKey s.1 = segmentKey seg then s.2 else b) b

theorem pageBit_setSegments (segments : List (U8 × Bool)) (seg : U8) :
    pageBit (setSegments segments w) seg = bitAfter segments seg (pageBit w seg) := by
  induction segments generalizing w with
  | nil => rfl
  | cons s segments ih =>
    have hfirst : setSegments (s :: segments) w = setSegments segments (setSegment s.1 s.2 w) := rfl
    rw [hfirst, ih, pageBit_setSegment]
    rfl

theorem bitAfter_append (before after : List (U8 × Bool)) (seg : U8) (b : Bool) :
    bitAfter (before ++ after) seg b = bitAfter after seg (bitAfter before seg b) :=
  List.foldl_append

/-- Other segments do not matter. -/
theorem bitAfter_other {segments : List (U8 × Bool)} {seg : U8} (b : Bool)
    (hother : ∀ s ∈ segments, segmentKey s.1 ≠ segmentKey seg) : bitAfter segments seg b = b := by
  induction segments with
  | nil => rfl
  | cons s segments ih =>
    have hfirst : bitAfter (s :: segments) seg b =
        bitAfter segments seg (if segmentKey s.1 = segmentKey seg then s.2 else b) := rfl
    rw [hfirst, if_neg (hother s List.mem_cons_self)]
    exact ih fun s hs => hother s (List.mem_cons_of_mem _ hs)

/-- A segment that is written keeps nothing of what it was. -/
theorem bitAfter_written {segments : List (U8 × Bool)} {seg : U8} (b b' : Bool) (hmem : seg ∈ segments.map Prod.fst) :
    bitAfter segments seg b = bitAfter segments seg b' := by
  induction segments generalizing b b' with
  | nil => exact absurd hmem List.not_mem_nil
  | cons s segments ih =>
    have hfirst : ∀ b, bitAfter (s :: segments) seg b =
        bitAfter segments seg (if segmentKey s.1 = segmentKey seg then s.2 else b) := fun _ => rfl
    rw [hfirst, hfirst]
    rcases List.mem_cons.mp hmem with heq | hrest
    · rw [if_pos (congrArg segmentKey heq.symm), if_pos (congrArg segmentKey heq.symm)]
    · exact ih _ _ hrest

/-! ## The digit positions -/

/-- The segments of the nine positions. -/
def positionKeys : List (List ℕ) :=
  [[27, 31, 29, 24, 17, 19, 18, 30, 23, 22, 26, 25, 21, 20], [43, 47, 45, 40, 33, 35, 34, 46, 39, 38, 42, 41, 37, 36],
    [59, 63, 61, 56, 49, 51, 50, 62, 55, 54, 58, 57, 53, 52], [75, 79, 77, 72, 65, 67, 66, 78, 71, 70, 74, 73, 69, 68],
    [83, 87, 85, 80, 81, 82, 86, 86], [91, 95, 93, 88, 89, 90, 94, 94], [99, 103, 101, 96, 97, 98, 102, 102],
    [107, 111, 109, 104, 105, 106, 110, 110], [115, 119, 117, 112, 113, 114, 118, 118]]

/-- The segments of the symbols. -/
def symbolKeys : List ℕ :=
  [11, 16, 32, 48, 64, 123, 122, 121, 12, 28, 44, 60, 84, 100, 108, 124, 127, 126, 125, 76, 92]

theorem positionKeys_eq : ∀ idx < 9, (positionSegments idx).map segmentKey = positionKeys.getD idx [] := by
  decide

theorem symbolKeys_eq (mask : U32) : (symbolSegments mask).map (fun s => segmentKey s.1) = symbolKeys := by
  have hkeys : ((List.range' 1 29).filter (8 < ·)).map (fun i => segmentKey ((bytesOf symbolWords).getD i 0)) =
      symbolKeys := by
    decide
  rw [← hkeys, symbolSegments, List.map_map]
  rfl

/-- The position that a segment belongs to, if it is no symbol: the first four take 16 numbers each, the others 8. -/
def positionOf (key : ℕ) : ℕ := if key < 80 then key / 16 - 1 else key / 8 - 6

/-- Positions and symbols have no segment in common. -/
theorem positionOf_key : ∀ idx < 9, ∀ key ∈ positionKeys.getD idx [], positionOf key = idx ∧ key ∉ symbolKeys := by
  decide

theorem map_fst_digSegments (c : U8) (idx : ℕ) : (digSegments c idx).map Prod.fst = positionSegments idx := by
  rw [digSegments, List.map_map]
  exact List.zipIdx_map_fst 0 (positionSegments idx)

/-- What a text writes to the page. -/
def textSegments (str : ℕ → U8) (mask : U32) : List (U8 × Bool) :=
  (List.range 9).flatMap (fun idx => digSegments (str (charOf idx)) idx) ++ symbolSegments mask

/-- At a position there is what its character writes there. -/
theorem bitAfter_text (str : ℕ → U8) (mask : U32) {idx : ℕ} (hidx : idx < 9) {seg : U8}
    (hseg : seg ∈ positionSegments idx) (b : Bool) :
    bitAfter (textSegments str mask) seg b = bitAfter (digSegments (str (charOf idx)) idx) seg false := by
  have hkey : segmentKey seg ∈ positionKeys.getD idx [] := by
    rw [← positionKeys_eq idx hidx]
    exact List.mem_map_of_mem hseg
  obtain ⟨hposition, hsymbols⟩ := positionOf_key idx hidx _ hkey
  -- neither the symbols nor the other positions write the segment
  have hsymbol : ∀ s ∈ symbolSegments mask, segmentKey s.1 ≠ segmentKey seg := by
    intro s hs heq
    rw [← heq, ← symbolKeys_eq mask] at hsymbols
    exact hsymbols (List.mem_map.mpr ⟨s, hs, rfl⟩)
  have hother : ∀ ks : List ℕ, (∀ k ∈ ks, k < 9 ∧ k ≠ idx) →
      ∀ s ∈ ks.flatMap fun k => digSegments (str (charOf k)) k, segmentKey s.1 ≠ segmentKey seg := by
    intro ks hks s hs heq
    obtain ⟨k, hk, hs⟩ := List.mem_flatMap.mp hs
    obtain ⟨hk9, hne⟩ := hks k hk
    have hmem : s.1 ∈ positionSegments k := by
      rw [← map_fst_digSegments (str (charOf k)) k]
      exact List.mem_map_of_mem hs
    have hkeyk : segmentKey seg ∈ positionKeys.getD k [] := by
      rw [← heq, ← positionKeys_eq k hk9]
      exact List.mem_map_of_mem hmem
    exact hne ((positionOf_key k hk9 _ hkeyk).1.symm.trans hposition)
  obtain ⟨before, after, hsplit⟩ := List.append_of_mem (List.mem_range.mpr hidx)
  have hnodup : (before ++ idx :: after).Nodup := hsplit ▸ List.nodup_range
  have hrange : ∀ k ∈ before ++ idx :: after, k < 9 := fun k hk => List.mem_range.mp (hsplit ▸ hk)
  have hbefore : ∀ k ∈ before, k < 9 ∧ k ≠ idx := by
    intro k hk
    refine ⟨hrange k (List.mem_append_left _ hk), ?_⟩
    exact (List.nodup_append.mp hnodup).2.2 k hk idx List.mem_cons_self
  have hafter : ∀ k ∈ after, k < 9 ∧ k ≠ idx := by
    intro k hk
    refine ⟨hrange k (List.mem_append_right _ (List.mem_cons_of_mem _ hk)), ?_⟩
    rintro rfl
    exact (List.nodup_cons.mp (List.nodup_append.mp hnodup).2.1).1 hk
  rw [textSegments, hsplit, List.flatMap_append, List.flatMap_cons, bitAfter_append, bitAfter_append, bitAfter_append,
    bitAfter_other _ hsymbol, bitAfter_other _ (hother after hafter), bitAfter_other _ (hother before hbefore)]
  exact bitAfter_written b false (by rwa [map_fst_digSegments])

/-! ## The run -/

/-- The segments that were written, the masks of the symbols, and reads of the text alone. -/
structure Did (segments : List (U8 × Bool)) (masks : List U32) (s s' : ShowState) : Prop where
  page : ∀ seg, pageBit s'.lcd seg = bitAfter segments seg (pageBit s.lcd seg)
  log : ∃ new, Grew ShowState.log new s s' ∧ symbolMasks new = masks ∧ ∀ i, .readChar i ∈ new → i ≤ 21

section Did

variable {segments segments' : List (U8 × Bool)} {masks masks' : List U32}

theorem Did.trans (h : Did segments masks s s') (h' : Did segments' masks' s' s'') :
    Did (segments ++ segments') (masks ++ masks') s s'' := by
  obtain ⟨new, hgrew, hmasks, hreads⟩ := h.log
  obtain ⟨new', hgrew', hmasks', hreads'⟩ := h'.log
  refine ⟨fun seg => ?_, new ++ new', hgrew.trans hgrew', ?_, fun i hi => ?_⟩
  · rw [bitAfter_append, h'.page, h.page]
  · rw [symbolMasks, List.filterMap_append, ← symbolMasks, ← symbolMasks, hmasks, hmasks']
  · rcases List.mem_append.mp hi with hi | hi
    · exact hreads i hi
    · exact hreads' i hi

theorem did_lcd (segments : List (U8 × Bool)) (hpage : w'.page = (setSegments segments s.lcd).page) :
    Did segments [] s (s.withLcd w') := by
  refine ⟨fun seg => ?_, [], rfl, rfl, fun i hi => absurd hi List.not_mem_nil⟩
  have hlcd : (s.withLcd w').lcd.page = (setSegments segments s.lcd).page := hpage
  rw [← pageBit_setSegments, pageBit, pageBit, World.pageByte, World.pageByte, hlcd]

theorem did_read (s : ShowState) {i : ℕ} (hi : i ≤ 21) : Did [] [] s (s.emit (.readChar i)) := by
  refine ⟨fun _ => rfl, [.readChar i], rfl, rfl, fun j hj => ?_⟩
  obtain rfl : j = i := ShowEvent.readChar.inj (List.mem_singleton.mp hj)
  exact hi

theorem did_showSymbol (s : ShowState) (mask : U32) : Did [] [mask] s (s.emit (.showSymbol mask)) := by
  refine ⟨fun _ => rfl, [.showSymbol mask], rfl, rfl, fun j hj => ?_⟩
  exact absurd (List.mem_singleton.mp hj) ShowEvent.noConfusion

end Did

@[simp] theorem wp_readChar {i : ℕ} {Q : U8 → ShowState → Prop} :
    (readChar str i).wp Q s ↔ Q (str i) (s.emit (.readChar i)) := by
  simp only [readChar, wp_bind, wp_modify, wp_pure]

theorem wp_onLcd {m : Proc World Unit} {Q : Unit → ShowState → Prop} :
    (onLcd m).wp Q s ↔ m.wp (fun u w' => Q u (s.withLcd w')) s.lcd :=
  wp_zoom

/-- A text is none of the two commands. -/
theorem wp_strcmp (l : U8) (hstr : str 1 ≠ 0) :
    (strcmp str [l] 0).wp (fun b s' => b = false ∧ Did [] [] s s' ∧ s'.lcd = s.lcd) s := by
  have h0 := did_read s (show 0 ≤ 21 by decide)
  have h1 := h0.trans (did_read (s.emit (.readChar 0)) (show 1 ≤ 21 by decide))
  simp only [strcmp, wp_bind, wp_readChar]
  split_ifs
  · rw [wp_bind, wp_readChar]
    exact wp_pure.mpr ⟨beq_eq_false_iff_ne.mpr hstr, h1, rfl⟩
  · exact wp_pure.mpr ⟨rfl, h0, rfl⟩

theorem wp_strlen (hstr : IsText str) :
    (strlen str).wp (fun n s' => n = 21 ∧ Did [] [] s s' ∧ s'.lcd = s.lcd) s := by
  refine wp_iter (fun i s' => i ≤ 21 ∧ Did [] [] s s' ∧ s'.lcd = s.lcd) (fun i _ => 21 - i) (fun i s1 h1 => ?_)
    ⟨Nat.zero_le 21, ⟨fun _ => rfl, [], rfl, rfl, fun _ hi => absurd hi List.not_mem_nil⟩, rfl⟩
  obtain ⟨hi, hdid, hlcd⟩ := h1
  have hread := hdid.trans (did_read s1 hi)
  rw [strlenPass, wp_bind, wp_readChar]
  by_cases hend : str i = 0
  · have hlast : i = 21 := by
      by_contra hne
      exact hstr.chars i (by omega) hend
    rw [if_pos hend]
    exact wp_pure.mpr ⟨hlast, hread, hlcd⟩
  · have hlt : i < 21 := by
      refine lt_of_le_of_ne hi ?_
      rintro rfl
      exact hend hstr.ends
    rw [if_neg hend]
    exact wp_pure.mpr ⟨⟨hlt, hread, hlcd⟩, by omega⟩

theorem wp_read {i : ℕ} (hi : i ≤ 21) {Q : U8 → ShowState → Prop} (hQ : ∀ s', Did [] [] s s' → Q (str i) s') :
    (readChar str i).wp Q s :=
  wp_readChar.mpr (hQ _ (did_read s hi))

/-- A step on the LCD that writes these segments. -/
theorem wp_lcdStep {f : World → World} (segments : List (U8 × Bool))
    (hpage : ∀ w, (f w).page = (setSegments segments w).page) {Q : Unit → ShowState → Prop}
    (hQ : ∀ s', Did segments [] s s' → Q () s') : (onLcd (Proc.modify f)).wp Q s := by
  rw [wp_onLcd, wp_modify]
  exact hQ _ (did_lcd segments (hpage s.lcd))

theorem wp_showDig {i idx : ℕ} (hi : i ≤ 21) {Q : Unit → ShowState → Prop}
    (hQ : ∀ s', Did (digSegments (str i) idx) [] s s' → Q () s') : (showDig str i idx).wp Q s := by
  rw [showDig, wp_bind, wp_readChar, wp_onLcd, wp_modify]
  exact hQ _ ((did_read s hi).trans (did_lcd (digSegments (str i) idx) rfl))

/-- The accumulator of the loop after `p` passes. -/
def accumulated (str : ℕ → U8) : ℕ → U32
  | 0 => 0
  | p + 1 => 10 * accumulated str p - 48 + (str (13 + p)).setWidth 32

/-- By induction on the passes that are left. -/
theorem wp_numberLoop {k : ℕ} (hk : k ≤ 9) : (iter (numberPass str) (k, accumulated str (9 - k))).wp
    (fun v s' => v = accumulated str 9 ∧ Did [] [] s s') s := by
  induction k generalizing s with
  | zero =>
    refine wp_iter_pass.mpr ?_
    rw [numberPass, if_neg (not_not.mpr rfl)]
    exact wp_pure.mpr ⟨rfl, ⟨fun _ => rfl, [], rfl, rfl, fun _ hi => absurd hi List.not_mem_nil⟩⟩
  | succ k ih =>
    refine wp_iter_pass.mpr ?_
    rw [numberPass, if_pos (Nat.succ_ne_zero k), wp_bind, wp_readChar]
    have hindex : 12 + (9 - (k + 1 - 1)) = 13 + (9 - (k + 1)) := by omega
    have hnext : 10 * accumulated str (9 - (k + 1)) - 48 + (str (12 + (9 - (k + 1 - 1)))).setWidth 32 =
        accumulated str (9 - k) := by
      rw [hindex, show 9 - k = 9 - (k + 1) + 1 by omega]
      rfl
    refine wp_pure.mpr ?_
    have hread := did_read s (show 12 + (9 - (k + 1 - 1)) ≤ 21 by omega)
    show (iter (numberPass str) (k, 10 * accumulated str (9 - (k + 1)) - 48 + _)).wp _ _
    rw [hnext]
    refine wp_mono (ih (by omega)) fun v s2 h2 => ⟨h2.1, hread.trans h2.2⟩

/-- The mask that is passed to `lcd_show_symbol`. -/
def shownMask (str : ℕ → U8) : U32 :=
  let v11 := accumulated str 9 &&& 0xFFFFFFF
  let v11 := if str 4 = 0x2E then v11 ||| 0x10000000 else v11
  if str 7 = 0x2E then v11 ||| 0x20000000 else v11

theorem wp_mutexLock (hfree : w.locked = false) {Q : Unit → World → Prop}
    (hQ : Q () ((w.setLocked true).emit .mutexLock)) : mutexLock.wp Q w := by
  refine wp_iter_pass.mpr ?_
  rw [wp_bind, wp_get, hfree, if_neg Bool.false_ne_true, wp_bind, wp_modify]
  exact wp_pure.mpr hQ

theorem textSegments_eq (str : ℕ → U8) (mask : U32) : textSegments str mask =
    digSegments (str 0) 0 ++ (digSegments (str 1) 1 ++ (digSegments (str 2) 2 ++ (digSegments (str 3) 3 ++
      (digSegments (str 5) 4 ++ (digSegments (str 6) 5 ++ (digSegments (str 8) 6 ++ (digSegments (str 9) 7 ++
        (digSegments (str 10) 8 ++ symbolSegments mask)))))))) := by
  simp [textSegments, List.range_succ, charOf]

/-- A text is shown to its end. -/
theorem wp_showText (hfree : s.lcd.locked = false) : (showText str).wp
    (fun _ s' => Did (textSegments str (shownMask str)) [shownMask str] s s') s := by
  have hlocked : (s.withLcd (s.lcd.emit .cancelWork)).lcd.locked = false := hfree
  rw [showText, wp_bind, wp_onLcd, wp_modify, wp_bind, wp_onLcd]
  refine wp_mutexLock hlocked ?_
  generalize hs0 : (ShowState.withLcd _ (ShowState.withLcd _ s)) = s0
  have h0 : Did [] [] s s0 := by
    rw [← hs0]
    exact did_lcd [] rfl
  rw [wp_bind]
  refine wp_showDig (by decide) fun s1 h1 => ?_
  rw [wp_bind]
  refine wp_showDig (by decide) fun s2 h2 => ?_
  rw [wp_bind]
  refine wp_showDig (by decide) fun s3 h3 => ?_
  rw [wp_bind]
  refine wp_showDig (by decide) fun s4 h4 => ?_
  rw [wp_bind]
  refine wp_showDig (by decide) fun s5 h5 => ?_
  rw [wp_bind]
  refine wp_showDig (by decide) fun s6 h6 => ?_
  rw [wp_bind]
  refine wp_showDig (by decide) fun s7 h7 => ?_
  rw [wp_bind]
  refine wp_showDig (by decide) fun s8 h8 => ?_
  rw [wp_bind]
  refine wp_showDig (by decide) fun s9 h9 => ?_
  have hdigits := h0.trans (h1.trans (h2.trans (h3.trans (h4.trans (h5.trans (h6.trans (h7.trans (h8.trans h9))))))))
  rw [wp_bind]
  refine wp_mono (wp_numberLoop (show 9 ≤ 9 by decide)) fun v9 s10 h10 => ?_
  obtain ⟨rfl, h10⟩ := h10
  rw [wp_bind]
  refine wp_read (by decide) fun s11 h11 => ?_
  rw [wp_bind]
  refine wp_read (by decide) fun s12 h12 => ?_
  rw [wp_bind, wp_modify, wp_bind]
  have h13 := did_showSymbol s12 (shownMask str)
  refine wp_lcdStep (symbolSegments (shownMask str)) ?_ fun s14 h14 => ?_
  · exact fun _ => rfl
  rw [wp_bind, mutexUnlock]
  refine wp_lcdStep [] ?_ fun s15 h15 => ?_
  · exact fun _ => rfl
  refine wp_lcdStep [] ?_ fun s16 h16 => ?_
  · exact fun _ => rfl
  have hsymbols := h10.trans (h11.trans (h12.trans (h13.trans (h14.trans (h15.trans h16)))))
  have hall := hdigits.trans hsymbols
  simp only [List.nil_append, List.append_nil, List.append_assoc] at hall
  rw [textSegments_eq]
  exact hall

theorem wp_lcdShow (hready : Ready s) (hstr : IsText str) : (lcdShow str).wp
    (fun _ s' => Did (textSegments str (shownMask str)) [shownMask str] s s') s := by
  have hone : str 1 ≠ 0 := hstr.chars 1 (by decide)
  rw [lcdShow, wp_bind, wp_get, if_neg hready.enabled, wp_bind]
  refine wp_mono (wp_strcmp 0x30 hone) fun b s1 h1 => ?_
  obtain ⟨rfl, hdid1, hlcd1⟩ := h1
  rw [if_neg Bool.false_ne_true, wp_bind]
  refine wp_mono (wp_strcmp 0x31 hone) fun b s2 h2 => ?_
  obtain ⟨rfl, hdid2, hlcd2⟩ := h2
  rw [if_neg Bool.false_ne_true, wp_bind]
  refine wp_mono (wp_strlen hstr) fun n s3 h3 => ?_
  obtain ⟨rfl, hdid3, hlcd3⟩ := h3
  have hlcd : s3.lcd = s.lcd := hlcd3.trans (hlcd2.trans hlcd1)
  rw [if_neg (not_not.mpr rfl)]
  refine wp_mono (wp_showText (by rw [hlcd, hready.free])) fun _ s4 h4 => ?_
  exact hdid1.trans (hdid2.trans (hdid3.trans h4))

/-! ## The number -/

theorem isDigit_iff (c : U8) : isDigit c = true ↔ 48 ≤ c.toNat ∧ c.toNat ≤ 57 := by
  rw [isDigit, decide_eq_true_eq, BitVec.le_def, BitVec.toNat_sub]
  have hlt := c.isLt
  show (2 ^ 8 - 48 + c.toNat) % 2 ^ 8 ≤ 9 ↔ _
  omega

theorem digitAt_le {i : ℕ} (hdigit : isDigit (str i) = true) : digitAt str i ≤ 9 := by
  have h := (isDigit_iff _).mp hdigit
  rw [digitAt]
  omega

theorem numberAt_succ (str : ℕ → U8) (off n : ℕ) :
    numberAt str off (n + 1) = digitAt str (off + n) + 10 * numberAt str off n := by
  rw [numberAt, List.range_succ, List.map_append, List.map_singleton, List.reverse_append, List.reverse_singleton,
    List.singleton_append, Nat.ofDigits_cons]
  rfl

/-- The first digit comes off the front. -/
theorem numberAt_first (str : ℕ → U8) (off n : ℕ) :
    numberAt str off (n + 1) = digitAt str off * 10 ^ n + numberAt str (off + 1) n := by
  induction n with
  | zero => simp [numberAt]
  | succ n ih =>
    rw [numberAt_succ, ih, numberAt_succ str (off + 1) n, Nat.pow_succ, show off + (n + 1) = off + 1 + n by omega]
    ring

theorem numberAt_lt {off n : ℕ} (hdigits : ∀ i < n, isDigit (str (off + i)) = true) : numberAt str off n < 10 ^ n := by
  induction n with
  | zero => exact Nat.lt_succ_self 0
  | succ n ih =>
    have hlast := digitAt_le (hdigits n (Nat.lt_succ_self n))
    have hbefore := ih fun i hi => hdigits i (Nat.lt_succ_of_lt hi)
    rw [numberAt_succ, Nat.pow_succ]
    omega

theorem toNat_pass (v : U32) (c : U8) :
    (10 * v - 48 + c.setWidth 32).toNat = (10 * v.toNat + 2 ^ 32 - 48 + c.toNat) % 2 ^ 32 := by
  have hlt := c.isLt
  rw [BitVec.toNat_add, BitVec.toNat_sub, BitVec.toNat_mul, BitVec.toNat_setWidth,
    show (10 : U32).toNat = 10 from rfl, show (48 : U32).toNat = 48 from rfl]
  omega

theorem accumulated_digits {p : ℕ} (hdigits : ∀ i < p, isDigit (str (13 + i)) = true) :
    accumulated str p = BitVec.ofNat 32 (numberAt str 13 p) := by
  induction p with
  | zero => rfl
  | succ p ih =>
    have hlast := (isDigit_iff _).mp (hdigits p (Nat.lt_succ_self p))
    apply BitVec.eq_of_toNat_eq
    rw [accumulated, ih fun i hi => hdigits i (Nat.lt_succ_of_lt hi), toNat_pass, numberAt_succ, digitAt,
      BitVec.toNat_ofNat, BitVec.toNat_ofNat]
    omega

theorem IsText.digits_behind (hstr : IsText str) : ∀ i < 8, isDigit (str (13 + i)) = true := by
  intro i hi
  have h := hstr.digits (i + 1) (by omega)
  rwa [show 12 + (i + 1) = 13 + i by omega] at h

/-- What the loop makes of the eight digits behind the first. -/
theorem toNat_accumulated (hstr : IsText str) :
    (accumulated str 9).toNat = (4294967248 + 10 * numberAt str 13 8) % 2 ^ 32 := by
  have hdigits := hstr.digits_behind
  have hlt := numberAt_lt hdigits
  rw [accumulated, toNat_pass, accumulated_digits hdigits, BitVec.toNat_ofNat, show 13 + 8 = 21 from rfl, hstr.ends,
    show (0 : U8).toNat = 0 from rfl]
  omega

/-- 149130809 is the inverse of 9. -/
theorem agree_mod (n r : ℤ) :
    10 * r - 48 ≡ n + r [ZMOD 268435456] ↔ 149130809 * (n + 48) ≡ r [ZMOD 268435456] := by
  rw [Int.modEq_iff_dvd, Int.modEq_iff_dvd]
  constructor
  · rintro ⟨k, hk⟩
    exact ⟨-(5 * r + 149130809 * k), by linear_combination (-149130809) * hk⟩
  · rintro ⟨k, hk⟩
    exact ⟨-(9 * k + 5 * (n + 48)), by linear_combination (-9) * hk⟩

/-- The loop and the text agree modulo `2 ^ 28` for four numbers. -/
theorem agree_iff {d r : ℕ} (hd : d ≤ 9) (hr : r < 100000000) :
    (4294967248 + 10 * r) % 268435456 = (d * 100000000 + r) % 268435456 ↔
      d * 100000000 + r ∈ agreeingNumbers := by
  have hint : (4294967248 + 10 * r) % 268435456 = (d * 100000000 + r) % 268435456 ↔
      10 * (r : ℤ) - 48 ≡ d * 100000000 + r [ZMOD 268435456] := by
    have hwrap : (4294967248 : ℤ) + 10 * r = 10 * r - 48 + 268435456 * 16 := by ring
    rw [← Nat.ModEq, ← Int.natCast_modEq_iff]
    push_cast
    rw [hwrap, Int.ModEq, Int.add_mul_emod_self_left, ← Int.ModEq]
  have hres : (r : ℤ) % 268435456 = r := Int.emod_eq_of_lt (by omega) (by omega)
  rw [hint, agree_mod, Int.ModEq, hres]
  -- each first digit leaves one residue for the others
  simp only [agreeingNumbers, List.mem_cons, List.not_mem_nil, or_false]
  interval_cases d
  all_goals norm_num
  all_goals omega

/-- The bits of the number in a mask. -/
theorem low_mask {a : U32} (ha : a &&& 0xFFFFFFF = a) (point point' : Prop) [Decidable point] [Decidable point'] :
    (a ||| (if point then 0x10000000 else 0) ||| (if point' then 0x20000000 else 0)) &&& 0xFFFFFFF = a := by
  have hzero : ∀ (p : Prop) [Decidable p] (bit : U32), bit &&& 0xFFFFFFF = 0 →
      (if p then bit else 0) &&& 0xFFFFFFF = 0 := by
    intro p _ bit hbit
    split_ifs
    · exact hbit
    · exact BitVec.zero_and
  rw [BitVec.and_or_distrib_right, BitVec.and_or_distrib_right, hzero point _ (by decide),
    hzero point' _ (by decide), ha]
  simp

/-- The two points are above the number. -/
theorem masks_eq_iff {a b : U32} (ha : a &&& 0xFFFFFFF = a) (hb : b &&& 0xFFFFFFF = b) (point point' : Prop)
    [Decidable point] [Decidable point'] :
    a ||| (if point then 0x10000000 else 0) ||| (if point' then 0x20000000 else 0) =
      b ||| (if point then 0x10000000 else 0) ||| (if point' then 0x20000000 else 0) ↔ a = b := by
  constructor
  · intro h
    rw [← low_mask ha point point', h, low_mask hb]
  · rintro rfl
    rfl

theorem shownMask_eq (str : ℕ → U8) : shownMask str = accumulated str 9 &&& 0xFFFFFFF |||
    (if str 4 = 0x2E then 0x10000000 else 0) ||| (if str 7 = 0x2E then 0x20000000 else 0) := by
  simp only [shownMask]
  split_ifs <;> simp

theorem toNat_low (v : U32) : (v &&& 0xFFFFFFF).toNat = v.toNat % 268435456 := by
  rw [BitVec.toNat_and]
  exact Nat.and_two_pow_sub_one_eq_mod v.toNat 28

/-- The mask is that of the text exactly for four numbers. -/
theorem shownMask_iff (hstr : IsText str) : shownMask str = textMask str ↔ numberAt str 12 9 ∈ agreeingNumbers := by
  have hfirst : digitAt str 12 ≤ 9 := digitAt_le (hstr.digits 0 (by decide))
  have hrest : numberAt str 13 8 < 100000000 := numberAt_lt hstr.digits_behind
  have hnumber : numberAt str 12 9 = digitAt str 12 * 100000000 + numberAt str 13 8 := numberAt_first str 12 8
  have hnum : (BitVec.ofNat 32 (numberAt str 12 9 % 2 ^ 28) : U32).toNat =
      (digitAt str 12 * 100000000 + numberAt str 13 8) % 268435456 := by
    rw [hnumber, BitVec.toNat_ofNat]
    omega
  have hacc : (accumulated str 9 &&& 0xFFFFFFF).toNat = (4294967248 + 10 * numberAt str 13 8) % 268435456 := by
    rw [toNat_low, toNat_accumulated hstr]
    omega
  have hlow : (BitVec.ofNat 32 (numberAt str 12 9 % 2 ^ 28) : U32) &&& 0xFFFFFFF =
      BitVec.ofNat 32 (numberAt str 12 9 % 2 ^ 28) := by
    apply BitVec.eq_of_toNat_eq
    rw [toNat_low, hnum, Nat.mod_mod]
  have hmasked : accumulated str 9 &&& 0xFFFFFFF &&& 0xFFFFFFF = accumulated str 9 &&& 0xFFFFFFF := by
    rw [BitVec.and_assoc, BitVec.and_self]
  rw [shownMask_eq, textMask, masks_eq_iff hmasked hlow, ← BitVec.toNat_inj, hacc, hnum, agree_iff hfirst hrest,
    ← hnumber]

theorem mask_of_shown (hready : Ready s) (hstr : IsText str)
    (hshown : (lcdShow str).wp (fun _ s' => Shown str s s') s) :
    shownMask str = textMask str := by
  obtain ⟨u, s', -, hs', hdid⟩ := wp_and_wlp hshown (wlp_of_wp (wp_lcdShow hready hstr))
  obtain ⟨new, hgrew, hmasks, -⟩ := hdid.log
  have hmask := hs'.mask
  rw [hgrew.since, hmasks] at hmask
  exact (List.cons.inj hmask).1

theorem shown_of_mask (hready : Ready s) (hstr : IsText str) (hmask : shownMask str = textMask str) :
    (lcdShow str).wp (fun _ s' => Shown str s s') s := by
  refine wp_mono (wp_lcdShow hready hstr) fun u s' hdid => ?_
  obtain ⟨new, hgrew, hmasks, hreads⟩ := hdid.log
  refine ⟨?_, ?_, fun other t t' hother ht hends idx hidx hchar => ?_⟩
  · rw [hgrew.since, hmasks, hmask]
  · rw [hgrew.since]
    exact hreads
  · have hdid' := wlp_of_wp (wp_lcdShow ht hother) () t' hends
    refine List.map_congr_left fun seg hseg => ?_
    rw [hdid'.page, hdid.page, bitAfter_text other _ hidx hseg, bitAfter_text str _ hidx hseg, hchar]

/-- A text is shown right exactly if its number is one of the four. -/
theorem lcdShow_shown_iff (hready : Ready s) (hstr : IsText str) :
    (lcdShow str).wp (fun _ s' => Shown str s s') s ↔ numberAt str 12 9 ∈ agreeingNumbers := by
  rw [← shownMask_iff hstr]
  exact ⟨mask_of_shown hready hstr, shown_of_mask hready hstr⟩

/-! ### The text of the probe -/

/-- A C string. -/
def stringAt (text : Text) (i : ℕ) : U8 := text.getD i 0

/-- The LCD is on and blank. -/
def blank : ShowState where
  lcd :=
    { page := Vector.replicate 32 0
      enabled := 1
      locked := false
      clock := .const 0
      lines := fun _ => true
      log := [] }
  flashMode := 0
  flashIdx := 0
  log := []

theorem blank_ready : Ready blank := ⟨by decide, rfl⟩

theorem isText_init : IsText (stringAt (ascii "INIT-__-___-000000000")) := by
  constructor <;> decide

theorem lcdShow_shown_iff_init :
    (lcdShow (stringAt (ascii "INIT-__-___-000000000"))).wp
      (fun _ s' => Shown (stringAt (ascii "INIT-__-___-000000000")) blank s') blank ↔
    numberAt (stringAt (ascii "INIT-__-___-000000000")) 12 9 ∈ agreeingNumbers :=
  lcdShow_shown_iff blank_ready isText_init

/-- It asks for no symbol, and those of the bits 9 to 27 are switched on. -/
theorem not_shown_init : ¬ ∀ str s, IsText str → Ready s → (lcdShow str).wp (fun _ s' => Shown str s s') s := by
  intro hall
  have hmask := mask_of_shown blank_ready isText_init (hall _ _ isText_init blank_ready)
  exact absurd hmask (by decide)

end Lcd

end MtcDrivers
