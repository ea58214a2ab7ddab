import MtcDrivers.Lcd.Page
import MtcDrivers.Lcd.Proofs.ShowProofs
import MtcDrivers.Lcd.Proofs.WorkProofs

/-!
# Proofs: the page of the LCD

A text writes the segments of all positions and symbols, and a flash those of all bars, which are others. So each
leaves nothing of what the last of its kind wrote, and everything of the other kind.
-/

namespace MtcDrivers

namespace Lcd

open Proc

variable {s s' s'' : ShowState} {d : Display} {seg : U8} {str : CStr}

/-! ## Writing over what was there -/

/-- The segments that are written, as numbers. -/
def keysOf (segments : List (U8 × Bool)) : List ℕ := segments.map fun s => segmentKey s.1

/-- A segment that is written keeps nothing of what it was. -/
theorem bitAfter_of_mem {segments : List (U8 × Bool)} (hmem : segmentKey seg ∈ keysOf segments) (b b' : Bool) :
    bitAfter segments seg b = bitAfter segments seg b' := by
  induction segments generalizing b b' with
  | nil => cases hmem
  | cons s segments ih =>
    have hfirst : ∀ b, bitAfter (s :: segments) seg b =
        bitAfter segments seg (if segmentKey s.1 = segmentKey seg then s.2 else b) := fun _ => rfl
    rw [hfirst, hfirst]
    by_cases heq : segmentKey s.1 = segmentKey seg
    · rw [if_pos heq, if_pos heq]
    · exact ih ((List.mem_cons.mp hmem).resolve_left fun h => heq h.symm) _ _

theorem bitAfter_of_not_mem {segments : List (U8 × Bool)} (hmem : segmentKey seg ∉ keysOf segments) (b : Bool) :
    bitAfter segments seg b = b :=
  bitAfter_other b fun _ hs heq => hmem (heq ▸ List.mem_map_of_mem hs)

section

variable {lower lower' upper upper' : List (U8 × Bool)}

theorem bitAfter_over (hkeys : keysOf upper' = keysOf upper) (b : Bool) :
    bitAfter upper' seg (bitAfter (lower ++ upper) seg b) = bitAfter (lower ++ upper') seg b := by
  rw [bitAfter_append, bitAfter_append]
  by_cases hmem : segmentKey seg ∈ keysOf upper
  · exact bitAfter_of_mem (hkeys ▸ hmem) _ _
  · rw [bitAfter_of_not_mem hmem]

theorem bitAfter_under (hkeys : keysOf lower' = keysOf lower) (hdisjoint : List.Disjoint (keysOf lower) (keysOf upper))
    (b : Bool) : bitAfter lower' seg (bitAfter (lower ++ upper) seg b) = bitAfter (lower' ++ upper) seg b := by
  rw [bitAfter_append, bitAfter_append]
  by_cases hmem : segmentKey seg ∈ keysOf lower
  · rw [bitAfter_of_not_mem (hdisjoint hmem) (bitAfter lower' seg b)]
    exact bitAfter_of_mem (hkeys ▸ hmem) _ _
  · have hmem' : segmentKey seg ∉ keysOf lower' := by rwa [hkeys]
    rw [bitAfter_of_not_mem hmem', bitAfter_of_not_mem hmem', bitAfter_of_not_mem hmem]

end

/-! ## The segments of a display -/

/-- The segments of the positions and symbols. -/
def inkSegments (chars : ℕ → U8) (symbols : U32) : List (U8 × Bool) :=
  (List.range 9).flatMap (fun idx => digSegments (chars idx) idx) ++ symbolSegments symbols

theorem keysOf_ink (chars : ℕ → U8) (symbols : U32) : keysOf (inkSegments chars symbols) =
    ((List.range 9).map fun idx => positionKeys.getD idx []).flatten ++ symbolKeys := by
  have hposition : (List.range 9).map (fun idx => (digSegments (chars idx) idx).map fun s => segmentKey s.1) =
      (List.range 9).map fun idx => positionKeys.getD idx [] := by
    refine List.map_congr_left fun idx hidx => ?_
    rw [← positionKeys_eq idx (List.mem_range.mp hidx), ← map_fst_digSegments (chars idx) idx, List.map_map]
    rfl
  unfold keysOf inkSegments
  rw [List.map_append, symbolKeys_eq, List.map_flatMap, List.flatMap_def, hposition]

theorem keysOf_bars (bars : U32) : keysOf (Display.barSegments bars) = symbolMap.map segmentKey := by
  unfold keysOf Display.barSegments
  rw [List.map_map, ← List.zipIdx_map_fst 0 symbolMap, List.map_map]
  rfl

theorem ink_bars_disjoint (chars : ℕ → U8) (symbols bars : U32) :
    List.Disjoint (keysOf (inkSegments chars symbols)) (keysOf (Display.barSegments bars)) := by
  have hdisjoint : ∀ key ∈ symbolMap.map segmentKey,
      key ∉ ((List.range 9).map fun idx => positionKeys.getD idx []).flatten ++ symbolKeys := by
    decide
  rw [keysOf_ink, keysOf_bars]
  exact fun key hink hbar => hdisjoint key hbar hink

theorem pageBit_draw (d : Display) (w : World) (seg : U8) : pageBit (d.draw w) seg =
    bitAfter (inkSegments d.chars d.symbols ++ Display.barSegments d.bars) seg (pageBit w seg) := by
  have hdigits : ∀ (idxs : List ℕ) (w : World), idxs.foldl (fun w idx => lcdShowDig (d.chars idx) idx w) w =
      setSegments (idxs.flatMap fun idx => digSegments (d.chars idx) idx) w := by
    intro idxs
    induction idxs with
    | nil => exact fun _ => rfl
    | cons idx idxs ih =>
      intro w
      rw [List.foldl_cons, ih, List.flatMap_cons]
      exact List.foldl_append.symm
  unfold Display.draw lcdShowSymbol inkSegments
  rw [pageBit_setSegments, pageBit_setSegments, hdigits, pageBit_setSegments, bitAfter_append, bitAfter_append]

/-! ## Calls -/

/-- Nothing but the text was read. -/
structure Quiet (s s' : ShowState) : Prop where
  lcd : s'.lcd = s.lcd
  flashMode : s'.flashMode = s.flashMode
  flashIdx : s'.flashIdx = s.flashIdx

theorem Quiet.refl (s : ShowState) : Quiet s s := ⟨rfl, rfl, rfl⟩

theorem Quiet.trans (h : Quiet s s') (h' : Quiet s' s'') : Quiet s s'' :=
  ⟨h'.lcd.trans h.lcd, h'.flashMode.trans h.flashMode, h'.flashIdx.trans h.flashIdx⟩

theorem quiet_read (s : ShowState) (i : ℕ) : Quiet s (s.emit (.readChar i)) := ⟨rfl, rfl, rfl⟩

/-- The segments were written on the page. -/
def Wrote (segments : List (U8 × Bool)) (s s' : ShowState) : Prop :=
  ∀ seg, pageBit s'.lcd seg = bitAfter segments seg (pageBit s.lcd seg)

/-- These segments were written, and the LCD is free again. -/
structure Drew (segments : List (U8 × Bool)) (s s' : ShowState) : Prop where
  ready : Ready s'
  flashMode : s'.flashMode = s.flashMode
  flashIdx : s'.flashIdx = s.flashIdx
  page : Wrote segments s s'

/-- The comparison with a string of one character. -/
theorem wp_strcmp_any (str : CStr) (l : U8) :
    (strcmp str.chars [l] 0).wp (fun b s' => (b = true ↔ str.Is l) ∧ Quiet s s') s := by
  simp only [strcmp, wp_bind, wp_readChar]
  split
  next hfirst =>
    rw [wp_bind, wp_readChar]
    refine wp_pure.mpr ⟨?_, (quiet_read s 0).trans (quiet_read _ 1)⟩
    rw [beq_iff_eq]
    exact ⟨fun h => ⟨hfirst, h⟩, fun h => h.2⟩
  next hfirst =>
    refine wp_pure.mpr ⟨?_, quiet_read s 0⟩
    exact ⟨fun h => absurd h Bool.false_ne_true, fun h => absurd h.1 hfirst⟩

theorem wp_strlen_any (str : CStr) : (strlen str.chars).wp
    (fun n s' => (∀ i < n, str.chars i ≠ 0) ∧ str.chars n = 0 ∧ Quiet s s') s := by
  obtain ⟨n, hn⟩ := str.ends
  refine wp_iter (fun i s' => (∀ k < i, str.chars k ≠ 0) ∧ Quiet s s') (fun i _ => n - i) (fun i s1 h1 => ?_)
    ⟨fun k hk => absurd hk (Nat.not_lt_zero k), Quiet.refl s⟩
  obtain ⟨hbefore, hquiet⟩ := h1
  have hread := hquiet.trans (quiet_read s1 i)
  rw [strlenPass, wp_bind, wp_readChar]
  by_cases hend : str.chars i = 0
  · rw [if_pos hend]
    exact wp_pure.mpr ⟨hbefore, hend, hread⟩
  · have hlt : i < n := by
      by_contra hle
      rcases Nat.lt_or_eq_of_le (Nat.le_of_not_lt hle) with hlt | heq
      · exact hbefore n hlt hn
      · exact hend (heq ▸ hn)
    rw [if_neg hend]
    refine wp_pure.mpr ⟨⟨fun k hk => ?_, hread⟩, by omega⟩
    rcases Nat.lt_succ_iff_lt_or_eq.mp hk with hk | rfl
    · exact hbefore k hk
    · exact hend

theorem bars_eq (mask : U32) :
    (fun w : World => symbolMap.zipIdx.foldl
      (fun w segment => setSegment segment.1 (mask.sshiftRight segment.2 &&& 1 ≠ 0) w) w) =
      setSegments (Display.barSegments mask) := by
  funext w
  unfold setSegments Display.barSegments
  rw [List.foldl_map]

theorem enabled_setSegments (segments : List (U8 × Bool)) (w : World) :
    (setSegments segments w).enabled = w.enabled := by
  induction segments generalizing w with
  | nil => rfl
  | cons s segments ih => exact ih (setSegment s.1 s.2 w)

theorem wp_segments {w : World} {Q : Unit → World → Prop} (segments : List (U8 × Bool))
    (hQ : ∀ w', w'.enabled = w.enabled → w'.locked = false →
      (∀ seg, pageBit w' seg = bitAfter segments seg (pageBit w seg)) → Q () w') :
    (do
      Proc.modify (setSegments segments)
      mutexUnlock
      Proc.modify (·.emit (.scheduleWork 0)) : Proc World Unit).wp Q w := by
  have henabled := enabled_setSegments segments w
  have hpage := fun seg => pageBit_setSegments (w := w) segments seg
  rw [wp_bind, wp_modify, wp_bind, mutexUnlock, wp_modify, wp_modify]
  generalize setSegments segments w = w' at *
  exact hQ _ henabled rfl hpage

theorem lcdFlash_eq (mask : U32) : lcdFlash mask = (do
    let w ← Proc.get
    if w.enabled = 0 then return ()
    else
      Proc.modify (·.emit .cancelWork)
      mutexLock
      Proc.modify (setSegments (Display.barSegments mask))
      mutexUnlock
      Proc.modify (·.emit (.scheduleWork 0))) := by
  rw [← bars_eq]
  rfl

theorem wp_lcdFlash (hready : Ready s) (mask : U32) :
    (onLcd (lcdFlash mask)).wp (fun _ s' => Drew (Display.barSegments mask) s s') s := by
  have hfree : (s.lcd.emit .cancelWork).locked = false := hready.free
  rw [wp_onLcd, lcdFlash_eq, wp_bind, wp_get, if_neg hready.enabled, wp_bind, wp_modify, wp_bind]
  refine wp_mutexLock hfree (wp_segments _ fun w' henabled hunlocked hpage => ?_)
  exact ⟨⟨henabled.trans_ne hready.enabled, hunlocked⟩, rfl, rfl, hpage⟩

/-- What a text leaves as it is. -/
structure Keeps (s s' : ShowState) : Prop where
  enabled : s'.lcd.enabled = s.lcd.enabled
  flashMode : s'.flashMode = s.flashMode
  flashIdx : s'.flashIdx = s.flashIdx

theorem Keeps.trans (h : Keeps s s') (h' : Keeps s' s'') : Keeps s s'' :=
  ⟨h'.enabled.trans h.enabled, h'.flashMode.trans h.flashMode, h'.flashIdx.trans h.flashIdx⟩

instance : IsPreorder ShowState Keeps where
  refl _ := ⟨rfl, rfl, rfl⟩
  trans _ _ _ := Keeps.trans

theorem respects_lcd {f : World → World} (hf : ∀ w, (f w).enabled = w.enabled) :
    Respects Keeps (onLcd (Proc.modify f)) := by
  rintro s u s' hends
  obtain ⟨w, hw, rfl⟩ := ends_zoom.mp hends
  obtain ⟨-, rfl⟩ := ends_modify.mp hw
  exact ⟨hf s.lcd, rfl, rfl⟩

theorem respects_read (str : ℕ → U8) (i : ℕ) : Respects Keeps (readChar str i) := by
  rintro s c s' hends
  simp only [readChar, ends_bind, ends_modify, ends_pure] at hends
  obtain ⟨-, -, ⟨-, rfl⟩, -, rfl⟩ := hends
  exact ⟨rfl, rfl, rfl⟩

theorem respects_mutexLock : Respects Keeps (onLcd mutexLock) := by
  have hlock : Respects (fun w w' : World => w'.enabled = w.enabled) mutexLock := by
    have hpreorder : IsPreorder World fun w w' => w'.enabled = w.enabled :=
      { refl := fun _ => rfl, trans := fun _ _ _ h h' => h'.trans h }
    refine Respects.repeatUntil (Respects.bind respects_get fun w => Respects.ite (respects_pure _) ?_)
    exact Respects.bind (respects_modify fun _ => rfl) fun _ => respects_pure _
  rintro s u s' hends
  obtain ⟨w, hw, rfl⟩ := ends_zoom.mp hends
  exact ⟨hlock s.lcd u w hw, rfl, rfl⟩

theorem enabled_lcdShowDig (c : U8) (idx : ℕ) (w : World) : (lcdShowDig c idx w).enabled = w.enabled := by
  unfold lcdShowDig
  exact enabled_setSegments _ w

theorem enabled_lcdShowSymbol (mask : U32) (w : World) : (lcdShowSymbol mask w).enabled = w.enabled := by
  unfold lcdShowSymbol
  exact enabled_setSegments _ w

theorem respects_showDig (str : ℕ → U8) (i idx : ℕ) : Respects Keeps (showDig str i idx) :=
  Respects.bind (respects_read str i) fun c => respects_lcd (enabled_lcdShowDig c idx)

theorem respects_number (str : ℕ → U8) (b : ℕ × U32) : Respects Keeps (iter (numberPass str) b) := by
  refine Respects.iter (fun b => ?_) b
  unfold numberPass
  refine Respects.ite ?_ (respects_pure _)
  exact Respects.bind (respects_read str _) fun _ => respects_pure _

theorem wlp_showText (s : ShowState) (str : ℕ → U8) :
    (showText str).wlp (fun _ s' => Keeps s s' ∧ s'.lcd.locked = false) s := by
  rw [showText]
  simp only [wlp_bind]
  refine (respects_lcd (f := (World.emit · .cancelWork)) fun _ => rfl).wlp fun _ s1 h1 => ?_
  refine respects_mutexLock.wlp fun _ s2 h2 => ?_
  refine (respects_showDig str _ _).wlp fun _ s3 h3 => ?_
  refine (respects_showDig str _ _).wlp fun _ s4 h4 => ?_
  refine (respects_showDig str _ _).wlp fun _ s5 h5 => ?_
  refine (respects_showDig str _ _).wlp fun _ s6 h6 => ?_
  refine (respects_showDig str _ _).wlp fun _ s7 h7 => ?_
  refine (respects_showDig str _ _).wlp fun _ s8 h8 => ?_
  refine (respects_showDig str _ _).wlp fun _ s9 h9 => ?_
  refine (respects_showDig str _ _).wlp fun _ s10 h10 => ?_
  refine (respects_showDig str _ _).wlp fun _ s11 h11 => ?_
  refine (respects_number str _).wlp fun v9 s12 h12 => ?_
  refine (respects_read str _).wlp fun _ s13 h13 => ?_
  refine (respects_read str _).wlp fun _ s14 h14 => ?_
  rw [wlp_modify]
  refine (respects_lcd (enabled_lcdShowSymbol _)).wlp fun _ s15 h15 => ?_
  have hdigits := h3.trans (h4.trans (h5.trans (h6.trans (h7.trans (h8.trans (h9.trans (h10.trans h11)))))))
  have hsymbols := h12.trans (h13.trans (h14.trans ⟨h15.enabled, h15.flashMode, h15.flashIdx⟩))
  have hall := h1.trans (h2.trans (hdigits.trans hsymbols))
  unfold onLcd mutexUnlock
  rw [wlp_zoom, wlp_modify, wlp_zoom, wlp_modify]
  exact ⟨⟨hall.enabled, hall.flashMode, hall.flashIdx⟩, rfl⟩

theorem symbolMask_eq (str : CStr) : str.symbolMask = shownMask str.chars := by
  have hnumber : ∀ n, (List.range n).foldl (fun v9 k => 10 * v9 - 48 + (str.chars (13 + k)).setWidth 32) 0 =
      accumulated str.chars n := by
    intro n
    induction n with
    | zero => rfl
    | succ n ih =>
      rw [List.range_succ, List.foldl_append, ih]
      rfl
  unfold CStr.symbolMask
  rw [shownMask_eq, hnumber]

theorem wp_text (hready : Ready s) (str : CStr) : (showText str.chars).wp
    (fun _ s' => Drew (inkSegments (fun idx => str.chars (charOf idx)) str.symbolMask) s s') s := by
  refine wp_mono (wp_and_wlp (wp_showText hready.free) (wlp_showText s str.chars)) fun _ s' h => ?_
  obtain ⟨hdid, hkeeps, hfree⟩ := h
  refine ⟨⟨hkeeps.enabled.trans_ne hready.enabled, hfree⟩, hkeeps.flashMode, hkeeps.flashIdx, ?_⟩
  rw [symbolMask_eq]
  exact hdid.page

/-! ## Calls of a free LCD, and calls that leave the page -/

theorem Shows.wrote_bars (h : Shows d s) {bars : U32} (hwrote : Wrote (Display.barSegments bars) s s')
    {flashing : Option ℕ} (blank : World) (hblank : ∀ seg, pageBit blank seg = false) (seg : U8) :
    pageBit s'.lcd seg = pageBit ({ d with bars, flashing }.draw blank) seg := by
  rw [hwrote, h.page blank hblank, pageBit_draw, pageBit_draw]
  exact bitAfter_over ((keysOf_bars bars).trans (keysOf_bars d.bars).symm) _

theorem Shows.wrote_ink (h : Shows d s) {chars : ℕ → U8} {symbols : U32}
    (hwrote : Wrote (inkSegments chars symbols) s s') (blank : World) (hblank : ∀ seg, pageBit blank seg = false)
    (seg : U8) : pageBit s'.lcd seg = pageBit ({ d with chars, symbols }.draw blank) seg := by
  rw [hwrote, h.page blank hblank, pageBit_draw, pageBit_draw]
  exact bitAfter_under ((keysOf_ink chars symbols).trans (keysOf_ink d.chars d.symbols).symm)
    (ink_bars_disjoint d.chars d.symbols d.bars) _

/-- The flash mode alone was changed. -/
theorem Shows.reflash (h : Shows d s) (hlcd : s'.lcd = s.lcd) (hidx : s'.flashIdx.toNat < 21) (flashing : Option ℕ)
    (hflashing : flashing = if s'.flashMode ≠ 0 then some s'.flashIdx.toNat else none) :
    Shows { d with flashing } s' where
  enabled := hlcd ▸ h.enabled
  flashIdx := hidx
  flashing := hflashing
  page blank hblank seg := by
    rw [hlcd]
    exact h.page blank hblank seg

theorem Shows.quiet (h : Shows d s) (hquiet : Quiet s s') : Shows d s' := by
  refine h.reflash hquiet.lcd (hquiet.flashIdx ▸ h.flashIdx) d.flashing ?_
  rw [h.flashing, hquiet.flashMode, hquiet.flashIdx]

/-- What `strlen` finds is the length. -/
theorem full_iff {n : ℕ} (hbefore : ∀ i < n, str.chars i ≠ 0) (hend : str.chars n = 0) : str.Full ↔ n = 21 := by
  constructor
  · rintro ⟨hchars, hlast⟩
    rcases Nat.lt_trichotomy n 21 with hlt | heq | hgt
    · exact absurd hend (hchars n hlt)
    · exact heq
    · exact absurd hlast (hbefore 21 hgt)
  · rintro rfl
    exact ⟨hbefore, hend⟩

/-- The display is shown, and the mutex is as it was. -/
def ShowsBehind (d : Display) (s s' : ShowState) : Prop := Shows d s' ∧ s'.lcd.locked = s.lcd.locked

/-- The bars are put out, and the flash mode ends. -/
theorem shows_stop (h : Shows d s) (hfree : s.lcd.locked = false) :
    (onLcd (lcdFlash 0)).wp (fun _ s' => ShowsBehind { d with bars := 0, flashing := none } s s')
      (({ s with flashMode := 0 } : ShowState).emit .cancelFlash) := by
  have hready : Ready (({ s with flashMode := 0 } : ShowState).emit .cancelFlash) := ⟨h.enabled, hfree⟩
  refine wp_mono (wp_lcdFlash hready 0) fun _ s' hdrew => ?_
  refine ⟨⟨hdrew.ready.enabled, ?_, ?_, h.wrote_bars hdrew.page⟩, hdrew.ready.free.trans hfree.symm⟩
  · rw [hdrew.flashIdx]
    exact h.flashIdx
  · rw [hdrew.flashMode]
    rfl

theorem shows_start (h : Shows d s) (hoff : s.flashMode = 0) :
    Shows { d with flashing := some (d.flashing.getD 0) }
      (({ s with flashIdx := 0, flashMode := 1 } : ShowState).emit (.scheduleFlash 0)) := by
  have hlcd : (({ s with flashIdx := 0, flashMode := 1 } : ShowState).emit (.scheduleFlash 0)).lcd = s.lcd := rfl
  refine h.reflash hlcd (Nat.zero_lt_succ 20) _ ?_
  rw [h.flashing, if_neg (not_not.mpr hoff)]
  rfl

/-- A string on a free LCD, or one that leaves the page. -/
theorem shows_show (h : Shows d s) (str : CStr) (hmay : s.lcd.locked = false ∨ ¬ d.Draws (.show str)) :
    (lcdShow str.chars).wp (fun _ s' => ShowsBehind (d.next (.show str)) s s') s := by
  unfold lcdShow Display.next
  rw [wp_bind, wp_get, if_neg h.enabled, wp_bind]
  refine wp_mono (wp_strcmp_any str 0x30) fun zero s1 h1 => ?_
  obtain ⟨hzero, hquiet1⟩ := h1
  have h1 := h.quiet hquiet1
  have hlocked1 : s1.lcd.locked = s.lcd.locked := congrArg World.locked hquiet1.lcd
  dsimp only
  split
  next hstop =>
    have hfree := hmay.resolve_right fun hno => hno (.inl (hzero.mp hstop))
    rw [if_pos (hzero.mp hstop), wp_bind, wp_modify, wp_bind, wp_modify]
    refine wp_mono (shows_stop h1 (hlocked1.trans hfree)) fun _ s' h' => ⟨h'.1, h'.2.trans hlocked1⟩
  next hgo =>
    rw [if_neg (mt hzero.mpr hgo), wp_bind]
    refine wp_mono (wp_strcmp_any str 0x31) fun one s2 h2 => ?_
    obtain ⟨hone, hquiet2⟩ := h2
    have h2 := h1.quiet hquiet2
    have hlocked2 : s2.lcd.locked = s.lcd.locked := (congrArg World.locked hquiet2.lcd).trans hlocked1
    split
    next hstart =>
      rw [if_pos (hone.mp hstart), wp_bind, wp_get]
      split
      next hoff =>
        rw [wp_bind, wp_modify, wp_modify]
        exact ⟨shows_start h2 hoff, hlocked2⟩
      next hon =>
        refine wp_pure.mpr ⟨h2.reflash rfl h2.flashIdx _ ?_, hlocked2⟩
        rw [h2.flashing, if_pos hon]
        rfl
    next htext =>
      rw [if_neg (mt hone.mpr htext), wp_bind]
      refine wp_mono (wp_strlen_any str) fun n s3 h3 => ?_
      obtain ⟨hbefore, hend, hquiet3⟩ := h3
      have h3 := h2.quiet hquiet3
      have hlocked3 : s3.lcd.locked = s.lcd.locked := (congrArg World.locked hquiet3.lcd).trans hlocked2
      have hfull := full_iff hbefore hend
      split
      next hlen =>
        rw [if_neg (mt hfull.mp hlen)]
        exact wp_pure.mpr ⟨h3, hlocked3⟩
      next hlen =>
        have hfree := hmay.resolve_right fun hno => hno (.inr (hfull.mpr (not_not.mp hlen)))
        rw [if_pos (hfull.mpr (not_not.mp hlen))]
        refine wp_mono (wp_text ⟨h3.enabled, hlocked3.trans hfree⟩ str) fun _ s' hdrew => ?_
        refine ⟨⟨hdrew.ready.enabled, ?_, ?_, h3.wrote_ink hdrew.page⟩, hdrew.ready.free.trans hfree.symm⟩
        · rw [hdrew.flashIdx]
          exact h3.flashIdx
        · rw [hdrew.flashMode, hdrew.flashIdx]
          exact h3.flashing

/-- The index goes round the table. -/
theorem nextIdx {idx : U32} (hlt : idx.toNat < 21) :
    (if 0x14 < idx + 1 then (0 : U32) else idx + 1).toNat = (idx.toNat + 1) % 21 := by
  have hsucc : (idx + 1).toNat = idx.toNat + 1 := by
    rw [BitVec.toNat_add]
    exact Nat.mod_eq_of_lt (by have : (1 : U32).toNat = 1 := rfl; omega)
  have hlimit : (0x14 : U32).toNat = 20 := rfl
  split
  next hover =>
    rw [BitVec.lt_def, hsucc, hlimit] at hover
    have heq : idx.toNat = 20 := by omega
    rw [heq]
    rfl
  next hunder =>
    rw [BitVec.lt_def, hsucc, hlimit] at hunder
    rw [hsucc, Nat.mod_eq_of_lt (by omega)]

/-- The index as the two steps leave it. -/
def advance (s : ShowState) : ShowState :=
  { s with flashIdx := if 0x14 < s.flashIdx + 1 then 0 else s.flashIdx + 1 }

theorem advance_eq (s : ShowState) :
    (fun s : ShowState => if 0x14 < s.flashIdx then { s with flashIdx := 0 } else s)
        { s with flashIdx := s.flashIdx + 1 } = advance s := by
  unfold advance
  dsimp only
  split_ifs
  · rfl
  · rfl

theorem Shows.advanced (h : Shows d s) (hmode : s.flashMode ≠ 0) {bars : U32}
    (hdrew : Drew (Display.barSegments bars) s s') :
    Shows { d with bars, flashing := some ((s.flashIdx.toNat + 1) % 21) } ((advance s').emit (.scheduleFlash 120)) := by
  have hlt : s'.flashIdx.toNat < 21 := hdrew.flashIdx ▸ h.flashIdx
  have hnext := nextIdx hlt
  refine ⟨hdrew.ready.enabled, ?_, ?_, h.wrote_bars hdrew.page⟩
  · exact hnext.trans_lt (Nat.mod_lt _ (by decide))
  · have hon : s'.flashMode ≠ 0 := hdrew.flashMode.trans_ne hmode
    rw [hdrew.flashIdx] at hnext
    refine Eq.trans (congrArg some ?_) (if_pos hon).symm
    rw [← hnext, ← hdrew.flashIdx]
    rfl

theorem shows_flashWork (h : Shows d s) (hmay : s.lcd.locked = false ∨ ¬ d.Draws .flashWork) :
    lcdFlashWork.wp (fun _ s' => ShowsBehind (d.next .flashWork) s s') s := by
  have hflashing := h.flashing
  unfold lcdFlashWork Display.next
  rw [wp_bind, wp_get]
  dsimp only
  rw [hflashing]
  by_cases hmode : s.flashMode ≠ 0
  · rw [if_pos hmode] at hflashing
    have hdraws : d.Draws .flashWork := hflashing.trans_ne (Option.some_ne_none _)
    have hfree := hmay.resolve_right (not_not.mpr hdraws)
    rw [if_pos ⟨h.enabled, hmode⟩, if_pos hmode, wp_bind]
    refine wp_mono (wp_lcdFlash ⟨h.enabled, hfree⟩ _) fun _ s' hdrew => ?_
    have hlocked : ((advance s').emit (.scheduleFlash 120)).lcd.locked = s.lcd.locked :=
      hdrew.ready.free.trans hfree.symm
    have hbehind := And.intro (h.advanced hmode hdrew) hlocked
    rw [← advance_eq] at hbehind
    rw [wp_bind, wp_modify, wp_bind, wp_modify, wp_modify]
    exact hbehind
  · rw [if_neg fun hboth => hmode hboth.2, if_neg hmode]
    exact wp_pure.mpr ⟨h, rfl⟩

theorem shows_call (h : Shows d s) (op : LcdOp) (hmay : s.lcd.locked = false ∨ ¬ d.Draws op) :
    op.proc.wp (fun _ s' => ShowsBehind (d.next op) s s') s := by
  cases op with
  | «show» str => exact shows_show h str hmay
  | flashWork => exact shows_flashWork h hmay

/-! ## Calls beside the work -/

theorem lcdFlash_held (mask : U32) {Q : Unit → ShowState → Prop} (henabled : s.lcd.enabled ≠ 0)
    (hheld : s.lcd.locked = true) : (onLcd (lcdFlash mask)).wlp Q s := by
  unfold onLcd
  rw [wlp_zoom]
  exact lcdFlash_waits mask henabled hheld

theorem showText_held (str : ℕ → U8) {Q : Unit → ShowState → Prop} (hheld : s.lcd.locked = true) :
    (showText str).wlp Q s := by
  unfold showText onLcd
  rw [wlp_bind, wlp_zoom, wlp_modify, wlp_bind, wlp_zoom]
  exact mutexLock_waits hheld

/-- While the mutex is held, no call that changes the page returns. -/
theorem call_waits (h : Shows d s) (hheld : s.lcd.locked = true) {op : LcdOp} (hdraws : d.Draws op) :
    op.proc.wlp (fun _ _ => False) s := by
  cases op with
  | flashWork =>
    have hmode : s.flashMode ≠ 0 := by
      rintro hoff
      refine hdraws (h.flashing.trans ?_)
      rw [if_neg (not_not.mpr hoff)]
    unfold LcdOp.proc lcdFlashWork
    dsimp only
    rw [wlp_bind, wlp_get, if_pos ⟨h.enabled, hmode⟩, wlp_bind]
    exact lcdFlash_held _ h.enabled hheld
  | «show» str =>
    unfold LcdOp.proc lcdShow
    dsimp only
    rw [wlp_bind, wlp_get, if_neg h.enabled, wlp_bind]
    refine wlp_mono (wlp_of_wp (wp_strcmp_any str 0x30)) fun zero s1 h1 => ?_
    obtain ⟨hzero, hquiet1⟩ := h1
    have h1 := h.quiet hquiet1
    have hheld1 : s1.lcd.locked = true := (congrArg World.locked hquiet1.lcd).trans hheld
    rcases hdraws with hstop | hfull
    · rw [if_pos (hzero.mpr hstop), wlp_bind, wlp_modify, wlp_bind, wlp_modify]
      exact lcdFlash_held _ h1.enabled hheld1
    · have hlong : ∀ c, ¬ str.Is c := fun c hc => hfull.1 1 (by decide) hc.2
      rw [if_neg (mt hzero.mp (hlong 0x30)), wlp_bind]
      refine wlp_mono (wlp_of_wp (wp_strcmp_any str 0x31)) fun one s2 h2 => ?_
      obtain ⟨hone, hquiet2⟩ := h2
      have hheld2 : s2.lcd.locked = true := (congrArg World.locked hquiet2.lcd).trans hheld1
      rw [if_neg (mt hone.mp (hlong 0x31)), wlp_bind]
      refine wlp_mono (wlp_of_wp (wp_strlen_any str)) fun n s3 h3 => ?_
      obtain ⟨hbefore, hend, hquiet3⟩ := h3
      have hheld3 : s3.lcd.locked = true := (congrArg World.locked hquiet3.lcd).trans hheld2
      rw [if_neg (not_not.mpr ((full_iff hbefore hend).mp hfull))]
      exact showText_held str.chars hheld3

/-! ## The work -/

/-- What the work leaves as it is. -/
structure Leaves (w w' : World) : Prop where
  page : w'.page = w.page
  enabled : w'.enabled = w.enabled
  locked : w'.locked = w.locked

instance : IsPreorder World Leaves where
  refl _ := ⟨rfl, rfl, rfl⟩
  trans _ _ _ h h' := ⟨h'.page.trans h.page, h'.enabled.trans h.enabled, h'.locked.trans h.locked⟩

theorem leaves_gpio (p : Gpio) (v : Bool) : Respects Leaves (gpioDirectionOutput p v) :=
  respects_modify fun _ => ⟨rfl, rfl, rfl⟩

theorem leaves_lcdDelay : Respects Leaves lcdDelay := by
  have husec : Respects Leaves tvUsec :=
    Respects.bind respects_get fun _ => Respects.bind (respects_modify fun _ => ⟨rfl, rfl, rfl⟩) fun _ =>
      respects_pure _
  refine Respects.bind husec fun usec => Respects.repeatUntil (Respects.bind husec fun now => ?_)
  exact Respects.ite (respects_pure _) (respects_pure _)

theorem leaves_clockBit (bit : Bool) (shifted : U32) : Respects Leaves (clockBit bit shifted) :=
  (leaves_gpio _ _).bind fun _ => (leaves_gpio _ _).bind fun _ => leaves_lcdDelay.bind fun _ =>
    (leaves_gpio _ _).bind fun _ => leaves_lcdDelay.bind fun _ => respects_pure _

theorem leaves_nibblePass (v : U32) : Respects Leaves (nibblePass v) :=
  (leaves_clockBit _ _).bind fun _ => respects_pure _

theorem leaves_command (b : U32 × ℕ) : Respects Leaves (Proc.iter commandPass b) := by
  refine Respects.iter (fun b => ?_) b
  unfold commandPass
  exact Respects.ite ((leaves_clockBit _ _).bind fun _ => respects_pure _) (respects_pure _)

theorem wlp_mutexLock {w : World} : mutexLock.wlp (fun _ w' => Leaves (w.setLocked true) w') w := by
  refine wlp_repeatUntil (fun w' => w' = w) ?_ rfl
  rintro _ rfl
  rw [wlp_bind, wlp_get, wlp_ite, wlp_pure, wlp_bind, wlp_modify, wlp_pure]
  exact ⟨fun _ => rfl, fun _ => ⟨rfl, rfl, rfl⟩⟩

/-- Behind its first part the work holds the mutex. -/
theorem wlp_lcdWorkHead {w : World} : lcdWorkHead.wlp (fun _ w' => Leaves (w.setLocked true) w') w := by
  unfold lcdWorkHead
  rw [wlp_bind]
  refine wlp_mono wlp_mutexLock fun _ w1 h1 => ?_
  have hrest := (leaves_gpio .cs false).bind fun _ => leaves_lcdDelay.bind fun _ => leaves_command (320, 9)
  exact hrest.wlp fun _ w' h' => IsTrans.trans _ _ _ h1 h'

theorem Shows.left (h : Shows d s) {w' : World} (hpage : w'.page = s.lcd.page) (henabled : w'.enabled = s.lcd.enabled) :
    Shows d (s.withLcd w') where
  enabled := henabled.trans_ne h.enabled
  flashIdx := h.flashIdx
  flashing := h.flashing
  page blank hblank seg := by
    have hsame : pageBit w' seg = pageBit s.lcd seg := by
      unfold pageBit World.pageByte
      rw [hpage]
    exact hsame.trans (h.page blank hblank seg)

/-! ## Runs -/

namespace LcdSystem

variable {t t' : LcdSystem}

theorem follows_of_shows (h : Shows d t.state) (hheld : t.state.lcd.locked = t.work.isSome) : t.Follows d where
  shows := h
  held := hheld
  returns op := by
    constructor
    · rintro ⟨_, s', hends⟩
      by_contra hno
      obtain ⟨hwork, hdraws⟩ := not_or.mp hno
      have hlocked := hheld.trans (Option.isSome_iff_ne_none.mpr hwork)
      exact call_waits h hlocked (not_not.mp hdraws) _ _ hends
    · intro hmay
      have hfree : t.state.lcd.locked = false ∨ ¬ d.Draws op :=
        hmay.imp_left fun hwork => hheld.trans (by rw [hwork]; rfl)
      obtain ⟨_, s', hends, -⟩ := shows_call h op hfree
      exact ⟨_, s', hends⟩

/-- One step: a call that returns leaves its display, and the work leaves the page. -/
theorem Follows.next (h : t.Follows d) {step : LcdStep} (hnext : t.Next step t') : t'.Follows (d.step step) := by
  cases hnext with
  | @call op s s' work hends =>
    have hmay : s.lcd.locked = false ∨ ¬ d.Draws op :=
      ((h.returns op).mp ⟨_, s', hends⟩).imp_left fun hwork => h.held.trans (by rw [hwork]; rfl)
    obtain ⟨hshows, hlocked⟩ := wlp_of_wp (shows_call h.shows op hmay) _ _ hends
    exact follows_of_shows hshows (hlocked.trans h.held)
  | @head s s' hscheduled hends =>
    obtain ⟨w', hw, rfl⟩ := ends_zoom.mp hends
    have hleaves := wlp_lcdWorkHead _ _ hw
    exact follows_of_shows (h.shows.left hleaves.page hleaves.enabled) hleaves.locked
  | @pass s s' v v' hends =>
    obtain ⟨w', hw, rfl⟩ := ends_zoom.mp hends
    have hleaves := leaves_nibblePass v _ _ _ hw
    exact follows_of_shows (h.shows.left hleaves.page hleaves.enabled) (hleaves.locked.trans h.held)

end LcdSystem

/-! ## A blank page -/

/-- Clearing segments sets none. -/
theorem bitAfter_clear {segments : List (U8 × Bool)} (h : ∀ s ∈ segments, s.2 = false) :
    bitAfter segments seg false = false := by
  induction segments with
  | nil => rfl
  | cons s segments ih =>
    have hfirst : bitAfter (s :: segments) seg false =
        bitAfter segments seg (if segmentKey s.1 = segmentKey seg then s.2 else false) := rfl
    rw [hfirst, h s List.mem_cons_self, ite_self]
    exact ih fun s' hs' => h s' (List.mem_cons_of_mem s hs')

/-- A blank is no segment. -/
theorem digSegments_blank {idx : ℕ} {s : U8 × Bool} (hs : s ∈ digSegments 0x20 idx) : s.2 = false := by
  have hpattern : pattern 0x20 idx = 0 := by
    have hglyph : ¬ (glyph 0x20 > 0xB ∧ idx > 3) := fun h => absurd h.1 (by decide)
    unfold pattern
    rw [if_neg hglyph]
    rfl
  unfold digSegments at hs
  obtain ⟨segment, -, rfl⟩ := List.mem_map.mp hs
  rw [hpattern]
  simp

theorem draw_dark {w : World} (hblank : ∀ seg, pageBit w seg = false) (seg : U8) :
    pageBit (Display.dark.draw w) seg = false := by
  rw [pageBit_draw, hblank]
  refine bitAfter_clear fun s hs => ?_
  rcases List.mem_append.mp hs with hink | hbar
  · rcases List.mem_append.mp hink with hdig | hsymbol
    · obtain ⟨idx, -, hdig⟩ := List.mem_flatMap.mp hdig
      exact digSegments_blank hdig
    · obtain ⟨i, -, rfl⟩ := List.mem_map.mp hsymbol
      simp [Display.dark]
  · obtain ⟨segment, -, rfl⟩ := List.mem_map.mp hbar
    simp [Display.dark]

theorem Blank.shows (h : Blank s) : Shows .dark s where
  enabled := h.ready.enabled
  flashIdx := h.flashIdx
  flashing := (if_neg (not_not.mpr h.flashMode)).symm
  page _ hblank seg := (h.page seg).trans (draw_dark hblank seg).symm

/-- The LCD is blank, and the clock runs. -/
def running : ShowState := blank.withLcd { blank.lcd with clock := fun n => 10 * n }

/-- The state in which a procedure that returns soon leaves another. -/
def left (m : Proc ShowState Unit) (s : ShowState) : ShowState := ((m.run 30 s).map Prod.snd).getD s

end Lcd

end MtcDrivers
