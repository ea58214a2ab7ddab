import Mathlib.Tactic.Ring
import MtcDrivers.Car.Display

/-!
# When the drawing follows the display

The drawing is right exactly if `is1024screen` is, and only the touch panel can make it wrong: it stores the
class of the panel there.
-/

namespace MtcDrivers

open StatusBytes

/-! ## Drawing with the right width -/

theorem place_clearPicture {m : StatusBytes} {width : ℤ} (hwidth : fbWidth m = width) (color : U32) :
    mtcClearScreen m color = Raster.place width (clearPicture width color) := by
  subst hwidth
  unfold mtcClearScreen clearPicture Raster.place
  rw [List.map_flatMap]
  simp only [List.map_map]
  rfl

theorem clearPicture_onScreen {width : ℤ} (color : U32) :
    ∀ p ∈ clearPicture width color, p.OnScreen width fbHeight := by
  intro p hp
  obtain ⟨y, hy, hp⟩ := List.mem_flatMap.mp hp
  obtain ⟨x, hx, rfl⟩ := List.mem_map.mp hp
  rw [List.mem_range] at hy hx
  unfold fbHeight
  constructor
  · exact Int.natCast_nonneg y
  · show (y : ℤ) < 480
    omega
  · exact Int.natCast_nonneg x
  · show (x : ℤ) < width
    omega

/-- The rows of a glyph are `fbWidth` apart. -/
theorem fbStride_eq (m : StatusBytes) : fbStride m / 4 = fbWidth m := by
  unfold fbStride fbWidth
  split_ifs
  · rfl
  · rfl

theorem place_glyphPicture {m : StatusBytes} {width : ℤ} (hwidth : fbWidth m = width) (font : ℤ → U8)
    (glyph x y : ℤ) (fg bg : U32) :
    mtcDebugPutc m font glyph x y fg bg = Raster.place width (glyphPicture font glyph x y fg bg) := by
  subst hwidth
  have hcell : ∀ row bit : ℕ, 8 * (x + fbWidth m * 2 * y) + row * (fbStride m / 4) + bit =
      Raster.index (fbWidth m) (16 * y + row) (8 * x + bit) := by
    intro row bit
    rw [fbStride_eq, Raster.index]
    ring
  unfold mtcDebugPutc glyphPicture Raster.place
  rw [List.map_flatMap]
  simp only [List.map_map, hcell]
  rfl

theorem glyphPicture_onScreen {width x y : ℤ} (hin : GlyphInside width x y) (font : ℤ → U8) (glyph : ℤ)
    (fg bg : U32) : ∀ p ∈ glyphPicture font glyph x y fg bg, p.OnScreen width fbHeight := by
  intro p hp
  obtain ⟨row, hrow, hp⟩ := List.mem_flatMap.mp hp
  obtain ⟨bit, hbit, rfl⟩ := List.mem_map.mp hp
  rw [List.mem_range] at hrow hbit
  obtain ⟨hx, hxw, hy, hyh⟩ := hin
  constructor
  · show 0 ≤ 16 * y + (row : ℤ)
    omega
  · show 16 * y + (row : ℤ) < fbHeight
    omega
  · show 0 ≤ 8 * x + (bit : ℤ)
    omega
  · show 8 * x + (bit : ℤ) < width
    omega

/-- A picture on the screen is drawn right where its pixels are placed. -/
theorem drawn_of_onScreen {width : ℤ} {stores : List (ℤ × U32)} {picture : List (Raster.Pixel U32)}
    (hplaced : stores = Raster.place width picture) (hon : ∀ p ∈ picture, p.OnScreen width fbHeight) :
    Drawn width stores picture := by
  refine ⟨hplaced, ?_⟩
  rw [hplaced]
  exact Raster.place_inside hon

theorem fbWidth_eq {display : Display} {m : StatusBytes}
    (hflag : m.byte is1024screen ≠ 0 ↔ display.width = 1024) : fbWidth m = display.width.toNat := by
  unfold fbWidth
  cases display with
  | w800 =>
    have hne : ¬ m.byte is1024screen ≠ 0 := fun h => absurd (hflag.mp h) (by decide)
    rw [if_neg hne]
    rfl
  | w1024 =>
    rw [if_pos (hflag.mpr rfl)]
    rfl

/-- The drawing depends on nothing but the flag. -/
theorem geometryRight_iff {display : Display} {m : StatusBytes} :
    GeometryRight display m ↔ (m.byte is1024screen ≠ 0 ↔ display.width = 1024) := by
  constructor
  · exact GeometryRight.flag
  · intro hflag
    have hwidth := fbWidth_eq hflag
    refine ⟨hflag, ?_, ?_⟩
    · intro color
      exact drawn_of_onScreen (place_clearPicture hwidth color) (clearPicture_onScreen color)
    · intro font glyph x y fg bg hin
      exact drawn_of_onScreen (place_glyphPicture hwidth font glyph x y fg bg)
        (glyphPicture_onScreen hin font glyph fg bg)

/-! ## The flag after each step -/

/-- The probe sets the flag from the display. -/
theorem flag_carProbeDisplay (display : Display) :
    (carProbeDisplay display).byte is1024screen ≠ 0 ↔ display.width = 1024 := by
  cases display with
  | w800 => decide +kernel
  | w1024 => decide +kernel

/-- A message from the MCU does not reach the flag. -/
theorem flag_storeStatus (m : StatusBytes) (s : CarStatus) :
    (m.storeStatus s).byte is1024screen = m.byte is1024screen := by
  have hoff : is1024screen ∉ [8, 12, 13, 14, 15, 16, 17, 18, 19, 24, 25, 26, 27, 28, 29, 30, 31, 32] ++
      (List.range 32).map (101 + ·) ++ [155, 156] := by
    decide
  exact byte_puts_of_not_mem hoff

theorem flag_storePanel (v18 : GtpReply) (flag : U32) (m : StatusBytes) :
    (storePanel v18 flag m).byte is1024screen = m.byte is1024screen := by
  have hoff : is1024screen ∉ [136, 137, 138, 139, 140, 141, 142, 143, 144, 145] := by
    decide
  exact byte_puts_of_not_mem hoff

/-- A class replaces the flag. -/
theorem flag_storeClass (c : PanelClass) (m : StatusBytes) :
    (storeClass c m).byte is1024screen = c.is1024screen := by
  unfold storeClass
  cases c.reserved20 with
  | none => exact byte_put_self m (show is1024screen < 160 by decide) _
  | some b => exact byte_put_self (m.put reserved20 b) (show is1024screen < 160 by decide) _

/-- Where the panel has no class, the flag stays; else it is the class. -/
theorem flag_gtpInitPanel (v18 : GtpReply) (flag : U32) (s : GtpDev × StatusBytes) :
    (gtpInitPanel (some v18) flag s).2.byte is1024screen =
      ((panelClass v18.width v18.height).map PanelClass.is1024screen).getD (s.2.byte is1024screen) := by
  unfold gtpInitPanel
  cases hc : panelClass v18.width v18.height with
  | none => simpa [hc] using flag_storePanel v18 flag s.2
  | some c => simpa [hc] using flag_storeClass c (storePanel v18 flag s.2)

/-! ## The class 0 -/

theorem gtpL34_ne_zero {w h : BitVec 16} {c : PanelClass} (hc : gtpL34 w h = some c) :
    c.is1024screen ≠ 0 := by
  unfold gtpL34 at hc
  split_ifs at hc
  cases hc
  exact show (11 : U8) ≠ 0 by decide

theorem gtpL28_ne_zero {w h : BitVec 16} {c : PanelClass} (hc : gtpL28 w h = some c) :
    c.is1024screen ≠ 0 := by
  unfold gtpL28 at hc
  split_ifs at hc
  · cases hc
    exact show (7 : U8) ≠ 0 by decide
  · cases hc
    exact show (9 : U8) ≠ 0 by decide
  · exact gtpL34_ne_zero hc
  · exact gtpL34_ne_zero hc

/-- The size as one word. -/
theorem sizeWord_iff (w h : BitVec 16) : (h ++ w : U32) = 31458080 ↔ w = 800 ∧ h = 480 := by
  constructor
  · intro hword
    have hw : (h ++ w : U32).extractLsb' 0 16 = w := BitVec.extractLsb'_append_eq_right
    have hh : (h ++ w : U32).extractLsb' 16 16 = h := BitVec.extractLsb'_append_eq_left
    rw [hword] at hw hh
    exact ⟨hw.symm, hh.symm⟩
  · rintro ⟨rfl, rfl⟩
    rfl

/-- The class is 0 for the 800 x 480 panel only. -/
theorem panelClass_zero_iff (w h : BitVec 16) :
    (∃ c, panelClass w h = some c ∧ c.is1024screen = 0) ↔ w = 800 ∧ h = 480 := by
  rw [← sizeWord_iff]
  constructor
  · rintro ⟨c, hc, h0⟩
    by_contra hword
    simp only [panelClass, if_neg hword] at hc
    split_ifs at hc
    all_goals first
      | exact gtpL28_ne_zero hc h0
      | (cases hc; simp at h0)
  · intro hword
    exact ⟨⟨0, none, w, h⟩, if_pos hword, rfl⟩

namespace DisplaySystem

theorem flag_message (cmd : U32) (passes : ℕ) (s : DisplaySystem) :
    (s.message cmd passes).status.byte is1024screen = s.status.byte is1024screen := by
  unfold message
  cases (processMcuCommand cmd).run passes s.linkWorld with
  | none => rfl
  | some r => exact flag_storeStatus s.status r.2.car.status

/-- Only an answer of the controller can be unfit. -/
theorem panelFits_of_ne {s : DisplaySystem} {op : DisplayOp} (h : ∀ v18 flag, op ≠ .touch (some v18) flag) :
    PanelFits s op :=
  fun v18 flag heq => absurd heq (h v18 flag)

theorem panelFits_touch (s : DisplaySystem) (v18 : GtpReply) (flag : U32) :
    PanelFits s (.touch (some v18) flag) ↔ (s.probed → ∀ c, panelClass v18.width v18.height = some c →
      (c.is1024screen ≠ 0 ↔ s.display.width = 1024)) := by
  constructor
  · intro h
    exact h v18 flag rfl
  · rintro h v18' flag' heq
    cases heq
    exact h

theorem followsDisplay_iff_flag (s : DisplaySystem) :
    FollowsDisplay s ↔ (s.probed → (s.status.byte is1024screen ≠ 0 ↔ s.display.width = 1024)) :=
  imp_congr_right fun _ => geometryRight_iff

theorem followsDisplay_message {s : DisplaySystem} (hs : FollowsDisplay s) (cmd : U32) (passes : ℕ) :
    FollowsDisplay (s.message cmd passes) := by
  rw [followsDisplay_iff_flag] at hs ⊢
  rw [flag_message]
  unfold message
  cases (processMcuCommand cmd).run passes s.linkWorld with
  | none => exact hs
  | some r => exact hs

/-- The controller's answer keeps the geometry right exactly if the panel fits. -/
theorem followsDisplay_touch {s : DisplaySystem} (hs : FollowsDisplay s) (v18 : GtpReply) (flag : U32) :
    FollowsDisplay (s.step (.touch (some v18) flag)) ↔ PanelFits s (.touch (some v18) flag) := by
  have hflag : (s.step (.touch (some v18) flag)).status.byte is1024screen =
      ((panelClass v18.width v18.height).map PanelClass.is1024screen).getD (s.status.byte is1024screen) :=
    flag_gtpInitPanel v18 flag (s.dev, s.status)
  rw [followsDisplay_iff_flag, panelFits_touch, hflag]
  refine imp_congr_right fun hprobed => ?_
  cases panelClass v18.width v18.height with
  | none =>
    constructor
    · rintro _ c hc
      cases hc
    · intro _
      exact (followsDisplay_iff_flag s).mp hs hprobed
  | some c =>
    constructor
    · rintro hright c' hc
      cases hc
      exact hright
    · intro hfits
      exact hfits c rfl

/-- One step keeps the geometry right exactly if the panel fits. -/
theorem followsDisplay_step {s : DisplaySystem} (hs : FollowsDisplay s) (op : DisplayOp) :
    FollowsDisplay (s.step op) ↔ PanelFits s op := by
  cases op with
  | probe =>
    refine iff_of_true ?_ (panelFits_of_ne fun v18 flag heq => by cases heq)
    rw [followsDisplay_iff_flag]
    exact fun _ => flag_carProbeDisplay s.display
  | message cmd passes =>
    exact iff_of_true (followsDisplay_message hs cmd passes)
      (panelFits_of_ne fun v18 flag heq => by cases heq)
  | touch v18 flag =>
    cases v18 with
    | none => exact iff_of_true hs (panelFits_of_ne fun v18 flag heq => by cases heq)
    | some v18 => exact followsDisplay_touch hs v18 flag

/-- The geometry is right in every state of a run exactly if the panel fits at every step. -/
theorem followsDisplay_iff (display : Display) (link : World) (ops : List DisplayOp) :
    Run.Throughout step FollowsDisplay (boot display link) ops ↔
      Run.Always step PanelFits (boot display link) ops := by
  have hboot : FollowsDisplay (boot display link) := fun hprobed => absurd hprobed Bool.false_ne_true
  have hruns : Run.Always step (fun s op => FollowsDisplay (s.step op)) (boot display link) ops ↔
      Run.Always step PanelFits (boot display link) ops :=
    Run.always_iff FollowsDisplay hboot (fun s op hs hfits => (followsDisplay_step hs op).mpr hfits)
      (fun s op hs => followsDisplay_step hs op)
  rw [Run.throughout_iff, hruns]
  exact ⟨fun h => h.2, fun h => ⟨hboot, h⟩⟩

/-- The answer of a 480 x 800 panel. -/
def portraitReply : GtpReply :=
  ((((Vector.replicate 188 0).setIfInBounds 3 0xE0).setIfInBounds 4 1).setIfInBounds 5 0x20).setIfInBounds 6 3

/-- The link before anything has happened. -/
def quietLink : World :=
  ⟨fun _ => Stream'.const false, Stream'.const 0, Stream'.const ⟨0, fun _ => 0⟩, fun _ => ⟨false, false⟩,
    default, []⟩

theorem portraitReply_class : panelClass portraitReply.width portraitReply.height =
    some ⟨2, none, 480, 800⟩ := by
  decide +kernel

/-- A panel that is read after the probe sets the flag to its class. -/
theorem flag_probe_touch (display : Display) (link : World) {v18 : GtpReply} {c : PanelClass}
    (hc : panelClass v18.width v18.height = some c) :
    (Run.after step (boot display link) [.probe, .touch (some v18) 0]).status.byte is1024screen =
      c.is1024screen := by
  have hflag := flag_gtpInitPanel v18 0 (⟨0, 0, 0⟩, carProbeDisplay display)
  rw [hc] at hflag
  exact hflag

theorem not_followsDisplay : ¬ ∀ (display : Display) (link : World) (ops : List DisplayOp),
    Run.Throughout step FollowsDisplay (boot display link) ops := by
  intro h
  have hright := h .w800 quietLink [.probe, .touch (some portraitReply) 0] _ [] (List.append_nil _).symm rfl
  have hflag := hright.flag
  rw [flag_probe_touch .w800 quietLink portraitReply_class] at hflag
  exact absurd (hflag.mp (by decide)) (by decide)

end DisplaySystem

end MtcDrivers
