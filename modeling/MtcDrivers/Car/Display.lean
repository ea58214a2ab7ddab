import MtcDrivers.Raster.RowMajor
import MtcDrivers.Run.Basic
import MtcDrivers.Car.Memory
import MtcDrivers.Link.Command

/-!
# The width of the display

`is1024screen`, which `car_probe` sets from the width of the display, `gtp_init_panel` from the size that the
touch controller reports, and the drawing routines read as the length of a row. The font is a parameter.
-/

namespace MtcDrivers

/-- `mtc_fb_width` -/
inductive Display
  | w800
  | w1024
deriving DecidableEq

def Display.width : Display → U32
  | w800 => 800
  | w1024 => 1024

/-- `car_probe` up to `sta_view`; `key_mode` is `RPT_KEY_MODE_NORMAL`. -/
def carProbeDisplay (display : Display) : StatusBytes :=
  let m := if display.width = 1024 then StatusBytes.zeroed.put StatusBytes.is1024screen 1 else .zeroed
  m.puts ([(StatusBytes.keyMode, 0)] ++ StatusBytes.wordAt StatusBytes.intval3 0x3FF ++
    StatusBytes.wordAt StatusBytes.intval4 0x3FF ++ StatusBytes.wordAt StatusBytes.intval1 0x3FF ++
    StatusBytes.wordAt StatusBytes.intval2 0x3FF ++ [(StatusBytes.staView, 1)])

/-! ## The touch panel -/

/-- What `gtp_init_panel` stores for a panel: the class, for some the byte of `reserved_20`, and the size. -/
structure PanelClass where
  is1024screen : U8
  reserved20 : Option U8
  touchW : BitVec 16
  touchH : BitVec 16
deriving DecidableEq

/-- `gtp_l34` -/
def gtpL34 (w h : BitVec 16) : Option PanelClass :=
  if h = 1024 then some ⟨11, some ((w - 88).setWidth 8), 600, h⟩ else none

/-- `gtp_l28` -/
def gtpL28 (w h : BitVec 16) : Option PanelClass :=
  if 0x400 < h then some ⟨7, some (h.setWidth 8), w, 1024⟩
  else if w = 1024 then
    if 0x258 < h then some ⟨9, some ((h - 88).setWidth 8), w, 600⟩ else gtpL34 w h
  else if 0x258 < w then gtpL34 w h
  else none

/-- The class of a panel of this size; `none` where `is1024screen` is left as it is. -/
def panelClass (w h : BitVec 16) : Option PanelClass :=
  let word : U32 := h ++ w
  if word = 31458080 then some ⟨0, none, w, h⟩
  else if word = 39322624 then some ⟨1, none, w, h⟩
  else if word = 52429280 then some ⟨2, none, w, h⟩
  else if word = 67109464 then some ⟨3, none, w, h⟩
  else if w ≤ 0x320 then
    if w ≤ 0x1F4 then
      if 0x320 < h then some ⟨6, some ((h - 32).setWidth 8), w, 800⟩ else none
    else if w < 0x258 then none
    else gtpL28 w h
  else if h ≤ 0x1F4 then some ⟨4, some ((w - 32).setWidth 8), 800, h⟩
  else if 0x400 < w then
    if 0x258 ≤ h then some ⟨5, some (w.setWidth 8), 1024, h⟩ else gtpL28 w h
  else if w < 0x258 then none
  else gtpL28 w h

/-- The fields of `struct gtp_dev` that `gtp_init_panel` sets. -/
structure GtpDev where
  touchW : BitVec 16
  touchH : BitVec 16
  sub : U8
deriving DecidableEq

/-- `v18` after the controller has been read. -/
abbrev GtpReply := Vector U8 188

def GtpReply.width (v18 : GtpReply) : BitVec 16 := v18[3].setWidth 16 + (v18[4].setWidth 16 <<< 8)

def GtpReply.height (v18 : GtpReply) : BitVec 16 := v18[5].setWidth 16 + (v18[6].signExtend 16 <<< 8)

/-- What `gtp_init_panel` stores before it looks for the class. -/
def storePanel (v18 : GtpReply) (flag : U32) (m : StatusBytes) : StatusBytes :=
  m.puts (StatusBytes.wordAt StatusBytes.touchWidth (v18.width.setWidth 32) ++
    StatusBytes.wordAt StatusBytes.touchHeight (v18.height.setWidth 32) ++
    [(StatusBytes.touchInfo1, v18[2]), (StatusBytes.touchInfo2, flag.setWidth 8)])

/-- What it stores for the class. -/
def storeClass (c : PanelClass) (m : StatusBytes) : StatusBytes :=
  m.puts ((c.reserved20.map fun b => (StatusBytes.reserved20, b)).toList ++
    [(StatusBytes.is1024screen, c.is1024screen)])

/-- `gtp_init_panel`; the controller does not answer if `v18` is `none`. -/
def gtpInitPanel (v18 : Option GtpReply) (flag : U32) (s : GtpDev × StatusBytes) : GtpDev × StatusBytes :=
  match v18 with
  | none => s
  | some v18 =>
    let sub := v18[8] &&& 3
    let m := storePanel v18 flag s.2
    match panelClass v18.width v18.height with
    | none => (⟨v18.width, v18.height, sub⟩, m)
    | some c => (⟨c.touchW, c.touchH, sub⟩, storeClass c m)

/-! ## Drawing -/

/-- `width` of the drawing routines. -/
def fbWidth (m : StatusBytes) : ℤ := if m.byte StatusBytes.is1024screen ≠ 0 then 1024 else 800

/-- `stride` of `mtc_debug_putc`, in bytes. -/
def fbStride (m : StatusBytes) : ℤ := if m.byte StatusBytes.is1024screen ≠ 0 then 4096 else 3200

/-- The colour of a pixel of the test pattern. -/
def testPattern (y x : ℤ) : U32 :=
  if 0x1BF < BitVec.ofInt 32 (y - 16) ∨ 0x2FF < BitVec.ofInt 32 (x - 1) then 0
  else if y ≤ 279 then 0xFF404040
  else if 399 < y then
    if 255 < x - 1 then
      if 511 < x - 1 then 0xFF000000 ||| ((BitVec.ofInt 32 (x - 1) &&& 0xFF) <<< 16)
      else 0xFF000000 ||| ((BitVec.ofInt 32 (x - 1) &&& 0xFF) <<< 8)
    else 0xFF000000 ||| (BitVec.ofInt 32 (x - 1) &&& 0xFF)
  else if 339 < y then
    let g := BitVec.ofInt 32 (255 - (x - 1) / 3)
    0xFF000000 ||| (g <<< 16) ||| (g <<< 8) ||| g
  else 0

/-- The colour that `mtc_clear_screen` gives a pixel. -/
def clearColour (color : U32) (y x : ℤ) : U32 :=
  if color &&& 0xFF000000 = 0 then testPattern y x else color

/-- `mtc_clear_screen`: what is stored where in `mtc_fb_buf`. -/
def mtcClearScreen (m : StatusBytes) (color : U32) : List (ℤ × U32) :=
  (List.range 480).flatMap fun y : ℕ => (List.range (fbWidth m).toNat).map fun x : ℕ =>
    (y * fbWidth m + x, clearColour color y x)

/-- The colour of a bit of a row of a glyph. -/
def glyphColour (px : U8) (bit : ℕ) (fg bg : U32) : U32 := if (px <<< bit) &&& 0x80 ≠ 0 then fg else bg

/-- `mtc_debug_putc` for `font_8x16` -/
def mtcDebugPutc (m : StatusBytes) (font : ℤ → U8) (glyph x y : ℤ) (fg bg : U32) : List (ℤ × U32) :=
  (List.range 16).flatMap fun row : ℕ => (List.range 8).map fun bit : ℕ =>
    (8 * (x + fbWidth m * 2 * y) + row * (fbStride m / 4) + bit,
      glyphColour (font (16 * glyph + row)) bit fg bg)

/-! ## What is drawn -/

/-- The height of the buffer. -/
def fbHeight : ℤ := 480

/-- The cleared screen. -/
def clearPicture (width : ℤ) (color : U32) : List (Raster.Pixel U32) :=
  (List.range 480).flatMap fun y : ℕ => (List.range width.toNat).map fun x : ℕ =>
    ⟨y, x, clearColour color y x⟩

/-- The glyph at column `x` and line `y`. -/
def glyphPicture (font : ℤ → U8) (glyph x y : ℤ) (fg bg : U32) : List (Raster.Pixel U32) :=
  (List.range 16).flatMap fun row : ℕ => (List.range 8).map fun bit : ℕ =>
    ⟨16 * y + row, 8 * x + bit, glyphColour (font (16 * glyph + row)) bit fg bg⟩

/-- The glyph position is inside a screen of this width. -/
def GlyphInside (width x y : ℤ) : Prop := 0 ≤ x ∧ 8 * x + 8 ≤ width ∧ 0 ≤ y ∧ 16 * y + 16 ≤ fbHeight

/-- The stores are those of a picture with this width, and stay inside the buffer. -/
structure Drawn (width : ℤ) (stores : List (ℤ × U32)) (picture : List (Raster.Pixel U32)) : Prop where
  placed : stores = Raster.place width picture
  inside : ∀ a ∈ stores, 0 ≤ a.1 ∧ a.1 < width * fbHeight

/-- `is1024screen` is right, and the drawing with it. -/
structure GeometryRight (display : Display) (m : StatusBytes) : Prop where
  flag : m.byte StatusBytes.is1024screen ≠ 0 ↔ display.width = 1024
  clear : ∀ color,
    Drawn display.width.toNat (mtcClearScreen m color) (clearPicture display.width.toNat color)
  glyph : ∀ font glyph x y fg bg, GlyphInside display.width.toNat x y →
    Drawn display.width.toNat (mtcDebugPutc m font glyph x y fg bg) (glyphPicture font glyph x y fg bg)

/-! ## The parts that set the width -/

structure DisplaySystem where
  display : Display
  /-- `car_probe` has looked at the display. -/
  probed : Bool
  dev : GtpDev
  status : StatusBytes
  link : World

inductive DisplayOp where
  | probe
  /-- `gtp_init_panel` with what the controller answers. -/
  | touch (v18 : Option GtpReply) (flag : U32)
  /-- A message from the MCU, whose loops make at most so many passes. -/
  | message (cmd : U32) (passes : ℕ)

namespace DisplaySystem

/-- The driver before the display is probed. -/
def boot (display : Display) (link : World) : DisplaySystem := ⟨display, false, ⟨0, 0, 0⟩, .zeroed, link⟩

/-- The link as `process_mcu_command` finds it. -/
def linkWorld (s : DisplaySystem) : World :=
  s.link.modifyCar fun c => { c with status := s.status.loadStatus }

/-- A message that has not ended with so many passes has no effect yet. -/
def message (cmd : U32) (passes : ℕ) (s : DisplaySystem) : DisplaySystem :=
  match (processMcuCommand cmd).run passes s.linkWorld with
  | none => s
  | some (_, w) => { s with status := s.status.storeStatus w.car.status, link := w }

def step (s : DisplaySystem) : DisplayOp → DisplaySystem
  | .probe => { s with probed := true, status := carProbeDisplay s.display }
  | .touch v18 flag =>
    { s with dev := (gtpInitPanel v18 flag (s.dev, s.status)).1,
             status := (gtpInitPanel v18 flag (s.dev, s.status)).2 }
  | .message cmd passes => s.message cmd passes

/-- Once the display has been probed, the geometry is right. -/
def FollowsDisplay (s : DisplaySystem) : Prop := s.probed → GeometryRight s.display s.status

/-- A controller that answers after the display has been probed reports a size without a class, or with one
    that is 0 exactly if the display is not 1024 pixels wide. -/
def PanelFits (s : DisplaySystem) (op : DisplayOp) : Prop :=
  ∀ v18 flag, op = .touch (some v18) flag → s.probed → ∀ c, panelClass v18.width v18.height = some c →
    (c.is1024screen ≠ 0 ↔ s.display.width = 1024)

end DisplaySystem

end MtcDrivers
