import Mathlib.Data.Nat.Digits.Defs
import MtcDrivers.Ioctl.Text
import MtcDrivers.Lcd.Work
import MtcDrivers.Proc.Collect

/-!
# Texts on the LCD

`lcd_show`, with `lcd_show_dig` and `lcd_show_symbol`. A text has 21 characters: nine of them are shown at the digit
positions, two are points, and the last nine are the decimal number that says which symbols are on. The text is
the memory from the pointer on, and every character that is read is recorded, newest first.
-/

namespace MtcDrivers

namespace Lcd

/-! ## The tables -/

/-- The bytes of little-endian words. -/
def bytesOf (words : List U32) : List U8 :=
  words.flatMap fun v => [v.extractLsb' 0 8, v.extractLsb' 8 8, v.extractLsb' 16 8, v.extractLsb' 24 8]

/-- `symbol_map` -/
def symbolWords : List U32 :=
  [0xC0804000, 0x41810242, 0x0804C2C1, 0x9EDE100C, 0x0B07035E, 0x1B19150F, 0x5F9FDF1F, 0x00001713]

/-- `dig_seg` -/
def digSeg : List U32 :=
  [0x0000FC00, 0x00006000, 0x0000DB00, 0x0000F300, 0x00006700, 0x0000B700, 0x0000BF00, 0x0000E000,
    0x0000FF00, 0x0000F700, 0x00000000, 0x00000300, 0x0000EF00, 0x0000F148, 0x00009C00, 0x0000F048,
    0x00009F00, 0x00008F00, 0x0000BD00, 0x00006F00, 0x00009048, 0x00007800, 0x00000E30, 0x00001C00,
    0x00006CA0, 0x00006C90, 0x0000FC00, 0x0000CF00, 0x0000FC10, 0x0000CF10, 0x0000B700, 0x00008048,
    0x00007C00, 0x00000C24, 0x00006C54, 0x000000B4, 0x00007700, 0x00009024]

/-- `dig_map` -/
def digMap : List U32 :=
  [0x0647C7C6, 0x8784C444, 0x468685C5, 0xCBCA0545, 0xC8480A4B, 0x89C98B88, 0x09494A8A, 0x0E4FCFCE,
    0x8F8CCC4C, 0x4E8E8DCD, 0xD3D20D4D, 0xD0501253, 0x91D19390, 0x11515292, 0x1455D5D4, 0x95959454,
    0x00000000, 0xD7D60000, 0x96561657, 0x00009797, 0x00000000, 0x1859D9D8, 0x99999858, 0x00000000,
    0xDBDA0000, 0x9A5A1A5B, 0x00009B9B, 0x00000000, 0x1C5DDDDC, 0x9D9D9C5C, 0x00000000, 0x00000000]

/-! ## `lcd_show_symbol` and `lcd_show_dig` -/

/-- Segments that are set or cleared, one after the other. -/
def setSegments (segments : List (U8 × Bool)) (w : World) : World :=
  segments.foldl (fun w s => setSegment s.1 s.2 w) w

/-- The segments of the symbols: the pass `i` of the loop looks at bit `i` of the mask, and is active from 9 on. -/
def symbolSegments (mask : U32) : List (U8 × Bool) :=
  ((List.range' 1 29).filter (8 < ·)).map fun i => ((bytesOf symbolWords).getD i 0, (mask >>> i) &&& 1 ≠ 0)

/-- `lcd_show_symbol` -/
def lcdShowSymbol (mask : U32) (w : World) : World := setSegments (symbolSegments mask) w

/-- The index `v2` of a character in `dig_seg`. -/
def glyph (c : U8) : U8 :=
  let v2 := c - 0x30
  if v2 > 9 then
    if c - 0x61 > 0x19 then
      if c - 0x41 > 0x19 then if c = 0x2D then 11 else 10
      else c - 53
    else c - 85
  else v2

/-- The pattern `v4` of a character at a position: letters are blank behind the first four. -/
def pattern (c : U8) (idx : ℕ) : U32 :=
  if glyph c > 0xB ∧ idx > 3 then 0 else digSeg.getD (glyph c).toNat 0

/-- The segments `v6` of a position, of which there are `v5`. -/
def positionSegments (idx : ℕ) : List U8 :=
  (List.range (if idx > 3 then 8 else 14)).map fun i => (bytesOf digMap).getD (14 * idx + i) 0

/-- What a character sets and clears at a position: bit 15 of the pattern, which is shifted left. -/
def digSegments (c : U8) (idx : ℕ) : List (U8 × Bool) :=
  (positionSegments idx).zipIdx.map fun s => (s.1, (pattern c idx <<< s.2) &&& 0x8000 ≠ 0)

/-- `lcd_show_dig` -/
def lcdShowDig (c : U8) (idx : ℕ) (w : World) : World := setSegments (digSegments c idx) w

/-! ## `lcd_show` -/

/-- What `lcd_show` does beside the LCD itself. -/
inductive ShowEvent where
  /-- A read of `str[i]`. -/
  | readChar (i : ℕ)
  /-- `del_timer_sync` on the timer of the flash work, and `clear_bit` of its pending bit. -/
  | cancelFlash
  /-- `schedule_delayed_work` of the flash work, with the delay in milliseconds. -/
  | scheduleFlash (ms : ℕ)
  /-- The call of `lcd_show_symbol`. -/
  | showSymbol (mask : U32)
deriving DecidableEq, Repr

structure ShowState where
  lcd : World
  /-- `lcd_flash_mode` -/
  flashMode : U32
  /-- `lcd_flash_idx` -/
  flashIdx : U32
  log : List ShowEvent

namespace ShowState

def emit (s : ShowState) (e : ShowEvent) : ShowState := { s with log := e :: s.log }

def withLcd (w : World) (s : ShowState) : ShowState := { s with lcd := w }

end ShowState

/-- Something that happens on the LCD alone. -/
def onLcd {α : Type} (m : Proc World α) : Proc ShowState α := Proc.zoom ShowState.lcd ShowState.withLcd m

/-- `str[i]` -/
def readChar (str : ℕ → U8) (i : ℕ) : Proc ShowState U8 := do
  Proc.modify (·.emit (.readChar i))
  return str i

/-- `strcmp` with a literal, from position `i` on: whether they are equal. -/
def strcmp (str : ℕ → U8) : Text → ℕ → Proc ShowState Bool
  | [], i => do
    return (← readChar str i) == 0
  | l :: literal, i => do
    if (← readChar str i) = l then strcmp str literal (i + 1) else return false

/-- A pass of `strlen`. -/
def strlenPass (str : ℕ → U8) (i : ℕ) : Proc ShowState (ℕ ⊕ ℕ) := do
  if (← readChar str i) = 0 then return .inr i else return .inl (i + 1)

def strlen (str : ℕ → U8) : Proc ShowState ℕ := Proc.iter (strlenPass str) 0

/-- `lcd_show_dig(str[i], idx)` -/
def showDig (str : ℕ → U8) (i idx : ℕ) : Proc ShowState Unit := do
  let c ← readChar str i
  onLcd (Proc.modify (lcdShowDig c idx))

/-- The loop over the number, with `v8` and `v9`. -/
def numberPass (str : ℕ → U8) (b : ℕ × U32) : Proc ShowState ((ℕ × U32) ⊕ U32) := do
  if b.1 ≠ 0 then
    let v8 := b.1 - 1
    let c ← readChar str (12 + (9 - v8))
    return .inl (v8, 10 * b.2 - 48 + c.setWidth 32)
  else return .inr b.2

/-- A text of 21 characters, up to the work. -/
def showText (str : ℕ → U8) : Proc ShowState Unit := do
  onLcd (Proc.modify (·.emit .cancelWork))
  onLcd mutexLock
  showDig str 0 0
  showDig str 1 1
  showDig str 2 2
  showDig str 3 3
  showDig str 5 4
  showDig str 6 5
  showDig str 8 6
  showDig str 9 7
  showDig str 10 8
  let v9 ← Proc.iter (numberPass str) (9, 0)
  let v11 := v9 &&& 0xFFFFFFF
  let c ← readChar str 4
  let v11 := if c = 0x2E then v11 ||| 0x10000000 else v11
  let c ← readChar str 7
  let v11 := if c = 0x2E then v11 ||| 0x20000000 else v11
  Proc.modify (·.emit (.showSymbol v11))
  onLcd (Proc.modify (lcdShowSymbol v11))
  onLcd mutexUnlock
  onLcd (Proc.modify (·.emit (.scheduleWork 0)))

/-- `lcd_show` -/
def lcdShow (str : ℕ → U8) : Proc ShowState Unit := do
  let s ← Proc.get
  if s.lcd.enabled = 0 then return ()
  else if ← strcmp str (ascii "0") 0 then
    Proc.modify fun s => { s with flashMode := 0 }
    Proc.modify (·.emit .cancelFlash)
    onLcd (lcdFlash 0)
  else if ← strcmp str (ascii "1") 0 then
    let s ← Proc.get
    if s.flashMode = 0 then
      Proc.modify fun s => { s with flashIdx := 0, flashMode := 1 }
      Proc.modify (·.emit (.scheduleFlash 0))
    else return ()
  else if (← strlen str) ≠ 21 then return ()
  else showText str

/-! ## What a text is for -/

/-- The value of a digit. -/
def digitAt (str : ℕ → U8) (i : ℕ) : ℕ := (str i).toNat - 48

/-- The decimal number of `n` digits from position `off` on. -/
def numberAt (str : ℕ → U8) (off n : ℕ) : ℕ :=
  Nat.ofDigits 10 ((List.range n).map fun k => digitAt str (off + k)).reverse

/-- A text of 21 characters that ends in nine digits. -/
structure IsText (str : ℕ → U8) : Prop where
  chars : ∀ i < 21, str i ≠ 0
  ends : str 21 = 0
  digits : ∀ i < 9, isDigit (str (12 + i)) = true

/-- The LCD is on and free. -/
structure Ready (s : ShowState) : Prop where
  enabled : s.lcd.enabled ≠ 0
  free : s.lcd.locked = false

/-- The symbols that a text asks for. -/
def textMask (str : ℕ → U8) : U32 :=
  BitVec.ofNat 32 (numberAt str 12 9 % 2 ^ 28) ||| (if str 4 = 0x2E then 0x10000000 else 0) |||
    (if str 7 = 0x2E then 0x20000000 else 0)

/-- The masks that `lcd_show_symbol` is called with. -/
def symbolMasks (events : List ShowEvent) : List U32 :=
  events.filterMap fun
    | .showSymbol mask => some mask
    | _ => none

/-- The character that is shown at a position. -/
def charOf (idx : ℕ) : ℕ := [0, 1, 2, 3, 5, 6, 8, 9, 10].getD idx 0

/-- A segment of the page. -/
def pageBit (w : World) (seg : U8) : Bool := (w.pageByte (seg &&& 0x1F#8).toNat).getLsbD (seg >>> 6).toNat

/-- The digit positions of the page. -/
def positionBits (w : World) (idx : ℕ) : List Bool := (positionSegments idx).map (pageBit w)

/-- The text is shown: the symbols that it asks for, from its 21 characters and the end alone, and at every digit
position nothing but its character, as any other text shows it that has the same character there. -/
structure Shown (str : ℕ → U8) (s s' : ShowState) : Prop where
  mask : symbolMasks (History.since ShowState.log s s') = [textMask str]
  reads : ∀ i, .readChar i ∈ History.since ShowState.log s s' → i ≤ 21
  positions : ∀ (other : ℕ → U8) (t t' : ShowState), IsText other → Ready t → (lcdShow other).Ends t () t' →
    ∀ idx < 9, other (charOf idx) = str (charOf idx) → positionBits t'.lcd idx = positionBits s'.lcd idx

/-- The numbers for which the loop and the text agree modulo `2 ^ 28`. -/
def agreeingNumbers : List ℕ := [170763440, 414618288, 666666672, 910521520]

end Lcd

end MtcDrivers
