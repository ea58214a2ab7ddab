import MtcDrivers.Lcd.Show
import MtcDrivers.Run.Basic

/-!
# The page of the LCD

`Lcd_Flash_work`, which shows one entry of `flash_tab` after the other in the nine bars while the flash mode is on,
and runs of it, of `lcd_show` with any strings, and of the `Lcd_work` that both of them schedule. The page is to show
the last text and the bars as they are now, whatever was on it before. The work begins at any time behind the first
call that schedules it; it takes the mutex and never leaves its loop over the bits of the first entry. A call is one
step: a work that takes the mutex before the call does begins before the call.
-/

namespace MtcDrivers

namespace Lcd

/-- `flash_tab` -/
def flashTab : List U32 :=
  [0x00000071, 0x000000B3, 0x00000137, 0x0000007F, 0x000000B8, 0x00000134, 0x00000072, 0x000000B1, 0x00000133,
    0x00000077, 0x000000BF, 0x00000138, 0x00000074, 0x000000B2, 0x00000131, 0x00000073, 0x000000B7, 0x0000013F,
    0x00000078, 0x000000B4, 0x00000132]

/-- `Lcd_Flash_work` -/
def lcdFlashWork : Proc ShowState Unit := do
  let s ← Proc.get
  if s.lcd.enabled ≠ 0 ∧ s.flashMode ≠ 0 then
    onLcd (lcdFlash (flashTab.getD s.flashIdx.toNat 0))
    Proc.modify fun s => { s with flashIdx := s.flashIdx + 1 }
    Proc.modify fun s => if 0x14 < s.flashIdx then { s with flashIdx := 0 } else s
    Proc.modify (·.emit (.scheduleFlash 120))
  else return ()

/-- A C string in memory. -/
structure CStr where
  chars : ℕ → U8
  ends : ∃ n, chars n = 0

/-- A call of `lcd_show`, or a run of `Lcd_Flash_work`. -/
inductive LcdOp
  | show (str : CStr)
  | flashWork

def LcdOp.proc : LcdOp → Proc ShowState Unit
  | .show str => lcdShow str.chars
  | .flashWork => lcdFlashWork

/-! ## The calls beside the work -/

/-- What the calls find, with the `v` of a `Lcd_work` that has come to its loop over the page. -/
structure LcdSystem where
  state : ShowState
  work : Option U32

/-- What happens. -/
inductive LcdStep
  /-- A call returns. -/
  | call (op : LcdOp)
  /-- `Lcd_work` comes to its loop, or makes one more pass of it. -/
  | work

/-- One step. A pass has no result but the next `v`, so that the work stays at the first entry of the page. -/
inductive LcdSystem.Next : LcdSystem → LcdStep → LcdSystem → Prop
  | call {op : LcdOp} {s s' : ShowState} {work : Option U32} (h : op.proc.Ends s () s') :
      Next ⟨s, work⟩ (.call op) ⟨s', work⟩
  | head {s s' : ShowState} (hscheduled : .scheduleWork 0 ∈ s.lcd.log) (h : (onLcd lcdWorkHead).Ends s () s') :
      Next ⟨s, none⟩ .work ⟨s', some ((s'.lcd.pageByte 0).setWidth 32)⟩
  | pass {s s' : ShowState} {v v' : U32} (h : (onLcd (nibblePass v)).Ends s (.inl v') s') :
      Next ⟨s, some v⟩ .work ⟨s', some v'⟩

/-- The steps lead from one state to the other. -/
inductive LcdSystem.Runs : LcdSystem → List LcdStep → LcdSystem → Prop
  | nil {t : LcdSystem} : Runs t [] t
  | cons {t t' t'' : LcdSystem} {step : LcdStep} {steps : List LcdStep} (h : t.Next step t') (h' : t'.Runs steps t'') :
      Runs t (step :: steps) t''

/-! ## What is to be seen -/

namespace CStr

/-- The string of one character. -/
def Is (str : CStr) (c : U8) : Prop := str.chars 0 = c ∧ str.chars 1 = 0

instance (str : CStr) (c : U8) : Decidable (str.Is c) := inferInstanceAs (Decidable (_ ∧ _))

/-- The string has 21 characters. -/
def Full (str : CStr) : Prop := (∀ i < 21, str.chars i ≠ 0) ∧ str.chars 21 = 0

instance (str : CStr) : Decidable str.Full := inferInstanceAs (Decidable (_ ∧ _))

/-- The symbols of a text: the number from position 13 on, whose last digit is the end of the text, and the points. -/
def symbolMask (str : CStr) : U32 :=
  let v9 := (List.range 9).foldl (fun v9 k => 10 * v9 - 48 + (str.chars (13 + k)).setWidth 32) 0
  v9 &&& 0xFFFFFFF ||| (if str.chars 4 = 0x2E then 0x10000000 else 0) |||
    (if str.chars 7 = 0x2E then 0x20000000 else 0)

end CStr

/-- What the LCD is to show: the characters at the positions, the symbols, the bars, and, while they flash, the
    next entry of `flash_tab`. -/
structure Display where
  chars : ℕ → U8
  symbols : U32
  bars : U32
  flashing : Option ℕ

namespace Display

/-- Nothing is shown. -/
def dark : Display := ⟨fun _ => 0x20, 0, 0, none⟩

def next (d : Display) : LcdOp → Display
  | .show str =>
    if str.Is 0x30 then { d with bars := 0, flashing := none }
    else if str.Is 0x31 then { d with flashing := some (d.flashing.getD 0) }
    else if str.Full then { d with chars := fun idx => str.chars (charOf idx), symbols := str.symbolMask }
    else d
  | .flashWork =>
    match d.flashing with
    | none => d
    | some k => { d with bars := flashTab.getD k 0, flashing := some ((k + 1) % 21) }

/-- The display behind a step: the work changes nothing. -/
def step (d : Display) : LcdStep → Display
  | .call op => d.next op
  | .work => d

/-- The call changes the page: it puts the bars out, it shows a text, or it flashes the bars. -/
def Draws (d : Display) : LcdOp → Prop
  | .show str => str.Is 0x30 ∨ str.Full
  | .flashWork => d.flashing ≠ none

/-- The segments of the bars. -/
def barSegments (bars : U32) : List (U8 × Bool) :=
  symbolMap.zipIdx.map fun segment => (segment.1, bars.sshiftRight segment.2 &&& 1 ≠ 0)

/-- The display on a page. -/
def draw (d : Display) (w : World) : World :=
  setSegments (barSegments d.bars)
    (lcdShowSymbol d.symbols ((List.range 9).foldl (fun w idx => lcdShowDig (d.chars idx) idx w) w))

end Display

/-- The page is what drawing the display on a blank page would make of it, and the flash mode is that of the
    display. -/
structure Shows (d : Display) (s : ShowState) : Prop where
  enabled : s.lcd.enabled ≠ 0
  flashIdx : s.flashIdx.toNat < 21
  flashing : d.flashing = if s.flashMode ≠ 0 then some s.flashIdx.toNat else none
  page : ∀ (blank : World), (∀ seg, pageBit blank seg = false) → ∀ seg, pageBit s.lcd seg = pageBit (d.draw blank) seg

/-- Nothing has been shown yet. -/
structure Blank (s : ShowState) : Prop where
  ready : Ready s
  flashIdx : s.flashIdx.toNat < 21
  flashMode : s.flashMode = 0
  page : ∀ seg, pageBit s.lcd seg = false

/-- The page shows the display. The mutex is held from the moment on at which the work has begun, and then the calls
    that would change the page wait for ever; all others return. -/
structure LcdSystem.Follows (d : Display) (t : LcdSystem) : Prop where
  shows : Shows d t.state
  held : t.state.lcd.locked = t.work.isSome
  returns : ∀ op : LcdOp, op.proc.Returns t.state ↔ t.work = none ∨ ¬ d.Draws op

end Lcd

end MtcDrivers
