import Mathlib.Data.Int.Notation
import MtcDrivers.Radio.Process

/-!
# Tuning words

The four bands of the tuner, each with its step and the tag of its words, and what it means that
`Radio_Set_Frequency_com` tunes a frequency.
-/

namespace MtcDrivers

/-- The bands of the tuner. -/
inductive TuningBand where
  /-- 144 to 1720 kHz -/
  | medium
  /-- 76 to 108 MHz -/
  | fm
  /-- 2.94 to 18.135 MHz -/
  | short
  /-- 65 to 74 MHz -/
  | oirt
deriving DecidableEq, Repr

namespace TuningBand

/-- The lowest frequency, in Hz. -/
def lower : TuningBand → ℤ
  | medium => 144000
  | fm => 76000000
  | short => 2940000
  | oirt => 65000000

/-- The highest frequency, in Hz. -/
def upper : TuningBand → ℤ
  | medium => 1720000
  | fm => 108000000
  | short => 18135000
  | oirt => 74000000

/-- The distance of the grid, in Hz. -/
def step : TuningBand → ℕ
  | medium => 1000
  | fm => 50000
  | short => 5000
  | oirt => 10000

/-- The tag of the words. -/
def tag : TuningBand → U16
  | medium => 0
  | fm => 0x2000
  | short => 0x4000
  | oirt => 0x6000

/-- The frequency lies in the band. -/
def Contains (b : TuningBand) (freq : ℤ) : Prop := b.lower ≤ freq ∧ freq ≤ b.upper

instance (b : TuningBand) (freq : ℤ) : Decidable (b.Contains freq) :=
  inferInstanceAs (Decidable (_ ∧ _))

/-- The frequency lies on the grid of the band. -/
def OnGrid (b : TuningBand) (freq : ℤ) : Prop := b.Contains freq ∧ (b.step : ℤ) ∣ freq

/-- The word of a frequency. -/
def word (b : TuningBand) (freq : ℤ) : U16 := BitVec.ofNat 16 (freq.toNat / b.step) ||| b.tag

/-- The band of a word, by its tag. -/
def ofWord (w : U16) : TuningBand :=
  if w.getLsbD 14 then if w.getLsbD 13 then oirt else short
  else if w.getLsbD 13 then fm else medium

/-- The frequency that a word stands for. -/
def frequencyOf (w : U16) : ℕ := (ofWord w).step * (w &&& 0x1FFF).toNat

/-- The band of a frequency. -/
def ofFrequency (freq : ℤ) : Option TuningBand :=
  [medium, fm, short, oirt].find? (·.Contains freq)

end TuningBand

/-- The bytes of a word, high byte first. -/
def bigEndian (w : U16) : List U8 := [(w >>> 8).setWidth 8, w.setWidth 8]

/-- The tuning command for a frequency, if it lies in a band. -/
def tuningCommand (freq : ℤ) (a2 : U32) : List (U32 × List U8) :=
  match TuningBand.ofFrequency freq with
  | some b => [(if a2 ≠ 0 then 0x9208 else 0x9200, bigEndian (b.word freq))]
  | none => []

namespace Radio

/-- The commands sent with `arm_send_multi`, newest first. -/
def mcuCommands (r : Radio) : List (U32 × List U8) :=
  r.log.filterMap fun
    | .armSendMulti cmd data => some (cmd, data)
    | _ => none

end Radio

/-- A call of `Radio_Set_Frequency_com` sends the tuning command of the frequency, and nothing outside
    the bands; a word sent for a frequency on the grid stands for that frequency, and is not sent for one
    on the grid of another band. -/
structure TuningMet (freq a2 : U32) : Prop where
  sends : ∀ r : Radio,
    (r.radioSetFrequencyCom freq a2).mcuCommands = tuningCommand freq.toInt a2 ++ r.mcuCommands
  recovered : ∀ (b : TuningBand) (r : Radio) (cmd : U32) (w : U16), b.OnGrid freq.toInt →
    (r.radioSetFrequencyCom freq a2).mcuCommands = (cmd, bigEndian w) :: r.mcuCommands →
    (TuningBand.frequencyOf w : ℤ) = freq.toInt
  distinct : ∀ (b c : TuningBand) (g : U32) (r : Radio), b.OnGrid freq.toInt → c.OnGrid g.toInt → b ≠ c →
    (r.radioSetFrequencyCom freq a2).mcuCommands ≠ (r.radioSetFrequencyCom g a2).mcuCommands

/-- The frequency is not below a band whose range test it passes: 32-bit differences that stay negative
    pass it. -/
def TuningRange (freq : ℤ) : Prop :=
  ¬ (144000 - 2147483648 ≤ freq ∧ freq < 144000) ∧ ¬ (1720000 < freq ∧ freq < 76000000)

instance (freq : ℤ) : Decidable (TuningRange freq) := inferInstanceAs (Decidable (_ ∧ _))

end MtcDrivers
