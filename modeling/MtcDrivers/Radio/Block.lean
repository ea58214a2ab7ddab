import MtcDrivers.Bits.CyclicCode
import MtcDrivers.Radio.Sync

/-!
# Blocks of the RDS code

What the synchroniser should recognise: a block is an information word of 16 bits followed by its check
word in the (26,16) code plus the offset word of the block. `RdsBlock.tag` are the numbers that
`radio_rds_pass` compares a syndrome with.
-/

namespace MtcDrivers

open ShiftRegister CyclicCode

/-- The low coefficients of the generator `X^10 + X^8 + X^7 + X^5 + X^4 + X^3 + 1`. -/
def rdsGenerator : BitVec 10 := 0x1B9

/-- The check word of an information word. -/
def checkWord (m : U16) : BitVec 10 :=
  remainder rdsGenerator (msbFirst m ++ List.replicate 10 false)

/-- The blocks of a group; the third one is of kind C or C'. -/
inductive RdsBlock where
  | a | b | c | cAlt | d
deriving DecidableEq, Repr

namespace RdsBlock

/-- The offset word that is added to the check word of the block. -/
def offsetWord : RdsBlock → BitVec 10
  | a => 0x0FC
  | b => 0x198
  | c => 0x168
  | cAlt => 0x350
  | d => 0x1B4

/-- The syndrome by which `radio_rds_pass` knows the block. -/
def tag : RdsBlock → U32
  | a => 984
  | b => 980
  | c => 604
  | cAlt => 972
  | d => 600

/-- The states `sta_rds_cache[0]` in which the block may come. -/
def ExpectedIn (state : U8) : RdsBlock → Prop
  | a => True
  | b => state = 1
  | c | cAlt => state = 2
  | d => state = 3

instance (state : U8) (x : RdsBlock) : Decidable (x.ExpectedIn state) :=
  match x with
  | a => inferInstanceAs (Decidable True)
  | b => inferInstanceAs (Decidable (state = 1))
  | c | cAlt => inferInstanceAs (Decidable (state = 2))
  | d => inferInstanceAs (Decidable (state = 3))

/-- The state after the block. -/
def next : RdsBlock → U8
  | a => 1
  | b => 2
  | c | cAlt => 3
  | d => 0

end RdsBlock

/-- The information word of a window of 26 bits. -/
def infoWord (w : BitVec 26) : U16 := (w >>> 10).setWidth 16

/-- The window is a word of the code for this block. -/
def IsBlock (x : RdsBlock) (w : BitVec 26) : Prop :=
  w.setWidth 10 = checkWord (infoWord w) ^^^ x.offsetWord

/-- The event is a call of `rds_process`. -/
def RadioEvent.isProcess : RadioEvent → Bool
  | .rdsProcess _ _ => true
  | _ => false

/-- The syndrome of a window. -/
def windowTag (w : BitVec 26) : U32 := syndrome (w.setWidth 32 <<< 6)

namespace Radio

/-- The window that a pass looks at, the oldest 26 bits of the accumulator. -/
def window (r : Radio) : BitVec 26 := (r.gap14 >>> 38).setWidth 26

/-- Where the word of a block is stored. -/
def blockWord (r : Radio) : RdsBlock → U16
  | .a => r.u16_2
  | .b => r.gap13_0
  | .c | .cAlt => r.gap13_2
  | .d => r.gap13_4

/-- The number of calls of `rds_process` so far. -/
def processCalls (r : Radio) : ℕ := r.log.countP RadioEvent.isProcess

/-- What the block code asks of a pass for front ends other than 2 and 4: the syndrome names the block of
    the window, 26 bits are taken for an expected block, and its information word is stored. -/
structure BlockCodeMet (w : RadioWork) (v12 : U8) (r : Radio) : Prop where
  classified : ∀ x : RdsBlock, syndrome r.crcSrc = x.tag ↔ IsBlock x r.window
  accepted : (rdsPass false w v12 r).1 = v12 - 26 ↔
    ∃ x, IsBlock x r.window ∧ x.ExpectedIn r.staRdsCache0
  stored : ∀ x, IsBlock x r.window → x.ExpectedIn r.staRdsCache0 →
    (rdsPass false w v12 r).2.blockWord x = infoWord r.window

end Radio

end MtcDrivers
