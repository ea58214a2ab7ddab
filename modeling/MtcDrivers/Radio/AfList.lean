import MtcDrivers.Run.Basic
import MtcDrivers.Radio.Process

/-!
# The list of alternative frequencies

The list at the base of the RDS block as a list of codes, and the calls of `rds_af_process` with the
words of the groups.
-/

namespace MtcDrivers

/-- The codes of the list: the bytes behind the count byte up to the first zero. -/
def RadioStruct2.afCodes (s : RadioStruct2) : List U8 :=
  ((List.range 80).map fun i => s.front (afBase + 1 + i)).takeWhile (· ≠ 0)

/-- What the list has to be. -/
structure AfListOk (s : RadioStruct2) : Prop where
  count : (s.front afBase).toNat = s.afCodes.length
  bounded : s.afCodes.length ≤ 25
  range : ∀ c ∈ s.afCodes, 1 ≤ c.toNat ∧ c.toNat ≤ 204
  nodup : s.afCodes.Nodup

/-- `rds_af_process` with the arguments that `rds_process` gives it. -/
def rdsAfWord (s : RadioStruct2) (word : U16) : RadioStruct2 :=
  rdsAfProcess ((word >>> 8).setWidth 8) word s

/-- The first frequency of a word, or zero. -/
def afFirst (word : U16) : U16 := afCode (((word >>> 8).setWidth 8 : U8).setWidth 16)

/-- The second frequency of a word, or zero: all 16 bits of the word, if the low byte is a code. -/
def afSecond (word : U16) : U16 := afCode word

/-- A `u16` of the block, by its offset from the list. -/
def RadioStruct2.afU16 (s : RadioStruct2) (i : ℕ) : U16 :=
  u16At (s.front (afBase + i)) (s.front (afBase + i + 1))

/-- The word is among those that were seen before. -/
def afSeen (word : U16) (s : RadioStruct2) : Bool :=
  (List.range 35).any fun k => s.afU16 (82 + 2 * k) = word

/-- The pair is one that names the frequencies in ascending order, or only one frequency. -/
def AfAscending (word : U16) : Prop :=
  afFirst word = 0 ∨ afFirst word < afSecond word ∨ afSecond word = 0

instance (word : U16) : Decidable (AfAscending word) := inferInstanceAs (Decidable (_ ∨ _))

/-- The word starts a list of the second kind: its first frequency is one of the pair before, or it has
    a second one. -/
def AfStartsPairs (word : U16) (s : RadioStruct2) : Prop :=
  s.afU16 156 = 0 ∧ s.afU16 152 ≠ 0 ∧ word ≠ s.afU16 152 ∧
    (afFirst word ≠ 0 ∧
      (afFirst word = afCode (s.afU16 152 >>> 8) ∨ afFirst word = afCode (s.afU16 152 &&& 0xFF)) ∨
        afSecond word ≠ 0)

/-- `rds_af_process` adds both frequencies of the word. -/
def AfAddsPair (word : U16) (s : RadioStruct2) : Prop :=
  (word >>> 8).setWidth 8 ≠ (250 : U8) ∧ afSecond word ||| afFirst word ≠ 0 ∧ afSeen word s ∧
    (s.afU16 156 = 1 ∨ s.afU16 156 = 2 ∧ AfAscending word ∨ AfStartsPairs word s ∧ AfAscending word)

/-- What `rds_af_add` is to do to the codes. -/
def afPut (l : List U8) (af : U16) : List U8 :=
  if af = 0 ∨ l.length = 25 ∨ af ∈ l.map (·.setWidth 16) then l else l ++ [af.setWidth 8]

/-- The word does not bring in the code of its second frequency again: it does not add its pair, or it
    has no high byte, or behind the first frequency the list is full or lacks the code. -/
def AddsNoCodeTwice (s : RadioStruct2) (word : U16) : Prop :=
  AfAddsPair word s → (afSecond word).toNat < 256 ∨ (afPut s.afCodes (afFirst word)).length = 25 ∨
    (afSecond word).setWidth 8 ∉ afPut s.afCodes (afFirst word)

end MtcDrivers
