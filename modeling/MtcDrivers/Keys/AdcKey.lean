import Mathlib.Data.Int.Notation
import MtcDrivers.Car.State
import MtcDrivers.Search.First

/-!
# Keys on an ADC channel

`searchAdcKey`, which finds the key of an ADC reading in a table of 25 records. A record is a channel code
and a 16-bit ADC value.
-/

namespace MtcDrivers

/-- `mtc_keycode` -/
def mtcKeycode : Vector U32 25 :=
  #v[0x200, 0x9E, 0x202, 0x203, 0x204, 0x205, 0x206, 0x207, 0x208, 0x209, 0x20A, 0x20B, 0x20E, 0x20F, 0x210,
    0x213, 0x66, 0x8B, 0x72, 0x73, 0x214, 0x215, 0x216, 0x217, 0x218]

/-- A table of 25 records of three bytes. -/
abbrev KeyTable := Vector U8 75

namespace KeyTable

def byte (tab : KeyTable) (i : ℕ) : U8 := tab[i]?.getD 0

/-- `v8` -/
def v8 (tab : KeyTable) (i : ℕ) : U32 :=
  (tab.byte (i + 1)).setWidth 32 ||| ((tab.byte (i + 2)).setWidth 32 <<< 8)

/-- The loop of `searchAdcKey`, with `n` records left at the offset `i`. The comparisons are those of
    unsigned numbers. -/
def searchFrom (adcCode : U8) (adcVal : U32) (tab : KeyTable) (tol : U32) : ℕ → ℕ → U32
  | 0, _ => 0
  | n + 1, i =>
    if tab.byte i = adcCode ∧ tab.v8 i < tol + adcVal ∧ adcVal < tab.v8 i + tol then
      mtcKeycode[i / 3]?.getD 0
    else searchFrom adcCode adcVal tab tol n (i + 3)

/-- `searchAdcKey` -/
def searchAdcKey (adcCode : U8) (adcVal : U32) (tab : KeyTable) (tol : U32) : U32 :=
  tab.searchFrom adcCode adcVal tol 25 0

/-- The records as the getter of `cfg_key_assign` prints them: the channel code and the value, the most
    significant byte first. -/
def record (tab : KeyTable) (k : ℕ) : ℕ :=
  (tab.byte (3 * k + 2)).toNat |||
    (((tab.byte (3 * k + 1)).toNat ||| ((tab.byte (3 * k)).toNat <<< 8)) <<< 8)

/-- The value of a record as `searchAdcKey` reads it, the least significant byte first. -/
def valueLow (tab : KeyTable) (k : ℕ) : ℕ :=
  (tab.byte (3 * k + 1)).toNat + 256 * (tab.byte (3 * k + 2)).toNat

/-- Record `k`, as it is configured, is for the channel, and its value differs from the reading by less than
    the tolerance. -/
def Fits (adcCode : U8) (adcVal : U32) (tab : KeyTable) (tol : U32) (k : ℕ) : Prop :=
  tab.record k / 65536 = adcCode.toNat ∧
    ((tab.record k % 65536 : ℕ) - (adcVal.toNat : ℤ)).natAbs < tol.toNat

/-- The same for the value with its bytes exchanged. -/
def FitsLow (adcCode : U8) (adcVal : U32) (tab : KeyTable) (tol : U32) (k : ℕ) : Prop :=
  tab.record k / 65536 = adcCode.toNat ∧ (tab.valueLow k - (adcVal.toNat : ℤ)).natAbs < tol.toNat

/-- The search returns the key of the first record that fits, and 0 if there is none. -/
structure FindsKey (adcCode : U8) (adcVal : U32) (tab : KeyTable) (tol : U32) : Prop where
  found : ∀ k, Search.IsFirst (Fits adcCode adcVal tab tol) 25 k →
    tab.searchAdcKey adcCode adcVal tol = mtcKeycode[k]?.getD 0
  missing : (∀ k < 25, ¬ Fits adcCode adcVal tab tol k) → tab.searchAdcKey adcCode adcVal tol = 0

end KeyTable

/-- `mtc_keydefault`, without the byte behind the last record. -/
def mtcKeydefault : KeyTable :=
  #v[0x05, 0x00, 0x81, 0x05, 0x02, 0x8A, 0x05, 0x02, 0xDF, 0, 0, 0, 0, 0, 0, 0, 0, 0, 0, 0, 0, 0, 0, 0, 0, 0,
    0, 0x05, 0x01, 0x1B, 0x05, 0x01, 0xA6, 0x05, 0x02, 0x8A, 0x05, 0x03, 0x2B, 0, 0, 0, 0, 0, 0, 0x05, 0x00,
    0xD0, 0x05, 0x02, 0x00, 0x05, 0x02, 0x46, 0x01, 0x00, 0x01, 0x02, 0x00, 0x01, 0, 0, 0, 0, 0, 0, 0, 0, 0,
    0, 0, 0, 0, 0, 0]

end MtcDrivers
