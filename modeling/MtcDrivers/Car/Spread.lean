import Mathlib.Algebra.Group.Nat.Defs
import Mathlib.Order.Bounds.Basic
import MtcDrivers.Ioctl.Config

/-!
# The spread of the steering table

`stw_range_check`, which looks for the smallest difference between two values of each half of the steering
table.
-/

namespace MtcDrivers

/-- `stw_min_a` and `stw_min_b` of `wheel_study`. -/
structure StwMin where
  stwMinA : U8
  stwMinB : U8
deriving DecidableEq, Inhabited

namespace ConfigData

/-- `cfg[i] | ((u16)cfg[i + 1] << 8)` -/
def u16At (c : ConfigData) (i : ℕ) : ℕ := (c.byte i).toNat ||| ((c.byte (i + 1)).toNat <<< 8)

end ConfigData

/-- `d` -/
def stwDiff (u v : ℕ) : ℕ := if u > v then u - v else v - u

/-- The two loops of `stw_range_check` over one half of the table, from the offset `base`. -/
def stwMin (c : ConfigData) (base : ℕ) : ℕ :=
  (List.range 24).foldl (fun min i =>
    let u := c.u16At (base + 3 * i)
    (List.range' (3 + 3 * i) (24 - i) 3).foldl (fun min off =>
      let v := c.u16At (base + off)
      if stwDiff u v ≤ min then stwDiff u v else min) min) 50

/-- `stw_range_check` -/
def stwRangeCheck (c : ConfigData) : StwMin :=
  ⟨BitVec.ofNat 8 (stwMin c 329 >>> 1), BitVec.ofNat 8 (stwMin c 404 >>> 1)⟩

/-- The differences of two of the 25 values, and 50. -/
def differences (f : ℕ → ℕ) : Set ℕ :=
  {d | d = 50 ∨ ∃ i j, i < j ∧ j < 25 ∧ d = ((f i : ℤ) - f j).natAbs}

/-- Two of the 25 values differ by less than `t`. -/
def SomeCloser (f : ℕ → ℕ) (t : ℕ) : Prop := ∃ i j, i < j ∧ j < 25 ∧ ((f i : ℤ) - f j).natAbs < t

/-- The low 16 bits of value `k`. -/
def lo16 (xs : List U32) (k : ℕ) : ℕ := (elem xs k).toNat % 2 ^ 16

/-- The same with the two bytes exchanged. -/
def swapped16 (xs : List U32) (k : ℕ) : ℕ :=
  (elem xs k).toNat / 2 ^ 8 % 2 ^ 8 + 2 ^ 8 * ((elem xs k).toNat % 2 ^ 8)

/-- Each minimum is half of the smallest difference in its half of the table, which the getter of
    `cfg_steer_assign` reads in the same way. -/
structure SpreadRight (xs : List U32) (c : ConfigData) : Prop where
  getter : ∀ k < 50, steerAssignAt c k % 2 ^ 16 = lo16 xs k
  first : ∃ m, IsLeast (differences (lo16 xs)) m ∧ (stwRangeCheck c).stwMinA = BitVec.ofNat 8 (m / 2)
  second : ∃ m, IsLeast (differences fun k => lo16 xs (25 + k)) m ∧
    (stwRangeCheck c).stwMinB = BitVec.ofNat 8 (m / 2)

end MtcDrivers
