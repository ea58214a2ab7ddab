import Mathlib.Data.Nat.Notation
import Mathlib.Tactic.IntervalCases

/-!
# Numbers in a text

The digits of a number to a base of at most sixteen, as bytes, and the reader that takes digits as long as it
finds them. What is written is read back, also behind leading zeros and in front of another text.
-/

namespace Numerals

/-- The value of a digit, or 16 for a byte that is none. -/
def value (c : BitVec 8) : ℕ :=
  if 0x30 ≤ c ∧ c ≤ 0x39 then c.toNat - 0x30
  else if 0x61 ≤ c ∧ c ≤ 0x66 then c.toNat - 0x61 + 10
  else if 0x41 ≤ c ∧ c ≤ 0x46 then c.toNat - 0x41 + 10
  else 16

/-- The value of the digits in front, behind those with the value `acc`, and the rest of the text. -/
def scan (b acc : ℕ) : List (BitVec 8) → ℕ × List (BitVec 8)
  | [] => (acc, [])
  | c :: t => if value c < b then scan b (acc * b + value c) t else (acc, c :: t)

/-- The digits of a number, the highest first. -/
def numeral (b n : ℕ) : List (BitVec 8) := (Nat.toDigits b n).map fun c => BitVec.ofNat 8 c.toNat

/-- Filled up in front with `c` to `width` bytes. -/
def padded (c : BitVec 8) (width : ℕ) (t : List (BitVec 8)) : List (BitVec 8) :=
  List.replicate (width - t.length) c ++ t

/-- The text does not begin with a digit. -/
def Ends (b : ℕ) (t : List (BitVec 8)) : Prop := ∀ c ∈ t.head?, b ≤ value c

variable {b n acc width : ℕ} {ds t : List (BitVec 8)} {c : BitVec 8}

theorem value_digitChar (hn : n < 16) : value (BitVec.ofNat 8 n.digitChar.toNat) = n := by
  interval_cases n <;> rfl

theorem numeral_of_lt (hn : n < b) : numeral b n = [BitVec.ofNat 8 n.digitChar.toNat] := by
  rw [numeral, Nat.toDigits_of_lt_base hn]
  rfl

/-- The last digit comes off the end. -/
theorem numeral_of_le (hb : 1 < b) (hn : b ≤ n) :
    numeral b n = numeral b (n / b) ++ numeral b (n % b) := by
  have hlast : n % b < b := Nat.mod_lt n (by omega)
  rw [numeral_of_lt hlast, numeral, Nat.toDigits_of_base_le hb hn, List.map_append]
  rfl

theorem numeral_ne_nil : numeral b n ≠ [] := by
  intro h
  exact Nat.toDigits_ne_nil (List.map_eq_nil_iff.mp h)

theorem length_numeral_le (hb : 1 < b) {k : ℕ} (hk : 0 < k) (hn : n < b ^ k) : (numeral b n).length ≤ k := by
  rw [numeral, List.length_map]
  exact (Nat.length_toDigits_le_iff hb hk).mpr hn

theorem value_of_mem_numeral (hb : 1 < b) (hb' : b ≤ 16) (hc : c ∈ numeral b n) : value c < b := by
  induction n using Nat.strongRecOn with
  | _ n ih =>
    by_cases hn : n < b
    · rw [numeral_of_lt hn, List.mem_singleton] at hc
      rw [hc, value_digitChar (by omega)]
      exact hn
    have hlast : n % b < b := Nat.mod_lt n (by omega)
    rw [numeral_of_le hb (by omega), List.mem_append] at hc
    rcases hc with hc | hc
    · exact ih (n / b) (Nat.div_lt_self (by omega) hb) hc
    · rw [numeral_of_lt hlast, List.mem_singleton] at hc
      rw [hc, value_digitChar (by omega)]
      exact hlast

theorem length_padded (h : t.length ≤ width) : (padded c width t).length = width := by
  rw [padded, List.length_append, List.length_replicate]
  omega

/-! ## Reading -/

theorem scan_cons_of_lt (h : value c < b) : scan b acc (c :: t) = scan b (acc * b + value c) t := if_pos h

theorem scan_of_ends (h : Ends b t) : scan b acc t = (acc, t) := by
  cases t with
  | nil => rfl
  | cons c t =>
    have hc : b ≤ value c := h c rfl
    exact if_neg (by omega)

/-- Digits are read one after the other. -/
theorem scan_append (hds : ∀ c ∈ ds, value c < b) (acc : ℕ) (t : List (BitVec 8)) :
    scan b acc (ds ++ t) = scan b (scan b acc ds).1 t := by
  induction ds generalizing acc with
  | nil => rfl
  | cons c ds ih =>
    have hc : value c < b := hds c List.mem_cons_self
    rw [List.cons_append, scan_cons_of_lt hc, scan_cons_of_lt hc]
    exact ih (fun c' hc' => hds c' (List.mem_cons_of_mem _ hc')) _

/-- A number that was written is read back. -/
theorem scan_numeral_fst (hb : 1 < b) (hb' : b ≤ 16) (n : ℕ) : (scan b 0 (numeral b n)).1 = n := by
  induction n using Nat.strongRecOn with
  | _ n ih =>
    by_cases hn : n < b
    · have hvalue : value (BitVec.ofNat 8 n.digitChar.toNat) = n := value_digitChar (by omega)
      rw [numeral_of_lt hn, scan_cons_of_lt (by omega), hvalue]
      show 0 * b + n = n
      omega
    have hlast : n % b < b := Nat.mod_lt n (by omega)
    have hvalue : value (BitVec.ofNat 8 (n % b).digitChar.toNat) = n % b := value_digitChar (by omega)
    have hdigits : ∀ c ∈ numeral b (n / b), value c < b := fun c hc => value_of_mem_numeral hb hb' hc
    rw [numeral_of_le hb (by omega), scan_append hdigits, ih (n / b) (Nat.div_lt_self (by omega) hb),
      numeral_of_lt hlast, scan_cons_of_lt (by omega), hvalue]
    exact Nat.div_add_mod' n b

theorem scan_numeral (hb : 1 < b) (hb' : b ≤ 16) (n : ℕ) (ht : Ends b t) :
    scan b 0 (numeral b n ++ t) = (n, t) := by
  rw [scan_append (fun c hc => value_of_mem_numeral hb hb' hc), scan_numeral_fst hb hb', scan_of_ends ht]

/-- Leading zeros do not count. -/
theorem scan_zeros (hb : 1 < b) (k : ℕ) (t : List (BitVec 8)) :
    scan b 0 (List.replicate k (0x30 : BitVec 8) ++ t) = scan b 0 t := by
  induction k with
  | zero => rfl
  | succ k ih =>
    have hzero : value (0x30 : BitVec 8) = 0 := rfl
    rw [List.replicate_succ, List.cons_append, scan_cons_of_lt (by omega), hzero]
    simpa using ih

theorem scan_padded_numeral (hb : 1 < b) (hb' : b ≤ 16) (width n : ℕ) (ht : Ends b t) :
    scan b 0 (padded 0x30 width (numeral b n) ++ t) = (n, t) := by
  rw [padded, List.append_assoc, scan_zeros hb, scan_numeral hb hb' n ht]

end Numerals
