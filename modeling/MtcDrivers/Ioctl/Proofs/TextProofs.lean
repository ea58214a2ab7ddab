import Mathlib.Data.BitVec
import Mathlib.Data.List.TakeWhile
import MtcDrivers.Ioctl.Text

/-!
# Proofs: numbers in texts

`get_token_int` takes back one decimal number, up to a comma or the end of the text. Numbers that were
printed with a comma between them are therefore read back one by one, and a text of digits alone is
one number, whatever was printed.
-/

namespace MtcDrivers

/-! ## C strings -/

theorem cString_eq_self {t : Text} (ht : ∀ b ∈ t, b ≠ 0) : cString t = t :=
  List.takeWhile_eq_self_iff.mpr fun b hb => decide_eq_true (ht b hb)

theorem ne_zero_of_mem_cString {l : List U8} {b : U8} (hb : b ∈ cString l) : b ≠ 0 :=
  of_decide_eq_true (List.mem_takeWhile_imp (p := fun b => decide (b ≠ 0)) hb)

theorem cString_cons {b : U8} (hb : b ≠ 0) (l : List U8) : cString (b :: l) = b :: cString l :=
  List.takeWhile_cons_of_pos (decide_eq_true hb)

theorem cString_append {t : Text} (ht : ∀ b ∈ t, b ≠ 0) (l : List U8) :
    cString (t ++ l) = t ++ cString l :=
  List.takeWhile_append_of_pos fun b hb => decide_eq_true (ht b hb)

/-- Nothing behind a zero is visible. -/
theorem cString_append_zero (t l : List U8) : cString (t ++ 0 :: l) = cString t := by
  induction t with
  | nil => rfl
  | cons b t ih =>
    by_cases hb : b = 0
    · subst hb
      rfl
    · rw [List.cons_append, cString_cons hb, cString_cons hb, ih]

theorem cString_append_replicate (t : List U8) (n : ℕ) :
    cString (t ++ List.replicate n 0) = cString t := by
  cases n with
  | zero => rw [List.replicate_zero, List.append_nil]
  | succ n => rw [List.replicate_succ, cString_append_zero]

theorem take_length_cString (l : List U8) : l.take (cString l).length = cString l :=
  (List.prefix_iff_eq_take.mp (List.takeWhile_prefix _)).symm

/-! ## Decimal digits -/

theorem ne_comma_of_digit {c : U8} (h : isDigit c = true) : c ≠ comma := by
  rintro rfl
  exact absurd h (by decide)

theorem byte_digitChar {d : ℕ} (hd : d < 10) :
    BitVec.ofNat 8 (Nat.digitChar d).toNat = BitVec.ofNat 8 (48 + d) := by
  rw [Nat.toNat_digitChar_of_lt_ten hd, Nat.add_comm]

/-- The last digit comes off the end. -/
theorem decimal_eq (n : ℕ) :
    decimal n = (if n < 10 then [] else decimal (n / 10)) ++ [BitVec.ofNat 8 (48 + n % 10)] := by
  unfold decimal
  rw [Nat.toDigits_eq_if (by omega)]
  split
  · rename_i hn
    simp [byte_digitChar hn, Nat.mod_eq_of_lt hn]
  · simp [byte_digitChar (Nat.mod_lt n (by omega))]

theorem isDigit_byte {d : ℕ} (hd : d < 10) : isDigit (BitVec.ofNat 8 (48 + d)) = true := by
  have hsub : BitVec.ofNat 8 (48 + d) - 0x30 = BitVec.ofNat 8 d := by
    rw [BitVec.ofNat_add]
    simp
  rw [isDigit, hsub, decide_eq_true_eq, BitVec.le_def]
  simp
  omega

theorem isDigit_of_mem_decimal {n : ℕ} {c : U8} (hc : c ∈ decimal n) : isDigit c = true := by
  induction n using Nat.strongRecOn with
  | _ n ih =>
    rw [decimal_eq, List.mem_append, List.mem_singleton] at hc
    rcases hc with hc | rfl
    · split at hc
      · exact absurd hc List.not_mem_nil
      · exact ih (n / 10) (by omega) hc
    · exact isDigit_byte (Nat.mod_lt n (by omega))

theorem decimal_ne_zero (n : ℕ) : ∀ c ∈ decimal n, c ≠ 0 := by
  rintro c hc rfl
  exact absurd (isDigit_of_mem_decimal hc) (by decide)

theorem decimal_ne_nil (n : ℕ) : decimal n ≠ [] := by
  rw [decimal_eq]
  simp

/-- The value that `get_token_int` accumulates over some digits. -/
def accumulate (val : U32) (ds : Text) : U32 := ds.foldl addDigit val

theorem accumulate_decimal (n : ℕ) : accumulate 0 (decimal n) = BitVec.ofNat 32 n := by
  induction n using Nat.strongRecOn with
  | _ n ih =>
    have hdigit : ((BitVec.ofNat 8 (48 + n % 10)).setWidth 32 - 0x30 : U32) =
        BitVec.ofNat 32 (n % 10) := by
      apply BitVec.eq_of_toNat_eq
      simp
      omega
    rw [decimal_eq, accumulate, List.foldl_append, List.foldl_cons, List.foldl_nil, addDigit, hdigit]
    split
    · rename_i hn
      simp [Nat.mod_eq_of_lt hn]
    · rename_i hn
      have hhead := ih (n / 10) (by omega)
      rw [accumulate] at hhead
      rw [hhead]
      apply BitVec.eq_of_toNat_eq
      simp
      omega

/-! ## Tokens -/

/-- Digits up to the end of the text are one number. -/
theorem tokenLoop_end {ds : Text} (hds : ∀ c ∈ ds, isDigit c = true) (val : U32) (c : U8) :
    tokenLoop val c ds = (accumulate val (c :: ds), []) := by
  induction ds generalizing val c with
  | nil => rfl
  | cons d ds ih =>
    have hd := hds d List.mem_cons_self
    rw [tokenLoop, if_neg (ne_comma_of_digit hd), if_pos hd,
      ih (fun c hc => hds c (List.mem_cons_of_mem d hc))]
    rfl

/-- Digits up to a comma are one number, and the text goes on behind the comma. -/
theorem tokenLoop_comma {ds : Text} (hds : ∀ c ∈ ds, isDigit c = true) (rest : Text) (val : U32)
    (c : U8) : tokenLoop val c (ds ++ comma :: rest) = (accumulate val (c :: ds), rest) := by
  induction ds generalizing val c with
  | nil =>
    rw [List.nil_append, tokenLoop, if_pos rfl]
    rfl
  | cons d ds ih =>
    have hd := hds d List.mem_cons_self
    rw [List.cons_append, tokenLoop, if_neg (ne_comma_of_digit hd), if_pos hd,
      ih (fun c hc => hds c (List.mem_cons_of_mem d hc))]
    rfl

/-- A printed number starts with a digit, and more digits follow. -/
theorem exists_decimal_cons (n : ℕ) :
    ∃ c ds, decimal n = c :: ds ∧ isDigit c = true ∧ ∀ d ∈ ds, isDigit d = true := by
  cases hn : decimal n with
  | nil => exact absurd hn (decimal_ne_nil n)
  | cons c ds =>
    have hdigits : ∀ d ∈ c :: ds, isDigit d = true := fun d hd => isDigit_of_mem_decimal (hn ▸ hd)
    exact ⟨c, ds, rfl, hdigits c List.mem_cons_self, fun d hd => hdigits d (List.mem_cons_of_mem c hd)⟩

theorem getTokenInt_decimal (n : ℕ) : getTokenInt (decimal n) = (BitVec.ofNat 32 n, []) := by
  obtain ⟨c, ds, hn, hc, hds⟩ := exists_decimal_cons n
  rw [hn, getTokenInt, if_neg (ne_comma_of_digit hc), if_pos hc, tokenLoop_end hds, ← hn,
    accumulate_decimal]

theorem getTokenInt_decimal_comma (n : ℕ) (rest : Text) :
    getTokenInt (decimal n ++ comma :: rest) = (BitVec.ofNat 32 n, rest) := by
  obtain ⟨c, ds, hn, hc, hds⟩ := exists_decimal_cons n
  rw [hn, List.cons_append, getTokenInt, if_neg (ne_comma_of_digit hc), if_pos hc,
    tokenLoop_comma hds, ← hn, accumulate_decimal]

/-- What `get_token_int` leaves of a text of digits. -/
theorem getTokenInt_digits {ds : Text} (hds : ∀ c ∈ ds, isDigit c = true) :
    (getTokenInt ds).2 = [] := by
  cases ds with
  | nil => rfl
  | cons c ds =>
    have hc := hds c List.mem_cons_self
    rw [getTokenInt, if_neg (ne_comma_of_digit hc), if_pos hc,
      tokenLoop_end fun d hd => hds d (List.mem_cons_of_mem c hd)]

/-- A text of digits holds no second number. -/
theorem readInts_digits {ds : Text} (hds : ∀ c ∈ ds, isDigit c = true) (n : ℕ) :
    readInts (n + 2) ds = none := by
  rw [readInts]
  dsimp only
  rw [getTokenInt_digits hds]
  split
  · rfl
  · rfl

/-! ## Printed lists -/

/-- Without a separator in either format, a printed list is a text of digits. -/
theorem printInts_digits (vs : List ℕ) {buf : Text} (hbuf : ∀ c ∈ buf, isDigit c = true) :
    ∀ c ∈ printInts [.d] [.d] vs buf, isDigit c = true := by
  have happend : ∀ {buf : Text} (v : ℕ), (∀ c ∈ buf, isDigit c = true) →
      ∀ c ∈ buf ++ Format.print [.d] v, isDigit c = true := by
    intro buf v hbuf c hc
    rcases List.mem_append.mp hc with hc | hc
    · exact hbuf c hc
    · exact isDigit_of_mem_decimal (n := v) (by simpa [Format.print] using hc)
  induction vs generalizing buf with
  | nil => exact hbuf
  | cons v vs ih =>
    cases vs with
    | nil => exact happend v hbuf
    | cons v' vs => exact ih (happend v hbuf)

theorem printInts_cons (each last : Format) (v v' : ℕ) (vs : List ℕ) (buf : Text) :
    printInts each last (v :: v' :: vs) buf =
      printInts each last (v' :: vs) (buf ++ each.print v) := rfl

theorem printInts_append (each last : Format) (vs : List ℕ) (buf : Text) :
    printInts each last vs buf = buf ++ printInts each last vs [] := by
  induction vs generalizing buf with
  | nil => simp [printInts]
  | cons v vs ih =>
    cases vs with
    | nil => simp [printInts]
    | cons v' vs =>
      rw [printInts_cons, printInts_cons, ih, ih ([] ++ _)]
      simp

/-- A list printed with a comma behind every number but the last is read back. -/
theorem readInts_printInts {vs : List ℕ} (hvs : ∀ v ∈ vs, v < 2 ^ 31) :
    readInts vs.length (printInts [.d, .lit comma] [.d] vs []) =
      some (vs.map (BitVec.ofNat 32), []) := by
  have hpos : ∀ v, v < 2 ^ 31 → (BitVec.ofNat 32 v).slt 0#32 = false := by
    intro v hv
    rw [BitVec.slt_zero_eq_msb, BitVec.msb_eq_decide, decide_eq_false_iff_not, BitVec.toNat_ofNat]
    omega
  induction vs with
  | nil => rfl
  | cons v vs ih =>
    have hv := hpos v (hvs v List.mem_cons_self)
    have ih := ih fun v' hv' => hvs v' (List.mem_cons_of_mem v hv')
    cases vs with
    | nil => simp [readInts, printInts, Format.print, getTokenInt_decimal, hv]
    | cons v' vs =>
      have htext : printInts [.d, .lit comma] [.d] (v :: v' :: vs) [] =
          decimal v ++ comma :: printInts [.d, .lit comma] [.d] (v' :: vs) [] := by
        rw [printInts_cons, printInts_append]
        simp [Format.print]
      rw [htext, List.length_cons, readInts]
      simp only [getTokenInt_decimal_comma, hv, ih]
      rfl

/-! ## Hexadecimal numbers -/

section

open Numerals (numeral scan value padded Ends)

theorem sixteen_pow (k : ℕ) : 16 ^ (k * 2) = 256 ^ k := by
  rw [Nat.mul_comm, Nat.pow_mul]

theorem length_hexWidth {width n : ℕ} (hpos : 0 < width) (hn : n < 16 ^ width) : (hexWidth width n).length = width :=
  Numerals.length_padded (Numerals.length_numeral_le (by omega) hpos hn)

theorem hexPrecision_of_pos {size n : ℕ} (hpos : 0 < size) :
    hexPrecision size n = padded 0x30 size (numeral 16 n) := by
  unfold hexPrecision
  rw [if_neg (by omega)]

theorem length_hexPrecision {size n : ℕ} (hpos : 0 < size) (hn : n < 16 ^ size) :
    (hexPrecision size n).length = size := by
  rw [hexPrecision_of_pos hpos]
  exact Numerals.length_padded (Numerals.length_numeral_le (by omega) hpos hn)

theorem skipSpaces_replicate (k : ℕ) (t : Text) : skipSpaces (List.replicate k 0x20 ++ t) = skipSpaces t := by
  induction k with
  | zero => rfl
  | succ k ih =>
    rw [List.replicate_succ, List.cons_append]
    exact ih

theorem skipSpaces_of_digit {c : U8} (hc : value c < 16) (t : Text) : skipSpaces (c :: t) = c :: t := by
  have hne : c ≠ 0x20 := by
    rintro rfl
    exact absurd hc (by decide)
  exact List.dropWhile_cons_of_neg (by simpa using hne)

/-- The digits of a number, the first one apart. -/
theorem exists_numeral_cons (n : ℕ) :
    ∃ c ds, numeral 16 n = c :: ds ∧ value c < 16 ∧ ∀ c ∈ ds, value c < 16 := by
  have hdigits : ∀ c ∈ numeral 16 n, value c < 16 :=
    fun c hc => Numerals.value_of_mem_numeral (by omega) (by omega) hc
  obtain ⟨c, ds, heq⟩ := List.exists_cons_of_ne_nil (Numerals.numeral_ne_nil (b := 16) (n := n))
  rw [heq] at hdigits
  exact ⟨c, ds, heq, hdigits c List.mem_cons_self, fun c' hc' => hdigits c' (List.mem_cons_of_mem _ hc')⟩

theorem skipSpaces_numeral (n : ℕ) (t : Text) : skipSpaces (numeral 16 n ++ t) = numeral 16 n ++ t := by
  obtain ⟨c, ds, heq, hc, -⟩ := exists_numeral_cons n
  rw [heq]
  exact skipSpaces_of_digit hc _

theorem skipSpaces_hexWidth (width n : ℕ) (t : Text) : skipSpaces (hexWidth width n ++ t) = numeral 16 n ++ t := by
  rw [hexWidth, padded, List.append_assoc, skipSpaces_replicate, skipSpaces_numeral]

theorem ends_colon (t : Text) : Ends 16 (0x3A :: t) := by
  rintro c ⟨⟩
  decide

theorem ends_space (t : Text) : Ends 16 (0x20 :: t) := by
  rintro c ⟨⟩
  decide

theorem ends_newline (t : Text) : Ends 16 (0x0A :: t) := by
  rintro c ⟨⟩
  decide

theorem length_snprintf {size : ℕ} {t : Text} (h : t.length < size) : snprintf size t = t :=
  List.take_of_length_le (by omega)

/-- The byte behind the digits is no `x`. -/
theorem skip0x_numeral (n : ℕ) {t : Text} (ht : ∀ c ∈ t.head?, c ≠ 0x78 ∧ c ≠ 0x58) :
    skip0x (numeral 16 n ++ t) = numeral 16 n ++ t := by
  obtain ⟨c, ds, heq, -, hds⟩ := exists_numeral_cons n
  have hsecond : ∀ d ∈ (ds ++ t).head?, d ≠ 0x78 ∧ d ≠ 0x58 := by
    cases ds with
    | nil => exact ht
    | cons d ds =>
      intro d' hd'
      obtain rfl : d = d' := Option.some.inj hd'
      have hd : value d < 16 := hds d List.mem_cons_self
      constructor
      · rintro rfl
        exact absurd hd (by decide)
      · rintro rfl
        exact absurd hd (by decide)
  rw [heq, List.cons_append]
  generalize ds ++ t = u at hsecond
  unfold skip0x
  split
  · rename_i hu
    obtain ⟨-, rfl⟩ := List.cons.inj hu
    exact absurd rfl (hsecond 0x78 rfl).1
  · rename_i hu
    obtain ⟨-, rfl⟩ := List.cons.inj hu
    exact absurd rfl (hsecond 0x58 rfl).2
  · rfl

theorem simpleStrtoul_numeral (v : U32) (t : Text) :
    simpleStrtoul (numeral 16 v.toNat ++ 0x20 :: t) = (v, 0x20 :: t) := by
  have hspace : ∀ c ∈ (0x20 :: t : Text).head?, c ≠ 0x78 ∧ c ≠ 0x58 := by
    rintro c ⟨⟩
    decide
  unfold simpleStrtoul
  rw [skip0x_numeral _ hspace, Numerals.scan_numeral (by omega) (by omega) v.toNat (ends_space t)]
  dsimp only
  rw [BitVec.ofNat_toNat, BitVec.setWidth_eq]

theorem kstrtoul_numeral (v : U32) : kstrtoul (numeral 16 v.toNat ++ [0x0A]) = some v := by
  have hnewline : ∀ c ∈ ([0x0A] : Text).head?, c ≠ 0x78 ∧ c ≠ 0x58 := by
    rintro c ⟨⟩
    decide
  have hplus : (numeral 16 v.toNat ++ [0x0A]).head? ≠ some 0x2B := by
    intro h
    obtain ⟨c, ds, heq, hc, -⟩ := exists_numeral_cons v.toNat
    rw [heq] at h
    obtain rfl : c = 0x2B := Option.some.inj h
    exact absurd hc (by decide)
  have hpos : 0 < (numeral 16 v.toNat).length := List.length_pos_iff.mpr Numerals.numeral_ne_nil
  have hdigits : ([0x0A] : Text).length ≠ (numeral 16 v.toNat ++ [0x0A]).length := by
    rw [List.length_append]
    omega
  have hrest : ¬ (([0x0A] : Text) ≠ [] ∧ ([0x0A] : Text) ≠ [0x0A]) := fun h => h.2 rfl
  unfold kstrtoul
  rw [if_neg hplus, skip0x_numeral _ hnewline]
  dsimp only
  rw [Numerals.scan_numeral (by omega) (by omega) v.toNat (ends_newline []), if_neg hdigits, if_neg hrest,
    if_neg (Nat.not_le.mpr v.isLt), BitVec.ofNat_toNat, BitVec.setWidth_eq]

theorem ne_zero_of_mem_numeral {n : ℕ} {c : U8} (hc : c ∈ numeral 16 n) : c ≠ 0 := by
  have hdigit := Numerals.value_of_mem_numeral (by omega) (by omega) hc
  rintro rfl
  exact absurd hdigit (by decide)

end

end MtcDrivers
