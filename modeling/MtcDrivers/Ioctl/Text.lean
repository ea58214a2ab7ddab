import MtcDrivers.Car.State
import MtcDrivers.Numerals.Positional

/-!
# Request and answer texts

The texts of `car_ioctl` requests: C strings, the decimal numbers that `get_token_int` takes from them,
and the numbers that `sprintf` appends to an answer. The files of the debug directories have hexadecimal
numbers.
-/

namespace MtcDrivers

/-- A C string, without its terminating zero. -/
abbrev Text := List U8

/-- The bytes of an ASCII literal. -/
def ascii (s : String) : Text := s.toList.map fun c => BitVec.ofNat 8 c.toNat

/-- The C string that starts at these bytes. -/
def cString (bytes : List U8) : Text := bytes.takeWhile (· ≠ 0)

/-- `','` -/
def comma : U8 := 0x2C

/-- `(unsigned char)(c - '0') > 9u`, negated. -/
def isDigit (c : U8) : Bool := c - 0x30 ≤ 9

/-- `val * 10 + (c - '0')` -/
def addDigit (val : U32) (c : U8) : U32 := val * 10 + (c.setWidth 32 - 0x30)

/-- The loop of `get_token_int`, at a digit `c` with the rest of the text behind it. -/
def tokenLoop (val : U32) (c : U8) : Text → U32 × Text
  | [] => (addDigit val c, [])
  | next :: p =>
    if next = comma then (addDigit val c, p)
    else if isDigit next then tokenLoop (addDigit val c) next p
    else (-1, next :: p)

/-- `get_token_int`: the value and the new position. -/
def getTokenInt : Text → U32 × Text
  | [] => (-1, [])
  | c :: p =>
    if c = comma then (0, p)
    else if isDigit c then tokenLoop 0 c p
    else (-1, c :: p)

/-- `n` calls of `get_token_int`; `none` if one of them returns a negative value. -/
def readInts : ℕ → Text → Option (List U32 × Text)
  | 0, pos => some ([], pos)
  | n + 1, pos =>
    let (v, pos) := getTokenInt pos
    if v.slt 0#32 then none else (readInts n pos).map fun r => (v :: r.1, r.2)

/-! ## Answers -/

/-- The decimal digits of a number. -/
def decimal (n : ℕ) : Text := (Nat.toDigits 10 n).map fun c => BitVec.ofNat 8 c.toNat

/-- A piece of a format text with one argument. -/
inductive Piece where
  /-- `%d` -/
  | d
  | lit (c : U8)
deriving DecidableEq, Repr

abbrev Format := List Piece

/-- `str_fmt_d_comma_2`, which is `"%d"`. -/
def strFmtDComma2 : Format := [.d]

/-- `str_fmt_d_comma_3`, which is `"%d"`. -/
def strFmtDComma3 : Format := [.d]

/-- `str_fmt_d_3`, which is `"%d"`. -/
def strFmtD3 : Format := [.d]

/-- `str_fmt_d_4`, which is `"%d"`. -/
def strFmtD4 : Format := [.d]

/-- What `sprintf` writes for a non-negative argument. -/
def Format.print (f : Format) (v : ℕ) : Text :=
  f.flatMap fun
    | .d => decimal v
    | .lit c => [c]

/-- The loop of the list answers: every number but the last one is appended with one format, and the
    last one with another. -/
def printInts (each last : Format) : List ℕ → Text → Text
  | [], buf => buf
  | [v], buf => buf ++ last.print v
  | v :: vs, buf => printInts each last vs (buf ++ each.print v)

/-! ## Hexadecimal numbers -/

/-- The text behind the spaces in front of it. -/
def skipSpaces (t : Text) : Text := t.dropWhile (· = 0x20)

/-- The text behind `0x`. -/
def skip0x : Text → Text
  | 0x30#8 :: 0x78#8 :: t => t
  | 0x30#8 :: 0x58#8 :: t => t
  | t => t

/-- `simple_strtoul(p, &p, 16)` -/
def simpleStrtoul (t : Text) : U32 × Text :=
  let r := Numerals.scan 16 0 (skip0x t)
  (BitVec.ofNat 32 r.1, r.2)

/-- `kstrtoul(p, 16, &val)`; `none` is an error. -/
def kstrtoul (t : Text) : Option U32 :=
  let t := skip0x (if t.head? = some 0x2B then t.tail else t)
  let r := Numerals.scan 16 0 t
  if r.2.length = t.length then none
  else if r.2 ≠ [] ∧ r.2 ≠ [0x0A] then none
  else if 2 ^ 32 ≤ r.1 then none
  else some (BitVec.ofNat 32 r.1)

/-- `"%.*x"` -/
def hexPrecision (precision n : ℕ) : Text :=
  if precision = 0 ∧ n = 0 then [] else Numerals.padded 0x30 precision (Numerals.numeral 16 n)

/-- `"%*x"` -/
def hexWidth (width n : ℕ) : Text := Numerals.padded 0x20 width (Numerals.numeral 16 n)

/-- What `snprintf` stores of a text in `size` bytes, without the zero behind it. -/
def snprintf (size : ℕ) (t : Text) : Text := t.take (size - 1)

end MtcDrivers
