import Mathlib.Data.Int.Notation
import Mathlib.Logic.Function.Basic
import MtcDrivers.Framing.Basic
import MtcDrivers.Ioctl.Text
import MtcDrivers.Run.Basic

/-!
# The registers of the codec

The files `codec_reg` of the sound codec: the dump of all registers in hexadecimal, one in a line, and the
write of one register from a text. The codec itself is outside, as a state with `snd_soc_read` and
`snd_soc_write`.
-/

namespace MtcDrivers

/-! ## The dump -/

/-- The codec and its driver. `readableRegister` may be null. -/
structure SndSocCodec (σ : Type) where
  regCacheSize : ℕ
  regWordSize : ℕ
  readableRegister : Option (ℕ → Bool)
  sndSocRead : σ → U32 → U32
  sndSocWrite : σ → U32 → U32 → σ

/-- The loop of `min_bytes_needed` over the lower `i` bits. -/
def minBytesPass (val : U32) : ℕ → ℕ → ℕ
  | 0, c => c
  | i + 1, c => if val.getLsbD i then c else minBytesPass val i (c + 1)

def minBytesNeeded (val : U32) : ℕ :=
  let c := 32 - minBytesPass val 32 0
  if c = 0 ∨ c % 8 ≠ 0 then (c + 8) / 8 else c / 8

namespace SndSocCodec

variable {σ : Type} (codec : SndSocCodec σ)

def wordsize : ℕ := minBytesNeeded (BitVec.ofNat 32 codec.regCacheSize) * 2

def regsize : ℕ := codec.regWordSize * 2

/-- `len`, the length of a line. -/
def lineLength : ℕ := codec.wordsize + codec.regsize + 2 + 1

def readable (i : ℕ) : Bool := codec.readableRegister.all fun f => f i

/-- `regbuf` for the value `v`. -/
def regbuf (v : U32) : Text :=
  if v.slt 0 then List.replicate codec.regsize 0x58
  else snprintf 16 (hexPrecision codec.regsize v.toNat)

/-- `"%*x: %s\n"` -/
def line (i : ℕ) (v : U32) : Text := hexWidth codec.wordsize i ++ [0x3A, 0x20] ++ codec.regbuf v ++ [0x0A]

/-- The loop of `soc_codec_reg_show` over `n` registers from `i` on, with what is in `buf` and `total`. -/
def regLoop (s : σ) (count : U32) : ℕ → ℕ → Text → ℕ → Text × ℕ
  | 0, _, buf, total => (buf, total)
  | n + 1, i, buf, total =>
    if codec.readable i then
      let t := codec.line i (codec.sndSocRead s (BitVec.ofNat 32 i))
      if (count - 1).toInt ≤ (total + codec.lineLength : ℕ) then (buf, total)
      else regLoop s count n (i + 1) (buf ++ snprintf (count.toNat - total) t) (total + t.length)
    else regLoop s count n (i + 1) buf total

end SndSocCodec

/-- `soc_codec_reg_show`: the text in `buf` and the result. Without a codec or a driver nothing is shown. -/
def socCodecRegShow {σ : Type} (comp : Option (SndSocCodec σ)) (s : σ) (count : U32) : Text × ℕ :=
  match comp with
  | none => ([], 0)
  | some codec => if codec.regCacheSize = 0 then ([], 0) else codec.regLoop s count codec.regCacheSize 0 [] 0

/-! ## The files -/

/-- What the kernel does in a call of the file operations: `kmalloc`, `access_ok`, and the bytes that
    `copy_to_user` or `copy_from_user` leaves. -/
structure CopyCall where
  allocated : Bool
  accessOk : Bool
  notCopied : U32

/-- The registers, the position in the file, and whether the kernel is tainted. -/
structure RegFile (σ : Type) where
  regs : σ
  ppos : BitVec 64
  tainted : Bool

/-- `codec_reg_read_file`: the result and the file. -/
def codecRegReadFile {σ : Type} (comp : Option (SndSocCodec σ)) (call : CopyCall) (count : U32) (f : RegFile σ) :
    ℤ × RegFile σ :=
  if count = 0 ∨ f.ppos.msb then (-22, f)
  else if ¬ call.allocated then (-12, f)
  else
    let r := (socCodecRegShow comp f.regs count).2
    -- the number of bytes is overwritten with what `copy_to_user` leaves
    let r := if call.accessOk then call.notCopied.toNat else r
    if r ≠ 0 then (-14, f)
    else (r, { f with ppos := f.ppos + BitVec.ofNat 64 r })

/-- The register and the value that `local` names; `none` if the text is rejected. -/
def regCommand (text : Text) : Option (U32 × U32) :=
  let r := simpleStrtoul (skipSpaces text)
  (kstrtoul (skipSpaces r.2)).map fun val => (r.1, val)

/-- `codec_reg_write_file` -/
def codecRegWriteFile {σ : Type} (codec : SndSocCodec σ) (call : CopyCall) (userbuf : List U8) (f : RegFile σ) :
    ℤ × RegFile σ :=
  let len := if 31 ≤ userbuf.length then 31 else userbuf.length
  if ¬ call.accessOk ∨ call.notCopied ≠ 0 then (-14, f)
  else
    match regCommand (cString (userbuf.take len)) with
    | none => (-22, f)
    | some (reg, val) => (len, { f with regs := codec.sndSocWrite f.regs reg val, tainted := true })

/-! ## What the files are for -/

/-- A call of one of the file operations. -/
inductive RegFileOp
  | read (call : CopyCall) (count : U32)
  | write (call : CopyCall) (userbuf : List U8)

/-- The file after a call. -/
def RegFile.next {σ : Type} (codec : SndSocCodec σ) (f : RegFile σ) : RegFileOp → RegFile σ
  | .read call count => (codecRegReadFile (some codec) call count f).2
  | .write call userbuf => (codecRegWriteFile codec call userbuf f).2

/-- The register and the value that a call writes. -/
def RegFileOp.command : RegFileOp → Option (U32 × U32)
  | .read _ _ => none
  | .write call userbuf =>
    if call.accessOk ∧ call.notCopied = 0 then regCommand (cString (userbuf.take 31)) else none

/-- The value that a call writes to the register `i`, as the register keeps it. -/
def RegFileOp.keptAt (keep : U32 → U32 → U32) (i : ℕ) (op : RegFileOp) : Option U32 :=
  op.command.bind fun c => if c.1 = BitVec.ofNat 32 i then some (keep c.1 c.2) else none

/-- `"%x %x\n"` -/
def commandText (reg val : U32) : Text :=
  Numerals.numeral 16 reg.toNat ++ [0x20] ++ Numerals.numeral 16 val.toNat ++ [0x0A]

/-- The lines of a dump with register numbers of `width` digits and values of `size` digits. A line without a
    value has the letter `X` instead of its digits. -/
def lineText (width size : ℕ) : ℕ × Option ℕ → Text
  | (i, some v) => hexWidth width i ++ [0x3A, 0x20] ++ hexPrecision size v ++ [0x0A]
  | (i, none) => hexWidth width i ++ [0x3A, 0x20] ++ List.replicate size 0x58 ++ [0x0A]

/-- What stands in the line of a register that holds `v`: its value, but none for a negative one. -/
def entryOf (i : ℕ) (v : U32) : ℕ × Option ℕ := (i, if v.slt 0 then none else some v.toNat)

/-- The text behind `p`. -/
def expect (p t : Text) : Option Text := if p.isPrefixOf t then some (t.drop p.length) else none

/-- The number and the value that stand in the first line, and the lines behind it. -/
def readLine (t : Text) : Option ((ℕ × Option ℕ) × Text) := do
  let i := Numerals.scan 16 0 (skipSpaces t)
  let t ← expect [0x3A, 0x20] i.2
  if t.head? = some 0x58 then
    let rest ← expect [0x0A] (t.dropWhile (· = 0x58))
    pure ((i.1, none), rest)
  else
    let v := Numerals.scan 16 0 t
    let rest ← expect [0x0A] v.2
    pure ((i.1, some v.1), rest)

namespace SndSocCodec

variable {σ : Type} (codec : SndSocCodec σ)

/-- What stands in the line of a register. -/
def entry (s : σ) (i : ℕ) : ℕ × Option ℕ := entryOf i (codec.sndSocRead s (BitVec.ofNat 32 i))

/-- The registers that a dump to `count` bytes shows: the readable ones, as long as the text with the next line is
    shorter than `count - 1`. -/
def shownRegisters (count : U32) : List ℕ :=
  ((List.range codec.regCacheSize).filter codec.readable).take (((count - 1).toInt - 1).toNat / codec.lineLength)

/-- The sizes are those of a driver (two `short`s, and `regbuf` has 16 bytes), and a register that can be read
    has `reg_word_size` bytes. -/
structure Fits : Prop where
  cacheSize : codec.regCacheSize < 2 ^ 15
  wordSize : 0 < codec.regWordSize
  regbuf : codec.regWordSize < 8
  value : ∀ s reg, ¬ (codec.sndSocRead s reg).slt 0 → (codec.sndSocRead s reg).toNat < 256 ^ codec.regWordSize

/-- A register keeps what `keep` makes of the values that are written to it, and is not changed by a write to
    another one. -/
def Keeps (keep : U32 → U32 → U32) : Prop :=
  ∀ s reg val, ∀ i < codec.regCacheSize, codec.sndSocRead (codec.sndSocWrite s reg val) (BitVec.ofNat 32 i) =
    if reg = BitVec.ofNat 32 i then keep reg val else codec.sndSocRead s (BitVec.ofNat 32 i)

end SndSocCodec

/-- Ten registers of 16 bits. -/
def registerBank : SndSocCodec (U32 → U32) where
  regCacheSize := 10
  regWordSize := 2
  readableRegister := none
  sndSocRead s reg := s reg &&& 0xFFFF
  sndSocWrite s reg val := Function.update s reg val

end MtcDrivers
