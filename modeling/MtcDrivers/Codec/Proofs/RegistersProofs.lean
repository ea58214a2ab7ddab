import MtcDrivers.Codec.Registers
import MtcDrivers.Ioctl.Proofs.TextProofs

/-!
# Proofs: the registers of the codec

Every line of a dump has the same length, so that the dump ends at the last line that fits, and it is read back
as the registers with their values. Over a run of the two files each register has the value that was written to
it last.
-/

namespace MtcDrivers

open Numerals (numeral scan value padded Ends)

/-! ## The size of a register number -/

/-- The loop stops at the highest bit. -/
theorem lt_of_minBytesPass (val : U32) (i c : ℕ) (h : val.toNat < 2 ^ i) :
    val.toNat < 2 ^ (i + c - minBytesPass val i c) := by
  induction i generalizing c with
  | zero =>
    unfold minBytesPass
    simpa using h
  | succ i ih =>
    unfold minBytesPass
    split
    · rename_i hbit
      have heq : i + 1 + c - c = i + 1 := by omega
      rwa [heq]
    · rename_i hbit
      have hlow : val.toNat < 2 ^ i := by
        have hfalse : val.toNat.testBit i = false := by simpa [BitVec.getLsbD] using hbit
        exact Nat.lt_pow_two_of_testBit _ fun j hj => by
          rcases Nat.lt_or_eq_of_le hj with hlt | rfl
          · exact Nat.testBit_lt_two_pow (Nat.lt_of_lt_of_le h (Nat.pow_le_pow_right (by omega) hlt))
          · exact hfalse
      have := ih (c + 1) hlow
      have heq : i + (c + 1) = i + 1 + c := by omega
      rwa [heq] at this

theorem lt_minBytesNeeded (val : U32) : val.toNat < 256 ^ minBytesNeeded val := by
  have hbits := lt_of_minBytesPass val 32 0 val.isLt
  have hle : 32 - minBytesPass val 32 0 ≤ 8 * minBytesNeeded val := by
    unfold minBytesNeeded
    dsimp only
    split <;> omega
  have hbase : 256 ^ minBytesNeeded val = 2 ^ (8 * minBytesNeeded val) := by
    rw [Nat.pow_mul]
  rw [hbase]
  exact Nat.lt_of_lt_of_le hbits (Nat.pow_le_pow_right (by omega) hle)

theorem minBytesNeeded_pos (val : U32) : 0 < minBytesNeeded val := by
  unfold minBytesNeeded
  dsimp only
  split <;> omega

/-! ## Lines -/

theorem dropWhile_replicate {size : ℕ} (t : Text) :
    (List.replicate size (0x58 : U8) ++ 0x0A :: t).dropWhile (· = 0x58) = 0x0A :: t := by
  induction size with
  | zero => rfl
  | succ size ih =>
    rw [List.replicate_succ, List.cons_append]
    exact ih

theorem expect_append (p t : Text) : expect p (p ++ t) = some t := by
  have hprefix : p.isPrefixOf (p ++ t) = true := List.isPrefixOf_iff_prefix.mpr (List.prefix_append p t)
  unfold expect
  rw [if_pos hprefix, List.drop_left]

theorem readLine_lineText (width : ℕ) {size : ℕ} (hsize : 0 < size) (e : ℕ × Option ℕ) (rest : Text) :
    readLine (lineText width size e ++ rest) = some (e, rest) := by
  obtain ⟨i, v⟩ := e
  unfold readLine
  cases v with
  | none =>
    have hnumber : scan 16 0 (skipSpaces (lineText width size (i, none) ++ rest)) =
        (i, [0x3A, 0x20] ++ (List.replicate size 0x58 ++ 0x0A :: rest)) := by
      simp only [lineText, List.append_assoc, skipSpaces_hexWidth]
      exact Numerals.scan_numeral (by omega) (by omega) i (ends_colon _)
    have hhead : (List.replicate size (0x58 : U8) ++ 0x0A :: rest).head? = some 0x58 := by
      obtain ⟨size, rfl⟩ : ∃ k, size = k + 1 := ⟨size - 1, by omega⟩
      rfl
    have hrest : expect [0x0A] (0x0A :: rest) = some rest := expect_append [0x0A] rest
    rw [hnumber]
    dsimp only
    rw [expect_append, Option.bind_eq_bind, Option.bind_some, if_pos hhead, dropWhile_replicate, hrest]
    rfl
  | some v =>
    have hnumber : scan 16 0 (skipSpaces (lineText width size (i, some v) ++ rest)) =
        (i, [0x3A, 0x20] ++ (padded 0x30 size (numeral 16 v) ++ 0x0A :: rest)) := by
      simp only [lineText, List.append_assoc, skipSpaces_hexWidth, hexPrecision_of_pos hsize]
      exact Numerals.scan_numeral (by omega) (by omega) i (ends_colon _)
    have hvalue := Numerals.scan_padded_numeral (b := 16) (by omega) (by omega) size v (ends_newline rest)
    have hhead : (padded (0x30 : U8) size (numeral 16 v) ++ 0x0A :: rest).head? ≠ some 0x58 := by
      intro h
      obtain ⟨c, ds, heq, hc, -⟩ := exists_numeral_cons v
      rw [heq, padded, List.append_assoc] at h
      cases hk : size - (c :: ds).length with
      | zero =>
        rw [hk] at h
        obtain rfl : c = 0x58 := Option.some.inj h
        exact absurd hc (by decide)
      | succ k =>
        rw [hk] at h
        exact absurd (Option.some.inj h) (by decide)
    have hrest : expect [0x0A] (0x0A :: rest) = some rest := expect_append [0x0A] rest
    rw [hnumber]
    dsimp only
    rw [expect_append, Option.bind_eq_bind, Option.bind_some, if_neg hhead, hvalue, hrest]
    rfl

/-- The lines of a dump in its text. -/
def dumpLines (width : ℕ) {size : ℕ} (hsize : 0 < size) : Framing (ℕ × Option ℕ) U8 where
  encode := lineText width size
  decode := readLine
  encode_ne_nil := by
    rintro ⟨i, _ | v⟩ h
    · simp [lineText] at h
    · simp [lineText] at h
  decode_encode := readLine_lineText width hsize

/-! ## The dump -/

namespace SndSocCodec

variable {σ : Type} {codec : SndSocCodec σ} {s : σ} {count : U32} {i n total : ℕ} {buf : Text}

theorem wordsize_pos : 0 < codec.wordsize :=
  Nat.mul_pos (minBytesNeeded_pos _) (by omega)

theorem lineLength_pos : 0 < codec.lineLength := by
  unfold lineLength
  omega

theorem Fits.regsize_pos (h : codec.Fits) : 0 < codec.regsize := Nat.mul_pos h.wordSize (by omega)

/-- The number of a register has at most as many digits as there is room for. -/
theorem Fits.lt_wordsize (h : codec.Fits) (hi : i < codec.regCacheSize) : i < 16 ^ codec.wordsize := by
  have hsize := h.cacheSize
  have hneeded := lt_minBytesNeeded (BitVec.ofNat 32 codec.regCacheSize)
  rw [BitVec.toNat_ofNat, Nat.mod_eq_of_lt (by omega)] at hneeded
  rw [wordsize, sixteen_pow]
  omega

/-- What is printed for a register is its entry in a line. -/
theorem Fits.line_eq (h : codec.Fits) (s : σ) (i : ℕ) :
    codec.line i (codec.sndSocRead s (BitVec.ofNat 32 i)) =
      lineText codec.wordsize codec.regsize (codec.entry s i) := by
  have hvalue := h.value s (BitVec.ofNat 32 i)
  unfold entry entryOf
  generalize codec.sndSocRead s (BitVec.ofNat 32 i) = v at hvalue
  unfold line SndSocCodec.regbuf
  split
  · rfl
  · rename_i hpositive
    have hlt : v.toNat < 16 ^ codec.regsize := by
      rw [regsize, sixteen_pow]
      exact hvalue hpositive
    have hlength := length_hexPrecision h.regsize_pos hlt
    have hregbuf := h.regbuf
    have hsize : (hexPrecision codec.regsize v.toNat).length < 16 := by
      rw [hlength, regsize]
      omega
    rw [length_snprintf hsize]
    rfl

theorem Fits.length_line (h : codec.Fits) (s : σ) (hi : i < codec.regCacheSize) :
    (lineText codec.wordsize codec.regsize (codec.entry s i)).length = codec.lineLength := by
  have hvalue := h.value s (BitVec.ofNat 32 i)
  unfold entry entryOf
  generalize codec.sndSocRead s (BitVec.ofNat 32 i) = v at hvalue
  have hnumber := length_hexWidth wordsize_pos (h.lt_wordsize hi)
  split
  · rename_i hnegative
    simp only [lineText, List.length_append, List.length_cons, List.length_nil, List.length_replicate, hnumber,
      lineLength]
    omega
  · rename_i hpositive
    have hlt : v.toNat < 16 ^ codec.regsize := by
      rw [regsize, sixteen_pow]
      exact hvalue hpositive
    simp only [lineText, List.length_append, List.length_cons, List.length_nil, hnumber,
      length_hexPrecision h.regsize_pos hlt, lineLength]
    omega

/-- The bytes that the lines of a dump may fill. -/
def room (count : U32) : ℕ := ((count - 1).toInt - 1).toNat

theorem room_lt (h : 0 < room count) : room count + 1 < count.toNat := by
  unfold room at *
  rw [BitVec.toInt_eq_toNat_cond] at *
  have hsub : (count - 1).toNat = (2 ^ 32 - 1 + count.toNat) % 2 ^ 32 := by simp [BitVec.toNat_sub]
  have hlt := count.isLt
  split at h <;> omega

theorem break_iff (total : ℕ) :
    (count - 1).toInt ≤ (total + codec.lineLength : ℕ) ↔ room count < total + codec.lineLength := by
  have hpos : 0 < codec.lineLength := lineLength_pos
  unfold room
  omega

/-- The registers from `i` on that can be read. -/
def readables (codec : SndSocCodec σ) (i n : ℕ) : List ℕ := (List.range' i n).filter codec.readable

/-- The loop appends the lines that still fit. -/
theorem Fits.regLoop_eq (h : codec.Fits) (n i total : ℕ) (buf : Text) (hn : i + n ≤ codec.regCacheSize)
    (htotal : total ≤ room count) :
    codec.regLoop s count n i buf total =
      let shown := (codec.readables i n).take ((room count - total) / codec.lineLength)
      (buf ++ (shown.map (codec.entry s)).flatMap (lineText codec.wordsize codec.regsize),
        total + shown.length * codec.lineLength) := by
  induction n generalizing i total buf with
  | zero => simp [regLoop, readables]
  | succ n ih =>
    unfold regLoop readables
    rw [List.range'_succ]
    split
    · rename_i hreadable
      rw [List.filter_cons_of_pos hreadable]
      dsimp only
      split
      · rename_i hbreak
        have hnone : (room count - total) / codec.lineLength = 0 := by
          have hlt := (break_iff total).mp hbreak
          exact Nat.div_eq_of_lt (by omega)
        simp [hnone]
      · rename_i hfits
        have hroom : total + codec.lineLength ≤ room count := by
          have := mt (break_iff total).mpr hfits
          omega
        have hcount : room count + 1 < count.toNat := room_lt (by
          have : 0 < codec.lineLength := lineLength_pos
          omega)
        have hlength := h.length_line s (i := i) (by omega)
        have hdiv : (room count - total) / codec.lineLength =
            (room count - (total + codec.lineLength)) / codec.lineLength + 1 := by
          rw [← Nat.add_div_right _ lineLength_pos]
          congr 1
          omega
        rw [h.line_eq, length_snprintf (by omega), hlength, ih (i + 1) _ _ (by omega) hroom, hdiv]
        dsimp only [readables]
        rw [List.take_succ_cons, List.map_cons, List.flatMap_cons, List.append_assoc, List.length_cons,
          Nat.add_mul, Nat.one_mul]
        congr 1
        omega
    · rename_i hreadable
      rw [List.filter_cons_of_neg hreadable]
      exact ih (i + 1) total buf (by omega) htotal

theorem take_readables (codec : SndSocCodec σ) (count : U32) :
    (codec.readables 0 codec.regCacheSize).take (room count / codec.lineLength) = codec.shownRegisters count := by
  unfold readables shownRegisters room
  rw [List.range_eq_range']

/-- A dump is the lines of the registers that it shows. -/
theorem Fits.socCodecRegShow_eq (h : codec.Fits) (s : σ) (count : U32) :
    socCodecRegShow (some codec) s count =
      (((codec.shownRegisters count).map (codec.entry s)).flatMap (lineText codec.wordsize codec.regsize),
        (codec.shownRegisters count).length * codec.lineLength) := by
  unfold socCodecRegShow
  dsimp only
  split
  · rename_i hzero
    simp [shownRegisters, hzero]
  · rw [h.regLoop_eq codec.regCacheSize 0 0 [] (by omega) (Nat.zero_le _)]
    dsimp only
    rw [Nat.sub_zero, take_readables, List.nil_append, Nat.zero_add]

theorem lt_of_mem_shownRegisters (hi : i ∈ codec.shownRegisters count) : i < codec.regCacheSize := by
  have hmem := List.mem_of_mem_take hi
  exact List.mem_range.mp (List.mem_filter.mp hmem).1

/-- All lines of a dump together are as long as its result says. -/
theorem Fits.length_lines (h : codec.Fits) (s : σ) (is : List ℕ) (his : ∀ i ∈ is, i < codec.regCacheSize) :
    ((is.map (codec.entry s)).flatMap (lineText codec.wordsize codec.regsize)).length =
      is.length * codec.lineLength := by
  induction is with
  | nil => simp
  | cons i is ih =>
    have hlast := ih fun j hj => his j (List.mem_cons_of_mem i hj)
    rw [List.map_cons, List.flatMap_cons, List.length_append, h.length_line s (his i List.mem_cons_self), hlast,
      List.length_cons, Nat.add_mul, Nat.one_mul, Nat.add_comm]

theorem length_shownRegisters_le : (codec.shownRegisters count).length * codec.lineLength ≤ room count := by
  have hle : (codec.shownRegisters count).length ≤ room count / codec.lineLength := by
    unfold shownRegisters
    rw [List.length_take]
    exact Nat.min_le_left _ _
  calc (codec.shownRegisters count).length * codec.lineLength
      ≤ room count / codec.lineLength * codec.lineLength := Nat.mul_le_mul_right _ hle
    _ ≤ room count := Nat.div_mul_le_self _ _

end SndSocCodec

/-! ## The files -/

/-- A read gives no byte, and leaves the file as it is. -/
theorem codecRegReadFile_none {σ : Type} (comp : Option (SndSocCodec σ)) (call : CopyCall) (count : U32)
    (f : RegFile σ) : (codecRegReadFile comp call count f).1 ≤ 0 ∧ (codecRegReadFile comp call count f).2 = f := by
  unfold codecRegReadFile
  split
  · exact ⟨Int.negSucc_le_zero 21, rfl⟩
  split
  · exact ⟨Int.negSucc_le_zero 11, rfl⟩
  dsimp only
  generalize (if call.accessOk then call.notCopied.toNat else (socCodecRegShow comp f.regs count).2) = r
  split
  · exact ⟨Int.negSucc_le_zero 13, rfl⟩
  · rename_i hr
    obtain rfl : r = 0 := not_not.mp hr
    refine ⟨Int.le_refl 0, ?_⟩
    show { f with ppos := f.ppos + 0#64 } = f
    rw [BitVec.add_zero]

/-- What a call does to the registers. -/
theorem regs_next {σ : Type} (codec : SndSocCodec σ) (f : RegFile σ) (op : RegFileOp) :
    (f.next codec op).regs = match op.command with
      | none => f.regs
      | some (reg, val) => codec.sndSocWrite f.regs reg val := by
  cases op with
  | read call count =>
    have hsame := (codecRegReadFile_none (some codec) call count f).2
    exact congrArg RegFile.regs hsame
  | write call userbuf =>
    unfold RegFile.next RegFileOp.command codecRegWriteFile
    dsimp only
    have hlen : userbuf.take (if 31 ≤ userbuf.length then 31 else userbuf.length) = userbuf.take 31 := by
      split
      · rfl
      · rename_i hshort
        rw [List.take_length, List.take_of_length_le (by omega)]
    rw [hlen]
    by_cases hcopied : call.accessOk ∧ call.notCopied = 0
    · have hfails : ¬ (¬ call.accessOk ∨ call.notCopied ≠ 0) := by
        rintro (haccess | hleft)
        · exact haccess hcopied.1
        · exact hleft hcopied.2
      rw [if_pos hcopied, if_neg hfails]
      cases regCommand (cString (userbuf.take 31)) <;> rfl
    · have hfails : ¬ call.accessOk ∨ call.notCopied ≠ 0 := by
        by_cases haccess : call.accessOk
        · exact Or.inr fun hzero => hcopied ⟨haccess, hzero⟩
        · exact Or.inl haccess
      rw [if_neg hcopied, if_pos hfails]

/-- A register holds what was written to it last. -/
theorem read_afterCalls {σ : Type} {codec : SndSocCodec σ} {keep : U32 → U32 → U32} (hkeeps : codec.Keeps keep)
    {i : ℕ} (hi : i < codec.regCacheSize) (f : RegFile σ) (ops : List RegFileOp) :
    codec.sndSocRead (Run.after (RegFile.next codec) f ops).regs (BitVec.ofNat 32 i) =
      Run.latest (RegFileOp.keptAt keep i) (codec.sndSocRead f.regs (BitVec.ofNat 32 i)) ops := by
  refine Run.read_after (fun f : RegFile σ => codec.sndSocRead f.regs (BitVec.ofNat 32 i)) ?_ f ops
  intro f op
  rw [regs_next]
  unfold RegFileOp.keptAt
  cases op.command with
  | none => rfl
  | some c =>
    obtain ⟨reg, val⟩ := c
    dsimp only
    rw [hkeeps f.regs reg val i hi, Option.bind_some]
    split <;> rfl

/-! ## Commands -/

theorem regCommand_commandText (reg val : U32) : regCommand (commandText reg val) = some (reg, val) := by
  have hvalue : skipSpaces (0x20 :: (numeral 16 val.toNat ++ [0x0A])) = numeral 16 val.toNat ++ [0x0A] :=
    skipSpaces_numeral val.toNat [0x0A]
  unfold regCommand commandText
  simp only [List.append_assoc, List.cons_append, List.nil_append]
  rw [skipSpaces_numeral, simpleStrtoul_numeral]
  dsimp only
  rw [hvalue, kstrtoul_numeral]
  rfl

/-- A register and a value of 32 bits fit into the buffer. -/
theorem length_commandText (reg val : U32) : (commandText reg val).length ≤ 31 := by
  have hreg := Numerals.length_numeral_le (b := 16) (k := 8) (by omega) (by omega) reg.isLt
  have hval := Numerals.length_numeral_le (b := 16) (k := 8) (by omega) (by omega) val.isLt
  unfold commandText
  simp only [List.length_append, List.length_cons, List.length_nil]
  omega

/-- The text `"%x %x\n"` writes the value to the register. -/
theorem command_commandText {call : CopyCall} (hcopied : call.accessOk ∧ call.notCopied = 0) (reg val : U32) :
    (RegFileOp.write call (commandText reg val)).command = some (reg, val) := by
  have hbytes : ∀ c ∈ commandText reg val, c ≠ 0 := by
    intro c hc
    unfold commandText at hc
    simp only [List.mem_append, List.mem_singleton] at hc
    rcases hc with ((hc | rfl) | hc) | rfl
    · exact ne_zero_of_mem_numeral hc
    · decide
    · exact ne_zero_of_mem_numeral hc
    · decide
  unfold RegFileOp.command
  dsimp only
  rw [if_pos hcopied, List.take_of_length_le (length_commandText reg val), cString_eq_self hbytes,
    regCommand_commandText]

/-- The text of a whole dump fits into the buffer with its zero. -/
theorem dump_fits {σ : Type} {codec : SndSocCodec σ} (h : codec.Fits) (s : σ) (count : U32) :
    let dump := socCodecRegShow (some codec) s count
    dump.2 = dump.1.length ∧ (dump.1 = [] ∨ dump.1.length < count.toNat) := by
  dsimp only
  have hlength := h.length_lines s (codec.shownRegisters count) fun i hi => SndSocCodec.lt_of_mem_shownRegisters hi
  have hroom : (codec.shownRegisters count).length * codec.lineLength ≤ SndSocCodec.room count :=
    SndSocCodec.length_shownRegisters_le
  rw [h.socCodecRegShow_eq]
  refine ⟨hlength.symm, ?_⟩
  dsimp only
  by_cases hzero : SndSocCodec.room count = 0
  · left
    exact List.eq_nil_of_length_eq_zero (by omega)
  · right
    have hlt : SndSocCodec.room count + 1 < count.toNat := SndSocCodec.room_lt (by omega)
    omega

/-- After any calls of the two files a dump is read back as the registers that it shows, each with the value that a
    call wrote to it last; a call with the text `"%x %x\n"` writes, and no call reads anything or moves the
    position. -/
theorem codecReg_shows_last_written {σ : Type} {codec : SndSocCodec σ} {keep : U32 → U32 → U32} (h : codec.Fits)
    (hkeeps : codec.Keeps keep) (f : RegFile σ) (ops : List RegFileOp) (count : U32) :
    let f' := Run.after (RegFile.next codec) f ops
    let dump := socCodecRegShow (some codec) f'.regs count
    (dumpLines codec.wordsize h.regsize_pos).decodeAll dump.1 =
        some ((codec.shownRegisters count).map fun i =>
          entryOf i (Run.latest (RegFileOp.keptAt keep i) (codec.sndSocRead f.regs (BitVec.ofNat 32 i)) ops)) ∧
      (dump.2 = dump.1.length ∧ (dump.1 = [] ∨ dump.1.length < count.toNat)) ∧
      (∀ call reg val, call.accessOk ∧ call.notCopied = 0 →
        (RegFileOp.write call (commandText reg val)).command = some (reg, val)) ∧
      ∀ call count, (codecRegReadFile (some codec) call count f').1 ≤ 0 ∧
        (codecRegReadFile (some codec) call count f').2 = f' := by
  dsimp only
  refine ⟨?_, dump_fits h _ count, fun call reg val hcopied => command_commandText hcopied reg val,
    fun call count => codecRegReadFile_none _ call count _⟩
  have hlast : (codec.shownRegisters count).map (codec.entry (Run.after (RegFile.next codec) f ops).regs) =
      (codec.shownRegisters count).map fun i =>
        entryOf i (Run.latest (RegFileOp.keptAt keep i) (codec.sndSocRead f.regs (BitVec.ofNat 32 i)) ops) := by
    refine List.map_congr_left fun i hi => ?_
    exact congrArg (entryOf i) (read_afterCalls hkeeps (SndSocCodec.lt_of_mem_shownRegisters hi) f ops)
  rw [h.socCodecRegShow_eq, ← hlast]
  exact (dumpLines codec.wordsize h.regsize_pos).decodeAll_flatMap _

theorem fits_registerBank : registerBank.Fits where
  cacheSize := by decide
  wordSize := by decide
  regbuf := by decide
  value s reg _ := by
    show (s reg &&& 0xFFFF).toNat < 256 ^ 2
    rw [BitVec.toNat_and]
    exact Nat.lt_of_le_of_lt Nat.and_le_right (by decide)

theorem keeps_registerBank : registerBank.Keeps fun _ val => val &&& 0xFFFF := by
  intro s reg val i _
  unfold registerBank
  dsimp only
  by_cases hreg : reg = BitVec.ofNat 32 i
  · rw [if_pos hreg, hreg, Function.update_self]
  · rw [if_neg hreg, Function.update_of_ne (Ne.symm hreg)]

theorem codecReg_shows_last_written_bank :
    (dumpLines registerBank.wordsize fits_registerBank.regsize_pos).decodeAll
        (socCodecRegShow (some registerBank)
          (Run.after (RegFile.next registerBank) ⟨fun _ => 0, 0, false⟩
            [.write ⟨true, true, 0⟩ (ascii "1 12345"), .write ⟨true, true, 0⟩ (ascii "1 zz")]).regs 24).1 =
      some [(0, some 0), (1, some 0x2345)] := by
  rw [(codecReg_shows_last_written fits_registerBank keeps_registerBank _ _ _).1]
  decide

end MtcDrivers
