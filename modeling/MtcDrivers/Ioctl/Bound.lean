import MtcDrivers.Ioctl.Answer

/-!
# What the list getters write

The list getters append number after number with `sprintf` at `strlen` of `mtc_sta_buf`. Here the
buffer comes with the indices of the bytes that have been written, the terminating zeros included.
-/

namespace MtcDrivers

/-- The size of `mtc_sta_buf`. -/
def staBufSize : ℕ := 512

/-- `mtc_sta_buf` and whatever is behind it. -/
structure StaBuf where
  bytes : AnswerBuf
  /-- The indices of all writes, the latest last. -/
  written : List ℕ

namespace StaBuf

/-- A buffer that holds the empty text, before any write. -/
def empty (rest : List U8) : StaBuf := ⟨0 :: rest, []⟩

/-- `strlen(buf)` -/
def strlen (m : StaBuf) : ℕ := (cString m.bytes).length

/-- `sprintf(&buf[strlen(buf)], f, v)` -/
def sprintf (f : Format) (v : ℕ) (m : StaBuf) : StaBuf :=
  ⟨m.bytes.store m.strlen (f.print v),
    m.written ++ List.range' m.strlen ((f.print v).length + 1)⟩

/-- The loop of the list getters: `printInts`, call by call. -/
def sprintfInts (each last : Format) : List ℕ → StaBuf → StaBuf
  | [], m => m
  | [v], m => m.sprintf last v
  | v :: vs, m => sprintfInts each last vs (m.sprintf each v)

/-- Every write is inside the buffer. -/
def Inside (m : StaBuf) : Prop := ∀ i ∈ m.written, i < staBufSize

end StaBuf

/-- The getters of the list keys. -/
inductive ListGetter where
  | cfgKeyAssign
  | cfgIrAssign
  | cfgSteerAssign
  | cfgConfig
deriving DecidableEq, Repr

namespace ListGetter

def key : ListGetter → Text
  | cfgKeyAssign => ascii "cfg_key_assign"
  | cfgIrAssign => ascii "cfg_ir_assign"
  | cfgSteerAssign => ascii "cfg_steer_assign"
  | cfgConfig => ascii "cfg_config"

/-- The numbers of the answer (`v108`, `v119`, `v132`, `v284`). -/
def numbers : ListGetter → ConfigData → List ℕ
  | cfgKeyAssign, c => (List.range 25).map (keyAssignAt c)
  | cfgIrAssign, c => (List.range 60).map (irAssignAt c)
  | cfgSteerAssign, c => (List.range 50).map (steerAssignAt c)
  | cfgConfig, c => (List.range 512).map fun i => (c.byte i).toNat

/-- The format of all numbers but the last one: that of the source, or with a comma behind `%d`. -/
def each (g : ListGetter) (separated : Bool) : Format :=
  (match g with
    | cfgConfig => strFmtDComma3
    | _ => strFmtDComma2) ++ if separated then [.lit comma] else []

def last : ListGetter → Format
  | cfgKeyAssign | cfgIrAssign => strFmtD4
  | cfgSteerAssign | cfgConfig => strFmtD3

/-- The code of the getter. -/
def run (g : ListGetter) (separated : Bool) (c : ConfigData) (m : StaBuf) : StaBuf :=
  m.sprintfInts (g.each separated) g.last (g.numbers c)

end ListGetter

end MtcDrivers
