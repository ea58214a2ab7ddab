import MtcDrivers.Radio.Block

/-!
# The bit stream

The words that case 1 of `radio_cmd_work` processes for front ends other than 2 and 4, seen as one stream
of bits, with the passes of the synchroniser over it.
-/

namespace MtcDrivers

open ShiftRegister

/-- What one pass saw, took and called. -/
structure Pass where
  window : BitVec 26
  /-- `sta_rds_cache[0]` before the pass. -/
  before : U8
  /-- `sta_rds_cache[0]` after the pass. -/
  after : U8
  /-- The number of bits taken. -/
  taken : ℕ
  /-- The number of calls of `rds_process`. -/
  calls : ℕ
deriving DecidableEq, Repr

namespace Pass

/-- The pass took the 26 bits of a window with the syndrome of the block. -/
def Took (p : Pass) (x : RdsBlock) : Prop := windowTag p.window = x.tag ∧ p.taken = 26

/-- The number of bits that the passes took. -/
def total (ps : List Pass) : ℕ := (ps.map taken).sum

/-- The state after the passes. -/
def stateAfter (ps : List Pass) : U8 := (ps.getLast?.map after).getD 0

/-- The rule of a pass: the block that is expected in the state before is taken whole, and only block D
    is processed; of any other window one bit is dropped, and the state is 0. Block B also leads to
    state 0 where the traffic announcement has ended. -/
inductive Rule (p : Pass) : Prop where
  | took (x : RdsBlock) (htag : windowTag p.window = x.tag) (hstate : x.ExpectedIn p.before)
      (htaken : p.taken = 26) (hafter : p.after = x.next ∨ x = .b ∧ p.after = 0)
      (hcalls : p.calls = if x = .d then 1 else 0)
  | dropped (hother : ∀ x : RdsBlock, windowTag p.window = x.tag → ¬ x.ExpectedIn p.before)
      (htaken : p.taken = 1) (hafter : p.after = 0) (hcalls : p.calls = 0)

end Pass

namespace Radio

/-- The pass that the loop makes in this state. -/
def passOf (w : RadioWork) (v12 : U8) (r : Radio) : Pass where
  window := r.window
  before := r.staRdsCache0
  after := (rdsPass false w v12 r).2.staRdsCache0
  taken := v12.toNat - (rdsPass false w v12 r).1.toNat
  calls := (rdsPass false w v12 r).2.processCalls - r.processCalls

/-- The passes of the loop in their order. -/
def rdsTrace (w : RadioWork) (v12 : U8) (r : Radio) : List Pass :=
  if _h : v12 ≤ 0x19 then []
  else passOf w v12 r :: rdsTrace w (rdsPass false w v12 r).1 (rdsPass false w v12 r).2
termination_by v12.toNat
decreasing_by exact rdsPass_lt false w r _h

end Radio

/-- The module with the bits that it has processed and the passes that it has made. -/
structure Stream where
  radio : Radio
  bits : List Bool
  passes : List Pass

namespace Stream

/-- A word is delivered; it is processed if the station is valid. -/
def deliver (w : RadioWork) (s : Stream) : Stream where
  radio := s.radio.radioCmdWork w
  bits := if s.radio.staValid = 0 then s.bits else s.bits ++ msbFirst w.dword4
  passes := if s.radio.staValid = 0 then s.passes
    else s.passes ++ Radio.rdsTrace w (s.radio.gap13_7 + 32) (s.radio.rdsTake w.dword4)

/-- The runs of the module for a front end other than 2 and 4. -/
inductive Reach : Stream → Prop where
  | start {r : Radio} (hcount : r.gap13_7 = 0) (hacc : r.gap14 = 0) (hstate : r.staRdsCache0 = 0)
      (hcust : r.cust24 = false) (hcalls : r.processCalls = 0) : Reach ⟨r, [], []⟩
  | word {s : Stream} (w : RadioWork) (hcmd : w.cmd = 1) (h : Reach s) : Reach (s.deliver w)
  /-- The rest of the driver may reset the synchroniser, as `sta_invalid` does, and it changes other
      fields. -/
  | other {s : Stream} {r : Radio} (h : Reach s) (hcount : r.gap13_7 = s.radio.gap13_7)
      (hacc : r.gap14 = s.radio.gap14)
      (hstate : r.staRdsCache0 = s.radio.staRdsCache0 ∨ r.staRdsCache0 = 0)
      (hcust : r.cust24 = false) (hcalls : r.processCalls = s.radio.processCalls) :
      Reach { s with radio := r }

/-- The module is in step with the stream between two work items. -/
structure Synchronised (s : Stream) : Prop where
  pending : s.radio.gap13_7.toNat ≤ 25
  /-- Every processed bit was taken once or is pending. -/
  taken : Pass.total s.passes + s.radio.gap13_7.toNat = s.bits.length
  /-- The accumulator holds the pending bits, left-aligned. -/
  accumulator : msbFirst s.radio.gap14 =
    s.bits.drop (Pass.total s.passes) ++ List.replicate (64 - s.radio.gap13_7.toNat) false
  /-- A pass sees the window behind the bits that were taken before. -/
  windows : ∀ pre p post, s.passes = pre ++ p :: post →
    msbFirst p.window = (s.bits.drop (Pass.total pre)).take 26
  rules : ∀ p ∈ s.passes, p.Rule
  /-- Between two passes the synchroniser keeps its state or is reset. -/
  states : ∀ pre p post, s.passes = pre ++ p :: post →
    p.before = Pass.stateAfter pre ∨ p.before = 0
  /-- A call of `rds_process` comes after four consecutive windows. -/
  group : ∀ pre p post, s.passes = pre ++ p :: post → p.calls ≠ 0 →
    p.calls = 1 ∧ p.Took .d ∧ ∃ first pa pb pc, pre = first ++ [pa, pb, pc] ∧
      pa.Took .a ∧ pb.Took .b ∧ (pc.Took .c ∨ pc.Took .cAlt)
  calls : s.radio.processCalls = (s.passes.map Pass.calls).sum

end Stream

end MtcDrivers
