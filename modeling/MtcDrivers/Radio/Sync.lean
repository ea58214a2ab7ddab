import MtcDrivers.Radio.Process

/-!
# The block synchroniser

The three ways in which RDS data reaches `rds_process`: `radio_cmd_work` takes tagged words (front ends
2 and 4) or a raw bit stream in its case 1, tagged 24-bit words in its case 2, and words with a selector
in its case 3. Each way has its own copy of the four-state synchroniser over `sta_rds_cache[0]`.
-/

namespace MtcDrivers

/-- The masks of the accumulator bits and what they contribute to the syndrome. -/
def syndromeTable : List (U32 × U32) := [
  (0x40, 0x31B), (0x80, 0x38F), (0x100, 0x2A7), (0x200, 0xF7), (0x400, 0x1EE), (0x800, 0x3DC),
  (0x1000, 0x201), (0x2000, 0x1BB), (0x4000, 0x376), (0x8000, 0x355), (0x10000, 0x313),
  (0x20000, 0x39F), (0x40000, 0x287), (0x80000, 0xB7), (0x100000, 0x16E), (0x200000, 0x2DC)]

/-- The syndrome `v1` that `radio_cmd_work` computes. -/
def syndrome (crcSrc : U32) : U32 :=
  syndromeTable.foldl (fun v1 p => if crcSrc &&& p.1 ≠ 0 then v1 ^^^ p.2 else v1) (crcSrc >>> 22)

/-- `struct mtc_radio_work`, with the local `v1` of its run, which the tags from 4 on leave unset. -/
structure RadioWork where
  cmd : U32
  dword4 : U32
  dword8 : U32
  v1 : U32
deriving DecidableEq, Repr

namespace Radio

/-- The TA condition of block B. -/
def staysTuned (r : Radio) (psn : U16) (psBit : Bool) : Bool :=
  r.hasTaWork ≠ 1 || (psn = r.u16_1 && psBit)

/-- Block B of `radio_rds_pass`, in state 1. -/
def rdsBlockB (word : U16) (r : Radio) : Radio :=
  let psBit := (word >>> 10) &&& 1 ≠ 0
  let r := { r with gap13_0 := word, staRdsCache0 := 2 }
  let r := r.mapS2 fun s =>
    ((s.putFront16 0 r.u16_2).putFront 172 (if word &&& 0x400 ≠ 0 then 1 else 0)).putFront 12
      (((word >>> 5) &&& 0x1F).setWidth 8)
  if r.staysTuned (u16At (r.s2.psnData 0) (r.s2.psnData 1)) psBit then r.rdsSendSta else r.taBack

/-- The ways of `radio_rds_pass` to `LABEL_96`; `none` where it goes to `LABEL_98`. -/
def rdsAccept (v1 bword : U32) (r : Radio) : Option Radio :=
  let word : U16 := bword.setWidth 16
  if v1 = 972 then
    if r.staRdsCache0 = 2 then some { r with staRdsCache0 := 3, gap13_2 := word } else none
  else if v1 > 0x3CC then
    if v1 = 980 then if r.staRdsCache0 ≠ 1 then none else some (r.rdsBlockB word)
    else if v1 ≠ 984 then none
    else some { r with u16_2 := word, staRdsCache0 := 1 }
  else if v1 = 600 then
    if r.staRdsCache0 ≠ 3 then none else some { r with gap13_4 := word, staRdsCache0 := 0 }.rdsProcess
  else if v1 = 604 then
    if r.staRdsCache0 = 2 then some { r with staRdsCache0 := 3, gap13_2 := word } else none
  else none

/-- `radio_rds_pass`, with the new value of `*v12p`. -/
def radioRdsPass (v12 : U8) (v1 bword : U32) (r : Radio) : U8 × Radio :=
  match r.rdsAccept v1 bword with
  | some r => (v12 - 26, { r with gap13_7 := v12 - 26, gap14 := r.gap14 <<< 26 })
  | none => (v12 - 1, { r with staRdsCache0 := 0, gap13_7 := v12 - 1, gap14 := r.gap14 * 2 })

/-- `crc_src`, the upper half of the accumulator. -/
def crcSrc (r : Radio) : U32 := (r.gap14 >>> 32).setWidth 32

/-- The syndrome of a tag: `v1` in the branch of the front ends 2 and 4. -/
def tagSyndrome (w : RadioWork) : U32 :=
  match ((w.dword4 >>> 16) &&& 0xFF).toNat with
  | 0 => 984
  | 1 => 980
  | 2 => 604
  | 3 => 600
  | _ => w.v1

/-- One pass of the loop in case 1 of `radio_cmd_work`. -/
def rdsPass (cust24 : Bool) (w : RadioWork) (v12 : U8) (r : Radio) : U8 × Radio :=
  if cust24 then radioRdsPass v12 (tagSyndrome w) (w.dword4 &&& 0xFFFF) r
  else radioRdsPass v12 (syndrome r.crcSrc) (((r.gap14 >>> 48).setWidth 8).setWidth 32) r

theorem rdsPass_fst (cust24 : Bool) (w : RadioWork) (v12 : U8) (r : Radio) :
    (rdsPass cust24 w v12 r).1 = v12 - 26 ∨ (rdsPass cust24 w v12 r).1 = v12 - 1 := by
  have hpass : ∀ v1 bword,
      (radioRdsPass v12 v1 bword r).1 = v12 - 26 ∨ (radioRdsPass v12 v1 bword r).1 = v12 - 1 := by
    intro v1 bword
    unfold radioRdsPass
    cases r.rdsAccept v1 bword with
    | none => exact .inr rfl
    | some r' => exact .inl rfl
  unfold rdsPass
  cases cust24 with
  | false => exact hpass _ _
  | true => exact hpass _ _

/-- Every pass takes bits away. -/
theorem rdsPass_lt (cust24 : Bool) (w : RadioWork) {v12 : U8} (r : Radio) (h : ¬ v12 ≤ 0x19) :
    (rdsPass cust24 w v12 r).1.toNat < v12.toNat := by
  have h26 : (26 : U8) ≤ v12 := by
    have hlt := BitVec.lt_def.mp (BitVec.not_le.mp h)
    exact BitVec.le_def.mpr hlt
  have h1 : (1 : U8) ≤ v12 := BitVec.le_trans (by decide) h26
  have hpos : 0 < v12.toNat := Nat.lt_of_lt_of_le (by decide) (BitVec.le_def.mp h26)
  rcases rdsPass_fst cust24 w v12 r with hf | hf
  · rw [hf, BitVec.toNat_sub_of_le h26]
    exact Nat.sub_lt hpos (by decide)
  · rw [hf, BitVec.toNat_sub_of_le h1]
    exact Nat.sub_lt hpos (by decide)

/-- The loop of case 1 of `radio_cmd_work`. -/
def rdsLoop (cust24 : Bool) (w : RadioWork) (v12 : U8) (r : Radio) : Radio :=
  if _h : v12 ≤ 0x19 then r
  else rdsLoop cust24 w (rdsPass cust24 w v12 r).1 (rdsPass cust24 w v12 r).2
termination_by v12.toNat
decreasing_by exact rdsPass_lt cust24 w r _h

/-- The front ends that deliver tagged words. -/
def cust24 (r : Radio) : Bool := r.cfgRadio = 2 || r.cfgRadio = 4

/-- The splice of a new word behind the pending bits. -/
def rdsSplice (data : U32) (shift : U8) : BitVec 64 :=
  if shift ≠ 0 then
    (data >>> shift.toNat).setWidth 64 <<< 32 ||| (data <<< (32 - shift.toNat)).setWidth 64
  else data.setWidth 64 <<< 32

/-- The word enters the accumulator. -/
def rdsTake (data : U32) (r : Radio) : Radio :=
  { r with gap13_7 := r.gap13_7 + 32, gap14 := r.gap14 ||| rdsSplice data r.gap13_7 }

/-- Case 1 of `radio_cmd_work`. -/
def radioCmdWork1 (w : RadioWork) (r : Radio) : Radio :=
  if r.staValid = 0 then r
  else
    let r1 := r.rdsTake w.dword4
    if r.cust24 then rdsLoop true w 26 { r1 with gap13_7 := 26 }
    else rdsLoop false w r1.gap13_7 r1

/-- The stores of block B through `dest` in the cases 2 and 3. -/
def rdsDest (word : U16) (r : Radio) : Radio :=
  let pti : U8 := ((word >>> 5) &&& 0x1F).setWidth 8
  let ps : U8 := if word &&& 0x400 ≠ 0 then 1 else 0
  if r.hasTaWork ≠ 0 ∨ r.hasAfWork ≠ 0 then
    { r with rdsAltBlock := ⟨r.u16_2, pti, ps⟩, staRdsCache0 := 2 }
  else
    { r.mapS2 fun s => ((s.putFront16 0 r.u16_2).putFront 12 pti).putFront 172 ps with
      staRdsCache0 := 2 }

/-- Block B of the cases 2 and 3, in state 1. -/
def rdsWordB (word : U16) (r : Radio) : Radio :=
  let r := { r with gap13_0 := word }.rdsDest word
  if r.staysTuned r.u16_2 ((word >>> 10) &&& 1 ≠ 0) then r.rdsSendSta else r.taBack

/-- The inner `switch` of case 2 of `radio_cmd_work`; every way leads on to `case2_reset`. -/
def case2Switch (grp : U8) (word : U16) (r : Radio) : Radio :=
  if grp ≠ 0 then
    if grp = 1 then if r.staRdsCache0 ≠ 1 then r else r.rdsWordB word
    else if grp = 2 then
      if r.staRdsCache0 ≠ 2 then r else { r with staRdsCache0 := 3, gap13_2 := word }
    else if grp = 3 then
      if r.staRdsCache0 ≠ 3 then r else { r with staRdsCache0 := 0, gap13_4 := word }.rdsProcess
    else { r with staRdsCache0 := 0 }
  else { r with staRdsCache0 := 1, u16_2 := word }

/-- Case 2 of `radio_cmd_work`: the `break`s of the inner `switch` end at `case2_reset`. -/
def radioCmdWork2 (w : RadioWork) (r : Radio) : Radio :=
  let word : U16 := w.dword4.setWidth 16
  let grp : U8 := (w.dword4 >>> 16).setWidth 8
  { (if r.staValid ≠ 0 then r.case2Switch grp word else r) with staRdsCache0 := 0 }

/-- `case3_reset` -/
def case3Reset (r : Radio) : Radio := { r with staRdsCache0 := 0 }

/-- Case 3 of `radio_cmd_work`: selector 0 and every block out of order end at `case3_reset`. -/
def radioCmdWork3 (w : RadioWork) (r : Radio) : Radio :=
  let word : U16 := w.dword4.setWidth 16
  let s : U8 := w.dword8.setWidth 8
  if r.staValid ≠ 0 then
    if s ≠ 0 then
      if s ≠ 1 then
        if s ≠ 2 then
          if s ≠ 3 then r.case3Reset
          else if r.staRdsCache0 = 3 then
            { r with staRdsCache0 := 0, gap13_4 := word }.rdsProcess
          else r.case3Reset
        else if r.staRdsCache0 = 2 then { r with staRdsCache0 := 3, gap13_2 := word }
        else r.case3Reset
      else if r.staRdsCache0 ≠ 1 then r.case3Reset
      else r.rdsWordB word
    else { r with staRdsCache0 := 1, u16_2 := word }.case3Reset
  else r.case3Reset

/-- `radio_cmd_work` -/
def radioCmdWork (w : RadioWork) (r : Radio) : Radio :=
  match w.cmd.toNat with
  | 1 => r.radioCmdWork1 w
  | 2 => r.radioCmdWork2 w
  | 3 => r.radioCmdWork3 w
  | 4 => if r.staValid ≠ 0 then r.statusCheck (w.dword4.setWidth 8) else r
  | _ => r

end Radio

end MtcDrivers
