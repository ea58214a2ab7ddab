import MtcDrivers.Radio.State

/-!
# Stations and groups

What the radio module does with the decoded data: the messages to the application, the way back from a
traffic announcement, and `rds_process`, which works on one complete group.
-/

namespace MtcDrivers

/-- The two bytes of a `u16` in memory, read back. -/
def u16At (lo hi : U8) : U16 := lo.setWidth 16 ||| hi.setWidth 16 <<< 8

namespace Radio

/-- `sta_invalid` -/
def staInvalid (r : Radio) : Radio :=
  { r.emit .cancelStaValid with staRdsCache0 := 0, staValid := 0 }.emit .scheduleStaValid

/-- `work_sta_valid` -/
def workStaValid (r : Radio) : Radio := { r with staValid := 1 }

/-- `rds_send_sta` -/
def rdsSendSta (r : Radio) : Radio :=
  let cmdData := [r.s2.psnData 1, r.s2.psnData 0, r.s2.rdsPti 0, r.s2.rdsPsnBuf 156, r.s2.rdsPsnBuf 157]
  if cmdData.take 4 = r.staRdsCache4 then r.emit (.vsSend 0x98 cmdData)
  else { r with staRdsCache4 := cmdData.take 4 }

/-- `rds_send_sta_empty` -/
def rdsSendStaEmpty (r : Radio) : Radio := r.emit (.vsSend 0x98 [0, 0, 0, 0, 0])

/-- The tuning word `v5` of `Radio_Set_Frequency_com`; `none` where it returns early. The differences are
    32-bit and the comparisons signed. -/
def tuningWord (freq : U32) : Option U32 :=
  if (1576000 : U32).slt (freq - 144000) then
    if (32000000 : U32).slt (freq - 76000000) then
      if (freq - 2940000).sle 15195000 then some (freq.sdiv 5000 ||| 0x4000)
      else if (9000000 : U32).slt (freq - 65000000) then none
      else some (freq.sdiv 10000 ||| 0x6000)
    else some (freq.sdiv 50000 ||| 0x2000)
  else some (freq.sdiv 1000)

/-- `Radio_Set_Frequency_com` -/
def radioSetFrequencyCom (freq : U32) (a2 : U32) (r : Radio) : Radio :=
  let r := r.staInvalid
  match tuningWord freq with
  | none => r
  | some v5 =>
    let r := { r with gap11_1 := 0, gap11_2 := 0 }
    let r := r.emit (.armSendMulti (if a2 ≠ 0 then 0x9208 else 0x9200)
      [(v5 >>> 8).setWidth 8, v5.setWidth 8])
    { r.rdsSendStaEmpty with radioRdsFlag := 0, reserved18 := 0 }

/-- `Radio_Set_Mute` -/
def radioSetMute (mute : Bool) (r : Radio) : Radio :=
  r.emit (.armSendMulti (if mute then 0x9204 else 0x9205) [])

/-- `ta_back` -/
def taBack (r : Radio) : Radio :=
  let r :=
    if r.hasTaWork = 1 then
      let r := { r with hasTaWork := 0 }.staInvalid
      let r := { r with radioFreq := r.curFreq }
      (r.radioSetFrequencyCom r.curFreq 0).radioSetMute false
    else if r.hasTaWork = 2 then { r with hasTaWork := 0 }
    else r
  (r.emit (.vsSend 155 [0])).emit (.audioAddWork 25 1)

/-- `rdslost_work` -/
def rdslostWork (r : Radio) : Radio := if r.hasTaWork ≠ 0 then r.taBack else r

/-- `work_ta` -/
def workTa (r : Radio) : Radio :=
  if r.hasTaWork = 1 then
    if r.rdsAltBlock.psnPair = r.u16_1 then r.radioSetMute false else r.taBack
  else r

/-- `rds_send_psn` -/
def rdsSendPsn (r : Radio) : Radio :=
  let head := Function.update (Function.update r.psnData 0 (r.s2.psnData 1)) 1 (r.s2.psnData 0)
  let r := { r with psnData := head }
  if (List.range 8).map (fun i => r.psnData (2 + i)) = (List.range 8).map (fun i => r.s2.psnData (2 + i))
  then r.emit (.vsSend 0x99 ((List.range 10).map r.psnData))
  else { r with psnData := fun i => if 2 ≤ i ∧ i < 10 then r.s2.psnData i else r.psnData i }

/-- `rds_send_rt`: the text at `rds_psn_buf[162]` with its terminating zero. -/
def rdsSendRt (r : Radio) : Radio :=
  let text := ((List.range (1116 - 162)).map fun i => r.s2.rdsPsnBuf (162 + i)).takeWhile (· ≠ 0)
  r.emit (.vsSend 0x9C (r.s2.psnData 1 :: r.s2.psnData 0 :: (text ++ [0])))

end Radio

/-! ## Alternative frequencies -/

/-- The search of `rds_af_add` from `pos` on, in a list that starts at offset `base`: the position
    behind the last entry, or `none` if the entry is there or the list is full. -/
def afSearch (front : ℕ → U8) (base : ℕ) (af : U16) : ℕ → ℕ → Option ℕ
  | 0, _ => none
  | fuel + 1, pos =>
    if front (base + pos + 1) = 0 then some (pos + 1)
    else if af = (front (base + pos + 1)).setWidth 16 ∨ pos + 1 = 25 then none
    else afSearch front base af fuel (pos + 1)

/-- `rds_af_add`; the search stops at position 25 at the latest. -/
def rdsAfAdd (base : ℕ) (af : U16) (s : RadioStruct2) : RadioStruct2 :=
  if af = 0 then s
  else
    match afSearch s.front base af 26 0 with
    | none => s
    | some pos => (s.putFront (base + pos) (af.setWidth 8)).putFront base (BitVec.ofNat 8 pos)

/-- Where `rds_af_process` finds its list: `&radio._s2.rds_pti[2]`. -/
def afBase : ℕ := 14

/-- `LABEL_30` of `rds_af_process`: store the word behind the pairs seen so far. -/
def afStore (v4 : U16) (s : RadioStruct2) : RadioStruct2 :=
  let v12 := s.front (afBase + 154)
  (s.putFront16 (afBase + 2 * v12.toNat + 82) v4).putFront (afBase + 154)
    (if v12 > 0x21 then 0 else v12 + 1)

/-- A frequency code, or zero if it is none. -/
def afCode (c : U16) : U16 := if (c - 1).setWidth 8 > (0xCB : U8) then 0 else c

/-- The two frequencies of a pair enter the list. -/
def afAddBoth (a b : U16) (s : RadioStruct2) : RadioStruct2 :=
  rdsAfAdd afBase b (rdsAfAdd afBase a s)

/-- `rds_af_process`, for `hi` and `word` as `rds_process` passes them. -/
def rdsAfProcess (hi : U8) (word : U16) (s : RadioStruct2) : RadioStruct2 :=
  let v4 := word ||| hi.setWidth 16 <<< 8
  let u16 (i : ℕ) := u16At (s.front (afBase + i)) (s.front (afBase + i + 1))
  if hi = 250 then s
  else
    let a2 := afCode (hi.setWidth 16)
    let a3 := afCode word
    if a3 ||| a2 = 0 then s
    else if (List.range 35).any (fun k => u16 (82 + 2 * k) = v4) then
      -- the word was seen before
      if u16 156 ≠ 0 then
        if u16 156 = 1 ∨ (u16 156 = 2 ∧ (a2 = 0 ∨ a2 < a3 ∨ a3 = 0)) then
          afStore v4 (afAddBoth a2 a3 s)
        else afStore v4 s
      else if u16 152 = 0 then afStore v4 (s.putFront16 (afBase + 152) v4)
      else if v4 = u16 152 then afStore v4 s
      else
        let v9 := afCode (u16 152 >>> 8)
        let v8 := afCode (u16 152 &&& 0xFF)
        if (a2 ≠ 0 ∧ (a2 = v9 ∨ a2 = v8)) ∨ a3 ≠ 0 then
          let s := s.putFront16 (afBase + 156) 2
          let s := if a2 = 0 ∨ a2 < a3 ∨ a3 = 0 then afAddBoth a2 a3 s else s
          if ¬ (v9 = 0 ∨ v9 < v8) ∧ v8 ≠ 0 then afStore v4 s
          else afStore v4 (afAddBoth v9 v8 s)
        else
          afStore v4 (afAddBoth v9 v8 (afAddBoth a2 0 (s.putFront16 (afBase + 156) 1)))
    else afStore v4 s

/-! ## Groups -/

namespace Radio

/-- `LABEL_11` of `rds_process`: remember the number of frequencies. -/
def rdsAfCount (r : Radio) : Radio :=
  r.mapS2 fun s => if s.afLastCount ≠ s.rdsPti 2 then { s with afLastCount := s.rdsPti 2 } else s

/-- `LABEL_14` of `rds_process`, for the groups 0A and 0B. -/
def rdsBasic (v0 : U16) (r : Radio) : Radio :=
  let r := r.emit .scheduleRdslost
  let r := r.mapS2 fun s =>
    { s with rdsTaCnt := if v0 &&& 0x10 ≠ 0 then if s.rdsTaCnt ≠ 255 then s.rdsTaCnt + 1 else 255 else 0 }
  let widx := (v0 &&& 3).toNat
  let r := r.mapS2 fun s =>
    { s with piWords := s.piWords ||| (1 : U8) <<< widx }
  let r := r.mapS2 fun s =>
    (s.putFront (2 * widx + 2) s.rdsFwC).putFront (2 * widx + 3) s.rdsFwD
  let r :=
    if r.s2.piWords = 15 then (r.mapS2 fun s => { s with piWords := 0 }).rdsSendPsn else r
  if r.hasTaWork ≠ 0 then
    if r.s2.rdsTaCnt = 0 ∨ r.s2.rdsPsBit = 0 then r.taBack else r.rdsAfCount
  else if r.gap11_2 = 0 ∨ r.s2.rdsPsBit = 0 ∨ r.s2.rdsTaCnt ≤ 5 then r.rdsAfCount
  else if r.radioRdsFlag > 0xA9 then
    let r := if r.backlightStatus = 0 then r.emit (.vsSend 155 [1]) else r
    { r with hasTaWork := 2 }.emit (.audioAddWork 24 1)
  else r

/-- The start of the cases 4 and 5 of `rds_process`: a text of the other kind begins. -/
def rdsTextStart (v0 : U16) (s : RadioStruct2) : RadioStruct2 :=
  let grp : U8 := ((v0 >>> 4) &&& 1).setWidth 8
  if s.rdsPsGrp ≠ grp then
    { (s.putFront 0 s.rdsFwC) with
      psText := fun i => if i < 65 then 0x20 else s.psText i, psTextExt := 0, rdsPsGrp := grp }
  else s

/-- Store bytes of the text from position `p` on. -/
def putText (s : RadioStruct2) (p : ℕ) (bytes : List U8) : RadioStruct2 :=
  { s with psText := fun i => if p ≤ i ∧ i < p + bytes.length then bytes.getD (i - p) 0 else s.psText i }

/-- `case 4` of `rds_process`, with the text position `p`. -/
def rdsText4 (p : ℕ) (r : Radio) : Radio :=
  let r := r.mapS2 fun s => putText s p [s.rdsFwB, s.rdsFwA, s.rdsFwD, s.rdsFwC]
  if r.s2.psnData 0 = 0 then r.rdsAfCount
  else if r.s2.psText p = 13 then (r.mapS2 fun s => putText s p [0]).rdsSendRt.rdsAfCount
  else if r.s2.psText (p + 1) = 13 then (r.mapS2 fun s => putText s (p + 1) [0]).rdsSendRt.rdsAfCount
  else if r.s2.psText (p + 2) = 13 then (r.mapS2 fun s => putText s (p + 2) [0]).rdsSendRt.rdsAfCount
  else if r.s2.rdsFwC = 13 then (r.mapS2 fun s => putText s (p + 3) [0]).rdsSendRt.rdsAfCount
  else if p = 60 then r.rdsSendRt
  else r.rdsAfCount

/-- `case 5` of `rds_process`, with the text position `p`. -/
def rdsText5 (p : ℕ) (r : Radio) : Radio :=
  let r := r.mapS2 fun s => putText s p [s.rdsFwD, s.rdsFwC]
  if r.s2.psnData 0 = 0 then r.rdsAfCount
  else if r.s2.psText p = 13 then (r.mapS2 fun s => putText s p [0]).rdsSendRt
  else if r.s2.rdsFwC = 13 then (r.mapS2 fun s => putText s (p + 1) [0]).rdsSendRt
  else if p = 30 then r.rdsSendRt
  else r.rdsAfCount

/-- `rds_process` -/
def rdsProcess (r : Radio) : Radio :=
  let v0 := r.s2.rdsWordU16
  let r := r.emit (.rdsProcess v0 [r.s2.rdsFwA, r.s2.rdsFwB, r.s2.rdsFwC, r.s2.rdsFwD])
  let r := r.mapS2 fun s =>
    { (s.putFront 0 (v0.setWidth 8)).putFront 12 (((v0 >>> 5) &&& 0x1F).setWidth 8) with
      rdsPsBit := if v0 &&& 0x400 ≠ 0 then 1 else 0 }
  match (v0 >>> 11).toNat with
  | 0 =>
    (r.mapS2 fun s =>
      rdsAfProcess s.rdsFwB (s.rdsFwA.setWidth 16 ||| s.rdsFwB.setWidth 16 <<< 8) s).rdsBasic v0
  | 1 => r.rdsBasic v0
  | 2 | 3 =>
    (r.mapS2 fun s => { s with
      rdsPsnWord := (v0 >>> 11).setWidth 8
      rdsPsnL := ((v0 >>> 6) &&& 0x1F).setWidth 8
      rdsPsnH := (v0 &&& 0x3F).setWidth 8 }).rdsAfCount
  | 4 => (r.mapS2 (rdsTextStart v0)).rdsText4 (4 * (v0 &&& 0xF).toNat)
  | 5 => (r.mapS2 (rdsTextStart v0)).rdsText5 (2 * (v0 &&& 0xF).toNat)
  | 6 => (r.mapS2 fun s => { s with rdsPtyExtra := (v0 &&& 0x1F).setWidth 8 }).rdsAfCount
  | _ => r

/-- `status_check` -/
def statusCheck (a1 : U8) (r : Radio) : Radio :=
  let r := { r with radioRdsFlag := a1 }
  if r.cfgRadio = 2 ∨ r.cfgRadio = 4 then
    if r.tefCurBand = 2 ∧ a1 ≤ 0xA9 ∧ r.cfgRds ≠ 0 then
      if r.gap9_2 = 0 then { r with gap9_2 := 1 }.emit (.queueSignalLow 1000) else r
    else { r with gap9_2 := 0 }
  else if r.tefCurBand = 2 ∧ a1 ≤ 0x9F ∧ r.cfgRds ≠ 0 then
    if r.gap9_2 = 0 then { r with gap9_2 := 1 }.emit (.queueSignalLow 5000) else r
  else { r with gap9_2 := 0 }

end Radio

end MtcDrivers
