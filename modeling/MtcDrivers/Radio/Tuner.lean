import MtcDrivers.Radio.Process

/-!
# The tuner

Tuning, power and the search for an alternative frequency: the functions of the radio module that the
audio module, the ioctls and the work queue `af_wq` call.
-/

namespace MtcDrivers

/-- `struct mtc_radio_struct` with the fields that only these functions use. -/
structure Tuner where
  radio : Radio
  power : U32
  radioAf : U8
  /-- `_gap8[0]`, the place of the search in the list of alternative frequencies. -/
  gap8_0 : U8
  gap9_0 : U8
  gap9_1 : U8
  gap12_0 : U8
  gap15_0 : U8
  /-- The delays with which `dwork_signal_low` was queued on `af_wq`, newest first. -/
  afWq : List ℕ
deriving Inhabited

namespace Tuner

/-- Change the part that the RDS code shares. -/
def mapRadio (t : Tuner) (f : Radio → Radio) : Tuner := { t with radio := f t.radio }

@[simp] theorem mapRadio_radio (t : Tuner) (f : Radio → Radio) :
    (t.mapRadio f).radio = f t.radio := rfl

/-- `Radio_Power`, but for its result. -/
def radioPower (power : U32) (t : Tuner) : Tuner :=
  if power = t.power then t
  else
    let t := { t with gap15_0 := 0xA0 }
    if power ≠ 0 then
      t.mapRadio fun r => { r with tefCurBand := 0xFF }.emit (.armSendMulti 37382 [])
    else
      { t.mapRadio fun r => r.emit (.armSendMulti 37383 []) with power := power }

/-- `tef6606_s_suspend` -/
def suspend (t : Tuner) : Tuner := { t with power := 0 }

/-- `tef6606_s_resume` -/
def resume (t : Tuner) : Tuner := { t with power := 0 }

/-- `Radio_AF` -/
def setAf (af : U32) (t : Tuner) : Tuner :=
  if t.radio.cfgRds ≠ 0 then { t with radioAf := af.setWidth 8 } else { t with radioAf := 0 }

/-- `Radio_TA` -/
def setTa (enable : U32) (t : Tuner) : Tuner :=
  if t.radio.cfgRds ≠ 0 then
    let t := t.mapRadio fun r => { r with gap11_2 := enable.setWidth 8 }
    if enable = 0 ∧ t.radio.hasTaWork ≠ 0 then t.mapRadio Radio.taBack else t
  else t.mapRadio fun r => { r with gap11_2 := 0 }

/-- `Radio_Set_Frequency` up to `flush_workqueue(radio.af_wq)`. -/
def setFrequencyBegin (t : Tuner) : Tuner :=
  if t.radio.cfgRds ≠ 0 then t.mapRadio fun r => { r with hasAfWork := 0 } else t

/-- The rest of the `cfg_rds` block of `Radio_Set_Frequency`. -/
def setFrequencyTa (t : Tuner) : Tuner :=
  if t.radio.cfgRds ≠ 0 then
    let taWas := t.radio.hasTaWork
    let t := t.mapRadio fun r => { r with hasTaWork := 0 }
    if taWas = 1 then t.mapRadio fun r => r.emit (.vsSend 155 [0]) else t
  else t

/-- `Radio_Set_Frequency_com` with the `memset` of `_s2` behind it. -/
def tuneCleared (freq withData : U32) (r : Radio) : Radio :=
  (r.radioSetFrequencyCom freq withData).mapS2 fun _ => .zero

/-- `Radio_Set_Frequency` from `radio.radio_freq = freq` on. -/
def setFrequencyTune (freq withData : U32) (t : Tuner) : Tuner :=
  -- `_gap7[1]` lies behind the one byte of `_gap7`: it is `has_af_work`
  let t := { t.mapRadio fun r => { r with radioFreq := freq, hasAfWork := 0 } with gap12_0 := 0 }
  let newBand : U8 := if (10000000 : U32).slt freq then 2 else 1
  let band := t.radio.tefCurBand
  let cfgRadio := t.radio.cfgRadio
  if band = newBand then t.mapRadio (tuneCleared freq withData)
  else if band ≠ 255 ∨ cfgRadio = 2 ∨ cfgRadio = 4 ∨ cfgRadio = 5 then
    (t.mapRadio fun r => tuneCleared freq withData ((r.emit (.audioAddWork 19 1)).radioSetMute true)).mapRadio
      fun r => { r with tefCurBand := newBand }
  else
    (t.mapRadio (tuneCleared freq withData)).mapRadio fun r => { r with tefCurBand := newBand }

/-- `Radio_Set_Frequency` behind `flush_workqueue(radio.af_wq)`. -/
def setFrequencyEnd (freq withData : U32) (t : Tuner) : Tuner :=
  t.setFrequencyTa.setFrequencyTune freq withData

/-- A byte of the table at `&radio._s2.rds_pti[2]`. -/
def tbl (t : Tuner) (i : ℕ) : U8 := t.radio.s2.front (afBase + i)

/-- The byte of the table that the readers take for the place `i` of the list. -/
def afPlace (i : ℕ) : ℕ := 15 * i

/-- The frequency of a code, in Hz. -/
def afFrequency (code : U8) : U32 := 100000 * code.setWidth 32 + 87500000

/-- The loop of `work_signal_low`: the first place whose byte is the tuned frequency. -/
def searchStart (t : Tuner) : Option ℕ :=
  (List.range' 1 ((t.tbl 0).toNat - 1)).find? fun i => afFrequency (t.tbl (afPlace i)) = t.radio.radioFreq

/-- The first four bytes of `psn_data`. -/
def psn (t : Tuner) : U32 :=
  t.radio.s2.psnData 3 ++ t.radio.s2.psnData 2 ++ t.radio.s2.psnData 1 ++ t.radio.s2.psnData 0

/-- The first lines of `work_signal_low`. -/
def endTa (t : Tuner) : Tuner := if t.radio.hasTaWork ≠ 0 then t.mapRadio Radio.taBack else t

/-- The conditions of `work_signal_low` before its loop. -/
def mayStart (t : Tuner) : Bool :=
  t.radioAf ≠ 0 && t.radio.hasAfWork = 0 && (1 : U8) < t.tbl 0 && t.psn ≠ 0

/-- The search starts at place `i`. -/
def startSearch (i : ℕ) (t : Tuner) : Tuner :=
  { t.mapRadio fun r => { r with hasAfWork := 1 } with
    gap8_0 := BitVec.ofNat 8 i, gap9_1 := BitVec.ofNat 8 i, afWq := 0 :: t.afWq }

/-- The `if (radio.radio_af)` of `work_signal_low`. -/
def trySearch (t : Tuner) : Tuner :=
  if t.mayStart then
    let t := { t with gap9_0 := t.psn.setWidth 8 }
    match t.searchStart with
    | some i => t.startSearch i
    | none => t
  else t

/-- `work_signal_low` -/
def workSignalLow (t : Tuner) : Tuner :=
  t.endTa.trySearch.mapRadio fun r => { r with gap9_2 := 0 }

/-- The word of `Af_Check`; `none` where it returns 0 at once. -/
def afWord (a1 : U32) : Option U32 :=
  if a1 - 144000 ≤ 0x180C40 then some (a1 / 0x3E8)
  else if a1 - 76000000 ≤ 0x1E84800 then some (a1 / 0xC350 ||| 0x2000)
  else if a1 - 294000 ≤ 0xE7DB78 then some (a1 / 0x1388 ||| 0x4000)
  else if a1 - 65000000 > 0x895440 then none
  else some (a1 / 0x2710 ||| 0x6000)

/-- `Af_Check`, for the level `signal` that the front end reports. -/
def afCheck (freq signal : U32) (t : Tuner) : U32 × Tuner :=
  match afWord freq with
  | none => (0, t)
  | some v13 =>
    let buf : List U8 := [(v13 >>> 8).setWidth 8, v13.setWidth 8]
    -- the second command fetches what `signal` is computed from
    (signal, t.mapRadio fun r => (r.emit (.armSendMulti 37385 buf)).emit (.armSendMulti 4618 []))

/-- The next place of the search; `none` where the remainder is by zero. -/
def nextPlace (count place : U8) : Option U8 :=
  if count = 0 then none else some (BitVec.ofNat 8 ((place.toNat + 1) % count.toNat))

/-- The end of the search at the frequency `f`. -/
def settle (f : U32) (t : Tuner) : Tuner :=
  t.mapRadio fun r => { r with hasAfWork := 0 }.radioSetFrequencyCom f 0

/-- `work_af` behind `Af_Check`, with the level that this returned. -/
def judge (f level : U32) (t : Tuner) : Tuner :=
  if level.sle 0xA9 then
    if t.radio.hasAfWork ≠ 0 then { t with afWq := 100 :: t.afWq } else t
  else if t.radio.hasAfWork ≠ 0 then (t.mapRadio fun r => { r with radioFreq := f }).settle f
  else t

/-- `work_af` at the frequency `f` of the new place. -/
def tryFrequency (f signal : U32) (cleared : Bool) (t : Tuner) : Tuner :=
  if f = t.radio.radioFreq then t.settle f
  else
    let (level, t) := t.afCheck f signal
    (if cleared then t.mapRadio fun r => { r with hasAfWork := 0 } else t).judge f level

/-- `work_af`, for the level `signal` that the front end reports; `cleared` tells whether
    `Radio_Set_Frequency` cleared `has_af_work` while `Af_Check` waited. `none` where the remainder is by
    zero. -/
def workAf (signal : U32) (cleared : Bool) (t : Tuner) : Option Tuner :=
  if t.radio.hasAfWork = 0 then some t
  else
    (nextPlace (t.tbl 0) t.gap8_0).map fun idx =>
      { t with gap8_0 := idx }.tryFrequency (afFrequency (t.tbl (afPlace idx.toNat))) signal cleared

end Tuner

end MtcDrivers
