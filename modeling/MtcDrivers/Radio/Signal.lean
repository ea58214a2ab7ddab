import Mathlib.Data.BitVec
import MtcDrivers.Radio.Tuner

/-!
# Signal levels

The level that a front end reports, from its status bytes: the functions behind `Radio_Get_Signal` and
`Af_Check`, for every front end but number 2, and what the two are to agree on. A plain `char` is unsigned.
-/

namespace MtcDrivers

namespace Tuner

/-! ## The front ends -/

/-- `TEF6686_signal` -/
def tef6686Signal (v : U32) (t : Tuner) : U32 :=
  let v := if v &&& 0x80 ≠ 0 then 0 else v
  if t.radio.radioFreq.sle 10000000 then if v = 1 then 255 else 0
  else if v = 1 then 172
  else if v = 2 then 240
  else 0

/-- `Tef_signal` -/
def tefSignal (result a2 : U32) (a3 : U8) (t : Tuner) : U32 :=
  let v3 : U8 := (result + 127).setWidth 8
  if t.radio.radioFreq > 10000000 then
    let v4 := a2 >>> 4
    let result : U32 :=
      if v3 ≤ 0x5E then (result.setWidth 8 + (t.power >>> 8).setWidth 8 : U8).setWidth 32 else result
    if v4 ≤ 5 then
      if a3 &&& 0x1F > 2 then 0
      else if v4 > 2 ∧ ((result - 5 * v4 + 15).setWidth 8 : U8) ≤ 0xA9 then 0
      else result
    else 0
  else
    let result : U32 :=
      if v3 ≤ 0x5E then (result.setWidth 8 + t.power.setWidth 8 : U8).setWidth 32 else result
    if a2 &&& 0xF ≠ 0 then 0
    else if a3 &&& 0x1F ≠ 0 ∨ result ≤ 0xCC then 0
    else result

/-- `SI4754_signal` -/
def si4754Signal (a1 a2 a3 a4 : U32) (t : Tuner) : U32 :=
  let a2 : U32 := if a2 &&& 0x80 ≠ 0 then (-(a2.setWidth 8) : U8).setWidth 32 else a2
  let result : Bool := a3 &&& 0x80 = 0 && a1 ≠ 0 && (9 : U32) < a3
  let a3 : U32 := if a3 &&& 0x80 ≠ 0 then 0 else a3
  let a4 : U32 := if a4 &&& 0x80 ≠ 0 then 0 else a4
  if t.radio.radioFreq ≤ 10000000 then
    if result then
      if a4 ≤ 4 then 0
      else if 5 * a3 + 85 > 0xFF then 255
      else ((5 * a3 + 85).setWidth 8 : U8).setWidth 32
    else 0
  else if result then
    if a4 > 7 ∧ ¬ a2 > 0x12 then
      if 5 * a3 + 120 > 0xFF then 255 else ((5 * a3 + 120).setWidth 8 : U8).setWidth 32
    else 165
  else
    let a3 : U32 := if a3 ≥ 9 then 9 else a3
    ((5 * a3 + 120).setWidth 8 : U8).setWidth 32

/-! ## `Hit_signal` -/

/-- The customers 6, 1, 7, 14 and 3. -/
def hitFirst (cust : U8) : Bool := cust = 6 || cust = 1 || cust = 7 || cust = 14 || cust = 3

/-- `v5` and `a3` of `Hit_signal`, in front of `LABEL_8`. -/
def hitAdjust (cust : U8) (result a3 : U32) : U32 × U32 :=
  if hitFirst cust then
    if result > 0xC2 then
      if result ≤ 0xCD then (1, (((-51 - result) * a3).setWidth 8 / 10 : U8).setWidth 32) else (1, 0)
    else (1, a3)
  else if cust = 17 then
    if result > 0xC7 then
      if result ≤ 0xD2 then (2, ((((210 - result) * a3).sdiv 10).setWidth 8 : U8).setWidth 32) else (2, 0)
    else (2, a3)
  else if result ≤ 0xCC then (0, a3)
  else if result > 0xD7 then (0, 0)
  else (0, (((-41 - result) * a3).setWidth 8 / 10 : U8).setWidth 32)

/-- `v8` behind `LABEL_9`, from the value `v8` that the local happens to hold; `none` where 168 is
returned. -/
def hitLimit (v8 v5 result a2 a3 a4 : U32) : Option U32 :=
  if v5 = 1 then
    if a3 ≤ 0x41 ∧ result > 0xB3 then if a4 > 0x14 ∨ a4 ≤ 0x14 ∧ a2 > 4 then none else some 180
    else if result > 0xB3 then none
    else some 180
  else if v5 ≠ 2 then
    -- the strong reading goes on to `LABEL_19` with `v8` as it is
    if a3 ≤ 0x28 ∧ result > 0xB7 then if a4 > 0x14 ∨ a4 ≤ 0x14 ∧ a2 > 3 then none else some v8
    else if result ≤ 0xB7 then some 184
    else none
  else if a3 ≤ 0x34 ∧ result > 0xB5 then if a4 > 0x14 ∨ a4 ≤ 0x14 ∧ a2 > 4 then none else some 182
  else if result > 0xB5 then none
  else some 182

/-- `LABEL_19` of `Hit_signal`. -/
def hitLevel (result v8 : U32) : U32 :=
  let v9 := (3000 * (result - v8)).sdiv 1275 + 170
  if (255 : U32).slt v9 then 255 else (v9.setWidth 8 : U8).setWidth 32

/-- `LABEL_31` of `Hit_signal`. -/
def hitAm (cust : U8) (result a2 : U32) : U32 :=
  let result : U32 :=
    if cust = 1 then if result ≤ 0xEF then ((result + 7).setWidth 8 : U8).setWidth 32 else result
    else if cust = 5 ∧ result ≤ 0xEF then ((result + 5).setWidth 8 : U8).setWidth 32
    else result
  if result > 0xA3 ∧ a2 ≤ 0x10 then (result.setWidth 8 : U8).setWidth 32 else 0

/-- `Hit_signal`; `v8` is what the local of that name happens to hold. -/
def hitSignal (v8 : U32) (cust : U8) (result a2 a3 a4 : U32) (t : Tuner) : U32 :=
  let adjusted := hitAdjust cust result a3
  if t.radio.radioFreq > 10000000 then
    match hitLimit v8 adjusted.1 result a2 adjusted.2 a4 with
    | none => 168
    | some v8 => hitLevel result v8
  else hitAm cust result a2

/-! ## The two readers -/

/-- What the front end reports, with the customer. -/
structure Status where
  /-- `car_status.mtc_customer` -/
  cust : U8
  buf : Fin 5 → U8

/-- A byte of the status, as an argument. -/
def Status.arg (x : Status) (i : Fin 5) : U32 := (x.buf i).setWidth 32

/-- `Radio_Get_Signal`, but for front end 2. -/
def radioGetSignal (v8 : U32) (x : Status) (t : Tuner) : U32 :=
  if t.radio.cfgRadio = 3 then t.tef6686Signal (x.arg 0)
  else if t.radio.cfgRadio = 2 ∨ t.radio.cfgRadio = 4 then
    t.hitSignal v8 x.cust (x.arg 0) (x.arg 1) (x.arg 2) (x.arg 3)
  else if t.radio.cfgRadio = 5 then t.si4754Signal (x.arg 0) (x.arg 1) (x.arg 2) (x.arg 3)
  else t.tefSignal (x.arg 1) (x.arg 2) (x.buf 3)

/-- The level `v2` of `Af_Check`. -/
def afSignal (v8 : U32) (x : Status) (t : Tuner) : U32 :=
  if t.radio.cfgRadio = 2 ∨ t.radio.cfgRadio = 4 then
    t.hitSignal v8 x.cust (x.arg 0) (x.arg 1) (x.arg 2) (x.arg 3)
  else if t.radio.cfgRadio = 3 then
    let v14 : U32 := if x.arg 0 &&& 0x80 ≠ 0 then 0 else x.arg 0
    -- the constants are of type `signed char`
    if t.radio.radioFreq.sle 10000000 then if v14 = 1 then -1 else 0
    else if v14 = 1 then -84
    else if v14 = 2 then -16
    else 0
  else if t.radio.cfgRadio = 5 then t.si4754Signal (x.arg 0) (x.arg 1) (x.arg 2) (x.arg 3)
  else t.tefSignal (x.arg 1) (x.arg 2) (x.buf 3)

/-- Between the two states of the module the command was sent with these bytes. -/
def Sent (cmd : U32) (buf : List U8) (r r' : Radio) : Prop :=
  ∃ new, r'.log = new ++ r.log ∧ .armSendMulti cmd buf ∈ new

/-- `Af_Check` tunes to a frequency with the bytes that `Radio_Set_Frequency_com` sends, and it reads the level
like `Radio_Get_Signal`, whatever the local `v8` holds in the two calls of `Hit_signal`. -/
structure AfAgrees (freq : U32) (x : Status) (t : Tuner) : Prop where
  sends : ∀ signal a2 buf, Sent 0x9209 buf t.radio (t.afCheck freq signal).2.radio ↔
    Sent (if a2 ≠ 0 then 0x9208 else 0x9200) buf t.radio (t.radio.radioSetFrequencyCom freq a2)
  level : t.radio.cfgRadio ≠ 2 → afWord freq ≠ none → ∀ v8 v8',
    (t.afCheck freq (t.afSignal v8 x)).1 = t.radioGetSignal v8' x

/-! ## The FM level of `Hit_signal` -/

/-- The least good reading of the customer. -/
def hitThreshold (cust : U8) : ℕ := if hitFirst cust then 180 else if cust = 17 then 182 else 184

/-- The level on FM does not depend on what `v8` holds, is a byte that reaches 170 only from the threshold
on, and falls to zero below it. -/
structure HitRight (x : Status) (t : Tuner) : Prop where
  determined : ∀ v8 v8', t.hitSignal v8 x.cust (x.arg 0) (x.arg 1) (x.arg 2) (x.arg 3) =
    t.hitSignal v8' x.cust (x.arg 0) (x.arg 1) (x.arg 2) (x.arg 3)
  bounded : ∀ v8, t.hitSignal v8 x.cust (x.arg 0) (x.arg 1) (x.arg 2) (x.arg 3) ≤ 255
  good : ∀ v8, 170 ≤ t.hitSignal v8 x.cust (x.arg 0) (x.arg 1) (x.arg 2) (x.arg 3) →
    hitThreshold x.cust ≤ (x.buf 0).toNat
  below : (x.buf 0).toNat < hitThreshold x.cust → ∀ v8,
    ((t.hitSignal v8 x.cust (x.arg 0) (x.arg 1) (x.arg 2) (x.arg 3)).toNat : ℤ) =
      max 0 ((3000 * ((x.buf 0).toNat - hitThreshold x.cust : ℤ)).tdiv 1275 + 170)

/-- The multipath of the other customers, which is reduced for the strongest readings. -/
def reducedMultipath (reading multipath : ℕ) : ℕ :=
  if reading ≤ 204 then multipath
  else if 215 < reading then 0
  else (215 - reading) * multipath % 256 / 10

/-- A customer without a threshold of its own, and a reading from 184 on with little noise, multipath and
deviation. -/
def HitUnset (x : Status) : Prop :=
  hitThreshold x.cust = 184 ∧ 184 ≤ (x.buf 0).toNat ∧
    reducedMultipath (x.buf 0).toNat (x.buf 2).toNat ≤ 40 ∧ (x.buf 1).toNat ≤ 3 ∧ (x.buf 3).toNat ≤ 20

instance (x : Status) : Decidable (HitUnset x) := inferInstanceAs (Decidable (_ ∧ _ ∧ _ ∧ _ ∧ _))

/-! ## Where the two readers agree -/

/-- The frequencies of the AM and the FM band, and all above up to where the difference to 144000 leaves the
`int`. -/
def SameWord (freq : U32) : Prop :=
  144000 ≤ freq.toNat ∧ freq.toNat ≤ 1720000 ∨ 76000000 ≤ freq.toNat ∧ freq.toNat < 2 ^ 31 + 144000

/-- Front end 3 reports nothing, and for front end 4 `Hit_signal` has its local set. -/
structure LevelAgrees (x : Status) (t : Tuner) : Prop where
  tef6686 : t.radio.cfgRadio = 3 → x.buf 0 ≠ 1 ∧ (¬ t.radio.radioFreq.sle 10000000 → x.buf 0 ≠ 2)
  hit : t.radio.cfgRadio = 4 → 10000000 < t.radio.radioFreq → ¬ HitUnset x

end Tuner

end MtcDrivers
