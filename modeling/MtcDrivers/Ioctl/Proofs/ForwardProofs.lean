import Mathlib.Tactic.SplitIfs
import MtcDrivers.Ioctl.Forward
import MtcDrivers.Ioctl.Proofs.ConfigProofs

/-!
# Proofs: what the setters send

An accepted request stores inside the field of its key. It brings the MCU's copy up to date if and only
if its setter hands over the address of the field.
-/

namespace MtcDrivers

variable {c c' : ConfigData} {off n : ℕ}

/-! ## Fields of the configuration -/

namespace ConfigData

theorem ext_byte (h : ∀ i < 512, c.byte i = c'.byte i) : c = c' := by
  obtain ⟨u⟩ := c
  obtain ⟨u'⟩ := c'
  congr 1
  ext i hi : 1
  simpa [byte, hi] using h i hi

theorem byte_overwrite (bytes : List U8) {i : ℕ} (hi : i < 512) :
    (c.overwrite off bytes).byte i =
      if off ≤ i ∧ i < off + bytes.length then bytes.getD (i - off) 0 else c.byte i := by
  simp [byte, overwrite, hi]

@[simp] theorem length_slice : (c.slice off n).length = n := by simp [slice]

/-- Only bytes of the field at `off` differ. -/
def StoredWithin (off n : ℕ) (c c' : ConfigData) : Prop :=
  ∀ i, ¬(off ≤ i ∧ i < off + n) → c'.byte i = c.byte i

theorem StoredWithin.put {i : ℕ} (h : StoredWithin off n c c') (hi : off ≤ i ∧ i < off + n) (b : U8) :
    StoredWithin off n c (c'.put i b) := by
  intro j hj
  have hij : i ≠ j := by
    rintro rfl
    exact hj hi
  rw [byte_put_ne c' hij, h j hj]

theorem storedWithin_refl : StoredWithin off n c c := fun _ _ => rfl

theorem storedWithin_foldl {pass : ConfigData → ℕ → ConfigData} (k : ℕ)
    (hpass : ∀ c' i, i < k → StoredWithin off n c c' → StoredWithin off n c (pass c' i)) :
    StoredWithin off n c ((List.range k).foldl pass c) := by
  induction k with
  | zero => exact storedWithin_refl
  | succ k ih =>
    rw [List.range_succ, List.foldl_append]
    exact hpass _ k (Nat.lt_succ_self k) (ih fun c' i hi => hpass c' i (Nat.lt_succ_of_lt hi))

/-- What is stored in a field is the field's new content written over the old configuration. -/
theorem overwrite_slice (h : StoredWithin off n c c') : c.overwrite off (c'.slice off n) = c' := by
  refine ext_byte fun i hi => ?_
  rw [byte_overwrite _ hi, length_slice]
  split_ifs with hin
  · have hlt : i - off < n := by omega
    have hidx : off + (i - off) = i := by omega
    simp [slice, List.getD, hlt, hidx]
  · exact (h i hin).symm

end ConfigData

open ConfigData

/-! ## What an accepted request does -/

/-- The call of the key: the field or `((char *)0)`, in the length of the field. -/
structure CallOf (k : ForwardKey) (c : ConfigData) (r : Forwarded) : Prop where
  config : r.call.config = r.config
  count : r.call.count = k.length
  address : r.call.address = if k.usesPlaceholder then .null else .config k.offset
  within : StoredWithin k.offset k.length c r.config

theorem callOf_storeAndSend {k : ForwardKey} (cmd : U32) {address : PayloadAddress}
    (haddress : address = if k.usesPlaceholder then .null else .config k.offset)
    (hwithin : StoredWithin k.offset k.length c c') :
    CallOf k c (storeAndSend c' cmd k.length address) :=
  ⟨rfl, rfl, haddress, hwithin⟩

theorem callOf_scalar {k : ForwardKey} {cmd : U32} {address : PayloadAddress} {pos : Text}
    {r : Forwarded} (hlength : k.length = 1)
    (haddress : address = if k.usesPlaceholder then .null else .config k.offset)
    (h : forwardScalar k.offset cmd address pos c = some r) : CallOf k c r := by
  simp only [forwardScalar] at h
  split_ifs at h
  obtain rfl := Option.some.inj h
  rw [← hlength]
  refine callOf_storeAndSend cmd haddress ?_
  rw [hlength]
  exact storedWithin_refl.put ⟨Nat.le_refl _, Nat.lt_succ_self _⟩ _

theorem storedWithin_storeSteerAssign (xs : List U32) (past : U32) (c : ConfigData) :
    StoredWithin steerData 150 c (storeSteerAssign xs past c) := by
  refine storedWithin_foldl 50 fun c' k hk h => ?_
  have hbase : steerData = 328 := rfl
  exact ((h.put ⟨by omega, by omega⟩ _).put ⟨by omega, by omega⟩ _).put ⟨by omega, by omega⟩ _

theorem storedWithin_storeConfig (xs : List U32) (c : ConfigData) :
    StoredWithin 0 512 c (storeConfig xs c) :=
  storedWithin_foldl 512 fun _ i hi h => h.put ⟨Nat.zero_le i, by omega⟩ _

theorem callOf_forwardSet {k : ForwardKey} {past : U32} {pos : Text} {r : Forwarded}
    (h : forwardSet k past pos c = some r) : CallOf k c r := by
  cases k with
  | cfgColor =>
    simp only [forwardSet, forwardColor] at h
    split_ifs at h
    obtain rfl := Option.some.inj h
    exact callOf_storeAndSend (k := .cfgColor) 0x9507 rfl
      ((storedWithin_refl.put ⟨by decide, by decide⟩ _).put ⟨by decide, by decide⟩ _)
  | cfgLedMulti => exact callOf_scalar rfl rfl h
  | cfgWifiPwr => exact callOf_scalar rfl rfl h
  | cfgBlmode => exact callOf_scalar rfl rfl h
  | cfgPowerdelay => exact callOf_scalar rfl rfl h
  | cfgBacklight => exact callOf_scalar rfl rfl h
  | cfgBeep => exact callOf_scalar rfl rfl h
  | cfgLed =>
    simp only [forwardSet, forwardLed] at h
    split_ifs at h
    obtain rfl := Option.some.inj h
    exact callOf_storeAndSend (k := .cfgLed) 0x9500 rfl
      (((storedWithin_refl.put ⟨by decide, by decide⟩ _).put ⟨by decide, by decide⟩ _).put
        ⟨by decide, by decide⟩ _)
  | cfgSteerAssign =>
    obtain ⟨xs, -, rfl⟩ := Option.map_eq_some_iff.mp h
    exact callOf_storeAndSend (k := .cfgSteerAssign) 0x950F rfl (storedWithin_storeSteerAssign xs.1 past c)
  | cfgConfig =>
    obtain ⟨xs, -, rfl⟩ := Option.map_eq_some_iff.mp h
    exact callOf_storeAndSend (k := .cfgConfig) 0x95FE rfl (storedWithin_storeConfig xs.1 c)

/-! ## Which requests are accepted -/

theorem isSome_readInts_succ (n : ℕ) (pos : Text) :
    (readInts (n + 1) pos).isSome =
      (taken (getTokenInt pos).1 && (readInts n (getTokenInt pos).2).isSome) := by
  rw [readInts, taken]
  cases hneg : (getTokenInt pos).1.slt 0#32 <;> simp [hneg]

theorem isSome_readInts_one (pos : Text) : (readInts 1 pos).isSome = taken (getTokenInt pos).1 := by
  rw [isSome_readInts_succ, readInts, Option.isSome_some, Bool.and_true]

theorem isSome_forwardScalar (cmd : U32) (address : PayloadAddress) (pos : Text) :
    (forwardScalar off cmd address pos c).isSome = (readInts 1 pos).isSome := by
  rw [isSome_readInts_one, forwardScalar]
  cases taken (getTokenInt pos).1 <;> simp

theorem isSome_forwardSet (k : ForwardKey) (past : U32) (pos : Text) (c : ConfigData) :
    (forwardSet k past pos c).isSome = (readInts k.numbers pos).isSome := by
  cases k with
  | cfgColor =>
    simp only [forwardSet, forwardColor, ForwardKey.numbers, isSome_readInts_one]
    split_ifs with htaken <;> simp [htaken]
  | cfgLedMulti => exact isSome_forwardScalar _ _ pos
  | cfgWifiPwr => exact isSome_forwardScalar _ _ pos
  | cfgBlmode => exact isSome_forwardScalar _ _ pos
  | cfgPowerdelay => exact isSome_forwardScalar _ _ pos
  | cfgBacklight => exact isSome_forwardScalar _ _ pos
  | cfgBeep => exact isSome_forwardScalar _ _ pos
  | cfgLed =>
    simp only [forwardSet, forwardLed, ForwardKey.numbers, isSome_readInts_succ]
    split_ifs with h1 h2 h3 <;> simp [*, readInts]
  | cfgSteerAssign => exact Option.isSome_map
  | cfgConfig => exact Option.isSome_map

/-! ## The two copies -/

/-- An accepted request sends what it has stored if it hands over the address of its field, and only
then. -/
theorem sendsStored_iff {k : ForwardKey} {r : Forwarded} (h : CallOf k c r) :
    SendsStored k c r ↔ k.usesPlaceholder = false := by
  constructor
  · intro hsends
    have hpayload := hsends.payload
    rw [MultiCall.payload, h.address] at hpayload
    cases hk : k.usesPlaceholder with
    | false => rfl
    | true => simp [hk] at hpayload
  · intro hk
    refine ⟨?_, h.count, (overwrite_slice h.within).symm⟩
    rw [MultiCall.payload, h.address, hk, if_neg Bool.false_ne_true]
    dsimp only
    rw [h.config, h.count]

theorem copies_of_sendsStored {s : Copies} {op : SetRequest} {r : Forwarded}
    (hsame : s.kernel = s.mcu) (hr : forwardSet op.key op.past op.pos s.kernel = some r)
    (h : SendsStored op.key s.kernel r) : (copyStep s op).mcu = (copyStep s op).kernel := by
  simp only [copyStep, hr, h.payload, Option.elim_some, ← hsame]
  exact h.stored.symm

theorem accepted_iff (op : SetRequest) (c : ConfigData) :
    op.Accepted ↔ ∃ r, forwardSet op.key op.past op.pos c = some r := by
  rw [SetRequest.Accepted, ← isSome_forwardSet op.key op.past op.pos c]
  exact Option.isSome_iff_exists

theorem keepsCopies_iff {s : Copies} (hsame : s.kernel = s.mcu) (op : SetRequest) :
    KeepsCopies s op ↔ (op.Accepted → op.key.usesPlaceholder = false) := by
  rw [accepted_iff op s.kernel]
  constructor
  · rintro h ⟨r, hr⟩
    exact (sendsStored_iff (callOf_forwardSet hr)).mp (h r hr).1
  · intro h r hr
    have hsends := (sendsStored_iff (callOf_forwardSet hr)).mpr (h ⟨r, hr⟩)
    exact ⟨hsends, copies_of_sendsStored hsame hr hsends⟩

/-- A request that keeps to the condition leaves the copies the same. -/
theorem same_copyStep {s : Copies} (op : SetRequest) (hsame : s.kernel = s.mcu)
    (h : op.Accepted → op.key.usesPlaceholder = false) :
    (copyStep s op).kernel = (copyStep s op).mcu := by
  cases hr : forwardSet op.key op.past op.pos s.kernel with
  | none => simpa only [copyStep, hr] using hsame
  | some r => exact (((keepsCopies_iff hsame op).mpr h) r hr).2.symm

/-- In a run of set requests every accepted one sends what it has stored and keeps the copies the same
if and only if none of them is for `cfg_blmode`, `cfg_powerdelay`, `cfg_backlight` or `cfg_led`. -/
theorem setters_keep_copies_iff (c : ConfigData) (ops : List SetRequest) :
    Run.Always copyStep KeepsCopies ⟨c, c⟩ ops ↔
      ∀ op ∈ ops, op.Accepted → op.key.usesPlaceholder = false := by
  rw [Run.always_iff (fun s => s.kernel = s.mcu) rfl
    (fun s op hsame hop => same_copyStep op hsame hop) fun s op hsame => keepsCopies_iff hsame op]
  constructor
  · intro h op hop
    obtain ⟨pre, post, rfl⟩ := List.append_of_mem hop
    exact h pre op post rfl
  · rintro h pre op post rfl
    exact h op (by simp)

/-- `cfg_led` with the numbers 1, 2 and 3. -/
theorem setters_keep_copies_fails :
    ¬∀ (c : ConfigData) (op : SetRequest), op.Accepted → KeepsCopies ⟨c, c⟩ op := by
  intro h
  have hop : SetRequest.Accepted ⟨.cfgLed, 0, ascii "1,2,3"⟩ := by decide
  obtain ⟨r, hr⟩ := (accepted_iff ⟨.cfgLed, 0, ascii "1,2,3"⟩ default).mp hop
  have hsends := (h default ⟨.cfgLed, 0, ascii "1,2,3"⟩ hop r hr).1
  exact absurd ((sendsStored_iff (callOf_forwardSet hr)).mp hsends) (by decide)

/-! ## The set half -/

/-- The set half accepts the request, stores the same and makes the call. -/
structure ForwardedBy (r : Forwarded) (x : ℤ × SetState) : Prop where
  ret : x.1 = 0
  config : x.2.config = r.config
  sent : SetEvent.armSendMulti r.call.cmd r.call.count ∈ x.2.log

theorem forwardedBy_scalar {cmd : U32} {address : PayloadAddress} {pos : Text} {s : SetState}
    {r : Forwarded} {also : SetState → SetState}
    (halso : ∀ t, (also t).config = t.config ∧ ∀ e ∈ t.log, e ∈ (also t).log)
    (h : forwardScalar off cmd address pos s.config = some r) :
    ForwardedBy r (setScalar off cmd also pos s) := by
  simp only [forwardScalar] at h
  split_ifs at h with htaken
  obtain rfl := Option.some.inj h
  simp only [setScalar, if_pos htaken, label62]
  exact ⟨rfl, (halso _).1, (halso _).2 _ (by simp [SetState.emit, storeAndSend])⟩

theorem forwardedBy_array {bytes count : ℕ} (store : List U32 → ConfigData → ConfigData) {cmd : U32}
    {length : ℕ} {address : PayloadAddress} {pos : Text} {s : SetState} {r : Forwarded}
    {send : SetState → SetState}
    (hsend : ∀ t, (send t).config = t.config ∧ .armSendMulti cmd length ∈ (send t).log)
    (h : (readInts count pos).map (fun x => storeAndSend (store x.1 s.config) cmd length address) =
      some r) :
    ForwardedBy r (setArray bytes count store send pos s) := by
  obtain ⟨x, hx, rfl⟩ := Option.map_eq_some_iff.mp h
  simp only [setArray, hx, label62]
  exact ⟨rfl, (hsend _).1, (hsend _).2⟩

theorem cfgSet_name (env : SetEnv) {k : ForwardKey} (pos : Text) (s : SetState)
    (hcolor : k ≠ .cfgColor) (hmulti : k ≠ .cfgLedMulti) :
    cfgSet env k.name pos s = cfgSetTail env k.name pos s := by
  have hlong : ¬k.name.length ≤ 4 := by cases k <;> simp [ForwardKey.name, ascii]
  have hcolor' : k.name ≠ ascii "cfg_color" := by
    cases k <;> first | exact absurd rfl hcolor | simp [ForwardKey.name, ascii]
  have hmulti' : k.name ≠ ascii "cfg_led_multi" := by
    cases k <;> first | exact absurd rfl hmulti | simp [ForwardKey.name, ascii]
  rw [cfgSet, if_neg hlong, if_neg hcolor', cfgSetLedMulti, if_neg hmulti']

theorem kept_emit (e : SetEvent) (t : SetState) :
    (t.emit e).config = t.config ∧ ∀ e' ∈ t.log, e' ∈ (t.emit e).log :=
  ⟨rfl, fun _ he => List.mem_cons_of_mem _ he⟩

/-- The requests are those of the set half of `car_ioctl`. -/
theorem cfgSet_forwardSet (env : SetEnv) (k : ForwardKey) (pos : Text) (s : SetState) {r : Forwarded}
    (h : forwardSet k env.past pos s.config = some r) : ForwardedBy r (cfgSet env k.name pos s) := by
  cases k with
  | cfgColor =>
    simp only [forwardSet, forwardColor] at h
    split_ifs at h with htaken
    obtain rfl := Option.some.inj h
    have hcolor : cfgSet env (ascii "cfg_color") pos s = label62
        (((s.put (ConfigData.cfgColor + 1) ((getTokenInt pos).1.setWidth 8)).put ConfigData.cfgColor
          (((getTokenInt pos).1 >>> 8).setWidth 8)).emit (.armSendMulti 0x9507 2)) := by
      rw [cfgSet, if_neg (by decide), if_pos rfl]
      exact if_pos htaken
    rw [ForwardKey.name, hcolor]
    exact ⟨rfl, rfl, by simp [label62, SetState.emit, storeAndSend]⟩
  | cfgLedMulti =>
    simp only [forwardSet, forwardLedMulti, forwardScalar] at h
    split_ifs at h with htaken
    obtain rfl := Option.some.inj h
    have hmulti : cfgSet env (ascii "cfg_led_multi") pos s = label62
        ((s.put ConfigData.cfgLedMulti ((getTokenInt pos).1.setWidth 8)).emit
          (.armSendMulti 0x9508 1)) := by
      rw [cfgSet, if_neg (by decide), if_neg (by decide), cfgSetLedMulti, if_pos rfl]
      exact if_pos htaken
    rw [ForwardKey.name, hmulti]
    exact ⟨rfl, rfl, by simp [label62, SetState.emit, storeAndSend]⟩
  | cfgWifiPwr =>
    rw [cfgSet_name env pos s (by simp) (by simp)]
    show ForwardedBy r (setWifiPwr env pos s)
    refine forwardedBy_scalar (fun t => ?_) h
    by_cases hwifi : env.wifiCapable ∧ env.v174 ≠ 255
    · rw [if_pos hwifi]
      exact kept_emit (.wifiPower env.v174) t
    · rw [if_neg hwifi]
      exact ⟨rfl, fun _ he => he⟩
  | cfgBlmode =>
    rw [cfgSet_name env pos s (by simp) (by simp)]
    show ForwardedBy r (setBlmode pos s)
    exact forwardedBy_scalar (kept_emit .backlightUpdate) h
  | cfgPowerdelay =>
    rw [cfgSet_name env pos s (by simp) (by simp)]
    show ForwardedBy r (setPowerdelay pos s)
    exact forwardedBy_scalar (fun _ => ⟨rfl, fun _ he => he⟩) h
  | cfgBacklight =>
    rw [cfgSet_name env pos s (by simp) (by simp)]
    show ForwardedBy r (setBacklight pos s)
    exact forwardedBy_scalar (fun _ => ⟨rfl, fun _ he => he⟩) h
  | cfgBeep =>
    rw [cfgSet_name env pos s (by simp) (by simp)]
    show ForwardedBy r (setBeep pos s)
    exact forwardedBy_scalar (fun _ => ⟨rfl, fun _ he => he⟩) h
  | cfgLed =>
    simp only [forwardSet, forwardLed] at h
    split_ifs at h with h1 h2 h3
    obtain rfl := Option.some.inj h
    rw [cfgSet_name env pos s (by simp) (by simp)]
    show ForwardedBy _ (setLed pos s)
    rw [setLed]
    simp only [if_pos h1, if_pos h2, if_pos h3, label62]
    exact ⟨rfl, rfl, by simp [SetState.emit, storeAndSend]⟩
  | cfgSteerAssign =>
    rw [cfgSet_name env pos s (by simp) (by simp)]
    show ForwardedBy r (setSteerAssign env pos s)
    exact forwardedBy_array _ (fun _ => ⟨rfl, by simp [SetState.emit]⟩) h
  | cfgConfig =>
    rw [cfgSet_name env pos s (by simp) (by simp)]
    show ForwardedBy r (setConfig pos s)
    exact forwardedBy_array _ (fun _ => ⟨rfl, by simp [SetState.emit]⟩) h

end MtcDrivers
