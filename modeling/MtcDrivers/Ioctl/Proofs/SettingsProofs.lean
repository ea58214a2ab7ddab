import MtcDrivers.Ioctl.Proofs.AnswerProofs
import MtcDrivers.Ioctl.Proofs.ConfigProofs
import MtcDrivers.Ioctl.Proofs.ControlProofs
import MtcDrivers.Ioctl.Proofs.ForwardProofs
import MtcDrivers.Ioctl.Proofs.TokenProofs
import MtcDrivers.Ioctl.Settings

/-!
# Proofs: the settings are those stored last

Each code of the configuration stores within a range of its own, and the getters read where it stores.
-/

namespace MtcDrivers

open ConfigData Search

/-! ## What a getter prints -/

theorem decimalInt_ofNat {n : ℕ} (hn : n < 2 ^ 31) : decimalInt (BitVec.ofNat 32 n) = decimal n := by
  have hint : (BitVec.ofNat 32 n).toInt = n := by
    rw [BitVec.toInt_eq_toNat_of_lt (by rw [BitVec.toNat_ofNat]; omega), BitVec.toNat_ofNat,
      Nat.mod_eq_of_lt (by omega)]
  unfold decimalInt
  rw [hint, if_neg (by omega), Int.natAbs_natCast]

theorem decimalInt_byte (b : U8) : decimalInt (b.setWidth 32) = decimal b.toNat := by
  have hlt := b.isLt
  have hb : b.setWidth 32 = BitVec.ofNat 32 b.toNat := by
    apply BitVec.eq_of_toNat_eq
    simp
  rw [hb, decimalInt_ofNat (by omega)]

namespace Setting

/-- The getter of the key prints the number that is in the configuration. -/
def Shown (k : Setting) : Prop :=
  ∀ (g : GetState) (p : Peripherals) (pos : Text), answerTo k.key pos g p = .print (decimal (k.number g.config.byte))

variable {key : Text} {i : ℕ}

theorem answerTo_of_mem {get : Getter} (h : (key, get) ∈ getters) (pos : Text) (g : GetState) (p : Peripherals) :
    answerTo key pos g p = get g p pos := by
  rw [answerTo, lookup_getters h]
  rfl

theorem shown_byte (h : (key, printConfig i) ∈ getters) : Shown ⟨key, [i]⟩ := by
  intro g p pos
  rw [answerTo_of_mem h]
  have hjoin : join [g.config.byte i] = (g.config.byte i).toNat := by simp [join]
  simp only [printConfig, printNumber, decimalInt_byte, number, List.map_cons, List.map_nil, hjoin]

theorem shown_pair (h : (key, printConfigPair i) ∈ getters) : Shown ⟨key, [i, i + 1]⟩ := by
  intro g p pos
  rw [answerTo_of_mem h]
  have hhi := (g.config.byte i).isLt
  have hlo := (g.config.byte (i + 1)).isLt
  have hjoin : join [g.config.byte i, g.config.byte (i + 1)] =
      (g.config.byte i).toNat * 256 + (g.config.byte (i + 1)).toNat := by simp [join]
  have hword : (g.config.byte (i + 1)).setWidth 32 ||| ((g.config.byte i).setWidth 32 <<< 8) =
      BitVec.ofNat 32 ((g.config.byte i).toNat * 256 + (g.config.byte (i + 1)).toNat) := by
    apply BitVec.eq_of_toNat_eq
    have hshift : (g.config.byte i).toNat <<< 8 < 2 ^ 32 := by
      rw [Nat.shiftLeft_eq]
      omega
    rw [BitVec.toNat_or, BitVec.toNat_shiftLeft, BitVec.toNat_ofNat, BitVec.toNat_setWidth_of_le (by omega),
      BitVec.toNat_setWidth_of_le (by omega), Nat.mod_eq_of_lt hshift, joinBytes, Nat.mod_eq_of_lt (by omega)]
  simp only [printConfigPair, printNumber, number, List.map_cons, List.map_nil, hjoin, hword]
  rw [decimalInt_ofNat (by omega)]

theorem mem_getters_of_cfg {get : Getter} (h : (key, get) ∈ cfgGetters) : (key, get) ∈ getters :=
  List.mem_append_left _ (List.mem_append_right _ (List.mem_append_left _ h))

theorem shown_stored : ∀ k ∈ stored, Shown k := by
  unfold stored
  simp only [List.forall_mem_cons]
  refine ⟨shown_pair (mem_getters_of_cfg ?_), shown_byte (mem_getters_of_cfg ?_), shown_byte (mem_getters_of_cfg ?_),
    shown_byte (mem_getters_of_cfg ?_), shown_byte (mem_getters_of_cfg ?_), shown_byte (mem_getters_of_cfg ?_),
    shown_byte (mem_getters_of_cfg ?_), by simp⟩
  all_goals simp only [cfgGetters, List.mem_cons, true_or, or_true]

theorem shown_fixed : ∀ k ∈ fixed, Shown k := by
  unfold fixed
  simp only [List.forall_mem_cons]
  refine ⟨shown_byte (mem_getters_of_cfg ?_), shown_byte (mem_getters_of_cfg ?_), shown_byte (mem_getters_of_cfg ?_),
    shown_byte (mem_getters_of_cfg ?_), shown_byte (mem_getters_of_cfg ?_), shown_byte (mem_getters_of_cfg ?_),
    shown_byte (mem_getters_of_cfg ?_), shown_byte (mem_getters_of_cfg ?_), shown_byte (mem_getters_of_cfg ?_),
    shown_byte (mem_getters_of_cfg ?_), shown_byte (mem_getters_of_cfg ?_), shown_byte (mem_getters_of_cfg ?_),
    shown_byte (mem_getters_of_cfg ?_), shown_byte (mem_getters_of_cfg ?_), shown_byte (mem_getters_of_cfg ?_),
    shown_byte (mem_getters_of_cfg ?_), shown_pair (mem_getters_of_cfg ?_), shown_byte (mem_getters_of_cfg ?_),
    shown_byte (mem_getters_of_cfg ?_), shown_byte (mem_getters_of_cfg ?_), by simp⟩
  all_goals simp only [cfgGetters, List.mem_cons, true_or, or_true]

end Setting

/-! ## Where the codes store -/

/-- The code stores in the field of so many bytes at an offset, and nowhere else. -/
def StoresWithin (code : Control.CfgCode) (field : ℕ × ℕ) : Prop :=
  ∀ (value : Text) (s : SetState), StoredWithin field.1 field.2 s.config (code value s).2.config

theorem within_setScalar (offset : ℕ) (cmd : U32) {also : SetState → SetState}
    (halso : ∀ s, (also s).config = s.config) : StoresWithin (setScalar offset cmd also) (offset, 1) := by
  intro value s
  unfold setScalar
  extract_lets v
  split
  · show StoredWithin offset 1 s.config (also _).config
    rw [halso]
    exact storedWithin_refl.put ⟨le_refl offset, by omega⟩ _
  · exact storedWithin_refl

theorem within_code {field : ℕ × ℕ} {done : Text → SetState → SetState}
    (h : ∀ value s, StoredWithin field.1 field.2 s.config (done value s).config) :
    StoresWithin (fun value s => if taken (getTokenInt value).1 then label62 (done value s) else label140 s)
      field := by
  intro value s
  dsimp only
  split
  · exact h value s
  · exact storedWithin_refl

theorem within_setArray (bytes count : ℕ) {store : List U32 → ConfigData → ConfigData}
    {send : SetState → SetState} {field : ℕ × ℕ} (hsend : ∀ s, (send s).config = s.config)
    (hstore : ∀ xs c, StoredWithin field.1 field.2 c (store xs c)) :
    StoresWithin (setArray bytes count store send) field := by
  intro value s
  unfold setArray
  dsimp only
  cases readInts count value with
  | none => exact storedWithin_refl
  | some r =>
    show StoredWithin field.1 field.2 s.config (send _).config
    rw [hsend]
    exact hstore r.1 s.config

theorem within_setMirror : StoresWithin setMirror (cfgMirror, 1) := by
  intro value s
  have hput : ∀ b, StoredWithin cfgMirror 1 s.config (s.config.put cfgMirror b) :=
    fun b => storedWithin_refl.put ⟨le_refl cfgMirror, by omega⟩ b
  unfold setMirror
  split
  · exact hput 1
  · split
    · exact storedWithin_refl
    · exact hput 0

theorem within_setLed : StoresWithin setLed (cfgLed, 3) := by
  intro value s
  have hput : ∀ b b' b'', StoredWithin cfgLed 3 s.config
      (((s.config.put cfgLed b).put (cfgLed + 1) b').put (cfgLed + 2) b'') := fun b b' b'' =>
    ((storedWithin_refl.put ⟨le_refl cfgLed, by omega⟩ b).put ⟨by omega, by omega⟩ b').put ⟨by omega, by omega⟩ b''
  unfold setLed
  extract_lets led1 led2 led3
  split
  · split
    · split
      · exact hput _ _ _
      · exact storedWithin_refl
    · exact storedWithin_refl
  · exact storedWithin_refl

theorem within_storeIrAssign (xs : List U32) (c : ConfigData) : StoredWithin 206 120 c (storeIrAssign xs c) := by
  refine storedWithin_foldl 60 fun c' i hi h => ?_
  exact (h.put ⟨by omega, by omega⟩ _).put ⟨by omega, by omega⟩ _

theorem within_storeSteerAssign (xs : List U32) (past : U32) (c : ConfigData) :
    StoredWithin 0x148 150 c (storeSteerAssign xs past c) := by
  refine storedWithin_foldl 50 fun c' i hi h => ?_
  exact ((h.put ⟨by omega, by omega⟩ _).put ⟨by omega, by omega⟩ _).put ⟨by omega, by omega⟩ _

theorem within_storeConfig (xs : List U32) (c : ConfigData) : StoredWithin 0 512 c (storeConfig xs c) :=
  storedWithin_foldl 512 fun _ _ hi h => h.put ⟨Nat.zero_le _, by omega⟩ _

/-- The fields of the keys: the first byte and the number of bytes. -/
def fields : List (Text × (ℕ × ℕ)) := [
  (ascii "cfg_color", (480, 2)),
  (ascii "cfg_led_multi", (492, 1)),
  (ascii "cfg_wifi_pwr", (489, 1)),
  (ascii "cfg_blmode", (495, 1)),
  (ascii "cfg_powerdelay", (482, 1)),
  (ascii "cfg_mirror", (491, 1)),
  (ascii "cfg_backlight", (483, 1)),
  (ascii "cfg_beep", (484, 1)),
  (ascii "cfg_led", (485, 3)),
  (ascii "cfg_ir_assign", (206, 120)),
  (ascii "cfg_steer_assign", (328, 150)),
  (ascii "cfg_config", (0, 512))]

theorem matched_fields (env : SetEnv) :
    Matched (fun _ code field => StoresWithin code field) (Control.cfgCodes env) fields := by
  refine matched_cons (within_code fun value s => ?_) ?_
  · exact (storedWithin_refl.put ⟨by decide, by decide⟩ _).put ⟨by decide, by decide⟩ _
  refine matched_cons (within_code fun value s => ?_) ?_
  · exact storedWithin_refl.put ⟨by decide, by decide⟩ _
  refine matched_cons (within_setScalar wifiPwr _ fun s => ?_) ?_
  · split <;> rfl
  refine matched_cons (within_setScalar cfgBlmode _ fun _ => rfl) ?_
  refine matched_cons (within_setScalar cfgPowerdelay _ fun _ => rfl) ?_
  refine matched_cons within_setMirror ?_
  refine matched_cons (within_setScalar cfgBacklight _ fun _ => rfl) ?_
  refine matched_cons (within_setScalar ctlBeep _ fun _ => rfl) ?_
  refine matched_cons within_setLed ?_
  refine matched_cons (within_setArray _ _ (fun _ => rfl) within_storeIrAssign) ?_
  refine matched_cons (within_setArray _ _ (fun _ => rfl) fun xs => within_storeSteerAssign xs env.past) ?_
  refine matched_cons (within_setArray _ _ (fun _ => rfl) within_storeConfig) ?_
  exact matched_nil

/-! ## What the codes store -/

namespace Setting

/-- The code stores the number of the value in the bytes of the setting, if there is one. -/
def StoredBy (k : Setting) (code : Control.CfgCode) : Prop :=
  ∀ (value : Text) (s : SetState), k.number (code value s).2.config.byte =
    if taken (getTokenInt value).1 then (getTokenInt value).1.toNat % 256 ^ k.place.length
    else k.number s.config.byte

theorem join_singleton (b : U8) : join [b] = b.toNat := by simp [join]

theorem storedBy_setScalar (key : Text) {offset : ℕ} (hoffset : offset < 512) (cmd : U32)
    {also : SetState → SetState} (halso : ∀ s, (also s).config = s.config) :
    StoredBy ⟨key, [offset]⟩ (setScalar offset cmd also) := by
  intro value s
  unfold setScalar
  extract_lets v
  split
  · simp only [label62, halso, SetState.emit, SetState.put, number, join_singleton, byte_put_self _ hoffset,
      List.map_cons, List.map_nil, List.length_singleton, Nat.pow_one, BitVec.toNat_setWidth]
    rfl
  · rfl

theorem storedBy_color (key : Text) : StoredBy ⟨key, [480, 481]⟩ fun value s =>
    if taken (getTokenInt value).1 then
      label62 (((s.put (cfgColor + 1) ((getTokenInt value).1.setWidth 8)).put cfgColor
        (((getTokenInt value).1 >>> 8).setWidth 8)).emit (.armSendMulti 0x9507 2))
    else label140 s := by
  intro value s
  dsimp only
  split
  · have hbytes : ∀ (b b' : U8) (c : ConfigData),
        let c' := (c.put (cfgColor + 1) b).put cfgColor b'
        c'.byte 480 = b' ∧ c'.byte 481 = b := by
      intro b b' c
      simp (disch := decide) only [cfgColor, byte_put_self, byte_put_ne, and_self]
    have hjoin : ∀ v : U32, join [(v >>> 8).setWidth 8, v.setWidth 8] = v.toNat % 256 ^ 2 := by
      intro v
      simp only [join, List.foldl_cons, List.foldl_nil, BitVec.toNat_setWidth, BitVec.toNat_ushiftRight,
        Nat.shiftRight_eq_div_pow]
      omega
    obtain ⟨hhi, hlo⟩ := hbytes ((getTokenInt value).1.setWidth 8) (((getTokenInt value).1 >>> 8).setWidth 8) s.config
    simp only [label62, SetState.emit, SetState.put, number, hhi, hlo, hjoin, List.map_cons, List.map_nil,
      List.length_cons, List.length_nil]
  · rfl

theorem storedBy_ledMulti (key : Text) : StoredBy ⟨key, [492]⟩ fun value s =>
    if taken (getTokenInt value).1 then
      label62 ((s.put cfgLedMulti ((getTokenInt value).1.setWidth 8)).emit (.armSendMulti 0x9508 1))
    else label140 s := by
  have hscalar : StoredBy ⟨key, [cfgLedMulti]⟩ (setScalar cfgLedMulti 0x9508 id) :=
    storedBy_setScalar key (by decide) 0x9508 fun _ => rfl
  exact hscalar

/-- The codes of the settings store their number. -/
theorem storedBy_stored (env : SetEnv) : ∀ k ∈ stored, ∃ code, (Control.cfgCodes env).lookup k.key = some code ∧
    StoredBy k code := by
  unfold stored
  simp only [List.forall_mem_cons]
  refine ⟨⟨_, rfl, storedBy_color _⟩, ⟨_, rfl, storedBy_ledMulti _⟩, ⟨_, rfl, storedBy_setScalar _ (by decide) _ ?_⟩,
    ⟨_, rfl, storedBy_setScalar _ (by decide) _ fun _ => rfl⟩,
    ⟨_, rfl, storedBy_setScalar _ (by decide) _ fun _ => rfl⟩,
    ⟨_, rfl, storedBy_setScalar _ (by decide) _ fun _ => rfl⟩,
    ⟨_, rfl, storedBy_setScalar _ (by decide) _ fun _ => rfl⟩, by simp⟩
  intro s
  split <;> rfl

/-- A request for the whole configuration brings every setting. -/
theorem number_setConfig {k : Setting} (hk : ∀ i ∈ k.place, i < 512) (value : Text) (s : SetState) :
    k.number (setConfig value s).2.config.byte =
      ((readInts 512 value).map fun t => k.number fun i => (elem t.1 i).setWidth 8).getD (k.number s.config.byte) := by
  unfold setConfig setArray
  cases readInts 512 value with
  | none => rfl
  | some r =>
    rw [Option.map_some, Option.getD_some]
    dsimp only [label62, SetState.emit]
    exact congrArg join (List.map_congr_left fun i hi => byte_storeConfig r.1 s.config (hk i hi))

/-- Stores next to the place of a setting leave its number. -/
theorem number_of_within {k : Setting} {field : ℕ × ℕ} {c c' : ConfigData}
    (h : StoredWithin field.1 field.2 c c') (hk : ∀ i ∈ k.place, ¬(field.1 ≤ i ∧ i < field.1 + field.2)) :
    k.number c'.byte = k.number c.byte := congrArg join (List.map_congr_left fun i hi => h i (hk i hi))

end Setting

/-! ## Requests of the other prefixes -/

namespace Control

/-- The code behind a key leaves the configuration. -/
def Leaves (h : Handler) : Prop := ∀ value s, (h value s).2.set = s.set

/-- The code behind the words leaves it. -/
def WordsLeave (words : List (Text × (Control → Control))) : Prop := ∀ w ∈ words, ∀ s, (w.2 s).set = s.set

theorem leave_nil : WordsLeave [] := by
  intro w hw
  cases hw

theorem leave_cons {word : Text} {run : Control → Control} {words : List (Text × (Control → Control))}
    (h : ∀ s, (run s).set = s.set) (hrest : WordsLeave words) : WordsLeave ((word, run) :: words) :=
  List.forall_mem_cons.mpr ⟨h, hrest⟩

theorem leaves_onWord {words : List (Text × (Control → Control))} (h : WordsLeave words) : Leaves (onWord words) := by
  intro value s
  unfold onWord
  split
  · rename_i run hrun
    obtain ⟨l, l', hwords, _⟩ := List.lookup_eq_some_iff.mp hrun
    refine h (value, run) ?_ s
    rw [hwords]
    exact List.mem_append_right l List.mem_cons_self
  · rfl

theorem leaves_two {word word' : Text} {run run' : Control → Control} (h : ∀ s, (run s).set = s.set)
    (h' : ∀ s, (run' s).set = s.set) : Leaves (onWord [(word, run), (word', run')]) :=
  leaves_onWord (leave_cons h (leave_cons h' leave_nil))

theorem leaves_onNumber {run : U32 → Control → Control} (h : ∀ v s, (run v s).set = s.set) :
    Leaves (onNumber run) := by
  intro value s
  unfold onNumber
  extract_lets v
  split
  · exact h v s
  · rfl

/-- The code behind the keys of a table leaves it. -/
def TableLeaves (handlers : List (Text × Handler)) : Prop := ∀ p ∈ handlers, Leaves p.2

theorem leaves_nil : TableLeaves [] := by
  intro p hp
  cases hp

theorem leaves_cons {key : Text} {h : Handler} {handlers : List (Text × Handler)} (hkey : Leaves h)
    (hrest : TableLeaves handlers) : TableLeaves ((key, h) :: handlers) := List.forall_mem_cons.mpr ⟨hkey, hrest⟩

theorem leaves_rptComplete (other : U8) : Leaves (rptComplete other) := by
  refine leaves_onWord (leave_cons (fun s => ?_) leave_nil)
  split <;> rfl

theorem leaves_rpt (env : ControlEnv) : TableLeaves (rptHandlers env) := by
  refine leaves_cons (leaves_rptComplete env.v180) ?_
  refine leaves_cons (leaves_rptComplete env.v179) ?_
  refine leaves_cons (fun value s => ?_) ?_
  · have hwords : Leaves (onWord [(ascii "true", fun s =>
        { s.emit (.armSend 0x204) with rptBootAndroid := 1 }.carAddWork 38 0)]) :=
      leaves_onWord (leave_cons (fun _ => rfl) leave_nil)
    exact hwords value { s with rptBootAppinit := 0 }
  refine leaves_cons (fun _ _ => rfl) ?_
  refine leaves_cons (leaves_onWord (leave_cons (fun _ => rfl) leave_nil)) ?_
  refine leaves_cons (leaves_onWord (leave_cons (fun _ => rfl) leave_nil)) ?_
  refine leaves_cons (leaves_two (fun _ => rfl) fun _ => rfl) ?_
  refine leaves_cons (leaves_onWord (leave_cons (fun _ => rfl) (leave_cons (fun _ => rfl)
    (leave_cons (fun _ => rfl) (leave_cons (fun _ => rfl) leave_nil))))) ?_
  exact leaves_nil

@[simp] theorem set_audioAddWork (cmd1 cmd2 cmd3 val1 : U32) (s : Control) :
    (s.audioAddWork cmd1 cmd2 cmd3 val1).set = s.set := by
  unfold audioAddWork
  dsimp only

@[simp] theorem set_emit (a : ControlAct) (s : Control) : (s.emit a).set = s.set := by
  unfold emit
  dsimp only

@[simp] theorem set_channelWork (cmd1 cmd3 val1 ch : U32) (s : Control) :
    (s.channelWork cmd1 cmd3 val1 ch).set = s.set := by simp [channelWork]

theorem leaves_avEq : Leaves avEq := by
  intro value s
  unfold avEq
  extract_lets eq1 eq2 eq3
  split
  · split
    · split
      · exact set_audioAddWork _ _ _ _ s
      · rfl
    · rfl
  · rfl

theorem leaves_avVolumeOf (key : VolumeKey) : Leaves (avVolumeOf key) := by
  intro value s
  unfold avVolumeOf
  dsimp only

theorem leaves_avRequest (key : AvKey) : Leaves (avRequest key) := by
  intro value s
  unfold avRequest
  dsimp only

theorem leaves_audio {word word' : Text} {cmd cmd' v v' : U32} :
    Leaves (onWord [(word, audioAddWork cmd v 0 0), (word', audioAddWork cmd' v' 0 0)]) :=
  leaves_two (set_audioAddWork _ _ _ _) (set_audioAddWork _ _ _ _)

theorem leave_enter (ch : U32) (s : Control) : (s.enter ch).set = s.set := set_channelWork _ _ _ _ s

theorem leave_leave (ch : U32) (s : Control) : (s.leave ch).set = s.set := set_channelWork _ _ _ _ s

theorem leave_flag (ch : U32) (s : Control) : (s.clearFlag1.enter ch).set = s.set := leave_enter ch _

theorem leaves_avChannelEnter : Leaves avChannelEnter :=
  leaves_onWord (leave_cons (leave_enter 0) (leave_cons (leave_enter 1) (leave_cons (leave_enter 2)
    (leave_cons (leave_flag 3) (leave_cons (leave_enter 4) (leave_cons (leave_flag 5) (leave_cons (leave_flag 7)
    (leave_cons (leave_enter 6) leave_nil))))))))

theorem leaves_avChannelExit : Leaves avChannelExit :=
  leaves_onWord (leave_cons (leave_leave 0) (leave_cons (leave_leave 1) (leave_cons (leave_leave 2)
    (leave_cons (leave_leave 3) (leave_cons (leave_leave 7) (leave_cons (leave_leave 4) (leave_cons (leave_leave 5)
    (leave_cons (leave_leave 6) leave_nil))))))))

theorem leaves_av : TableLeaves avHandlers := by
  refine leaves_cons leaves_avChannelEnter ?_
  refine leaves_cons leaves_avChannelExit ?_
  refine leaves_cons (leaves_avVolumeOf _) ?_
  refine leaves_cons (leaves_avVolumeOf _) ?_
  refine leaves_cons leaves_audio ?_
  refine leaves_cons (leaves_avRequest _) ?_
  refine leaves_cons leaves_audio ?_
  refine leaves_cons leaves_audio ?_
  refine leaves_cons leaves_audio ?_
  refine leaves_cons (leaves_avRequest _) ?_
  refine leaves_cons leaves_avEq ?_
  refine leaves_cons (leaves_two (fun s => ?_) fun s => ?_) ?_
  · split <;> simp [setGpsMonitor]
  · split <;> simp [setGpsMonitor]
  refine leaves_cons (leaves_two (fun s => ?_) fun s => ?_) ?_
  · split <;> simp [setGpsSwitch]
  · split <;> simp [setGpsSwitch]
  refine leaves_cons (leaves_onNumber fun v s => ?_) ?_
  · split <;> rfl
  refine leaves_cons (leaves_onNumber fun v s => set_audioAddWork 14 v 0 0 s) ?_
  exact leaves_nil

theorem leaves_four {w1 w2 w3 w4 : Text} {a1 a2 a3 a4 : ControlAct} :
    Leaves (onWord [(w1, fun s => s.emit a1), (w2, fun s => s.emit a2), (w3, fun s => s.emit a3),
      (w4, fun s => s.emit a4)]) :=
  leaves_onWord (leave_cons (fun _ => rfl) (leave_cons (fun _ => rfl) (leave_cons (fun _ => rfl)
    (leave_cons (fun _ => rfl) leave_nil))))

theorem leaves_ctlKey : Leaves ctlKey := by
  refine leaves_onWord (leave_cons (fun _ => rfl) (leave_cons (fun _ => rfl) (leave_cons (fun _ => rfl)
    (leave_cons (fun s => ?_) (leave_cons (fun _ => rfl) (leave_cons (fun _ => rfl) leave_nil))))))
  unfold screenBrightness
  split <;> rfl

theorem leaves_ctl : TableLeaves ctlHandlers := by
  refine leaves_cons (fun value s => ?_) ?_
  · unfold ctlUvCal
    extract_lets v178
    split <;> rfl
  refine leaves_cons (fun value s => ?_) ?_
  · unfold ctlCvbsBrightness
    extract_lets brightness
    split <;> rfl
  refine leaves_cons (fun _ _ => rfl) ?_
  refine leaves_cons (fun value s => ?_) ?_
  · unfold ctlCamera
    split
    · rfl
    · split <;> rfl
  refine leaves_cons leaves_four ?_
  refine leaves_cons leaves_four ?_
  refine leaves_cons (leaves_two (fun _ => rfl) fun _ => rfl) ?_
  refine leaves_cons (fun value s => ?_) ?_
  · unfold ctlBeepKey
    split <;> rfl
  refine leaves_cons (fun _ _ => rfl) ?_
  refine leaves_cons (leaves_onNumber fun _ _ => rfl) ?_
  refine leaves_cons (leaves_onWord (leave_cons (fun _ => rfl) (leave_cons (fun _ => rfl)
    (leave_cons (fun _ => rfl) leave_nil)))) ?_
  refine leaves_cons (leaves_two (fun _ => rfl) fun _ => rfl) ?_
  refine leaves_cons (leaves_two (fun _ => rfl) fun _ => rfl) ?_
  refine leaves_cons (fun _ _ => rfl) ?_
  refine leaves_cons (leaves_onNumber fun _ _ => rfl) ?_
  refine leaves_cons (leaves_onNumber fun _ _ => rfl) ?_
  refine leaves_cons leaves_audio ?_
  refine leaves_cons (leaves_two (fun s => by simp) fun s => by simp) ?_
  refine leaves_cons (leaves_two (fun _ => rfl) fun _ => rfl) ?_
  refine leaves_cons (leaves_onNumber fun _ _ => rfl) ?_
  refine leaves_cons (leaves_two (fun _ => rfl) fun _ => rfl) ?_
  refine leaves_cons (leaves_onNumber fun _ _ => rfl) ?_
  refine leaves_cons (leaves_onNumber fun v s => ?_) ?_
  · split <;> rfl
  refine leaves_cons leaves_ctlKey ?_
  refine leaves_cons (leaves_two (fun _ => rfl) fun _ => rfl) ?_
  refine leaves_cons (leaves_two (fun _ => rfl) fun s => ?_) ?_
  · split <;> rfl
  exact leaves_nil

theorem leaves_compareKeys {handlers : List (Text × Handler)} (h : TableLeaves handlers) (key : Text) :
    Leaves (compareKeys handlers key) := by
  intro value s
  unfold compareKeys
  split
  · rename_i run hrun
    obtain ⟨l, l', hhandlers, _⟩ := List.lookup_eq_some_iff.mp hrun
    refine h (key, run) ?_ value s
    rw [hhandlers]
    exact List.mem_append_right l List.mem_cons_self
  · rfl

/-- Only the requests with the prefix of the configuration store in it. -/
theorem set_request (s : Control) (r : Request) :
    (s.request r).set =
      if 4 < r.key.length ∧ r.key.take 4 = ascii "cfg_" then (cfgSet r.env.toSetEnv r.key r.value s.set).2
      else s.set := by
  unfold request setRequest
  split
  · rename_i hlen
    rw [if_neg fun h => absurd h.1 (Nat.not_lt.mpr hlen)]
    rfl
  · rename_i hlen
    by_cases hcfg : r.key.take 4 = ascii "cfg_"
    · have hhead : r.key.head? = some 0x63 := head?_of_take hcfg
      rw [if_pos hhead, if_pos hcfg, if_pos ⟨Nat.lt_of_not_le hlen, hcfg⟩]
      rfl
    · have hnot : ¬(4 < r.key.length ∧ r.key.take 4 = ascii "cfg_") := fun h => hcfg h.2
      rw [if_neg hnot, if_neg hcfg]
      split
      · split
        · exact leaves_compareKeys leaves_ctl r.key r.value s
        · rfl
      · split
        · split
          · exact leaves_compareKeys leaves_av r.key r.value s
          · rfl
        · split
          · exact leaves_compareKeys (leaves_rpt r.env) r.key r.value s
          · rfl

end Control

/-! ## The answers after some requests -/

namespace Setting

open Control

/-- The keys that store where a setting is are its own and that of the whole configuration. -/
theorem apart : ∀ k ∈ stored ++ fixed, ∀ f ∈ fields,
    f.1 = ascii "cfg_config" ∨ (f.1 = k.key ∧ k ∈ stored) ∨
      ∀ i ∈ k.place, ¬(f.2.1 ≤ i ∧ i < f.2.1 + f.2.2) := by decide

theorem place_lt : ∀ k ∈ stored ++ fixed, ∀ i ∈ k.place, i < 512 := by decide

theorem take_stored : ∀ k ∈ stored, k.key.take 4 = ascii "cfg_" ∧ 4 < k.key.length := by decide

theorem written_of_ne {k : Setting} {r : Request} (hconfig : r.key ≠ ascii "cfg_config")
    (hown : ¬(r.key = k.key ∧ k ∈ stored)) : k.written r = none := by
  unfold written
  rw [if_neg hconfig, if_neg hown]

theorem written_own {k : Setting} {r : Request} (hconfig : r.key ≠ ascii "cfg_config")
    (hown : r.key = k.key ∧ k ∈ stored) (held : ℕ) : (k.written r).getD held =
      if taken (getTokenInt r.value).1 then (getTokenInt r.value).1.toNat % 256 ^ k.place.length else held := by
  unfold written
  rw [if_neg hconfig, if_pos hown]
  extract_lets v
  split
  · rfl
  · rfl

/-- What a code of the configuration leaves in a setting. -/
theorem number_cfgSet {k : Setting} (hk : k ∈ stored ++ fixed) (r : Request) (s : SetState)
    (hlen : 4 < r.key.length) :
    k.number (cfgSet r.env.toSetEnv r.key r.value s).2.config.byte = (k.written r).getD (k.number s.config.byte) := by
  rw [cfgSet_eq_lookup r.env.toSetEnv r.value s hlen]
  by_cases hconfig : r.key = ascii "cfg_config"
  · have hlookup : (cfgCodes r.env.toSetEnv).lookup r.key = some setConfig := by
      rw [hconfig]
      rfl
    rw [hlookup, written, if_pos hconfig]
    exact number_setConfig (place_lt k hk) r.value s
  by_cases hown : r.key = k.key ∧ k ∈ stored
  · obtain ⟨code, hlookup, hcode⟩ := storedBy_stored r.env.toSetEnv k hown.2
    rw [written_own hconfig hown, hown.1, hlookup]
    exact hcode r.value s
  rw [written_of_ne hconfig hown, Option.getD_none]
  rcases matched_lookup (a := r.key) (matched_fields r.env.toSetEnv) with
    ⟨hnone, -⟩ | ⟨code, field, hsome, hfield, hcode⟩
  · rw [hnone]
    rfl
  · rw [hsome]
    obtain ⟨l, l', hfields, -⟩ := List.lookup_eq_some_iff.mp hfield
    have hmem : (r.key, field) ∈ fields := hfields ▸ List.mem_append_right l List.mem_cons_self
    have happart := ((apart k hk _ hmem).resolve_left hconfig).resolve_left hown
    exact number_of_within (hcode r.value s) happart

theorem number_request {k : Setting} (hk : k ∈ stored ++ fixed) (s : Control) (r : Request) :
    k.number (s.request r).set.config.byte = (k.written r).getD (k.number s.set.config.byte) := by
  rw [set_request]
  split
  · rename_i hcfg
    exact number_cfgSet hk r s.set hcfg.1
  · rename_i hcfg
    have hconfig : r.key ≠ ascii "cfg_config" := by
      intro hkey
      rw [hkey] at hcfg
      exact hcfg (by decide)
    have hown : ¬(r.key = k.key ∧ k ∈ stored) := by
      rintro ⟨hkey, hstored⟩
      obtain ⟨htake, hlen⟩ := take_stored k hstored
      exact hcfg (hkey ▸ ⟨hlen, htake⟩)
    rw [written_of_ne hconfig hown, Option.getD_none]

theorem shown {k : Setting} (hk : k ∈ stored ++ fixed) : Shown k := by
  rcases List.mem_append.mp hk with h | h
  · exact shown_stored k h
  · exact shown_fixed k h

/-- After any requests, a getter answers with the number that was last written to its setting, whatever the answer
    buffer holds. -/
theorem answer_last_written (k : Setting) (hk : k ∈ stored ++ fixed) (s : Control) (rs : List Request) (g : GetState)
    (hg : g.config = (Run.after request s rs).set.config) (buf : AnswerBuf) (p : Peripherals) (pos : Text) :
    (getHalf p k.key pos ⟨g, buf⟩).2 =
      (decimal (Run.latest k.written (k.number s.set.config.byte) rs), 0) := by
  have hread : k.number g.config.byte = Run.latest k.written (k.number s.set.config.byte) rs := by
    rw [hg]
    exact Run.read_after (fun s : Control => k.number s.set.config.byte) (number_request hk) s rs
  rw [getHalf_eq (shown hk g p pos)]
  show (cString (buf.store 0 _), (0 : ℤ)) = _
  rw [AnswerBuf.cString_store_start, cString_eq_self (decimal_ne_zero _), hread]

/-- A unit with nothing configured. -/
def blank : Control where
  set := ⟨default, 0, []⟩
  unit := default
  rptBootAndroid := 0
  rptBootAppinit := 0
  rptPower := 0
  keyMode := 0
  avChannelFlag1 := 0
  avGpsGain := 0
  uvCal := 0
  reserved22_8 := 0
  decoderState := 0
  radarVal := 0
  backlightStatus := 0
  power2Flag := 0
  wipeFlag := 0
  acts := []

/-- Nothing is connected. -/
def unplugged : Peripherals where
  dvdGetFolder _ := []
  dvdGetMedia _ := []
  dvdGetMediaTitle := []
  foldersCount := 0
  mediaCount := 0
  folderIdx := 0
  mediaIdx := 0
  dvdLength := 0
  dvdPosition := 0
  touchAdc := (0, 0)
  staTouchCal _ := 0
  radioGetSignal _ := 0
  tvGetStatus _ := 0
  checkTvSignal _ := 0
  printTouchInfo _ _ _ _ := []
  printLed _ _ _ := []

/-- A color that is too large for its two bytes, a request without a number, and one for another setting. -/
def colorRequests : List Request := [
  ⟨⟨⟨0, false, 0⟩, 0, 0⟩, ascii "cfg_color", ascii "65837"⟩,
  ⟨⟨⟨0, false, 0⟩, 0, 0⟩, ascii "cfg_color", ascii "-"⟩,
  ⟨⟨⟨0, false, 0⟩, 0, 0⟩, ascii "cfg_beep", ascii "1"⟩]

theorem answer_last_written_color :
    (getHalf unplugged (ascii "cfg_color") []
      ⟨{ (default : GetState) with config := (Run.after request blank colorRequests).set.config }, ascii "earlier"⟩).2 =
      (ascii "301", 0) := by
  refine (answer_last_written ⟨ascii "cfg_color", [480, 481]⟩ (by decide) blank colorRequests
    { (default : GetState) with config := (Run.after request blank colorRequests).set.config } (by dsimp only)
    (ascii "earlier") unplugged []).trans ?_
  decide

end Setting

end MtcDrivers
