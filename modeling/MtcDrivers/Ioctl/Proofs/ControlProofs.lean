import MtcDrivers.Ioctl.Control
import MtcDrivers.Ioctl.Proofs.SetterProofs
import MtcDrivers.Search.First

/-!
# Proofs: accepted and rejected requests

The tables of the comparisons and of the accepted values have the same keys, so a request is judged by the
form of its key.
-/

namespace MtcDrivers

namespace Control

open Search

/-! ## The forms -/

/-- The code behind a key accepts the values of a form, and no others. -/
structure Meets (key : Text) (h : Handler) (f : ValueForm) : Prop where
  accepts : ∀ value s, f.Matches value s → (h value s).1 = 0
  rejects : ∀ value s, ¬ f.Matches value s → h value s = (-1, clearedBy key s)

theorem lookup_isSome_iff {β : Type} (words : List (Text × β)) (value : Text) :
    (words.lookup value).isSome = true ↔ value ∈ words.map Prod.fst := by
  induction words with
  | nil => simp
  | cons w words ih =>
    obtain ⟨word, run⟩ := w
    rw [List.lookup_cons, List.map_cons, List.mem_cons]
    by_cases hw : value = word
    · simp [hw]
    · have hbeq : (value == word) = false := beq_eq_false_iff_ne.mpr hw
      simp only [hbeq, hw, false_or]
      exact ih

theorem isSome_readInts_one {value : Text} :
    (readInts 1 value).isSome = true ↔ taken (getTokenInt value).1 = true := by
  unfold taken
  cases h : (getTokenInt value).1.slt 0#32 <;> simp [readInts, h]

theorem isSome_readInts_succ {n : ℕ} {value : Text} :
    (readInts (n + 1) value).isSome = true ↔
      taken (getTokenInt value).1 = true ∧ (readInts n (getTokenInt value).2).isSome = true := by
  unfold taken
  cases h : (getTokenInt value).1.slt 0#32 <;> simp [readInts, h]

/-- The result is 0 if `P` holds, and -1 otherwise. -/
structure Decides (r : ℤ × SetState) (P : Prop) : Prop where
  zero : P → r.1 = 0
  negative : ¬ P → r.1 = -1

/-- The code of a key of the configuration. -/
abbrev CfgCode := Text → SetState → ℤ × SetState

/-- The code of the keys of the configuration. A color or led request that is rejected meets none of the
    comparisons behind its own. -/
def cfgCodes (env : SetEnv) : List (Text × CfgCode) := [
  (ascii "cfg_color", fun value s =>
    if taken (getTokenInt value).1 then
      MtcDrivers.label62 (((s.put (ConfigData.cfgColor + 1) ((getTokenInt value).1.setWidth 8)).put
        ConfigData.cfgColor (((getTokenInt value).1 >>> 8).setWidth 8)).emit (.armSendMulti 0x9507 2))
    else MtcDrivers.label140 s),
  (ascii "cfg_led_multi", fun value s =>
    if taken (getTokenInt value).1 then
      MtcDrivers.label62 ((s.put ConfigData.cfgLedMulti ((getTokenInt value).1.setWidth 8)).emit
        (.armSendMulti 0x9508 1))
    else MtcDrivers.label140 s),
  (ascii "cfg_wifi_pwr", setWifiPwr env),
  (ascii "cfg_blmode", setBlmode),
  (ascii "cfg_powerdelay", setPowerdelay),
  (ascii "cfg_mirror", setMirror),
  (ascii "cfg_backlight", setBacklight),
  (ascii "cfg_beep", setBeep),
  (ascii "cfg_led", setLed),
  (ascii "cfg_ir_assign", setIrAssign),
  (ascii "cfg_steer_assign", setSteerAssign env),
  (ascii "cfg_config", setConfig)]

theorem cfgSet_eq_lookup (env : SetEnv) {key : Text} (value : Text) (s : SetState) (hlen : 4 < key.length) :
    cfgSet env key value s =
      match (cfgCodes env).lookup key with
      | some code => code value s
      | none => MtcDrivers.label140 s := by
  by_cases hcolor : key = ascii "cfg_color"
  · subst hcolor
    rfl
  by_cases hled : key = ascii "cfg_led_multi"
  · subst hled
    rfl
  by_cases hwifi : key = ascii "cfg_wifi_pwr"
  · subst hwifi
    rfl
  by_cases hblmode : key = ascii "cfg_blmode"
  · subst hblmode
    rfl
  by_cases hdelay : key = ascii "cfg_powerdelay"
  · subst hdelay
    rfl
  by_cases hmirror : key = ascii "cfg_mirror"
  · subst hmirror
    rfl
  by_cases hlight : key = ascii "cfg_backlight"
  · subst hlight
    rfl
  by_cases hbeep : key = ascii "cfg_beep"
  · subst hbeep
    rfl
  by_cases hleds : key = ascii "cfg_led"
  · subst hleds
    rfl
  by_cases hir : key = ascii "cfg_ir_assign"
  · subst hir
    rfl
  by_cases hsteer : key = ascii "cfg_steer_assign"
  · subst hsteer
    rfl
  by_cases hconfig : key = ascii "cfg_config"
  · subst hconfig
    rfl
  have hnone : (cfgCodes env).lookup key = none := by
    rw [← Option.not_isSome_iff_eq_none, lookup_isSome_iff]
    simp [cfgCodes, *]
  rw [hnone]
  unfold cfgSet cfgSetLedMulti cfgSetTail
  simp only [if_neg (Nat.not_le.mpr hlen), if_neg hcolor, if_neg hled, if_neg hwifi, if_neg hblmode,
    if_neg hdelay, if_neg hmirror, if_neg hlight, if_neg hbeep, if_neg hleds, if_neg hir, if_neg hsteer,
    if_neg hconfig]

theorem accepted_iff {key : Text} {forms : List (Text × ValueForm)} (hforms : prefixForms key = some forms)
    (value : Text) (s : Control) :
    Accepted key value s ↔ ∃ f, forms.lookup key = some f ∧ f.Matches value s := by
  constructor
  · rintro ⟨forms', f, hforms', h⟩
    rw [hforms, Option.some.injEq] at hforms'
    subst hforms'
    exact ⟨f, h⟩
  · rintro ⟨f, h⟩
    exact ⟨forms, f, hforms, h⟩

/-- The first byte of a key with a prefix is the one of the prefix. -/
theorem head?_of_take {key start : Text} {n : ℕ} (h : key.take (n + 1) = start) : key.head? = start.head? := by
  rw [← h, List.head?_take, if_neg (Nat.succ_ne_zero n)]

end Control

end MtcDrivers
