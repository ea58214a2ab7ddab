import MtcDrivers.Audio.Gate
import MtcDrivers.Ioctl.Proofs.DispatchProofs

/-!
# Proofs: the gates of the volume requests

`get_token_int` returns the value of the digits modulo `2 ^ 32`, so the gate opens for every token whose
value is at most 100 modulo `2 ^ 32`.
-/

namespace MtcDrivers

/-! ## The value of a token -/

theorem setWidth_digit {c : U8} (hc : isDigit c = true) :
    (c.setWidth 32 - 0x30 : U32) = BitVec.ofNat 32 (c - 0x30).toNat := by
  have hle : (c - 0x30).toNat ≤ 9 := BitVec.le_def.mp (of_decide_eq_true hc)
  have hc := c.isLt
  rw [BitVec.toNat_sub] at hle
  apply BitVec.eq_of_toNat_eq
  rw [BitVec.toNat_sub, BitVec.toNat_setWidth, BitVec.toNat_ofNat, BitVec.toNat_sub]
  simp only [BitVec.reduceToNat] at hle ⊢
  omega

theorem addDigit_ofNat (n : ℕ) {c : U8} (hc : isDigit c = true) :
    addDigit (BitVec.ofNat 32 n) c = BitVec.ofNat 32 (10 * n + (c - 0x30).toNat) := by
  rw [addDigit, setWidth_digit hc, BitVec.ofNat_add, BitVec.ofNat_mul, BitVec.mul_comm]
  rfl

/-- The digits are accumulated modulo `2 ^ 32`. -/
theorem accumulate_ofNat (n : ℕ) {ds : Text} (hds : ∀ c ∈ ds, isDigit c = true) :
    accumulate (BitVec.ofNat 32 n) ds = BitVec.ofNat 32 (appendDigits n ds) := by
  induction ds generalizing n with
  | nil => rfl
  | cons c ds ih =>
    have hrest := ih (10 * n + (c - 0x30).toNat) fun d hd => hds d (List.mem_cons_of_mem c hd)
    rw [accumulate, List.foldl_cons, addDigit_ofNat n (hds c List.mem_cons_self)]
    exact hrest

theorem getTokenInt_numeric (t : NumericToken) :
    getTokenInt t.text = (t.value.elim (-1) (BitVec.ofNat 32), []) := by
  obtain ⟨text, hdigits⟩ := t
  cases text with
  | nil => rfl
  | cons c ds =>
    have hc := hdigits c List.mem_cons_self
    have hvalue : NumericToken.value ⟨c :: ds, hdigits⟩ = some (appendDigits 0 (c :: ds)) :=
      if_neg (List.cons_ne_nil c ds)
    rw [getTokenInt, if_neg (ne_comma_of_digit hc), if_pos hc,
      tokenLoop_end (fun d hd => hdigits d (List.mem_cons_of_mem c hd)), hvalue, Option.elim_some,
      ← accumulate_ofNat 0 hdigits]
    rfl

/-! ## The gate -/

/-- As an `int`, a value is from 0 to 100 if and only if it is at most 100 modulo `2 ^ 32`. -/
theorem gate_open_iff (n : ℕ) :
    (taken (BitVec.ofNat 32 n) ∧ (BitVec.ofNat 32 n).sle 100) ↔ n % 2 ^ 32 ≤ 100 := by
  have h100 : (100 : U32).toInt = 100 := rfl
  rw [taken, Bool.not_eq_true', BitVec.slt_zero_eq_msb, BitVec.msb_eq_decide, decide_eq_false_iff_not,
    BitVec.sle, decide_eq_true_eq, h100, BitVec.toInt_eq_toNat_cond, BitVec.toNat_ofNat]
  split_ifs <;> omega

namespace Audio

variable {key : VolumeKey} {t : NumericToken} {a : Audio} {n : ℕ}

theorem ioctlVolume_eq (hn : t.value = some n) :
    ioctlVolume key t.text a =
      if n % 2 ^ 32 ≤ 100 then (0, a.audioAddWork key.work (BitVec.ofNat 32 n) 0 0) else (-1, []) := by
  rw [ioctlVolume, getTokenInt_numeric, hn]
  exact if_congr (gate_open_iff n) rfl rfl

theorem ioctlVolume_none (hnone : t.value = none) : ioctlVolume key t.text a = (-1, []) := by
  rw [ioctlVolume, getTokenInt_numeric, hnone]
  rfl

theorem gateExact_some_iff (hn : t.value = some n) :
    GateExact key t a ↔ (n ≤ 100 → a.audioReady ≠ 0) ∧ (100 < n → 100 < n % 2 ^ 32) := by
  constructor
  · intro h
    constructor
    · intro hle hready
      have hqueued := h.queued n hn hle
      rw [ioctlVolume_eq hn, if_pos (by omega), audioAddWork, if_neg (not_not.mpr hready)] at hqueued
      exact absurd hqueued (List.cons_ne_nil _ _).symm
    · intro hlt
      have hrefused := h.refused fun n' hn' => by
        obtain rfl := Option.some.inj (hn.symm.trans hn')
        exact hlt
      by_contra hwraps
      rw [ioctlVolume_eq hn, if_pos (Nat.le_of_not_lt hwraps)] at hrefused
      exact absurd (congrArg Prod.fst hrefused) (show (0 : ℤ) ≠ -1 by decide)
  · rintro ⟨hready, hwraps⟩
    refine ⟨fun n' hn' hle => ?_, fun hlarge => ?_⟩
    · obtain rfl := Option.some.inj (hn.symm.trans hn')
      rw [ioctlVolume_eq hn, if_pos (by omega), audioAddWork, if_pos (hready hle)]
    · rw [ioctlVolume_eq hn, if_neg (Nat.not_le_of_lt (hwraps (hlarge n hn)))]

/-- The gate is exact for a token if and only if the audio module takes work for a value up to 100, and a
larger value is larger than 100 modulo `2 ^ 32` too. -/
theorem volumeGate_exact_iff (key : VolumeKey) (t : NumericToken) (a : Audio) :
    GateExact key t a ↔
      ∀ n, t.value = some n → (n ≤ 100 → a.audioReady ≠ 0) ∧ (100 < n → 100 < n % 2 ^ 32) := by
  cases hvalue : t.value with
  | none =>
    constructor
    · rintro - n hn
      cases hn
    · rintro -
      refine ⟨fun n hn => ?_, fun _ => ioctlVolume_none hvalue⟩
      rw [hvalue] at hn
      cases hn
  | some n =>
    rw [gateExact_some_iff hvalue]
    constructor
    · rintro h n' hn'
      obtain rfl := Option.some.inj hn'
      exact h
    · intro h
      exact h n rfl

/-- The token of `2 ^ 32` queues the volume 0. -/
theorem volumeGate_exact_fails :
    ¬∀ (key : VolumeKey) (t : NumericToken) (a : Audio), a.audioReady ≠ 0 → GateExact key t a := by
  intro h
  have hdigits : ∀ c ∈ ascii "4294967296", isDigit c = true := by simp [ascii, isDigit]
  have hvalue : NumericToken.value ⟨ascii "4294967296", hdigits⟩ = some 4294967296 := by
    simp [NumericToken.value, appendDigits, ascii]
  have hgate := h .avVolume ⟨_, hdigits⟩ { (default : Audio) with audioReady := 1 } (by decide)
  exact absurd (((gateExact_some_iff hvalue).mp hgate).2 (by decide)) (by decide)

end Audio

/-! ## The request -/

theorem VolumeKey.name_ne_zero (key : VolumeKey) : ∀ b ∈ key.name, b ≠ 0 := by
  cases key <;> simp [name, ascii]

/-- A request of any length up to 3071 bytes hands the token to the set half as it is, save that a
request number of 119 has another meaning. -/
theorem carIoctl_volume (h : Handlers) (key : VolumeKey) (t : NumericToken) {cmd : U32}
    (hcmd : cmd.toNat = (volumeRequest key t).length) (hshort : cmd < 3072) (h119 : cmd ≠ 119) :
    carIoctl h cmd (volumeRequest key t) = ioctlSet h key.name t.text := by
  have hother : ∀ b ∈ t.text, ∀ c, isDigit c = false → b ≠ c := by
    rintro b hb c hc rfl
    exact absurd (t.digits b hb) (by simp [hc])
  exact carIoctl_request h key.name_ne_zero (fun b hb => hother b hb 0 rfl)
    (fun hmem => hother equalSign hmem equalSign rfl rfl) hcmd hshort h119

end MtcDrivers
