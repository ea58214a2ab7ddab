import Mathlib.Tactic.SplitIfs
import MtcDrivers.Radio.AfSearch

/-!
# What the search reads

The readers take every fifteenth byte from the count byte on, and the index runs through zero: a search
that is on never searches the list, so the list is searched properly only in the runs in which no search
starts.
-/

namespace MtcDrivers

namespace Tuner

/-! ## The place of a run -/

theorem emit_hasAfWork (r : Radio) (e : RadioEvent) : (r.emit e).hasAfWork = r.hasAfWork := rfl

theorem radioSetFrequencyCom_hasAfWork (freq a2 : U32) (r : Radio) :
    (r.radioSetFrequencyCom freq a2).hasAfWork = r.hasAfWork := by
  unfold Radio.radioSetFrequencyCom
  cases Radio.tuningWord freq <;> rfl

theorem radioSetMute_hasAfWork (mute : Bool) (r : Radio) :
    (r.radioSetMute mute).hasAfWork = r.hasAfWork := rfl

theorem taBack_hasAfWork (r : Radio) : r.taBack.hasAfWork = r.hasAfWork := by
  unfold Radio.taBack
  simp only [emit_hasAfWork]
  by_cases h1 : r.hasTaWork = 1
  · rw [if_pos h1, radioSetMute_hasAfWork, radioSetFrequencyCom_hasAfWork]
    rfl
  · rw [if_neg h1]
    split <;> rfl

theorem endTa_hasAfWork (t : Tuner) : t.endTa.radio.hasAfWork = t.radio.hasAfWork := by
  unfold endTa
  split
  · exact taBack_hasAfWork _
  · rfl

theorem setAf_radio (t : Tuner) (af : U32) : (t.setAf af).radio = t.radio := by
  unfold setAf
  split <;> rfl

theorem tuneCleared_hasAfWork (freq withData : U32) (r : Radio) :
    (tuneCleared freq withData r).hasAfWork = r.hasAfWork :=
  radioSetFrequencyCom_hasAfWork freq withData r

theorem setFrequencyTune_hasAfWork (freq withData : U32) (t : Tuner) :
    (t.setFrequencyTune freq withData).radio.hasAfWork = 0 := by
  unfold setFrequencyTune
  extract_lets t1 newBand band cfgRadio
  split
  · exact tuneCleared_hasAfWork freq withData t1.radio
  · split
    · exact tuneCleared_hasAfWork freq withData _
    · exact tuneCleared_hasAfWork freq withData t1.radio

theorem trySearch_hasAfWork {t : Tuner} (h : t.radio.hasAfWork = 0) :
    t.trySearch.radio.hasAfWork = 0 ↔ ¬ (t.mayStart = true ∧ t.searchStart.isSome = true) := by
  unfold trySearch
  by_cases hmay : t.mayStart = true
  · rw [if_pos hmay]
    have hsame : ({ t with gap9_0 := t.psn.setWidth 8 } : Tuner).searchStart = t.searchStart := rfl
    dsimp only
    rw [hsame]
    cases hstart : t.searchStart with
    | none => simp [h]
    | some i => simp [hmay, startSearch, mapRadio]
  · rw [if_neg hmay]
    simp [hmay, h]

theorem workSignalLow_hasAfWork {t : Tuner} (h : t.radio.hasAfWork = 0) :
    t.workSignalLow.radio.hasAfWork = 0 ↔ ¬ t.StartsSearch :=
  trySearch_hasAfWork (by rw [endTa_hasAfWork, h])

/-- From a tuner without a search, a step leads to one without a search if and only if it starts none. -/
theorem afNext_hasAfWork {t : Tuner} (h : t.radio.hasAfWork = 0) (op : AfOp) :
    (t.afNext op).radio.hasAfWork = 0 ↔ t.NoStart op := by
  cases op with
  | add af => exact ⟨fun _ hop => (by cases hop), fun _ => h⟩
  | signalLow =>
    rw [show t.afNext .signalLow = t.workSignalLow from rfl, workSignalLow_hasAfWork h]
    exact ⟨fun hstart _ => hstart, fun hno => hno rfl⟩
  | af signal cleared =>
    have hsame : t.workAf signal cleared = some t := if_pos h
    have hoff : t.afNext (.af signal cleared) = t := by
      rw [afNext, hsame]
      rfl
    rw [hoff]
    exact ⟨fun _ hop => (by cases hop), fun _ => h⟩
  | setAf af =>
    rw [show t.afNext (.setAf af) = t.setAf af from rfl, setAf_radio]
    exact ⟨fun _ hop => (by cases hop), fun _ => h⟩
  | setFrequencyBegin =>
    have hoff : t.setFrequencyBegin.radio.hasAfWork = 0 := by
      unfold setFrequencyBegin
      split
      · rfl
      · exact h
    exact ⟨fun _ hop => (by cases hop), fun _ => hoff⟩
  | setFrequencyEnd freq withData =>
    exact ⟨fun _ hop => (by cases hop), fun _ => setFrequencyTune_hasAfWork freq withData _⟩

/-! ## The list at rest -/

theorem afSearch_le {front : ℕ → U8} {base : ℕ} {af : U16} {fuel pos p : ℕ} (hpos : pos ≤ 24)
    (h : afSearch front base af fuel pos = some p) : p ≤ 25 := by
  induction fuel generalizing pos with
  | zero => cases h
  | succ fuel ih =>
    unfold afSearch at h
    split at h
    · cases h
      omega
    split at h
    · cases h
    next hmore => exact ih (by omega) h

theorem putFront_front (s : RadioStruct2) (i : ℕ) (b : U8) : (s.putFront i b).front i = b := by
  unfold RadioStruct2.putFront
  exact Function.update_self i b s.front

theorem rdsAfAdd_count {s : RadioStruct2} (h : (s.front afBase).toNat ≤ 25) (af : U16) :
    ((rdsAfAdd afBase af s).front afBase).toNat ≤ 25 := by
  unfold rdsAfAdd
  split
  · exact h
  split
  · exact h
  next p hp =>
    have hle := afSearch_le (Nat.zero_le 24) hp
    rw [putFront_front, BitVec.toNat_ofNat, Nat.mod_eq_of_lt (by omega)]
    exact hle

theorem radioSetFrequencyCom_s2 (freq a2 : U32) (r : Radio) : (r.radioSetFrequencyCom freq a2).s2 = r.s2 := by
  unfold Radio.radioSetFrequencyCom
  cases Radio.tuningWord freq <;> rfl

theorem taBack_s2 (r : Radio) : r.taBack.s2 = r.s2 := by
  have hsend : ∀ r : Radio, ((r.emit (.vsSend 155 [0])).emit (.audioAddWork 25 1)).s2 = r.s2 := fun _ => rfl
  unfold Radio.taBack
  dsimp only
  rw [hsend]
  split_ifs
  · exact radioSetFrequencyCom_s2 _ _ _
  · rfl
  · rfl

theorem endTa_s2 (t : Tuner) : t.endTa.radio.s2 = t.radio.s2 := by
  unfold endTa
  split
  · exact taBack_s2 _
  · rfl

theorem trySearch_s2 (t : Tuner) : t.trySearch.radio.s2 = t.radio.s2 := by
  unfold trySearch
  split
  · dsimp only
    split <;> rfl
  · rfl

theorem workSignalLow_s2 (t : Tuner) : t.workSignalLow.radio.s2 = t.radio.s2 :=
  (trySearch_s2 t.endTa).trans (endTa_s2 t)

theorem setFrequencyTune_s2 (freq withData : U32) (t : Tuner) :
    (t.setFrequencyTune freq withData).radio.s2 = .zero := by
  unfold setFrequencyTune
  extract_lets t1 newBand band cfgRadio
  split_ifs <;> rfl

theorem afNext_count {t : Tuner} (h : t.AtRest) (op : AfOp) : ((t.afNext op).tbl 0).toNat ≤ 25 := by
  have hcount := h.count
  unfold tbl at hcount ⊢
  cases op with
  | add af => exact rdsAfAdd_count hcount af
  | signalLow =>
    rw [show t.afNext .signalLow = t.workSignalLow from rfl, workSignalLow_s2]
    exact hcount
  | af signal cleared =>
    have hsame : t.workAf signal cleared = some t := if_pos h.noSearch
    rw [afNext, hsame]
    exact hcount
  | setAf af =>
    rw [show t.afNext (.setAf af) = t.setAf af from rfl, setAf_radio]
    exact hcount
  | setFrequencyBegin =>
    have hsame : t.setFrequencyBegin.radio.s2 = t.radio.s2 := by
      unfold setFrequencyBegin
      split <;> rfl
    rw [show t.afNext .setFrequencyBegin = t.setFrequencyBegin from rfl, hsame]
    exact hcount
  | setFrequencyEnd freq withData =>
    have hzero : (t.afNext (.setFrequencyEnd freq withData)).radio.s2 = .zero :=
      setFrequencyTune_s2 freq withData t.setFrequencyTa
    rw [hzero]
    exact Nat.zero_le 25

theorem AtRest.next {t : Tuner} (h : t.AtRest) {op : AfOp} (hno : t.NoStart op) : (t.afNext op).AtRest :=
  ⟨(afNext_hasAfWork h.noSearch op).mpr hno, afNext_count h op⟩

/-! ## A search that starts -/

end Tuner

end MtcDrivers
