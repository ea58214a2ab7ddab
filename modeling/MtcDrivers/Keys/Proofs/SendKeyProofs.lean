import Mathlib.Data.List.Induction
import MtcDrivers.Keys.SendKey

/-!
# Proofs: the keys of a run

Byte `0x78` of `keys_data` says whether the last key that was admitted has switched the screen on; the next
one is spent on it.
-/

namespace MtcDrivers

namespace KeyCall

open StatusBytes

variable {c : KeyCall} {sw : U8} {es es' : List KeyEffect}

/-! ## Complete sequences -/

theorem Complete.append (h : Complete es) (h' : Complete es') : Complete (es ++ es') := by
  induction h with
  | nil => exact h'
  | events code _ ih =>
    rw [List.append_assoc]
    exact ih.events code
  | messages v12 _ ih =>
    rw [List.append_assoc]
    exact ih.messages v12
  | other hinput hkey _ ih => exact ih.other hinput hkey

theorem complete_events (code : U32) : Complete (events code 0) := by
  have h := Complete.events code .nil
  rwa [List.append_nil] at h

theorem complete_messages (v12 : U8) : Complete (messages v12) := by
  have h := Complete.messages v12 .nil
  rwa [List.append_nil] at h

/-- An effect that is neither an event of the input device nor a message of a key, nor wakes the screen. -/
def Plain (e : KeyEffect) : Prop :=
  (∀ type code value, e ≠ .input type code value) ∧ (∀ data, e ≠ .vsSend 0x8E data ∧ e ≠ .vsSend 0x8F data) ∧
    e ≠ .backlightOn

theorem complete_of_plain (h : ∀ e ∈ es, Plain e) : Complete es := by
  induction es with
  | nil => exact .nil
  | cons e es ih =>
    obtain ⟨hinput, hkey, _⟩ := h e List.mem_cons_self
    exact (ih fun e' he' => h e' (List.mem_cons_of_mem e he')).other hinput hkey

theorem reported_of_plain {e : KeyEffect} (h : Plain e) : reported e = false := by
  obtain ⟨hinput, hkey, _⟩ := h
  cases e with
  | input type code value => exact absurd rfl (hinput type code value)
  | vsSend cmd data =>
    refine decide_eq_false ?_
    rintro rfl
    exact (hkey data).1 rfl
  | _ => rfl

theorem plain_keyBeep : ∀ e ∈ c.keyBeep, Plain e := by
  intro e he
  unfold keyBeep at he
  split at he
  · rw [List.mem_singleton.mp he]
    simp [Plain]
  · cases he

theorem plain_append (h : ∀ e ∈ es, Plain e) (h' : ∀ e ∈ es', Plain e) : ∀ e ∈ es ++ es', Plain e := by
  intro e he
  rcases List.mem_append.mp he with he | he
  · exact h e he
  · exact h' e he

theorem plain_one {e : KeyEffect} (h : Plain e) {b : Prop} [Decidable b] :
    ∀ e' ∈ (if b then [e] else []), Plain e' := by
  intro e' he'
  split at he'
  · rw [List.mem_singleton.mp he']
    exact h
  · cases he'

theorem plain_videoOn : ∀ e ∈ c.videoOn, Plain e := by
  refine plain_append (plain_append (plain_append ?_ plain_keyBeep) (plain_one ?_)) (plain_one ?_)
  · simp [Plain]
  · simp [Plain]
  · simp [Plain]

theorem plain_videoOff : ∀ e ∈ c.videoOff, Plain e := by
  refine plain_append (plain_append (plain_append ?_ plain_keyBeep) ?_) (plain_one ?_)
  · simp [Plain]
  · split
    · refine plain_append (plain_one ?_) ?_
      · simp [Plain]
      · simp [Plain]
    · simp
  · simp [Plain]

/-! ## One call -/

theorem sendIrKey_of_admitted (h : c.Admitted) : c.sendIrKey sw = c.backlightFlow sw := by
  have hfree : ¬ (c.status.byte chMode ≠ 0 ∧ (c.key = 54 ∨ c.key = 56)) := by
    rintro ⟨hmode, hkey⟩
    rcases h.free with hzero | ⟨h54, h56⟩
    · exact hmode hzero
    · exact hkey.elim h54 h56
  have htouch : ¬ (c.v1 = 66 ∧ c.status.byte touchType ≠ 129) := fun ⟨hkey, hne⟩ => hne (h.touch hkey)
  have hcamera : ¬ c.isCameraKey = true := by simp [h.camera]
  unfold sendIrKey
  rw [if_neg hfree, if_neg h.video.1, if_neg h.video.2, if_neg h.ready, if_neg htouch, if_neg hcamera,
    if_pos h.enabled]

/-- A call that is not admitted reports nothing. -/
theorem sendIrKey_of_not_admitted (h : ¬ c.Admitted) (sw : U8) :
    (c.sendIrKey sw).2 = sw ∧ ∀ e ∈ (c.sendIrKey sw).1, Plain e := by
  have hnone : ∀ e ∈ ([] : List KeyEffect), Plain e := by simp
  unfold sendIrKey
  split
  · exact ⟨rfl, hnone⟩
  rename_i hfree
  split
  · exact ⟨rfl, plain_videoOn⟩
  rename_i hon
  split
  · exact ⟨rfl, plain_videoOff⟩
  rename_i hoff
  split
  · exact ⟨rfl, hnone⟩
  rename_i hready
  split
  · exact ⟨rfl, hnone⟩
  rename_i htouch
  split
  · refine ⟨rfl, plain_append plain_keyBeep ?_⟩
    simp [Plain]
  rename_i hcamera
  split
  · rename_i henabled
    refine absurd ⟨?_, ⟨hon, hoff⟩, hready, ?_, ?_, henabled⟩ h
    · by_cases hmode : c.status.byte chMode = 0
      · exact Or.inl hmode
      · exact Or.inr ⟨fun hkey => hfree ⟨hmode, Or.inl hkey⟩, fun hkey => hfree ⟨hmode, Or.inr hkey⟩⟩
    · intro hkey
      by_contra hne
      exact htouch ⟨hkey, hne⟩
    · exact Bool.eq_false_iff.mpr hcamera
  · exact ⟨rfl, hnone⟩

/-- On a dark screen. -/
theorem backlightFlow_of_dark (h : c.Dark) : c.backlightFlow sw = ([.backlightOn], 1) := if_pos h

/-- The key behind the one that has woken the screen. -/
theorem backlightFlow_of_woken (h : ¬ c.Dark) (hsw : sw ≠ 0) : c.backlightFlow sw = ([], 0) := by
  have hlit : ¬ c.status.byte backlightStatus = 0 := h
  unfold backlightFlow
  rw [if_neg hlit]
  exact if_pos hsw

/-- Any other key: it is reported at once and completely, if the mode of the keys allows it. -/
theorem backlightFlow_reports (h : ¬ c.Dark) :
    (c.backlightFlow 0).2 = 0 ∧ Complete (c.backlightFlow 0).1 ∧ .backlightOn ∉ (c.backlightFlow 0).1 ∧
      ((∃ e ∈ (c.backlightFlow 0).1, reported e = true) ↔ c.v1 = 54 ∨ c.status.byte keyMode ≠ 1) := by
  have hbeep : Complete c.keyBeep := complete_of_plain plain_keyBeep
  have hquiet : .backlightOn ∉ c.keyBeep := fun hmem => (plain_keyBeep _ hmem).2.2 rfl
  have hzero : ¬ (0 : U8) ≠ 0 := not_not.mpr rfl
  have hlit : ¬ c.status.byte backlightStatus = 0 := h
  unfold backlightFlow
  simp only [if_neg hlit, if_neg hzero]
  split
  · rename_i hkey
    refine ⟨rfl, (complete_events 158).append hbeep, ?_, ?_⟩
    · simp [events, hquiet]
    · exact iff_of_true ⟨_, List.mem_append_left _ List.mem_cons_self, rfl⟩ (Or.inl hkey)
  rename_i hkey
  split
  · rename_i hmode
    exact ⟨rfl, .nil, by simp, iff_of_false (by simp) fun hright => hright.elim hkey fun hne => hne hmode⟩
  rename_i hmode
  have hright : c.v1 = 54 ∨ c.status.byte keyMode ≠ 1 := Or.inr hmode
  split
  · refine ⟨rfl, (complete_messages 56).append hbeep, ?_, ?_⟩
    · simp [messages, hquiet]
    · exact iff_of_true ⟨_, List.mem_append_left _ List.mem_cons_self, rfl⟩ hright
  split
  · refine ⟨rfl, (complete_messages _).append ?_, ?_, ?_⟩
    · split
      · exact hbeep
      · exact .nil
    · split
      · simp [messages, hquiet]
      · simp [messages]
    · exact iff_of_true ⟨_, List.mem_append_left _ List.mem_cons_self, rfl⟩ hright
  · refine ⟨rfl, (complete_events 139).append hbeep, ?_, ?_⟩
    · simp [events, hquiet]
    · exact iff_of_true ⟨_, List.mem_append_left _ List.mem_cons_self, rfl⟩ hright

theorem complete_sendIrKey (sw : U8) (c : KeyCall) : Complete (c.sendIrKey sw).1 := by
  by_cases h : c.Admitted
  · rw [sendIrKey_of_admitted h]
    by_cases hdark : c.Dark
    · rw [backlightFlow_of_dark hdark]
      exact Complete.nil.other (by simp) (by simp)
    · by_cases hsw : sw = 0
      · rw [hsw]
        exact (backlightFlow_reports hdark).2.1
      · rw [backlightFlow_of_woken hdark hsw]
        exact .nil
  · exact complete_of_plain (sendIrKey_of_not_admitted h sw).2

theorem complete_sendEventKey (c : KeyCall) : Complete c.sendEventKey :=
  (complete_events c.key).append (complete_of_plain plain_keyBeep)

/-! ## The run -/

theorem wokeLast_nil : ¬ WokeLast [] := by
  rintro ⟨c, hlast, _⟩
  cases hlast

theorem wokeLast_concat {pre : List KeyCall} :
    WokeLast (pre ++ [c]) ↔ if c.Admitted then c.Dark else WokeLast pre := by
  unfold WokeLast
  rw [List.filter_append]
  by_cases h : c.Admitted
  · have hone : [c].filter (Admitted ·) = [c] := List.filter_cons_of_pos (decide_eq_true h)
    rw [if_pos h, hone, List.getLast?_concat]
    simp
  · have hnone : [c].filter (Admitted ·) = [] := List.filter_cons_of_neg (by simpa using h)
    rw [if_neg h, hnone, List.append_nil]

/-- The flag of a call. -/
theorem keep_ne_zero_iff : keep sw c ≠ 0 ↔ if c.Admitted then c.Dark else sw ≠ 0 := by
  unfold keep
  by_cases h : c.Admitted
  · rw [if_pos h, sendIrKey_of_admitted h]
    by_cases hdark : c.Dark
    · rw [backlightFlow_of_dark hdark]
      simp [hdark]
    · refine iff_of_false ?_ hdark
      by_cases hsw : sw = 0
      · rw [hsw, (backlightFlow_reports hdark).1]
        simp
      · rw [backlightFlow_of_woken hdark hsw]
        simp
  · rw [if_neg h, (sendIrKey_of_not_admitted h _).1]

/-- The flag of a run. -/
theorem after_keep_ne_zero_iff (pre : List KeyCall) : Run.after keep 0 pre ≠ 0 ↔ WokeLast pre := by
  induction pre using List.reverseRecOn with
  | nil => exact iff_of_false (not_not.mpr rfl) wokeLast_nil
  | append_singleton pre c ih =>
    rw [Run.after_append, wokeLast_concat]
    refine keep_ne_zero_iff.trans ?_
    split
    · rfl
    · exact ih

theorem keyRight (pre : List KeyCall) (c : KeyCall) : KeyRight pre c (c.sendIrKey (Run.after keep 0 pre)).1 := by
  have hflag := after_keep_ne_zero_iff pre
  by_cases h : c.Admitted
  · rw [sendIrKey_of_admitted h]
    by_cases hdark : c.Dark
    · rw [backlightFlow_of_dark hdark]
      constructor
      · refine iff_of_false ?_ fun hright => hright.2.1 hdark
        rintro ⟨e, he, hreported⟩
        rw [List.mem_singleton.mp he] at hreported
        cases hreported
      · exact iff_of_true List.mem_cons_self ⟨h, hdark⟩
      · exact fun _ => rfl
    · by_cases hwoke : WokeLast pre
      · rw [backlightFlow_of_woken hdark (hflag.mpr hwoke)]
        constructor
        · simp [hwoke]
        · simp [hdark]
        · simp
      · have hzero : Run.after keep 0 pre = 0 := not_not.mp fun hne => hwoke (hflag.mp hne)
        obtain ⟨_, _, hquiet, hreports⟩ := backlightFlow_reports hdark
        rw [hzero]
        constructor
        · rw [hreports]
          simp [h, hdark, hwoke]
        · exact iff_of_false hquiet fun hright => hdark hright.2
        · exact fun hmem => absurd hmem hquiet
  · have hplain := (sendIrKey_of_not_admitted h (Run.after keep 0 pre)).2
    constructor
    · refine iff_of_false ?_ fun hright => h hright.1
      rintro ⟨e, he, hreported⟩
      rw [reported_of_plain (hplain e he)] at hreported
      cases hreported
    · exact iff_of_false (fun hmem => (hplain _ hmem).2.2 rfl) fun hright => h hright.1
    · exact fun hmem => absurd rfl (hplain _ hmem).2.2

theorem complete_effects (sw : U8) (calls : List KeyCall) : Complete (effects sw calls) := by
  induction calls generalizing sw with
  | nil => exact .nil
  | cons c calls ih => exact (complete_sendIrKey sw c).append (ih _)

/-- A key is reported unless it is kept back, finds the screen dark, or comes behind the key that has woken
    it. -/
theorem keysRight (calls : List KeyCall) : KeysRight calls where
  complete := complete_effects 0 calls
  right pre c _ _ := keyRight pre c

end KeyCall

end MtcDrivers
