import MtcDrivers.Audio.Request

/-!
# Which branch an audio request reaches

The work of a phone request has the number 0xA of the balance, so that it stores the mode in place of the
first balance and 0 in place of the second.
-/

namespace MtcDrivers

namespace Audio

theorem setMutePin_keeps (pin : U8) (a : Audio) :
    (a.setMutePin pin).state.chMode = a.state.chMode ∧
      (a.setMutePin pin).state.balance1 = a.state.balance1 ∧
      (a.setMutePin pin).state.balance2 = a.state.balance2 := by
  unfold setMutePin
  by_cases h : a.state.muteAll = pin
  · rw [if_pos h]
    exact ⟨rfl, rfl, rfl⟩
  · rw [if_neg h]
    exact ⟨rfl, rfl, rfl⟩

/-- The mute pin has nothing to do with the phone and the balance. -/
theorem releaseMutePin_keeps (a : Audio) :
    a.releaseMutePin.state.chMode = a.state.chMode ∧
      a.releaseMutePin.state.balance1 = a.state.balance1 ∧
      a.releaseMutePin.state.balance2 = a.state.balance2 := by
  unfold releaseMutePin
  by_cases h : a.state.audioActive ≠ 0 ∧ a.state.mutePinLatch ≠ 0
  · rw [if_pos h]
    exact setMutePin_keeps 0 (a.map fun s => { s with mutePinLatch := 0 })
  · rw [if_neg h]
    exact ⟨rfl, rfl, rfl⟩

theorem workBalance_state (w : AudioWork) (a : Audio) :
    (a.workBalance w).state =
      if w.cmd2.sle 28 ∧ w.cmd3.sle 28 then
        { a.state with balance1 := w.cmd2.setWidth 8, balance2 := w.cmd3.setWidth 8 }
      else a.state := by
  unfold workBalance
  by_cases h : w.cmd2.sle 28 ∧ w.cmd3.sle 28
  · rw [if_pos h, if_pos h]
    by_cases hactive : a.state.audioActive ≠ 0
    · simp only [if_pos hactive, emit_state, map_state]
    · simp only [if_neg hactive, map_state]
  · rw [if_neg h, if_neg h]

/-- Work with the number 0xA is the balance, whatever it was queued for. -/
theorem audioWork_balance (enterChannel : U8 → Bool → Audio → Audio) (w : AudioWork)
    (hw : w.cmd1 = audioWorkPhone) (a : Audio) :
    audioWork enterChannel w a = a.releaseMutePin.workBalance w := by
  unfold audioWork workSwitch
  rw [hw]
  rfl

/-- A balance request changes at most the balance. -/
theorem audioWork_balance_state (enterChannel : U8 → Bool → Audio → Audio) (w : AudioWork)
    (hw : w.cmd1 = audioWorkPhone) (a : Audio) :
    ∃ b1 b2, (audioWork enterChannel w a).state =
      { a.releaseMutePin.state with balance1 := b1, balance2 := b2 } := by
  rw [audioWork_balance enterChannel w hw a, workBalance_state]
  by_cases h : w.cmd2.sle 28 ∧ w.cmd3.sle 28
  · rw [if_pos h]
    exact ⟨_, _, rfl⟩
  · rw [if_neg h]
    exact ⟨_, _, rfl⟩

/-- What the work of a phone request for the mode `m` does. -/
theorem audioWork_phone_state (enterChannel : U8 → Bool → Audio → Audio) {m : U8}
    (hm : (m.setWidth 32 : U32).sle 28) (a : Audio) :
    (audioWork enterChannel ⟨audioWorkPhone, m.setWidth 32, 0, 0⟩ a).state =
      { a.releaseMutePin.state with balance1 := m, balance2 := 0 } := by
  have hcond : (m.setWidth 32 : U32).sle 28 ∧ (0 : U32).sle 28 := ⟨hm, by decide⟩
  have hwidth : (m.setWidth 32).setWidth 8 = m := by simp
  rw [audioWork_balance enterChannel _ rfl a, workBalance_state]
  dsimp only
  rw [if_pos hcond, hwidth]
  rfl

/-- The work that a phone request queues, and the state that it leaves to the work. -/
theorem ioctlAvPhone_some {token : Text} {m : U8} (h : phoneMode token = some m) (a : Audio) :
    (m.setWidth 32 : U32).sle 28 ∧
      (ioctlAvPhone token a).2.1 = a.audioAddWork audioWorkPhone (m.setWidth 32) 0 0 ∧
      (ioctlAvPhone token a).2.2.state = a.state := by
  unfold phoneMode at h
  unfold ioctlAvPhone
  by_cases hin : token = ascii "in"
  · rw [if_pos hin] at h ⊢
    cases h
    exact ⟨by decide, rfl, rfl⟩
  rw [if_neg hin] at h ⊢
  by_cases hout : token = ascii "out"
  · rw [if_pos hout] at h ⊢
    cases h
    exact ⟨by decide, rfl, rfl⟩
  rw [if_neg hout] at h ⊢
  by_cases hhangup : token = ascii "hangup"
  · rw [if_pos hhangup] at h ⊢
    cases h
    refine ⟨by decide, rfl, ?_⟩
    by_cases hlight : a.state.chMode ≠ 0 ∧ a.powerRefcnt = 1
    · simp only [if_pos hlight, emit_state]
    · simp only [if_neg hlight]
  rw [if_neg hhangup] at h ⊢
  by_cases hanswer : token = ascii "answer"
  · rw [if_pos hanswer] at h ⊢
    cases h
    exact ⟨by decide, rfl, rfl⟩
  · rw [if_neg hanswer] at h
    cases h

/-- A phone request without a mode is rejected. -/
theorem ioctlAvPhone_none {token : Text} (h : phoneMode token = none) (a : Audio) :
    (ioctlAvPhone token a).2.1 = [] := by
  unfold phoneMode at h
  unfold ioctlAvPhone
  by_cases hin : token = ascii "in"
  · rw [if_pos hin] at h
    cases h
  rw [if_neg hin] at h ⊢
  by_cases hout : token = ascii "out"
  · rw [if_pos hout] at h
    cases h
  rw [if_neg hout] at h ⊢
  by_cases hhangup : token = ascii "hangup"
  · rw [if_pos hhangup] at h
    cases h
  rw [if_neg hhangup] at h ⊢
  by_cases hanswer : token = ascii "answer"
  · rw [if_pos hanswer] at h
    cases h
  · rw [if_neg hanswer]

theorem audioAddWork_not_ready {a : Audio} (h : a.audioReady = 0) (cmd1 cmd2 cmd3 val1 : U32) :
    a.audioAddWork cmd1 cmd2 cmd3 val1 = [] := if_neg fun hne => hne h

theorem audioAddWork_ready {a : Audio} (h : a.audioReady ≠ 0) (cmd1 cmd2 cmd3 val1 : U32) :
    a.audioAddWork cmd1 cmd2 cmd3 val1 = [⟨cmd1, cmd2, cmd3, val1⟩] := if_pos h

/-- What a phone request that queues work leaves behind. -/
theorem serve_avPhone (enterChannel : U8 → Bool → Audio → Audio) {token : Text} {m : U8}
    (hm : phoneMode token = some m) {a : Audio} (hready : a.audioReady ≠ 0) :
    (serve enterChannel .avPhone token a).state.chMode = a.state.chMode ∧
      (serve enterChannel .avPhone token a).state.balance1 = m ∧
      (serve enterChannel .avPhone token a).state.balance2 = 0 := by
  have ⟨hle, hwork, hstate⟩ := ioctlAvPhone_some hm a
  have hserve : serve enterChannel .avPhone token a =
      audioWork enterChannel ⟨audioWorkPhone, m.setWidth 32, 0, 0⟩ (ioctlAvPhone token a).2.2 := by
    unfold serve ioctlAv
    dsimp only
    rw [hwork, audioAddWork_ready hready]
    rfl
  have hkeeps := releaseMutePin_keeps (ioctlAvPhone token a).2.2
  rw [hserve, audioWork_phone_state enterChannel hle]
  refine ⟨?_, rfl, rfl⟩
  rw [hkeeps.1, hstate]

/-- Work for a phone mode does not run the phone branch: a mode that is set already is no reason for the balance
    branch to stop. -/
theorem not_runsBranch_phone (enterChannel : U8 → Bool → Audio → Audio) {m : U8}
    (hm : (m.setWidth 32 : U32).sle 28) :
    ¬ RunsBranch enterChannel ⟨audioWorkPhone, m.setWidth 32, 0, 0⟩ workPhone := by
  intro hruns
  -- the mode is set, and the balance is another one
  let a : Audio := { (default : Audio) with state := { (default : AudioState) with chMode := m, balance1 := m + 1 } }
  have hkept : a.releaseMutePin = a := if_neg fun h => h.1 rfl
  have hphone : a.workPhone ⟨audioWorkPhone, m.setWidth 32, 0, 0⟩ = a := if_pos rfl
  have hstored := congrArg (·.state.balance1) (hruns a)
  rw [audioWork_phone_state enterChannel hm, hkept, hphone] at hstored
  have hne : m ≠ m + 1 := by
    intro h
    bv_omega
  exact hne hstored

/-- What a balance request queues has the number of the balance. -/
theorem ioctlAvBalance_queued {token : Text} {a : Audio} {w : AudioWork} (hw : w ∈ (ioctlAvBalance token a).2.1) :
    w.cmd1 = audioWorkPhone := by
  unfold ioctlAvBalance audioAddWork at hw
  dsimp only at hw
  split_ifs at hw
  · rw [List.mem_singleton.mp hw]
    rfl
  all_goals cases hw

theorem ioctlAvBalance_state (token : Text) (a : Audio) : (ioctlAvBalance token a).2.2 = a := by
  unfold ioctlAvBalance
  dsimp only
  split_ifs <;> rfl

/-- A balance request reaches its branch. -/
theorem requestMet_avBalance (enterChannel : U8 → Bool → Audio → Audio) (token : Text) (a : Audio) :
    RequestMet enterChannel .avBalance token a := by
  intro hqueued
  refine ⟨fun w hw => audioWork_balance enterChannel w (ioctlAvBalance_queued hw), ?_⟩
  obtain ⟨w, hone⟩ : ∃ w, (ioctlAvBalance token a).2.1 = [w] := by
    change (ioctlAvBalance token a).2.1 ≠ [] at hqueued
    unfold ioctlAvBalance audioAddWork at hqueued ⊢
    dsimp only at hqueued ⊢
    split_ifs at hqueued ⊢
    · exact ⟨_, rfl⟩
    all_goals exact absurd rfl hqueued
  have hserve : serve enterChannel .avBalance token a = audioWork enterChannel w a := by
    unfold serve ioctlAv
    dsimp only
    rw [hone, ioctlAvBalance_state]
    rfl
  rw [hserve]
  exact audioWork_balance_state enterChannel w (ioctlAvBalance_queued (hone ▸ List.mem_singleton_self w)) a

/-- A phone request that queues work reaches the balance branch instead of its own. -/
theorem requestMet_avPhone (enterChannel : U8 → Bool → Audio → Audio) (token : Text) (a : Audio) :
    RequestMet enterChannel .avPhone token a ↔ RequestFits .avPhone token a := by
  unfold RequestFits
  by_cases hready : a.audioReady = 0
  · refine iff_of_true (fun hqueued => absurd ?_ hqueued) (.inr (.inl hready))
    cases hm : phoneMode token with
    | none => exact ioctlAvPhone_none hm a
    | some m => exact (ioctlAvPhone_some hm a).2.1.trans (audioAddWork_not_ready hready _ _ _ _)
  · cases hm : phoneMode token with
    | none =>
      exact iff_of_true (fun hqueued => absurd (ioctlAvPhone_none hm a) hqueued) (.inr (.inr rfl))
    | some m =>
      obtain ⟨hle, hwork, -⟩ := ioctlAvPhone_some hm a
      have hqueued : (ioctlAv .avPhone token a).2.1 = [⟨audioWorkPhone, m.setWidth 32, 0, 0⟩] :=
        hwork.trans (audioAddWork_ready hready _ _ _ _)
      refine iff_of_false (fun hmet => ?_) ?_
      · have hruns := (hmet (hqueued ▸ List.cons_ne_nil _ _)).1 _ (hqueued ▸ List.mem_singleton_self _)
        exact not_runsBranch_phone enterChannel hle hruns
      · rintro (h | h | h)
        · cases h
        · exact hready h
        · cases h

theorem requestMet_iff (enterChannel : U8 → Bool → Audio → Audio) (key : AvKey) (token : Text)
    (a : Audio) : RequestMet enterChannel key token a ↔ RequestFits key token a := by
  cases key with
  | avPhone => exact requestMet_avPhone enterChannel token a
  | avBalance => exact iff_of_true (requestMet_avBalance enterChannel token a) (.inl rfl)

/-- In every sequence of audio requests, all are met exactly if each of them fits the state before it. -/
theorem audioRequests_met_iff (enterChannel : U8 → Bool → Audio → Audio) (rs : List (AvKey × Text))
    (a : Audio) : AllMet enterChannel rs a ↔ AllFit enterChannel rs a := by
  induction rs generalizing a with
  | nil => exact Iff.rfl
  | cons r rs ih =>
    rcases r with ⟨key, token⟩
    exact and_congr (requestMet_iff enterChannel key token a) (ih (serve enterChannel key token a))

/-- An incoming call with the balance in the middle. -/
def incomingCall : Audio :=
  { state := { (default : AudioState) with balance1 := 14, balance2 := 14 }
    log := []
    audioReady := 1
    powerRefcnt := 1
    defaultAjxCh := 0
    cfgMaxvolume := 0 }

/-- The call does not reach the phone branch, and the balance becomes 1 and 0. -/
theorem audioRequests_incoming_call :
    (ioctlAv .avPhone (ascii "in") incomingCall).1 = 0 ∧
      (serve (fun _ _ a => a) .avPhone (ascii "in") incomingCall).state.chMode = 0 ∧
      (serve (fun _ _ a => a) .avPhone (ascii "in") incomingCall).state.balance1 = 1 ∧
      (serve (fun _ _ a => a) .avPhone (ascii "in") incomingCall).state.balance2 = 0 ∧
      ¬ AllMet (fun _ _ a => a) [(.avPhone, ascii "in")] incomingCall := by
  have hready : incomingCall.audioReady ≠ 0 := by decide
  have hm : phoneMode (ascii "in") = some 1 := by decide
  have ⟨hmode, hb1, hb2⟩ := serve_avPhone (fun _ _ a => a) hm hready
  refine ⟨rfl, hmode, hb1, hb2, ?_⟩
  rintro ⟨hmet, -⟩
  have hfits := (requestMet_avPhone _ _ _).mp hmet
  have hno : ¬ RequestFits .avPhone (ascii "in") incomingCall := by
    unfold RequestFits
    decide
  exact hno hfits

end Audio

end MtcDrivers
