import Mathlib.Data.List.Induction
import MtcDrivers.Car.VideoSource

/-!
# Proofs: the video source

Most effects leave the source alone and say nothing about it. A switch tells those who have come up, and the items
of the boot tell the state of the source to the one who has just come up, so that a run keeps both in sync.
-/

namespace MtcDrivers

/-! ## Effects of keys -/

/-- The effect does nothing to the source. -/
def KeyEffect.Silent (e : KeyEffect) : Prop := ∀ s, VideoSource.keyEffect s e = s

namespace VideoSource

theorem say_nil (s : VideoSource) : s.say [] = s := by
  unfold say
  rw [List.append_nil]

theorem silent_vsSend {cmd : U8} (h : cmd ≠ 0x9F) (h' : cmd ≠ 0xA0) (data : List U8) :
    (KeyEffect.vsSend cmd data).Silent := by
  intro s
  show s.say (sourceOfMessage cmd) = s
  unfold sourceOfMessage
  rw [if_neg h, if_neg h', say_nil]

theorem foldl_silent {es : List KeyEffect} (h : ∀ e ∈ es, e.Silent) (s : VideoSource) : es.foldl keyEffect s = s := by
  induction es with
  | nil => rfl
  | cons e es ih =>
    rw [List.foldl_cons, h e List.mem_cons_self s]
    exact ih fun e' he' => h e' (List.mem_cons_of_mem e he')

variable {c : KeyCall} {es es' : List KeyEffect}

theorem silent_append (h : ∀ e ∈ es, e.Silent) (h' : ∀ e ∈ es', e.Silent) : ∀ e ∈ es ++ es', e.Silent := by
  intro e he
  rcases List.mem_append.mp he with he | he
  · exact h e he
  · exact h' e he

theorem silent_nil : ∀ e ∈ ([] : List KeyEffect), e.Silent := by
  intro e he
  cases he

theorem silent_keyBeep : ∀ e ∈ c.keyBeep, e.Silent := by
  intro e he
  unfold KeyCall.keyBeep at he
  split at he
  · rw [List.mem_singleton.mp he]
    exact fun _ => rfl
  · cases he

theorem silent_events (code v4 : U32) : ∀ e ∈ KeyCall.events code v4, e.Silent := by
  intro e he
  simp only [KeyCall.events, List.mem_cons, List.not_mem_nil, or_false] at he
  rcases he with rfl | rfl | rfl | rfl <;> exact fun _ => rfl

theorem silent_messages (v12 : U8) : ∀ e ∈ KeyCall.messages v12, e.Silent := by
  intro e he
  simp only [KeyCall.messages, List.mem_cons, List.not_mem_nil, or_false] at he
  rcases he with rfl | rfl
  · exact silent_vsSend (by decide) (by decide) _
  · exact silent_vsSend (by decide) (by decide) _

theorem silent_backlightFlow (sw : U8) : ∀ e ∈ (c.backlightFlow sw).1, e.Silent := by
  unfold KeyCall.backlightFlow
  extract_lets v4
  split
  · intro e he
    rw [List.mem_singleton.mp he]
    exact fun _ => rfl
  split
  · exact silent_nil
  split
  · exact silent_append (silent_events _ _) silent_keyBeep
  split
  · exact silent_nil
  split
  · exact silent_append (silent_messages _) silent_keyBeep
  split
  · refine silent_append (silent_messages _) ?_
    split
    · exact silent_keyBeep
    · exact silent_nil
  · exact silent_append (silent_events _ _) silent_keyBeep

/-- A key that does not switch the source. -/
theorem silent_sendIrKey (h : c.key ≠ 0x40) (h' : c.key ≠ 0x41) (sw : U8) : ∀ e ∈ (c.sendIrKey sw).1, e.Silent := by
  unfold KeyCall.sendIrKey
  rw [if_neg h, if_neg h']
  split
  · exact silent_nil
  split
  · exact silent_nil
  split
  · exact silent_nil
  split
  · refine silent_append silent_keyBeep ?_
    intro e he
    rw [List.mem_singleton.mp he]
    exact fun _ => rfl
  split
  · exact silent_backlightFlow sw
  · exact silent_nil

/-! ## The source -/

/-- Nothing was switched or said. -/
structure Same (s s' : VideoSource) : Prop where
  videoSrcReady : s'.videoSrcReady = s.videoSrcReady
  callActive : s'.callActive = s.callActive
  rptBootAndroid : s'.rptBootAndroid = s.rptBootAndroid
  announcing : s'.announcing = s.announcing
  log : s'.log = s.log

/-- The source was switched, and those that have come up were told so. -/
structure Told (on : Bool) (s s' : VideoSource) : Prop where
  videoSrcReady : s'.videoSrcReady = if on then 1 else 0
  callActive : s'.callActive = s.callActive
  rptBootAndroid : s'.rptBootAndroid = s.rptBootAndroid
  announcing : s'.announcing = s.announcing
  log : s'.log = s.log ++ (if s.rptBootAndroid ≠ 0 then [.audio on] else []) ++
    if s.callActive ≠ 0 then [.app on] else []

/-- What the operation switches. -/
def Follows (s s' : VideoSource) : Option Bool → Prop
  | none => Same s s'
  | some on => Told on s s'

variable {s s' s'' : VideoSource} {on : Bool} {found : ℕ → KeyFound}

theorem Same.refl (s : VideoSource) : Same s s := ⟨rfl, rfl, rfl, rfl, rfl⟩

theorem Same.trans (h : Same s s') (h' : Same s' s'') : Same s s'' where
  videoSrcReady := h'.videoSrcReady.trans h.videoSrcReady
  callActive := h'.callActive.trans h.callActive
  rptBootAndroid := h'.rptBootAndroid.trans h.rptBootAndroid
  announcing := h'.announcing.trans h.announcing
  log := h'.log.trans h.log

theorem Same.told (h : Same s s') (h' : Told on s' s'') : Told on s s'' where
  videoSrcReady := h'.videoSrcReady
  callActive := h'.callActive.trans h.callActive
  rptBootAndroid := h'.rptBootAndroid.trans h.rptBootAndroid
  announcing := h'.announcing.trans h.announcing
  log := by rw [h'.log, h.log, h.rptBootAndroid, h.callActive]

theorem Told.same (h : Told on s s') (h' : Same s' s'') : Told on s s'' where
  videoSrcReady := h'.videoSrcReady.trans h.videoSrcReady
  callActive := h'.callActive.trans h.callActive
  rptBootAndroid := h'.rptBootAndroid.trans h.rptBootAndroid
  announcing := h'.announcing.trans h.announcing
  log := h'.log.trans h.log

theorem byte_load (s : VideoSource) (status : StatusBytes) :
    (s.load status).byte StatusBytes.videoSrcReady = s.videoSrcReady ∧
      (s.load status).byte StatusBytes.callActive = s.callActive ∧
      (s.load status).byte StatusBytes.rptBootAndroid = s.rptBootAndroid := by
  unfold load
  simp (disch := decide) only [StatusBytes.byte_put_self, StatusBytes.byte_put_ne, and_self]

/-- The two messages of a switch. -/
theorem told_say (on : Bool) (s : VideoSource) :
    Told on s (({ s with videoSrcReady := if on then 1 else 0 }.say
      (if s.rptBootAndroid ≠ 0 then [.audio on] else [])).say (if s.callActive ≠ 0 then [.app on] else [])) :=
  ⟨rfl, rfl, rfl, rfl, rfl⟩

theorem foldl_vsSend (b : Prop) [Decidable b] (on : Bool) (s : VideoSource) :
    (if b then [KeyEffect.vsSend (if on then 159 else 160) []] else []).foldl keyEffect s =
      s.say (if b then [.app on] else []) := by
  split
  · cases on <;> rfl
  · exact (say_nil s).symm

/-- The effects of a switch by `send_ir_key`. -/
theorem told_videoOn (h : c.status.byte StatusBytes.rptBootAndroid = s.rptBootAndroid)
    (h' : c.status.byte StatusBytes.callActive = s.callActive) : Told true s (c.videoOn.foldl keyEffect s) := by
  have haudio : ∀ s' : VideoSource, (if s.rptBootAndroid ≠ 0 then [KeyEffect.audioAddWork 22] else []).foldl
      keyEffect s' = s'.say (if s.rptBootAndroid ≠ 0 then [.audio true] else []) := by
    intro s'
    split
    · rfl
    · exact (say_nil s').symm
  have happ := foldl_vsSend (s.callActive ≠ 0) true
    ({ s with videoSrcReady := 1 }.say (if s.rptBootAndroid ≠ 0 then [.audio true] else []))
  unfold KeyCall.videoOn
  rw [List.foldl_append, List.foldl_append, List.foldl_append, foldl_silent silent_keyBeep, h, h', haudio]
  show Told true s (List.foldl keyEffect ({ s with videoSrcReady := 1 }.say _) _)
  exact (congrArg (Told true s) happ).mpr (told_say true s)

theorem told_videoOff (h : c.status.byte StatusBytes.rptBootAndroid = s.rptBootAndroid)
    (h' : c.status.byte StatusBytes.callActive = s.callActive) : Told false s (c.videoOff.foldl keyEffect s) := by
  have hlight : ∀ e ∈ (if c.status.byte StatusBytes.ajxActive ≠ 0 ∧ c.status.byte StatusBytes.powerRefcnt = 1 then
      [KeyEffect.backlightOff] else []), e.Silent := by
    intro e he
    split at he
    · rw [List.mem_singleton.mp he]
      exact fun _ => rfl
    · cases he
  have haudio : ∀ s' : VideoSource, (if s.rptBootAndroid ≠ 0 then
      (if c.status.byte StatusBytes.ajxActive ≠ 0 ∧ c.status.byte StatusBytes.powerRefcnt = 1 then
        [KeyEffect.backlightOff] else []) ++ [.audioAddWork 23] else []).foldl keyEffect s' =
      s'.say (if s.rptBootAndroid ≠ 0 then [.audio false] else []) := by
    intro s'
    split
    · rw [List.foldl_append, foldl_silent hlight]
      rfl
    · exact (say_nil s').symm
  have happ := foldl_vsSend (s.callActive ≠ 0) false
    ({ s with videoSrcReady := 0 }.say (if s.rptBootAndroid ≠ 0 then [.audio false] else []))
  unfold KeyCall.videoOff
  rw [List.foldl_append, List.foldl_append, List.foldl_append, foldl_silent silent_keyBeep, h, h', haudio]
  show Told false s (List.foldl keyEffect ({ s with videoSrcReady := 0 }.say _) _)
  exact (congrArg (Told false s) happ).mpr (told_say false s)

theorem follows_irKey (s : VideoSource) (key : U32) (found : KeyFound) :
    Follows s (s.irKey key found) (switchedBy key) := by
  obtain ⟨-, hcall, hrpt⟩ := s.byte_load found.status
  have hfree : ∀ call : KeyCall, call.key = 0x40 ∨ call.key = 0x41 →
      ¬ (call.status.byte StatusBytes.chMode ≠ 0 ∧ (call.key = 54 ∨ call.key = 56)) := by
    rintro call hkey ⟨-, hkept⟩
    rcases hkey with hkey | hkey <;> rw [hkey] at hkept <;> exact absurd hkept (by decide)
  unfold irKey switchedBy
  dsimp only
  by_cases hon : key = 0x40
  · subst hon
    unfold KeyCall.sendIrKey
    rw [if_neg (hfree _ (Or.inl rfl)), if_pos rfl, if_pos rfl]
    obtain ⟨hready, hcall', hrpt', hann, hlog⟩ := told_videoOn
      (c := ⟨0x40, s.load found.status, found.cfgFrontview, found.ctlBeep⟩) hrpt hcall
    exact ⟨hready, hcall', hrpt', hann, hlog⟩
  by_cases hoff : key = 0x41
  · subst hoff
    unfold KeyCall.sendIrKey
    rw [if_neg (hfree _ (Or.inr rfl)), if_neg hon, if_pos rfl, if_neg hon, if_pos rfl]
    obtain ⟨hready, hcall', hrpt', hann, hlog⟩ := told_videoOff
      (c := ⟨0x41, s.load found.status, found.cfgFrontview, found.ctlBeep⟩) hrpt hcall
    exact ⟨hready, hcall', hrpt', hann, hlog⟩
  rw [if_neg hon, if_neg hoff, foldl_silent (silent_sendIrKey hon hoff s.sw)]
  exact ⟨rfl, rfl, rfl, rfl, rfl⟩

/-! ## Effects of items -/

/-- An effect that switches and says nothing. -/
def Still (e : CarEffect) : Prop := ∀ (s : VideoSource) (found : KeyFound), Same s (s.carEffect found e)

theorem same_carEffects {es : List CarEffect} (h : ∀ e ∈ es, Still e) (i : ℕ) (s : VideoSource) :
    Same s (carEffects found i es s) := by
  induction es generalizing i s with
  | nil => exact .refl s
  | cons e es ih =>
    have hfirst := h e List.mem_cons_self s (found i)
    exact hfirst.trans (ih (fun e' he' => h e' (List.mem_cons_of_mem e he')) (i + 1) _)

theorem still_sendIrKey {key : U32} (h : key ≠ 0x40) (h' : key ≠ 0x41) : Still (.press (.sendIrKey key)) := by
  intro s found
  have hfollows := follows_irKey s key found
  unfold switchedBy at hfollows
  rw [if_neg h, if_neg h'] at hfollows
  exact hfollows

theorem still_vsSend {cmd : U8} (h : cmd ≠ 0x9F) (h' : cmd ≠ 0xA0) : Still (.press (.vsSend cmd)) := by
  intro s found
  have hsay : s.carEffect found (.press (.vsSend cmd)) = s := by
    show s.say (sourceOfMessage cmd) = s
    unfold sourceOfMessage
    rw [if_neg h, if_neg h', say_nil]
  rw [hsay]
  exact .refl s

theorem still_of_eq {e : CarEffect} (h : ∀ (s : VideoSource) found, s.carEffect found e = s) : Still e := by
  intro s found
  rw [h]
  exact .refl s

theorem Same.follows {switch : Option Bool} (h : Same s s') (h' : Follows s' s'' switch) : Follows s s'' switch := by
  cases switch with
  | none => exact h.trans h'
  | some on => exact h.told h'

theorem carEffects_append (es es' : List CarEffect) (i : ℕ) (s : VideoSource) :
    carEffects found i (es ++ es') s = carEffects found (i + es.length) es' (carEffects found i es s) := by
  induction es generalizing i s with
  | nil => rfl
  | cons e es ih =>
    have hlength : i + (e :: es).length = i + 1 + es.length := by
      rw [List.length_cons]
      omega
    rw [hlength]
    exact ih (i + 1) (s.carEffect (found i) e)

theorem still_press {es : List PressEffect} (h : ∀ e ∈ es, Still (.press e)) :
    ∀ e ∈ es.map CarEffect.press, Still e := by
  intro e he
  obtain ⟨e', he', rfl⟩ := List.mem_map.mp he
  exact h e' he'

theorem still_singleton {e : CarEffect} (h : Still e) : ∀ e' ∈ [e], Still e' := by
  intro e' he'
  rw [List.mem_singleton.mp he']
  exact h

theorem still_press_singleton {e : PressEffect} (h : Still (.press e)) : ∀ e' ∈ [e], Still (.press e') := by
  intro e' he'
  rw [List.mem_singleton.mp he']
  exact h

theorem still_pressCase (cmd2 : U32) : ∀ e ∈ PressItem.pressCase cmd2, Still (.press e) := by
  unfold PressItem.pressCase
  split
  case h_16 | h_17 => exact still_press_singleton (still_of_eq fun _ _ => rfl)
  case h_18 =>
    intro e he
    cases he
  all_goals exact still_press_singleton (still_sendIrKey (by decide) (by decide))

theorem still_label96 : ∀ e ∈ PressItem.label96, Still (.press e) :=
  still_press_singleton (still_sendIrKey (by decide) (by decide))

theorem still_label97 (status : StatusBytes) : ∀ e ∈ PressItem.label97 status, Still (.press e) := by
  unfold PressItem.label97
  split
  · exact still_press_singleton (still_of_eq fun _ _ => rfl)
  · exact still_press_singleton (still_of_eq fun _ _ => rfl)

theorem still_pressSwitch (item : PressItem) : ∀ e ∈ item.pressSwitch, Still (.press e) := by
  unfold PressItem.pressSwitch
  split
  · exact still_label96
  split
  · exact still_label97 item.status
  intro e he
  rcases List.mem_append.mp he with he | he
  · exact still_pressCase item.cmd2 e he
  · exact still_label96 e he

theorem switchedBy_eq_none {key : U32} (h : key ≠ 0x40) (h' : key ≠ 0x41) : switchedBy key = none := by
  unfold switchedBy
  rw [if_neg h, if_neg h']

/-! ## Items -/

theorem follows_panel (s : VideoSource) (cmd2 : U32) (status : StatusBytes) (found : ℕ → KeyFound) :
    Follows s (carEffects found 0 (carWork67 cmd2 status) s) (switched (.panel cmd2 status found)) := by
  have hbeep : ∀ e ∈ [CarEffect.press (.vsSend 0xA4)], Still e :=
    still_singleton (still_vsSend (by decide) (by decide))
  have hmulti (cmd : U32) : ∀ e ∈ [CarEffect.armSendMulti cmd], Still e := still_singleton (still_of_eq fun _ _ => rfl)
  have hfirst : Same s (carEffects found 0 [.press (.vsSend 0xA4)] s) := same_carEffects hbeep 0 s
  unfold carWork67 switched
  rw [carEffects_append]
  refine hfirst.follows ?_
  generalize carEffects found 0 [CarEffect.press (.vsSend 0xA4)] s = s'
  dsimp only
  split
  · exact Same.refl s'
  split
  next hkey =>
    rw [hkey]
    exact same_carEffects (hmulti _) _ s'
  split
  next hkey =>
    rw [hkey]
    exact same_carEffects (hmulti _) _ s'
  split
  · split
    · exact follows_irKey s' (cmd2 - 32) (found 1)
    next hkey =>
      rw [not_not.mp hkey]
      exact Same.refl s'
  next hkey =>
    rw [not_not.mp hkey]
    exact same_carEffects (still_press (still_label97 status)) _ s'

theorem follows_hold (s : VideoSource) (cmd2 : U32) (found : ℕ → KeyFound) :
    Same s (carEffects found 0 (carWork70 cmd2) s) := by
  have hkey {key : U32} (h : key ≠ 0x40) (h' : key ≠ 0x41) : ∀ e ∈ [CarEffect.press (.sendIrKey key)], Still e :=
    still_singleton (still_sendIrKey h h')
  unfold carWork70
  split
  · split
    · exact same_carEffects (hkey (by decide) (by decide)) 0 s
    split
    · exact same_carEffects (hkey (by decide) (by decide)) 0 s
    · exact .refl s
  split
  next hkeys =>
    rcases hkeys with h | h
    · rw [h]
      exact same_carEffects (hkey (by decide) (by decide)) 0 s
    · rw [h]
      exact same_carEffects (hkey (by decide) (by decide)) 0 s
  · exact .refl s

theorem follows_label93 (s : VideoSource) (item : PressItem) (kept : Timeval) (found : ℕ → KeyFound)
    (hswitch : ¬ item.cmd2.toInt ≤ 31 → item.cmd2 - 32 ≠ 0x40 ∧ item.cmd2 - 32 ≠ 0x41) :
    Same s (carEffects found 0 ((item.label93 kept).1.map .press) s) := by
  refine same_carEffects (still_press ?_) 0 s
  unfold PressItem.label93
  dsimp only
  split
  · intro e he
    cases he
  split
  next hlt =>
    obtain ⟨hon, hoff⟩ := hswitch (Int.not_le.mpr hlt)
    exact still_press_singleton (still_sendIrKey hon hoff)
  · exact still_pressSwitch item

/-- Effects that say the events and do nothing else. -/
def Says (es : List CarEffect) (events : List SourceEvent) : Prop :=
  ∀ (s : VideoSource) (found : ℕ → KeyFound) (i : ℕ), carEffects found i es s = s.say events

theorem says_nil : Says [] [] := by
  intro s found i
  exact (say_nil s).symm

theorem says_singleton {e : CarEffect} {events : List SourceEvent}
    (h : ∀ (s : VideoSource) found, s.carEffect found e = s.say events) : Says [e] events := by
  intro s found i
  exact h s (found i)

theorem says_append {es es' : List CarEffect} {events events' : List SourceEvent} (h : Says es events)
    (h' : Says es' events') : Says (es ++ es') (events ++ events') := by
  intro s found i
  rw [carEffects_append, h, h']
  unfold say
  rw [List.append_assoc]

theorem says_ite {es : List CarEffect} {events : List SourceEvent} (p : Prop) [Decidable p] (h : Says es events) :
    Says (if p then es else []) (if p then events else []) := by
  split
  · exact h
  · exact says_nil

theorem says_ite_nil {es : List CarEffect} (p : Prop) [Decidable p] (h : Says es []) :
    Says (if p then es else []) [] := by
  split
  · exact h
  · exact says_nil

theorem says_audio (on : Bool) {item : ℕ} (h : sourceOfItem item = [.audio on]) :
    Says [.press (.audioAddWork item)] [.audio on] := by
  refine says_singleton fun s found => ?_
  show s.say (sourceOfItem item) = _
  rw [h]

theorem says_app (on : Bool) {cmd : U8} (h : sourceOfMessage cmd = [.app on]) :
    Says [.press (.vsSend cmd)] [.app on] := by
  refine says_singleton fun s found => ?_
  show s.say (sourceOfMessage cmd) = _
  rw [h]

theorem map_ite (p : Prop) [Decidable p] (es : List PressEffect) :
    (if p then es else []).map CarEffect.press = if p then es.map .press else [] := by
  split
  · rfl
  · rfl

/-- The effects of a switch by `case 69`. -/
theorem told_press {es : List PressEffect} {on : Bool} {b : U8} (hb : b = if on then 1 else 0)
    (h : Says (es.map .press)
      ((if s.rptBootAndroid ≠ 0 then [.audio on] else []) ++ if s.callActive ≠ 0 then [.app on] else [])) :
    Told on s (carEffects found 0 (([PressEffect.videoSrcReady b, .keyBeep] ++ es).map .press) s) := by
  subst hb
  rw [List.map_append, carEffects_append]
  show Told on s (carEffects found 2 (es.map .press) { s with videoSrcReady := if on then 1 else 0 })
  rw [h]
  refine ⟨rfl, rfl, rfl, rfl, ?_⟩
  exact (List.append_assoc _ _ _).symm

theorem follows_press (s : VideoSource) (item : PressItem) (found : ℕ → KeyFound) :
    Follows s (s.next (.press item found)) (switched (.press item found)) := by
  obtain ⟨-, hcall, hrpt⟩ := s.byte_load item.status
  have hkept (kept : Timeval) : Same s { s with kept } := ⟨rfl, rfl, rfl, rfl, rfl⟩
  have hon : (1 : U8) = if true then 1 else 0 := rfl
  have hoff : (0 : U8) = if false then 1 else 0 := rfl
  unfold next switched PressItem.carWork
  dsimp only
  split
  next hlow => exact (hkept _).trans (follows_label93 _ _ _ found fun hlt => absurd hlow hlt)
  split
  next hkey =>
    rw [hkey, hcall, hrpt, List.append_assoc]
    refine (hkept s.kept).told (told_press hon ?_)
    rw [List.map_append, map_ite, map_ite]
    exact says_append (says_ite _ (says_audio true rfl)) (says_ite _ (says_app true rfl))
  next hnot =>
    split
    next hnot' =>
      rw [switchedBy_eq_none hnot hnot']
      split
      · exact hkept s.kept
      · exact (hkept _).trans (follows_label93 _ _ _ found fun _ => ⟨hnot, hnot'⟩)
    next hkey =>
      rw [not_not.mp hkey, hcall, hrpt, List.append_assoc]
      refine (hkept s.kept).told (told_press hoff ?_)
      rw [List.map_append, map_ite, map_ite, List.map_append, map_ite]
      have hlight : Says [.press .backlightOff] [] := says_singleton fun s _ => (say_nil s).symm
      have haudio : Says [.press (.audioAddWork 0x17)] [.audio false] := says_audio false rfl
      exact says_append (says_ite _ (says_append (says_ite_nil _ hlight) haudio)) (says_ite _ (says_app false rfl))

/-- The effects of `case 37`. -/
theorem says_carWork37 (status : StatusBytes) :
    Says (carWork37 status) (if status.byte StatusBytes.videoSrcReady ≠ 0 then [.app true] else []) := by
  have hsilent {cmd : U8} (h : sourceOfMessage cmd = []) : Says [.press (.vsSend cmd)] [] := by
    refine says_singleton fun s found => ?_
    show s.say (sourceOfMessage cmd) = _
    rw [h]
  have harm : Says [.armSend 0x202] [] := says_singleton fun s _ => (say_nil s).symm
  have hpower : Says [.press (.vsSend 0xF2), .press (.audioAddWork 0x14)] [] :=
    says_append (hsilent rfl) (says_singleton fun _ _ => rfl)
  have hwipe : Says [.press (.vsSend 0x88)] [] := hsilent rfl
  have hready : Says [.press (.vsSend 0x9F)] [.app true] := says_app true rfl
  have hcapture : Says [.captureAddWork 0x3A 2000] [] := says_singleton fun s _ => (say_nil s).symm
  have hmiddle := says_append (says_ite_nil (status.byte StatusBytes.powerRefcnt ≠ 0) hpower)
    (says_ite_nil (status.byte StatusBytes.wipeFlag &&& 0x10 ≠ 0) hwipe)
  have hall := says_append (says_append (says_append harm hmiddle)
    (says_ite (status.byte StatusBytes.videoSrcReady ≠ 0) hready)) hcapture
  rw [List.append_nil] at hall
  exact hall

theorem says_carWork38 (status : StatusBytes) :
    Says (carWork38 status) (if status.byte StatusBytes.videoSrcReady ≠ 0 then [.audio true] else []) :=
  says_ite _ (says_audio true rfl)

/-! ## What was said last -/

theorem appSees_say (s : VideoSource) (es : List SourceEvent) :
    (s.say es).appSees = Run.latest (fun | .app on => some on | .audio _ => none) s.appSees es :=
  Run.latest_append s.log es

theorem audioSees_say (s : VideoSource) (es : List SourceEvent) :
    (s.say es).audioSees = Run.latest (fun | .app _ => none | .audio on => some on) s.audioSees es :=
  Run.latest_append s.log es

theorem Same.appSees_eq (h : Same s s') : s'.appSees = s.appSees := by
  unfold appSees
  rw [h.log]

theorem Same.audioSees_eq (h : Same s s') : s'.audioSees = s.audioSees := by
  unfold audioSees
  rw [h.log]

theorem Told.appSees_eq (h : Told on s s') : s'.appSees = if s.callActive ≠ 0 then on else s.appSees := by
  have hlog := (s.say (if s.rptBootAndroid ≠ 0 then [.audio on] else [])).appSees_say
    (if s.callActive ≠ 0 then [.app on] else [])
  unfold appSees
  rw [h.log]
  refine hlog.trans ?_
  rw [appSees_say]
  split <;> split <;> rfl

theorem Told.audioSees_eq (h : Told on s s') : s'.audioSees = if s.rptBootAndroid ≠ 0 then on else s.audioSees := by
  have hlog := (s.say (if s.rptBootAndroid ≠ 0 then [.audio on] else [])).audioSees_say
    (if s.callActive ≠ 0 then [.app on] else [])
  unfold audioSees
  rw [h.log]
  refine hlog.trans ?_
  rw [audioSees_say]
  split <;> split <;> rfl

/-! ## Runs -/

variable {ops : List VideoOp} {op : VideoOp}

/-- The operation is a key or an item of a key. -/
def IsKey : VideoOp → Prop
  | .panel .. | .press .. | .hold .. | .irKey .. => True
  | .bootComplete _ | .announce _ | .bootAndroid => False

theorem follows_next (s : VideoSource) (h : IsKey op) : Follows s (s.next op) (switched op) := by
  cases op with
  | panel cmd2 status found => exact follows_panel s cmd2 status found
  | press item found => exact follows_press s item found
  | hold cmd2 found => exact follows_hold s cmd2 found
  | irKey key found => exact follows_irKey s key found
  | bootComplete status => exact absurd h not_false
  | announce status => exact absurd h not_false
  | bootAndroid => exact absurd h not_false

theorem completed_concat : Completed (ops ++ [op]) ↔ Completed ops ∨ ∃ status, op = .bootComplete status := by
  unfold Completed
  constructor
  · rintro ⟨status, hmem⟩
    rcases List.mem_append.mp hmem with hmem | hmem
    · exact Or.inl ⟨status, hmem⟩
    · exact Or.inr ⟨status, (List.mem_singleton.mp hmem).symm⟩
  · rintro (⟨status, hmem⟩ | ⟨status, rfl⟩)
    · exact ⟨status, List.mem_append_left _ hmem⟩
    · exact ⟨status, List.mem_append_right _ (List.mem_singleton_self _)⟩

theorem announced_concat :
    Announced (ops ++ [op]) ↔ Announced ops ∨ (∃ status, op = .announce status) ∧ .bootAndroid ∈ ops := by
  constructor
  · rintro ⟨pre, mid, status, post, heq⟩
    rcases List.eq_nil_or_concat post with rfl | ⟨post, op', rfl⟩
    · obtain ⟨hops, hop⟩ := List.append_inj' heq rfl
      refine Or.inr ⟨⟨status, List.singleton_inj.mp hop⟩, ?_⟩
      rw [hops]
      simp
    · rw [List.concat_eq_append, ← List.cons_append, ← List.append_assoc] at heq
      obtain ⟨hops, -⟩ := List.append_inj' heq rfl
      exact Or.inl ⟨pre, mid, status, post, hops⟩
  · rintro (⟨pre, mid, status, post, rfl⟩ | ⟨⟨status, rfl⟩, hmem⟩)
    · exact ⟨pre, mid, status, post ++ [op], by simp⟩
    · obtain ⟨pre, mid, rfl⟩ := List.append_of_mem hmem
      exact ⟨pre, mid, status, [], by simp⟩

/-- What a run keeps. -/
structure Kept (ops : List VideoOp) (s : VideoSource) : Prop where
  videoSrcReady : s.videoSrcReady = if Run.latest switched false ops then 1 else 0
  callActive : s.callActive ≠ 0 ↔ Completed ops
  rptBootAndroid : s.rptBootAndroid ≠ 0 ↔ .bootAndroid ∈ ops
  announcing : s.announcing ≠ 0 → .bootAndroid ∈ ops
  announced : .bootAndroid ∈ ops → s.announcing = 0 → Announced ops
  app : s.appSees = if s.callActive ≠ 0 then Run.latest switched false ops else false
  audio : Announced ops → s.audioSees = Run.latest switched false ops
  /-- Before, the audio module was told what holds or nothing. -/
  early : s.audioSees = false ∨ s.rptBootAndroid ≠ 0 ∧ s.audioSees = Run.latest switched false ops

theorem bootAndroid_mem_concat (h : op ≠ .bootAndroid) : .bootAndroid ∈ ops ++ [op] ↔ .bootAndroid ∈ ops := by
  rw [List.mem_append, or_iff_left]
  intro hmem
  exact h (List.mem_singleton.mp hmem).symm

theorem Announced.bootAndroid_mem (h : Announced ops) : .bootAndroid ∈ ops := by
  obtain ⟨pre, mid, status, post, rfl⟩ := h
  simp

theorem kept_boot : Kept [] boot where
  videoSrcReady := rfl
  callActive := ⟨fun h => absurd rfl h, fun ⟨_, hmem⟩ => absurd hmem List.not_mem_nil⟩
  rptBootAndroid := ⟨fun h => absurd rfl h, fun hmem => absurd hmem List.not_mem_nil⟩
  announcing := fun h => absurd rfl h
  announced := fun hmem => absurd hmem List.not_mem_nil
  app := rfl
  audio := fun _ => rfl
  early := Or.inl rfl

/-- A step that leaves what has come up as it is. -/
theorem Kept.follows (h : Kept ops s) (hkey : IsKey op) (hfollows : Follows s s' (switched op)) :
    Kept (ops ++ [op]) s' := by
  have hcompleted : Completed (ops ++ [op]) ↔ Completed ops := by
    rw [completed_concat, or_iff_left]
    rintro ⟨status, rfl⟩
    exact hkey
  have hannounced : Announced (ops ++ [op]) ↔ Announced ops := by
    rw [announced_concat, or_iff_left]
    rintro ⟨⟨status, rfl⟩, -⟩
    exact hkey
  have hmem : .bootAndroid ∈ ops ++ [op] ↔ .bootAndroid ∈ ops := bootAndroid_mem_concat (by rintro rfl; exact hkey)
  have hlatest : Run.latest switched false (ops ++ [op]) = (switched op).getD (Run.latest switched false ops) :=
    Run.latest_concat ops op
  cases hswitch : switched op with
  | none =>
    rw [hswitch] at hlatest hfollows
    have hsame : Same s s' := hfollows
    constructor
    · rw [hsame.videoSrcReady, hlatest]
      exact h.videoSrcReady
    · rw [hsame.callActive, hcompleted]
      exact h.callActive
    · rw [hsame.rptBootAndroid, hmem]
      exact h.rptBootAndroid
    · rw [hsame.announcing, hmem]
      exact h.announcing
    · rw [hsame.announcing, hmem, hannounced]
      exact h.announced
    · rw [hsame.appSees_eq, hsame.callActive, hlatest]
      exact h.app
    · rw [hannounced, hsame.audioSees_eq, hlatest]
      exact h.audio
    · rw [hsame.audioSees_eq, hsame.rptBootAndroid, hlatest]
      exact h.early
  | some on =>
    rw [hswitch] at hlatest hfollows
    have htold : Told on s s' := hfollows
    have hon : Run.latest switched false (ops ++ [op]) = on := hlatest
    constructor
    · rw [hon]
      exact htold.videoSrcReady
    · rw [htold.callActive, hcompleted]
      exact h.callActive
    · rw [htold.rptBootAndroid, hmem]
      exact h.rptBootAndroid
    · rw [htold.announcing, hmem]
      exact h.announcing
    · rw [htold.announcing, hmem, hannounced]
      exact h.announced
    · rw [htold.appSees_eq, htold.callActive, hon]
      split
      · rfl
      next hcall => rw [h.app, if_neg hcall]
    · intro hann
      have hrpt := h.rptBootAndroid.mpr (hannounced.mp hann).bootAndroid_mem
      rw [htold.audioSees_eq, if_pos hrpt, hon]
    · rw [htold.audioSees_eq, htold.rptBootAndroid, hon]
      by_cases hrpt : s.rptBootAndroid ≠ 0
      · rw [if_pos hrpt]
        exact Or.inr ⟨hrpt, rfl⟩
      · rw [if_neg hrpt]
        exact Or.inl (h.early.resolve_right fun hear => hrpt hear.1)

/-- The source is on exactly if it was switched on last. -/
theorem Kept.ready_iff (h : Kept ops s) : s.videoSrcReady ≠ 0 ↔ Run.latest switched false ops = true := by
  rw [h.videoSrcReady]
  cases Run.latest switched false ops <;> decide

theorem Kept.bootComplete (h : Kept ops s) (status : StatusBytes) :
    Kept (ops ++ [.bootComplete status]) (s.next (.bootComplete status)) := by
  have hcompleted : Completed (ops ++ [.bootComplete status]) := completed_concat.mpr (Or.inr ⟨status, rfl⟩)
  have hannounced : Announced (ops ++ [.bootComplete status]) ↔ Announced ops := by
    rw [announced_concat, or_iff_left]
    rintro ⟨⟨status', heq⟩, -⟩
    cases heq
  have hmem : .bootAndroid ∈ ops ++ [.bootComplete status] ↔ .bootAndroid ∈ ops :=
    bootAndroid_mem_concat (by rintro ⟨⟩)
  have hlatest : Run.latest switched false (ops ++ [.bootComplete status]) = Run.latest switched false ops :=
    Run.latest_concat ops (.bootComplete status)
  have hnext : s.next (.bootComplete status) =
      { s with callActive := 1 }.say (if s.videoSrcReady ≠ 0 then [.app true] else []) := by
    have hword := says_carWork37 (s.load status) { s with callActive := 1 } (fun _ => ⟨status, 0, 0⟩) 0
    rwa [(s.byte_load status).1] at hword
  have hone : (1 : U8) ≠ 0 := by decide
  have hsaid : ({ s with callActive := 1 }.say (if s.videoSrcReady ≠ 0 then [.app true] else [])).audioSees =
      s.audioSees := by
    rw [audioSees_say]
    split <;> rfl
  rw [hnext]
  constructor
  · rw [hlatest]
    exact h.videoSrcReady
  · exact ⟨fun _ => hcompleted, fun _ => hone⟩
  · rw [hmem]
    exact h.rptBootAndroid
  · rw [hmem]
    exact h.announcing
  · rw [hmem, hannounced]
    exact h.announced
  · rw [appSees_say, hlatest]
    refine Eq.trans ?_ (if_pos hone).symm
    by_cases hready : s.videoSrcReady ≠ 0
    · rw [if_pos hready, h.ready_iff.mp hready]
      rfl
    · have hoff := Bool.eq_false_iff.mpr (mt h.ready_iff.mpr hready)
      rw [if_neg hready, hoff]
      show s.appSees = false
      rw [h.app, hoff, ite_self]
  · rw [hannounced, hsaid, hlatest]
    exact h.audio
  · rw [hsaid, hlatest]
    exact h.early

theorem Kept.announce (h : Kept ops s) (status : StatusBytes) :
    Kept (ops ++ [.announce status]) (s.next (.announce status)) := by
  have hcompleted : Completed (ops ++ [.announce status]) ↔ Completed ops := by
    rw [completed_concat, or_iff_left]
    rintro ⟨status', heq⟩
    cases heq
  have hannounced : Announced (ops ++ [.announce status]) ↔ Announced ops ∨ .bootAndroid ∈ ops := by
    rw [announced_concat, and_iff_right]
    exact ⟨status, rfl⟩
  have hmem : .bootAndroid ∈ ops ++ [.announce status] ↔ .bootAndroid ∈ ops :=
    bootAndroid_mem_concat (by rintro ⟨⟩)
  have hlatest : Run.latest switched false (ops ++ [.announce status]) = Run.latest switched false ops :=
    Run.latest_concat ops (.announce status)
  unfold next
  dsimp only
  split
  next hnone =>
    constructor
    · rw [hlatest]
      exact h.videoSrcReady
    · rw [hcompleted]
      exact h.callActive
    · rw [hmem]
      exact h.rptBootAndroid
    · rw [hmem]
      exact h.announcing
    · rw [hannounced]
      exact fun hin _ => Or.inr (hmem.mp hin)
    · rw [hlatest]
      exact h.app
    · rw [hannounced, hlatest]
      rintro (hann | hin)
      · exact h.audio hann
      · exact h.audio (h.announced hin hnone)
    · rw [hlatest]
      exact h.early
  next hsome =>
    have hin := h.announcing hsome
    have hword := says_carWork38 (s.load status) { s with announcing := s.announcing - 1 } (fun _ => ⟨status, 0, 0⟩) 0
    rw [(s.byte_load status).1] at hword
    have haudio : ({ s with announcing := s.announcing - 1 }.say
        (if s.videoSrcReady ≠ 0 then [.audio true] else [])).audioSees = Run.latest switched false ops := by
      rw [audioSees_say]
      by_cases hready : s.videoSrcReady ≠ 0
      · rw [if_pos hready, h.ready_iff.mp hready]
        rfl
      · have hoff := Bool.eq_false_iff.mpr (mt h.ready_iff.mpr hready)
        rw [if_neg hready, hoff]
        rcases h.early with hear | ⟨-, hear⟩
        · exact hear
        · exact hear.trans hoff
    have happ : ({ s with announcing := s.announcing - 1 }.say
        (if s.videoSrcReady ≠ 0 then [.audio true] else [])).appSees = s.appSees := by
      rw [appSees_say]
      split <;> rfl
    rw [hword]
    constructor
    · rw [hlatest]
      exact h.videoSrcReady
    · rw [hcompleted]
      exact h.callActive
    · rw [hmem]
      exact h.rptBootAndroid
    · exact fun _ => hmem.mpr hin
    · exact fun _ _ => hannounced.mpr (Or.inr hin)
    · rw [happ, hlatest]
      exact h.app
    · rw [haudio, hlatest]
      exact fun _ => rfl
    · rw [haudio, hlatest]
      exact Or.inr ⟨h.rptBootAndroid.mpr hin, rfl⟩

theorem Kept.bootAndroid (h : Kept ops s) : Kept (ops ++ [.bootAndroid]) (s.next .bootAndroid) := by
  have hcompleted : Completed (ops ++ [.bootAndroid]) ↔ Completed ops := by
    rw [completed_concat, or_iff_left]
    rintro ⟨status, heq⟩
    cases heq
  have hannounced : Announced (ops ++ [.bootAndroid]) ↔ Announced ops := by
    rw [announced_concat, or_iff_left]
    rintro ⟨⟨status, heq⟩, -⟩
    cases heq
  have hmem : VideoOp.bootAndroid ∈ ops ++ [.bootAndroid] := List.mem_append_right _ (List.mem_singleton_self _)
  have hlatest : Run.latest switched false (ops ++ [.bootAndroid]) = Run.latest switched false ops :=
    Run.latest_concat ops .bootAndroid
  have hone : (1 : U8) ≠ 0 := by decide
  constructor
  · rw [hlatest]
    exact h.videoSrcReady
  · rw [hcompleted]
    exact h.callActive
  · exact ⟨fun _ => hmem, fun _ => hone⟩
  · exact fun _ => hmem
  · exact fun _ hnone => absurd hnone (Nat.succ_ne_zero _)
  · rw [hlatest]
    exact h.app
  · rw [hannounced, hlatest]
    exact h.audio
  · rw [hlatest]
    rcases h.early with hear | ⟨-, hear⟩
    · exact Or.inl hear
    · exact Or.inr ⟨hone, hear⟩

/-- Every run keeps it. -/
theorem kept_after (ops : List VideoOp) : Kept ops (Run.after next boot ops) := by
  induction ops using List.reverseRecOn with
  | nil => exact kept_boot
  | append_singleton ops op ih =>
    rw [Run.after_append]
    show Kept (ops ++ [op]) (next (Run.after next boot ops) op)
    by_cases hkey : IsKey op
    · exact ih.follows hkey (follows_next _ hkey)
    cases op with
    | bootComplete status => exact ih.bootComplete status
    | announce status => exact ih.announce status
    | bootAndroid => exact ih.bootAndroid
    | panel | press | hold | irKey => exact absurd trivial hkey

/-- The application and the audio module are in sync with the source. -/
theorem inSync (ops : List VideoOp) : InSync ops (Run.after next boot ops) := by
  have hkept := kept_after ops
  refine ⟨?_, hkept.audio⟩
  intro hcompleted
  rw [hkept.app, if_pos (hkept.callActive.mpr hcompleted)]

end VideoSource

end MtcDrivers
