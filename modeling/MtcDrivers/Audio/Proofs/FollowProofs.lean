import MtcDrivers.Audio.Proofs.CalmProofs

/-!
# Proofs: the volume follows the requests

What a request stores for the volume it also queues an item for, and the item comes behind it.
-/

namespace MtcDrivers

namespace Control

open AudioUnit VolumeSystem

variable {key : Text} {c c' c'' : Control}

/-! ## One request -/

/-- The five keys that queue the first items. -/
def firstItems : List (ℕ × Text) :=
  [(0, ascii "av_channel_enter"), (1, ascii "av_channel_exit"), (2, ascii "av_mute"), (3, ascii "av_volume"),
    (4, ascii "av_phone_volume")]

/-- An item that a request with this key may queue. -/
structure ItemOf (key : Text) (w : AudioWork) : Prop where
  ordinary : Ordinary w
  key : w.cmd1.toNat ≤ 4 → (w.cmd1.toNat, key) ∈ firstItems

/-- The items behind the first ones may come from any key. -/
theorem itemOf_late {cmd1 cmd2 cmd3 val1 : U32} (h : cmd1.toNat ∈ [6, 7, 8, 10, 11, 12, 14, 18, 19, 26]) :
    ItemOf key ⟨cmd1, cmd2, cmd3, val1⟩ where
  ordinary := by
    refine ordinary_mk ?_
    simp only [List.mem_cons, List.not_mem_nil, or_false] at h ⊢
    omega
  key hle := by
    simp only [List.mem_cons, List.not_mem_nil, or_false] at h hle
    omega

theorem itemOf_first {cmd1 cmd2 cmd3 val1 : U32} (h : (cmd1.toNat, key) ∈ firstItems) :
    ItemOf key ⟨cmd1, cmd2, cmd3, val1⟩ where
  ordinary := by
    refine ordinary_mk ?_
    simp only [firstItems, List.mem_cons, List.not_mem_nil, or_false, Prod.mk.injEq] at h ⊢
    omega
  key _ := h

/-- A request sends no frame and changes nothing but the mix of the navigation, for which it queues an item,
    and the volume of the camera. -/
structure Serves (key : Text) (c c' : Control) : Prop where
  unit : c'.unit = { c.unit with
    audio := { c.unit.audio with
      state := { c.unit.state with avGpsMonitor := c'.unit.state.avGpsMonitor }, log := c'.unit.audio.log }
    avGpsSwitch := c'.unit.avGpsSwitch, backviewVol := c'.unit.backviewVol }
  monitor : key ≠ ascii "av_gps_monitor" → c'.unit.state.avGpsMonitor = c.unit.state.avGpsMonitor
  switch : key ≠ ascii "av_gps_switch" → c'.unit.avGpsSwitch = c.unit.avGpsSwitch
  acts : ∃ new, c'.acts = new ++ c.acts ∧ (∀ w ∈ audioItems new, ItemOf key w) ∧
    (c'.unit.state.avGpsMonitor ≠ c.unit.state.avGpsMonitor → ∃ w ∈ audioItems new, w.cmd1.toNat = 7) ∧
    (c'.unit.avGpsSwitch ≠ c.unit.avGpsSwitch → ∃ w ∈ audioItems new, w.cmd1.toNat = 8)

/-- Nothing is queued and the unit is not touched. -/
theorem Serves.of_same (hunit : c'.unit = c.unit) (hacts : c'.acts = c.acts) : Serves key c c' where
  unit := by
    rw [hunit]
    rfl
  monitor _ := by rw [hunit]
  switch _ := by rw [hunit]
  acts := ⟨[], hacts, by simp [audioItems], fun h => absurd (by rw [hunit]) h, fun h => absurd (by rw [hunit]) h⟩

theorem Serves.refl (c : Control) : Serves key c c := .of_same rfl rfl

theorem audioItems_append (new old : List ControlAct) : audioItems (new ++ old) = audioItems new ++ audioItems old :=
  List.filterMap_append

theorem Serves.trans (h : Serves key c c') (h' : Serves key c' c'') : Serves key c c'' where
  unit := by
    rw [h'.unit, h.unit]
    rfl
  monitor hkey := (h'.monitor hkey).trans (h.monitor hkey)
  switch hkey := (h'.switch hkey).trans (h.switch hkey)
  acts := by
    obtain ⟨new, hnew, hitems, hmonitor, hswitch⟩ := h.acts
    obtain ⟨new', hnew', hitems', hmonitor', hswitch'⟩ := h'.acts
    refine ⟨new' ++ new, by rw [hnew', hnew, List.append_assoc], ?_, ?_, ?_⟩
    · intro w hw
      rw [audioItems_append] at hw
      rcases List.mem_append.mp hw with hw | hw
      · exact hitems' w hw
      · exact hitems w hw
    · intro hchange
      rw [audioItems_append]
      by_cases hlate : c''.unit.state.avGpsMonitor = c'.unit.state.avGpsMonitor
      · obtain ⟨w, hw, hitem⟩ := hmonitor fun hearly => hchange (hlate.trans hearly)
        exact ⟨w, List.mem_append_right _ hw, hitem⟩
      · obtain ⟨w, hw, hitem⟩ := hmonitor' hlate
        exact ⟨w, List.mem_append_left _ hw, hitem⟩
    · intro hchange
      rw [audioItems_append]
      by_cases hlate : c''.unit.avGpsSwitch = c'.unit.avGpsSwitch
      · obtain ⟨w, hw, hitem⟩ := hswitch fun hearly => hchange (hlate.trans hearly)
        exact ⟨w, List.mem_append_right _ hw, hitem⟩
      · obtain ⟨w, hw, hitem⟩ := hswitch' hlate
        exact ⟨w, List.mem_append_left _ hw, hitem⟩

/-- Another module has something to do. -/
theorem serves_emit {a : ControlAct} (ha : audioItems [a] = []) (c : Control) : Serves key c (c.emit a) where
  unit := rfl
  monitor _ := rfl
  switch _ := rfl
  acts := by
    refine ⟨[a], rfl, ?_, fun h => absurd rfl h, fun h => absurd rfl h⟩
    rw [ha]
    simp

theorem audioItems_map (items : List AudioWork) : audioItems (items.map .audioWork) = items := by
  unfold audioItems
  rw [List.filterMap_map]
  exact List.filterMap_some

/-- Some audio items are queued. -/
theorem serves_items {items : List AudioWork} (hitems : ∀ w ∈ items, ItemOf key w) (c : Control) :
    Serves key c { c with acts := items.map .audioWork ++ c.acts } where
  unit := rfl
  monitor _ := rfl
  switch _ := rfl
  acts := by
    refine ⟨_, rfl, ?_, fun h => absurd rfl h, fun h => absurd rfl h⟩
    rw [audioItems_map]
    exact hitems

theorem items_audioAddWork {cmd1 cmd2 cmd3 val1 : U32} (h : ItemOf key ⟨cmd1, cmd2, cmd3, val1⟩) (a : Audio) :
    ∀ w ∈ a.audioAddWork cmd1 cmd2 cmd3 val1, ItemOf key w := by
  intro w hw
  unfold Audio.audioAddWork at hw
  split at hw
  · rw [List.mem_singleton.mp hw]
    exact h
  · cases hw

theorem serves_audioAddWork {cmd1 cmd2 cmd3 val1 : U32} (h : ItemOf key ⟨cmd1, cmd2, cmd3, val1⟩) (c : Control) :
    Serves key c (c.audioAddWork cmd1 cmd2 cmd3 val1) := serves_items (items_audioAddWork h _) c

/-! ## The keys -/

/-- The code behind a key serves every value but the one that puts speech on a channel of its own. -/
def Obeys (key : Text) (h : Handler) : Prop :=
  ∀ value c, ¬ (key = ascii "av_speech" ∧ value = ascii "in") → c.unit.audio.audioReady ≠ 0 →
    Serves key c (h value c).2

/-- The code behind some words serves. -/
def WordsServe (key : Text) (words : List (Text × (Control → Control))) : Prop :=
  ∀ p ∈ words, ∀ c : Control, c.unit.audio.audioReady ≠ 0 → Serves key c (p.2 c)

theorem words_nil : WordsServe key [] := by
  intro p hp
  cases hp

theorem words_cons {word : Text} {run : Control → Control} {words : List (Text × (Control → Control))}
    (h : ∀ c : Control, c.unit.audio.audioReady ≠ 0 → Serves key c (run c)) (hrest : WordsServe key words) :
    WordsServe key ((word, run) :: words) := List.forall_mem_cons.mpr ⟨h, hrest⟩

theorem serves_onWord {words : List (Text × (Control → Control))} (h : WordsServe key words) (value : Text)
    (hready : c.unit.audio.audioReady ≠ 0) : Serves key c (onWord words value c).2 := by
  unfold onWord
  split
  · rename_i run hrun
    obtain ⟨l, l', hwords, _⟩ := List.lookup_eq_some_iff.mp hrun
    refine h (value, run) ?_ c hready
    rw [hwords]
    exact List.mem_append_right l List.mem_cons_self
  · exact .refl c

theorem obeys_onWord {words : List (Text × (Control → Control))} (h : WordsServe key words) :
    Obeys key (onWord words) := by
  intro value c _ hready
  exact serves_onWord h value hready

theorem obeys_onNumber {run : U32 → Control → Control} (h : ∀ v c, Serves key c (run v c)) :
    Obeys key (onNumber run) := by
  intro value c _ _
  unfold onNumber
  dsimp only
  split
  · exact h _ c
  · exact .refl c

/-- The code behind the keys of a table. -/
def TableObeys (handlers : List (Text × Handler)) : Prop := ∀ p ∈ handlers, Obeys p.1 p.2

theorem table_nil : TableObeys [] := by
  intro p hp
  cases hp

theorem table_cons {h : Handler} {handlers : List (Text × Handler)} (hkey : Obeys key h)
    (hrest : TableObeys handlers) : TableObeys ((key, h) :: handlers) :=
  List.forall_mem_cons.mpr ⟨hkey, hrest⟩

/-! ## `rpt_` -/

theorem serves_carAddWork (cmd1 cmd2 : U32) (c : Control) : Serves key c (c.carAddWork cmd1 cmd2) := serves_emit rfl c

theorem serves_ite {b : Prop} [Decidable b] (h : Serves key c c') : Serves key c (if b then c' else c) := by
  split
  · exact h
  · exact .refl c

/-- One of the two reports of the boot. -/
theorem obeys_rptComplete (other : U8) : Obeys key (rptComplete other) :=
  obeys_onWord (words_cons (fun c _ => serves_ite (serves_carAddWork 37 0 c)) words_nil)

theorem obeys_rptBootAndroid : Obeys key rptBootAndroidKey := by
  intro value c _ hready
  have hclear : Serves key c { c with rptBootAppinit := 0 } := .of_same rfl rfl
  refine hclear.trans (serves_onWord (words_cons ?_ words_nil) value hready)
  intro c _
  have hsend : Serves key c (c.emit (.armSend 0x204)) := serves_emit rfl c
  have hflag : Serves key (c.emit (.armSend 0x204)) { c.emit (.armSend 0x204) with rptBootAndroid := 1 } :=
    .of_same rfl rfl
  exact (hsend.trans hflag).trans (serves_carAddWork 38 0 _)

theorem obeys_rptBootRecovery : Obeys key rptBootRecovery := by
  refine obeys_onWord (words_cons ?_ words_nil)
  intro c _
  have hsend : Serves key c (c.emit (.armSend 0x208)) := serves_emit rfl c
  exact hsend.trans (.of_same rfl rfl)

theorem words_keyMode : WordsServe key [(ascii "recovery", keyEnterMode 3), (ascii "assign", keyEnterMode 1),
    (ascii "normal", keyEnterMode 0), (ascii "steering", keyEnterMode 2)] := by
  refine words_cons ?_ (words_cons ?_ (words_cons ?_ (words_cons ?_ words_nil)))
  all_goals exact fun _ _ => .of_same rfl rfl

theorem table_rpt (env : ControlEnv) : TableObeys (rptHandlers env) := by
  refine table_cons (obeys_rptComplete env.v180) ?_
  refine table_cons (obeys_rptComplete env.v179) ?_
  refine table_cons obeys_rptBootAndroid ?_
  refine table_cons (fun _ _ _ _ => .of_same rfl rfl) ?_
  refine table_cons obeys_rptBootRecovery ?_
  refine table_cons (obeys_onWord (words_cons (fun c _ => .refl c) words_nil)) ?_
  refine table_cons (obeys_onWord (words_cons (fun c _ => .refl c)
    (words_cons (fun _ _ => .of_same rfl rfl) words_nil))) ?_
  refine table_cons (obeys_onWord words_keyMode) ?_
  exact table_nil

/-! ## `av_` -/

theorem serves_channelWork {cmd1 cmd3 ch : U32} (h : ItemOf key ⟨cmd1, ch, cmd3, 0⟩) (c : Control) :
    Serves key c (c.channelWork cmd1 cmd3 0 ch) :=
  ((serves_audioAddWork h c).trans (serves_emit rfl _)).trans (serves_emit rfl _)

theorem serves_enter (ch : U32) (c : Control) : Serves (ascii "av_channel_enter") c (c.enter ch) :=
  serves_channelWork (itemOf_first (by decide)) c

theorem serves_leave (ch : U32) (c : Control) : Serves (ascii "av_channel_exit") c (c.leave ch) :=
  serves_channelWork (itemOf_first (by decide)) c

theorem serves_clearFlag1_enter (ch : U32) (c : Control) :
    Serves (ascii "av_channel_enter") c (c.clearFlag1.enter ch) := by
  have hflag : Serves (ascii "av_channel_enter") c c.clearFlag1 := .of_same rfl rfl
  exact hflag.trans (serves_enter ch _)

theorem obeys_avChannelEnter : Obeys (ascii "av_channel_enter") avChannelEnter := by
  refine obeys_onWord (words_cons ?_ (words_cons ?_ (words_cons ?_ (words_cons ?_ (words_cons ?_
    (words_cons ?_ (words_cons ?_ (words_cons ?_ words_nil))))))))
  · exact fun c _ => serves_enter 0 c
  · exact fun c _ => serves_enter 1 c
  · exact fun c _ => serves_enter 2 c
  · exact fun c _ => serves_clearFlag1_enter 3 c
  · exact fun c _ => serves_enter 4 c
  · exact fun c _ => serves_clearFlag1_enter 5 c
  · exact fun c _ => serves_clearFlag1_enter 7 c
  · exact fun c _ => serves_enter 6 c

theorem obeys_avChannelExit : Obeys (ascii "av_channel_exit") avChannelExit := by
  refine obeys_onWord (words_cons ?_ (words_cons ?_ (words_cons ?_ (words_cons ?_ (words_cons ?_
    (words_cons ?_ (words_cons ?_ (words_cons ?_ words_nil))))))))
  all_goals exact fun c _ => serves_leave _ c

theorem obeys_avVolumeOf (k : VolumeKey) : Obeys k.name (avVolumeOf k) := by
  intro value c _ _
  refine serves_items ?_ c
  unfold Audio.ioctlVolume
  dsimp only
  split
  · refine items_audioAddWork (itemOf_first ?_) _
    cases k <;> decide
  · simp

/-- The phone requests and those of the balance queue items of the balance. -/
theorem obeys_avRequest (k : AvKey) : Obeys key (avRequest k) := by
  intro value c _ _
  have hserves : ∀ (log : List AudioEvent) {items : List AudioWork}, (∀ w ∈ items, ItemOf key w) →
      Serves key c { c with
        unit := { c.unit with audio := { c.unit.audio with log := log } }
        acts := items.map .audioWork ++ c.acts } := by
    intro log items hitems
    have hlog : Serves key c { c with unit := { c.unit with audio := { c.unit.audio with log := log } } } :=
      ⟨rfl, fun _ => rfl, fun _ => rfl, [], rfl, by simp [audioItems], fun h => absurd rfl h, fun h => absurd rfl h⟩
    exact hlog.trans (serves_items hitems _)
  have hitem : ∀ cmd2 cmd3 : U32, ItemOf key ⟨10, cmd2, cmd3, 0⟩ := fun _ _ => itemOf_late (by decide)
  have hitems := fun cmd2 cmd3 => items_audioAddWork (hitem cmd2 cmd3) c.unit.audio
  have hnone : ∀ w ∈ ([] : List AudioWork), ItemOf key w := by simp
  unfold avRequest
  dsimp only
  cases k with
  | avPhone =>
    unfold Audio.ioctlAv Audio.ioctlAvPhone
    dsimp only
    split
    · exact hserves _ (hitems 1 0)
    · split
      · exact hserves _ (hitems 2 0)
      · split
        · split
          · exact hserves _ (hitems 0 0)
          · exact hserves _ (hitems 0 0)
        · split
          · exact hserves _ (hitems 3 0)
          · exact hserves c.unit.audio.log hnone
  | avBalance =>
    unfold Audio.ioctlAv Audio.ioctlAvBalance
    dsimp only
    split
    · split
      · exact hserves c.unit.audio.log (hitems _ _)
      · exact hserves c.unit.audio.log hnone
    · exact hserves c.unit.audio.log hnone

theorem obeys_avEq : Obeys key avEq := by
  intro value c _ _
  unfold avEq
  dsimp only
  split
  · split
    · split
      · exact serves_audioAddWork (itemOf_late (by decide)) c
      · exact .refl c
    · exact .refl c
  · exact .refl c

theorem words_audio {word word' : Text} {cmd1 : U32} (h : ∀ cmd2 : U32, ItemOf key ⟨cmd1, cmd2, 0, 0⟩) :
    WordsServe key [(word, audioAddWork cmd1 1 0 0), (word', audioAddWork cmd1 0 0 0)] :=
  words_cons (fun c _ => serves_audioAddWork (h 1) c)
    (words_cons (fun c _ => serves_audioAddWork (h 0) c) words_nil)

/-- The item of a stored flag is queued with it. -/
theorem serves_gpsMonitor (b : U8) {v : U32} (hready : c.unit.audio.audioReady ≠ 0) :
    Serves (ascii "av_gps_monitor") c ((c.setGpsMonitor b).audioAddWork 7 v 0 0) where
  unit := rfl
  monitor hkey := absurd rfl hkey
  switch _ := rfl
  acts := by
    have hitems : c.unit.audio.audioAddWork 7 v 0 0 = [⟨7, v, 0, 0⟩] := if_pos hready
    refine ⟨[.audioWork ⟨7, v, 0, 0⟩], ?_, ?_, ?_, fun h => absurd rfl h⟩
    · show (c.unit.audio.audioAddWork 7 v 0 0).map ControlAct.audioWork ++ c.acts = _
      rw [hitems]
      rfl
    · intro w hw
      rw [List.mem_singleton.mp hw]
      exact itemOf_late (by decide)
    · exact fun _ => ⟨⟨7, v, 0, 0⟩, List.mem_singleton_self _, rfl⟩

theorem serves_gpsSwitch (b : U8) {v : U32} (hready : c.unit.audio.audioReady ≠ 0) :
    Serves (ascii "av_gps_switch") c ((c.setGpsSwitch b).audioAddWork 8 v 0 0) where
  unit := rfl
  monitor _ := rfl
  switch hkey := absurd rfl hkey
  acts := by
    have hitems : c.unit.audio.audioAddWork 8 v 0 0 = [⟨8, v, 0, 0⟩] := if_pos hready
    refine ⟨[.audioWork ⟨8, v, 0, 0⟩], ?_, ?_, fun h => absurd rfl h, ?_⟩
    · show (c.unit.audio.audioAddWork 8 v 0 0).map ControlAct.audioWork ++ c.acts = _
      rw [hitems]
      rfl
    · intro w hw
      rw [List.mem_singleton.mp hw]
      exact itemOf_late (by decide)
    · exact fun _ => ⟨⟨8, v, 0, 0⟩, List.mem_singleton_self _, rfl⟩

theorem obeys_avGpsMonitor : Obeys (ascii "av_gps_monitor") avGpsMonitor :=
  obeys_onWord (words_cons (fun _ hready => serves_ite (serves_gpsMonitor 1 hready))
    (words_cons (fun _ hready => serves_ite (serves_gpsMonitor 0 hready)) words_nil))

theorem obeys_avGpsSwitch : Obeys (ascii "av_gps_switch") avGpsSwitch :=
  obeys_onWord (words_cons (fun _ hready => serves_ite (serves_gpsSwitch 1 hready))
    (words_cons (fun _ hready => serves_ite (serves_gpsSwitch 0 hready)) words_nil))

theorem obeys_avSpeech : Obeys (ascii "av_speech") avSpeech := by
  intro value c hvalue _
  have hin : (value == ascii "in") = false := beq_eq_false_iff_ne.mpr fun h => hvalue ⟨rfl, h⟩
  unfold avSpeech onWord
  rw [List.lookup_cons, hin]
  by_cases hout : value = ascii "out"
  · subst hout
    refine serves_audioAddWork ⟨Or.inr (by decide), ?_⟩ c
    decide
  · have hne : (value == ascii "out") = false := beq_eq_false_iff_ne.mpr hout
    dsimp only
    rw [List.lookup_cons, hne]
    exact .refl c

theorem table_av : TableObeys avHandlers := by
  refine table_cons obeys_avChannelEnter ?_
  refine table_cons obeys_avChannelExit ?_
  refine table_cons (obeys_avVolumeOf .avVolume) ?_
  refine table_cons (obeys_avVolumeOf .avPhoneVolume) ?_
  refine table_cons (obeys_onWord (words_audio fun _ => itemOf_first (by decide))) ?_
  refine table_cons (obeys_avRequest _) ?_
  refine table_cons obeys_avSpeech ?_
  refine table_cons (obeys_onWord (words_audio fun _ => itemOf_late (by decide))) ?_
  refine table_cons (obeys_onWord (words_audio fun _ => itemOf_late (by decide))) ?_
  refine table_cons (obeys_avRequest _) ?_
  refine table_cons obeys_avEq ?_
  refine table_cons obeys_avGpsMonitor ?_
  refine table_cons obeys_avGpsSwitch ?_
  refine table_cons (obeys_onNumber fun v c => serves_ite (.of_same rfl rfl)) ?_
  refine table_cons (obeys_onNumber fun v c => serves_audioAddWork (itemOf_late (by decide)) c) ?_
  exact table_nil

/-! ## `ctl_` -/

theorem obeys_emits {run : U32 → ControlAct} (h : ∀ v, audioItems [run v] = []) :
    Obeys key (onNumber fun v c => c.emit (run v)) := obeys_onNumber fun v c => serves_emit (h v) c

theorem words_emits {word word' : Text} {a a' : ControlAct} (h : audioItems [a] = []) (h' : audioItems [a'] = []) :
    WordsServe key [(word, fun c => c.emit a), (word', fun c => c.emit a')] :=
  words_cons (fun c _ => serves_emit h c) (words_cons (fun c _ => serves_emit h' c) words_nil)

theorem obeys_ctlUvCal : Obeys key ctlUvCal := by
  intro value c _ _
  unfold ctlUvCal
  extract_lets v178
  split
  · exact .of_same rfl rfl
  · have hflag : Serves key c { c with uvCal := 1 } := .of_same rfl rfl
    exact hflag.trans (serves_emit rfl _)

theorem obeys_ctlCvbsBrightness : Obeys key ctlCvbsBrightness := by
  intro value c _ _
  unfold ctlCvbsBrightness
  extract_lets brightness
  split
  · exact serves_emit rfl c
  · exact .refl c

theorem obeys_ctlCamera : Obeys key ctlCamera := by
  intro value c _ _
  unfold ctlCamera
  split
  · exact serves_emit rfl c
  · split
    · exact serves_emit rfl c
    · exact serves_emit rfl c

/-- The requests that start or stop a capture. -/
theorem obeys_captures {word1 word2 word3 word4 : Text} {a1 a2 a3 a4 : ControlAct}
    (h1 : audioItems [a1] = []) (h2 : audioItems [a2] = []) (h3 : audioItems [a3] = [])
    (h4 : audioItems [a4] = []) :
    Obeys key (onWord [(word1, fun c => c.emit a1), (word2, fun c => c.emit a2), (word3, fun c => c.emit a3),
      (word4, fun c => c.emit a4)]) :=
  obeys_onWord (words_cons (fun c _ => serves_emit h1 c)
    (words_cons (fun c _ => serves_emit h2 c) (words_emits h3 h4)))

theorem obeys_ctlBeep : Obeys key ctlBeepKey := by
  intro value c _ _
  unfold ctlBeepKey
  split
  · exact serves_emit rfl c
  · exact .refl c

theorem words_radioMute : WordsServe key
    [(ascii "true", fun c => (c.audioAddWork 19 1 0 0).emit (.radioSetMute 1)),
      (ascii "false", fun c => (c.emit (.radioSetMute 0)).audioAddWork 19 0 0 0)] := by
  refine words_cons ?_ (words_cons ?_ words_nil)
  · exact fun c _ => (serves_audioAddWork (itemOf_late (by decide)) c).trans (serves_emit rfl _)
  · exact fun c _ => (serves_emit rfl c).trans (serves_audioAddWork (itemOf_late (by decide)) _)

theorem serves_backviewVol (b : U8) (c : Control) : Serves key c (c.setBackviewVol b) where
  unit := rfl
  monitor _ := rfl
  switch _ := rfl
  acts := ⟨[], rfl, by simp [audioItems], fun h => absurd rfl h, fun h => absurd rfl h⟩

theorem obeys_ctlTvDemod : Obeys key ctlTvDemod := by
  refine obeys_onNumber fun v c => ?_
  refine serves_ite ?_
  have hflag : Serves key c { c with avChannelFlag1 := v.setWidth 8 } := .of_same rfl rfl
  exact (hflag.trans (serves_emit rfl _)).trans (serves_emit rfl _)

theorem serves_screenBrightness (c : Control) : Serves key c c.screenBrightness := by
  unfold screenBrightness
  split
  · exact serves_carAddWork 36 0 c
  · exact serves_carAddWork 35 0 c

theorem obeys_ctlKey : Obeys key ctlKey := by
  refine obeys_onWord (words_cons ?_ (words_cons ?_ (words_cons ?_ (words_cons ?_ (words_cons ?_
    (words_cons ?_ words_nil))))))
  · exact fun c _ => serves_emit rfl c
  · intro c _
    have hsend : Serves key c (c.emit (.armSendMulti 0x9529 [])) := serves_emit rfl c
    exact hsend.trans (.of_same rfl rfl)
  · exact fun c _ => serves_emit rfl c
  · exact fun c _ => serves_screenBrightness c
  · exact fun c _ => serves_carAddWork 74 1 c
  · exact fun c _ => serves_carAddWork 74 0 c

theorem obeys_ctlReset : Obeys key ctlReset := by
  refine obeys_onWord (words_cons ?_ (words_cons ?_ words_nil))
  · exact fun c _ => (serves_emit rfl c).trans (serves_emit rfl _)
  · intro c _
    split
    · exact (serves_emit rfl c).trans (serves_emit rfl _)
    · exact (serves_emit rfl c).trans (serves_emit rfl _)

theorem table_ctl : TableObeys ctlHandlers := by
  refine table_cons obeys_ctlUvCal ?_
  refine table_cons obeys_ctlCvbsBrightness ?_
  refine table_cons (fun _ c _ _ => serves_emit rfl c) ?_
  refine table_cons obeys_ctlCamera ?_
  refine table_cons (obeys_captures rfl rfl rfl rfl) ?_
  refine table_cons (obeys_captures rfl rfl rfl rfl) ?_
  refine table_cons (obeys_onWord (words_cons (fun c _ => serves_emit rfl c)
    (words_cons (fun c _ => .refl c) words_nil))) ?_
  refine table_cons obeys_ctlBeep ?_
  refine table_cons (fun _ c _ _ => serves_emit rfl c) ?_
  refine table_cons (obeys_emits fun _ => rfl) ?_
  refine table_cons (obeys_onWord (words_cons (fun c _ => serves_emit rfl c) (words_emits rfl rfl))) ?_
  refine table_cons (obeys_onWord (words_emits rfl rfl)) ?_
  refine table_cons (obeys_onWord (words_emits rfl rfl)) ?_
  refine table_cons (fun _ c _ _ => serves_emit rfl c) ?_
  refine table_cons (obeys_emits fun _ => rfl) ?_
  refine table_cons (obeys_emits fun _ => rfl) ?_
  refine table_cons (obeys_onWord (words_audio fun _ => itemOf_late (by decide))) ?_
  refine table_cons (obeys_onWord words_radioMute) ?_
  refine table_cons (obeys_onWord (words_emits rfl rfl)) ?_
  refine table_cons (obeys_onNumber fun v c => serves_backviewVol _ c) ?_
  refine table_cons (obeys_onWord (words_cons (fun c _ => serves_backviewVol 11 c)
    (words_cons (fun c _ => serves_backviewVol 0 c) words_nil))) ?_
  refine table_cons (obeys_emits fun _ => rfl) ?_
  refine table_cons obeys_ctlTvDemod ?_
  refine table_cons obeys_ctlKey ?_
  refine table_cons (obeys_onWord (words_cons (fun c _ => .refl c) (words_cons (fun c _ => .refl c) words_nil))) ?_
  refine table_cons obeys_ctlReset ?_
  exact table_nil

/-! ## All requests -/

theorem serves_compareKeys {handlers : List (Text × Handler)} (h : TableObeys handlers) {key value : Text}
    (hspeech : ¬ (key = ascii "av_speech" ∧ value = ascii "in")) (hready : c.unit.audio.audioReady ≠ 0) :
    Serves key c (compareKeys handlers key value c).2 := by
  unfold compareKeys
  split
  · rename_i run hrun
    obtain ⟨l, l', hhandlers, _⟩ := List.lookup_eq_some_iff.mp hrun
    refine h (key, run) ?_ value c hspeech hready
    rw [hhandlers]
    exact List.mem_append_right l List.mem_cons_self
  · exact .refl c

theorem serves_request (r : Request) (hspeech : ¬ (r.key = ascii "av_speech" ∧ r.value = ascii "in"))
    (hready : c.unit.audio.audioReady ≠ 0) : Serves r.key c (c.request r) := by
  unfold request setRequest
  split
  · exact .refl c
  · split
    · split
      · exact .of_same rfl rfl
      · split
        · exact serves_compareKeys table_ctl hspeech hready
        · exact .refl c
    · split
      · split
        · exact serves_compareKeys table_av hspeech hready
        · exact .refl c
      · split
        · exact serves_compareKeys (table_rpt r.env) hspeech hready
        · exact .refl c

/-! ## What a request asks for -/

theorem queued_eq {new : List ControlAct} (hnew : c'.acts = new ++ c.acts) :
    queued c c' = (audioItems new).reverse := by
  unfold queued
  rw [hnew, List.length_append, Nat.add_sub_cancel, List.take_left]

theorem Serves.queued (h : Serves key c c') : ∀ w ∈ queued c c', ItemOf key w := by
  obtain ⟨new, hnew, hitems, _⟩ := h.acts
  intro w hw
  rw [queued_eq hnew] at hw
  exact hitems w (List.mem_reverse.mp hw)

/-- The items of a request that is not one for the volume bring no volume. -/
theorem Serves.latest_volMain (h : Serves key c c') (hkey : key ≠ ascii "av_volume") (x : U8) :
    Run.latest AudioWork.volMain x (VolumeSystem.queued c c') = x := by
  refine Run.latest_of_none fun w hw => if_neg fun hitem => hkey ?_
  have hmem := (h.queued w hw).key (by omega)
  rw [hitem] at hmem
  simpa [firstItems] using hmem

theorem Serves.latest_volAux (h : Serves key c c') (hkey : key ≠ ascii "av_phone_volume") (x : U8) :
    Run.latest AudioWork.volAux x (VolumeSystem.queued c c') = x := by
  refine Run.latest_of_none fun w hw => if_neg fun hitem => hkey ?_
  have hmem := (h.queued w hw).key (by omega)
  rw [hitem] at hmem
  simpa [firstItems] using hmem

theorem Serves.latest_mute (h : Serves key c c') (henter : key ≠ ascii "av_channel_enter")
    (hexit : key ≠ ascii "av_channel_exit") (hmute : key ≠ ascii "av_mute") (hvolume : key ≠ ascii "av_volume")
    (x : Option U8) : Run.latest AudioWork.mute x (VolumeSystem.queued c c') = x := by
  refine Run.latest_of_none fun w hw => ?_
  have hmem := (h.queued w hw).key
  unfold AudioWork.mute
  split
  · rename_i hitem
    rw [hitem] at hmem
    exact absurd (by simpa [firstItems] using hmem) henter
  · rename_i hitem
    rw [hitem] at hmem
    exact absurd (by simpa [firstItems] using hmem) hexit
  · rename_i hitem
    rw [hitem] at hmem
    exact absurd (by simpa [firstItems] using hmem) hmute
  · rename_i hitem
    rw [hitem] at hmem
    exact absurd (by simpa [firstItems] using hmem) hvolume
  · rfl

/-- A request with a key of the table `av_`. -/
theorem request_av {r : Request} {run : Handler} (hkey : r.key = key) (hlen : ¬ key.length ≤ 4)
    (hhead : key.head? = some 0x61) (hstart : key.take 3 = ascii "av_") (hrun : avHandlers.lookup key = some run)
    (c : Control) : c.request r = (run r.value c).2 := by
  have h63 : ¬ key.head? = some 0x63 := by
    rw [hhead]
    decide
  unfold request setRequest
  rw [hkey, if_neg hlen, if_neg h63, if_pos hhead, if_pos hstart]
  unfold compareKeys
  rw [hrun]

/-- One word of two. -/
theorem onWord_pair {word word' : Text} (run run' : Control → Control) (value : Text) (c : Control) :
    (onWord [(word, run), (word', run')] value c).2 =
      if value = word then run c else if value = word' then run' c else c := by
  unfold onWord
  by_cases h : value = word
  · rw [if_pos h, h, List.lookup_cons_self]
    rfl
  · rw [if_neg h, List.lookup_cons, beq_eq_false_iff_ne.mpr h]
    dsimp only
    by_cases h' : value = word'
    · rw [if_pos h', h', List.lookup_cons_self]
      rfl
    · rw [if_neg h', List.lookup_cons, beq_eq_false_iff_ne.mpr h']
      rfl

theorem queued_audioAddWork {cmd1 cmd2 cmd3 val1 : U32} (hready : c.unit.audio.audioReady ≠ 0) :
    VolumeSystem.queued c (c.audioAddWork cmd1 cmd2 cmd3 val1) = [⟨cmd1, cmd2, cmd3, val1⟩] := by
  have hitems : c.unit.audio.audioAddWork cmd1 cmd2 cmd3 val1 = [⟨cmd1, cmd2, cmd3, val1⟩] := if_pos hready
  have hacts : (c.audioAddWork cmd1 cmd2 cmd3 val1).acts =
      [⟨cmd1, cmd2, cmd3, val1⟩].map ControlAct.audioWork ++ c.acts := by
    rw [← hitems]
    rfl
  rw [queued_eq hacts, audioItems_map]
  rfl

theorem queued_self (c : Control) : VolumeSystem.queued c c = [] := by
  have hacts : c.acts = [] ++ c.acts := rfl
  rw [queued_eq hacts]
  rfl

/-- The volume that a text asks for is in the item that it queues. -/
theorem queued_volume (k : VolumeKey) (value : Text) (hready : c.unit.audio.audioReady ≠ 0) :
    VolumeSystem.queued c (avVolumeOf k value c).2 =
      if taken (getTokenInt value).1 ∧ (getTokenInt value).1.sle 100 then [⟨k.work, (getTokenInt value).1, 0, 0⟩]
      else [] := by
  unfold avVolumeOf Audio.ioctlVolume
  dsimp only
  split
  · exact queued_audioAddWork hready
  · exact queued_self c

theorem queued_mute (value : Text) (hready : c.unit.audio.audioReady ≠ 0) :
    VolumeSystem.queued c (avMute value c).2 =
      if value = ascii "true" then [⟨2, 1, 0, 0⟩] else if value = ascii "false" then [⟨2, 0, 0, 0⟩] else [] := by
  unfold avMute
  rw [onWord_pair]
  split
  · exact queued_audioAddWork hready
  · split
    · exact queued_audioAddWork hready
    · exact queued_self c

/-- The volume of the last item. -/
theorem latest_volume {β : Type} {written : AudioWork → Option β} {k : VolumeKey} (read : U8 → β)
    (hwritten : ∀ v, written ⟨k.work, v, 0, 0⟩ = some (read (v.setWidth 8))) (value : Text)
    (hready : c.unit.audio.audioReady ≠ 0) (x : β) :
    Run.latest written x (VolumeSystem.queued c (avVolumeOf k value c).2) =
      ((volumeAsked value).map read).getD x := by
  rw [queued_volume k value hready]
  unfold volumeAsked
  dsimp only
  split
  · rw [Run.latest_cons, hwritten]
    rfl
  · rfl

/-- Behind a request the queue and the flags have what it asks for. -/
structure Answers (r : Request) (c c' : Control) : Prop where
  volMain : ∀ x, Run.latest AudioWork.volMain x (VolumeSystem.queued c c') = (VolumeStep.request r).volMain.getD x
  volAux : ∀ x, Run.latest AudioWork.volAux x (VolumeSystem.queued c c') = (VolumeStep.request r).volAux.getD x
  mute : (VolumeStep.request r).mute ≠ some none → ∀ x,
    Run.latest AudioWork.mute x (VolumeSystem.queued c c') = (VolumeStep.request r).mute.getD x
  gpsMonitor : c'.unit.state.avGpsMonitor = (VolumeStep.request r).gpsMonitor.getD c.unit.state.avGpsMonitor
  gpsSwitch : c'.unit.avGpsSwitch = (VolumeStep.request r).gpsSwitch.getD c.unit.avGpsSwitch

/-- With another key a request asks for nothing. -/
theorem asks_other {β : Type} {r : Request} {read : Text → Option β} (h : r.key ≠ key) (x : β) :
    (VolumeStep.asks key read (.request r)).getD x = x := congrArg (Option.getD · x) (if_neg h)

theorem asks_self {β : Type} {r : Request} {read : Text → Option β} (h : r.key = key) (x : β) :
    (VolumeStep.asks key read (.request r)).getD x = (read r.value).getD x := congrArg (Option.getD · x) (if_pos h)

/-- A flag that is only set where it differs has the new value either way. -/
theorem flag_set (get : Control → U8) {c' : Control} {b : U8} (hset : get c' = b) :
    get (if get c ≠ b then c' else c) = b := by
  split
  next => exact hset
  next hsame => exact not_not.mp hsame

/-- The flags that a request with two words sets are the one that it asks for. -/
theorem flag_onWord (get : Control → U8) {run run' : Control → Control} {on off value : Text}
    (hrun : get (run c) = 1) (hrun' : get (run' c) = 0) :
    get (onWord [(on, run), (off, run')] value c).2 = (flagAsked on off value).getD (get c) := by
  rw [onWord_pair]
  unfold flagAsked
  split
  · exact hrun
  · split
    · exact hrun'
    · rfl

theorem answers_request (r : Request) (hready : c.unit.audio.audioReady ≠ 0)
    (h : Serves r.key c (c.request r)) : Answers r c (c.request r) where
  volMain x := by
    by_cases hkey : r.key = ascii "av_volume"
    · have hrequest : c.request r = (avVolumeOf .avVolume r.value c).2 :=
        request_av hkey (by decide) rfl rfl rfl c
      refine Eq.trans ?_ (asks_self hkey x).symm
      rw [hrequest, latest_volume id (fun _ => rfl) r.value hready, Option.map_id]
      rfl
    · exact (h.latest_volMain hkey x).trans (asks_other hkey x).symm
  volAux x := by
    by_cases hkey : r.key = ascii "av_phone_volume"
    · have hrequest : c.request r = (avVolumeOf .avPhoneVolume r.value c).2 :=
        request_av hkey (by decide) rfl rfl rfl c
      refine Eq.trans ?_ (asks_self hkey x).symm
      rw [hrequest, latest_volume id (fun _ => rfl) r.value hready, Option.map_id]
      rfl
    · exact (h.latest_volAux hkey x).trans (asks_other hkey x).symm
  mute hknown x := by
    unfold VolumeStep.mute at hknown ⊢
    dsimp only at hknown ⊢
    by_cases hchannel : r.key = ascii "av_channel_enter" ∨ r.key = ascii "av_channel_exit"
    · exact absurd (if_pos hchannel) hknown
    rw [if_neg hchannel]
    by_cases hmute : r.key = ascii "av_mute"
    · have hrequest : c.request r = (avMute r.value c).2 :=
        request_av hmute (by decide) rfl rfl rfl c
      rw [if_pos hmute, hrequest, queued_mute r.value hready]
      unfold flagAsked
      split
      · rfl
      · split
        · rfl
        · rfl
    rw [if_neg hmute]
    by_cases hvolume : r.key = ascii "av_volume"
    · have hrequest : c.request r = (avVolumeOf .avVolume r.value c).2 :=
        request_av hvolume (by decide) rfl rfl rfl c
      rw [if_pos hvolume, hrequest]
      exact latest_volume (fun _ => some 0) (fun _ => rfl) r.value hready x
    · rw [if_neg hvolume]
      obtain ⟨henter, hexit⟩ := not_or.mp hchannel
      exact h.latest_mute henter hexit hmute hvolume x
  gpsMonitor := by
    by_cases hkey : r.key = ascii "av_gps_monitor"
    · have hrequest : c.request r = (avGpsMonitor r.value c).2 :=
        request_av hkey (by decide) rfl rfl rfl c
      refine Eq.trans ?_ (asks_self hkey _).symm
      rw [hrequest]
      refine flag_onWord (fun c => c.unit.state.avGpsMonitor) ?_ ?_
      · exact flag_set (fun c => c.unit.state.avGpsMonitor) rfl
      · exact flag_set (fun c => c.unit.state.avGpsMonitor) rfl
    · exact (h.monitor hkey).trans (asks_other hkey _).symm
  gpsSwitch := by
    by_cases hkey : r.key = ascii "av_gps_switch"
    · have hrequest : c.request r = (avGpsSwitch r.value c).2 :=
        request_av hkey (by decide) rfl rfl rfl c
      refine Eq.trans ?_ (asks_self hkey _).symm
      rw [hrequest]
      refine flag_onWord (fun c => c.unit.avGpsSwitch) ?_ ?_
      · exact flag_set (fun c => c.unit.avGpsSwitch) rfl
      · exact flag_set (fun c => c.unit.avGpsSwitch) rfl
    · exact (h.switch hkey).trans (asks_other hkey _).symm

end Control

/-! ## What was asked for last -/

theorem Dials.asked_cons (d : Dials) (step : VolumeStep) (steps : List VolumeStep) :
    d.asked (step :: steps) = (d.asked [step]).asked steps := by
  unfold asked
  rw [Dials.mk.injEq]
  refine ⟨?_, ?_, ?_, ?_⟩
  all_goals exact Run.latest_append [step] steps

/-- The settings behind all queued items. -/
theorem Dials.foldl_work (d : Dials) (items : List AudioWork) : items.foldl Dials.work d =
    { d with
      volMain := Run.latest AudioWork.volMain d.volMain items
      volAux := Run.latest AudioWork.volAux d.volAux items } := by
  induction items generalizing d with
  | nil => rfl
  | cons w items ih =>
    rw [List.foldl_cons, ih, Run.latest_cons, Run.latest_cons]
    rfl

/-- What is certain behind an uncertain start is certain behind every start. -/
theorem latest_of_unknown {ι β : Type} {written : ι → Option (Option β)} {ops : List ι} {b : β}
    (h : Run.latest written none ops = some b) (x : Option β) : Run.latest written x ops = some b := by
  induction ops generalizing x with
  | nil => cases h
  | cons op ops ih =>
    rw [Run.latest_cons] at h ⊢
    cases hop : written op with
    | none =>
      rw [hop] at h
      exact ih h x
    | some y =>
      rw [hop] at h
      exact h

namespace VolumeSystem

open AudioUnit Control

variable {d : Dials} {m : Option U8} {s : VolumeSystem}

/-! ## The run -/

/-- The settings are those asked for, or the queued items will bring them; so it is with `mute`, where it is known
    what was asked of it. An unmuted unit has the volume of the settings, unless an item that will see to it is
    queued. -/
structure Tracked (d : Dials) (m : Option U8) (s : VolumeSystem) : Prop where
  calm : Calm (Dials.ofUnit s.unit) s.unit
  items : ∀ w ∈ s.queue, Ordinary w
  owed : s.unit.Fresh ∨ ∃ w ∈ s.queue, w.cmd1.toNat = 7 ∨ w.cmd1.toNat = 8 ∧ s.unit.state.avGpsMonitor ≠ 0
  dials : s.queue.foldl Dials.work (Dials.ofUnit s.unit) = d
  mute : ∀ b, m = some b → Run.latest AudioWork.mute (some s.unit.state.mute) s.queue = some b

theorem Start.tracked (h : Start s) : Tracked (Dials.ofUnit s.unit) (some s.unit.state.mute) s where
  calm := by
    refine ⟨h.undisturbed, rfl, h.ready, ?_⟩
    intro hvol
    rw [h.current, volumeFrame_silent h.undisturbed hvol (by decide)]
  items := by
    rw [h.queue]
    simp
  owed := Or.inl fun _ => h.current
  dials := by rw [h.queue, List.foldl_nil]
  mute b hb := by
    rw [h.queue]
    exact hb

theorem calm_of_serves {key : Text} {c c' : Control} (h : Serves key c c') (hcalm : Calm d c.unit) :
    Calm (Dials.ofUnit c'.unit) c'.unit where
  undisturbed := by
    rw [h.unit]
    exact { hcalm.undisturbed with }
  dials := rfl
  ready := by
    rw [h.unit]
    exact hcalm.ready
  silent := by
    rw [h.unit]
    exact hcalm.silent

/-- A request that does not change the mix of the navigation leaves the volume current, as long as the
    navigation is mixed out or its switch is not changed either. -/
theorem fresh_of_serves {key : Text} {c c' : Control} (h : Serves key c c') (hcalm : Calm d c.unit)
    (hmonitor : c'.unit.state.avGpsMonitor = c.unit.state.avGpsMonitor)
    (hswitch : c.unit.state.avGpsMonitor = 0 ∨ c'.unit.avGpsSwitch = c.unit.avGpsSwitch)
    (hfresh : c.unit.Fresh) : c'.unit.Fresh := by
  have hunit := h.unit
  have hquiet : c'.unit.quietLevels = c.unit.quietLevels := by
    rcases hswitch with hzero | hsame
    · rw [quietLevels_unmixed hzero, quietLevels_unmixed (hmonitor.trans hzero), hunit]
      rfl
    · rw [hunit, hmonitor, hsame]
      rfl
  refine hfresh.of_sameSound ?_ ?_ ⟨?_, ?_, ?_, ?_, hquiet⟩ hcalm.undisturbed (calm_of_serves h hcalm).undisturbed
  all_goals
    rw [hunit]
    try rfl

/-- What a request asks for, the items behind it bring. -/
theorem dials_request {r : Control.Request} {c c' : Control} (h : Serves r.key c c') (hanswers : Answers r c c')
    (queue : List AudioWork) :
    (queue ++ queued c c').foldl Dials.work (Dials.ofUnit c'.unit) =
      (queue.foldl Dials.work (Dials.ofUnit c.unit)).asked [.request r] := by
  have hmain : c'.unit.state.volMain = c.unit.state.volMain := by
    rw [h.unit]
    rfl
  have haux : c'.unit.state.volAux = c.unit.state.volAux := by
    rw [h.unit]
    rfl
  rw [Dials.foldl_work, Dials.foldl_work]
  unfold Dials.asked Dials.ofUnit
  rw [Dials.mk.injEq]
  refine ⟨?_, ?_, ?_, ?_⟩
  · rw [Run.latest_append, Run.latest_cons, hanswers.volMain, hmain]
    rfl
  · rw [Run.latest_append, Run.latest_cons, hanswers.volAux, haux]
    rfl
  · rw [Run.latest_cons]
    exact hanswers.gpsMonitor
  · rw [Run.latest_cons]
    exact hanswers.gpsSwitch

theorem mute_request {r : Control.Request} {c c' : Control} (h : Serves r.key c c') (hanswers : Answers r c c')
    {queue : List AudioWork}
    (hqueue : ∀ b, m = some b → Run.latest AudioWork.mute (some c.unit.state.mute) queue = some b)
    (b : U8) (hb : Run.latest VolumeStep.mute m [.request r] = some b) :
    Run.latest AudioWork.mute (some c'.unit.state.mute) (queue ++ queued c c') = some b := by
  have hmute : c'.unit.state.mute = c.unit.state.mute := by
    rw [h.unit]
    rfl
  rw [Run.latest_cons] at hb
  have hknown : (VolumeStep.request r).mute ≠ some none := by
    intro hchannel
    rw [hchannel] at hb
    cases hb
  rw [Run.latest_append, hanswers.mute hknown, hmute]
  cases hstep : (VolumeStep.request r).mute with
  | none =>
    rw [hstep] at hb
    exact hqueue b hb
  | some asked =>
    rw [hstep] at hb
    exact hb

theorem Tracked.request (h : Tracked d m s) {r : Control.Request}
    (hspeech : ¬ (r.key = ascii "av_speech" ∧ r.value = ascii "in")) :
    Tracked (d.asked [.request r]) (Run.latest VolumeStep.mute m [.request r]) (s.next (.request r)) := by
  have hserves : Serves r.key s.control (s.control.request r) := serves_request r hspeech h.calm.ready
  have hanswers := answers_request r h.calm.ready hserves
  obtain ⟨new, hnew, hitems, hmonitor, hswitch⟩ := hserves.acts
  have hqueue : ∀ w, w ∈ (s.next (.request r)).queue ↔ w ∈ s.queue ∨ w ∈ audioItems new := by
    intro w
    show w ∈ s.queue ++ queued s.control (s.control.request r) ↔ _
    rw [List.mem_append, queued_eq hnew, List.mem_reverse]
  refine ⟨calm_of_serves hserves h.calm, ?_, ?_, ?_, mute_request hserves hanswers h.mute⟩
  · intro w hw
    rcases (hqueue w).mp hw with hw | hw
    · exact h.items w hw
    · exact (hitems w hw).ordinary
  · by_cases hmix : (s.control.request r).unit.state.avGpsMonitor = s.control.unit.state.avGpsMonitor
    · by_cases hlate : s.control.unit.state.avGpsMonitor ≠ 0 ∧
          (s.control.request r).unit.avGpsSwitch ≠ s.control.unit.avGpsSwitch
      · obtain ⟨w, hw, hitem⟩ := hswitch hlate.2
        refine Or.inr ⟨w, (hqueue w).mpr (Or.inr hw), Or.inr ⟨hitem, ?_⟩⟩
        show (s.control.request r).unit.state.avGpsMonitor ≠ 0
        rw [hmix]
        exact hlate.1
      · rcases h.owed with hfresh | ⟨w, hw, hitem⟩
        · refine Or.inl (fresh_of_serves hserves h.calm hmix ?_ hfresh)
          by_cases hzero : s.control.unit.state.avGpsMonitor = 0
          · exact Or.inl hzero
          · exact Or.inr (not_not.mp fun hne => hlate ⟨hzero, hne⟩)
        · refine Or.inr ⟨w, (hqueue w).mpr (Or.inl hw), hitem.imp_right fun hitem => ⟨hitem.1, ?_⟩⟩
          show (s.control.request r).unit.state.avGpsMonitor ≠ 0
          rw [hmix]
          exact hitem.2
    · obtain ⟨w, hw, hitem⟩ := hmonitor hmix
      exact Or.inr ⟨w, (hqueue w).mpr (Or.inr hw), Or.inl hitem⟩
  · rw [← h.dials]
    exact dials_request hserves hanswers s.queue

theorem Tracked.switchUnmute (h : Tracked d m s) : Tracked d m (s.next .switchUnmute) := by
  have hitem : Ordinary ⟨26, 0, 0, 0⟩ := ordinary_mk (by decide)
  refine ⟨h.calm, ?_, ?_, ?_, ?_⟩
  · intro w hw
    rcases List.mem_append.mp hw with hw | hw
    · exact h.items w hw
    · rw [List.mem_singleton.mp hw]
      exact hitem
  · exact h.owed.imp_right fun ⟨w, hw, hnavigation⟩ => ⟨w, List.mem_append_left _ hw, hnavigation⟩
  · refine Eq.trans ?_ h.dials
    exact List.foldl_append
  · intro b hb
    exact (Run.latest_append _ _).trans (h.mute b hb)

theorem Tracked.audio (h : Tracked d m s) : Tracked d m (s.next .audio) := by
  obtain ⟨control, queue⟩ := s
  cases queue with
  | nil => exact h
  | cons w queue =>
    have hordinary := h.items w List.mem_cons_self
    have htended := h.calm.tended_work hordinary
    have hdials : Dials.ofUnit (control.unit.work w) = (Dials.ofUnit control.unit).work w := htended.calm.dials
    have hmonitor : (control.unit.work w).state.avGpsMonitor = control.unit.state.avGpsMonitor :=
      congrArg Dials.gpsMonitor hdials
    refine ⟨?_, fun w' hw' => h.items w' (List.mem_cons_of_mem w hw'), ?_, ?_, ?_⟩
    · show Calm (Dials.ofUnit (control.unit.work w)) (control.unit.work w)
      rw [hdials]
      exact htended.calm
    · show (control.unit.work w).Fresh ∨
        ∃ w' ∈ queue, w'.cmd1.toNat = 7 ∨ w'.cmd1.toNat = 8 ∧ (control.unit.work w).state.avGpsMonitor ≠ 0
      rw [hmonitor]
      rcases h.owed with hfresh | ⟨w', hw', hitem⟩
      · exact Or.inl (htended.fresh hfresh)
      · rcases List.mem_cons.mp hw' with rfl | hw'
        · exact Or.inl (h.calm.fresh_navigation hitem)
        · exact Or.inr ⟨w', hw', hitem⟩
    · refine Eq.trans ?_ h.dials
      exact congrArg (queue.foldl Dials.work) hdials
    · intro b hb
      have hdue := h.mute b hb
      show Run.latest AudioWork.mute (some (control.unit.work w).state.mute) queue = some b
      rw [Run.latest_cons] at hdue
      cases hleft : w.mute.getD (some control.unit.state.mute) with
      | none =>
        -- the item changes the channel, so a later one has decided
        refine latest_of_unknown ?_ _
        rw [← hleft]
        exact hdue
      | some left =>
        have hmute : (control.unit.work w).state.mute = left := h.calm.mute_work hordinary hleft
        rw [hmute, ← hleft]
        exact hdue

theorem Tracked.step (h : Tracked d m s) {step : VolumeStep} (hstep : NoSpeech step) :
    Tracked (d.asked [step]) (Run.latest VolumeStep.mute m [step]) (s.next step) := by
  cases step with
  | request r => exact h.request hstep
  | switchUnmute => exact h.switchUnmute
  | audio => exact h.audio

theorem Tracked.after (h : Tracked d m s) {steps : List VolumeStep} (hsteps : ∀ step ∈ steps, NoSpeech step) :
    Tracked (d.asked steps) (Run.latest VolumeStep.mute m steps) (Run.after next s steps) := by
  induction steps generalizing d m s with
  | nil => exact h
  | cons step steps ih =>
    have hmute : Run.latest VolumeStep.mute m (step :: steps) =
        Run.latest VolumeStep.mute (Run.latest VolumeStep.mute m [step]) steps := Run.latest_append [step] steps
    rw [Dials.asked_cons, hmute]
    exact ih (h.step (hsteps step List.mem_cons_self)) fun step' hmem => hsteps step' (List.mem_cons_of_mem _ hmem)

/-! ## The end of the queue -/

theorem queue_after_audio (n : ℕ) (s : VolumeSystem) :
    (Run.after next s (List.replicate n .audio)).queue = s.queue.drop n := by
  induction n generalizing s with
  | zero => rfl
  | succ n ih =>
    obtain ⟨control, queue⟩ := s
    cases queue with
    | nil => exact (ih ⟨control, []⟩).trans (by simp)
    | cons w queue => exact ih _

theorem Tracked.drain (h : Tracked d m s) : Tracked d m s.drain := by
  have haudio : ∀ n s, Tracked d m s → Tracked d m (Run.after next s (List.replicate n .audio)) := by
    intro n
    induction n with
    | zero => exact fun s h => h
    | succ n ih => exact fun s h => ih _ h.audio
  exact haudio s.queue.length s h

/-- However the requests and the worker take turns, the settings and the volume are what was asked for. -/
theorem volume_follows (s : VolumeSystem) (steps : List VolumeStep) (h : Start s)
    (hsteps : ∀ step ∈ steps, NoSpeech step) : Follows s steps (Run.after next s steps) := by
  have htracked := (h.tracked.after hsteps).drain
  have hqueue : (Run.after next s steps).drain.queue = [] := by
    unfold VolumeSystem.drain
    rw [queue_after_audio, List.drop_length]
  have hdials := htracked.dials
  have hmute := htracked.mute
  rw [hqueue] at hdials hmute
  refine ⟨hqueue, hdials, fun b hb => Option.some.inj (hmute b hb), ?_⟩
  rcases htracked.owed with hfresh | ⟨w, hw, _⟩
  · exact hfresh
  · rw [hqueue] at hw
    cases hw

/-- The radio is heard at volume 30. -/
def evening : VolumeSystem where
  control :=
    let unit : AudioUnit := { (default : AudioUnit) with
      audio := { (default : Audio) with
        state := { (default : AudioState) with audioActive := 1, audioCh := 4, audioSrc := 3, volMain := 30 }
        audioReady := 1 } }
    { set := ⟨default, 0, []⟩, unit := { unit with frames := [unit.volumeFrame 0] }, rptBootAndroid := 1
      rptBootAppinit := 0, rptPower := 1, keyMode := 0, avChannelFlag1 := 0, avGpsGain := 0, uvCal := 0
      reserved22_8 := 0, decoderState := 0, radarVal := 0, backlightStatus := 1, power2Flag := 0, wipeFlag := 0
      acts := [] }
  queue := []

/-- A request of that evening. -/
def eveningRequest (key value : Text) : VolumeStep := .request ⟨⟨⟨0, false, 0⟩, 0, 0⟩, key, value⟩

/-- The navigation is mixed in, the unit is muted, and a new volume unmutes it. -/
def eveningSteps : List VolumeStep := [eveningRequest (ascii "av_gps_monitor") (ascii "on"),
  eveningRequest (ascii "av_mute") (ascii "true"), .audio, eveningRequest (ascii "av_volume") (ascii "10"), .audio,
  .switchUnmute]

theorem evening_follows : (Dials.ofUnit evening.unit).asked eveningSteps = ⟨10, 0, 1, 0⟩ ∧
    Follows evening eveningSteps (Run.after next evening eveningSteps) :=
  ⟨by decide, volume_follows evening eveningSteps ⟨by constructor <;> decide, by decide, rfl, rfl⟩
    (by simp [NoSpeech, eveningRequest, eveningSteps]; decide)⟩

end VolumeSystem

end MtcDrivers
