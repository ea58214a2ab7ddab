import MtcDrivers.Audio.OneSource
import MtcDrivers.Audio.Proofs.VolumeProofs
import MtcDrivers.Radio.Proofs.TunerPowerProofs

/-!
# One powered source

`Audio_EnterChannel` acts on a `PowerView` as `ChannelCall.enter` does, and a state with one powered source
keeps it in the calls that meet the condition.
-/

namespace MtcDrivers

namespace AudioUnit

/-! ## What leaves the power alone -/

theorem OnlyFrames.power {u v : AudioUnit} (h : OnlyFrames u v) : v.power = u.power := by
  rw [h]
  rfl

theorem power_setVolume (volume : U32) (u : AudioUnit) : (u.setVolume volume).power = u.power :=
  (onlyFrames_sendVolume volume u).power

theorem power_fadeIn (u : AudioUnit) : u.fadeIn.power = u.power := by
  obtain ⟨v, hv, hfade⟩ := u.fadeIn_eq
  rw [hfade]
  exact hv.power

theorem power_fadeOut (u : AudioUnit) : u.fadeOut.power = u.power := by
  obtain ⟨v, hv, hfade⟩ := u.fadeOut_eq
  rw [hfade]
  exact hv.power

theorem power_sendMute (b : U8) (u : AudioUnit) :
    ((u.map fun s => { s with mute := b }).sendMute).power = u.power := rfl

theorem power_setMute (mute : U32) (u : AudioUnit) : (u.setMute mute).power = u.power := by
  unfold setMute
  split
  · rfl
  · split
    · rw [power_sendMute, power_fadeOut]
    · rw [power_fadeIn, power_sendMute]

theorem power_setMutePin (pin : U8) (u : AudioUnit) :
    (u.mapAudio (Audio.setMutePin pin)).power = u.power := by
  show AudioUnit.power { u with audio := u.audio.setMutePin pin } = _
  unfold Audio.setMutePin
  by_cases hpin : u.audio.state.muteAll = pin
  · rw [if_pos hpin]
  · rw [if_neg hpin]
    rfl

/-! ## What switches -/

theorem power_radioPower (on : Bool) (u : AudioUnit) : (u.radioPower on).power = u.power.radioPower on := by
  unfold radioPower PowerView.radioPower
  extract_lets power
  by_cases hpower : power = u.tuner.power
  · rw [if_pos hpower]
    exact (if_pos hpower).symm
  · rw [if_neg hpower]
    exact (if_neg hpower).symm

theorem power_tvPower (on : Bool) (u : AudioUnit) : (u.tvPower on).power = u.power.switch .dtv on := rfl

theorem power_dvdPower (on : Bool) (u : AudioUnit) : (u.dvdPower on).power = u.power.switch .dvd on := rfl

theorem power_setChannel (ch : U8) (u : AudioUnit) :
    (u.setChannel (ch.setWidth 32)).power = u.power.setChannel ch := by
  show PowerView.mk ((ch.setWidth 32 : U32).setWidth 8) _ _ _ _ _ _ = _
  rw [setWidth_setWidth]
  rfl

theorem setWidth_inj {a b : U8} : (a.setWidth 32 : U32) = b.setWidth 32 ↔ a = b := by
  constructor
  · intro h
    rw [← setWidth_setWidth a, h, setWidth_setWidth]
  · rintro rfl
    rfl

/-- The constants of the channels. -/
theorem setWidth_eq_channel (ch : U8) :
    ((ch.setWidth 32 : U32) = channelSys ↔ ch = 1) ∧ ((ch.setWidth 32 : U32) = channelDvd ↔ ch = 2) ∧
      ((ch.setWidth 32 : U32) = channelLine ↔ ch = 3) ∧ ((ch.setWidth 32 : U32) = channelFm ↔ ch = 4) ∧
      ((ch.setWidth 32 : U32) = channelDtv ↔ ch = 5) :=
  ⟨setWidth_inj (b := 1), setWidth_inj (b := 2), setWidth_inj (b := 3), setWidth_inj (b := 4),
    setWidth_inj (b := 5)⟩

theorem power_replaceChannel (audioCh setCh : U8) (u : AudioUnit) :
    (u.replaceChannel (audioCh.setWidth 32) (setCh.setWidth 32)).power = u.power.replace audioCh setCh := by
  obtain ⟨-, hdvd, -, hfm, hdtv⟩ := setWidth_eq_channel audioCh
  unfold replaceChannel PowerView.replace PowerView.powerOff
  simp only [hfm, hdtv, hdvd, ne_eq]
  by_cases h4 : audioCh = 4
  · subst h4
    rw [if_pos rfl, if_neg (by decide), if_pos rfl, power_setChannel, power_radioPower]
  by_cases h5 : audioCh = 5
  · subst h5
    rw [if_neg (by decide), if_pos rfl, if_neg (by decide), if_neg (by decide), if_pos rfl,
      power_setChannel, power_tvPower]
  by_cases h2 : audioCh = 2
  · subst h2
    rfl
  · rw [if_neg h4, if_neg h5, if_pos h2, if_neg h2, if_neg h4, if_neg h5, if_neg h2, power_setChannel]

theorem power_powerOn (setCh : U8) (u : AudioUnit) :
    (u.powerOn (setCh.setWidth 32)).power = u.power.powerOn setCh := by
  obtain ⟨-, hdvd, -, hfm, hdtv⟩ := setWidth_eq_channel setCh
  unfold powerOn PowerView.powerOn
  simp only [hfm, hdtv, hdvd]
  split
  · exact power_radioPower true u
  · split
    · rfl
    · split <;> rfl

theorem power_powerOff (audioCh : U8) (v8 v10 : Bool) (u : AudioUnit) :
    (u.powerOff (audioCh.setWidth 32) v8 v10).power = u.power.powerOff audioCh := by
  have hunmute : ∀ (b : Bool) (v : AudioUnit),
      (if b then v.mapAudio (Audio.setMutePin 0) else v : AudioUnit).power = v.power := by
    intro b v
    cases b with
    | true => exact power_setMutePin 0 v
    | false => rfl
  obtain ⟨-, hdvd, -, hfm, hdtv⟩ := setWidth_eq_channel audioCh
  unfold powerOff PowerView.powerOff
  simp only [hfm, hdtv, hdvd, ne_eq]
  by_cases h4 : audioCh = 4
  · rw [if_pos h4, if_pos h4, hunmute, power_radioPower]
  by_cases h5 : audioCh = 5
  · rw [if_neg h4, if_pos h5, if_neg h4, if_pos h5, hunmute, power_tvPower]
  by_cases h2 : audioCh = 2
  · rw [if_neg h4, if_neg h5, if_neg (not_not.mpr h2), if_neg h4, if_neg h5, if_pos h2, power_dvdPower,
      hunmute]
  · rw [if_neg h4, if_neg h5, if_pos h2, if_neg h4, if_neg h5, if_neg h2, hunmute]

/-! ## `Audio_EnterChannel` -/

theorem power_fadeAndMute (audioCh setCh : U32) (u : AudioUnit) :
    (u.fadeAndMute audioCh setCh).power = u.power := by
  have hstop : (if audioCh = channelDvd then { u with dvdCommands := 0x30003 :: u.dvdCommands }
      else u : AudioUnit).power = u.power := by
    split <;> rfl
  unfold fadeAndMute
  extract_lets u1 u2
  split
  · rw [power_setMutePin, power_fadeOut, hstop]
  · rw [power_fadeOut, hstop]

theorem power_showChannel (setCh : U8) (mode : Bool) (u : AudioUnit) :
    (u.showChannel (setCh.setWidth 32) mode).power = u.power.setChannel setCh := by
  have hmute : (if mode then (u.map fun s => { s with mute := 0 }).sendMute else u : AudioUnit).power =
      u.power := by
    split <;> rfl
  unfold showChannel
  extract_lets u1 u2 u3 u4
  have hset : u4.power = u.power.setChannel setCh := (power_setChannel setCh u1).trans (by rw [hmute])
  split
  · rw [power_setVolume, hset]
  · exact hset

theorem channels_of_isSimple {audioCh setCh : U8} {u : AudioUnit}
    (h : u.isSimple (audioCh.setWidth 32) (setCh.setWidth 32) = true) :
    (audioCh = 0 ∨ audioCh = 1) ∧ (setCh = 0 ∨ setCh = 1) := by
  have hzero : ∀ ch : U8, (ch.setWidth 32 : U32) = 0 ↔ ch = 0 := setWidth_eq_zero_iff
  obtain ⟨hsys, -⟩ := setWidth_eq_channel setCh
  obtain ⟨hsys', -⟩ := setWidth_eq_channel audioCh
  unfold isSimple at h
  simp only [hsys, hsys', hzero, Bool.and_eq_true] at h
  obtain ⟨-, h⟩ := h
  split at h
  · rename_i hset
    exact ⟨.inl (of_decide_eq_true h), .inr hset⟩
  · obtain ⟨hset, hold⟩ := Bool.and_eq_true_iff.mp h
    exact ⟨.inr (of_decide_eq_true hold), .inl (of_decide_eq_true hset)⟩

theorem power_enterSimple (setCh : U8) (u : AudioUnit) :
    (u.enterSimple (setCh.setWidth 32)).power = u.power.setChannel setCh := by
  unfold enterSimple
  rw [power_setVolume]
  exact power_setChannel setCh u

theorem power_changeChannel (audioCh setCh : U8) (mode : Bool) (u : AudioUnit) :
    (u.changeChannel (audioCh.setWidth 32) (setCh.setWidth 32) mode).power =
      if u.busy then u.power.replace audioCh setCh else u.power.exchange audioCh setCh := by
  unfold changeChannel
  cases u.busy with
  | true => exact power_replaceChannel audioCh setCh u
  | false =>
    rw [if_neg Bool.false_ne_true, if_neg Bool.false_ne_true]
    by_cases hsimple : u.isSimple (audioCh.setWidth 32) (setCh.setWidth 32) = true
    · -- neither of the channels 0 and 1 has a source
      rw [if_pos hsimple, power_enterSimple]
      obtain ⟨rfl | rfl, rfl | rfl⟩ := channels_of_isSimple hsimple <;> rfl
    · rw [if_neg hsimple]
      unfold enterNormal
      rw [power_powerOff, power_showChannel, power_powerOn, power_fadeAndMute]
      rfl

theorem power_enterSecond (mode : Bool) (u : AudioUnit) : (u.enterSecond mode).power = u.power := by
  have hshow : ∀ (v : AudioUnit) (ch : AudioState → U8) (shown : U8),
      ((v.map fun s => { s with audioCh2 := ch s }).emit (.channel shown)).power = v.power :=
    fun _ _ _ => rfl
  unfold enterSecond
  extract_lets u1 u2
  have h2 : (u2.emit (.channel u2.state.audioCh2)).power = u1.power := hshow u1 _ _
  rw [power_setVolume, h2, power_sendMute, power_fadeOut]

theorem power_leaveSelected (setCh : U8) (u : AudioUnit) :
    (u.leaveSelected (setCh.setWidth 32)).power =
      if u.state.audioCh ≠ setCh then u.power else u.power.replace u.state.audioCh 1 := by
  unfold leaveSelected
  extract_lets audioCh
  by_cases hch : u.state.audioCh ≠ setCh
  · rw [if_pos hch]
    exact congrArg power (if_pos (setWidth_inj.not.mpr hch))
  · have hwide : audioCh = setCh.setWidth 32 := setWidth_inj.mpr (not_not.mp hch)
    rw [if_neg hch, if_neg (not_not.mpr hwide), ← power_replaceChannel u.state.audioCh 1 u]
    refine congrArg power ?_
    unfold replaceChannel
    rw [ite_not]
    rfl

theorem power_enterSelected (setCh : U8) (u : AudioUnit) :
    (u.enterSelected (setCh.setWidth 32)).power =
      if u.state.audioCh = setCh then u.power
      else if setCh = 2 then u.power.switch .dvd true
      else (u.power.powerOn setCh).replace u.state.audioCh setCh := by
  obtain ⟨-, hdvd, -, hfm, hdtv⟩ := setWidth_eq_channel setCh
  unfold enterSelected PowerView.powerOn
  simp only [hfm, hdtv, hdvd, setWidth_inj]
  by_cases hch : u.state.audioCh = setCh
  · rw [if_pos hch, if_pos hch]
  rw [if_neg hch, if_neg hch]
  by_cases h4 : setCh = 4
  · rw [if_pos h4, if_pos h4, if_neg (by rw [h4]; decide), power_replaceChannel, power_radioPower]
  by_cases h5 : setCh = 5
  · rw [if_neg h4, if_pos h5, if_neg h4, if_pos h5, if_neg (by rw [h5]; decide), power_replaceChannel,
      power_tvPower]
  by_cases h2 : setCh = 2
  · rw [if_neg h4, if_neg h5, if_pos h2, if_pos h2, power_dvdPower]
  · rw [if_neg h4, if_neg h5, if_neg h2, if_neg h4, if_neg h5, if_neg h2, if_neg h2, power_replaceChannel]

theorem power_enterAgain (u : AudioUnit) :
    u.enterAgain.power = if u.state.audioCh ≠ 3 then u.power
      else if u.busy then u.power.replace 3 3 else u.power.exchange 3 3 := by
  obtain ⟨hsys, -, hline, -⟩ := setWidth_eq_channel u.state.audioCh
  unfold enterAgain
  simp only [hsys, hline]
  by_cases h1 : u.state.audioCh = 1
  · have hline' : u.state.audioCh ≠ 3 := by
      rw [h1]
      decide
    rw [if_pos h1, if_pos hline']
    split
    · rfl
    · exact power_setMute 0 u
  rw [if_neg h1]
  by_cases h3 : u.state.audioCh = 3
  · rw [if_pos h3, if_neg (not_not.mpr h3), h3]
    exact power_changeChannel 3 3 true u
  · rw [if_neg h3, if_pos h3]

/-- `Audio_EnterChannel` as far as the power of the sources shows it. -/
theorem power_enterChannel (setCh : U8) (mode : Bool) (u : AudioUnit) :
    (u.enterChannel (setCh.setWidth 32) mode).power =
      ChannelCall.enter setCh mode u.power := by
  have hchannel : u.power.audioCh = u.state.audioCh := rfl
  have hbusy : u.power.busy = u.busy := rfl
  obtain ⟨hsys, -⟩ := setWidth_eq_channel u.state.audioCh
  unfold enterChannel ChannelCall.enter ChannelCall.stays ChannelCall.target
  simp only [setWidth_inj, hchannel, hsys]
  by_cases hmode : u.state.chSelMode = 4
  · have hselected : u.power.selected = true := decide_eq_true hmode
    rw [hselected, if_pos hmode, if_pos rfl, if_pos rfl]
    unfold enterChannelSelected
    by_cases hzero : setCh = 0
    · rw [if_pos ((setWidth_eq_zero_iff setCh).mpr hzero), if_pos (by simp [hzero]), power_enterSecond]
    · rw [if_neg ((setWidth_eq_zero_iff setCh).not.mpr hzero)]
      cases mode with
      | true =>
        rw [if_pos rfl, power_enterSelected]
        simp [show ¬ setCh = 0#8 from hzero]
      | false =>
        rw [if_neg Bool.false_ne_true, power_leaveSelected]
        simp [show ¬ setCh = 0#8 from hzero]
  · have hselected : u.power.selected = false := decide_eq_false hmode
    rw [hselected, if_neg hmode, if_neg Bool.false_ne_true, if_neg Bool.false_ne_true]
    cases mode with
    | true =>
      simp only [if_true]
      by_cases hch : u.state.audioCh = setCh
      · rw [if_pos hch, power_enterAgain]
        subst hch
        by_cases hline : u.state.audioCh = 3
        · simp [hline, hbusy]
        · simp [show ¬ u.state.audioCh = 3#8 from hline]
      · rw [if_neg hch, power_changeChannel]
        simp [hch, hbusy]
    | false =>
      simp only [Bool.false_eq_true, if_false, ne_eq, setWidth_inj]
      by_cases hstay : ¬ u.state.audioCh = setCh ∨ u.state.audioCh = 1
      · rw [if_pos hstay, if_pos (by simpa using hstay)]
      · rw [if_neg hstay, if_neg (by simpa using hstay)]
        exact power_changeChannel u.state.audioCh 1 false u

end AudioUnit

namespace PowerView

/-! ## Switching -/

theorem powered_switch (v : PowerView) (src other : Source) (on : Bool) :
    (v.switch src on).Powered other ↔ if src = other then on = true else v.Powered other := by
  unfold Powered switch
  by_cases hsrc : src = other
  · subst hsrc
    simp
  · simp [hsrc]

/-- What `Audio_EnterChannel` never changes, since `radio.power` is 0. -/
structure SameModes (v w : PowerView) : Prop where
  power : w.tuner.power = v.tuner.power
  selected : w.selected = v.selected
  busy : w.busy = v.busy

theorem SameModes.trans {v w x : PowerView} (h : v.SameModes w) (h' : w.SameModes x) : v.SameModes x :=
  ⟨h'.power.trans h.power, h'.selected.trans h.selected, h'.busy.trans h.busy⟩

/-- Only the sources differ. -/
structure SameButSources (v w : PowerView) : Prop extends SameModes v w where
  audioCh : w.audioCh = v.audioCh

theorem radioPower_true {v : PowerView} (h : v.tuner.power = 0) :
    v.radioPower true = { v.switch .fm true with tuner := v.tuner.radioPower 1 } := by
  unfold radioPower
  extract_lets power
  have hne : ¬ power = v.tuner.power := by
    rw [h]
    decide
  exact if_neg hne

theorem radioPower_false {v : PowerView} (h : v.tuner.power = 0) : v.radioPower false = v := by
  unfold radioPower
  exact if_pos h.symm

theorem sameButSources_powerOn {v : PowerView} (h : v.tuner.power = 0) (ch : U8) :
    v.SameButSources (v.powerOn ch) := by
  unfold powerOn
  rw [radioPower_true h]
  split
  · have hne : ¬ (1 : U32) = v.tuner.power := by
      rw [h]
      decide
    exact ⟨⟨(Tuner.radioPower_on hne).2, rfl, rfl⟩, rfl⟩
  · split
    · exact ⟨⟨rfl, rfl, rfl⟩, rfl⟩
    · split <;> exact ⟨⟨rfl, rfl, rfl⟩, rfl⟩

theorem sameButSources_powerOff {v : PowerView} (h : v.tuner.power = 0) (ch : U8) :
    v.SameButSources (v.powerOff ch) := by
  unfold powerOff
  rw [radioPower_false h]
  split
  · exact ⟨⟨rfl, rfl, rfl⟩, rfl⟩
  · split
    · exact ⟨⟨rfl, rfl, rfl⟩, rfl⟩
    · split <;> exact ⟨⟨rfl, rfl, rfl⟩, rfl⟩

theorem powered_powerOn {v : PowerView} (h : v.tuner.power = 0) (ch : U8) (src : Source) :
    (v.powerOn ch).Powered src ↔ ch = src.channel ∨ v.Powered src := by
  unfold powerOn
  rw [radioPower_true h]
  by_cases h4 : ch = 4
  · subst h4
    rw [if_pos rfl]
    show (v.switch .fm true).Powered src ↔ _
    rw [powered_switch]
    cases src <;> simp [Source.channel]
  by_cases h5 : ch = 5
  · subst h5
    rw [if_neg h4, if_pos rfl, powered_switch]
    cases src <;> simp [Source.channel]
  by_cases h2 : ch = 2
  · subst h2
    rw [if_neg h4, if_neg h5, if_pos rfl, powered_switch]
    cases src <;> simp [Source.channel]
  · rw [if_neg h4, if_neg h5, if_neg h2]
    have hch : ch ≠ src.channel := by cases src <;> assumption
    exact (or_iff_right hch).symm

/-- The radio is not switched off. -/
theorem powered_powerOff {v : PowerView} (h : v.tuner.power = 0) (ch : U8) (src : Source) :
    (v.powerOff ch).Powered src ↔ v.Powered src ∧ (ch = src.channel → src = .fm) := by
  unfold powerOff
  rw [radioPower_false h]
  by_cases h4 : ch = 4
  · subst h4
    rw [if_pos rfl]
    cases src <;> simp [Source.channel]
  by_cases h5 : ch = 5
  · subst h5
    rw [if_neg h4, if_pos rfl, powered_switch]
    cases src <;> simp [Source.channel]
  by_cases h2 : ch = 2
  · subst h2
    rw [if_neg h4, if_neg h5, if_pos rfl, powered_switch]
    cases src <;> simp [Source.channel]
  · rw [if_neg h4, if_neg h5, if_neg h2]
    have hch : ch ≠ src.channel := by cases src <;> assumption
    exact (and_iff_left fun hc => absurd hc hch).symm

theorem lastOn_powerOn {v : PowerView} (h : v.tuner.power = 0) (src : Source) :
    (v.powerOn src.channel).lastOn = some src := by
  unfold powerOn
  rw [radioPower_true h]
  cases src <;> rfl

theorem lastOn_powerOff {v : PowerView} (h : v.tuner.power = 0) (ch : U8) :
    (v.powerOff ch).lastOn = v.lastOn := by
  unfold powerOff
  rw [radioPower_false h]
  split
  · rfl
  · split
    · rfl
    · split <;> rfl

/-- What holds between the calls: `radio.power` never becomes 1, and what is powered is the source of
    the channel and the last one switched on. -/
structure Tidy (v : PowerView) : Prop where
  power : v.tuner.power = 0
  channel : ∀ src, v.Powered src → v.audioCh = src.channel
  last : ∀ src, v.Powered src → v.lastOn = some src

/-- Behind the old channel's switch only the radio can still be on. -/
theorem Tidy.powered_powerOff {v : PowerView} (h : v.Tidy) (src : Source) :
    (v.powerOff v.audioCh).Powered src ↔ src = .fm ∧ v.Powered .fm := by
  rw [PowerView.powered_powerOff h.power]
  constructor
  · rintro ⟨hon, hfm⟩
    obtain rfl := hfm (h.channel src hon)
    exact ⟨rfl, hon⟩
  · rintro ⟨rfl, hon⟩
    exact ⟨hon, fun _ => rfl⟩

/-- The sources behind a switch from the channel to another one. -/
theorem Tidy.powered_exchange {v : PowerView} (h : v.Tidy) {ch : U8}
    (hne : ∀ src, ch = Source.channel src → v.audioCh ≠ ch) (src : Source) :
    ((v.powerOn ch).powerOff v.audioCh).Powered src ↔ ch = src.channel ∨ src = .fm ∧ v.Powered .fm := by
  have hkept := sameButSources_powerOn h.power ch
  rw [PowerView.powered_powerOff (hkept.power.trans h.power), powered_powerOn h.power]
  constructor
  · rintro ⟨hch | hon, hfm⟩
    · exact .inl hch
    · obtain rfl := hfm (h.channel src hon)
      exact .inr ⟨rfl, hon⟩
  · rintro (hch | ⟨rfl, hon⟩)
    · refine ⟨.inl hch, fun hold => absurd (hold.trans hch.symm) (hne src hch)⟩
    · exact ⟨.inr hon, fun _ => rfl⟩

/-- The state behind such a switch is right if and only if the radio was not left on. -/
theorem Tidy.onePowered_exchange {v w : PowerView} (h : v.Tidy) {ch : U8}
    (hne : ∀ src, ch = Source.channel src → v.audioCh ≠ ch)
    (hsources : w.sources = ((v.powerOn ch).powerOff v.audioCh).sources) (hch : w.audioCh = ch) :
    w.OnePowered ↔ ¬ (v.audioCh = 4 ∧ v.Powered .fm) := by
  have hkept := sameButSources_powerOn h.power ch
  have hpowered : ∀ src, w.Powered src ↔ ch = src.channel ∨ src = .fm ∧ v.Powered .fm := by
    intro src
    rw [← h.powered_exchange hne src]
    unfold Powered
    rw [hsources]
  constructor
  · rintro ⟨hchannel, -⟩ ⟨h4, hon⟩
    have hfm := hchannel .fm ((hpowered .fm).mpr (.inr ⟨rfl, hon⟩))
    rw [hch] at hfm
    exact hne .fm hfm (h4.trans hfm.symm)
  · intro hoff
    constructor
    · intro src hon
      rcases (hpowered src).mp hon with hsrc | ⟨-, hfm⟩
      · exact hch.trans hsrc
      · exact absurd ⟨h.channel .fm hfm, hfm⟩ hoff
    · intro _ src hsrc
      rw [hch] at hsrc
      refine ⟨(hpowered src).mpr (.inl hsrc), ?_⟩
      have hlast : w.lastOn = ((v.powerOn ch).powerOff v.audioCh).lastOn := by
        unfold lastOn
        rw [hsources]
      rw [hlast, lastOn_powerOff (hkept.power.trans h.power), hsrc, lastOn_powerOn h.power]

theorem Tidy.powered_replace {v : PowerView} (h : v.Tidy) (ch : U8) (src : Source) :
    (v.replace v.audioCh ch).Powered src ↔ src = .fm ∧ v.Powered .fm := by
  rw [← h.powered_powerOff src]
  unfold replace Powered
  split <;> rfl

/-- The same while sources are only powered off, and DVD is recorded as the channel. -/
theorem Tidy.onePowered_replace {v : PowerView} (h : v.Tidy) {ch : U8} (honly : v.onlyOff = true)
    (hne : v.audioCh = 4 → ch ≠ 4) :
    (v.replace v.audioCh ch).OnePowered ↔ ¬ (v.audioCh = 4 ∧ v.Powered .fm) := by
  have hkept := sameButSources_powerOff h.power v.audioCh
  have hpowered := h.powered_replace ch
  have honly' : (v.replace v.audioCh ch).onlyOff = true := by
    unfold replace onlyOff
    split
    · rw [hkept.selected, hkept.busy]
      exact honly
    · show (!(v.powerOff v.audioCh).selected && (v.powerOff v.audioCh).busy) = true
      rw [hkept.selected, hkept.busy]
      exact honly
  constructor
  · rintro ⟨hchannel, -⟩ ⟨h4, hon⟩
    have hfm := hchannel .fm ((hpowered .fm).mpr ⟨rfl, hon⟩)
    unfold replace at hfm
    rw [if_neg (by rw [h4]; decide)] at hfm
    exact hne h4 hfm
  · intro hoff
    constructor
    · intro src hon
      obtain ⟨-, hfm⟩ := (hpowered src).mp hon
      exact absurd ⟨h.channel .fm hfm, hfm⟩ hoff
    · intro hexempt
      rw [honly'] at hexempt
      cases hexempt

theorem powerOff_setChannel (v : PowerView) (old ch : U8) :
    (v.setChannel ch).powerOff old = (v.powerOff old).setChannel ch := by
  unfold powerOff radioPower
  split
  · show (if (0 : U32) = v.tuner.power then _ else _) = (if (0 : U32) = v.tuner.power then v else _).setChannel ch
    split <;> rfl
  · split
    · rfl
    · split <;> rfl

end PowerView

namespace ChannelCall

open PowerView

/-- A call that does not stay changes to another channel, unless that has no source. -/
theorem target_ne {selected : Bool} {audioCh setCh : U8} {mode : Bool}
    (h : stays selected audioCh setCh mode = false) (src : Source) (hsrc : target setCh mode = src.channel) :
    audioCh ≠ target setCh mode := by
  rintro rfl
  cases mode with
  | true => cases selected <;> cases src <;> simp_all [stays, target, Source.channel]
  | false => cases src <;> simp [target, Source.channel] at hsrc

/-- With `ch_sel_mode` 4 a channel is left only if it is the current one. -/
theorem eq_of_leave {audioCh setCh : U8} (h : stays true audioCh setCh false = false) : audioCh = setCh := by
  simp [stays] at h
  exact h.2

theorem onePowered_enterSelected {v : PowerView} (h : v.Tidy) {setCh : U8} {mode : Bool}
    (hstays : stays true v.audioCh setCh mode = false) (hselected : v.selected = true) :
    (if mode && setCh = 2 then v.switch .dvd true
      else (if mode then v.powerOn setCh else v).replace v.audioCh (target setCh mode)).OnePowered ↔
      ¬ (v.audioCh = 4 ∧ v.Powered .fm) ∧ (v.audioCh ≠ 2 ∧ setCh ≠ 2) := by
  have htarget : (if mode then v.powerOn setCh else v) = v.powerOn (target setCh mode) := by
    cases mode <;> rfl
  have hne := target_ne hstays
  by_cases hdvd : (mode && decide (setCh = 2)) = true
  · -- DVD is switched on and not recorded
    obtain ⟨rfl, hset⟩ := Bool.and_eq_true_iff.mp hdvd
    have hset : setCh = 2 := of_decide_eq_true hset
    rw [if_pos hdvd]
    refine iff_of_false ?_ fun hkeeps => hkeeps.2.2 hset
    rintro ⟨hchannel, -⟩
    have hold := hchannel .dvd ((powered_switch v .dvd .dvd true).mpr rfl)
    exact hne .dvd hset (hold.trans hset.symm)
  rw [if_neg hdvd, htarget]
  by_cases hold : v.audioCh = 2
  · -- DVD is switched off and stays recorded
    refine iff_of_false ?_ fun hkeeps => hkeeps.2.1 hold
    have hkept := sameButSources_powerOn h.power (target setCh mode)
    have hoff := sameButSources_powerOff (hkept.power.trans h.power) v.audioCh
    unfold replace
    rw [if_pos hold]
    rintro ⟨-, hsource⟩
    have honly : ((v.powerOn (target setCh mode)).powerOff v.audioCh).onlyOff = false := by
      unfold onlyOff
      rw [hoff.selected, hkept.selected, hselected]
      rfl
    have hon := (hsource honly .dvd ((hoff.audioCh.trans hkept.audioCh).trans hold)).1
    have hfm := ((powered_powerOff (hkept.power.trans h.power) _ _).mp hon).2 hold
    cases hfm
  · unfold replace
    rw [if_neg hold]
    refine Iff.trans (h.onePowered_exchange hne rfl rfl) (and_iff_left ⟨hold, ?_⟩).symm
    intro hset
    cases mode with
    | true => exact hdvd (by simp [hset])
    | false => exact hold ((eq_of_leave hstays).trans hset)

/-- A call leaves one powered source if and only if it meets the condition. -/
theorem onePowered_enter {v : PowerView} (h : v.Tidy) (setCh : U8) (mode : Bool) :
    (enter setCh mode v).OnePowered ↔ KeepsPower setCh mode v := by
  unfold enter KeepsPower
  cases hstays : stays v.selected v.audioCh setCh mode with
  | true =>
    rw [if_pos rfl, if_pos rfl]
    constructor
    · rintro ⟨-, hsource⟩ honly src hsrc
      exact (hsource honly src hsrc).1
    · intro hon
      exact ⟨h.channel, fun honly src hsrc => ⟨hon honly src hsrc, h.last src (hon honly src hsrc)⟩⟩
  | false =>
    rw [if_neg Bool.false_ne_true, if_neg Bool.false_ne_true]
    have hne := target_ne hstays
    cases hselected : v.selected with
    | true =>
      rw [hselected] at hstays
      rw [if_pos rfl, onePowered_enterSelected h hstays hselected]
      simp
    | false =>
      rw [if_neg Bool.false_ne_true]
      have hkeeps : ¬ (v.audioCh = 4 ∧ v.Powered .fm) ↔ ¬ (v.audioCh = 4 ∧ v.Powered .fm) ∧
          (false = true → v.audioCh ≠ 2 ∧ setCh ≠ 2) :=
        (and_iff_left fun hc => absurd hc Bool.false_ne_true).symm
      rw [← hkeeps]
      cases hbusy : v.busy with
      | true =>
        rw [if_pos rfl]
        refine h.onePowered_replace (by simp [onlyOff, hselected, hbusy]) fun h4 htarget => ?_
        exact hne .fm htarget (h4.trans htarget.symm)
      | false =>
        rw [if_neg Bool.false_ne_true]
        unfold exchange
        rw [powerOff_setChannel]
        exact h.onePowered_exchange hne rfl rfl

theorem sameModes_replace {v : PowerView} (h : v.tuner.power = 0) (old ch : U8) :
    v.SameModes (v.replace old ch) := by
  have hoff := (sameButSources_powerOff h old).toSameModes
  unfold replace
  split
  · exact hoff
  · exact hoff.trans ⟨rfl, rfl, rfl⟩

theorem sameModes_enter {v : PowerView} (h : v.tuner.power = 0) (setCh : U8) (mode : Bool) :
    v.SameModes (enter setCh mode v) := by
  unfold enter
  split
  · exact ⟨rfl, rfl, rfl⟩
  · split
    · split
      · exact ⟨rfl, rfl, rfl⟩
      · cases mode with
        | true =>
          have hon := (sameButSources_powerOn h setCh).toSameModes
          exact hon.trans (sameModes_replace (hon.power.trans h) _ _)
        | false => exact sameModes_replace h _ _
    · split
      · exact sameModes_replace h _ _
      · have hon := (sameButSources_powerOn h (target setCh mode)).toSameModes
        have hoff := sameButSources_powerOff (hon.power.trans h) v.audioCh
        unfold exchange
        rw [powerOff_setChannel]
        exact hon.trans ⟨hoff.power, hoff.selected, hoff.busy⟩

/-- A call that meets the condition keeps the state tidy. -/
theorem tidy_enter {v : PowerView} (h : v.Tidy) {setCh : U8} {mode : Bool}
    (hkeeps : KeepsPower setCh mode v) : (enter setCh mode v).Tidy := by
  have hone := (onePowered_enter h setCh mode).mpr hkeeps
  have hmodes := sameModes_enter h.power setCh mode
  refine ⟨hmodes.power.trans h.power, hone.channel, fun src hon => ?_⟩
  cases honly : (enter setCh mode v).onlyOff with
  | false => exact (hone.source honly src (hone.channel src hon)).2
  | true =>
    -- a call that only powers sources off leaves none on
    unfold onlyOff at honly
    rw [hmodes.selected, hmodes.busy, Bool.and_eq_true, Bool.not_eq_true'] at honly
    unfold enter at hon ⊢
    unfold KeepsPower at hkeeps
    cases hstays : stays v.selected v.audioCh setCh mode with
    | true =>
      rw [hstays, if_pos rfl] at hon
      rw [if_pos rfl]
      exact h.last src hon
    | false =>
      rw [hstays, if_neg Bool.false_ne_true, honly.1, honly.2, if_neg Bool.false_ne_true, if_pos rfl,
        h.powered_replace] at hon
      rw [hstays, if_neg Bool.false_ne_true] at hkeeps
      exact absurd ⟨h.channel .fm hon.2, hon.2⟩ hkeeps.1

/-! ## Runs -/

theorem tidy_before {u : AudioUnit} (h : u.power.Tidy) (call : ChannelCall) : (before u call).power.Tidy :=
  ⟨h.power, h.channel, h.last⟩

theorem power_next (u : AudioUnit) (call : ChannelCall) :
    (next u call).power = enter call.setCh call.mode (before u call).power :=
  AudioUnit.power_enterChannel call.setCh call.mode (before u call)

theorem tidy_start : start.power.Tidy where
  power := rfl
  channel := by
    intro src hon
    cases hon
  last := by
    intro src hon
    cases hon

theorem onePowered_start : start.power.OnePowered where
  channel := tidy_start.channel
  source := by
    intro _ src hsrc
    cases src <;> exact absurd hsrc (by decide)

/-- From the system channel with every source off, every state of a run has one powered source if and
    only if every call meets the condition. -/
theorem onePowered_iff (calls : List ChannelCall) :
    Run.Throughout next (fun u => u.power.OnePowered) start calls ↔ Run.Always next Meets start calls := by
  rw [Run.throughout_iff, and_iff_right onePowered_start]
  refine Run.always_iff (fun u => u.power.Tidy) tidy_start ?_ ?_
  · intro u call h hmeets
    rw [power_next]
    exact tidy_enter (tidy_before h call) hmeets
  · intro u call h
    rw [power_next]
    exact onePowered_enter (tidy_before h call) call.setCh call.mode

/-- The radio stays on behind a change from the radio to DTV. -/
theorem not_onePowered_radio_dtv :
    ¬ Run.Throughout next (fun u => u.power.OnePowered) start
      [⟨default, 4, true⟩, ⟨default, 5, true⟩] := by
  intro h
  have hchannel := (h [⟨default, 4, true⟩, ⟨default, 5, true⟩] [] rfl).channel .fm
  revert hchannel
  decide

end ChannelCall

end MtcDrivers
