import Mathlib.Data.List.Nodup
import MtcDrivers.Ioctl.Answer
import MtcDrivers.Ioctl.Proofs.ConfigProofs

/-!
# Proofs: what an answer takes from the answers before

The text that an answer gives is what its getter leaves visible in the answer buffer. A text stored at
the start hides what was there; a text stored at the end stands behind it; the other getters show it as
it is, or with three bytes changed.
-/

namespace MtcDrivers

/-! ## Texts in the buffer -/

namespace AnswerBuf

theorem cString_store_start (buf : AnswerBuf) (t : Text) : cString (buf.store 0 t) = cString t := by
  rw [store, List.take_zero, List.nil_append, cString_append_zero]

theorem cString_store_end (buf : AnswerBuf) (t : Text) :
    cString (buf.store (cString buf).length t) = cString buf ++ cString t := by
  rw [store, take_length_cString, cString_append_zero,
    cString_append fun b hb => ne_zero_of_mem_cString hb]

/-! ### Three stores -/

theorem length_middle_le (buf : AnswerBuf) : buf.middle.length ≤ 6 :=
  calc buf.middle.length
      ≤ ((buf.drop 2).take 6).length := (List.takeWhile_prefix _).length_le
    _ ≤ 6 := List.length_take_le _ _

theorem middle_rightpad (buf : AnswerBuf) : middle (buf.rightpad 9 0) = buf.middle := by
  rw [middle, List.rightpad, List.drop_append, List.take_append, List.drop_replicate,
    List.take_replicate, cString_append_replicate]
  rfl

theorem drop_rightpad (buf : AnswerBuf) : (buf.rightpad 9 0).drop 9 = buf.drop 9 := by
  rw [List.rightpad, List.drop_append, List.drop_replicate, Nat.sub_self, List.replicate_zero,
    List.append_nil]

/-- What the user sees after the three stores. -/
theorem cString_overwrite (buf : AnswerBuf) {b₀ b₁ b₈ : U8} (h₀ : b₀ ≠ 0) (h₁ : b₁ ≠ 0)
    (h₈ : b₈ ≠ 0) :
    cString (buf.overwrite b₀ b₁ b₈) =
      b₀ :: b₁ :: (buf.middle ++
        if buf.middle.length = 6 then b₈ :: cString (buf.drop 9) else []) := by
  have hlen : 9 ≤ (buf.rightpad 9 0).length := by
    rw [List.length_rightpad]
    exact Nat.le_max_left ..
  rw [← drop_rightpad, ← middle_rightpad, overwrite]
  generalize buf.rightpad 9 0 = pad at hlen
  rcases pad with _ | ⟨x₀, _ | ⟨x₁, l⟩⟩
  · exact absurd hlen (by simp)
  · exact absurd hlen (by simp)
  · have hl : 6 < l.length := by
      simp only [List.length_cons] at hlen
      omega
    show cString (b₀ :: b₁ :: l.set 6 b₈) = b₀ :: b₁ :: (cString (l.take 6) ++
      if (cString (l.take 6)).length = 6 then b₈ :: cString (l.drop 7) else [])
    rw [cString_cons h₀, cString_cons h₁, List.set_eq_take_append_cons_drop, if_pos hl, cString,
      List.takeWhile_append, List.length_take_of_le hl.le]
    change b₀ :: b₁ :: (if (cString (l.take 6)).length = 6 then _ else _) = _
    split
    · rename_i hfull
      have htake : cString (l.take 6) = l.take 6 :=
        (List.takeWhile_prefix _).eq_of_length (hfull.trans (List.length_take_of_le hl.le).symm)
      rw [htake]
      exact congrArg (fun r => b₀ :: b₁ :: (l.take 6 ++ r)) (cString_cons h₈ _)
    · exact congrArg (fun r => b₀ :: b₁ :: r) (List.append_nil _).symm

/-- The three stores leave the same text in two buffers if and only if the rest is the same. -/
theorem overwrite_eq_iff (buf₁ buf₂ : AnswerBuf) {b₀ b₁ b₈ : U8} (h₀ : b₀ ≠ 0) (h₁ : b₁ ≠ 0)
    (h₈ : b₈ ≠ 0) :
    cString (buf₁.overwrite b₀ b₁ b₈) = cString (buf₂.overwrite b₀ b₁ b₈) ↔ SameRest buf₁ buf₂ := by
  rw [cString_overwrite buf₁ h₀ h₁ h₈, cString_overwrite buf₂ h₀ h₁ h₈, List.cons_inj_right,
    List.cons_inj_right]
  constructor
  · intro h
    have hlen := congrArg List.length h
    rw [List.length_append, List.length_append] at hlen
    have hle₁ := length_middle_le buf₁
    have hle₂ := length_middle_le buf₂
    by_cases hfull₁ : buf₁.middle.length = 6
    · by_cases hfull₂ : buf₂.middle.length = 6
      · rw [if_pos hfull₁, if_pos hfull₂] at h
        obtain ⟨hmiddle, hrest⟩ := List.append_inj h (hfull₁.trans hfull₂.symm)
        exact ⟨hmiddle, fun _ => (List.cons.inj hrest).2⟩
      · rw [if_pos hfull₁, if_neg hfull₂, List.length_cons, List.length_nil] at hlen
        omega
    · by_cases hfull₂ : buf₂.middle.length = 6
      · rw [if_neg hfull₁, if_pos hfull₂, List.length_cons, List.length_nil] at hlen
        omega
      · rw [if_neg hfull₁, if_neg hfull₂, List.append_nil, List.append_nil] at h
        exact ⟨h, fun hfull => absurd hfull hfull₁⟩
  · rintro ⟨hmiddle, hrest⟩
    rw [← hmiddle]
    split
    · rename_i hfull
      rw [hrest hfull]
    · rfl

end AnswerBuf

theorem LongWord.store_eq_iff (w : LongWord) (buf₁ buf₂ : AnswerBuf) :
    cString (w.store buf₁) = cString (w.store buf₂) ↔ SameRest buf₁ buf₂ := by
  cases w with
  | nosignal => exact buf₁.overwrite_eq_iff buf₂ (by decide) (by decide) (by decide)
  | recovery => exact buf₁.overwrite_eq_iff buf₂ (by decide) (by decide) (by decide)

theorem Reply.store_eq_iff (a : Reply) (buf₁ buf₂ : AnswerBuf) :
    cString (a.store buf₁) = cString (a.store buf₂) ↔ a.Hides buf₁ buf₂ := by
  cases a with
  | print t =>
    show cString (buf₁.store 0 t) = cString (buf₂.store 0 t) ↔ True
    rw [AnswerBuf.cString_store_start, AnswerBuf.cString_store_start]
    exact iff_true_intro rfl
  | append t =>
    show cString (buf₁.store _ t) = cString (buf₂.store _ t) ↔ cString buf₁ = cString buf₂
    rw [AnswerBuf.cString_store_end, AnswerBuf.cString_store_end, List.append_left_inj]
  | elsewhere => exact Iff.rfl
  | long w => exact w.store_eq_iff buf₁ buf₂
  | label102 => exact Iff.rfl

/-! ## The getters -/

theorem staGetters_keys : staGetters.map Prod.fst = staKeys := by
  simp only [staGetters, staKeys, List.map_cons, List.map_nil]

theorem cfgGetters_keys : cfgGetters.map Prod.fst ++ lists.map Prod.fst = cfgKeys := by
  simp only [cfgGetters, lists, cfgKeys, List.map_cons, List.map_nil, List.cons_append, List.nil_append]

theorem avGetters_keys : avGetters.map Prod.fst = avKeys := by
  simp only [avGetters, avKeys, List.map_cons, List.map_nil]

theorem getters_keys : getters.map Prod.fst = readableKeys := by
  have hlists : (lists.map fun l => (l.1, appendList l.2)).map Prod.fst = lists.map Prod.fst := List.map_map
  rw [getters, List.map_append, List.map_append, List.map_append, hlists, staGetters_keys, cfgGetters_keys,
    avGetters_keys, readableKeys]

/-- No key is compared twice. -/
theorem readableKeys_nodup : readableKeys.Nodup := by
  -- numbers are compared faster than texts
  have hcodes : (readableKeys.map fun key => key.foldl (fun n b => n * 256 + b.toNat) 0).Nodup := by
    decide
  exact hcodes.of_map

theorem lookup_getters {key : Text} {g : Getter} (hmem : (key, g) ∈ getters) :
    getters.lookup key = some g := by
  obtain ⟨before, behind, hsplit⟩ := List.append_of_mem hmem
  refine List.lookup_eq_some_iff.mpr ⟨before, behind, hsplit, fun h hh => bne_iff_ne.mpr ?_⟩
  rintro rfl
  have hnodup := readableKeys_nodup
  rw [← getters_keys, hsplit, List.map_append, List.map_cons] at hnodup
  exact (List.nodup_append.mp hnodup).2.2 _ (List.mem_map_of_mem hh) _ List.mem_cons_self rfl

/-- An unknown key goes to `LABEL_102`. -/
theorem answerTo_unknown {key : Text} (hkey : key ∉ readableKeys) (pos : Text) (s : GetState)
    (p : Peripherals) : answerTo key pos s p = .label102 := by
  have hnone : getters.lookup key = none := by
    refine List.lookup_eq_none_iff.mpr fun g hg => bne_iff_ne.mpr ?_
    rintro rfl
    exact hkey (getters_keys ▸ List.mem_map_of_mem hg)
  rw [answerTo, hnone]
  rfl

section Lists

variable {key : Text} {print : ConfigData → Text → Text}

theorem mem_of_lookup_lists (hkey : lists.lookup key = some print) : (key, print) ∈ lists := by
  obtain ⟨before, behind, hsplit, -⟩ := List.lookup_eq_some_iff.mp hkey
  exact hsplit ▸ List.mem_append_right _ List.mem_cons_self

theorem mem_getters_of_lists (hmem : (key, print) ∈ lists) : (key, appendList print) ∈ getters := by
  have hmap : (key, appendList print) ∈ lists.map fun l => (l.1, appendList l.2) :=
    List.mem_map.mpr ⟨(key, print), hmem, rfl⟩
  exact List.mem_append_left _ (List.mem_append_right _ (List.mem_append_right _ hmap))

theorem answerTo_list (hkey : lists.lookup key = some print) (pos : Text) (s : GetState)
    (p : Peripherals) : answerTo key pos s p = .append (print s.config []) := by
  rw [answerTo, lookup_getters (mem_getters_of_lists (mem_of_lookup_lists hkey))]
  rfl

theorem mem_readableKeys_of_list (hkey : lists.lookup key = some print) : key ∈ readableKeys :=
  getters_keys ▸ List.mem_map_of_mem (f := Prod.fst)
    (mem_getters_of_lists (mem_of_lookup_lists hkey))

/-- The numbers of a list are printed in digits, so all of its text is visible. -/
theorem cString_list (hkey : lists.lookup key = some print) (c : ConfigData) :
    cString (print c []) = print c [] := by
  have hdigits : ∀ b ∈ print c [], isDigit b = true := by
    have hmem := mem_of_lookup_lists hkey
    simp only [lists, List.mem_cons, Prod.mk.injEq, List.not_mem_nil, or_false] at hmem
    rcases hmem with ⟨-, rfl⟩ | ⟨-, rfl⟩ | ⟨-, rfl⟩ | ⟨-, rfl⟩ <;>
      exact printInts_digits _ (by simp)
  refine cString_eq_self fun b hb hzero => ?_
  have hdigit := hdigits b hb
  rw [hzero] at hdigit
  exact absurd hdigit (by decide)

end Lists

/-! ## The get half -/

section GetHalf

variable {p : Peripherals} {key pos : Text} {d d₁ d₂ : AnswerState} {a : Reply}

theorem getHalf_eq (ha : answerTo key pos d.state p = a) :
    (getHalf p key pos d).2 = (cString (a.store d.staBuf), a.result) := by
  rw [← ha, getHalf]

theorem result_eq_zero (ha : a ≠ .label102) : a.result = 0 := by
  cases a with
  | label102 => exact absurd rfl ha
  | print t => rfl
  | append t => rfl
  | elsewhere => rfl
  | long w => rfl

/-- `getHalf` is the get half of the dispatch, with this state of the answer buffer. -/
theorem ioctlGet_getHandlers (set : Text → Text → ℤ) (p : Peripherals) (key pos : Text)
    (d : AnswerState) :
    ioctlGet (getHandlers set p d) key pos =
      ([.getHalf key pos, .copyToUser (getHalf p key pos d).2.1], (getHalf p key pos d).2.2) := by
  by_cases ha : answerTo key pos d.state p = .label102
  · have hget : (getHandlers set p d).get key pos = none := if_pos ha
    rw [ioctlGet, hget, ite_self, getHalf_eq ha]
    rfl
  · have hkey : key ∈ readableKeys :=
      Decidable.of_not_not fun hkey => ha (answerTo_unknown hkey pos d.state p)
    have hget : (getHandlers set p d).get key pos = some (getHalf p key pos d).2.1 := if_neg ha
    rw [ioctlGet, if_pos hkey, hget, getHalf_eq rfl, result_eq_zero ha]

/-- The answers agree if and only if the texts do. -/
theorem same_iff (ha₁ : answerTo key pos d₁.state p = a) (ha₂ : answerTo key pos d₂.state p = a) :
    (getHalf p key pos d₁).2 = (getHalf p key pos d₂).2 ↔
      cString (a.store d₁.staBuf) = cString (a.store d₂.staBuf) := by
  rw [getHalf_eq ha₁, getHalf_eq ha₂, Prod.mk.injEq, and_iff_left rfl]

/-- A key with neither a list nor an error of its own has no answer but the getter's. -/
theorem ownAnswer_of (hlist : lists.lookup key = none) (hkey : key ∈ readableKeys) :
    OwnAnswer p key pos d where
  list print hprint := by rw [hlist] at hprint; exact absurd hprint.symm (Option.some_ne_none _)
  unknown hunknown := absurd hkey hunknown

/-- A list stands behind the text that was there before. -/
theorem getHalf_list {print : ConfigData → Text → Text} (hkey : lists.lookup key = some print) :
    (getHalf p key pos d).2.1 = cString d.staBuf ++ print d.state.config [] := by
  rw [getHalf_eq (answerTo_list hkey pos d.state p)]
  show cString (d.staBuf.store (cString d.staBuf).length (print d.state.config [])) = _
  rw [AnswerBuf.cString_store_end, cString_list hkey]

/-- A list is its own if and only if no text was there before. -/
theorem ownAnswer_list_iff {print : ConfigData → Text → Text} (hkey : lists.lookup key = some print) :
    OwnAnswer p key pos d ↔ cString d.staBuf = [] := by
  have htext : (getHalf p key pos d).2.1 = cString d.staBuf ++ print d.state.config [] :=
    getHalf_list hkey
  constructor
  · intro h
    exact List.append_left_eq_self.mp (htext.symm.trans (h.list print hkey))
  · intro hnil
    refine ⟨fun print' hprint' => ?_, fun hunknown => absurd (mem_readableKeys_of_list hkey) hunknown⟩
    cases Option.some.inj (hkey.symm.trans hprint')
    rw [htext, hnil, List.nil_append]

/-- The error for an unknown key is its own if and only if no text was there before. -/
theorem ownAnswer_unknown_iff (hkey : key ∉ readableKeys) :
    OwnAnswer p key pos d ↔ cString d.staBuf = [] := by
  have hanswer := getHalf_eq (answerTo_unknown hkey pos d.state p)
  constructor
  · intro h
    exact congrArg Prod.fst (hanswer.symm.trans (h.unknown hkey))
  · intro hnil
    refine ⟨fun print hprint => absurd (mem_readableKeys_of_list hprint) hkey, fun _ => ?_⟩
    rw [hanswer]
    exact congrArg (·, -1) hnil

/-- In two states with the same data, a request is answered alike and by its own answer if and only if
the answer buffers fit. -/
theorem noLeak_iff (p : Peripherals) (key pos : Text) (hstate : d₁.state = d₂.state) :
    NoLeak p key pos d₁ d₂ ↔
      LeftoversFit key d₁.staBuf d₂.staBuf (answerTo key pos d₁.state p) := by
  have ha₂ : answerTo key pos d₂.state p = answerTo key pos d₁.state p := by rw [hstate]
  have hsame := same_iff rfl ha₂
  rw [Reply.store_eq_iff] at hsame
  by_cases hempty : PromisesOwn key
  · have hown : ∀ d : AnswerState, OwnAnswer p key pos d ↔ cString d.staBuf = [] := by
      intro d
      rcases hempty with hlist | hkey
      · obtain ⟨print, hprint⟩ := Option.isSome_iff_exists.mp hlist
        exact ownAnswer_list_iff hprint
      · exact ownAnswer_unknown_iff hkey
    constructor
    · intro h
      exact ⟨fun _ => ⟨(hown d₁).mp h.own₁, (hown d₂).mp h.own₂⟩, fun hno => absurd hempty hno⟩
    · intro h
      obtain ⟨hnil₁, hnil₂⟩ := h.empty hempty
      have hshown : cString d₁.staBuf = cString d₂.staBuf := hnil₁.trans hnil₂.symm
      refine ⟨hsame.mpr ?_, (hown d₁).mpr hnil₁, (hown d₂).mpr hnil₂⟩
      rcases hempty with hlist | hkey
      · obtain ⟨print, hprint⟩ := Option.isSome_iff_exists.mp hlist
        rw [answerTo_list hprint]
        exact hshown
      · rw [answerTo_unknown hkey]
        exact hshown
  · have hown : ∀ d : AnswerState, OwnAnswer p key pos d := by
      obtain ⟨hlist, hkey⟩ := not_or.mp hempty
      exact fun d => ownAnswer_of (Option.not_isSome_iff_eq_none.mp hlist) (not_not.mp hkey)
    constructor
    · intro h
      exact ⟨fun hyes => absurd hyes hempty, fun _ => hsame.mp h.same⟩
    · intro h
      exact ⟨hsame.mpr (h.hidden hempty), hown d₁, hown d₂⟩

end GetHalf

/-! ## Histories -/

theorem cString_foldl_run (steps : List IoctlStep) (d : AnswerState) :
    cString (steps.foldl (fun d step => step.run d) d).staBuf =
      lastText (cString d.staBuf) d steps := by
  induction steps generalizing d with
  | nil => rfl
  | cons step steps ih =>
    rw [List.foldl_cons, ih]
    cases step with
    | set f => rfl
    | get p key pos => rfl

/-- What a history leaves in the buffer is the text of its last answer. -/
theorem cString_afterSteps (s : GetState) (steps : List IoctlStep) :
    cString (afterSteps s steps).staBuf = lastText [] ⟨s, []⟩ steps :=
  cString_foldl_run steps ⟨s, []⟩

/-- A list answer is the last answer with the list behind it. -/
theorem list_behind_last_answer {key : Text} {print : ConfigData → Text → Text}
    (hkey : lists.lookup key = some print) (s : GetState) (steps : List IoctlStep) (p : Peripherals)
    (pos : Text) :
    (getHalf p key pos (afterSteps s steps)).2.1 =
      lastText [] ⟨s, []⟩ steps ++ print (afterSteps s steps).state.config [] := by
  rw [getHalf_list hkey, cString_afterSteps]

/-- After two histories that lead to the same state, a request is answered alike and by its own answer
if and only if the texts that the histories leave in the answer buffer fit. -/
theorem answers_independent_iff (s₁ s₂ : GetState) (steps₁ steps₂ : List IoctlStep)
    (hstate : (afterSteps s₁ steps₁).state = (afterSteps s₂ steps₂).state) (p : Peripherals)
    (key pos : Text) :
    NoLeak p key pos (afterSteps s₁ steps₁) (afterSteps s₂ steps₂) ↔
      LeftoversFit key (afterSteps s₁ steps₁).staBuf (afterSteps s₂ steps₂).staBuf
        (answerTo key pos (afterSteps s₁ steps₁).state p) :=
  noLeak_iff p key pos hstate

/-- Devices that report zeros and no disc. -/
def silentPeripherals : Peripherals where
  dvdGetFolder _ := []
  dvdGetMedia _ := []
  dvdGetMediaTitle := []
  foldersCount := 0
  mediaCount := 0
  folderIdx := 0
  mediaIdx := 0
  dvdLength := 0
  dvdPosition := 0
  touchAdc := (0, 0)
  staTouchCal _ := 0
  radioGetSignal _ := 0
  tvGetStatus _ := 0
  checkTvSignal _ := 0
  printTouchInfo _ _ _ _ := []
  printLed _ _ _ := []

/-- A request for the number of folders. -/
def askFolderCnt : IoctlStep := .get silentPeripherals (ascii "sta_dvd_folder_cnt") []

/-- The number of folders is answered alike, also when it has been asked for before. -/
theorem answers_independent_folder_cnt :
    NoLeak silentPeripherals (ascii "sta_dvd_folder_cnt") [] (afterSteps default [askFolderCnt])
      (afterSteps default []) := by
  refine (answers_independent_iff default default [askFolderCnt] [] rfl silentPeripherals
    (ascii "sta_dvd_folder_cnt") []).mpr ⟨fun hown => ?_, fun _ => trivial⟩
  rcases hown with hlist | hkey
  · exact absurd hlist (by decide)
  · exact absurd (by decide) hkey

/-- With the number of folders asked for before, the key list starts with this number. -/
theorem key_assign_behind_folder_cnt :
    ¬ ∀ s₁ s₂ steps₁ steps₂, (afterSteps s₁ steps₁).state = (afterSteps s₂ steps₂).state →
      ∀ p key pos, NoLeak p key pos (afterSteps s₁ steps₁) (afterSteps s₂ steps₂) := by
  intro h
  have hleak := h default default [askFolderCnt] [] rfl silentPeripherals (ascii "cfg_key_assign") []
  have hlist : lists.lookup (ascii "cfg_key_assign") = some getKeyAssign := rfl
  have hempty := (ownAnswer_list_iff hlist).mp hleak.own₁
  exact absurd hempty (by decide)

end MtcDrivers
