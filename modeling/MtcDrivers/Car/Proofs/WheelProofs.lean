import Mathlib.Tactic.SplitIfs
import MtcDrivers.Car.Knob

/-!
# Proofs: the steering wheel knob

The callbacks of one mode by cases: which of them report an event, which accept a sector, and what
they leave of the hold-off. In steering mode the packed byte follows the abstract knob; in normal mode
two transitions are neither reported nor accepted.
-/

namespace MtcDrivers

variable {addWheelWork : AddWheelWork} {ws : WheelState} {op : WheelSample} {dir : U8}

/-! ## The packed byte -/

namespace WheelState

theorem byte_split (x : U8) : x = (x >>> 4) <<< 4 ||| (x &&& 0xF#8) := by
  revert x
  decide

theorem nibbles_inj {a b : U8} : a = b ↔ a >>> 4 = b >>> 4 ∧ a &&& 0xF#8 = b &&& 0xF#8 := by
  constructor
  · rintro rfl
    exact ⟨rfl, rfl⟩
  · rintro ⟨hhi, hlo⟩
    rw [byte_split a, byte_split b, hhi, hlo]

/-- The byte holds the candidate `h` and the accepted sector `l`. -/
theorem wheelState_eq (h l : U8) (hh : (h <<< 4 ||| l) >>> 4 = h) (hl : (h <<< 4 ||| l) &&& 0xF#8 = l) :
    ws.wheelState = h <<< 4 ||| l ↔ ws.candidate = h ∧ ws.accepted = l := by
  rw [nibbles_inj, hh, hl]
  rfl

@[simp] theorem accepted_moveTo : (ws.moveTo dir).accepted = ws.accepted := by
  have hmask : ∀ i < 8, (0xF#8).getLsbD i = decide (i < 4) := by decide
  refine BitVec.eq_of_getLsbD_eq fun i hi => ?_
  simp only [accepted, moveTo, BitVec.getLsbD_and, BitVec.getLsbD_or, BitVec.getLsbD_shiftLeft, hmask i hi]
  by_cases h4 : i < 4 <;> simp [h4]

theorem candidate_moveTo (hdir : dir ≤ 4) : (ws.moveTo dir).candidate = dir := by
  have hlow : ∀ x : U8, (x &&& 0xF#8) >>> 4 = 0#8 := by decide
  have hhigh : ∀ d : U8, d ≤ 4 → (d <<< 4) >>> 4 = d := by decide
  simp only [candidate, moveTo, BitVec.ushiftRight_or_distrib, hlow, hhigh dir hdir, BitVec.zero_or]

theorem candidate_accept (hdir : dir ≤ 4) : (ws.accept dir).candidate = dir := by
  have h : ∀ d : U8, d ≤ 4 → (d ||| d <<< 4) >>> 4 = d := by decide
  exact h dir hdir

theorem accepted_accept (hdir : dir ≤ 4) : (ws.accept dir).accepted = dir := by
  have h : ∀ d : U8, d ≤ 4 → (d ||| d <<< 4) &&& 0xF#8 = d := by decide
  exact h dir hdir

@[simp] theorem keyRepeatCnt_moveTo : (ws.moveTo dir).keyRepeatCnt = ws.keyRepeatCnt := rfl

@[simp] theorem keyRepeatCnt_accept : (ws.accept dir).keyRepeatCnt = ws.keyRepeatCnt := rfl

@[simp] theorem wheelState_countDown : ws.countDown.wheelState = ws.wheelState := by
  rw [countDown]
  split <;> rfl

@[simp] theorem candidate_countDown : ws.countDown.candidate = ws.candidate := by simp [candidate]

@[simp] theorem accepted_countDown : ws.countDown.accepted = ws.accepted := by simp [accepted]

theorem keyRepeatCnt_countDown (ws : WheelState) :
    ws.keyRepeatCnt.toNat ≤ ws.countDown.keyRepeatCnt.toNat + 1 := by
  rw [countDown]
  split_ifs with hpos
  · have hne : ws.keyRepeatCnt.toNat ≠ 0 := by
      intro h0
      rw [BitVec.eq_of_toNat_eq (y := 0#32) h0] at hpos
      simp at hpos
    simp only
    bv_omega
  · exact Nat.le_succ _

end WheelState

/-! ## The sectors -/

theorem normalDir_le (adcType : U8) (adcVal : U32) : normalDir adcType adcVal ≤ 4 := by
  unfold normalDir
  split_ifs <;> decide

theorem steeringDir_cases (adcVal : U32) :
    steeringDir adcVal = 0 ∨ steeringDir adcVal = 1 ∨ steeringDir adcVal = 2 ∨ steeringDir adcVal = 3 := by
  unfold steeringDir
  split_ifs <;> simp

theorem steeringDir_le (adcVal : U32) : steeringDir adcVal ≤ 4 := by
  rcases steeringDir_cases adcVal with h | h | h | h <;> rw [h] <;> decide

theorem WheelSample.sector_le (op : WheelSample) : op.sector ≤ 4 := normalDir_le _ _

theorem WheelSample.steeringSector_le (op : WheelSample) : op.steeringSector ≤ 4 := steeringDir_le _

/-! ## Steering mode -/

theorem forward_iff (st : U8) (hst : st >>> 4 = 1 ∨ st >>> 4 = 2 ∨ st >>> 4 = 3) :
    st = 33 ∨ st = 50 ∨ st = 19 ↔ Knob.rotation (st &&& 0xF#8) (st >>> 4) = some 1 := by
  revert st
  decide

theorem backward_iff (st : U8) (hst : st >>> 4 = 1 ∨ st >>> 4 = 2 ∨ st >>> 4 = 3) :
    st = 49 ∨ st = 18 ∨ st = 35 ↔ Knob.rotation (st &&& 0xF#8) (st >>> 4) = some 0 := by
  revert st
  decide

theorem rotation_values {a s : U8} {e : U32} (h : Knob.rotation a s = some e) :
    s ≠ a ∧ (s = Knob.next a ∧ e = 1 ∨ a = Knob.next s ∧ e = 0) := by
  simp only [Knob.rotation] at h
  split_ifs at h with h1 h2 h3
  · obtain rfl := Option.some.inj h
    exact ⟨h1, Or.inl ⟨h2, rfl⟩⟩
  · obtain rfl := Option.some.inj h
    exact ⟨h1, Or.inr ⟨h3, rfl⟩⟩

theorem steering_cases (addWheelWork : AddWheelWork) (ws : WheelState) (hop : op.Steering) :
    (op.steeringSector ≠ ws.candidate ∧ wheelEvents addWheelWork ws op = [] ∧
      wheelStep addWheelWork ws op = ws.countDown.moveTo op.steeringSector) ∨
    (op.steeringSector = ws.candidate ∧ op.steeringSector = 0 ∧ wheelEvents addWheelWork ws op = [] ∧
      wheelStep addWheelWork ws op = ws.countDown) ∨
    (op.steeringSector = ws.candidate ∧ op.steeringSector ≠ 0 ∧ wheelEvents addWheelWork ws op = [] ∧
      wheelStep addWheelWork ws op = ws.countDown.accept op.steeringSector) ∨
    (op.steeringSector = ws.candidate ∧ op.steeringSector ≠ 0 ∧ ws.keyRepeatCnt = 0 ∧
      ∃ e, Knob.rotation ws.accepted op.steeringSector = some e ∧
        wheelEvents addWheelWork ws op = [e] ∧
        wheelStep addWheelWork ws op =
          { ws.countDown with keyRepeatCnt := 40 }.accept op.steeringSector) := by
  obtain ⟨hstudy, hgate⟩ := hop
  simp only [wheelEvents, wheelStep, adcWheelCallback, hstudy, ne_eq, not_true_eq_false, if_false, hgate,
    steeringTurn, WheelState.wheelState_countDown]
  by_cases hmove : ws.wheelState >>> 4 = steeringDir op.adcVal
  case neg =>
    left
    rw [if_pos hmove]
    exact ⟨fun h => hmove h.symm, rfl, rfl⟩
  have hcand : op.steeringSector = ws.candidate := hmove.symm
  rw [if_neg (not_not_intro hmove)]
  by_cases hdir : steeringDir op.adcVal = 0
  · right; left
    rw [if_neg (not_not_intro hdir)]
    exact ⟨hcand, hdir, rfl, rfl⟩
  rw [if_pos hdir]
  by_cases hret : ws.keyRepeatCnt = 0
  case neg =>
    right; right; left
    rw [if_pos hret, hmove]
    exact ⟨hcand, hdir, rfl, rfl⟩
  rw [if_neg (not_not_intro hret)]
  have hsector : ws.wheelState >>> 4 = 1 ∨ ws.wheelState >>> 4 = 2 ∨ ws.wheelState >>> 4 = 3 := by
    rw [hmove]
    exact (steeringDir_cases op.adcVal).resolve_left hdir
  right; right
  by_cases hforward : ws.wheelState = 33 ∨ ws.wheelState = 50 ∨ ws.wheelState = 19
  · right
    rw [if_pos hforward]
    refine ⟨hcand, hdir, hret, 1, ?_, rfl, ?_⟩
    · rw [hcand]
      exact (forward_iff _ hsector).mp hforward
    · rw [hcand]
      rfl
  rw [if_neg hforward]
  have hnot : (¬ws.wheelState = 49 ∧ ¬ws.wheelState = 18 ∧ ¬ws.wheelState = 35) ↔
      ¬(ws.wheelState = 49 ∨ ws.wheelState = 18 ∨ ws.wheelState = 35) := by
    rw [not_or, not_or]
  by_cases hback : ws.wheelState = 49 ∨ ws.wheelState = 18 ∨ ws.wheelState = 35
  · right
    rw [if_neg fun h => hnot.mp h hback]
    refine ⟨hcand, hdir, hret, 0, ?_, by rw [hret]; rfl, by rw [hcand]; rfl⟩
    rw [hcand]
    exact (backward_iff _ hsector).mp hback
  · left
    rw [if_pos (hnot.mpr hback), hmove]
    exact ⟨hcand, hdir, rfl, rfl⟩

/-- The packed byte follows the knob. -/
theorem knob_wheelStep (hop : op.Steering) :
    (wheelStep addWheelWork ws op).knob = ws.knob.sample op.steeringSector := by
  have hle := op.steeringSector_le
  rcases steering_cases addWheelWork ws hop with
    ⟨hmove, -, h⟩ | ⟨hcand, hzero, -, h⟩ | ⟨hcand, hne, -, h⟩ | ⟨hcand, hne, -, e, -, -, h⟩
  · rw [h, Knob.sample, if_neg fun hk => hmove hk.1]
    simp only [WheelState.knob, WheelState.candidate_moveTo hle, WheelState.accepted_moveTo,
      WheelState.accepted_countDown]
  · rw [h, Knob.sample, if_neg fun hk => hk.2 hzero]
    simp only [WheelState.knob, WheelState.candidate_countDown, WheelState.accepted_countDown, hcand]
  all_goals
    rw [h, Knob.sample, if_pos ⟨hcand, hne⟩]
    simp only [WheelState.knob, WheelState.candidate_accept hle, WheelState.accepted_accept hle]

/-- An event starts the hold-off, and only without one is there an event. -/
theorem keyRepeatCnt_event (hop : op.Steering) (he : wheelEvents addWheelWork ws op ≠ []) :
    ws.keyRepeatCnt = 0 ∧ (wheelStep addWheelWork ws op).keyRepeatCnt = 40 := by
  rcases steering_cases addWheelWork ws hop with
    ⟨-, hnone, -⟩ | ⟨-, -, hnone, -⟩ | ⟨-, -, hnone, -⟩ | ⟨-, -, hcnt, e, -, -, h⟩
  · exact absurd hnone he
  · exact absurd hnone he
  · exact absurd hnone he
  · rw [h]
    exact ⟨hcnt, rfl⟩

theorem keyRepeatCnt_wheelStep (addWheelWork : AddWheelWork) (ws : WheelState) (hop : op.Steering) :
    ws.keyRepeatCnt.toNat ≤ (wheelStep addWheelWork ws op).keyRepeatCnt.toNat + 1 := by
  have hdown := WheelState.keyRepeatCnt_countDown ws
  rcases steering_cases addWheelWork ws hop with
    ⟨-, -, h⟩ | ⟨-, -, -, h⟩ | ⟨-, -, -, h⟩ | ⟨-, -, hcnt, -⟩
  · rwa [h]
  · rwa [h]
  · rwa [h]
  · rw [hcnt]
    exact Nat.zero_le _

theorem keyRepeatCnt_wheelAfter (addWheelWork : AddWheelWork) (ws : WheelState) {ops : List WheelSample}
    (hops : ∀ op ∈ ops, op.Steering) :
    ws.keyRepeatCnt.toNat ≤ (wheelAfter addWheelWork ws ops).keyRepeatCnt.toNat + ops.length := by
  induction ops generalizing ws with
  | nil => exact Nat.le_refl _
  | cons op ops ih =>
    obtain ⟨hop, hops⟩ := List.forall_mem_cons.mp hops
    have hfirst := keyRepeatCnt_wheelStep addWheelWork ws hop
    have hrest := ih (wheelStep addWheelWork ws op) hops
    have hafter : wheelAfter addWheelWork ws (op :: ops) =
        wheelAfter addWheelWork (wheelStep addWheelWork ws op) ops := rfl
    rw [hafter, List.length_cons]
    omega

theorem knob_wheelAfter {ops : List WheelSample} (hops : ∀ op ∈ ops, op.Steering) :
    (wheelAfter addWheelWork ws ops).knob =
      (ops.map WheelSample.steeringSector).foldl Knob.sample ws.knob := by
  induction ops generalizing ws with
  | nil => rfl
  | cons op ops ih =>
    obtain ⟨hop, hops⟩ := List.forall_mem_cons.mp hops
    have hafter : wheelAfter addWheelWork ws (op :: ops) =
        wheelAfter addWheelWork (wheelStep addWheelWork ws op) ops := rfl
    rw [hafter, ih hops, knob_wheelStep hop]
    rfl

/-- In a run of steering mode the byte is the knob of the samples so far. -/
theorem knob_run (addWheelWork : AddWheelWork) {ops : List WheelSample} (hops : ∀ op ∈ ops, op.Steering) :
    (wheelAfter addWheelWork .zeroed ops).knob = Knob.track (ops.map WheelSample.steeringSector) := by
  have hzero : WheelState.zeroed.knob = ⟨0, 0⟩ := by decide
  rw [knob_wheelAfter hops, hzero]
  rfl

theorem candidate_run (addWheelWork : AddWheelWork) {ops : List WheelSample} (hops : ∀ op ∈ ops, op.Steering) :
    (wheelAfter addWheelWork .zeroed ops).candidate =
      (ops.map WheelSample.steeringSector).getLast?.getD 0 := by
  rw [← Knob.candidate_track, ← knob_run addWheelWork hops]
  rfl

/-- In steering mode an event is a confirmed turn from the accepted sector to a neighbour, which it
accepts, and two events are at least 41 callbacks apart. -/
theorem steering_events (addWheelWork : AddWheelWork) (ops : List WheelSample)
    (hops : ∀ op ∈ ops, op.Steering) :
    (∀ pre post, ops = pre ++ post →
      (wheelAfter addWheelWork .zeroed pre).knob = Knob.track (pre.map WheelSample.steeringSector)) ∧
    (∀ pre op post, ops = pre ++ op :: post →
      ∀ e ∈ wheelEvents addWheelWork (wheelAfter addWheelWork .zeroed pre) op,
        wheelEvents addWheelWork (wheelAfter addWheelWork .zeroed pre) op = [e] ∧
        (pre.map WheelSample.steeringSector).getLast? = some op.steeringSector ∧
        (op.steeringSector = 1 ∨ op.steeringSector = 2 ∨ op.steeringSector = 3) ∧
        op.steeringSector ≠ (wheelAfter addWheelWork .zeroed pre).accepted ∧
        (op.steeringSector = Knob.next (wheelAfter addWheelWork .zeroed pre).accepted ∧ e = 1 ∨
          (wheelAfter addWheelWork .zeroed pre).accepted = Knob.next op.steeringSector ∧ e = 0) ∧
        (wheelAfter addWheelWork .zeroed (pre ++ [op])).accepted = op.steeringSector) ∧
    (∀ pre op mid op' post, ops = pre ++ op :: (mid ++ op' :: post) →
      wheelEvents addWheelWork (wheelAfter addWheelWork .zeroed pre) op ≠ [] →
      wheelEvents addWheelWork (wheelAfter addWheelWork .zeroed (pre ++ op :: mid)) op' ≠ [] →
        41 ≤ mid.length + 1) := by
  refine ⟨?_, ?_, ?_⟩
  · rintro pre post rfl
    exact knob_run addWheelWork fun op hop => hops op (List.mem_append_left _ hop)
  · rintro pre op post rfl e he
    obtain ⟨hpre, hrest⟩ := List.forall_mem_append.mp hops
    have hop : op.Steering := hrest op List.mem_cons_self
    rcases steering_cases addWheelWork (wheelAfter addWheelWork .zeroed pre) hop with
      ⟨-, hnone, -⟩ | ⟨-, -, hnone, -⟩ | ⟨-, -, hnone, -⟩ | ⟨hcand, hne, -, e', hrot, hone, hstep⟩
    · simp [hnone] at he
    · simp [hnone] at he
    · simp [hnone] at he
    · obtain rfl : e = e' := by simpa [hone] using he
      obtain ⟨hnew, hvalue⟩ := rotation_values hrot
      have hlast : (pre.map WheelSample.steeringSector).getLast? = some op.steeringSector := by
        rw [candidate_run addWheelWork hpre] at hcand
        cases hget : (pre.map WheelSample.steeringSector).getLast? with
        | none => exact absurd (by rw [hcand, hget]; rfl) hne
        | some s =>
          rw [hcand, hget]
          rfl
      refine ⟨hone, hlast, (steeringDir_cases op.adcVal).resolve_left hne, hnew, hvalue, ?_⟩
      have hafter : wheelAfter addWheelWork .zeroed (pre ++ [op]) =
          wheelStep addWheelWork (wheelAfter addWheelWork .zeroed pre) op := Run.after_append pre [op]
      rw [hafter, hstep]
      exact WheelState.accepted_accept op.steeringSector_le
  · rintro pre op mid op' post rfl hfirst hsecond
    obtain ⟨hpre, hrest⟩ := List.forall_mem_append.mp hops
    obtain ⟨hop, hrest⟩ := List.forall_mem_cons.mp hrest
    obtain ⟨hmid, hrest⟩ := List.forall_mem_append.mp hrest
    have hop' : op'.Steering := hrest op' List.mem_cons_self
    have hafter : wheelAfter addWheelWork .zeroed (pre ++ op :: mid) =
        wheelAfter addWheelWork (wheelStep addWheelWork (wheelAfter addWheelWork .zeroed pre) op) mid :=
      Run.after_append pre (op :: mid)
    rw [hafter] at hsecond
    obtain ⟨-, harmed⟩ := keyRepeatCnt_event hop hfirst
    obtain ⟨hzero, -⟩ := keyRepeatCnt_event hop' hsecond
    have hcount := keyRepeatCnt_wheelAfter addWheelWork
      (wheelStep addWheelWork (wheelAfter addWheelWork .zeroed pre) op) hmid
    rw [harmed, hzero] at hcount
    have hforty : (40 : U32).toNat = 40 := rfl
    have hnil : (0 : U32).toNat = 0 := rfl
    omega

/-- A sample in steering mode. -/
def steeringSample (adcVal : U32) : WheelSample :=
  ⟨default, (default : ConfigData).put ConfigData.adcWheelGate 1, 0, adcVal⟩

theorem steering_events_forward :
    wheelEvents (fun _ _ => 0) (wheelAfter (fun _ _ => 0) .zeroed
        [steeringSample 320, steeringSample 330, steeringSample 500]) (steeringSample 490) = [1] ∧
      (wheelAfter (fun _ _ => 0) .zeroed
        [steeringSample 320, steeringSample 330, steeringSample 500, steeringSample 490]).accepted = 2 := by
  have hmem : (1 : U32) ∈ wheelEvents (fun _ _ => 0) (wheelAfter (fun _ _ => 0) .zeroed
      [steeringSample 320, steeringSample 330, steeringSample 500]) (steeringSample 490) := by
    decide +kernel
  obtain ⟨hone, -, -, -, -, haccepted⟩ := (steering_events (fun _ _ => 0)
    [steeringSample 320, steeringSample 330, steeringSample 500, steeringSample 490]
    (by decide +kernel)).2.1 [steeringSample 320, steeringSample 330, steeringSample 500] _ [] rfl 1 hmem
  exact ⟨hone, haccepted⟩

/-! ## Normal mode -/

/-- The bytes `20` and `35`: sector 1 is confirmed behind 4, or 2 behind 3. -/
theorem lost_iff : ws.wheelState = 20 ∨ ws.wheelState = 35 ↔
    ws.accepted = 4 ∧ ws.candidate = 1 ∨ ws.accepted = 3 ∧ ws.candidate = 2 := by
  have h20 : ws.wheelState = 20 ↔ ws.candidate = 1 ∧ ws.accepted = 4 :=
    WheelState.wheelState_eq 1 4 (by decide) (by decide)
  have h35 : ws.wheelState = 35 ↔ ws.candidate = 2 ∧ ws.accepted = 3 :=
    WheelState.wheelState_eq 2 3 (by decide) (by decide)
  rw [h20, h35, and_comm, and_comm (a := ws.candidate = 2)]

/-- The bytes `36` and `19`: sector 2 is confirmed behind 4, or 1 behind 3. -/
theorem turned_iff : ws.wheelState = 36 ∨ ws.wheelState = 19 ↔
    ws.accepted = 4 ∧ ws.candidate = 2 ∨ ws.accepted = 3 ∧ ws.candidate = 1 := by
  have h36 : ws.wheelState = 36 ↔ ws.candidate = 2 ∧ ws.accepted = 4 :=
    WheelState.wheelState_eq 2 4 (by decide) (by decide)
  have h19 : ws.wheelState = 19 ↔ ws.candidate = 1 ∧ ws.accepted = 3 :=
    WheelState.wheelState_eq 1 3 (by decide) (by decide)
  rw [h36, h19, and_comm, and_comm (a := ws.candidate = 1)]

theorem normal_cases (addWheelWork : AddWheelWork) (ws : WheelState) (hop : op.Normal) :
    (op.sector ≠ ws.candidate ∧ wheelEvents addWheelWork ws op = [] ∧
      wheelStep addWheelWork ws op = ws.countDown.moveTo op.sector) ∨
    (op.sector = ws.candidate ∧ op.sector = 0 ∧ wheelEvents addWheelWork ws op = [] ∧
      wheelStep addWheelWork ws op = ws.countDown) ∨
    (op.Lost ws ∧ wheelEvents addWheelWork ws op = [] ∧
      wheelStep addWheelWork ws op = ws.countDown) ∨
    (op.Turned ws ∧ wheelEvents addWheelWork ws op = [1] ∧
      wheelStep addWheelWork ws op = { ws.countDown with keyRepeatCnt := 40 }.accept op.sector) ∨
    (op.sector = ws.candidate ∧ op.sector ≠ 0 ∧ ¬op.Lost ws ∧ ¬op.Turned ws ∧
      wheelEvents addWheelWork ws op = [] ∧
      wheelStep addWheelWork ws op = ws.countDown.accept op.sector) := by
  obtain ⟨hstudy, hgate⟩ := hop
  simp only [wheelEvents, wheelStep, adcWheelCallback, hstudy, ne_eq, not_true_eq_false, if_false, hgate,
    if_true, normalTurn, WheelState.wheelState_countDown]
  by_cases hmove : ws.wheelState >>> 4 = normalDir op.study.adcType op.adcVal
  case neg =>
    left
    rw [if_pos hmove]
    exact ⟨fun h => hmove h.symm, rfl, rfl⟩
  have hcand : op.sector = ws.candidate := hmove.symm
  rw [if_neg (not_not_intro hmove)]
  right
  by_cases hdir : normalDir op.study.adcType op.adcVal = 0
  · left
    rw [if_neg (not_not_intro hdir)]
    exact ⟨hcand, hdir, rfl, rfl⟩
  rw [if_pos hdir]
  right
  by_cases hret : ws.keyRepeatCnt = 0
  case neg =>
    right; right
    rw [if_pos hret, hmove]
    exact ⟨hcand, hdir, fun h => hret h.2.1, fun h => hret h.2.1, rfl, rfl⟩
  rw [if_neg (not_not_intro hret)]
  have hlost : op.Lost ws ↔ ws.wheelState = 20 ∨ ws.wheelState = 35 := by
    rw [lost_iff, ← hcand]
    exact ⟨fun h => h.2.2, fun h => ⟨hcand, hret, h⟩⟩
  have hturned : op.Turned ws ↔ ws.wheelState = 36 ∨ ws.wheelState = 19 := by
    rw [turned_iff, ← hcand]
    exact ⟨fun h => h.2.2, fun h => ⟨hcand, hret, h⟩⟩
  by_cases hdrop : ws.wheelState = 20 ∨ ws.wheelState = 35
  · left
    rw [if_neg fun h => hdrop.elim h.1 h.2]
    exact ⟨hlost.mpr hdrop, rfl, rfl⟩
  rw [if_pos (not_or.mp hdrop)]
  right
  by_cases h36 : ws.wheelState = 36
  · left
    rw [if_neg (not_not_intro h36), hmove]
    exact ⟨hturned.mpr (Or.inl h36), rfl, rfl⟩
  rw [if_pos h36]
  by_cases h19 : ws.wheelState = 19
  · left
    rw [if_neg (not_not_intro h19), hmove]
    exact ⟨hturned.mpr (Or.inr h19), rfl, rfl⟩
  · right
    rw [if_pos h19, hmove]
    exact ⟨hcand, hdir, fun h => hdrop (hlost.mp h), fun h => (hturned.mp h).elim h36 h19, rfl, rfl⟩

theorem answered_of_not_lost (hop : op.Normal) (hkept : ¬op.Lost ws) :
    op.Answered addWheelWork 1 0 ws := by
  constructor
  · intro hcand hnew hold hret
    have hno : ¬(ws.accepted = 4 ∧ op.sector = 1 ∨ ws.accepted = 3 ∧ op.sector = 2) :=
      fun h => hkept ⟨hcand, hret, h⟩
    rw [if_neg hno]
    rcases normal_cases addWheelWork ws hop with
      ⟨hmove, -⟩ | ⟨-, hzero, -⟩ | ⟨hlost, -⟩ | ⟨-, hone, -⟩ | ⟨-, -, -, hturned, -⟩
    · exact absurd hcand hmove
    · rcases hnew with h | h <;> exact absurd (hzero.symm.trans h) (by decide)
    · exact absurd hlost hkept
    · exact hone
    · refine absurd ⟨hcand, hret, ?_⟩ hturned
      rcases hnew with h1 | h2 <;> rcases hold with h3 | h4
      · exact Or.inr ⟨h3, h1⟩
      · exact absurd (Or.inl ⟨h4, h1⟩) hno
      · exact absurd (Or.inr ⟨h3, h2⟩) hno
      · exact Or.inl ⟨h4, h2⟩
  · intro hcand hne
    rcases normal_cases addWheelWork ws hop with
      ⟨hmove, -⟩ | ⟨-, hzero, -⟩ | ⟨hlost, -⟩ | ⟨-, -, h⟩ | ⟨-, -, -, -, -, h⟩
    · exact absurd hcand hmove
    · exact absurd hzero hne
    · exact absurd hlost hkept
    all_goals
      rw [h]
      exact WheelState.accepted_accept op.sector_le

theorem not_lost_of_answered {e f : U32} (hop : op.Normal) (h : op.Answered addWheelWork e f ws) :
    ¬op.Lost ws := by
  rintro hlost
  obtain ⟨hcand, hret, hpair⟩ := hlost
  have hnew : op.sector = 1 ∨ op.sector = 2 := hpair.imp And.right And.right
  have hold : ws.accepted = 3 ∨ ws.accepted = 4 := (hpair.imp And.left And.left).symm
  have hevent := h.1 hcand hnew hold hret
  rcases normal_cases addWheelWork ws hop with
    ⟨hmove, -⟩ | ⟨-, -, hnone, -⟩ | ⟨-, hnone, -⟩ | ⟨⟨-, -, hturned⟩, -⟩ | ⟨-, -, -, -, hnone, -⟩
  · exact hmove hcand
  · simp [hnone] at hevent
  · simp [hnone] at hevent
  · rcases hpair with ⟨ha, hs⟩ | ⟨ha, hs⟩ <;> rcases hturned with ⟨ha', hs'⟩ | ⟨ha', hs'⟩
    · exact absurd (hs.symm.trans hs') (by decide)
    · exact absurd (ha.symm.trans ha') (by decide)
    · exact absurd (ha.symm.trans ha') (by decide)
    · exact absurd (hs.symm.trans hs') (by decide)
  · simp [hnone] at hevent

/-- In normal mode every confirmed sector is answered as long as no run step confirms 1 behind 4 or 2
behind 3 without a hold-off, and only then. -/
theorem normal_answered_iff (addWheelWork : AddWheelWork) (ws : WheelState) (ops : List WheelSample)
    (hops : ∀ op ∈ ops, op.Normal) :
    (∃ e f, (e = 0 ∧ f = 1 ∨ e = 1 ∧ f = 0) ∧
      Run.Always (wheelStep addWheelWork) (fun ws op => op.Answered addWheelWork e f ws) ws ops) ↔
    Run.Always (wheelStep addWheelWork) (fun ws op => ¬op.Lost ws) ws ops := by
  have hmem : ∀ pre op post, ops = pre ++ op :: post → op.Normal := by
    rintro pre op post rfl
    exact hops op (by simp)
  constructor
  · rintro ⟨e, f, -, h⟩ pre op post hsplit
    exact not_lost_of_answered (hmem pre op post hsplit) (h pre op post hsplit)
  · intro h
    refine ⟨1, 0, Or.inr ⟨rfl, rfl⟩, ?_⟩
    intro pre op post hsplit
    exact answered_of_not_lost (hmem pre op post hsplit) (h pre op post hsplit)

/-- Behind 4 without a hold-off, samples in the sectors 1 and 4 and between the sectors do nothing. -/
theorem stuck_step (addWheelWork : AddWheelWork) (hop : op.Normal)
    (hsector : op.sector = 0 ∨ op.sector = 1 ∨ op.sector = 4)
    (haccepted : ws.accepted = 4) (hcnt : ws.keyRepeatCnt = 0) :
    wheelEvents addWheelWork ws op = [] ∧ (wheelStep addWheelWork ws op).accepted = 4 ∧
      (wheelStep addWheelWork ws op).keyRepeatCnt = 0 := by
  have hdown : ws.countDown.keyRepeatCnt = 0 := by
    rw [WheelState.countDown, hcnt, if_neg (by decide)]
    exact hcnt
  rcases normal_cases addWheelWork ws hop with
    ⟨-, hnone, h⟩ | ⟨-, -, hnone, h⟩ | ⟨-, hnone, h⟩ | ⟨⟨-, -, hpair⟩, -⟩ | ⟨hcand, hne, hlost, -, hnone, h⟩
  · rw [h]
    exact ⟨hnone, by simpa using haccepted, hdown⟩
  · rw [h]
    exact ⟨hnone, by simpa using haccepted, hdown⟩
  · rw [h]
    exact ⟨hnone, by simpa using haccepted, hdown⟩
  · rw [haccepted] at hpair
    rcases hpair with ⟨-, h2⟩ | ⟨h3, -⟩
    · rw [h2] at hsector
      exact absurd hsector (by decide)
    · exact absurd h3 (by decide)
  · rcases hsector with h0 | h1 | h4
    · exact absurd h0 hne
    · exact absurd ⟨hcand, hcnt, Or.inl ⟨haccepted, h1⟩⟩ hlost
    · rw [h, WheelState.accepted_accept op.sector_le]
      exact ⟨hnone, h4, hdown⟩

/-- The knob sticks: turned from 4 to 1, it never reports or accepts anything. -/
theorem stuck_run {ops : List WheelSample} (hops : ∀ op ∈ ops, op.Normal)
    (hsector : ∀ op ∈ ops, op.sector = 0 ∨ op.sector = 1 ∨ op.sector = 4)
    (haccepted : ws.accepted = 4) (hcnt : ws.keyRepeatCnt = 0) :
    (wheelAfter addWheelWork ws ops).accepted = 4 ∧
      Run.Always (wheelStep addWheelWork) (fun ws op => wheelEvents addWheelWork ws op = []) ws ops := by
  induction ops generalizing ws with
  | nil => exact ⟨haccepted, Run.always_nil⟩
  | cons op ops ih =>
    obtain ⟨hop, hops⟩ := List.forall_mem_cons.mp hops
    obtain ⟨hs, hsector⟩ := List.forall_mem_cons.mp hsector
    obtain ⟨hnone, haccepted', hcnt'⟩ :=
      stuck_step addWheelWork hop hs haccepted hcnt
    obtain ⟨hend, hrest⟩ := ih hops hsector haccepted' hcnt'
    exact ⟨hend, Run.always_cons.mpr ⟨hnone, hrest⟩⟩

/-- A sample in normal mode. -/
def normalSample (adcVal : U32) : WheelSample := ⟨default, default, 0, adcVal⟩

theorem normal_answered_iff_turn :
    ∃ e f, (e = 0 ∧ f = 1 ∨ e = 1 ∧ f = 0) ∧
      Run.Always (wheelStep fun _ _ => 0) (fun ws op => op.Answered (fun _ _ => 0) e f ws) .zeroed
        [normalSample 1010, normalSample 1010, normalSample 600, normalSample 600] := by
  refine (normal_answered_iff (fun _ _ => 0) .zeroed _ (by decide)).mpr ?_
  simp only [Run.always_cons]
  exact ⟨by decide, by decide, by decide, by decide, Run.always_nil⟩

/-- From 4 to 1 the knob sticks: no event, and 4 stays accepted. -/
theorem normal_answered_fails :
    ¬∃ e f, (e = 0 ∧ f = 1 ∨ e = 1 ∧ f = 0) ∧
      Run.Always (wheelStep fun _ _ => 0) (fun ws op => op.Answered (fun _ _ => 0) e f ws) .zeroed
        [normalSample 1010, normalSample 1010, normalSample 450, normalSample 450] := by
  rintro ⟨e, f, -, h⟩
  have hlast := h [normalSample 1010, normalSample 1010, normalSample 450] (normalSample 450) [] rfl
  have hstuck := hlast.2 (by decide) (by decide)
  revert hstuck
  decide

end MtcDrivers
