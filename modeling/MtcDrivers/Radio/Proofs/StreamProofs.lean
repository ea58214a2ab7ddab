import MtcDrivers.Radio.Proofs.BlockCodeProofs
import MtcDrivers.Radio.Stream

/-!
# The synchroniser stays in step with the stream

The invariant of the loop is that the accumulator holds the bits of the stream behind those that were
taken; a word lengthens the stream, a pass takes 26 bits or one. That a call of `rds_process` comes after
four windows follows from the states that the passes leave.
-/

namespace MtcDrivers

open ShiftRegister RdsBlock

namespace Pass

theorem total_append (ps qs : List Pass) : total (ps ++ qs) = total ps + total qs := by
  simp [total]

theorem total_singleton (p : Pass) : total [p] = p.taken := by simp [total]

theorem stateAfter_concat (ps : List Pass) (p : Pass) : stateAfter (ps ++ [p]) = p.after := by
  simp [stateAfter]

end Pass

namespace Radio

/-! ## The splice of a word -/

theorem splice_bits (data : U32) {s : ℕ} (hpos : 0 < s) (h : s ≤ 32) :
    (data >>> s).setWidth 64 <<< 32 ||| (data <<< (32 - s)).setWidth 64 =
      (data.setWidth 64 <<< 32) >>> s := by
  refine BitVec.eq_of_getLsbD_eq fun i hi => ?_
  rw [BitVec.getLsbD_or, BitVec.getLsbD_shiftLeft, BitVec.getLsbD_setWidth, BitVec.getLsbD_ushiftRight,
    BitVec.getLsbD_setWidth, BitVec.getLsbD_shiftLeft, BitVec.getLsbD_ushiftRight,
    BitVec.getLsbD_shiftLeft, BitVec.getLsbD_setWidth]
  rcases Nat.lt_or_ge i 32 with h32 | h32
  · rcases Nat.lt_or_ge (s + i) 32 with hs | hs
    · have hlow : i < 32 - s := by omega
      have hin : s + i < 64 := by omega
      simp [h32, hlow, hs, hin]
    · have hlow : ¬ i < 32 - s := by omega
      have hidx : i - (32 - s) = s + i - 32 := by omega
      have hin : s + i < 64 := by omega
      have hin' : s + i - 32 < 64 := by omega
      have hs' : ¬ s + i < 32 := by omega
      simp [h32, hi, hlow, hidx, hin, hin', hs']
  · have hidx : s + (i - 32) = s + i - 32 := by omega
    have hlow : ¬ i < 32 - s := by omega
    have hno : ¬ i < 32 := by omega
    have hs : ¬ s + i < 32 := by omega
    rcases Nat.lt_or_ge (s + i) 64 with hin | hin
    · have hin' : s + i - 32 < 64 := by omega
      have hin'' : i - 32 < 64 := by omega
      simp [hi, hno, hlow, hidx, hin, hin', hin'', hs]
    · have hge : data.getLsbD (s + i - 32) = false := BitVec.getLsbD_of_ge data _ (by omega)
      simp [hno, hlow, hidx, hge]

theorem rdsSplice_eq (data : U32) {shift : U8} (h : shift.toNat ≤ 32) :
    rdsSplice data shift = (data.setWidth 64 <<< 32) >>> shift.toNat := by
  rw [rdsSplice]
  by_cases h0 : shift = 0
  · have hzero : shift.toNat = 0 := by rw [h0]; rfl
    rw [if_neg (not_not.mpr h0), hzero, BitVec.ushiftRight_zero]
  · have hpos : 0 < shift.toNat := by
      rcases Nat.eq_zero_or_pos shift.toNat with hz | hp
      · exact absurd (BitVec.eq_of_toNat_eq hz) h0
      · exact hp
    rw [if_pos h0]
    exact splice_bits data hpos h

/-- A word enters behind the pending bits. -/
theorem msbFirst_rdsSplice (data : U32) {shift : U8} (h : shift.toNat ≤ 32) :
    msbFirst (rdsSplice data shift) = List.replicate shift.toNat false ++
      (msbFirst data ++ List.replicate (32 - shift.toNat) false) := by
  have hwide : msbFirst (data.setWidth 64 <<< 32) = msbFirst data ++ List.replicate 32 false := by
    have hzeros := msbFirst_setWidth 32 data
    rw [msbFirst_shiftLeft _ (by decide), hzeros]
    rw [List.drop_append_of_le_length (by simp), List.drop_of_length_le (by simp), List.nil_append]
  have hlen : 64 - shift.toNat = (msbFirst data).length + (32 - shift.toNat) := by
    rw [length_msbFirst]
    omega
  rw [rdsSplice_eq data h, msbFirst_ushiftRight _ (by omega), hwide, hlen, List.take_length_add_append,
    List.take_replicate, Nat.min_eq_left (by omega)]

/-! ## One pass -/

/-- A pass follows the rule, takes its bits from the accumulator, and leaves the front end alone. -/
structure PassSpec (w : RadioWork) (v12 : U8) (r : Radio) : Prop where
  rule : (passOf w v12 r).Rule
  bits : (rdsPass false w v12 r).1.toNat + (passOf w v12 r).taken = v12.toNat
  count : (rdsPass false w v12 r).2.gap13_7 = (rdsPass false w v12 r).1
  accumulator : (rdsPass false w v12 r).2.gap14 = r.gap14 <<< (passOf w v12 r).taken
  cfgRadio : (rdsPass false w v12 r).2.cfgRadio = r.cfgRadio
  calls : (rdsPass false w v12 r).2.processCalls = r.processCalls + (passOf w v12 r).calls

section PassSpec

variable {v12 : U8} {r : Radio}

theorem rdsPass_eq (w : RadioWork) (v12 : U8) (r : Radio) : rdsPass false w v12 r =
    radioRdsPass v12 (windowTag r.window) (r.passByte.setWidth 32) r := by
  rw [← syndrome_crcSrc]
  rfl

/-- A pass over a block that is expected takes its 26 bits. -/
theorem passSpec_expected (w : RadioWork) (h26 : 26 ≤ v12.toNat) {x : RdsBlock}
    (htag : windowTag r.window = x.tag) (hstate : x.ExpectedIn r.staRdsCache0) : PassSpec w v12 r := by
  have hrun := rdsPass_eq w v12 r
  obtain ⟨r', hacc, hpass⟩ := radioRdsPass_expected x v12 (r.passByte.setWidth 32) r hstate
  rw [htag, hpass] at hrun
  have hsub : (v12 - 26).toNat = v12.toNat - 26 :=
    BitVec.toNat_sub_of_le (BitVec.le_def.mpr h26)
  have htaken : (passOf w v12 r).taken = 26 := by
    simp only [passOf, hrun, hsub]
    omega
  have hcalls : (passOf w v12 r).calls = if x = .d then 1 else 0 := by
    have hc : (rdsPass false w v12 r).2.processCalls = r.processCalls + if x = .d then 1 else 0 := by
      rw [hrun]
      exact hacc.calls
    simp only [passOf, hc]
    omega
  refine ⟨.took x htag hstate htaken ?_ hcalls, ?_, ?_, ?_, ?_, ?_⟩
  · have hafter : (passOf w v12 r).after = r'.staRdsCache0 := by simp only [passOf, hrun]
    rw [hafter]
    exact hacc.state
  · rw [htaken, hrun, hsub]
    omega
  · rw [hrun]
  · rw [htaken, hrun]
  · rw [hrun]
    exact hacc.cfgRadio
  · rw [hcalls, hrun]
    exact hacc.calls

/-- Any other pass drops one bit. -/
theorem passSpec_unexpected (w : RadioWork) (h26 : 26 ≤ v12.toNat)
    (hother : ∀ x : RdsBlock, windowTag r.window = x.tag → ¬ x.ExpectedIn r.staRdsCache0) :
    PassSpec w v12 r := by
  have hrun := rdsPass_eq w v12 r
  rw [radioRdsPass_unexpected v12 _ hother] at hrun
  have hsub : (v12 - 1).toNat = v12.toNat - 1 :=
    BitVec.toNat_sub_of_le (BitVec.le_def.mpr (Nat.le_trans (by decide) h26))
  have htaken : (passOf w v12 r).taken = 1 := by
    simp only [passOf, hrun, hsub]
    omega
  have hcalls : (passOf w v12 r).calls = 0 := by
    have hc : (rdsPass false w v12 r).2.processCalls = r.processCalls := by
      rw [hrun]
      rfl
    simp only [passOf, hc]
    omega
  refine ⟨.dropped hother htaken ?_ hcalls, ?_, ?_, ?_, ?_, ?_⟩
  · simp only [passOf, hrun]
  · rw [htaken, hrun, hsub]
    omega
  · rw [hrun]
  · rw [htaken, hrun]
    exact BitVec.mul_twoPow_eq_shiftLeft r.gap14 1
  · rw [hrun]
  · rw [hcalls, hrun]
    rfl

theorem passOf_spec (w : RadioWork) (hmore : ¬ v12 ≤ 0x19) : PassSpec w v12 r := by
  have h26 : 26 ≤ v12.toNat := by
    have hlt : ¬ v12.toNat ≤ 25 := fun h => hmore (BitVec.le_def.mpr h)
    omega
  by_cases hx : ∃ x : RdsBlock, windowTag r.window = x.tag ∧ x.ExpectedIn r.staRdsCache0
  · obtain ⟨x, htag, hstate⟩ := hx
    exact passSpec_expected w h26 htag hstate
  · exact passSpec_unexpected w h26 fun x htag hstate => hx ⟨x, htag, hstate⟩

end PassSpec

end Radio

/-! ## The invariant of the loop -/

/-- The places in a list with one more entry. -/
theorem split_concat {α : Type} {l pre post : List α} {q p : α} (h : l ++ [q] = pre ++ p :: post) :
    (pre = l ∧ p = q) ∨ ∃ post', l = pre ++ p :: post' := by
  rcases List.eq_nil_or_concat' post with rfl | ⟨post', z, rfl⟩
  · obtain ⟨hl, hq⟩ := List.append_inj' h rfl
    exact .inl ⟨hl.symm, (List.head_eq_of_cons_eq hq).symm⟩
  · have hassoc : l ++ [q] = (pre ++ p :: post') ++ [z] := by rw [h]; simp
    exact .inr ⟨post', (List.append_inj' hassoc rfl).1⟩

/-- In the loop, with `v12` bits pending: the accumulator holds the bits behind those that were taken,
    and the passes so far have followed the rules. -/
structure InStep (bits : List Bool) (passes : List Pass) (v12 : U8) (r : Radio) : Prop where
  small : v12.toNat ≤ 64
  count : r.gap13_7 = v12
  taken : Pass.total passes + v12.toNat = bits.length
  accumulator : msbFirst r.gap14 =
    bits.drop (Pass.total passes) ++ List.replicate (64 - v12.toNat) false
  windows : ∀ pre p post, passes = pre ++ p :: post →
    msbFirst p.window = (bits.drop (Pass.total pre)).take 26
  rules : ∀ p ∈ passes, p.Rule
  states : ∀ pre p post, passes = pre ++ p :: post →
    p.before = Pass.stateAfter pre ∨ p.before = 0
  now : r.staRdsCache0 = Pass.stateAfter passes ∨ r.staRdsCache0 = 0
  calls : r.processCalls = (passes.map Pass.calls).sum
  cust : r.cust24 = false

namespace InStep

variable {bits : List Bool} {passes : List Pass} {v12 : U8} {r : Radio}

theorem length_rest (h : InStep bits passes v12 r) :
    (bits.drop (Pass.total passes)).length = v12.toNat := by
  have htaken := h.taken
  rw [List.length_drop]
  omega

/-- A pass sees the next 26 bits of the stream. -/
theorem window (h : InStep bits passes v12 r) (h26 : 26 ≤ v12.toNat) :
    msbFirst r.window = (bits.drop (Pass.total passes)).take 26 := by
  have htop : msbFirst r.window = (msbFirst r.gap14).take 26 := msbFirst_top r.gap14 (by decide)
  rw [htop, h.accumulator, List.take_append_of_le_length (by rw [h.length_rest]; exact h26)]

/-- A pass keeps the invariant. -/
theorem pass (h : InStep bits passes v12 r) (w : RadioWork) (hmore : ¬ v12 ≤ 0x19) :
    InStep bits (passes ++ [r.passOf w v12]) (Radio.rdsPass false w v12 r).1
      (Radio.rdsPass false w v12 r).2 := by
  have h26 : 26 ≤ v12.toNat := by
    have hlt : ¬ v12.toNat ≤ 25 := fun hle => hmore (BitVec.le_def.mpr hle)
    omega
  obtain ⟨hrule, hbits, hcount, hacc, hcfg, hcalls⟩ := Radio.passOf_spec w hmore
  have hsmall := h.small
  have htaken := h.taken
  refine ⟨by omega, hcount, ?_, ?_, ?_, ?_, ?_, ?_, ?_, ?_⟩
  · rw [Pass.total_append, Pass.total_singleton]
    omega
  · have hk : (r.passOf w v12).taken ≤ v12.toNat := by omega
    have hdrop : (bits.drop (Pass.total passes) ++ List.replicate (64 - v12.toNat) false).drop
        (r.passOf w v12).taken = (bits.drop (Pass.total passes)).drop (r.passOf w v12).taken ++
          List.replicate (64 - v12.toNat) false :=
      List.drop_append_of_le_length (by rw [h.length_rest]; exact hk)
    have hzeros : 64 - (Radio.rdsPass false w v12 r).1.toNat =
        64 - v12.toNat + (r.passOf w v12).taken := by omega
    rw [hacc, msbFirst_shiftLeft _ (by omega), h.accumulator, hdrop, List.drop_drop, List.append_assoc,
      List.replicate_append_replicate, Pass.total_append, Pass.total_singleton, hzeros]
  · intro pre p post hsplit
    rcases split_concat hsplit with ⟨rfl, rfl⟩ | ⟨post', hold⟩
    · exact h.window h26
    · exact h.windows pre p post' hold
  · intro p hp
    rcases List.mem_append.mp hp with hold | hnew
    · exact h.rules p hold
    · rw [List.mem_singleton.mp hnew]
      exact hrule
  · intro pre p post hsplit
    rcases split_concat hsplit with ⟨rfl, rfl⟩ | ⟨post', hold⟩
    · exact h.now
    · exact h.states pre p post' hold
  · rw [Pass.stateAfter_concat]
    exact .inl rfl
  · rw [hcalls, h.calls]
    simp
  · have hcust := h.cust
    unfold Radio.cust24 at hcust ⊢
    rw [hcfg]
    exact hcust

/-- A word lengthens the stream. -/
theorem take (h : InStep bits passes v12 r) (hend : v12.toNat ≤ 25) (data : U32) :
    InStep (bits ++ msbFirst data) passes (v12 + 32) (r.rdsTake data) := by
  have hadd : (v12 + 32).toNat = v12.toNat + 32 := by
    have h32 : (32 : U8).toNat = 32 := rfl
    rw [BitVec.toNat_add, h32]
    exact Nat.mod_eq_of_lt (by omega)
  have htaken := h.taken
  refine ⟨by omega, ?_, ?_, ?_, ?_, h.rules, h.states, h.now, h.calls, h.cust⟩
  · show r.gap13_7 + 32 = v12 + 32
    rw [h.count]
  · rw [List.length_append, length_msbFirst, hadd]
    omega
  · have hsplice : msbFirst (Radio.rdsSplice data r.gap13_7) =
        List.replicate (bits.drop (Pass.total passes)).length false ++
          (msbFirst data ++ List.replicate (32 - v12.toNat) false) := by
      rw [h.length_rest, h.count]
      exact Radio.msbFirst_rdsSplice data (by omega)
    have hor : msbFirst (r.rdsTake data).gap14 = bits.drop (Pass.total passes) ++
        (msbFirst data ++ List.replicate (32 - v12.toNat) false) := msbFirst_or h.accumulator hsplice
    have hzeros : 64 - (v12.toNat + 32) = 32 - v12.toNat := by omega
    rw [hor, List.drop_append_of_le_length (by omega), hadd, hzeros, List.append_assoc]
  · -- the windows of earlier passes lie in the old bits
    intro pre p post hsplit
    have hwindow := h.windows pre p post hsplit
    have hlen : 26 ≤ (bits.drop (Pass.total pre)).length := by
      have hle := congrArg List.length hwindow
      rw [length_msbFirst, List.length_take] at hle
      omega
    have hpre : Pass.total pre ≤ bits.length := by
      rw [List.length_drop] at hlen
      omega
    rw [hwindow, List.drop_append_of_le_length hpre, List.take_append_of_le_length hlen]

/-- The rest of the driver leaves the stream alone. -/
theorem other (h : InStep bits passes r.gap13_7 r) {r' : Radio} (hcount : r'.gap13_7 = r.gap13_7)
    (hacc : r'.gap14 = r.gap14) (hstate : r'.staRdsCache0 = r.staRdsCache0 ∨ r'.staRdsCache0 = 0)
    (hcust : r'.cust24 = false) (hcalls : r'.processCalls = r.processCalls) :
    InStep bits passes r'.gap13_7 r' := by
  rw [hcount]
  refine ⟨h.small, hcount, h.taken, hacc ▸ h.accumulator, h.windows, h.rules, h.states, ?_,
    hcalls.trans h.calls, hcust⟩
  rcases hstate with hkept | hzero
  · rw [hkept]
    exact h.now
  · exact .inr hzero

/-- The loop ends with at most 25 pending bits. -/
theorem loop (w : RadioWork) (h : InStep bits passes v12 r) :
    (Radio.rdsLoop false w v12 r).gap13_7.toNat ≤ 25 ∧
      InStep bits (passes ++ Radio.rdsTrace w v12 r) (Radio.rdsLoop false w v12 r).gap13_7
        (Radio.rdsLoop false w v12 r) := by
  induction v12, r using Radio.rdsLoop.induct false w generalizing passes with
  | case1 v12 r hend =>
    rw [Radio.rdsLoop, dif_pos hend, Radio.rdsTrace, dif_pos hend, List.append_nil, h.count]
    exact ⟨BitVec.le_def.mp hend, h⟩
  | case2 v12 r hmore ih =>
    rw [Radio.rdsLoop, dif_neg hmore, Radio.rdsTrace, dif_neg hmore, List.append_cons]
    exact ih (h.pass w hmore)

end InStep

/-! ## The states and the windows before a call -/

namespace Pass

/-- A block that is expected in a state other than 0 comes right after the pass that led there. -/
theorem Rule.took_of_after {p : Pass} (h : p.Rule) (hne : p.after ≠ 0) :
    ∃ x : RdsBlock, p.Took x ∧ x.ExpectedIn p.before ∧ p.after = x.next := by
  cases h with
  | took x htag hstate htaken hafter _ =>
    rcases hafter with hnext | ⟨-, hzero⟩
    · exact ⟨x, ⟨htag, htaken⟩, hstate, hnext⟩
    · exact absurd hzero hne
  | dropped _ _ hafter _ => exact absurd hafter hne

theorem Rule.took_of_calls {p : Pass} (h : p.Rule) (hne : p.calls ≠ 0) :
    p.calls = 1 ∧ p.Took .d ∧ p.before = 3 := by
  cases h with
  | took x htag hstate htaken _ hcalls =>
    by_cases hx : x = .d
    · subst hx
      exact ⟨hcalls, ⟨htag, htaken⟩, hstate⟩
    · rw [if_neg hx] at hcalls
      exact absurd hcalls hne
  | dropped _ _ _ hcalls => exact absurd hcalls hne

end Pass

namespace InStep

variable {bits : List Bool} {passes : List Pass} {v12 : U8} {r : Radio}

/-- The pass before one that found the synchroniser in a state other than 0. -/
theorem previous (h : InStep bits passes v12 r) {pre : List Pass} {p : Pass} {post : List Pass}
    (hsplit : passes = pre ++ p :: post) (hne : p.before ≠ 0) :
    ∃ first q, ∃ x : RdsBlock, pre = first ++ [q] ∧ q.Took x ∧ x.ExpectedIn q.before ∧
      p.before = x.next := by
  rcases h.states pre p post hsplit with hafter | hzero
  · rcases List.eq_nil_or_concat' pre with rfl | ⟨first, q, rfl⟩
    · exact absurd hafter hne
    · rw [Pass.stateAfter_concat] at hafter
      have hq : q ∈ passes := by
        rw [hsplit]
        simp
      obtain ⟨x, htook, hstate, hnext⟩ := (h.rules q hq).took_of_after (hafter ▸ hne)
      exact ⟨first, q, x, rfl, htook, hstate, hafter.trans hnext⟩
  · exact absurd hzero hne

/-- A call of `rds_process` comes after the windows of the four blocks. -/
theorem group (h : InStep bits passes v12 r) {pre : List Pass} {p : Pass} {post : List Pass}
    (hsplit : passes = pre ++ p :: post) (hne : p.calls ≠ 0) :
    p.calls = 1 ∧ p.Took .d ∧ ∃ first pa pb pc, pre = first ++ [pa, pb, pc] ∧
      pa.Took .a ∧ pb.Took .b ∧ (pc.Took .c ∨ pc.Took .cAlt) := by
  have hp : p ∈ passes := by
    rw [hsplit]
    simp
  obtain ⟨hone, hd, h3⟩ := (h.rules p hp).took_of_calls hne
  -- state 3 comes from block C or C' in state 2
  obtain ⟨pre₂, pc, x, rfl, htook, hstate, hnext⟩ := h.previous hsplit (by rw [h3]; decide)
  have hc : (pc.Took .c ∨ pc.Took .cAlt) ∧ pc.before = 2 := by
    rw [h3] at hnext
    cases x with
    | a => cases hnext
    | b => cases hnext
    | c => exact ⟨.inl htook, hstate⟩
    | cAlt => exact ⟨.inr htook, hstate⟩
    | d => cases hnext
  have hsplit₂ : passes = pre₂ ++ pc :: (p :: post) := by rw [hsplit]; simp
  -- state 2 comes from block B in state 1
  obtain ⟨pre₁, pb, y, rfl, htook₂, hstate₂, hnext₂⟩ := h.previous hsplit₂ (by rw [hc.2]; decide)
  have hb : pb.Took .b ∧ pb.before = 1 := by
    rw [hc.2] at hnext₂
    cases y with
    | a => cases hnext₂
    | b => exact ⟨htook₂, hstate₂⟩
    | c => cases hnext₂
    | cAlt => cases hnext₂
    | d => cases hnext₂
  have hsplit₁ : passes = pre₁ ++ pb :: (pc :: p :: post) := by rw [hsplit₂]; simp
  -- state 1 comes from block A
  obtain ⟨first, pa, z, rfl, htook₁, hstate₁, hnext₁⟩ := h.previous hsplit₁ (by rw [hb.2]; decide)
  have ha : pa.Took .a := by
    rw [hb.2] at hnext₁
    cases z with
    | a => exact htook₁
    | b => cases hnext₁
    | c => cases hnext₁
    | cAlt => cases hnext₁
    | d => cases hnext₁
  exact ⟨hone, hd, first, pa, pb, pc, by simp, ha, hb.1, hc.1⟩

end InStep

namespace Stream

/-! ## Runs -/

theorem Reach.inStep {s : Stream} (h : Reach s) :
    s.radio.gap13_7.toNat ≤ 25 ∧ InStep s.bits s.passes s.radio.gap13_7 s.radio := by
  induction h with
  | start hcount hacc hstate hcust hcalls =>
    rename_i r
    show r.gap13_7.toNat ≤ 25 ∧ InStep [] [] r.gap13_7 r
    rw [hcount]
    refine ⟨by decide, by decide, hcount, rfl, ?_, ?_, ?_, ?_, .inr hstate, hcalls, hcust⟩
    · rw [hacc]
      exact msbFirst_eq_replicate.mpr rfl
    · intro pre p post hsplit
      exact absurd hsplit (by simp)
    · intro p hp
      exact absurd hp List.not_mem_nil
    · intro pre p post hsplit
      exact absurd hsplit (by simp)
  | word w hcmd hr ih =>
    rename_i s
    obtain ⟨hend, hstep⟩ := ih
    have hrun : s.radio.radioCmdWork w = s.radio.radioCmdWork1 w := by
      rw [Radio.radioCmdWork, hcmd]
      rfl
    by_cases hvalid : s.radio.staValid = 0
    · have hsame : s.deliver w = s := by
        rw [deliver, if_pos hvalid, if_pos hvalid, hrun, Radio.radioCmdWork1, if_pos hvalid]
      rw [hsame]
      exact ⟨hend, hstep⟩
    · have hdel : s.deliver w = ⟨Radio.rdsLoop false w (s.radio.gap13_7 + 32) (s.radio.rdsTake w.dword4),
          s.bits ++ msbFirst w.dword4,
          s.passes ++ Radio.rdsTrace w (s.radio.gap13_7 + 32) (s.radio.rdsTake w.dword4)⟩ := by
        have hcust := hstep.cust
        rw [deliver, if_neg hvalid, if_neg hvalid, hrun, Radio.radioCmdWork1, if_neg hvalid]
        dsimp only
        rw [if_neg (by rw [hcust]; decide)]
        rfl
      rw [hdel]
      exact (hstep.take hend w.dword4).loop w
  | other hr hcount hacc hstate hcust hcalls ih =>
    obtain ⟨hend, hstep⟩ := ih
    exact ⟨hcount ▸ hend, hstep.other hcount hacc hstate hcust hcalls⟩

/-- The synchroniser is in step with the stream after every work item. -/
theorem synchronised {s : Stream} (h : Reach s) : s.Synchronised := by
  obtain ⟨hend, hstep⟩ := h.inStep
  exact ⟨hend, hstep.taken, hstep.accumulator, hstep.windows, hstep.rules, hstep.states,
    fun pre p post => hstep.group, hstep.calls⟩

/-- `synchronised` after three words, the second and the third behind pending bits. -/
theorem synchronised_three_words :
    (((Stream.mk { (default : Radio) with staValid := 1 } [] []).deliver ⟨1, 0x12341A80, 0, 0⟩).deliver
      ⟨1, 0x56789ABC, 0, 0⟩ |>.deliver ⟨1, 0x0F1E2D3C, 0, 0⟩).Synchronised :=
  synchronised (.word ⟨1, 0x0F1E2D3C, 0, 0⟩ rfl (.word ⟨1, 0x56789ABC, 0, 0⟩ rfl
    (.word ⟨1, 0x12341A80, 0, 0⟩ rfl (.start rfl rfl rfl rfl rfl))))

end Stream

end MtcDrivers
