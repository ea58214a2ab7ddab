import MtcDrivers.Radio.Group
import MtcDrivers.Radio.Proofs.PassProofs

/-!
# The three ways of a group

A tagged word for front ends 2 and 4 runs exactly one pass, so block A brings the synchroniser to state 1.
The other two ways are back in state 0 after block A, from where no later block is taken.
-/

namespace MtcDrivers

open RdsBlock

namespace Radio

/-- A tagged word gets one pass with 26 bits. -/
theorem rdsLoop_tagged (w : RadioWork) (r : Radio) :
    rdsLoop true w 26 r = (rdsPass true w 26 r).2 := by
  rw [rdsLoop, dif_neg (by decide)]
  have hend : (rdsPass true w 26 r).1 ≤ 0x19 := by
    rcases rdsPass_fst true w 26 r with h | h <;> rw [h] <;> decide
  rw [rdsLoop, dif_pos hend]

theorem tagged_tag_zero (hi : U8) (word : U16) :
    (RdsGroup.tagged hi 0 word >>> 16) &&& 0xFF = 0 := by
  have hmask : ∀ i, (0xFF : U32).getLsbD i = decide (i < 8) := by
    intro i
    have hall : (0xFF : U32) = (BitVec.allOnes 8).setWidth 32 := by decide
    rw [hall, BitVec.getLsbD_setWidth, BitVec.getLsbD_allOnes]
    by_cases h8 : i < 8
    · have h32 : i < 32 := by omega
      rw [decide_eq_true h8, decide_eq_true h32]
      rfl
    · rw [decide_eq_false h8, Bool.and_false]
  have hzero : (0 : U32) <<< 16 = 0#32 := by decide
  refine BitVec.eq_of_getLsbD_eq fun i _ => ?_
  rw [BitVec.getLsbD_and, hmask]
  by_cases h8 : i < 8
  · have hhi : 16 + i < 24 := by omega
    have hword : (word.setWidth 32).getLsbD (16 + i) = false := by
      rw [BitVec.getLsbD_setWidth, BitVec.getLsbD_of_ge word (16 + i) (by omega), Bool.and_false]
    rw [BitVec.getLsbD_ushiftRight, RdsGroup.tagged, hzero, BitVec.or_zero, BitVec.getLsbD_or, hword,
      BitVec.getLsbD_shiftLeft, decide_eq_true hhi, Bool.not_true, Bool.and_false, Bool.false_and,
      Bool.or_false, Bool.false_and]
    exact BitVec.getLsbD_zero.symm
  · rw [decide_eq_false h8, Bool.and_false]
    exact BitVec.getLsbD_zero.symm

/-- Block A on the way of front ends 2 and 4. -/
theorem staRdsCache0_tagged_a (v1 : U32) (hi : U8) (word : U16) {r : Radio} (hvalid : r.staValid ≠ 0)
    (hcust : r.cust24 = true) :
    (r.radioCmdWork ⟨1, RdsGroup.tagged hi 0 word, 0, v1⟩).staRdsCache0 = 1 := by
  generalize hw : (⟨1, RdsGroup.tagged hi 0 word, 0, v1⟩ : RadioWork) = w
  generalize hs : ({ r.rdsTake w.dword4 with gap13_7 := 26 } : Radio) = s
  have hcmd : r.radioCmdWork w = r.radioCmdWork1 w := by rw [← hw]; rfl
  have htag : tagSyndrome w = tag .a := by
    rw [← hw, tagSyndrome]
    dsimp only
    rw [tagged_tag_zero]
    rfl
  have hrun : r.radioCmdWork1 w = (radioRdsPass 26 (tag .a) (w.dword4 &&& 0xFFFF) s).2 := by
    rw [radioCmdWork1, if_neg hvalid]
    dsimp only
    rw [if_pos hcust, hs, rdsLoop_tagged, ← htag]
    rfl
  obtain ⟨r', hacc, hpass⟩ := radioRdsPass_expected .a 26 (w.dword4 &&& 0xFFFF) s trivial
  rw [hcmd, hrun, hpass]
  rcases hacc.state with hnext | ⟨hb, -⟩
  · exact hnext
  · cases hb

/-- In state 0, case 2 takes no block but A, and forgets that at once. -/
theorem processCalls_radioCmdWork2 (w : RadioWork) {r : Radio} (hstate : r.staRdsCache0 = 0) :
    (r.radioCmdWork2 w).processCalls = r.processCalls := by
  have h1 : r.staRdsCache0 ≠ 1 := by rw [hstate]; decide
  have h2 : r.staRdsCache0 ≠ 2 := by rw [hstate]; decide
  have h3 : r.staRdsCache0 ≠ 3 := by rw [hstate]; decide
  unfold radioCmdWork2 case2Switch
  dsimp only
  rw [if_pos h1, if_pos h2, if_pos h3]
  split_ifs <;> rfl

/-- In state 0, case 3 stays there and takes no block but A. -/
theorem radioCmdWork3_zero (w : RadioWork) {r : Radio} (hstate : r.staRdsCache0 = 0) :
    (r.radioCmdWork3 w).staRdsCache0 = 0 ∧ (r.radioCmdWork3 w).processCalls = r.processCalls := by
  have h1 : r.staRdsCache0 ≠ 1 := by rw [hstate]; decide
  have h2 : r.staRdsCache0 ≠ 2 := by rw [hstate]; decide
  have h3 : r.staRdsCache0 ≠ 3 := by rw [hstate]; decide
  unfold radioCmdWork3
  dsimp only
  rw [if_pos h1, if_neg h2, if_neg h3]
  split_ifs <;> exact ⟨rfl, rfl⟩

/-- From state 0 on, the cases 2 and 3 never reach `rds_process`. -/
theorem afterAll_zero {ws : List RadioWork} (hws : ∀ w ∈ ws, w.cmd = 2 ∨ w.cmd = 3) {r : Radio}
    (hstate : r.staRdsCache0 = 0) :
    (afterAll ws r).staRdsCache0 = 0 ∧ (afterAll ws r).processCalls = r.processCalls := by
  induction ws generalizing r with
  | nil => exact ⟨hstate, rfl⟩
  | cons w ws ih =>
    have hstep : (r.radioCmdWork w).staRdsCache0 = 0 ∧
        (r.radioCmdWork w).processCalls = r.processCalls := by
      rcases hws w List.mem_cons_self with hcmd | hcmd
      · have hrun : r.radioCmdWork w = r.radioCmdWork2 w := by
          rw [radioCmdWork, hcmd]
          rfl
        rw [hrun]
        exact ⟨rfl, processCalls_radioCmdWork2 w hstate⟩
      · have hrun : r.radioCmdWork w = r.radioCmdWork3 w := by
          rw [radioCmdWork, hcmd]
          rfl
        rw [hrun]
        exact radioCmdWork3_zero w hstate
    obtain ⟨hzero, hcalls⟩ := ih (fun v hv => hws v (List.mem_cons_of_mem w hv)) hstep.1
    exact ⟨hzero, hcalls.trans hstep.2⟩

/-- After block A the tagged words of front ends 2 and 4 have the synchroniser in state 1, the words of
    `rds_input2` in state 0. -/
theorem sync2_ne (v1 : U32) (hi : U8) (g : RdsGroup) {r : Radio} (hvalid : r.staValid ≠ 0)
    (hrds : r.cfgRds ≠ 0) (hcust : r.cust24 = true) :
    (afterEach (g.viaInput v1 hi r) r).map staRdsCache0 ≠
      (afterEach (g.viaInput2 v1 r) r).map staRdsCache0 := by
  intro hagree
  have hsync := congrArg List.head? hagree
  have hfirst : ((afterEach (g.viaInput v1 hi r) r).map staRdsCache0).head? = some 1 := by
    rw [RdsGroup.viaInput, rdsInput, if_pos hrds]
    exact congrArg some (staRdsCache0_tagged_a v1 hi g.a hvalid hcust)
  have hsecond : ((afterEach (g.viaInput2 v1 r) r).map staRdsCache0).head? = some 0 := by
    rw [RdsGroup.viaInput2, rdsInput2, if_pos hrds]
    rfl
  rw [hfirst, hsecond] at hsync
  exact absurd hsync (by decide)

/-- The ways of a group never agree. -/
theorem not_pathsAgree (v1 : U32) (hi : U8) (g : RdsGroup) (r : Radio) (hvalid : r.staValid ≠ 0)
    (hrds : r.cfgRds ≠ 0) (hcust : r.cust24 = true) : ¬ r.PathsAgree v1 hi g := fun hagree =>
  sync2_ne v1 hi g hvalid hrds hcust hagree.sync2

/-- `not_pathsAgree` for a group 0A of a front end 2. -/
theorem not_pathsAgree_frontEnd2 :
    ¬ ({ (default : Radio) with staValid := 1, cfgRds := 1, cfgRadio := 2 } : Radio).PathsAgree 0 0
      ⟨0xD314, 0x0408, 0xE0CD, 0x4142⟩ :=
  not_pathsAgree 0 0 ⟨0xD314, 0x0408, 0xE0CD, 0x4142⟩
    { (default : Radio) with staValid := 1, cfgRds := 1, cfgRadio := 2 }
    (by decide) (by decide) (by decide)

/-- The same for a front end 4, and another group. -/
theorem not_pathsAgree_frontEnd4 :
    ¬ ({ (default : Radio) with staValid := 1, cfgRds := 1, cfgRadio := 4 } : Radio).PathsAgree 0 0
      ⟨0xD314, 0x0409, 0xE0CD, 0x4344⟩ := fun hagree =>
  sync2_ne 0 0 ⟨0xD314, 0x0409, 0xE0CD, 0x4344⟩ (by decide) (by decide) (by decide) hagree.sync2

end Radio

end MtcDrivers
