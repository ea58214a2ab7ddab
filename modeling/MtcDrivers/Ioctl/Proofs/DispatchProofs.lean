import Mathlib.Tactic.ByContra
import MtcDrivers.Bits.ShiftRegister
import MtcDrivers.Ioctl.Dispatch
import MtcDrivers.Ioctl.Proofs.TextProofs

/-!
# Proofs: dispatch of requests

The read flag is a bit above the largest number that passes the length check, so that the get half is
never entered: it stands behind a test that only numbers without the flag reach.
-/

namespace MtcDrivers

theorem splitAtLast_isSome {c : U8} {t : Text} : (splitAtLast c t).isSome ↔ c ∈ t := by
  unfold splitAtLast
  split <;> simp [*]

theorem splitAtLast_append {c : U8} {before behind : Text} (hbehind : c ∉ behind) :
    splitAtLast c (before ++ c :: behind) = some (before, behind) := by
  have hne : ∀ b ∈ behind.reverse, decide (b ≠ c) = true := by
    intro b hb
    refine decide_eq_true ?_
    rintro rfl
    exact hbehind (List.mem_reverse.mp hb)
  have hrev : (before ++ c :: behind).reverse = behind.reverse ++ c :: before.reverse := by simp
  rw [splitAtLast, if_pos (by simp), hrev, List.takeWhile_append_of_pos hne,
    List.dropWhile_append_of_pos hne]
  simp

/-- A number with the flag is too long. -/
theorem ReadFlag.long {cmd : U32} (h : ReadFlag cmd) : cmd ≥ 3072 := by
  have hbit : cmd.getLsbD 16 = true := by
    rw [← ShiftRegister.testBit_mask (m := 0x10000) (by omega) rfl, if_neg h]
  rw [ge_iff_le, BitVec.le_def]
  have hge := Nat.ge_two_pow_of_testBit hbit
  show 3072 ≤ cmd.toNat
  omega

/-! ## The ways of a request -/

section Ways

variable {h : Handlers} {cmd : U32} {user : List U8}

theorem carIoctl_long (h119 : cmd ≠ 119) (hfw : cmd ≠ 0xFE010000) (hcfg : cmd ≠ 0xFD020000)
    (hdata : cmd ≠ 0xFC030000) (hlong : cmd ≥ 3072) : carIoctl h cmd user = ([.tooLong], -1) := by
  rw [carIoctl, if_neg h119, if_neg hfw, if_neg hcfg, if_neg hdata, if_pos hlong]

/-- Only numbers without the flag get past the length check, and they all enter the set half. -/
theorem carIoctl_short (h119 : cmd ≠ 119) (hshort : cmd < 3072) :
    carIoctl h cmd user =
      (splitAtLast equalSign (cString (user.take cmd.toNat))).elim ([.noKey], -1)
        fun r => ioctlSet h r.1 r.2 := by
  have hlt : cmd.toNat < 3072 := BitVec.lt_def.mp hshort
  have hne : ∀ n : U32, 3072 ≤ n.toNat → cmd ≠ n := by
    rintro n hn rfl
    omega
  have hflag : ¬ ReadFlag cmd := fun hf => absurd hf.long (BitVec.not_le.mpr hshort)
  rw [carIoctl, if_neg h119, if_neg (hne _ (by decide)), if_neg (hne _ (by decide)),
    if_neg (hne _ (by decide)), if_neg (BitVec.not_le.mpr hshort)]
  cases splitAtLast equalSign (cString (user.take cmd.toNat)) with
  | none => rfl
  | some r => exact if_pos (not_not.mp hflag)

/-- The text `key=value`, with its length as the request number, reaches the set half as it is. -/
theorem carIoctl_request (h : Handlers) {key value : Text} (hkey : ∀ b ∈ key, b ≠ 0)
    (hvalue : ∀ b ∈ value, b ≠ 0) (hequal : equalSign ∉ value)
    (hcmd : cmd.toNat = (key ++ equalSign :: value).length) (hshort : cmd < 3072) (h119 : cmd ≠ 119) :
    carIoctl h cmd (key ++ equalSign :: value) = ioctlSet h key value := by
  have hzero : ∀ b ∈ key ++ equalSign :: value, b ≠ 0 := by
    intro b hb
    rcases List.mem_append.mp hb with hb | hb
    · exact hkey b hb
    · rcases List.mem_cons.mp hb with rfl | hb
      · decide
      · exact hvalue b hb
  rw [carIoctl_short h119 hshort, hcmd, List.take_length, cString_eq_self hzero,
    splitAtLast_append hequal]
  rfl

/-- Whatever the request, the get half is not entered. -/
theorem carIoctl_not_get (key value : Text) : .getHalf key value ∉ (carIoctl h cmd user).1 := by
  by_cases hshort : cmd < 3072
  · by_cases h119 : cmd = 119
    · simp [carIoctl, h119]
    · rw [carIoctl_short h119 hshort]
      cases splitAtLast equalSign (cString (user.take cmd.toNat)) with
      | none => simp
      | some r => simp [ioctlSet]
  · have hlong : cmd ≥ 3072 := BitVec.not_lt.mp hshort
    simp only [carIoctl, if_pos hlong]
    repeat' split
    all_goals simp

end Ways

/-- A request is dispatched as its number asks for if and only if it is one of the kinds of
`DispatchFits`. -/
theorem ioctl_dispatched_iff (h : Handlers) (cmd : U32) (user : List U8) :
    Dispatched h cmd user ↔ DispatchFits cmd user := by
  unfold DispatchFits
  by_cases hf : ReadFlag cmd
  · rw [if_pos hf]
    constructor
    · intro hd
      refine ⟨?_, fun hnames => ?_⟩
      · by_contra hno
        obtain ⟨hfw, hdata⟩ := not_or.mp hno
        have h119 : cmd ≠ 119 := by
          rintro rfl
          exact absurd hf (by decide)
        have hcfg : cmd ≠ 0xFD020000 := by
          rintro rfl
          exact absurd hf (by decide)
        have hrun : carIoctl h cmd user = ([.tooLong], -1) :=
          carIoctl_long h119 hfw hcfg hdata hf.long
        exact hd.notTooLong hf (by simp [hrun])
      · obtain ⟨key, value, answer, hrun⟩ := hd.get hf hnames
        have hmem : .getHalf key value ∈ (carIoctl h cmd user).1 := by simp [hrun]
        exact carIoctl_not_get key value hmem
    · rintro ⟨hspecial, hno⟩
      refine ⟨fun _ hnames => absurd hnames hno, fun hnf => absurd hf hnf, fun _ => ?_⟩
      rcases hspecial with rfl | rfl <;> simp [carIoctl]
  · rw [if_neg hf]
    constructor
    · intro hd hshort
      obtain ⟨key, value, hrun⟩ := hd.set hf hshort
      have h119 : cmd ≠ 119 := by
        rintro rfl
        simp [carIoctl] at hrun
      refine ⟨h119, splitAtLast_isSome.mp ?_⟩
      rw [carIoctl_short h119 hshort] at hrun
      cases hsplit : splitAtLast equalSign (cString (user.take cmd.toNat)) with
      | none => simp [hsplit] at hrun
      | some r => rfl
    · intro hfits
      refine ⟨fun hf' => absurd hf' hf, fun _ hshort => ?_, fun hf' => absurd hf' hf⟩
      obtain ⟨h119, hmem⟩ := hfits hshort
      obtain ⟨r, hsplit⟩ := Option.isSome_iff_exists.mp (splitAtLast_isSome.mpr hmem)
      rw [carIoctl_short h119 hshort, hsplit]
      exact ⟨r.1, r.2, rfl⟩

/-- Request number `0x10008` with the text `sta_dvd=`: it is rejected as too long. -/
theorem sta_dvd_request_too_long : ¬ ∀ h cmd user, Dispatched h cmd user := by
  intro h
  have hd := h ⟨fun _ _ => 0, fun _ _ => some [], []⟩ 0x10008 (ascii "sta_dvd=")
  exact hd.notTooLong (by decide) (by decide)

end MtcDrivers
