import MtcDrivers.Ioctl.Proofs.CanbusProofs
import MtcDrivers.Ioctl.Tokens

/-!
# Proofs: numbers one after the other

Every call leaves a suffix of the text that it found, a shorter one if it yields a number. A loop over the
numbers therefore ends, and the numbers of a joined list come back one by one.
-/

namespace MtcDrivers

open CanbusState

variable {s s' : CanbusState} {N : ℕ} {text : Text}

/-! ## One call -/

theorem length_tokenLoop_le (val : U32) (c : U8) (text : Text) :
    (tokenLoop val c text).2.length ≤ text.length := by
  induction text generalizing val c with
  | nil => exact Nat.le_refl _
  | cons next rest ih =>
    rw [tokenLoop]
    split_ifs with hcomma hdigit
    · exact Nat.le_succ _
    · exact Nat.le_succ_of_le (ih _ _)
    · exact Nat.le_refl _

theorem length_getTokenInt_le (text : Text) : (getTokenInt text).2.length ≤ text.length := by
  cases text with
  | nil => exact Nat.le_refl _
  | cons c rest =>
    rw [getTokenInt]
    split_ifs with hcomma hdigit
    · exact Nat.le_succ _
    · exact Nat.le_succ_of_le (length_tokenLoop_le 0 c rest)
    · exact Nat.le_refl _

/-- A number is behind at least one byte of the text. -/
theorem length_getTokenInt_lt (htaken : taken (getTokenInt text).1) :
    (getTokenInt text).2.length < text.length := by
  cases text with
  | nil => exact absurd htaken (by decide)
  | cons c rest =>
    rw [getTokenInt] at htaken ⊢
    split_ifs at htaken ⊢ with hcomma hdigit
    · exact Nat.lt_succ_self _
    · exact Nat.lt_succ_of_le (length_tokenLoop_le 0 c rest)
    · exact absurd (show taken (-1) = true from htaken) (by decide)

theorem standsAt_left (hmoved : ∀ p ∈ s.moved, p ≤ s.endPos) : StandsAt s.endPos s.left s :=
  ⟨rfl, rfl, hmoved⟩

/-- One call from a state in which the zero has not been passed. -/
theorem wp_getTokenIntAt_step (hmoved : ∀ p ∈ s.moved, p ≤ s.endPos) :
    getTokenIntAt.wp (TokenStep s) s := by
  refine Proc.wp_mono (wp_getTokenIntAt (standsAt_left hmoved)) ?_
  rintro v s1 ⟨rfl, hstands, honly⟩
  have hzero := hstands.zero
  have hle := length_getTokenInt_le s.left
  refine ⟨fun htaken => ?_, ?_, hstands.moved, honly.ioctlBuf1⟩
  · have hlt := length_getTokenInt_lt htaken
    simp only [endPos] at hzero
    omega
  · simp only [endPos] at hzero ⊢
    omega

/-! ## Loops over the numbers -/

/-- A loop whose passes end and leave the text alone comes to its end: each pass leaves less of the text. -/
theorem returns_parsingLoop {α β : Type} {use : β → U32 → Proc CanbusState (β ⊕ α)} {done : β → α}
    (huse : ∀ b v s, (use b v).wp (fun _ => SameText s) s) (b : β) (h : StandsAt N text s) :
    (Proc.iter (parsingPass use done) b).wp (fun _ _ => True) s := by
  refine Proc.wp_iter (fun _ s => ∃ text, StandsAt N text s) (fun _ s => s.left.length) ?_ ⟨text, h⟩
  rintro b s1 ⟨text1, h1⟩
  rw [parsingPass, Proc.wp_bind]
  refine Proc.wp_mono (wp_getTokenIntAt h1) ?_
  rintro v s2 ⟨rfl, h2, -⟩
  rw [Proc.wp_ite]
  refine ⟨fun htaken => ?_, fun _ => Proc.wp_pure.mpr trivial⟩
  refine Proc.wp_mono (huse b _ s2) fun x s3 hsame => ?_
  cases x with
  | inr a => trivial
  | inl b' =>
    have h3 : StandsAt N (getTokenInt text1).2 s3 := by
      refine ⟨?_, ?_, ?_⟩
      · rw [hsame.ioctlBuf1, hsame.tokenPos, h2.left]
      · rw [hsame.tokenPos, h2.zero]
      · rw [hsame.moved]
        exact h2.moved
    refine ⟨⟨_, h3⟩, ?_⟩
    rw [left, left, h3.left, h1.left]
    exact length_getTokenInt_lt htaken

/-! ## Several calls -/

theorem wp_tokenCalls (n : ℕ) (h : StandsAt N text s) :
    (tokenCalls n).wp (fun got s' => got = (tokenResults n text).1 ∧
      StandsAt N (tokenResults n text).2 s') s := by
  induction n generalizing text s with
  | zero => exact Proc.wp_pure.mpr ⟨rfl, h⟩
  | succ n ih =>
    rw [tokenCalls, Proc.wp_collect_succ]
    refine Proc.wp_mono (wp_getTokenIntAt h) ?_
    rintro v s1 ⟨rfl, h1, -⟩
    refine Proc.wp_mono (ih h1) ?_
    rintro vs s2 ⟨rfl, h2⟩
    exact ⟨rfl, h2⟩

theorem joinComma_singleton (v : ℕ) : joinComma [v] = decimal v := by
  simp [joinComma]

theorem joinComma_cons_cons (v v' : ℕ) (vs : List ℕ) :
    joinComma (v :: v' :: vs) = decimal v ++ comma :: joinComma (v' :: vs) := by
  simp [joinComma, List.intercalate_cons_cons]

/-- The calls on a joined list yield its numbers, and one more call a `-1`. -/
theorem tokenResults_joinComma {vs : List ℕ} (hne : vs ≠ []) :
    tokenResults (vs.length + 1) (joinComma vs) = (vs.map (BitVec.ofNat 32) ++ [-1], []) := by
  induction vs with
  | nil => exact absurd rfl hne
  | cons v vs ih =>
    cases vs with
    | nil =>
      rw [joinComma_singleton, List.length_singleton, tokenResults, getTokenInt_decimal]
      rfl
    | cons v' vs =>
      rw [joinComma_cons_cons, List.length_cons, tokenResults, getTokenInt_decimal_comma]
      dsimp only
      rw [ih (List.cons_ne_nil _ _)]
      rfl

theorem standsAt_standing (bytes : List U8) (pos : ℕ) (stack : ℕ → U8) :
    StandsAt (standing bytes pos stack).endPos (standing bytes pos stack).left (standing bytes pos stack) :=
  standsAt_left fun _ hp => absurd hp List.not_mem_nil

/-- A text between other bytes, with `token_pos` in front of it. -/
theorem standsAt_text (htext : ∀ c ∈ text, c ≠ 0) (before rest : List U8) (stack : ℕ → U8) :
    StandsAt (before.length + text.length) text
      (standing (before ++ text ++ 0 :: rest) before.length stack) where
  left := by
    have hdrop : (before ++ text ++ 0 :: rest).drop before.length = text ++ 0 :: rest := by simp
    rw [standing, hdrop, cString_append_zero]
    exact cString_eq_self htext
  zero := rfl
  moved _ hp := absurd hp List.not_mem_nil

theorem joinComma_ne_zero (vs : List ℕ) : ∀ c ∈ joinComma vs, c ≠ 0 := by
  induction vs with
  | nil => exact fun _ hc => absurd hc List.not_mem_nil
  | cons v vs ih =>
    cases vs with
    | nil =>
      rw [joinComma_singleton]
      exact decimal_ne_zero v
    | cons v' vs =>
      intro c hc
      rw [joinComma_cons_cons, List.mem_append, List.mem_cons] at hc
      rcases hc with hc | rfl | hc
      · exact decimal_ne_zero v c hc
      · decide
      · exact ih c hc

/-- Numbers below `2 ^ 31` are the integers that they are read as. -/
theorem toInt_results {vs : List ℕ} (hrange : ∀ v ∈ vs, v < 2 ^ 31) :
    (vs.map (BitVec.ofNat 32) ++ [-1]).map BitVec.toInt = vs.map Int.ofNat ++ [-1] := by
  have hmap : (vs.map (BitVec.ofNat 32)).map BitVec.toInt = vs.map Int.ofNat := by
    rw [List.map_map]
    refine List.map_congr_left fun v hv => ?_
    have hlt := hrange v hv
    rw [Function.comp_apply, BitVec.toInt_eq_toNat_of_lt (by rw [BitVec.toNat_ofNat]; omega),
      BitVec.toNat_ofNat, Nat.mod_eq_of_lt (by omega)]
    rfl
  rw [List.map_append, hmap]
  rfl

/-- A joined list is read back, with a `-1` and the zero of the text behind it; on any text a call goes on
behind a number and stops in front of the zero; and every loop over the numbers ends. -/
theorem get_token_int_reads :
    (∀ vs : List ℕ, vs ≠ [] → (∀ v ∈ vs, v < 2 ^ 31) → ∀ (before rest : List U8) (stack : ℕ → U8),
      (tokenCalls (vs.length + 1)).wp (fun got s' => got.map BitVec.toInt = vs.map Int.ofNat ++ [-1] ∧
          s'.tokenPos = before.length + (joinComma vs).length)
        (standing (before ++ joinComma vs ++ 0 :: rest) before.length stack)) ∧
    (∀ (bytes : List U8) (pos : ℕ) (stack : ℕ → U8),
      getTokenIntAt.wp (TokenStep (standing bytes pos stack)) (standing bytes pos stack)) ∧
    ∀ (α β : Type) (use : β → U32 → Proc CanbusState (β ⊕ α)) (done : β → α),
      (∀ b v s, (use b v).wp (fun _ => SameText s) s) → ∀ (b : β) (bytes : List U8) (pos : ℕ)
        (stack : ℕ → U8), (Proc.iter (parsingPass use done) b).Returns (standing bytes pos stack) := by
  refine ⟨fun vs hne hrange before rest stack => ?_, fun bytes pos stack => ?_, ?_⟩
  · have hstands := standsAt_text (joinComma_ne_zero vs) before rest stack
    refine Proc.wp_mono (wp_tokenCalls (vs.length + 1) hstands) ?_
    rintro got s1 ⟨rfl, h1⟩
    rw [tokenResults_joinComma hne] at h1 ⊢
    exact ⟨toInt_results hrange, h1.zero⟩
  · exact wp_getTokenIntAt_step fun _ hp => absurd hp List.not_mem_nil
  · intro α β use done huse b bytes pos stack
    obtain ⟨a, s1, hends, -⟩ := returns_parsingLoop huse b (standsAt_standing bytes pos stack)
    exact ⟨a, s1, hends⟩

/-- Two numbers in front of a zero, and a loop that only counts. -/
theorem get_token_int_reads_two :
    (tokenCalls 3).wp (fun got s' => got.map BitVec.toInt = [17, 3, -1] ∧ s'.tokenPos = 4)
        (standing (joinComma [17, 3] ++ [0]) 0 fun _ => 0) ∧
      (Proc.iter (parsingPass (fun n _ => return .inl (n + 1)) id) 0).Returns
        (standing (joinComma [17, 3] ++ [0]) 0 fun _ => 0) := by
  obtain ⟨hreads, -, hloops⟩ := get_token_int_reads
  refine ⟨?_, hloops ℕ ℕ _ _ (fun b v s => Proc.wp_pure.mpr ⟨rfl, rfl, rfl⟩) _ _ _ _⟩
  exact hreads [17, 3] (by decide) (by decide) [] [] fun _ => 0

end MtcDrivers
