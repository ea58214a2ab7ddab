import Mathlib.Tactic.NormNum
import MtcDrivers.Ioctl.Bound
import MtcDrivers.Ioctl.Proofs.AnswerProofs

/-!
# Proofs: what the list getters write

Started with an empty text, a getter has written just the bytes up to the final zero. So its writes are
inside the buffer if and only if its answer is shorter than the buffer, and the length of the answer is
bounded by the widths of its numbers.
-/

namespace MtcDrivers

/-! ## Printed numbers -/

/-- What a format of the list getters appends to a number. -/
inductive NumberFormat : Format → Prop where
  | plain : NumberFormat [.d]
  | comma : NumberFormat [.d, .lit comma]

namespace NumberFormat

variable {f : Format} {v : ℕ}

theorem length_print (h : NumberFormat f) :
    (decimal v).length ≤ (f.print v).length ∧ (f.print v).length ≤ (decimal v).length + 1 := by
  cases h with
  | plain => simp [Format.print]
  | comma => simp [Format.print]

theorem print_ne_zero (h : NumberFormat f) : ∀ b ∈ f.print v, b ≠ 0 := by
  intro b hb
  cases h with
  | plain =>
    rw [Format.print, List.flatMap_singleton] at hb
    exact decimal_ne_zero v b hb
  | comma =>
    simp only [Format.print, List.flatMap_cons, List.flatMap_nil, List.append_nil, List.mem_append,
      List.mem_singleton] at hb
    rcases hb with hb | rfl
    · exact decimal_ne_zero v b hb
    · decide

end NumberFormat

theorem one_le_length_decimal (v : ℕ) : 1 ≤ (decimal v).length :=
  List.length_pos_of_ne_nil (decimal_ne_nil v)

theorem length_decimal_le {v w : ℕ} (hw : 0 < w) (hv : v < 10 ^ w) : (decimal v).length ≤ w := by
  rw [decimal, List.length_map]
  exact (Nat.length_toDigits_le_iff (by decide) hw).mpr hv

/-! ## One `sprintf` -/

namespace StaBuf

variable {f each last : Format} {m : StaBuf}

theorem cString_sprintf (h : NumberFormat f) (v : ℕ) :
    cString (m.sprintf f v).bytes = cString m.bytes ++ f.print v := by
  rw [sprintf, strlen, AnswerBuf.cString_store_end, cString_eq_self h.print_ne_zero]

theorem strlen_sprintf (h : NumberFormat f) (v : ℕ) :
    (m.sprintf f v).strlen = m.strlen + (f.print v).length := by
  rw [strlen, cString_sprintf h, List.length_append, strlen]

/-- All of the text has been written, and nothing behind its final zero. -/
structure Fills (m : StaBuf) : Prop where
  text : ∀ i < m.strlen, i ∈ m.written
  upTo : ∀ i ∈ m.written, i ≤ m.strlen

theorem strlen_empty (rest : List U8) : (empty rest).strlen = 0 := rfl

theorem fills_empty (rest : List U8) : Fills (empty rest) where
  text i hi := absurd hi (Nat.not_lt_zero i)
  upTo _ hi := absurd hi List.not_mem_nil

theorem mem_written_sprintf (v : ℕ) {i : ℕ} :
    i ∈ (m.sprintf f v).written ↔
      i ∈ m.written ∨ m.strlen ≤ i ∧ i ≤ m.strlen + (f.print v).length := by
  rw [sprintf, List.mem_append, List.mem_range'_1, ← Nat.add_assoc, Nat.lt_add_one_iff]

theorem strlen_mem_written (h : NumberFormat f) (v : ℕ) :
    (m.sprintf f v).strlen ∈ (m.sprintf f v).written := by
  rw [mem_written_sprintf, strlen_sprintf h]
  exact Or.inr ⟨Nat.le_add_right _ _, Nat.le_refl _⟩

theorem Fills.sprintf (hm : Fills m) (h : NumberFormat f) (v : ℕ) : Fills (m.sprintf f v) where
  text i hi := by
    rw [strlen_sprintf h] at hi
    rw [mem_written_sprintf]
    rcases Nat.lt_or_ge i m.strlen with hlt | hge
    · exact Or.inl (hm.text i hlt)
    · exact Or.inr ⟨hge, Nat.le_of_lt hi⟩
  upTo i hi := by
    rw [strlen_sprintf h]
    rcases (mem_written_sprintf v).mp hi with hi | ⟨-, hi⟩
    · exact Nat.le_add_right_of_le (hm.upTo i hi)
    · exact hi

theorem Fills.inside_iff (hm : Fills m) (hend : m.strlen ∈ m.written) :
    m.Inside ↔ m.strlen < staBufSize := by
  constructor
  · intro h
    exact h m.strlen hend
  · intro h i hi
    exact Nat.lt_of_le_of_lt (hm.upTo i hi) h

/-! ## The loop -/

theorem sprintfInts_cons (v v' : ℕ) (vs : List ℕ) :
    m.sprintfInts each last (v :: v' :: vs) = (m.sprintf each v).sprintfInts each last (v' :: vs) := rfl

theorem sprintfInts_singleton (v : ℕ) : m.sprintfInts each last [v] = m.sprintf last v := rfl

theorem fills_sprintfInts (heach : NumberFormat each) (hlast : NumberFormat last) (v : ℕ) (vs : List ℕ)
    (hm : Fills m) :
    Fills (m.sprintfInts each last (v :: vs)) ∧
      (m.sprintfInts each last (v :: vs)).strlen ∈ (m.sprintfInts each last (v :: vs)).written := by
  induction vs generalizing v m with
  | nil => exact ⟨hm.sprintf hlast v, strlen_mem_written hlast v⟩
  | cons v' vs ih => exact ih v' (hm.sprintf heach v)

theorem inside_sprintfInts_iff (heach : NumberFormat each) (hlast : NumberFormat last) {vs : List ℕ}
    (hvs : vs ≠ []) (rest : List U8) :
    ((empty rest).sprintfInts each last vs).Inside ↔
      ((empty rest).sprintfInts each last vs).strlen < staBufSize := by
  obtain ⟨v, vs, rfl⟩ := List.exists_cons_of_ne_nil hvs
  obtain ⟨hfills, hend⟩ := fills_sprintfInts heach hlast v vs (fills_empty rest)
  exact hfills.inside_iff hend

/-- The text behind the loop is that of `printInts`. -/
theorem cString_sprintfInts (heach : NumberFormat each) (hlast : NumberFormat last) (vs : List ℕ) :
    cString (m.sprintfInts each last vs).bytes = printInts each last vs (cString m.bytes) := by
  induction vs generalizing m with
  | nil => rfl
  | cons v vs ih =>
    cases vs with
    | nil => exact cString_sprintf hlast v
    | cons v' vs => rw [sprintfInts_cons, ih, cString_sprintf heach, printInts_cons]

/-! ## The length of an answer -/

/-- Every number takes one byte at least. -/
theorem le_strlen_sprintfInts (heach : NumberFormat each) (hlast : NumberFormat last) (vs : List ℕ) :
    m.strlen + vs.length ≤ (m.sprintfInts each last vs).strlen := by
  induction vs generalizing m with
  | nil => exact Nat.le_refl _
  | cons v vs ih =>
    have hv := one_le_length_decimal v
    cases vs with
    | nil =>
      have hprint := hlast.length_print (v := v)
      rw [sprintfInts_singleton, strlen_sprintf hlast, List.length_singleton]
      omega
    | cons v' vs =>
      have hrest := ih (m := m.sprintf each v)
      have hprint := heach.length_print (v := v)
      rw [strlen_sprintf heach] at hrest
      rw [sprintfInts_cons, List.length_cons]
      omega

/-- Numbers of up to `w` digits take up to `w + 1` bytes each. -/
theorem strlen_sprintfInts_le (heach : NumberFormat each) (hlast : NumberFormat last) {w : ℕ}
    {vs : List ℕ} (hvs : ∀ v ∈ vs, (decimal v).length ≤ w) :
    (m.sprintfInts each last vs).strlen ≤ m.strlen + (w + 1) * vs.length := by
  induction vs generalizing m with
  | nil => exact Nat.le_refl _
  | cons v vs ih =>
    have hv := hvs v List.mem_cons_self
    cases vs with
    | nil =>
      have hprint := hlast.length_print (v := v)
      rw [sprintfInts_singleton, strlen_sprintf hlast, List.length_singleton]
      omega
    | cons v' vs =>
      have hrest := ih (m := m.sprintf each v) fun v hv => hvs v (List.mem_cons_of_mem _ hv)
      have hprint := heach.length_print (v := v)
      rw [strlen_sprintf heach] at hrest
      rw [sprintfInts_cons, List.length_cons, Nat.mul_succ]
      omega

end StaBuf

/-! ## The numbers of the lists -/

theorem irAssignAt_lt (c : ConfigData) (i : ℕ) : irAssignAt c i < 2 ^ 16 := by
  rw [irAssignAt, joinBytes]
  have hhi := (c.byte (0xD0 + 2 * i)).isLt
  have hlo := (c.byte (0xD1 + 2 * i)).isLt
  omega

/-- Three bytes, as `cfg_key_assign` and `cfg_steer_assign` join them. -/
theorem joinThree_lt (b₁ b₂ b₃ : U8) :
    b₃.toNat ||| ((b₂.toNat ||| (b₁.toNat <<< 8)) <<< 8) < 2 ^ 24 := by
  rw [joinBytes, joinBytes]
  have h₁ := b₁.isLt
  have h₂ := b₂.isLt
  have h₃ := b₃.isLt
  omega

namespace ListGetter

theorem each_format (g : ListGetter) (separated : Bool) : NumberFormat (g.each separated) := by
  cases separated with
  | false => cases g <;> exact .plain
  | true => cases g <;> exact .comma

theorem last_format (g : ListGetter) : NumberFormat g.last := by
  cases g <;> exact .plain

theorem numbers_ne_nil (g : ListGetter) (c : ConfigData) : g.numbers c ≠ [] := by
  cases g <;> simp [numbers]

/-- The getter is the one of the get half. -/
theorem run_prints (g : ListGetter) (c : ConfigData) (m : StaBuf) :
    ∃ print, lists.lookup g.key = some print ∧
      cString (g.run false c m).bytes = print c (cString m.bytes) := by
  have hrun := fun g : ListGetter =>
    StaBuf.cString_sprintfInts (m := m) (g.each_format false) g.last_format (g.numbers c)
  cases g with
  | cfgKeyAssign => exact ⟨getKeyAssign, rfl, hrun .cfgKeyAssign⟩
  | cfgIrAssign => exact ⟨getIrAssign, rfl, hrun .cfgIrAssign⟩
  | cfgSteerAssign => exact ⟨getSteerAssign, rfl, hrun .cfgSteerAssign⟩
  | cfgConfig => exact ⟨getConfig, rfl, hrun .cfgConfig⟩

variable (separated : Bool) (c : ConfigData) (rest : List U8)

theorem inside_run_iff (g : ListGetter) :
    (g.run separated c (.empty rest)).Inside ↔
      (g.run separated c (.empty rest)).strlen < staBufSize :=
  StaBuf.inside_sprintfInts_iff (g.each_format separated) g.last_format (g.numbers_ne_nil c) rest

/-- A list of `n` numbers below `10 ^ w` fits if `n` times `w + 1` bytes do. -/
theorem inside_of_widths {g : ListGetter} {n w : ℕ} {f : ℕ → ℕ}
    (hnumbers : g.numbers c = (List.range n).map f) (hw : 0 < w) (hf : ∀ k, f k < 10 ^ w)
    (hfit : (w + 1) * n < staBufSize) : (g.run separated c (.empty rest)).Inside := by
  have hwidth : ∀ v ∈ g.numbers c, (decimal v).length ≤ w := by
    rw [hnumbers]
    intro v hv
    obtain ⟨k, -, rfl⟩ := List.mem_map.mp hv
    exact length_decimal_le hw (hf k)
  have hlength := StaBuf.strlen_sprintfInts_le (m := .empty rest) (g.each_format separated)
    g.last_format hwidth
  rw [StaBuf.strlen_empty, Nat.zero_add, hnumbers, List.length_map, List.length_range] at hlength
  rw [inside_run_iff, run, hnumbers]
  exact Nat.lt_of_le_of_lt hlength hfit

/-- 512 numbers leave no room for the final zero. -/
theorem cfgConfig_not_inside : ¬(cfgConfig.run separated c (.empty rest)).Inside := by
  rw [inside_run_iff, Nat.not_lt]
  have hlength := StaBuf.le_strlen_sprintfInts (m := .empty rest) (cfgConfig.each_format separated)
    cfgConfig.last_format (cfgConfig.numbers c)
  have hcount : (cfgConfig.numbers c).length = 512 := by simp [numbers]
  rw [StaBuf.strlen_empty, hcount] at hlength
  exact hlength

/-- Of the four list getters, those of `cfg_key_assign`, `cfg_ir_assign` and `cfg_steer_assign` write
inside the answer buffer for every configuration, and that of `cfg_config` for none. -/
theorem writes_inside_iff (g : ListGetter) :
    (g.run separated c (.empty rest)).Inside ↔ g ≠ cfgConfig := by
  constructor
  · rintro h rfl
    exact cfgConfig_not_inside separated c rest h
  · intro hg
    cases g with
    | cfgKeyAssign =>
      have hnumber : ∀ k, keyAssignAt c k < 10 ^ 8 := fun k =>
        Nat.lt_trans (joinThree_lt _ _ _) (by norm_num)
      exact inside_of_widths separated c rest rfl (Nat.succ_pos 7) hnumber (by decide)
    | cfgIrAssign =>
      have hnumber : ∀ k, irAssignAt c k < 10 ^ 5 := fun k =>
        Nat.lt_trans (irAssignAt_lt c k) (by norm_num)
      exact inside_of_widths separated c rest rfl (Nat.succ_pos 4) hnumber (by decide)
    | cfgSteerAssign =>
      have hnumber : ∀ k, steerAssignAt c k < 10 ^ 8 := fun k =>
        Nat.lt_trans (joinThree_lt _ _ _) (by norm_num)
      exact inside_of_widths separated c rest rfl (Nat.succ_pos 7) hnumber (by decide)
    | cfgConfig => exact absurd rfl hg

/-- `cfg_config` for a configuration of zeros. -/
theorem writes_inside_fails :
    ¬∀ (g : ListGetter) (separated : Bool) (c : ConfigData) (rest : List U8),
      (g.run separated c (.empty rest)).Inside :=
  fun h => cfgConfig_not_inside false default [] (h cfgConfig false default [])

end ListGetter

end MtcDrivers
