import MtcDrivers.Ioctl.Config
import MtcDrivers.Ioctl.Proofs.TextProofs

/-!
# Proofs: configuration lists

What the get code finds where the set code has stored: the bytes of `cfg_config`, but the neighbours of
the numbers of `cfg_ir_assign`, and a mixture of two numbers for `cfg_steer_assign`. None of the three
answers has a separator, so that no list is read back.
-/

namespace MtcDrivers

open ConfigData

/-! ## Stored bytes -/

/-- A loop whose passes store one record each, apart from the records before, has stored them all. -/
theorem foldl_range_stores {σ : Type} {store : σ → ℕ → σ} {P : ℕ → σ → Prop} {n : ℕ}
    (hstore : ∀ k < n, ∀ c, P k (store c k))
    (hkeep : ∀ k < n, ∀ i < k, ∀ c, P i c → P i (store c k)) {i : ℕ} (hi : i < n) (c : σ) :
    P i ((List.range n).foldl store c) := by
  induction n with
  | zero => exact absurd hi (Nat.not_lt_zero i)
  | succ n ih =>
    rw [List.range_succ, List.foldl_append, List.foldl_cons, List.foldl_nil]
    rcases Nat.lt_succ_iff_lt_or_eq.mp hi with hlt | rfl
    · refine hkeep n (Nat.lt_succ_self n) i hlt _ ?_
      exact ih (fun k hk => hstore k (by omega)) (fun k hk => hkeep k (by omega)) hlt
    · exact hstore i hi _

/-- `cfg_config` stores and reads the same bytes. -/
theorem byte_storeConfig (xs : List U32) (c : ConfigData) {i : ℕ} (hi : i < 512) :
    (storeConfig xs c).byte i = (elem xs i).setWidth 8 := by
  unfold storeConfig
  refine foldl_range_stores (P := fun i c => c.byte i = (elem xs i).setWidth 8) ?_ ?_ hi c
  · intro k hk c
    exact byte_put_self _ hk _
  · intro k _ i hi c hstored
    rw [byte_put_ne _ (by omega)]
    exact hstored

/-- `cfg_ir_assign` stores number `i` at offset `206 + 2 * i`. -/
theorem bytes_storeIrAssign (xs : List U32) (c : ConfigData) {i : ℕ} (hi : i < 60) :
    (storeIrAssign xs c).byte (206 + 2 * i) = ((elem xs i).setWidth 16 >>> 8).setWidth 8 ∧
      (storeIrAssign xs c).byte (207 + 2 * i) = (elem xs i).setWidth 8 := by
  refine foldl_range_stores (P := fun i c =>
    c.byte (206 + 2 * i) = ((elem xs i).setWidth 16 >>> 8).setWidth 8 ∧
      c.byte (207 + 2 * i) = (elem xs i).setWidth 8) ?_ ?_ hi c
  · intro k hk c
    simp (disch := omega) only [byte_put_self, byte_put_ne, and_self]
  · intro k _ i hi c hstored
    simp (disch := omega) only [byte_put_ne]
    exact hstored

/-- `cfg_steer_assign` stores entry `k` at offset `328 + 3 * k`. -/
theorem bytes_storeSteerAssign (xs : List U32) (past : U32) (c : ConfigData) {k : ℕ} (hk : k < 50) :
    (storeSteerAssign xs past c).byte (0x148 + 3 * k) =
        (if k + 1 < 50 then elem xs (k + 1) else past).setWidth 8 ∧
      (storeSteerAssign xs past c).byte (0x149 + 3 * k) = (elem xs k >>> 8).setWidth 8 ∧
      (storeSteerAssign xs past c).byte (0x14A + 3 * k) = (elem xs k).setWidth 8 := by
  refine foldl_range_stores (P := fun k c =>
    c.byte (0x148 + 3 * k) = (if k + 1 < 50 then elem xs (k + 1) else past).setWidth 8 ∧
      c.byte (0x149 + 3 * k) = (elem xs k >>> 8).setWidth 8 ∧
      c.byte (0x14A + 3 * k) = (elem xs k).setWidth 8) ?_ ?_ hk c
  · intro k hk c
    simp (disch := omega) only [byte_put_self, byte_put_ne, and_self]
  · intro k _ i hi c hstored
    simp (disch := omega) only [byte_put_ne]
    exact hstored

/-! ## Numbers that are read -/

theorem joinBytes (hi : ℕ) (lo : U8) : lo.toNat ||| hi <<< 8 = hi * 256 + lo.toNat := by
  rw [Nat.or_comm, ← Nat.shiftLeft_add_eq_or_of_lt lo.isLt, Nat.shiftLeft_eq]

/-- The get code of `cfg_ir_assign` starts two bytes further: it finds the next number. -/
theorem irAssignAt_store (xs : List U32) (c : ConfigData) {i : ℕ} (hi : i + 1 < 60) :
    irAssignAt (storeIrAssign xs c) i = (elem xs (i + 1)).toNat % 2 ^ 16 := by
  obtain ⟨hhi, hlo⟩ := bytes_storeIrAssign xs c hi
  rw [irAssignAt, show 0xD1 + 2 * i = 207 + 2 * (i + 1) by omega,
    show 0xD0 + 2 * i = 206 + 2 * (i + 1) by omega, hhi, hlo, joinBytes]
  simp only [BitVec.toNat_setWidth, BitVec.toNat_ushiftRight, Nat.shiftRight_eq_div_pow]
  omega

/-- The get code of `cfg_steer_assign` finds the low half of a number below the low byte of the next
one. -/
theorem steerAssignAt_store (xs : List U32) (past : U32) (c : ConfigData) {k : ℕ} (hk : k < 50) :
    steerAssignAt (storeSteerAssign xs past c) k =
      (if k + 1 < 50 then elem xs (k + 1) else past).toNat % 2 ^ 8 * 2 ^ 16 +
        (elem xs k).toNat % 2 ^ 16 := by
  obtain ⟨hfst, hsnd, hthd⟩ := bytes_storeSteerAssign xs past c hk
  rw [steerAssignAt, show 3 * k + 330 = 0x14A + 3 * k by omega,
    show 3 * k + 329 = 0x149 + 3 * k by omega, show 3 * k + 328 = 0x148 + 3 * k by omega, hfst, hsnd,
    hthd, joinBytes, joinBytes]
  simp only [BitVec.toNat_setWidth, BitVec.toNat_ushiftRight, Nat.shiftRight_eq_div_pow]
  omega

/-! ## Answers -/

namespace ListKey

/-- The answers are digits throughout. -/
theorem answer_digits (k : ListKey) (c : ConfigData) : ∀ b ∈ k.answer c [], isDigit b = true := by
  cases k <;> exact printInts_digits _ (by simp)

theorem readInts_answer (k : ListKey) (c : ConfigData) : readInts k.count (k.answer c []) = none := by
  have hcount : k.count = (k.count - 2) + 2 := by cases k <;> rfl
  rw [hcount]
  exact readInts_digits (k.answer_digits c) _

/-- Every accepted list of numbers in range is read back from the answer. -/
def RoundTrips (k : ListKey) : Prop :=
  ∀ past token c xs c', k.set past token c = some (xs, c') → (∀ x ∈ xs, x.toNat < k.bound) →
    k.ReadsBack xs c'

/-- No list is ever read back from the answer for its key, whatever was stored. -/
theorem list_never_reads_back (k : ListKey) (past : U32) (xs : List U32) (c : ConfigData) :
    ¬ k.ReadsBack xs (k.store xs past c) := by
  rintro ⟨rest, h⟩
  rw [k.readInts_answer] at h
  exact Option.some_ne_none _ h.symm

/-- The sixty numbers `0,1,...,59`, set for `cfg_ir_assign`. -/
theorem cfg_ir_assign_not_read_back : ¬ ∀ k, RoundTrips k := by
  intro h
  let vs := List.range 60
  have hread : readInts vs.length (printInts [.d, .lit comma] [.d] vs []) =
      some (vs.map (BitVec.ofNat 32), []) := readInts_printInts fun v hv => by
    have hlt := List.mem_range.mp hv
    omega
  have hset : cfgIrAssign.set 0 (printInts [.d, .lit comma] [.d] vs []) default =
      some (vs.map (BitVec.ofNat 32), storeIrAssign (vs.map (BitVec.ofNat 32)) default) := by
    have hcount : cfgIrAssign.count = vs.length := (List.length_range).symm
    rw [set, hcount, hread]
    rfl
  obtain ⟨rest, hback⟩ := h cfgIrAssign _ _ _ _ _ hset fun x hx => by
    obtain ⟨v, hv, rfl⟩ := List.mem_map.mp hx
    have hlt := List.mem_range.mp hv
    simp [bound]
    omega
  rw [readInts_answer] at hback
  exact Option.some_ne_none _ hback.symm

end ListKey

end MtcDrivers
