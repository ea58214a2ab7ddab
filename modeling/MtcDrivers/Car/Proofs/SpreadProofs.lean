import MtcDrivers.Car.Spread
import MtcDrivers.Search.Least
import MtcDrivers.Ioctl.Proofs.ConfigProofs

/-!
# When the spread of the steering table is right

`stw_range_check` reads the two bytes of a value in the other order than its setter and its getter. Its
loops are right: the minimum is that of the exchanged values.
-/

namespace MtcDrivers

open Search

/-- The pairs of places that the two loops compare. -/
def stwPairs : List (ℕ × ℕ) :=
  (List.range 24).flatMap fun i => (List.range' (3 + 3 * i) (24 - i) 3).map fun off => (3 * i, off)

theorem mem_stwPairs {p : ℕ × ℕ} : p ∈ stwPairs ↔ ∃ i j, i < j ∧ j < 25 ∧ p = (3 * i, 3 * j) := by
  unfold stwPairs
  simp only [List.mem_flatMap, List.mem_range, List.mem_map, List.mem_range']
  constructor
  · rintro ⟨i, hi, off, ⟨n, hn, rfl⟩, rfl⟩
    exact ⟨i, i + 1 + n, by omega, by omega, by rw [show 3 * (i + 1 + n) = 3 + 3 * i + 3 * n by omega]⟩
  · rintro ⟨i, j, hij, hj, rfl⟩
    exact ⟨i, by omega, 3 * j, ⟨j - i - 1, by omega, by omega⟩, rfl⟩

theorem stwDiff_eq (u v : ℕ) : stwDiff u v = ((u : ℤ) - v).natAbs := by
  unfold stwDiff
  split
  · omega
  · omega

theorem differences_eq_candidates (f : ℕ → ℕ) :
    differences f = candidates 50 (fun p : ℕ × ℕ => ((f (p.1 / 3) : ℤ) - f (p.2 / 3)).natAbs) stwPairs := by
  ext d
  constructor
  · rintro (rfl | ⟨i, j, hij, hj, rfl⟩)
    · exact .inl rfl
    · refine .inr ⟨(3 * i, 3 * j), mem_stwPairs.mpr ⟨i, j, hij, hj, rfl⟩, ?_⟩
      simp only [Nat.mul_div_cancel_left _ (Nat.succ_pos 2)]
  · rintro (rfl | ⟨p, hp, rfl⟩)
    · exact .inl rfl
    · obtain ⟨i, j, hij, hj, rfl⟩ := mem_stwPairs.mp hp
      refine .inr ⟨i, j, hij, hj, ?_⟩
      simp only [Nat.mul_div_cancel_left _ (Nat.succ_pos 2)]

theorem exists_least_difference (f : ℕ → ℕ) : ∃ m, IsLeast (differences f) m := by
  rw [differences_eq_candidates]
  exact ⟨_, isLeast_scan _ _ _⟩

/-- The loops find the smallest difference of the values that they read. -/
theorem stwMin_least (c : ConfigData) (base : ℕ) :
    IsLeast (differences fun k => c.u16At (base + 3 * k)) (stwMin c base) := by
  have hscan := isLeast_scan 50
    (fun p : ℕ × ℕ => stwDiff (c.u16At (base + p.1)) (c.u16At (base + p.2))) stwPairs
  have hloops : stwMin c base = stwPairs.foldl (fun m p =>
      if stwDiff (c.u16At (base + p.1)) (c.u16At (base + p.2)) ≤ m then
        stwDiff (c.u16At (base + p.1)) (c.u16At (base + p.2)) else m) 50 := by
    simp only [stwMin, stwPairs, List.foldl_flatMap, List.foldl_map]
  have hset : (differences fun k => c.u16At (base + 3 * k)) =
      candidates 50 (fun p : ℕ × ℕ => stwDiff (c.u16At (base + p.1)) (c.u16At (base + p.2))) stwPairs := by
    rw [differences_eq_candidates]
    ext d
    refine or_congr_right (exists_congr fun p => and_congr_right fun hp => ?_)
    obtain ⟨i, j, -, -, rfl⟩ := mem_stwPairs.mp hp
    dsimp only
    rw [stwDiff_eq, Nat.mul_div_cancel_left _ (Nat.succ_pos 2), Nat.mul_div_cancel_left _ (Nat.succ_pos 2)]
  rw [hloops, hset]
  exact hscan

/-- A bound on the smallest difference, below 50. -/
theorem least_lt_iff {f : ℕ → ℕ} {m t : ℕ} (h : IsLeast (differences f) m) (ht : t ≤ 50) :
    m < t ↔ SomeCloser f t := by
  constructor
  · intro hlt
    rcases h.1 with rfl | ⟨i, j, hij, hj, rfl⟩
    · omega
    · exact ⟨i, j, hij, hj, hlt⟩
  · rintro ⟨i, j, hij, hj, hlt⟩
    exact (h.2 (.inr ⟨i, j, hij, hj, rfl⟩)).trans_lt hlt

/-- Half of the smallest difference, as a byte, is the same for two tables exactly if this holds. -/
theorem half_eq_iff {f g : ℕ → ℕ} {m : ℕ} (hg : IsLeast (differences g) m) :
    (∃ m', IsLeast (differences f) m' ∧ BitVec.ofNat 8 (m >>> 1) = BitVec.ofNat 8 (m' / 2)) ↔
      ∀ k, 1 ≤ k → k ≤ 25 → (SomeCloser f (2 * k) ↔ SomeCloser g (2 * k)) := by
  have hm : m ≤ 50 := hg.2 (.inl rfl)
  constructor
  · rintro ⟨m', hf, heq⟩ k hk1 hk2
    have hm' : m' ≤ 50 := hf.2 (.inl rfl)
    have hhalf : m / 2 = m' / 2 := by
      have hnat := congrArg BitVec.toNat heq
      rw [Nat.shiftRight_eq_div_pow, BitVec.toNat_ofNat, BitVec.toNat_ofNat] at hnat
      omega
    rw [← least_lt_iff hf (by omega), ← least_lt_iff hg (by omega)]
    omega
  · intro h
    obtain ⟨m', hf⟩ := exists_least_difference f
    have hm' : m' ≤ 50 := hf.2 (.inl rfl)
    have hbound : ∀ k, 1 ≤ k → k ≤ 25 → (m' < 2 * k ↔ m < 2 * k) := by
      intro k hk1 hk2
      rw [least_lt_iff hf (by omega), least_lt_iff hg (by omega)]
      exact h k hk1 hk2
    refine ⟨m', hf, ?_⟩
    rw [Nat.shiftRight_eq_div_pow]
    congr 1
    rcases Nat.lt_trichotomy (m / 2) (m' / 2) with hlt | heq | hgt
    · have hk := hbound (m' / 2) (by omega) (by omega)
      omega
    · exact heq
    · have hk := hbound (m / 2) (by omega) (by omega)
      omega

/-! ## The stored table -/

section Stored

variable (xs : List U32) (past : U32) (c : ConfigData)

/-- What the check reads is the number with its two bytes exchanged. -/
theorem u16At_store {k : ℕ} (hk : k < 50) :
    (storeSteerAssign xs past c).u16At (329 + 3 * k) = swapped16 xs k := by
  obtain ⟨-, hhigh, hlow⟩ := bytes_storeSteerAssign xs past c hk
  rw [ConfigData.u16At, show 329 + 3 * k + 1 = 0x14A + 3 * k by omega,
    show 329 + 3 * k = 0x149 + 3 * k by omega, hhigh, hlow, joinBytes, swapped16]
  simp only [BitVec.toNat_setWidth, BitVec.toNat_ushiftRight, Nat.shiftRight_eq_div_pow]
  omega

theorem getter_lo16 {k : ℕ} (hk : k < 50) :
    steerAssignAt (storeSteerAssign xs past c) k % 2 ^ 16 = lo16 xs k := by
  rw [steerAssignAt_store xs past c hk, lo16]
  omega

theorem differences_congr {f g : ℕ → ℕ} (h : ∀ k < 25, f k = g k) : differences f = differences g := by
  ext d
  refine or_congr_right (exists_congr fun i => exists_congr fun j => and_congr_right fun hij =>
    and_congr_right fun hj => ?_)
  rw [h i (by omega), h j hj]

theorem least_first :
    IsLeast (differences (swapped16 xs)) (stwMin (storeSteerAssign xs past c) 329) := by
  have hread := stwMin_least (storeSteerAssign xs past c) 329
  rw [differences_congr fun k hk => u16At_store xs past c (by omega)] at hread
  exact hread

theorem least_second : IsLeast (differences fun k => swapped16 xs (25 + k))
    (stwMin (storeSteerAssign xs past c) 404) := by
  have hread := stwMin_least (storeSteerAssign xs past c) 404
  rw [differences_congr fun k hk => show _ = swapped16 xs (25 + k) by
    rw [show 404 + 3 * k = 329 + 3 * (25 + k) by omega]
    exact u16At_store xs past c (by omega)] at hread
  exact hread

theorem spreadRight_iff :
    SpreadRight xs (storeSteerAssign xs past c) ↔ ∀ k, 1 ≤ k → k ≤ 25 →
      (SomeCloser (lo16 xs) (2 * k) ↔ SomeCloser (swapped16 xs) (2 * k)) ∧
        (SomeCloser (fun i => lo16 xs (25 + i)) (2 * k) ↔
          SomeCloser (fun i => swapped16 xs (25 + i)) (2 * k)) := by
  have hfirst := half_eq_iff (f := lo16 xs) (least_first xs past c)
  have hsecond := half_eq_iff (f := fun i => lo16 xs (25 + i)) (least_second xs past c)
  constructor
  · intro h k hk1 hk2
    exact ⟨hfirst.mp h.first k hk1 hk2, hsecond.mp h.second k hk1 hk2⟩
  · intro h
    exact ⟨fun k hk => getter_lo16 xs past c hk, hfirst.mpr fun k hk1 hk2 => (h k hk1 hk2).1,
      hsecond.mpr fun k hk1 hk2 => (h k hk1 hk2).2⟩

end Stored

/-- After every accepted `cfg_steer_assign`, the minima are right exactly if in both halves the exchanged
    values come as near to each other as the values, for each even distance up to 50. -/
theorem stwRangeCheck_right_iff {past : U32} {token : Text} {c c' : ConfigData} {xs : List U32}
    (hset : ListKey.cfgSteerAssign.set past token c = some (xs, c')) :
    SpreadRight xs c' ↔ ∀ k, 1 ≤ k → k ≤ 25 →
      (SomeCloser (lo16 xs) (2 * k) ↔ SomeCloser (swapped16 xs) (2 * k)) ∧
        (SomeCloser (fun i => lo16 xs (25 + i)) (2 * k) ↔
          SomeCloser (fun i => swapped16 xs (25 + i)) (2 * k)) := by
  unfold ListKey.set at hset
  obtain ⟨r, -, hr⟩ := Option.map_eq_some_iff.mp hset
  obtain ⟨rfl, rfl⟩ := Prod.mk.inj hr
  exact spreadRight_iff r.1 past c

/-- A request with 50 numbers. -/
def steerRequest (vs : List ℕ) : Text := printInts [.d, .lit comma] [.d] vs []

theorem set_steerRequest {vs : List ℕ} (hlen : vs.length = 50) (hvs : ∀ v ∈ vs, v < 2 ^ 24) (past : U32)
    (c : ConfigData) :
    ListKey.cfgSteerAssign.set past (steerRequest vs) c =
      some (vs.map (BitVec.ofNat 32), storeSteerAssign (vs.map (BitVec.ofNat 32)) past c) := by
  have hread : readInts vs.length (steerRequest vs) = some (vs.map (BitVec.ofNat 32), []) :=
    readInts_printInts fun v hv => by
      have hlt := hvs v hv
      omega
  have hcount : ListKey.cfgSteerAssign.count = vs.length := hlen.symm
  rw [ListKey.set, hcount, hread]
  rfl

/-- The numbers `0,256,...,12544`. -/
def steps256 : List ℕ := (List.range 50).map (256 * ·)

theorem set_steps256 :
    ListKey.cfgSteerAssign.set 0 (steerRequest steps256) default =
      some (steps256.map (BitVec.ofNat 32), storeSteerAssign (steps256.map (BitVec.ofNat 32)) 0 default) := by
  refine set_steerRequest rfl ?_ 0 default
  intro v hv
  obtain ⟨k, hk, rfl⟩ := List.mem_map.mp hv
  have hlt := List.mem_range.mp hk
  omega

theorem stwRangeCheck_right_iff_steps256 :
    SpreadRight (steps256.map (BitVec.ofNat 32)) (storeSteerAssign (steps256.map (BitVec.ofNat 32)) 0 default) ↔
      ∀ k, 1 ≤ k → k ≤ 25 →
        (SomeCloser (lo16 (steps256.map (BitVec.ofNat 32))) (2 * k) ↔
          SomeCloser (swapped16 (steps256.map (BitVec.ofNat 32))) (2 * k)) ∧
        (SomeCloser (fun i => lo16 (steps256.map (BitVec.ofNat 32)) (25 + i)) (2 * k) ↔
          SomeCloser (fun i => swapped16 (steps256.map (BitVec.ofNat 32)) (25 + i)) (2 * k)) :=
  stwRangeCheck_right_iff set_steps256

theorem elem_steps256 {k : ℕ} (hk : k < 50) :
    (elem (steps256.map (BitVec.ofNat 32)) k).toNat = 256 * k := by
  simp [elem, steps256, List.getD_eq_getElem?_getD, hk]
  omega

/-- The numbers of the request are far from each other, the exchanged ones are neighbours. -/
theorem steps256_not_spreadRight :
    ListKey.cfgSteerAssign.set 0 (steerRequest steps256) default =
        some (steps256.map (BitVec.ofNat 32), storeSteerAssign (steps256.map (BitVec.ofNat 32)) 0 default) ∧
      ¬ SpreadRight (steps256.map (BitVec.ofNat 32))
        (storeSteerAssign (steps256.map (BitVec.ofNat 32)) 0 default) := by
  refine ⟨set_steps256, fun h => ?_⟩
  have hclose : SomeCloser (swapped16 (steps256.map (BitVec.ofNat 32))) (2 * 1) := by
    refine ⟨0, 1, by omega, by omega, ?_⟩
    rw [swapped16, swapped16, elem_steps256 (by omega), elem_steps256 (by omega)]
    decide
  obtain ⟨i, j, hij, hj, hlt⟩ :=
    ((spreadRight_iff _ 0 default).mp h 1 (by omega) (by omega)).1.mpr hclose
  rw [lo16, lo16, elem_steps256 (by omega), elem_steps256 (by omega)] at hlt
  omega

end MtcDrivers
