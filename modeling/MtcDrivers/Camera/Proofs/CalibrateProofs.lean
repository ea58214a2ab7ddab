import Mathlib.Tactic.Ring
import MtcDrivers.Camera.Calibrate

/-!
# Proofs: the calibration

A search keeps the earliest position with the least distance, since each level is read while the position
register holds the position that the search counts. At a timeout the decoder stays in the calibration mode.
-/

namespace MtcDrivers

namespace Camera

open Search

/-! ## The wait for register 192 -/

theorem headD_getD (rs : List U8) : rs.headD 0 = rs.getD 0 0 := by
  cases rs <;> rfl

theorem getD_tail (rs : List U8) (i : ℕ) : rs.tail.getD i 0 = rs.getD (i + 1) 0 := by
  cases rs with
  | nil => simp
  | cons r rs => simp

theorem uvSync_some {rs : List U8} {n k : ℕ} (hk : k < n) (hwait : ∀ i < k, rs.getD i 0 ≠ 227)
    (hsync : rs.getD k 0 = 227) : uvSync n rs = some (rs.drop (k + 1)) := by
  induction n generalizing rs k with
  | zero => omega
  | succ n ih =>
    cases k with
    | zero =>
      rw [uvSync, headD_getD, if_pos hsync, List.drop_one]
    | succ k =>
      have hhead : rs.headD 0 ≠ 227 := by
        rw [headD_getD]
        exact hwait 0 (Nat.succ_pos k)
      have htail : ∀ i < k, rs.tail.getD i 0 ≠ 227 := by
        intro i hi
        rw [getD_tail]
        exact hwait (i + 1) (by omega)
      rw [uvSync, if_neg hhead, ih (by omega) htail (by rw [getD_tail]; exact hsync), List.drop_tail]

theorem uvSync_none {rs : List U8} {n : ℕ} (hwait : ∀ i < n, rs.getD i 0 ≠ 227) : uvSync n rs = none := by
  induction n generalizing rs with
  | zero => rfl
  | succ n ih =>
    have hhead : rs.headD 0 ≠ 227 := by
      rw [headD_getD]
      exact hwait 0 (Nat.succ_pos n)
    rw [uvSync, if_neg hhead]
    apply ih
    intro i hi
    rw [getD_tail]
    exact hwait (i + 1) (by omega)

/-- The bytes after a wait. -/
theorem drop_reading (rs : List U8) (k : ℕ) :
    (rs.drop (k + 1)).headD 0 = rs.getD (k + 1) 0 ∧
      (rs.drop (k + 1)).tail.headD 0 = rs.getD (k + 2) 0 ∧
      (rs.drop (k + 1)).tail.tail = rs.drop (k + 3) := by
  refine ⟨?_, ?_, ?_⟩
  · rw [headD_getD]
    simp [List.getD_eq_getElem?_getD]
  · rw [headD_getD, getD_tail]
    simp [List.getD_eq_getElem?_getD]
  · simp [List.tail_drop]

/-- Every sequence of readings goes through `n` waits, or one of them times out. -/
theorem uvReads_or_timeout (n : ℕ) (rs : List U8) :
    (∃ levels rest, UvReads rs levels rest ∧ levels.length = n) ∨
      ∃ levels rest, UvReads rs levels rest ∧ levels.length < n ∧ ∀ i < 24, rest.getD i 0 ≠ 227 := by
  induction n generalizing rs with
  | zero => exact .inl ⟨[], rs, .done rs, rfl⟩
  | succ n ih =>
    by_cases hready : ∃ k, k < 24 ∧ rs.getD k 0 = 227
    · obtain ⟨hk, hsync⟩ := Nat.find_spec hready
      have hwait : ∀ i < Nat.find hready, rs.getD i 0 ≠ 227 := by
        intro i hi h
        exact Nat.find_min hready hi ⟨by omega, h⟩
      rcases ih (rs.drop (Nat.find hready + 3)) with ⟨levels, rest, h, hlen⟩ | ⟨levels, rest, h, hlen, htimeout⟩
      · exact .inl ⟨_, rest, .step _ hk hwait hsync h, by rw [List.length_cons, hlen]⟩
      · exact .inr ⟨_, rest, .step _ hk hwait hsync h, by rw [List.length_cons]; omega, htimeout⟩
    · exact .inr ⟨[], rs, .done rs, Nat.succ_pos n, fun i hi h => hready ⟨i, hi, h⟩⟩

/-! ## One search -/

section Scan

variable {rs rest : List U8} {levels : List (U8 × U8)} {s : Camera}

/-- One round of a search whose wait succeeds. -/
theorem uvScan_succ (reg : U8) (n pos best final : ℕ) {k : ℕ} (hk : k < 24)
    (hwait : ∀ i < k, rs.getD i 0 ≠ 227) (hsync : rs.getD k 0 = 227) (s : Camera) :
    let value := uvLevel (rs.getD (k + 1) 0, rs.getD (k + 2) 0)
    let s' := s.emit (.i2cWrite 64 reg (BitVec.ofNat 8 (pos + 4)))
    uvScan reg (n + 1) pos best final rs s =
      uvScan reg n (pos + 4) (if uvDistance value < uvDistance best then value else best)
        (if uvDistance value < uvDistance best then pos else final)
        (rs.drop (k + 3)) (if n = 0 then s' else s'.uvTrigger) := by
  obtain ⟨hlo, hhi, hdrop⟩ := drop_reading rs k
  simp only [uvScan, uvSync_some hk hwait hsync, hlo, hhi, hdrop, uvLevel]
  rfl

/-- What a search has found after the first `i` positions. -/
def Found (f : ℕ → ℕ) (i best final : ℕ) : Prop :=
  i = 0 ∧ uvDistance best = 30719 ∨
    ∃ k, IsEarliestMin f i k ∧ uvDistance best = f k ∧ final = 96 + 4 * k

theorem Found.step {f : ℕ → ℕ} {i best final value : ℕ} (h : Found f i best final)
    (hvalue : uvDistance value = f i) (hf : f i < 30719) :
    Found f (i + 1) (if uvDistance value < uvDistance best then value else best)
      (if uvDistance value < uvDistance best then 96 + 4 * i else final) := by
  right
  rcases h with ⟨rfl, hbest⟩ | ⟨k, hk, hbest, hfinal⟩
  · have hlt : uvDistance value < uvDistance best := by omega
    rw [if_pos hlt, if_pos hlt]
    exact ⟨0, isEarliestMin_one f, hvalue, rfl⟩
  · by_cases hlt : uvDistance value < uvDistance best
    · rw [if_pos hlt, if_pos hlt]
      exact ⟨i, hk.take (by omega), hvalue, rfl⟩
    · rw [if_neg hlt, if_neg hlt]
      exact ⟨k, hk.keep (by omega), hbest, hfinal⟩

/-- A search goes over its levels, and what it has found grows with them. -/
theorem uvScan_found (reg : U8) {f : ℕ → ℕ} (h : UvReads rs levels rest) (hf : ∀ i, f i < 30719) :
    ∀ {i best final : ℕ}, (∀ j, (hj : j < levels.length) → uvDistance (uvLevel levels[j]) = f (i + j)) →
      Found f i best final → ∀ s : Camera,
        ∃ best' final', Found f (i + levels.length) best' final' ∧
          (uvScan reg levels.length (96 + 4 * i) best final rs s).1 = some (final', rest) := by
  induction h with
  | done rs =>
    intro i best final _ hfound s
    exact ⟨best, final, hfound, rfl⟩
  | @step rs levels rest k hk hwait hsync hrest ih =>
    intro i best final hlevels hfound s
    have hvalue := hlevels 0 (Nat.succ_pos _)
    simp only [List.getElem_cons_zero, Nat.add_zero] at hvalue
    have htail : ∀ j, (hj : j < levels.length) → uvDistance (uvLevel levels[j]) = f (i + 1 + j) := by
      intro j hj
      have hnext := hlevels (j + 1) (by simpa using hj)
      rw [List.getElem_cons_succ] at hnext
      rw [hnext]
      congr 1
      omega
    have hpos : 96 + 4 * i + 4 = 96 + 4 * (i + 1) := by ring
    rw [List.length_cons, uvScan_succ reg _ _ _ _ hk hwait hsync, hpos]
    have hlen : i + (levels.length + 1) = i + 1 + levels.length := by omega
    rw [hlen]
    exact ih htail (hfound.step hvalue (hf i)) _

end Scan

/-! ## The transfers of a search -/

theorem posted_append (ops ops' : List BusOp) (s : Camera) :
    posted (ops ++ ops') s = posted ops' (posted ops s) := by
  simp [posted, List.filterMap_append]

theorem posted_write (dev reg dat : U8) (ops : List BusOp) (s : Camera) :
    posted (.write dev reg dat :: ops) s = posted ops (s.emit (.i2cWrite dev reg dat)) := by
  simp [posted, emit, BusOp.event]

theorem posted_read (dev reg dat : U8) (ops : List BusOp) (s : Camera) :
    posted (.read dev reg dat :: ops) s = posted ops s := rfl

theorem posted_nil (s : Camera) : posted [] s = s := rfl

theorem posted_triggerBus (s : Camera) : posted triggerBus s = s.uvTrigger := rfl

theorem posted_syncBus (n : ℕ) (rs : List U8) (s : Camera) : posted (syncBus n rs) s = s := by
  induction n generalizing rs with
  | zero => rfl
  | succ n ih =>
    rw [syncBus, posted_read]
    split
    · rfl
    · exact ih rs.tail

/-- What a search does to the decoder is its transfers. -/
theorem posted_scanBus (reg level : U8) (n pos best final : ℕ) (rs : List U8) (s : Camera) :
    (uvScan reg n pos best final rs s).2 = posted (scanBus reg level n pos rs) s := by
  induction n generalizing pos best final rs s with
  | zero => rfl
  | succ n ih =>
    rw [scanBus, posted_append, posted_syncBus]
    cases hsync : uvSync 24 rs with
    | none => simp only [uvScan, hsync, posted_nil]
    | some rs' =>
      simp only [uvScan, hsync, posted_append, posted_read, posted_write, posted_nil]
      rw [ih]
      by_cases hn : n = 0
      · rw [if_pos hn, if_pos hn, posted_nil]
      · rw [if_neg hn, if_neg hn, posted_triggerBus]

theorem scanRest_reads {rs rest : List U8} {levels : List (U8 × U8)} (h : UvReads rs levels rest) :
    scanRest levels.length rs = some rest := by
  induction h with
  | done rs => rfl
  | @step rs levels rest k hk hwait hsync hrest ih =>
    rw [List.length_cons, scanRest, uvSync_some hk hwait hsync, Option.bind_some, (drop_reading rs k).2.2]
    exact ih

/-! ## The position at each reading -/

/-- The transfer neither moves the position register nor reads the level. -/
def Passes (posReg level : U8) : BusOp → Prop
  | .write dev reg _ => ¬ (dev = 64 ∧ reg = posReg)
  | .read dev reg _ => ¬ (dev = 66 ∧ (reg = level ∨ reg = level + 1))

theorem sampled_passes {posReg level : U8} {ops : List BusOp} (h : ∀ op ∈ ops, Passes posReg level op)
    (pos : U8) (ops' : List BusOp) :
    sampled posReg level pos (ops ++ ops') = sampled posReg level pos ops' := by
  induction ops with
  | nil => rfl
  | cons op ops ih =>
    have hop := h op List.mem_cons_self
    have hops := ih (fun op hmem => h op (List.mem_cons_of_mem _ hmem))
    cases op with
    | write dev reg dat =>
      rw [List.cons_append, sampled, if_neg hop]
      exact hops
    | read dev reg dat =>
      rw [List.cons_append, sampled, if_neg hop]
      exact hops

theorem mem_syncBus {n : ℕ} {rs : List U8} {op : BusOp} (h : op ∈ syncBus n rs) :
    ∃ dat, op = .read 66 192 dat := by
  induction n generalizing rs with
  | zero => cases h
  | succ n ih =>
    rw [syncBus] at h
    rcases List.mem_cons.mp h with rfl | h
    · exact ⟨_, rfl⟩
    · split at h
      · cases h
      · exact ih h

theorem mem_triggerBus {op : BusOp} (h : op ∈ triggerBus) : ∃ dat, op = .write 66 192 dat := by
  rcases List.mem_cons.mp h with rfl | h
  · exact ⟨224, rfl⟩
  · exact ⟨225, List.mem_singleton.mp h⟩

/-- What a search transfers. -/
theorem mem_scanBus {reg level : U8} {n pos : ℕ} {rs : List U8} {op : BusOp}
    (h : op ∈ scanBus reg level n pos rs) :
    (∃ dat, op = .read 66 192 dat) ∨ (∃ dat, op = .write 66 192 dat) ∨ (∃ dat, op = .read 66 level dat) ∨
      (∃ dat, op = .read 66 (level + 1) dat) ∨ ∃ dat, op = .write 64 reg dat := by
  induction n generalizing pos rs with
  | zero => cases h
  | succ n ih =>
    rw [scanBus] at h
    rcases List.mem_append.mp h with h | h
    · exact .inl (mem_syncBus h)
    · split at h
      · cases h
      · rcases List.mem_append.mp h with h | h
        · rcases List.mem_append.mp h with h | h
          · simp only [List.mem_cons, List.not_mem_nil, or_false] at h
            rcases h with rfl | rfl | rfl
            · exact .inr (.inr (.inl ⟨_, rfl⟩))
            · exact .inr (.inr (.inr (.inl ⟨_, rfl⟩)))
            · exact .inr (.inr (.inr (.inr ⟨_, rfl⟩)))
          · split at h
            · cases h
            · exact .inr (.inl (mem_triggerBus h))
        · exact ih h

theorem passes_sync {posReg level : U8} (hlevel : level ≠ 192 ∧ level + 1 ≠ 192) (dat : U8) :
    Passes posReg level (.read 66 192 dat) := by
  rintro ⟨-, h | h⟩
  · exact hlevel.1 h.symm
  · exact hlevel.2 h.symm

theorem passes_trigger (posReg level dat : U8) : Passes posReg level (.write 66 192 dat) := by
  rintro ⟨h, -⟩
  exact absurd h (by decide)

/-- A search reads each level while the position register holds its position. -/
theorem sampled_scanBus (reg : U8) {level : U8} (hlevel : level ≠ 192 ∧ level + 1 ≠ 192) {rs rest : List U8}
    {levels : List (U8 × U8)} (h : UvReads rs levels rest) (ops : List BusOp) :
    ∀ pos : ℕ, sampled reg level (BitVec.ofNat 8 pos) (scanBus reg level levels.length pos rs ++ ops) =
      atPositions level pos levels ++
        sampled reg level (BitVec.ofNat 8 (pos + 4 * levels.length)) ops := by
  induction h with
  | done rs =>
    intro pos
    rfl
  | @step rs levels rest k hk hwait hsync hrest ih =>
    intro pos
    have hwaits : ∀ op ∈ syncBus 24 rs, Passes reg level op := by
      intro op hop
      obtain ⟨dat, rfl⟩ := mem_syncBus hop
      exact passes_sync hlevel dat
    have htrigger : ∀ op ∈ (if levels.length = 0 then [] else triggerBus), Passes reg level op := by
      intro op hop
      split at hop
      · cases hop
      · obtain ⟨dat, rfl⟩ := mem_triggerBus hop
        exact passes_trigger reg level dat
    obtain ⟨hlo, hhi, hdrop⟩ := drop_reading rs k
    have hpos : pos + 4 * (levels.length + 1) = pos + 4 + 4 * levels.length := by ring
    simp only [List.length_cons, scanBus, uvSync_some hk hwait hsync, hlo, hhi, hdrop, List.append_assoc]
    rw [sampled_passes hwaits]
    simp only [List.cons_append, List.nil_append, sampled, true_and, true_or, or_true, if_true, atPositions]
    rw [sampled_passes htrigger, ih, hpos]

theorem passes_scanBus {posReg level reg level' : U8} (hlevel : level ≠ 192 ∧ level + 1 ≠ 192)
    (hreg : reg ≠ posReg) (hlo : level' ≠ level ∧ level' ≠ level + 1)
    (hhi : level' + 1 ≠ level ∧ level' + 1 ≠ level + 1) {n pos : ℕ} {rs : List U8} :
    ∀ op ∈ scanBus reg level' n pos rs, Passes posReg level op := by
  intro op hop
  rcases mem_scanBus hop with ⟨dat, rfl⟩ | ⟨dat, rfl⟩ | ⟨dat, rfl⟩ | ⟨dat, rfl⟩ | ⟨dat, rfl⟩
  · exact passes_sync hlevel dat
  · exact passes_trigger posReg level dat
  · rintro ⟨-, h | h⟩
    · exact hlo.1 h
    · exact hlo.2 h
  · rintro ⟨-, h | h⟩
    · exact hhi.1 h
    · exact hhi.2 h
  · rintro ⟨-, h⟩
    exact hreg h

theorem passes_triggerBus (posReg level : U8) : ∀ op ∈ triggerBus, Passes posReg level op := by
  intro op hop
  obtain ⟨dat, rfl⟩ := mem_triggerBus hop
  exact passes_trigger posReg level dat

/-! ## The calibration -/

section Calibrate

variable {rs mid rest : List U8} {us vs : List (U8 × U8)}

theorem searchBus_reads (hu : UvReads rs us mid) (hlu : us.length = 12) :
    searchBus rs = enterBus ++ (triggerBus ++ (scanBus 12 198 us.length 96 rs ++
      (triggerBus ++ scanBus 10 200 12 96 mid))) := by
  have hmid : scanRest 12 rs = some mid := by
    rw [← hlu]
    exact scanRest_reads hu
  simp only [searchBus, hmid, hlu, List.append_assoc]

/-- The first search reads the levels of u at the positions of register 64/12. -/
theorem sampled_u (hu : UvReads rs us mid) (hlu : us.length = 12) :
    sampled 12 198 0 (searchBus rs) = atPositions 198 96 us := by
  have hlevel : (198 : U8) ≠ 192 ∧ (198 : U8) + 1 ≠ 192 := ⟨by decide, by decide⟩
  have henter : ∀ ops, sampled 12 198 0 (enterBus ++ ops) = sampled 12 198 96 ops := fun ops => rfl
  have hv : ∀ op ∈ scanBus 10 200 12 96 mid, Passes 12 198 op :=
    passes_scanBus hlevel (by decide) ⟨by decide, by decide⟩ ⟨by decide, by decide⟩
  rw [searchBus_reads hu hlu, henter, sampled_passes (passes_triggerBus 12 198)]
  have hscan := sampled_scanBus 12 hlevel hu (triggerBus ++ scanBus 10 200 12 96 mid) 96
  rw [show (96 : U8) = BitVec.ofNat 8 96 from rfl, hscan, sampled_passes (passes_triggerBus 12 198),
    ← List.append_nil (scanBus _ _ _ _ _), sampled_passes hv]
  exact List.append_nil _

/-- The second search reads the levels of v at the positions of register 64/10. -/
theorem sampled_v (hu : UvReads rs us mid) (hlu : us.length = 12) (hv : UvReads mid vs rest)
    (hlv : vs.length = 12) : sampled 10 200 0 (searchBus rs) = atPositions 200 96 vs := by
  have hlevel : (200 : U8) ≠ 192 ∧ (200 : U8) + 1 ≠ 192 := ⟨by decide, by decide⟩
  have henter : ∀ ops, sampled 10 200 0 (enterBus ++ ops) = sampled 10 200 96 ops := fun ops => rfl
  have hpass : ∀ op ∈ scanBus 12 198 us.length 96 rs, Passes 10 200 op :=
    passes_scanBus hlevel (by decide) ⟨by decide, by decide⟩ ⟨by decide, by decide⟩
  have hscan := sampled_scanBus 10 hlevel hv [] 96
  rw [List.append_nil, hlv] at hscan
  rw [searchBus_reads hu hlu, henter, sampled_passes (passes_triggerBus 10 200), sampled_passes hpass,
    sampled_passes (passes_triggerBus 10 200), show (96 : U8) = BitVec.ofNat 8 96 from rfl, hscan]
  exact List.append_nil _

theorem levelDistance_lt {levels : List (U8 × U8)} (h : ∀ p ∈ levels, uvDistance (uvLevel p) < 30719)
    (i : ℕ) : levelDistance levels i < 30719 := by
  unfold levelDistance
  rw [List.getD_eq_getElem?_getD]
  cases hi : levels[i]? with
  | none => decide
  | some p => exact h p (List.mem_of_getElem? hi)

/-- A whole search finds the earliest position with the least distance. -/
theorem uvScan_earliest (reg : U8) (hu : UvReads rs us mid) (hlu : us.length = 12)
    (hdist : ∀ p ∈ us, uvDistance (uvLevel p) < 30719) (s : Camera) :
    ∃ k, IsEarliestMin (levelDistance us) 12 k ∧
      (uvScan reg 12 96 0x7FFF 0 rs s).1 = some (96 + 4 * k, mid) := by
  have hlevels : ∀ j, (hj : j < us.length) → uvDistance (uvLevel us[j]) = levelDistance us (0 + j) := by
    intro j hj
    rw [levelDistance, Nat.zero_add, List.getD_eq_getElem?_getD, List.getElem?_eq_getElem hj]
    rfl
  have hstart : Found (levelDistance us) 0 0x7FFF 0 := .inl ⟨rfl, rfl⟩
  obtain ⟨best, final, hfound, hscan⟩ := uvScan_found reg hu (levelDistance_lt hdist) hlevels hstart s
  rw [hlu] at hscan hfound
  rcases hfound with ⟨h, -⟩ | ⟨k, hk, -, rfl⟩
  · exact absurd h (by decide)
  · exact ⟨k, hk, hscan⟩

theorem posted_enterBus (s : Camera) :
    ([(64, 38, 132), (66, 202, 3), (66, 203, 0), (66, 204, 240), (66, 206, 16), (64, 10, 96),
      (64, 12, 96), (64, 6, 0)] : List (U8 × U8 × U8)).foldl
        (fun s w => s.emit (.i2cWrite w.1 w.2.1 w.2.2)) s = posted enterBus s := by
  simp only [List.foldl_cons, List.foldl_nil, enterBus, posted_write, posted_nil]

theorem captureWork_calibrates {s : Camera} (hs : s.Calibrates) (io : CaptureInput) :
    s.captureWork 50 0 io = s.uvCalibrate io.uv := by
  have hmode : ¬ (s.videoMode ≠ 2 ∨ s.reserved19 ≠ 0 ∨ s.decoderState ≠ 1) := by
    rintro (h | h | h)
    · exact h hs.videoMode
    · exact h hs.reserved19
    · exact h hs.decoderState
  show s.work50 io 0 = _
  rw [work50, if_neg hmode, if_pos rfl]

theorem uvCalibrate_finds_earliest (io : CaptureInput) (s : Camera) (hs : s.Calibrates)
    (hu : UvReads io.uv us mid) (hv : UvReads mid vs rest) (hlu : us.length = 12) (hlv : vs.length = 12)
    (hdist : ∀ p ∈ us ++ vs, uvDistance (uvLevel p) < 30719) :
    ∃ ku kv, UvFound io.uv us vs ku kv s (s.captureWork 50 0 io) := by
  have hdu : ∀ p ∈ us, uvDistance (uvLevel p) < 30719 := fun p hp =>
    hdist p (List.mem_append_left vs hp)
  have hdv : ∀ p ∈ vs, uvDistance (uvLevel p) < 30719 := fun p hp =>
    hdist p (List.mem_append_right us hp)
  have hsearch : ∀ t, posted (searchBus io.uv) t = posted (scanBus 10 200 12 96 mid)
      (posted (scanBus 12 198 12 96 io.uv) (posted enterBus t).uvTrigger).uvTrigger := by
    intro t
    rw [searchBus_reads hu hlu, hlu]
    simp only [posted_append, posted_triggerBus]
  rw [captureWork_calibrates hs]
  obtain ⟨ku, hku, hscanU⟩ := uvScan_earliest 12 hu hlu hdu (posted enterBus s).uvTrigger
  obtain ⟨kv, hkv, hscanV⟩ := uvScan_earliest 10 hv hlv hdv
    (uvScan 12 12 96 0x7FFF 0 io.uv (posted enterBus s).uvTrigger).2.uvTrigger
  have hresult : s.uvCalibrate io.uv =
      { ((({ posted (searchBus io.uv) s with
        uValue := BitVec.ofNat 8 (96 + 4 * ku), vValue := BitVec.ofNat 8 (96 + 4 * kv) } : Camera).emit
        (.i2cWrite 64 12 (BitVec.ofNat 8 (96 + 4 * ku)))).emit
        (.i2cWrite 64 10 (BitVec.ofNat 8 (96 + 4 * kv)))).emit (.i2cWrite 64 38 4) with uvCal := 3 } := by
    unfold uvCalibrate
    simp only [posted_enterBus, hscanU, hscanV]
    rw [hsearch, posted_scanBus 10 200, posted_scanBus 12 198]
  refine ⟨ku, kv, ?_⟩
  rw [hresult]
  exact
    { uMin := hku
      vMin := hkv
      uSteps := sampled_u hu hlu
      vSteps := sampled_v hu hlu hv hlv
      log := rfl
      uValue := rfl
      vValue := rfl
      regU := rfl
      regV := rfl
      uvCal := rfl }

end Calibrate

/-- The readings of these levels where register 192 is ready at once. -/
def readyReadings (levels : List (U8 × U8)) : List U8 := levels.flatMap (fun p => [227, p.1, p.2])

theorem uvReads_ready (levels : List (U8 × U8)) (rest : List U8) :
    UvReads (readyReadings levels ++ rest) levels rest := by
  induction levels with
  | nil => exact .done rest
  | cons p levels ih =>
    exact .step 0 (by omega) (fun i hi => absurd hi (Nat.not_lt_zero i)) rfl ih

/-- A decoder that shows the CVBS input, and that can be calibrated. -/
def cvbsShown : Camera := { (default : Camera) with videoMode := 2, decoderState := 1 }

theorem cvbsShown_calibrates : cvbsShown.Calibrates := ⟨rfl, rfl, rfl⟩

def calibrateInput (rs : List U8) : CaptureInput := ⟨⟨0, none, [], 0, 0⟩, ⟨none, none⟩, rs⟩

/-- Levels that reach 2048 at the fourth position and stay there. -/
def reachingLevels : List (U8 × U8) := List.replicate 3 (0, 4) ++ List.replicate 9 (0, 8)

theorem reachingLevels_close : ∀ p ∈ reachingLevels ++ reachingLevels, uvDistance (uvLevel p) < 30719 := by
  intro p hp
  rcases List.mem_append.mp ((List.mem_append.mp hp).elim id id) with hp | hp
  · rw [List.eq_of_mem_replicate hp]
    exact by decide
  · rw [List.eq_of_mem_replicate hp]
    exact by decide

theorem uvCalibrate_finds_earliest_reaching :
    ∃ ku kv, UvFound (readyReadings reachingLevels ++ (readyReadings reachingLevels ++ []))
      reachingLevels reachingLevels ku kv cvbsShown (cvbsShown.captureWork 50 0
        (calibrateInput (readyReadings reachingLevels ++ (readyReadings reachingLevels ++ [])))) :=
  uvCalibrate_finds_earliest (calibrateInput _) cvbsShown cvbsShown_calibrates
    (uvReads_ready reachingLevels _) (uvReads_ready reachingLevels []) rfl rfl reachingLevels_close

/-! ## A timeout -/

section Timeout

variable {rs : List U8} {s : Camera}

/-- The readings that a search leaves over do not depend on what it finds. -/
theorem uvScan_rest (reg : U8) (n pos best final : ℕ) (rs : List U8) (s : Camera) :
    (uvScan reg n pos best final rs s).1.map Prod.snd = scanRest n rs := by
  induction n generalizing pos best final rs s with
  | zero => rfl
  | succ n ih =>
    cases hsync : uvSync 24 rs with
    | none => simp only [uvScan, scanRest, hsync, Option.map_none, Option.bind_none]
    | some rs' =>
      simp only [uvScan, scanRest, hsync, Option.bind_some]
      exact ih _ _ _ _ _

theorem scanRest_add (m n : ℕ) (rs : List U8) : scanRest (m + n) rs = (scanRest m rs).bind (scanRest n) := by
  induction m generalizing rs with
  | zero => rw [Nat.zero_add, scanRest, Option.bind_some]
  | succ m ih =>
    rw [Nat.succ_add, scanRest, scanRest]
    cases uvSync 24 rs with
    | none => rfl
    | some rs' => exact ih rs'.tail.tail

theorem UvTimesOut.scanRest (h : UvTimesOut rs) : scanRest 24 rs = none := by
  obtain ⟨levels, rest, hreads, hlen, hwait⟩ := h
  obtain ⟨n, hn⟩ : ∃ n, 24 = levels.length + (n + 1) := ⟨23 - levels.length, by omega⟩
  rw [hn, scanRest_add, scanRest_reads hreads, Option.bind_some, Camera.scanRest, uvSync_none hwait,
    Option.bind_none]

/-- At a timeout, the calibration ends in `LABEL_138`. -/
theorem uvCalibrate_timesOut (h : UvTimesOut rs) (s : Camera) :
    s.uvCalibrate rs = (posted (searchBus rs) s).label138 := by
  have h24 : (scanRest 12 rs).bind (scanRest 12) = none := (scanRest_add 12 12 rs).symm.trans h.scanRest
  have hu := uvScan_rest 12 12 96 0x7FFF 0 rs (posted enterBus s).uvTrigger
  unfold uvCalibrate searchBus
  simp only [posted_enterBus]
  cases hmid : scanRest 12 rs with
  | none =>
    rw [hmid, Option.map_eq_none_iff] at hu
    simp only [hu]
    rw [posted_scanBus 12 198, List.append_nil, posted_append, posted_append, posted_triggerBus]
  | some mid =>
    rw [hmid, Option.map_eq_some_iff] at hu
    obtain ⟨⟨final, mid'⟩, hu, rfl⟩ := hu
    rw [hmid, Option.bind_some] at h24
    have hv := uvScan_rest 10 12 96 0x7FFF 0 mid'
      (uvScan 12 12 96 0x7FFF 0 rs (posted enterBus s).uvTrigger).2.uvTrigger
    rw [h24, Option.map_eq_none_iff] at hv
    simp only [hu, hv]
    rw [posted_scanBus 10 200, posted_scanBus 12 198]
    simp only [posted_append, posted_triggerBus]

theorem regLeft_posted {dev reg : U8} {ops : List BusOp} (h : ∀ op ∈ ops, ∀ dat, op ≠ .write dev reg dat)
    (s : Camera) : regLeft dev reg (posted ops s).log = regLeft dev reg s.log := by
  induction ops generalizing s with
  | nil => rfl
  | cons op ops ih =>
    have hops := ih (fun op hop => h op (List.mem_cons_of_mem _ hop))
    cases op with
    | write d r x =>
      have hne : ¬ (d = dev ∧ r = reg) := by
        rintro ⟨rfl, rfl⟩
        exact h _ List.mem_cons_self x rfl
      rw [posted_write, hops]
      exact if_neg hne
    | read d r x =>
      rw [posted_read]
      exact hops s

/-- The searches leave the mode register as it is. -/
theorem regLeft_searchBus (rs : List U8) (s : Camera) :
    regLeft 64 38 (posted (searchBus rs) s).log = some 132 := by
  have hscan : ∀ (reg level : U8) (n pos : ℕ) (rs : List U8), reg ≠ 38 →
      ∀ op ∈ scanBus reg level n pos rs, ∀ dat, op ≠ .write 64 38 dat := by
    intro reg level n pos rs hreg op hop dat
    rcases mem_scanBus hop with ⟨_, rfl⟩ | ⟨_, rfl⟩ | ⟨_, rfl⟩ | ⟨_, rfl⟩ | ⟨_, rfl⟩
    · simp
    · simp
    · simp
    · simp
    · intro heq
      exact hreg (BusOp.write.inj heq).2.1
  have htrigger : ∀ op ∈ triggerBus, ∀ dat, op ≠ .write 64 38 dat := by
    intro op hop dat
    obtain ⟨x, rfl⟩ := mem_triggerBus hop
    simp
  have henter : regLeft 64 38 (posted enterBus s).log = some 132 := rfl
  unfold searchBus
  rw [posted_append, posted_append, posted_append]
  cases scanRest 12 rs with
  | none =>
    rw [posted_nil, regLeft_posted (hscan 12 198 12 96 rs (by decide)), regLeft_posted htrigger, henter]
  | some mid =>
    show regLeft 64 38 (posted (triggerBus ++ scanBus 10 200 12 96 mid) _).log = _
    rw [posted_append, regLeft_posted (hscan 10 200 12 96 mid (by decide)), regLeft_posted htrigger,
      regLeft_posted (hscan 12 198 12 96 rs (by decide)), regLeft_posted htrigger, henter]

/-- All but the mode of the decoder is restored at a timeout. -/
theorem uvCalibrate_restores (h : UvTimesOut rs) (s : Camera) :
    let s' := s.uvCalibrate rs
    s'.uvCal = 2 ∧ s'.uValue = s.uvOffU + 112 ∧ s'.vValue = s.uvOffV - 124 ∧
      regLeft 64 12 s'.log = some s'.uValue ∧ regLeft 64 10 s'.log = some s'.vValue ∧
      regLeft 64 38 s'.log = some 132 := by
  rw [uvCalibrate_timesOut h]
  exact ⟨rfl, rfl, rfl, rfl, rfl, regLeft_searchBus rs s⟩

theorem not_uvRestored_of_timesOut (io : CaptureInput) (s : Camera) (hs : s.Calibrates)
    (h : UvTimesOut io.uv) : ¬ UvRestored s (s.captureWork 50 0 io) := by
  intro hrestored
  have hmode := hrestored.mode
  rw [captureWork_calibrates hs, (uvCalibrate_restores h s).2.2.2.2.2] at hmode
  exact absurd hmode (by decide)

/-- The decoder answers the first search only. -/
theorem not_uvRestored_half :
    ¬ UvRestored cvbsShown (cvbsShown.captureWork 50 0 (calibrateInput (readyReadings reachingLevels ++ []))) :=
  not_uvRestored_of_timesOut (calibrateInput _) cvbsShown cvbsShown_calibrates
    ⟨reachingLevels, [], uvReads_ready reachingLevels [], by decide, by decide⟩

/-- The decoder does not answer at all. -/
theorem uvTimesOut_silent :
    UvTimesOut [] ∧ ¬ UvRestored cvbsShown (cvbsShown.captureWork 50 0 (calibrateInput [])) := by
  have htimeout : UvTimesOut [] := ⟨[], [], .done [], by decide, by decide⟩
  refine ⟨htimeout, fun hrestored => ?_⟩
  have hmode := hrestored.mode
  rw [captureWork_calibrates cvbsShown_calibrates] at hmode
  exact absurd (hmode.symm.trans (uvCalibrate_restores htimeout cvbsShown).2.2.2.2.2) (by decide)

end Timeout

end Camera

end MtcDrivers
