import Mathlib.Data.Stream.Init
import Mathlib.Order.Monotone.Basic
import Mathlib.Order.WellFounded
import MtcDrivers.Link.Peer
import MtcDrivers.Link.Proofs.KeptProofs
import MtcDrivers.Link.Proofs.PeerProofs

/-!
# Proofs: what the driver reads of its peer

A pin that goes through some levels can show its reader every sequence of values that the levels come to, and nothing
else (`Reads`). On the side of the driver, a debounced read or a wait that succeeds has met its value in the levels,
and so a command word that has been taken tells which values they come to.
-/

namespace MtcDrivers

open Proc

/-! ## Levels and their readings -/

theorem Reads.eventually {s r : Stream' Bool} {v : Bool} (h : Reads s r) (hs : ∃ n, ∀ i, n ≤ i → s.get i = v) :
    ∃ n, ∀ i, n ≤ i → r.get i = v := by
  obtain ⟨moment, hmono, hunbounded, hget⟩ := h
  obtain ⟨n, hn⟩ := hs
  obtain ⟨k, hk⟩ := hunbounded n
  exact ⟨k, fun i hi => (hget i).trans (hn _ (hk.trans (hmono hi)))⟩

/-- Starting earlier misses nothing. -/
theorem Shows.of_drop {vs : List Bool} {s : Stream' Bool} {m : ℕ} (h : Shows vs (s.drop m)) : Shows vs s := by
  cases vs with
  | nil => trivial
  | cons v vs =>
    obtain ⟨i, hi, hrest⟩ := h
    rw [Stream'.get_drop] at hi
    rw [Stream'.drop_drop] at hrest
    exact ⟨m + i, hi, hrest⟩

/-- What the reader sees, the levels come to. -/
theorem Shows.of_reads {vs : List Bool} {s r : Stream' Bool} (h : Shows vs r) (hr : Reads s r) : Shows vs s := by
  obtain ⟨moment, hmono, -, hget⟩ := hr
  -- the values from the reading `k` on are those of the levels from its moment on
  have main : ∀ (vs : List Bool) (k : ℕ), Shows vs (r.drop k) → Shows vs (s.drop (moment k)) := by
    intro vs
    induction vs with
    | nil => exact fun _ _ => trivial
    | cons v vs ih =>
      rintro k ⟨i, hi, hrest⟩
      have hle : moment k + (moment (k + i) - moment k) = moment (k + i) :=
        Nat.add_sub_cancel' (hmono (Nat.le_add_right k i))
      rw [Stream'.get_drop, hget] at hi
      rw [Stream'.drop_drop] at hrest
      refine ⟨moment (k + i) - moment k, ?_, ?_⟩
      · rw [Stream'.get_drop, hle, hi]
      · rw [Stream'.drop_drop, hle]
        exact ih (k + i) hrest
  exact (main vs 0 h).of_drop

/-- A reader can take a level twice and go on from there. -/
theorem reads_hold {s r : Stream' Bool} {v : Bool} {i : ℕ} (hi : s.get i = v) (h : Reads (s.drop i) r) :
    Reads s (hold v r) := by
  obtain ⟨moment, hmono, hunbounded, hget⟩ := h
  let later : ℕ → ℕ
    | 0 => i
    | 1 => i
    | k + 2 => i + moment k
  refine ⟨later, monotone_nat_of_le_succ fun k => ?_, fun n => ?_, fun k => ?_⟩
  · rcases k with _ | _ | k
    · exact Nat.le_refl i
    · exact Nat.le_add_right i (moment 0)
    · exact Nat.add_le_add_left (hmono (Nat.le_succ k)) i
  · obtain ⟨k, hk⟩ := hunbounded n
    exact ⟨k + 2, hk.trans (Nat.le_add_left (moment k) i)⟩
  · rcases k with _ | _ | k
    · exact hi.symm
    · exact hi.symm
    · exact (hget k).trans (Stream'.get_drop (moment k) i s)

theorem reads_holds {vs : List Bool} {s r : Stream' Bool} (h : Shows vs s) (hr : ∀ m, Reads (s.drop m) r) :
    Reads s (holds vs r) := by
  induction vs generalizing s with
  | nil => exact hr 0
  | cons v vs ih =>
    obtain ⟨i, hi, hrest⟩ := h
    refine reads_hold hi (ih hrest fun m => ?_)
    rw [Stream'.drop_drop]
    exact hr (i + m)

/-- A value that the levels come to again and again is all that a reader may ever see. -/
theorem reads_const {s : Stream' Bool} {v : Bool} (h : ∀ n, ∃ i, n ≤ i ∧ s.get i = v) : Reads s (.const v) := by
  obtain ⟨moment, hmono, hget⟩ := Nat.exists_strictMono_subsequence fun n =>
    (h (n + 1)).imp fun _ hi => ⟨hi.1, hi.2⟩
  exact ⟨moment, hmono.monotone, fun n => ⟨n, hmono.le_apply⟩, fun i => (hget i).symm⟩

/-- There is always such a value. -/
theorem exists_reads_const (s : Stream' Bool) : ∃ v, ∀ m, Reads (s.drop m) (.const v) := by
  have hdrop : ∀ {v : Bool}, (∀ n, ∃ i, n ≤ i ∧ s.get i = v) → ∀ m, Reads (s.drop m) (.const v) := by
    intro v h m
    refine reads_const fun n => ?_
    obtain ⟨i, hi, hv⟩ := h (m + n)
    refine ⟨i - m, by omega, ?_⟩
    rw [Stream'.get_drop, Nat.add_sub_cancel' (by omega), hv]
  by_cases h : ∀ n, ∃ i, n ≤ i ∧ s.get i = true
  · exact ⟨true, hdrop h⟩
  · push Not at h
    obtain ⟨n, hn⟩ := h
    refine ⟨false, hdrop fun k => ⟨max n k, Nat.le_max_right n k, ?_⟩⟩
    exact Bool.eq_false_of_not_eq_true (hn _ (Nat.le_max_left n k))

theorem pulseLevels_succ (n : ℕ) : pulseLevels (n + 1) = pulseLevels n ++ [true, false] := by
  unfold pulseLevels
  rw [List.replicate_succ', List.flatten_append, List.flatten_singleton]

theorem pulses_eq (n : ℕ) (s : Stream' Bool) : pulses n s = holds (pulseLevels n) s := by
  induction n with
  | zero => rfl
  | succ n ih =>
    rw [pulses, ih]
    rfl

/-! ## What the reads see -/

/-- What a debounced read takes from the levels: the pairs up to the first one that agrees. -/
theorem readSettled_pair {delay : ℕ} {p : Gpio} {w : World} :
    (readSettled delay p).wlp (fun v w' => ∃ k, PairAt (w.levels p) k v ∧
      (∀ j < k, (w.levels p).get (2 * j) ≠ (w.levels p).get (2 * j + 1)) ∧
      w'.levels = Function.update w.levels p ((w.levels p).drop (2 * (k + 1))) ∧
      w'.clock = w.clock) w := by
  unfold readSettled
  rw [wlp_bind]
  -- the pairs before `k` have been read, and none agreed
  refine wlp_repeatUntil (fun w' => ∃ k,
    (∀ j < k, (w.levels p).get (2 * j) ≠ (w.levels p).get (2 * j + 1)) ∧
    w'.levels = Function.update w.levels p ((w.levels p).drop (2 * k)) ∧ w'.clock = w.clock)
    ?_ ⟨0, by simp⟩
  rintro w1 ⟨k, hno, hlev, hclk⟩
  have hnext : (w1.levels p).tail.tail = (w.levels p).drop (2 * (k + 1)) := by
    rw [hlev, Function.update_self, Stream'.tail_drop, Stream'.tail_drop]
    rfl
  have hfst : (w1.levels p).head = (w.levels p).get (2 * k) := by
    rw [hlev, Function.update_self, Stream'.head_drop]
  have hsnd : (w1.levels p).tail.head = (w.levels p).get (2 * k + 1) := by
    rw [hlev, Function.update_self, Stream'.tail_drop, Stream'.head_drop, Stream'.get_tail]
  have hpop : Function.update (Function.update w1.levels p (w1.levels p).tail) p
      (w1.levels p).tail.tail = Function.update w.levels p ((w.levels p).drop (2 * (k + 1))) := by
    rw [hnext, hlev, Function.update_idem, Function.update_idem]
  simp only [wlp_bind, wlp_gpioGetValue, wlp_udelay, wlp_ite, wlp_pure, World.popLevel_levels,
    Function.update_self, hfst, hsnd, Sum.elim_inl, Sum.elim_inr, wlp_emit]
  constructor
  · intro hne
    refine ⟨k + 1, fun j hj => ?_, hpop, hclk⟩
    rcases Nat.lt_succ_iff_lt_or_eq.mp hj with hlt | rfl
    · exact hno j hlt
    · exact hne
  · intro heq
    exact ⟨k, ⟨rfl, (not_not.mp heq).symm⟩, hno, by simpa using hpop, hclk⟩

theorem SettlesTo.unique {s : Stream' Bool} {v v' : Bool} (h : SettlesTo s v)
    (h' : SettlesTo s v') : v = v' := by
  obtain ⟨k, ⟨hk1, hk2⟩, hk⟩ := h
  obtain ⟨k', ⟨hk1', hk2'⟩, hk'⟩ := h'
  rcases Nat.lt_trichotomy k k' with hlt | rfl | hgt
  · exact absurd (hk1.trans hk2.symm) (hk' k hlt)
  · exact hk1.symm.trans hk1'
  · exact absurd (hk1'.trans hk2'.symm) (hk k' hgt)

theorem pairAt_drop {s : Stream' Bool} {m i : ℕ} {v : Bool} :
    PairAt (s.drop (2 * m)) i v ↔ PairAt s (m + i) v := by
  unfold PairAt
  rw [Stream'.get_drop, Stream'.get_drop, show 2 * m + 2 * i = 2 * (m + i) by omega,
    show 2 * m + (2 * i + 1) = 2 * (m + i) + 1 by omega]

/-- Between the levels `s` and the levels `r` the values `vs` have been read. -/
def Past (vs : List Bool) (s r : Stream' Bool) : Prop :=
  ∃ m, r = s.drop m ∧ vs.length ≤ m ∧ ∀ us, Shows us r → Shows (vs ++ us) s

theorem Past.refl (s : Stream' Bool) : Past [] s s := ⟨0, rfl, Nat.le_refl 0, fun _ h => h⟩

theorem Past.trans {vs us : List Bool} {s r t : Stream' Bool} (h : Past vs s r) (h' : Past us r t) :
    Past (vs ++ us) s t := by
  obtain ⟨m, rfl, hm, hs⟩ := h
  obtain ⟨n, rfl, hn, hr⟩ := h'
  refine ⟨m + n, Stream'.drop_drop n m s, ?_, fun xs hxs => ?_⟩
  · rw [List.length_append]
    omega
  · rw [List.append_assoc]
    exact hs _ (hr xs hxs)

theorem Past.forget {vs : List Bool} {s r : Stream' Bool} (h : Past vs s r) : Past [] s r := by
  obtain ⟨m, rfl, -, -⟩ := h
  exact ⟨m, rfl, Nat.zero_le m, fun _ hus => hus.of_drop⟩

theorem Past.drop (s : Stream' Bool) (m : ℕ) : Past [] s (s.drop m) :=
  ⟨m, rfl, Nat.zero_le m, fun _ h => h.of_drop⟩

theorem past_pair {s : Stream' Bool} {k : ℕ} {v : Bool} (h : PairAt s k v) : Past [v] s (s.drop (2 * (k + 1))) := by
  refine ⟨2 * (k + 1), rfl, ?_, fun us hus => ⟨2 * k + 1, h.2, ?_⟩⟩
  · rw [List.length_singleton]
    omega
  · rw [show 2 * (k + 1) = 2 * k + 1 + 1 by omega, ← Stream'.drop_drop] at hus
    exact hus.of_drop

/-- Between two worlds these values of `MCU_CLK` and `MCU_DIN` have been read. -/
structure Seen (clk din : List Bool) (w w' : World) : Prop where
  clk : Past clk (w.levels .mcuClk) (w'.levels .mcuClk)
  din : Past din (w.levels .mcuDin) (w'.levels .mcuDin)

theorem Seen.trans {c c' d d' : List Bool} {w w1 w' : World} (h : Seen c d w w1) (h' : Seen c' d' w1 w') :
    Seen (c ++ c') (d ++ d') w w' := ⟨h.clk.trans h'.clk, h.din.trans h'.din⟩

theorem Seen.forget {c d : List Bool} {w w' : World} (h : Seen c d w w') : Seen [] [] w w' :=
  ⟨h.clk.forget, h.din.forget⟩

theorem Seen.same {w w' : World} (h : w'.levels = w.levels) : Seen [] [] w w' := by
  constructor <;> rw [h] <;> exact Past.refl _

theorem Seen.start {c d : List Bool} {w w1 w' : World} (h : Seen c d w1 w') (hlev : w1.levels = w.levels) :
    Seen c d w w' := (Seen.same hlev).trans h

theorem seen_kept : Kept (Seen [] []) where
  refl _ := .same rfl
  trans _ _ _ h h' := h.trans h'
  level w p := by
    constructor <;> rw [World.popLevel_levels] <;> cases p <;>
      first | exact Past.refl _ | exact Past.drop _ 1
  clock _ := .same rfl
  frame _ := .same rfl
  pad _ _ _ := .same rfl
  car _ _ := .same rfl
  emit _ _ _ := .same rfl

theorem readClk_seen {delay : ℕ} {w : World} :
    (readSettled delay .mcuClk).wlp (fun v w' => SettlesTo (w.levels .mcuClk) v ∧
      w'.levels .mcuDin = w.levels .mcuDin ∧ Seen [v] [] w w') w := by
  refine wlp_mono readSettled_pair ?_
  rintro v w' ⟨k, hpair, hno, hlev, -⟩
  have hdin : w'.levels .mcuDin = w.levels .mcuDin := by rw [hlev, Function.update_of_ne (by decide)]
  refine ⟨⟨k, hpair, hno⟩, hdin, ?_, ?_⟩
  · rw [hlev, Function.update_self]
    exact past_pair hpair
  · rw [hdin]
    exact Past.refl _

theorem readDin_seen {delay : ℕ} {w : World} :
    (readSettled delay .mcuDin).wlp (fun v w' => SettlesTo (w.levels .mcuDin) v ∧ Seen [] [v] w w') w := by
  refine wlp_mono readSettled_pair ?_
  rintro v w' ⟨k, hpair, hno, hlev, -⟩
  refine ⟨⟨k, hpair, hno⟩, ?_, ?_⟩
  · rw [hlev, Function.update_of_ne (by decide)]
    exact Past.refl _
  · rw [hlev, Function.update_self]
    exact past_pair hpair

/-- A wait that succeeds has seen its level. -/
theorem waitLevel_seen {delay : ℕ} {p : Gpio} {level : Bool} {c d : List Bool}
    (hread : ∀ w, (readSettled delay p).wlp (fun v w' => v = level → Seen c d w w') w) {w : World} :
    (waitLevel (readSettled delay p) level).wlp (fun ok w' => ok = true → Seen c d w w') w := by
  unfold waitLevel
  simp only [wlp_bind, wlp_getCurTimer]
  refine wlp_repeatUntil (fun w1 => Seen [] [] w w1) (fun w1 h1 => ?_) (seen_kept.clock w)
  rw [wlp_bind]
  refine wlp_mono (wlp_and (hread w1) ((seen_kept.wire.reads p).readSettled delay w1)) ?_
  rintro v w2 ⟨hlevel, h2⟩
  simp only [wlp_ite, wlp_bind, wlp_checkTimeOut, wlp_pure, Sum.elim_inl, Sum.elim_inr]
  refine ⟨fun hv _ => h1.trans (hlevel hv), fun _ => ⟨fun _ hok => absurd hok Bool.false_ne_true, fun _ => ?_⟩⟩
  exact (h1.trans h2).trans (seen_kept.clock w2)

theorem waitClk_seen {delay : ℕ} {level : Bool} {w : World} :
    (waitLevel (readSettled delay .mcuClk) level).wlp (fun ok w' => ok = true → Seen [level] [] w w') w :=
  waitLevel_seen fun _ => wlp_mono readClk_seen fun _ _ h hv => hv ▸ h.2.2

theorem waitDin_seen {delay : ℕ} {level : Bool} {w : World} :
    (waitLevel (readSettled delay .mcuDin) level).wlp (fun ok w' => ok = true → Seen [] [level] w w') w :=
  waitLevel_seen fun _ => wlp_mono readDin_seen fun _ _ h hv => hv ▸ h.2

/-! ## What a command word that is taken has seen -/

/-- One pass of the restart loop: a request is seen and goes by, or there is none. -/
theorem restartPass_seen {w : World} : armSendRestartPass.wlp (fun x w' => x.elim
    (fun _ => McuRequests w ∧ Seen [true] [false] w w')
    (fun free => ¬ McuRequests w ∧ (free = true → Seen [true] [true] w w'))) w := by
  unfold armSendRestartPass
  rw [wlp_bind]
  refine wlp_mono readClk_seen ?_
  rintro clk w1 ⟨hclk, hkeep, h1⟩
  cases clk with
  | false =>
    have hno : ¬ McuRequests w := fun hreq => absurd (hclk.unique hreq.1) Bool.false_ne_true
    simpa [printk] using hno
  | true =>
    simp only [if_true, wlp_bind]
    refine wlp_mono readDin_seen ?_
    rintro din w2 ⟨hdin, h2⟩
    rw [hkeep] at hdin
    cases din with
    | true =>
      have hno : ¬ McuRequests w := fun hreq => absurd (hdin.unique hreq.2).symm Bool.false_ne_true
      simp only [if_true, wlp_pure, Sum.elim_inr]
      exact ⟨hno, fun _ => h1.trans h2⟩
    | false =>
      simp only [Bool.false_eq_true, if_false, printk, wlp_bind, wlp_emit]
      refine (seen_kept.armRev).wlp fun _ w3 h3 => ?_
      simp only [wlp_pure, Sum.elim_inl]
      exact ⟨⟨hclk, hdin⟩, (h1.trans h2).trans ((seen_kept.emit w2 _ rfl).trans h3)⟩

theorem armSendRestart_seen {w : World} :
    armSendRestart.wlp (fun free w' => free = true → Seen [true] [true] w w') w := by
  refine wlp_repeatUntil (fun w1 => Seen [] [] w w1) (fun w1 h1 => ?_) (.same rfl)
  refine wlp_mono restartPass_seen fun x w2 hx => ?_
  cases x with
  | inl u => exact h1.trans hx.2.forget
  | inr free => exact fun hfree => h1.trans (hx.2 hfree)

theorem armSendPass_seen {cmd : U32} {bit_pos : ℕ} {w : World} :
    (armSendPass cmd bit_pos).wlp (fun x w' => x.elim
      (fun b => b = bit_pos + 1 ∧ bit_pos ≠ 15 ∧ Seen [] [true, false] w w')
      (fun ok => ok = true → bit_pos = 15 ∧ Seen [] [true, false] w w')) w := by
  unfold armSendPass
  rw [wlp_bind]
  refine wlp_mono waitDin_seen fun ok w1 h1 => ?_
  cases ok with
  | false => simp [sendErr0, printk]
  | true =>
    simp only [if_true, wlp_bind, wlp_gpioSetValue, wlp_gpioDirectionOutput]
    refine wlp_mono waitDin_seen fun ok w2 h2 => ?_
    cases ok with
    | false => simp [sendErr0, printk]
    | true =>
      have hseen : Seen [] [true, false] w w2 := (h1 rfl).trans ((h2 rfl).start rfl)
      simp only [if_true, wlp_ite, wlp_bind, wlp_gpioSetValue, wlp_gpioDirectionOutput, wlp_pure, Sum.elim_inl,
        Sum.elim_inr]
      exact ⟨fun hne => ⟨trivial, hne, hseen.trans (.same rfl)⟩,
        fun hlast _ => ⟨not_not.mp hlast, hseen.trans (.same rfl)⟩⟩

theorem armSendBits_seen {cmd : U32} {w : World} :
    (Proc.iter (armSendPass cmd) 0).wlp (fun ok w' => ok = true → Seen [] (pulseLevels 16) w w') w := by
  refine wlp_iter (fun b w' => Seen [] (pulseLevels b) w w') (fun b w1 h1 => ?_) (.same rfl)
  refine wlp_mono armSendPass_seen fun x w2 hx => ?_
  cases x with
  | inl b' =>
    obtain ⟨rfl, -, h2⟩ := hx
    rw [Sum.elim_inl, pulseLevels_succ]
    exact h1.trans h2
  | inr ok =>
    intro hok
    obtain ⟨rfl, h2⟩ := hx hok
    rw [pulseLevels_succ]
    exact h1.trans h2

theorem armSendWord_seen {cmd : U32} {w : World} :
    (armSendWord cmd).wlp (fun ok w' => ok = true → Seen [false, true] (pulseLevels 16) w w') w := by
  unfold armSendWord
  simp only [wlp_bind, wlp_gpioDirectionOutput]
  refine wlp_mono waitClk_seen fun ok w1 h1 => ?_
  cases ok with
  | false => simp [printk]
  | true =>
    simp only [if_true, wlp_bind, wlp_gpioSetValue]
    refine wlp_mono waitClk_seen fun ok w2 h2 => ?_
    cases ok with
    | false => simp [printk]
    | true =>
      simp only [if_true, wlp_bind, wlp_modifyCar, wlp_udelay]
      refine wlp_mono armSendBits_seen fun ok w3 h3 hok => ?_
      have hclk : Seen [false] [] w w1 := (h1 rfl).start rfl
      exact (hclk.trans ((h2 rfl).start rfl)).trans ((h3 hok).start rfl)

/-- A command word that has been taken has met the levels that let it through. -/
theorem armSendCmd_grants {cmd : U32} {w : World} :
    (armSendCmd cmd).wlp (fun ok _ => ok = true → Grants (w.levels .mcuClk) (w.levels .mcuDin)) w := by
  unfold armSendCmd
  rw [wlp_bind]
  refine wlp_mono armSendRestart_seen fun free w1 h1 => ?_
  cases free with
  | false => simp
  | true =>
    refine wlp_mono armSendWord_seen fun ok w2 h2 hok => ?_
    obtain ⟨⟨-, -, -, hclk⟩, -, -, -, hdin⟩ := (h1 rfl).trans (h2 hok)
    exact ⟨hclk [] trivial, hdin [] trivial⟩

end MtcDrivers
