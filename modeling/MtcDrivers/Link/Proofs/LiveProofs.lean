import MtcDrivers.Link.Proofs.LevelProofs
import MtcDrivers.Link.Proofs.WireProofs
import MtcDrivers.Timer.Proofs.TimeOutProofs

/-!
# Proofs: the link returns

Everything but the restart loop and the firmware path returns from every live world: the waits have
timeouts, and the loops around them count. The restart loop returns if the MCU no longer asks from
some reading on, and the firmware path if the MCU acknowledges every bit.
-/

namespace MtcDrivers

open Proc

/-! ## Live worlds -/

theorem Settles.tail {s : Stream' Bool} (h : Settles s) : Settles s.tail := by
  intro i
  obtain ⟨k, hk⟩ := h (i + 1)
  refine ⟨k, ?_⟩
  rw [Stream'.get_tail, Stream'.get_tail]
  rw [show i + 2 * k + 1 = i + 1 + 2 * k by omega, hk]

theorem settles_holds (vs : List Bool) (v : Bool) : Settles (holds vs (.const v)) := by
  induction vs with
  | nil => exact fun i => ⟨0, rfl⟩
  | cons b vs ih => exact fun i => (ih i).elim fun k hk => ⟨k + 1, hk⟩

theorem Live.popLevel {w : World} (h : Live w) (p : Gpio) : Live (w.popLevel p) where
  clock := h.clock
  pins q := by
    by_cases hq : q = p
    · subst hq
      simpa using (h.pins q).tail
    · simpa [Function.update, hq] using h.pins q

theorem Live.popClock {w : World} (h : Live w) : Live w.popClock where
  clock := h.clock.tail
  pins := h.pins

@[simp] theorem live_emit {w : World} {e : Event} : Live (w.emit e) ↔ Live w :=
  ⟨fun h => ⟨h.clock, h.pins⟩, fun h => ⟨h.clock, h.pins⟩⟩

@[simp] theorem live_setPad {w : World} {p : Gpio} {d : Pad} : Live (w.setPad p d) ↔ Live w :=
  ⟨fun h => ⟨h.clock, h.pins⟩, fun h => ⟨h.clock, h.pins⟩⟩

theorem live_kept : Kept fun w w' => Live w → Live w' where
  refl _ h := h
  trans _ _ _ h h' hl := h' (h hl)
  level _ p h := h.popLevel p
  clock _ h := h.popClock
  frame _ h := ⟨h.clock, h.pins⟩
  pad _ _ _ h := live_setPad.mpr h
  car _ _ h := ⟨h.clock, h.pins⟩
  emit _ _ _ h := live_emit.mpr h

/-! ## Reads and waits -/

/-- A debounced read returns. -/
theorem readSettled_total (delay : ℕ) (p : Gpio) : Total Live (readSettled delay p) := by
  intro w hw
  unfold readSettled
  rw [wp_bind]
  -- the induction is on the pair that agrees
  have main : ∀ k w, Live w → (w.levels p).get (2 * k) = (w.levels p).get (2 * k + 1) →
      (Proc.repeatUntil (do
        let value ← gpioGetValue p
        udelay delay
        let again ← gpioGetValue p
        if value ≠ again then return .inl () else return .inr value) : Link Bool).wp
        (fun _ => Live) w := by
    intro k
    induction k with
    | zero =>
      intro w hw hk
      refine wp_iter_pass.mpr ?_
      have heq : (w.levels p).head = (w.levels p).tail.head := hk
      simpa [← heq] using (hw.popLevel p).popLevel p
    | succ k ih =>
      intro w hw hk
      refine wp_iter_pass.mpr ?_
      simp only [wp_bind, wp_gpioGetValue, wp_udelay, wp_ite, wp_pure, Sum.elim_inl, Sum.elim_inr]
      refine ⟨fun _ => ih _ ((hw.popLevel p).popLevel p) ?_, fun _ => (hw.popLevel p).popLevel p⟩
      simpa [Nat.mul_succ] using hk
  obtain ⟨k, hk⟩ := hw.pins p 0
  refine wp_mono (main k w hw (by simpa using hk)) fun v w' hw' => ?_
  simpa using hw'

/-- A wait with a timeout returns. -/
theorem waitLevel_total (delay : ℕ) (p : Gpio) (level : Bool) :
    Total Live (waitLevel (readSettled delay p) level) := by
  intro w hw
  unfold waitLevel
  simp only [wp_bind, wp_getCurTimer]
  -- the induction is on the reading of the clock that is late enough
  have main : ∀ (n t0 : ℕ) (w : World), Live w → (∀ k, t0 ≤ w.clock.get k) →
      250000 ≤ (w.clock.get n - t0) % 1000000 →
      (Proc.repeatUntil (do
        let v ← readSettled delay p
        if v = level then
          return .inr true
        else if ← checkTimeOut ((t0 % 1000000 : ℕ) : ℤ) then
          return .inr false
        else
          return .inl ()) : Link Bool).wp (fun _ => Live) w := by
    intro n
    induction n with
    | zero =>
      intro t0 w hw hle hlate
      refine wp_iter_pass.mpr ?_
      rw [wp_bind]
      refine wp_mono (wp_and_wlp (readSettled_total delay p w hw) readSettled_pair) ?_
      rintro v w1 ⟨h1, k, -, -, -, hclk⟩
      have hout : timedOut ((t0 % 1000000 : ℕ) : ℤ) ((w1.clock.head % 1000000 : ℕ) : ℤ) = true := by
        rw [hclk, timedOut_eq (hle 0)]
        exact decide_eq_true hlate
      simp only [wp_ite, wp_pure, wp_bind, wp_checkTimeOut, hout, Sum.elim_inr]
      exact ⟨fun _ => h1, fun _ => ⟨fun _ => h1.popClock, fun hno => absurd trivial hno⟩⟩
    | succ n ih =>
      intro t0 w hw hle hlate
      refine wp_iter_pass.mpr ?_
      rw [wp_bind]
      refine wp_mono (wp_and_wlp (readSettled_total delay p w hw) readSettled_pair) ?_
      rintro v w1 ⟨h1, k, -, -, -, hclk⟩
      have hrest := ih t0 w1.popClock h1.popClock (fun k => by simpa [hclk] using hle (k + 1))
        (by simpa [hclk] using hlate)
      simp only [wp_ite, wp_pure, wp_bind, wp_checkTimeOut, Sum.elim_inr, Sum.elim_inl]
      exact ⟨fun _ => h1, fun _ => ⟨fun _ => h1.popClock, fun _ => hrest⟩⟩
  obtain ⟨n, hn⟩ := hw.clock.exists_timeout (P := 1000000) (d := 250000) (by omega) (by omega)
  exact main n _ _ hw.popClock (fun k => hw.clock.le_of_le (k + 1)) hn

/-! ## Transfers -/

theorem emit_total (e : Event) : Total Live (emit e) :=
  total_modify fun _ hw => live_emit.mpr hw

theorem modifyCar_total (f : CarStruct → CarStruct) : Total Live (modifyCar f) :=
  total_modify fun w hw => live_kept.car w f hw

theorem live_transfer : TransferClosed (Total Live) where
  toClosed := total_closed Live
  read := readSettled_total
  wait := waitLevel_total
  setValue _ _ _ hw := by simpa using hw
  output _ _ _ hw := by simpa using hw
  input _ _ hw := by simpa using hw
  car := modifyCar_total
  wire _ := emit_total _

/-- A loop whose passes return and that counts up to `last` returns. -/
theorem counted_total {α β : Type} {body : ℕ × β → Link ((ℕ × β) ⊕ α)} {last : ℕ}
    (hbody : ∀ q, Total Live (body q))
    (hcount : ∀ q w, (body q).wlp (fun x _ => ∀ q', x = .inl q' → q'.1 = q.1 + 1 ∧ q'.1 ≠ last) w)
    (hlast : 0 < last) (b : β) : Total Live (Proc.iter body (0, b)) := by
  refine Total.iter (fun q => q.1 < last) (fun q => last - q.1) (fun q _ => hbody q)
    (fun q w hq => wlp_mono (hcount q w) fun x _ hx q' hq' => ?_) hlast
  obtain ⟨hnext, hne⟩ := hx q' hq'
  omega

theorem armRev8bitsPass_counts {bit_n : ℕ} {byte : U8} {w : World} :
    (armRev8bitsPass bit_n byte).wlp (fun x _ => ∀ q, x = .inl q → q.1 = bit_n + 1 ∧ q.1 ≠ 8) w := by
  unfold armRev8bitsPass
  rw [wlp_bind]
  intro ok w1 _
  cases ok with
  | false => simp
  | true =>
    simp only [if_true, wlp_bind, wlp_gpioSetValue]
    intro din w2 _ ok w3 _
    cases ok with
    | false => simp
    | true =>
      simp only [if_true, wlp_bind, wlp_gpioSetValue, wlp_ite, wlp_pure]
      exact ⟨fun hne q hq => by cases hq; exact ⟨rfl, hne⟩, fun _ q hq => absurd hq Sum.inr_ne_inl⟩

theorem armRev8bits_total : Total Live armRev8bits :=
  (total_closed Live).bind (live_transfer.input _) fun _ =>
    counted_total (fun q => live_transfer.armRev8bitsPass q.1 q.2)
      (fun _ _ => armRev8bitsPass_counts) (by omega) 0

theorem armRevBytes_total (a : CArray) (off n : ℕ) : Total Live (armRevBytes a off n) := by
  have c := total_closed Live
  refine c.bind ?_ fun p => c.bind (emit_total _) fun _ => c.pure _
  by_cases hn : n = 0
  · rw [if_neg (by simp [hn])]
    exact c.pure _
  · rw [if_pos hn]
    refine Total.iter (fun data => data.length < n) (fun data => n - data.length)
      (fun data _ => live_transfer.armRevBytesPass armRev8bits_total n data)
      (fun data w hlt => ?_) (by simp; omega)
    unfold armRevBytesPass
    simp only [wlp_bind, wlp_modifyCar]
    intro b w1 _
    cases b with
    | none => simp
    | some b =>
      simp only [wlp_ite, wlp_pure]
      refine ⟨fun _ b' hb => absurd hb Sum.inr_ne_inl, fun hne b' hb => ?_⟩
      cases hb
      simp only [List.length_append, List.length_singleton]
      omega

/-- A message from the MCU is taken to its end. -/
theorem live_command : CommandClosed (Total Live) where
  toClosed := total_closed Live
  frame w hw := wp_popFrame.mpr (live_kept.frame w hw)
  car := modifyCar_total
  note _ := emit_total _
  bytes := armRevBytes_total
  ack := live_transfer.armRevAck fun _ => emit_total _

theorem armRevPass_counts {bit_pos : ℕ} {cmd : U32} {w : World} :
    (armRevPass bit_pos cmd).wlp (fun x _ => ∀ q, x = .inl q → q.1 = bit_pos + 1 ∧ q.1 ≠ 16) w := by
  unfold armRevPass
  rw [wlp_bind]
  intro ok w1 _
  cases ok with
  | false => simp
  | true =>
    simp only [if_true, wlp_bind, wlp_gpioSetValue]
    intro din w2 _ ok w3 _
    cases ok with
    | false => simp
    | true =>
      simp only [if_true, wlp_bind, wlp_gpioSetValue, wlp_ite, wlp_pure]
      exact ⟨fun hne q hq => by cases hq; exact ⟨rfl, hne⟩, fun _ q hq => absurd hq Sum.inr_ne_inl⟩

/-- `arm_rev` returns: its handshake and its bits are timed, and so is what its command starts. -/
theorem armRev_total : Total Live armRev := by
  have c := total_closed Live
  have hword : Total Live armRevWord :=
    live_transfer.armRevWord (counted_total (fun q => live_transfer.armRevPass q.1 q.2)
      (fun _ _ => armRevPass_counts) (by omega) 0)
  refine c.bind hword fun o => ?_
  cases o with
  | none => exact c.pure _
  | some cmd => exact c.bind (modifyCar_total _) fun _ => live_command.processMcuCommand cmd

theorem armSendWord_total (cmd : U32) : Total Live (armSendWord cmd) := by
  refine live_transfer.armSendWord cmd ?_
  refine Total.iter (fun b => b ≤ 15) (fun b => 16 - b)
    (fun b _ => live_transfer.armSendPass cmd b) (fun b w hb => ?_) (by omega)
  refine wlp_mono armSendPass_sent fun x _ hx b' hb' => ?_
  subst hb'
  obtain ⟨rfl, hne, -⟩ := hx
  omega

/-- The ordinary write path returns: its bits are timed and counted, and so are its bytes. -/
theorem armSendBytes_total (buf : CArray) (count : ℕ) : Total Live (armSendBytes buf count) := by
  have hbits : ∀ byte, Total Live (Proc.iter (fun p => armSend8bitsPass p.1 p.2) (0, byte)) := by
    intro byte
    refine Total.iter (fun q => q.1 ≤ 7) (fun q => 7 - q.1)
      (fun q _ => live_transfer.armSend8bitsPass q.1 q.2) (fun q w hq => ?_) (by omega)
    unfold armSend8bitsPass
    rw [wlp_ite]
    refine ⟨fun hlt => ?_, fun _ => by simp⟩
    rw [wlp_bind]
    intro ok w1 _
    cases ok with
    | false => simp
    | true =>
      simp only [if_true, wlp_bind, wlp_gpioSetValue, wlp_gpioDirectionOutput]
      intro ok w2 _
      have hne : q.1 ≠ 7 := by omega
      cases ok with
      | false => simp
      | true =>
        simp only [if_true, if_pos hne, wlp_bind, wlp_gpioDirectionOutput, wlp_pure]
        rintro q' hq'
        cases hq'
        exact ⟨by omega, by omega⟩
  refine Total.iter (fun pos => pos ≤ count) (fun pos => count - pos)
    (fun pos _ => live_transfer.armSendBytesPass buf count pos hbits)
    (fun pos w hpos => ?_) (by omega)
  unfold armSendBytesPass
  rw [wlp_ite]
  refine ⟨fun hlt => ?_, fun _ => by simp⟩
  simp only [wlp_bind, wlp_modifyCar]
  intro ok w1 _
  cases ok with
  | false => simp
  | true =>
    simp only [if_true, wlp_bind, wlp_gpioSetValue, wlp_gpioDirectionOutput, wlp_pure]
    rintro pos' hpos'
    cases hpos'
    exact ⟨by omega, by omega⟩

/-! ## The restart loop -/

/-- From the reading `n` on, the MCU does not ask to be heard. -/
def Quiet (n : ℕ) (w : World) : Prop :=
  (∀ i, n ≤ i → (w.levels .mcuClk).get i = false) ∨ ∀ i, n ≤ i → (w.levels .mcuDin).get i = true

theorem Past.eventually {vs : List Bool} {s r : Stream' Bool} (h : Past vs s r) {n : ℕ} {v : Bool}
    (hs : ∀ i, n ≤ i → s.get i = v) : ∀ i, n - vs.length ≤ i → r.get i = v := by
  obtain ⟨m, rfl, hm, -⟩ := h
  intro i hi
  rw [Stream'.get_drop]
  exact hs _ (by omega)

/-- A session uses up a reading of each pin. -/
theorem Quiet.session {n : ℕ} {w w' : World} (h : Quiet (n + 1) w) (hs : Seen [true] [false] w w') : Quiet n w' := by
  rcases h with h | h
  · exact .inl (hs.clk.eventually h)
  · exact .inr (hs.din.eventually h)

theorem not_mcuRequests {w : World} (h : Quiet 0 w) : ¬ McuRequests w := by
  rintro ⟨⟨k, hclk, -⟩, j, hdin, -⟩
  rcases h with h | h
  · exact absurd ((h _ (Nat.zero_le _)).symm.trans hclk.1) Bool.false_ne_true
  · exact absurd ((h _ (Nat.zero_le _)).symm.trans hdin.1) Bool.false_ne_true.symm

theorem restartPass_total : Total Live armSendRestartPass :=
  live_transfer.armSendRestartPass armRev_total

/-- The restart loop returns if the MCU no longer asks from some reading on. -/
theorem armSendRestart_returns {n : ℕ} {w : World} (hw : Live w) (h : Quiet n w) :
    armSendRestart.wp (fun _ => Live) w := by
  -- the induction is on the readings before the MCU is quiet
  induction n generalizing w with
  | zero =>
    refine wp_iter_pass.mpr (wp_mono (wp_and_wlp (restartPass_total w hw) restartPass_seen) ?_)
    rintro x w1 ⟨h1, hx⟩
    cases x with
    | inl u => exact absurd hx.1 (not_mcuRequests h)
    | inr free => exact h1
  | succ n ih =>
    refine wp_iter_pass.mpr (wp_mono (wp_and_wlp (restartPass_total w hw) restartPass_seen) ?_)
    rintro x w1 ⟨h1, hx⟩
    cases x with
    | inl u => exact ih h1 (h.session hx.2)
    | inr free => exact h1

theorem armSendCmd_returns {n : ℕ} {cmd : U32} {w : World} (hw : Live w) (h : Quiet n w) :
    (armSendCmd cmd).wp (fun _ => Live) w := by
  have c := total_closed Live
  refine wp_bind.mpr (wp_mono (armSendRestart_returns hw h) fun free w1 h1 => ?_)
  exact c.ite (armSendWord_total cmd) (c.bind (live_transfer.setValue _ _) fun _ => c.pure _) w1 h1

/-! ## The firmware path -/

/-- Starting earlier misses nothing. -/
theorem Toggles.of_drop {n m : ℕ} {s : Stream' Bool} (h : Toggles n (s.drop (2 * m))) :
    Toggles n s := by
  cases n with
  | zero => trivial
  | succ n =>
    obtain ⟨i, j, hi, hij, hj, hrest⟩ := h
    refine ⟨m + i, m + j, pairAt_drop.mp hi, by omega, pairAt_drop.mp hj, ?_⟩
    rw [Stream'.drop_drop] at hrest
    rwa [show 2 * (m + j + 1) = 2 * m + 2 * (j + 1) by omega]

theorem toggles_pulses (n : ℕ) (s : Stream' Bool) : Toggles n (pulses n s) := by
  induction n with
  | zero => trivial
  | succ n ih => exact ⟨0, 1, ⟨rfl, rfl⟩, Nat.zero_lt_one, ⟨rfl, rfl⟩, ih⟩

theorem not_toggles_const {n : ℕ} {v : Bool} : ¬ Toggles (n + 1) (.const v) := by
  rintro ⟨i, j, hi, -, hj, -⟩
  exact absurd (hj.1.symm.trans hi.1) Bool.false_ne_true

/-- A wait without a timeout stops at the first pair that agrees on its level. -/
theorem spinUntil_stops {delay : ℕ} {p : Gpio} {level : Bool} {w : World} :
    (spinUntil (readSettled delay p) level).wlp (fun _ w' => ∃ i, PairAt (w.levels p) i level ∧
      (∀ j < i, ¬ PairAt (w.levels p) j level) ∧
      w'.levels p = (w.levels p).drop (2 * (i + 1))) w := by
  unfold spinUntil
  -- the first `m` pairs have been read, and none agreed on the level
  refine wlp_repeatUntil (fun w' => ∃ m, (∀ j < m, ¬ PairAt (w.levels p) j level) ∧
    w'.levels p = (w.levels p).drop (2 * m)) ?_ ⟨0, by simp⟩
  rintro w1 ⟨m, hno, hlev⟩
  rw [wlp_bind]
  refine wlp_mono readSettled_pair ?_
  rintro v w2 ⟨k, hpair, hdiff, hlev2, -⟩
  rw [hlev] at hpair hdiff hlev2
  have hnext : w2.levels p = (w.levels p).drop (2 * (m + k + 1)) := by
    rw [hlev2, Function.update_self, Stream'.drop_drop]
    congr 1
    omega
  -- the pairs between do not agree at all
  have hbetween : ∀ j < m + k, ¬ PairAt (w.levels p) j level := by
    intro j hj hag
    by_cases hjm : j < m
    · exact hno j hjm hag
    · obtain ⟨i, rfl⟩ : ∃ i, j = m + i := ⟨j - m, by omega⟩
      have hag' := pairAt_drop.mpr hag
      exact hdiff i (by omega) (hag'.1.trans hag'.2.symm)
  have hat : PairAt (w.levels p) (m + k) v := pairAt_drop.mp hpair
  rw [wlp_ite]
  constructor
  · rintro rfl
    exact wlp_pure.mpr ⟨m + k, hat, hbetween, hnext⟩
  · intro hne
    refine wlp_pure.mpr ⟨m + k + 1, fun j hj hag => ?_, hnext⟩
    rcases Nat.lt_succ_iff_lt_or_eq.mp hj with hlt | rfl
    · exact hbetween j hlt hag
    · exact hne (hat.1.symm.trans hag.1)

/-- A wait without a timeout returns if some pair agrees on its level. -/
theorem spinUntil_returns {delay : ℕ} {p : Gpio} {level : Bool} :
    ∀ {i : ℕ} {w : World}, Live w → PairAt (w.levels p) i level →
      (spinUntil (readSettled delay p) level).wp (fun _ => Live) w := by
  intro i
  induction i using Nat.strongRecOn with
  | _ i ih =>
    intro w hw hpair
    refine wp_iter_pass.mpr ?_
    rw [wp_bind]
    refine wp_mono (wp_and_wlp (readSettled_total delay p w hw) readSettled_pair) ?_
    rintro v w1 ⟨h1, k, hk, hdiff, hlev, -⟩
    rw [wp_ite]
    refine ⟨fun _ => wp_pure.mpr h1, fun hne => wp_pure.mpr ?_⟩
    have hle : ¬ i < k := fun hlt => hdiff i hlt (hpair.1.trans hpair.2.symm)
    have hik : i ≠ k := by
      rintro rfl
      exact hne (hk.1.symm.trans hpair.1)
    refine ih (i - (k + 1)) (by omega) h1 ?_
    rw [hlev, Function.update_self, pairAt_drop, show k + 1 + (i - (k + 1)) = i by omega]
    exact hpair

theorem spinUntil_seen {delay : ℕ} {p : Gpio} {level : Bool} {i : ℕ} {w : World} (hw : Live w)
    (h : PairAt (w.levels p) i level) :
    (spinUntil (readSettled delay p) level).wp (fun _ w' => Live w' ∧
      ∃ i' ≤ i, w'.levels p = (w.levels p).drop (2 * (i' + 1))) w := by
  refine wp_mono (wp_and_wlp (spinUntil_returns hw h) spinUntil_stops) ?_
  rintro - w1 ⟨h1, i', -, hfirst, hlev⟩
  exact ⟨h1, i', Nat.le_of_not_lt fun hlt => hfirst i hlt h, hlev⟩

/-- One bit of the firmware path uses up one acknowledge, and the bits are counted down. -/
theorem firmwareBit_stops {bit_pos : ℕ} {byte : U8} {w : World} (hpos : 1 ≤ bit_pos) :
    (armSendFirmwareBit bit_pos byte).wlp (fun x w' =>
      (∀ n, Toggles n (w'.levels .mcuDin) → Toggles (n + 1) (w.levels .mcuDin)) ∧
      x.elim (fun q => 1 ≤ q.1 ∧ q.1 + 1 = bit_pos) (fun _ => bit_pos = 1)) w := by
  unfold armSendFirmwareBit
  rw [wlp_bind]
  refine wlp_mono spinUntil_stops ?_
  rintro - w1 ⟨i, hi, -, hlev1⟩
  simp only [wlp_bind, wlp_gpioSetValue, wlp_gpioDirectionOutput]
  refine wlp_mono spinUntil_stops ?_
  rintro - w2 ⟨j, hj, -, hlev2⟩
  simp only [World.emit_levels, World.setPad_levels, hlev1, pairAt_drop, Stream'.drop_drop] at hj hlev2
  have htoggle : ∀ n, Toggles n (w2.levels .mcuDin) → Toggles (n + 1) (w.levels .mcuDin) := by
    intro n hn
    refine ⟨i, i + 1 + j, hi, by omega, hj, ?_⟩
    rw [hlev2] at hn
    rwa [show 2 * (i + 1 + j + 1) = 2 * (i + 1) + 2 * (j + 1) by omega]
  rw [wlp_ite]
  constructor
  · intro hlast
    simp only [wlp_bind, wlp_gpioSetValue, wlp_gpioDirectionOutput, wlp_pure, Sum.elim_inr]
    exact ⟨htoggle, hlast⟩
  · intro hmore
    have hne : bit_pos - 1 ≠ 0 := by omega
    simp only [wlp_bind, wlp_gpioDirectionOutput, if_neg hne, wlp_pure, Sum.elim_inl]
    exact ⟨htoggle, by omega, by omega⟩

theorem firmwareBit_returns {bit_pos : ℕ} {byte : U8} {n : ℕ} {w : World} (hw : Live w)
    (h : Toggles (n + 1) (w.levels .mcuDin)) :
    (armSendFirmwareBit bit_pos byte).wp
      (fun _ w' => Live w' ∧ Toggles n (w'.levels .mcuDin)) w := by
  obtain ⟨i, j, hi, hij, hj, hrest⟩ := h
  unfold armSendFirmwareBit
  rw [wp_bind]
  refine wp_mono (spinUntil_seen hw hi) ?_
  rintro - w1 ⟨h1, i', hi', hlev1⟩
  simp only [wp_bind, wp_gpioSetValue, wp_gpioDirectionOutput]
  have hj1 : PairAt (w1.levels .mcuDin) (j - (i' + 1)) false := by
    rw [hlev1, pairAt_drop, show i' + 1 + (j - (i' + 1)) = j by omega]
    exact hj
  refine wp_mono (spinUntil_seen (by simpa using h1) hj1) ?_
  rintro - w2 ⟨h2, j', hj', hlev2⟩
  -- the waits stopped no later than the toggle that was assumed
  have hafter : Toggles n (w2.levels .mcuDin) := by
    refine Toggles.of_drop (m := j - (i' + 1 + j')) ?_
    simp only [hlev2, World.emit_levels, World.setPad_levels, hlev1, Stream'.drop_drop]
    rwa [show 2 * (i' + 1) + 2 * (j' + 1) + 2 * (j - (i' + 1 + j')) = 2 * (j + 1) by omega]
  simp [h2, hafter]

theorem firmwareByte_stops {byte : U8} {w : World} :
    (Proc.iter (fun p => armSendFirmwareBit p.1 p.2) (8, byte)).wlp
      (fun _ w' => ∀ n, Toggles n (w'.levels .mcuDin) → Toggles (n + 8) (w.levels .mcuDin)) w := by
  refine wlp_iter (fun p w' => (1 ≤ p.1 ∧ p.1 ≤ 8) ∧
    ∀ n, Toggles n (w'.levels .mcuDin) → Toggles (n + (8 - p.1)) (w.levels .mcuDin))
    ?_ ⟨by omega, by simp⟩
  rintro p w1 ⟨hp, hall⟩
  refine wlp_mono (firmwareBit_stops hp.1) ?_
  rintro x w2 ⟨hone, hx⟩
  cases x with
  | inl q =>
    obtain ⟨hq, hnext⟩ := hx
    refine ⟨⟨hq, by omega⟩, fun n hn => ?_⟩
    have h := hall (n + 1) (hone n hn)
    rwa [show n + 1 + (8 - p.1) = n + (8 - q.1) by omega] at h
  | inr u =>
    intro n hn
    have h := hall (n + 1) (hone n hn)
    rwa [show n + 1 + (8 - p.1) = n + 8 by rw [hx]] at h

theorem firmwareByte_returns {byte : U8} {n : ℕ} {w : World} (hw : Live w)
    (h : Toggles (n + 8) (w.levels .mcuDin)) :
    (Proc.iter (fun p => armSendFirmwareBit p.1 p.2) (8, byte)).wp
      (fun _ w' => Live w' ∧ Toggles n (w'.levels .mcuDin)) w := by
  refine wp_iter (fun p w' => 1 ≤ p.1 ∧ Live w' ∧ Toggles (n + p.1) (w'.levels .mcuDin))
    (fun p _ => p.1) ?_ ⟨by omega, hw, h⟩
  rintro p w1 ⟨hp, h1, htog⟩
  rw [show n + p.1 = n + (p.1 - 1) + 1 by omega] at htog
  refine wp_mono (wp_and_wlp (firmwareBit_returns h1 htog) (firmwareBit_stops hp)) ?_
  rintro x w2 ⟨⟨h2, htog2⟩, -, hx⟩
  cases x with
  | inl q =>
    obtain ⟨hq, hnext⟩ := hx
    rw [show n + (p.1 - 1) = n + q.1 by omega] at htog2
    exact ⟨⟨hq, h2, htog2⟩, by omega⟩
  | inr u =>
    rw [show n + (p.1 - 1) = n by rw [hx]; omega] at htog2
    exact ⟨h2, htog2⟩

/-- A firmware path that has returned has had every bit acknowledged. -/
theorem armSendFirmware_stops {buf : CArray} {count : ℕ} {w : World} :
    (armSendFirmware buf count).wlp (fun _ _ => Toggles (8 * count) (w.levels .mcuDin)) w := by
  refine wlp_iter (fun pos w' => pos ≤ count ∧
    ∀ n, Toggles n (w'.levels .mcuDin) → Toggles (n + 8 * pos) (w.levels .mcuDin))
    ?_ ⟨by omega, fun n hn => hn⟩
  rintro pos w1 ⟨hpos, hall⟩
  rw [wlp_ite]
  constructor
  · intro hlt
    rw [wlp_bind]
    refine wlp_mono firmwareByte_stops fun _ w2 h2 => wlp_pure.mpr ⟨hlt, fun n hn => ?_⟩
    have h := hall (n + 8) (h2 n hn)
    rwa [show n + 8 + 8 * pos = n + 8 * (pos + 1) by omega] at h
  · intro hge
    have h := hall 0 trivial
    rw [show 0 + 8 * pos = 8 * count by omega] at h
    exact wlp_pure.mpr h

/-- The firmware path returns if every bit is acknowledged. -/
theorem armSendFirmware_returns {buf : CArray} {count : ℕ} {w : World} (hw : Live w)
    (h : Toggles (8 * count) (w.levels .mcuDin)) :
    (armSendFirmware buf count).wp (fun _ => Live) w := by
  refine wp_iter (fun pos w' => pos ≤ count ∧ Live w' ∧
    Toggles (8 * (count - pos)) (w'.levels .mcuDin)) (fun pos _ => count - pos)
    ?_ ⟨by omega, hw, h⟩
  rintro pos w1 ⟨hpos, h1, htog⟩
  rw [wp_ite]
  constructor
  · intro hlt
    rw [show 8 * (count - pos) = 8 * (count - (pos + 1)) + 8 by omega] at htog
    rw [wp_bind]
    refine wp_mono (firmwareByte_returns h1 htog) ?_
    rintro - w2 ⟨h2, htog2⟩
    exact wp_pure.mpr ⟨⟨hlt, h2, htog2⟩, by omega⟩
  · intro _
    exact wp_pure.mpr h1

/-! ## The calls -/

/-- What the transfer of a payload needs of the levels: on the firmware path, an acknowledge for every
bit. -/
theorem armSendPayload_returns {cmd : U32} {count : ℕ} {buf : CArray} {w : World} (hw : Live w)
    (h : cmd = 0xA000 → Toggles (8 * count) (w.levels .mcuDin)) :
    (armSendPayload cmd count buf).wp (fun _ => Live) w := by
  have c := total_closed Live
  unfold armSendPayload
  rw [wp_ite]
  constructor
  · intro _
    refine c.ite ?_ ?_ w hw
    · exact c.bind (armSendBytes_total buf count) fun _ =>
        c.ite (c.bind live_transfer.armSendAck fun _ => c.pure _) (c.pure _)
    · refine c.bind (armRevBytes_total buf 0 count) fun p => ?_
      exact c.ite (c.bind live_command.ack fun _ => c.pure _) (c.pure _)
  · intro hfirmware
    rw [wp_bind]
    refine wp_mono (armSendFirmware_returns hw (h (not_not.mp hfirmware))) fun _ w1 h1 => ?_
    exact c.bind live_transfer.armSendAck (fun _ => c.pure _) w1 h1

theorem armSendPayload_stops {cmd : U32} {count : ℕ} {buf : CArray} {w w' : World}
    {r : Bool × CArray} (h : (armSendPayload cmd count buf).Ends w r w') (hf : cmd = 0xA000) :
    Toggles (8 * count) (w.levels .mcuDin) := by
  subst hf
  unfold armSendPayload at h
  rw [if_neg (by simp)] at h
  obtain ⟨u, w1, h1, -⟩ := ends_bind.mp h
  exact armSendFirmware_stops u w1 h1

theorem armSendBody_returns {n : ℕ} {cmd : U32} {w : World} (hw : Live w) (h : Quiet n w) :
    (armSendBody cmd).wp (fun _ => Live) w := by
  have c := total_closed Live
  unfold armSendBody
  rw [wp_bind]
  refine wp_mono (armSendCmd_returns hw h) fun ok w1 h1 => ?_
  refine c.ite (c.ite ?_ ?_) (c.pure _) w1 h1
  · exact c.bind armRev8bits_total fun o =>
      c.ite (c.bind live_command.ack fun _ => c.pure _) (c.pure _)
  · exact c.bind live_transfer.armSendAck fun _ => c.pure _

/-- The transfer of `arm_send_multi` returns if the MCU no longer asks from some reading on, and the firmware path is
    not come to. -/
theorem armSendMultiBody_returns {n : ℕ} {cmd : U32} {count : ℕ} {buf : CArray} {w : World} (hw : Live w)
    (h : Quiet n w)
    (hf : cmd = 0xA000 → count ≠ 0 → ¬ Grants (w.levels .mcuClk) (w.levels .mcuDin)) :
    (armSendMultiBody cmd count buf).wp (fun _ => Live) w := by
  unfold armSendMultiBody
  rw [wp_bind]
  refine wp_mono (wp_and_wlp (armSendCmd_returns hw h) armSendCmd_grants) ?_
  rintro ok w1 ⟨h1, hgrants⟩
  cases ok with
  | false => exact wp_pure.mpr h1
  | true =>
    refine armSendPayload_returns h1 fun hcmd => ?_
    by_cases hcount : count = 0
    · rw [hcount]
      trivial
    · exact absurd (hgrants rfl) (hf hcmd hcount)

theorem Live.taken {w : World} (h : Live w) : Live w.taken := by
  simpa [World.taken] using h

theorem returnsReleased_armSend {cmd : U32} {w : World} (h : (armSendBody cmd).wp (fun _ => Live) w.taken) :
    ReturnsReleased (armSend cmd) w := by
  unfold ReturnsReleased armSend disableIrq lockCar enableIrq unlockCar
  simp only [wp_bind, wp_emit]
  exact wp_mono h fun _ w1 _ => ⟨w1, rfl⟩

theorem returnsReleased_armSendMulti {cmd : U32} {count : ℕ} {buf : CArray} {w : World}
    (h : (armSendMultiBody cmd count buf).wp (fun _ => Live) w.taken) :
    ReturnsReleased (armSendMulti cmd count buf) w := by
  unfold ReturnsReleased armSendMulti disableIrq lockCar enableIrq unlockCar
  simp only [wp_bind, wp_emit, wp_pure]
  exact wp_mono h fun _ w1 _ => ⟨w1, rfl⟩

theorem armSend_sends {cmd : U32} {w : World} (h : ReturnsReleased (armSend cmd) w) :
    ∃ ok w1, (armSendCmd cmd).Ends w.taken ok w1 := by
  obtain ⟨u, w', hrun, -⟩ := h
  unfold armSend disableIrq lockCar at hrun
  simp only [ends_bind, ends_emit] at hrun
  obtain ⟨_, _, rfl, _, _, rfl, _, w1, hbody, -⟩ := hrun
  obtain ⟨ok, w2, hsent, -⟩ := ends_bind.mp hbody
  exact ⟨ok, w2, hsent⟩

theorem armSendMulti_sends {cmd : U32} {count : ℕ} {buf : CArray} {w : World}
    (h : ReturnsReleased (armSendMulti cmd count buf) w) : ∃ ok w1, (armSendCmd cmd).Ends w.taken ok w1 ∧
      (ok = true → ∃ r w2, (armSendPayload cmd count buf).Ends w1 r w2) := by
  obtain ⟨r, w', hrun, -⟩ := h
  unfold armSendMulti disableIrq lockCar at hrun
  simp only [ends_bind, ends_emit] at hrun
  obtain ⟨_, _, rfl, _, _, rfl, r1, w1, hbody, -⟩ := hrun
  obtain ⟨ok, w2, hsent, hrest⟩ := ends_bind.mp hbody
  refine ⟨ok, w2, hsent, ?_⟩
  rintro rfl
  exact ⟨r1, w1, hrest⟩

/-- An MCU that lets the command word through and then acknowledges every bit makes `arm_send_multi` return, on the
    firmware path as well. -/
theorem armSendMulti_returns_acknowledged {cmd : U32} {count : ℕ} {buf : CArray} {w : World} {clk din : Stream' Bool}
    (hw : Live w) (h : Ahead w (grantClk clk) (grantDin (pulses (8 * count) din))) :
    ReturnsReleased (armSendMulti cmd count buf) w := by
  refine returnsReleased_armSendMulti ?_
  obtain ⟨ok, w1, hsent, rfl, -, hdin⟩ := armSendCmd_peer cmd (w := w.taken) h
  have h1 : Live w1 := live_kept.armSendCmd cmd _ _ _ hsent hw.taken
  refine wp_bind.mpr ⟨true, w1, hsent, armSendPayload_returns h1 fun _ => ?_⟩
  rw [hdin]
  exact toggles_pulses _ _

/-! ## An MCU that never moves -/

/-- All future reads of a pin return the same level. -/
def Still (w : World) : Prop := ∀ p, (w.levels p).tail = w.levels p

theorem still_kept : Kept fun w w' => Still w → w'.levels = w.levels where
  refl _ _ := rfl
  trans _ _ _ h h' hs := by
    have heq := h hs
    exact (h' (by rwa [Still, heq])).trans heq
  level w p h := by simp [h p]
  clock _ _ := rfl
  frame _ _ := rfl
  pad _ _ _ _ := rfl
  car _ _ _ := rfl
  emit _ _ _ _ := rfl

theorem still_restarts {w w' : World} {free : Bool} (h : armSendRestart.Ends w free w') :
    ¬ (Still w ∧ McuRequests w) := by
  refine iter_induction (P := fun _ w _ _ => ¬ (Still w ∧ McuRequests w)) ?_ ?_ h
  · rintro _ w _ w1 _ _ hpass hno ⟨hs, hreq⟩
    have hlev : w1.levels = w.levels := still_kept.armSendRestartPass _ _ _ hpass hs
    refine hno ⟨?_, ?_⟩
    · rwa [Still, hlev]
    · rwa [McuRequests, hlev]
  · rintro _ w free w' hpass ⟨-, hreq⟩
    exact (restartPass_seen (.inr free) w' hpass).1 hreq

theorem settlesTo_const (v : Bool) : SettlesTo (.const v) v :=
  ⟨0, ⟨rfl, rfl⟩, fun _ hj => absurd hj (Nat.not_lt_zero _)⟩

theorem stuck_still (clk din : Bool) : Still (.stuck clk din) := by
  intro p
  cases p <;> rfl

/-- A clock that steps by 1000 between two readings. -/
theorem runs_thousand : Wraparound.Runs 750000 (fun n => 1000 * n) where
  mono n := by omega
  steps n := by omega
  unbounded t := ⟨t, by omega⟩

theorem stuck_live (clk din : Bool) : Live (.stuck clk din) where
  clock := runs_thousand
  pins p i := ⟨0, by cases p <;> rfl⟩

/-- While the MCU holds `MCU_CLK` high and `MCU_DIN` low, no command word leaves. -/
theorem stuck_sends_nothing {cmd : U32} {ok : Bool} {w' : World} :
    ¬ (armSendCmd cmd).Ends (World.stuck true false).taken ok w' := by
  intro h
  obtain ⟨free, w1, hrestart, -⟩ := ends_bind.mp h
  exact still_restarts hrestart ⟨stuck_still true false, settlesTo_const true, settlesTo_const false⟩

/-! ## The calls -/

/-- An MCU that lets the command word through, and never moves again, holds the firmware path. -/
theorem firmware_held {count : ℕ} (hcount : count ≠ 0) (buf : CArray) {w : World} (clk : Stream' Bool) (v : Bool)
    (h : Ahead w (grantClk clk) (grantDin (.const v))) : ¬ ReturnsReleased (armSendMulti 0xA000 count buf) w := by
  intro hreturns
  obtain ⟨ok, w1, hsent, hpayload⟩ := armSendMulti_sends hreturns
  obtain ⟨ok', w1', hsent', rfl, -, hdin⟩ := armSendCmd_peer 0xA000 (w := w.taken) h
  obtain ⟨rfl, rfl⟩ := hsent.det hsent'
  obtain ⟨r, w2, hrun⟩ := hpayload rfl
  have htoggles := armSendPayload_stops hrun rfl
  rw [hdin, show 8 * count = 8 * count - 1 + 1 by omega] at htoggles
  exact not_toggles_const htoggles

/-- If the MCU asks to be heard again and again, its readings may be those of one that never moves. -/
theorem reads_stuck {clk din : Stream' Bool} (h : ¬ Relents clk din) :
    Reads clk (.const true) ∧ Reads din (.const false) := by
  unfold Relents at h
  push Not at h
  refine ⟨reads_const fun n => ?_, reads_const fun n => ?_⟩
  · exact (h.1 n).imp fun i hi => ⟨hi.1, Bool.eq_true_of_not_eq_false hi.2⟩
  · exact (h.2 n).imp fun i hi => ⟨hi.1, Bool.eq_false_of_not_eq_true hi.2⟩

theorem Relents.quiet {clk din : Stream' Bool} (h : Relents clk din) {w : World}
    (hclk : Reads clk (w.levels .mcuClk)) (hdin : Reads din (w.levels .mcuDin)) : ∃ n, Quiet n w := by
  rcases h with h | h
  · exact (hclk.eventually h).imp fun _ => .inl
  · exact (hdin.eventually h).imp fun _ => .inr

/-- A live world in which a peer that lets the command word through never moves again. -/
theorem exists_granting {clk din : Stream' Bool} (h : Grants clk din) : ∃ (w : World) (c v : Bool), Live w ∧
    Reads clk (w.levels .mcuClk) ∧ Reads din (w.levels .mcuDin) ∧
      Ahead w (grantClk (.const c)) (grantDin (.const v)) := by
  obtain ⟨c, hc⟩ := exists_reads_const clk
  obtain ⟨v, hv⟩ := exists_reads_const din
  have hdin : grantDin (.const v) = holds (true :: pulseLevels 16) (.const v) := by
    rw [grantDin, pulses_eq]
    rfl
  refine ⟨{ World.ofPeer (grantClk (.const c)) (grantDin (.const v)) with clock := fun n => 1000 * n }, c, v,
    ⟨runs_thousand, fun p => ?_⟩, reads_holds h.1 hc, ?_, ahead_ofPeer⟩
  · cases p with
    | mcuClk => exact settles_holds _ _
    | mcuDin => exact hdin ▸ settles_holds _ _
    | mcuDout => exact fun i => ⟨0, rfl⟩
  · exact hdin ▸ reads_holds h.2 hv

/-- For the levels of a peer, `arm_send` returns from every live world in which they are read if and only if the
    MCU relents, and `arm_send_multi` needs for a firmware block also that the command word does not get through.
    Both release what they took. -/
theorem link_calls_return_iff (clk din : Stream' Bool) :
    (∀ cmd, ReturnsFor clk din (armSend cmd) ↔ Relents clk din) ∧
    (∀ cmd count buf, ReturnsFor clk din (armSendMulti cmd count buf) ↔
      Relents clk din ∧ (cmd = 0xA000 → count ≠ 0 → ¬ Grants clk din)) := by
  constructor
  · intro cmd
    constructor
    · intro h
      by_contra hno
      obtain ⟨hclk, hdin⟩ := reads_stuck hno
      obtain ⟨ok, w1, hsent⟩ := armSend_sends (h (.stuck true false) (stuck_live true false) hclk hdin)
      exact stuck_sends_nothing hsent
    · intro h w hw hclk hdin
      obtain ⟨n, hquiet⟩ := h.quiet hclk hdin
      exact returnsReleased_armSend (armSendBody_returns hw.taken hquiet)
  · intro cmd count buf
    constructor
    · intro h
      constructor
      · by_contra hno
        obtain ⟨hclk, hdin⟩ := reads_stuck hno
        obtain ⟨ok, w1, hsent, -⟩ := armSendMulti_sends (h (.stuck true false) (stuck_live true false) hclk hdin)
        exact stuck_sends_nothing hsent
      · rintro rfl hcount hgrants
        obtain ⟨w, c, v, hw, hclk, hdin, hahead⟩ := exists_granting hgrants
        exact firmware_held hcount buf _ v hahead (h w hw hclk hdin)
    · rintro ⟨h, hf⟩ w hw hclk hdin
      obtain ⟨n, hquiet⟩ := h.quiet hclk hdin
      refine returnsReleased_armSendMulti (armSendMultiBody_returns hw.taken hquiet fun hcmd hcount hgrants => ?_)
      exact hf hcmd hcount ⟨hgrants.1.of_reads hclk, hgrants.2.of_reads hdin⟩

/-- An MCU that holds `MCU_CLK` high and `MCU_DIN` low keeps `arm_send` in its restart loop. -/
theorem arm_send_restarts_forever :
    ¬ ∀ w, Live w → (∀ cmd, ReturnsReleased (armSend cmd) w) ∧
      ∀ cmd count buf, ReturnsReleased (armSendMulti cmd count buf) w := by
  intro h
  obtain ⟨ok, w1, hsent⟩ := armSend_sends ((h (.stuck true false) (stuck_live true false)).1 0x755)
  exact stuck_sends_nothing hsent

end MtcDrivers
