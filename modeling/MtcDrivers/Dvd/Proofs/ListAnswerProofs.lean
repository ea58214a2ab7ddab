import MtcDrivers.Dvd.ListAnswer
import MtcDrivers.Dvd.Proofs.ListsProofs
import MtcDrivers.Ioctl.Proofs.TextProofs

/-!
# Proofs: answers about folders and titles

The search for a folder finds the first one that has the number. The one for a title begins at the second, and
goes on through the head, which it reads as if it were a record. A folder that is found is shown with a number
too many, and for a title that is found the counter never becomes 31.
-/

namespace MtcDrivers

namespace DvdLists

open Linked Proc History

variable {head a result a4 v7 : U32} {records before after : List U32} {w w' : Memory}

/-! ## Reads -/

/-- An access of the search. -/
def Allowed (head : U32) (records : List U32) (e : Access) : Prop := e = .readNext head ∨ e.cell ∈ records

/-- Only reads, of the records and of the link of the head. -/
structure Searched (head : U32) (records : List U32) (w w' : Memory) : Prop where
  links : w'.links = w.links
  bytes : w'.bytes = w.bytes
  buf : w'.buf = w.buf
  log : GrewWith Memory.log (Allowed head records) w w'

theorem Searched.refl (w : Memory) : Searched head records w w :=
  ⟨rfl, rfl, rfl, .of_eq rfl⟩

theorem Searched.emit (h : Searched head records w w') {e : Access} (he : Allowed head records e) :
    Searched head records w (w'.emit e) where
  links := h.links
  bytes := h.bytes
  buf := h.buf
  log := (grewWith_isPreorder Memory.log _).trans _ _ _ h.log (.of_cons rfl he)

theorem Searched.idOf (h : Searched head records w w') (a : U32) : w'.idOf a = w.idOf a := by
  rw [Memory.idOf, Memory.idOf, Memory.wordOf, Memory.wordOf, h.bytes]

theorem wp_isEntry {Q : Bool → Memory → Prop} : (isEntry a result).wp Q w ↔
    Q (w.idOf a == result) ((w.emit (.readByte a 8)).emit (.readByte a 9)) := by
  simp [isEntry, readWord, readByte, Memory.idOf, Memory.wordOf]

theorem wlp_isEntry {Q : Bool → Memory → Prop} : (isEntry a result).wlp Q w ↔
    Q (w.idOf a == result) ((w.emit (.readByte a 8)).emit (.readByte a 9)) := by
  simp [isEntry, readWord, readByte, Memory.idOf, Memory.wordOf]

theorem wlp_readNext {Q : U32 → Memory → Prop} :
    (readNext a).wlp Q w ↔ Q (w.links.next a) (w.emit (.readNext a)) := by
  simp [readNext]

/-! ## The search for a folder -/

/-- By induction on the records behind the cursor. -/
theorem wp_findLoop (hring : IsRing w.links head records) : ∀ {after : List U32} (before : List U32) {a : U32}
    {w' : Memory}, records = before ++ a :: after → Searched head records w w' →
    (iter (findPass result head) a).wp (fun o w'' =>
      o = after.find? (w.idOf · == result) ∧ Searched head records w w'') w' := by
  intro after
  induction after with
  | nil =>
    intro before a w' hsplit h
    have ha : a ∈ records := hsplit ▸ List.mem_append_right before List.mem_cons_self
    have hnext : w'.links.next a = head := by
      rw [h.links]
      exact (hsplit ▸ hring).next_record
    refine wp_iter_pass.mpr ?_
    rw [findPass, wp_bind, wp_readNext, hnext, if_pos rfl]
    exact wp_pure.mpr ⟨rfl, h.emit (Or.inr ha)⟩
  | cons b after ih =>
    intro before a w' hsplit h
    have ha : a ∈ records := hsplit ▸ List.mem_append_right before List.mem_cons_self
    have hb : b ∈ records :=
      hsplit ▸ List.mem_append_right before (List.mem_cons_of_mem a List.mem_cons_self)
    have hne : head ≠ b := fun heq => hring.head_notMem (heq ▸ hb)
    have hnext : w'.links.next a = b := by
      rw [h.links]
      exact (hsplit ▸ hring).next_record
    have hread := ((h.emit (e := .readNext a) (Or.inr ha)).emit (e := .readByte b 8) (Or.inr hb)).emit
      (e := .readByte b 9) (Or.inr hb)
    refine wp_iter_pass.mpr ?_
    rw [findPass, wp_bind, wp_readNext, hnext, if_neg hne, wp_bind, wp_isEntry,
      (h.emit (e := .readNext a) (Or.inr ha)).idOf]
    cases hid : w.idOf b == result with
    | true => exact wp_pure.mpr ⟨by simp [hid], hread⟩
    | false =>
      refine wp_pure.mpr (wp_mono (ih (before ++ [a]) (by simp [hsplit]) hread) fun o w'' ho => ?_)
      exact ⟨by simp [hid, ho.1], ho.2⟩

theorem wp_find (hring : IsRing w.links head (a :: after)) (h : Searched head (a :: after) w w') :
    (find result head a).wp (fun o w'' =>
      o = (a :: after).find? (w.idOf · == result) ∧ Searched head (a :: after) w w'') w' := by
  have ha : a ∈ a :: after := List.mem_cons_self
  have hread := (h.emit (e := .readByte a 8) (Or.inr ha)).emit (e := .readByte a 9) (Or.inr ha)
  rw [find, wp_bind, wp_isEntry, h.idOf]
  cases hid : w.idOf a == result with
  | true => exact wp_pure.mpr ⟨by simp [hid], hread⟩
  | false =>
    refine wp_mono (wp_findLoop hring [] rfl hread) fun o w'' ho => ?_
    exact ⟨by simp [hid, ho.1], ho.2⟩

theorem Searched.answered {kind : Kind} (h : Searched head records w w')
    (habsent : ∀ r ∈ records, w.idOf r ≠ result) : Answered kind head records result w w' := by
  have hbuf : w'.buf = w.buf ++ [] := by rw [h.buf, List.append_nil]
  exact ⟨⟨h.links, h.bytes⟩, ⟨[], hbuf, fun r hr hid => absurd hid (habsent r hr), fun _ => rfl⟩, h.log.since⟩

/-- A request for a folder that is not there. -/
theorem folder_absent (hring : IsRing w.links head records) (habsent : ∀ r ∈ records, w.idOf r ≠ result) :
    AnswersRight .folder head records result a4 v7 w := by
  have hstart : Searched head records w (w.emit (.readNext head)) := (Searched.refl w).emit (Or.inl rfl)
  rw [AnswersRight, getEntry, dvdGetFolder, wp_bind, wp_readNext, hring.next_head]
  cases records with
  | nil =>
    rw [if_neg (not_not.mpr (show head = List.headD [] head from rfl))]
    exact wp_pure.mpr (hstart.answered habsent)
  | cons a rest =>
    have hne : head ≠ a := fun heq => hring.head_notMem (heq ▸ List.mem_cons_self)
    rw [List.headD_cons, if_pos hne, wp_bind]
    refine wp_mono (wp_find hring hstart) fun o w' ho => ?_
    have hnone : (a :: rest).find? (w.idOf · == result) = none := by
      refine List.find?_eq_none.mpr fun r hr => ?_
      simpa using habsent r hr
    obtain ⟨rfl, h⟩ := ho
    rw [hnone]
    exact wp_pure.mpr (h.answered habsent)

/-! ## A folder that is found -/

/-- Text with at least `n` commas has been appended. -/
def Appended (n : ℕ) (w w' : Memory) : Prop := ∃ text, w'.buf = w.buf ++ text ∧ n ≤ text.count comma

theorem Appended.trans {n n' : ℕ} {w'' : Memory} (h : Appended n w w') (h' : Appended n' w' w'') :
    Appended (n + n') w w'' := by
  obtain ⟨text, hbuf, hle⟩ := h
  obtain ⟨text', hbuf', hle'⟩ := h'
  refine ⟨text ++ text', by rw [hbuf', hbuf, List.append_assoc], ?_⟩
  rw [List.count_append]
  omega

theorem wlp_sprintf {text : Text} {Q : U32 → Memory → Prop} {n : ℕ} (hn : n ≤ text.count comma)
    (hQ : ∀ v w', Appended n w w' → Q v w') : (sprintf text).wlp Q w := by
  simp only [sprintf, wlp_bind, wlp_modify, wlp_pure]
  exact hQ _ _ ⟨text, rfl, hn⟩

theorem one_le_count_fmtDComma (v : U32) : 1 ≤ (fmtDComma v).count comma := by
  simp [fmtDComma]

theorem one_le_count_fmtD (v v' : U32) : 1 ≤ (fmtD v v').count comma := by
  simp [fmtD]
  omega

/-- Reads append nothing. -/
theorem wlp_readWord {off : ℕ} {Q : U16 → Memory → Prop} (hQ : ∀ v w', Appended 0 w w' → Q v w') :
    (readWord a off).wlp Q w := by
  simp only [readWord, readByte, wlp_bind, wlp_modify, wlp_get, wlp_pure]
  exact hQ _ _ ⟨[], by simp⟩

theorem wlp_readByte {off : ℕ} {Q : U8 → Memory → Prop} (hQ : ∀ v w', Appended 0 w w' → Q v w') :
    (readByte a off).wlp Q w := by
  simp only [readByte, wlp_bind, wlp_modify, wlp_get, wlp_pure]
  exact hQ _ _ ⟨[], by simp⟩

theorem wlp_readInt {off : ℕ} {Q : U32 → Memory → Prop} (hQ : ∀ v w', Appended 0 w w' → Q v w') :
    (readInt a off).wlp Q w := by
  simp only [readInt, wlp_bind]
  exact wlp_readWord fun v w1 h1 => wlp_readWord fun v' w2 h2 => wlp_pure.mpr (hQ _ _ (h1.trans h2))

/-- The counter starts at a multiple of 256, and every pass prints a comma before it is stepped. -/
theorem wlp_folderLoop {b : U32 × U32} {w0 : Memory} {n : ℕ} (h : Appended (n + b.1.toNat % 256) w0 w) :
    (iter (folderPass a) b).wlp (fun _ w' => Appended (n + 31) w0 w') w := by
  refine wlp_iter (fun b w' => Appended (n + b.1.toNat % 256) w0 w') (fun b w1 h1 => ?_) h
  rw [folderPass, wlp_bind]
  refine wlp_sprintf (one_le_count_fmtDComma b.2) fun _ w2 h2 => ?_
  rw [wlp_bind]
  refine wlp_readInt fun v12 w3 h3 => ?_
  have hall := (h1.trans h2).trans h3
  have hstep : (b.1 + 1).toNat % 256 ≤ b.1.toNat % 256 + 1 := by
    rw [BitVec.toNat_add, show (1 : U32).toNat = 1 from rfl]
    omega
  have hmono : ∀ {k k' : ℕ}, k' ≤ k → Appended k w0 w3 → Appended k' w0 w3 :=
    fun hle h => ⟨h.choose, h.choose_spec.1, hle.trans h.choose_spec.2⟩
  split_ifs with hmore
  · have hle : n + (b.1 + 1).toNat % 256 ≤ n + b.1.toNat % 256 + 1 + 0 := by omega
    exact wlp_pure.mpr (hmono hle hall)
  · have hlast : (b.1 + 1).toNat % 256 = 31 := by
      rw [not_not.mp hmore]
      rfl
    have hle : n + 31 ≤ n + b.1.toNat % 256 + 1 + 0 := by omega
    exact wlp_pure.mpr (hmono hle hall)

theorem toNat_clearLow (v : U32) : (clearLow v).toNat % 256 = 0 := by
  rw [clearLow, BitVec.toNat_and, show (0xFFFFFF00 : U32).toNat = 0xFFFFFF00 from rfl, show 256 = 2 ^ 8 from rfl,
    Nat.and_mod_two_pow]
  exact Nat.and_zero _

theorem wlp_printFolder (hnull : a ≠ 0) :
    (printFolder result a4 v7 a).wlp (fun _ w' => Appended 34 w w') w := by
  have hclear := toNat_clearLow v7
  rw [printFolder, if_pos hnull, wlp_bind]
  refine wlp_readWord fun low w1 h1 => ?_
  rw [wlp_bind]
  refine wlp_sprintf (one_le_count_fmtDComma _) fun _ w2 h2 => ?_
  rw [wlp_bind]
  refine wlp_readWord fun high w3 h3 => ?_
  rw [wlp_bind]
  refine wlp_sprintf (one_le_count_fmtDComma _) fun _ w4 h4 => ?_
  rw [wlp_bind]
  refine wlp_readByte fun v10 w5 h5 => ?_
  rw [wlp_bind]
  have hstart := (((h1.trans h2).trans h3).trans h4).trans h5
  refine wlp_mono (wlp_folderLoop (n := 2) (by rw [hclear]; exact hstart)) fun v10 w6 h6 => ?_
  exact wlp_sprintf (one_le_count_fmtD v10 a4) fun _ w7 h7 => h6.trans h7

theorem count_decimalInt (v : U32) : (decimalInt v).count comma = 0 := by
  have hdigits : (decimal v.toInt.natAbs).count comma = 0 := by
    refine List.count_eq_zero.mpr fun hmem => ?_
    exact ne_comma_of_digit (isDigit_of_mem_decimal hmem) rfl
  rw [decimalInt]
  split_ifs
  · rw [List.count_cons_of_ne (by decide), hdigits]
  · exact hdigits

/-- Between numbers there is a comma each. -/
theorem count_commaList (v : U32) (vs : List U32) : (commaList (v :: vs)).count comma = vs.length := by
  induction vs generalizing v with
  | nil => simp [commaList, count_decimalInt]
  | cons v' vs ih =>
    have hcons : commaList (v :: v' :: vs) = decimalInt v ++ (comma :: commaList (v' :: vs)) := by
      simp [commaList, List.intercalate_cons_cons]
    rw [hcons, List.count_append, count_decimalInt, List.count_cons_self, ih, List.length_cons, Nat.zero_add]

/-- The text of a folder has at most 33 commas. -/
theorem count_folderText {r : U32} {text : Text} (h : text ∈ w.recordTexts r .folder) : text.count comma ≤ 33 := by
  have hlen : (w.dataOf r 12).length = 32 := by simp [Memory.dataOf]
  simp only [Memory.recordTexts, List.mem_cons, List.not_mem_nil, or_false] at h
  rcases h with rfl | rfl
  · rw [count_commaList, hlen]
    omega
  · rw [count_commaList, List.length_cons, hlen]

/-- A request for a folder that is there. -/
theorem folder_found (hlist : WellFormed w head records) {r : U32} (hr : r ∈ records) (hid : w.idOf r = result) :
    ¬AnswersRight .folder head records result a4 v7 w := by
  intro hright
  have hring := hlist.ring
  have hstart : Searched head records w (w.emit (.readNext head)) := (Searched.refl w).emit (Or.inl rfl)
  have hwrong : (dvdGetFolder head result a4 v7).wlp (fun _ w' => Appended 34 w w') w := by
    rw [dvdGetFolder, wlp_bind, wlp_readNext, hring.next_head]
    cases records with
    | nil => exact absurd hr List.not_mem_nil
    | cons a rest =>
      have hne : head ≠ a := fun heq => hring.head_notMem (heq ▸ List.mem_cons_self)
      rw [List.headD_cons, if_pos hne, wlp_bind]
      refine wlp_mono (wlp_of_wp (wp_find hring hstart)) fun o w1 ho => ?_
      obtain ⟨rfl, h1⟩ := ho
      cases hfound : (a :: rest).find? (w.idOf · == result) with
      | none =>
        have hnone := List.find?_eq_none.mp hfound r hr
        exact absurd hid (by simpa using hnone)
      | some b =>
        have hb : b ≠ 0 := by
          rintro rfl
          exact hlist.notNull (List.mem_cons_of_mem head (List.mem_of_find?_eq_some hfound))
        refine wlp_mono (wlp_printFolder hb) fun _ w2 h2 => ?_
        obtain ⟨text, hbuf, hle⟩ := h2
        exact ⟨text, by rw [hbuf, h1.buf], hle⟩
  obtain ⟨v, w', -, hanswered, text, hbuf, hle⟩ := wp_and_wlp hright hwrong
  obtain ⟨text', hbuf', hshown, -⟩ := hanswered.printed
  have hsame : text' = text := List.append_cancel_left (hbuf'.symm.trans hbuf)
  have hcount := count_folderText (hshown r hr hid)
  rw [hsame] at hcount
  omega

/-! ## The search for a title -/

/-- The cursor is at a cell of the ring, which has been checked. -/
structure Checked (head : U32) (records : List U32) (w : Memory) (a : U32) (w' : Memory) : Prop where
  cell : a ∈ head :: records
  links : w'.links = w.links
  log : ∃ new, Grew Memory.log new w w' ∧ .readByte a 8 ∈ new

theorem Checked.check {new : List Access} (hgrew : Grew Memory.log new w w') (hlinks : w'.links = w.links)
    (ha : a ∈ head :: records) : Checked head records w a ((w'.emit (.readByte a 8)).emit (.readByte a 9)) := by
  have hlast : Grew Memory.log [.readByte a 8, .readByte a 9] w' ((w'.emit (.readByte a 8)).emit (.readByte a 9)) := rfl
  refine ⟨ha, hlinks, new ++ [.readByte a 8, .readByte a 9], hgrew.trans hlast, ?_⟩
  exact List.mem_append_right new List.mem_cons_self

/-- A search that ends at the first record without having found a cell has come from the head. -/
theorem wlp_findTitle {m : U32} {rest : List U32} {new : List Access} (hring : IsRing w.links head (m :: rest))
    (hgrew : Grew Memory.log new w w') (hlinks : w'.links = w.links) (ha : a ∈ head :: m :: rest) :
    (find result m a).wlp (fun o w'' =>
      (o = none → Checked head (m :: rest) w head w'') ∧ ∀ b, o = some b → b ∈ head :: m :: rest) w' := by
  have hchecked := Checked.check hgrew hlinks ha
  rw [find, wlp_bind, wlp_isEntry]
  cases w'.idOf a == result with
  | true =>
    refine wlp_pure.mpr ⟨fun h => absurd h (Option.some_ne_none a), fun b hb => ?_⟩
    obtain rfl := Option.some.inj hb
    exact ha
  | false =>
    refine wlp_iter (Checked head (m :: rest) w) (fun b w1 h1 => ?_) hchecked
    obtain ⟨hb, hlinks1, new1, hgrew1, hread1⟩ := h1
    obtain ⟨hmem, hback⟩ := hring.next_mem hb
    rw [findPass, wlp_bind, wlp_readNext, hlinks1]
    have hlast : Grew Memory.log [.readNext b] w1 (w1.emit (.readNext b)) := rfl
    split_ifs with hstop
    · -- only the head is in front of the first record
      have hhead : b = head := by rw [← hback, ← hstop, hring.prev_first]
      refine wlp_pure.mpr ⟨fun _ => ⟨List.mem_cons_self, hlinks1, _, hgrew1.trans hlast, ?_⟩,
        fun c hc => absurd hc.symm (Option.some_ne_none c)⟩
      exact List.mem_append_left _ (hhead ▸ hread1)
    · rw [wlp_bind, wlp_isEntry]
      have hnext := Checked.check (hgrew1.trans hlast) hlinks1 hmem
      cases (w1.emit (.readNext b)).idOf (w.links.next b) == result with
      | true =>
        refine wlp_pure.mpr ⟨fun h => absurd h (Option.some_ne_none _), fun c hc => ?_⟩
        obtain rfl := Option.some.inj hc
        exact hmem
      | false => exact wlp_pure.mpr hnext

/-- The counter goes in steps of 8 and never becomes 31. -/
theorem wlp_printMedia (hnull : a ≠ 0) : (printMedia result a4 a).wlp (fun _ _ => False) w := by
  rw [printMedia, if_pos hnull, wlp_bind]
  refine wlp_readWord fun v9 w1 _ => ?_
  rw [wlp_bind]
  refine wlp_sprintf (Nat.zero_le _) fun _ w2 _ => ?_
  rw [wlp_bind]
  refine wlp_readByte fun v12 w3 _ => ?_
  rw [wlp_bind]
  refine wlp_iter_forever (fun b _ => b.1.toNat % 8 = 0) (fun b w4 hb => ?_) ?_
  · rw [mediaPass, wlp_bind]
    refine wlp_sprintf (Nat.zero_le _) fun _ w5 _ => ?_
    rw [wlp_bind]
    refine wlp_readInt fun v14 w6 _ => ?_
    have hnext : (b.1 + 8).toNat % 8 = 0 := by
      rw [BitVec.toNat_add, show (8 : U32).toNat = 8 from rfl]
      omega
    have hmore : b.1 + 8 ≠ 31 := by
      intro h
      rw [h] at hnext
      exact absurd hnext (by decide)
    rw [if_pos hmore]
    exact wlp_pure.mpr ⟨_, rfl, hnext⟩
  · have hclear := toNat_clearLow a
    show (clearLow a).toNat % 8 = 0
    omega

/-- A request for a title from a list that is not empty. -/
theorem media_wrong {m : U32} {rest : List U32} (hlist : WellFormed w head (m :: rest)) :
    ¬AnswersRight .media head (m :: rest) result a4 v7 w := by
  intro hright
  have hring := hlist.ring
  have hne : head ≠ m := fun heq => hring.head_notMem (heq ▸ List.mem_cons_self)
  have hm := (hring.next_mem (List.mem_cons_of_mem head List.mem_cons_self)).1
  have hwrong : (dvdGetMedia head result a4).wlp (fun _ w' => Checked head (m :: rest) w head w') w := by
    rw [dvdGetMedia, wlp_bind, wlp_readNext, wlp_bind, wlp_readNext, hring.next_head, List.headD_cons, if_pos hne,
      wlp_bind]
    have hgrew : Grew Memory.log [.readNext head, .readNext m] w
      ((w.emit (.readNext head)).emit (.readNext m)) := rfl
    refine wlp_mono (wlp_findTitle hring hgrew rfl hm) fun o w1 ho => ?_
    cases o with
    | none => exact wlp_pure.mpr (ho.1 rfl)
    | some b =>
      have hb : b ≠ 0 := by
        rintro rfl
        exact hlist.notNull (ho.2 0 rfl)
      exact wlp_mono (wlp_printMedia hb) fun _ _ h => h.elim
  obtain ⟨v, w', -, hanswered, hchecked⟩ := wp_and_wlp hright hwrong
  obtain ⟨new, hgrew, hread⟩ := hchecked.log
  have hreads := hanswered.reads (.readByte head 8) (hgrew.since.symm ▸ hread)
  rcases hreads with heq | hmem
  · exact Access.noConfusion heq
  · exact hring.head_notMem hmem

/-- A request for a title from the empty list. -/
theorem media_empty (hring : IsRing w.links head []) : AnswersRight .media head [] result a4 v7 w := by
  have hnext : w.links.next head = head := hring.empty.1
  rw [AnswersRight, getEntry, dvdGetMedia, wp_bind, wp_readNext, wp_bind, hnext, wp_readNext]
  rw [if_neg (not_not.mpr rfl)]
  have hread : Searched head [] w ((w.emit (.readNext head)).emit (.readNext head)) :=
    ((Searched.refl w).emit (Or.inl rfl)).emit (Or.inl rfl)
  exact wp_pure.mpr (hread.answered fun r hr => absurd hr List.not_mem_nil)

/-- A request is answered right exactly if there is nothing to show. -/
theorem list_answers_right_iff (kind : Kind) (hlist : WellFormed w head records) :
    AnswersRight kind head records result a4 v7 w ↔ NothingToShow w records result kind := by
  cases kind with
  | folder =>
    constructor
    · intro hright r hr hid
      exact folder_found hlist hr hid hright
    · exact folder_absent hlist.ring
  | media =>
    constructor
    · intro hright
      cases records with
      | nil => rfl
      | cons m rest => exact absurd hright (media_wrong hlist)
    · rintro rfl
      exact media_empty hlist.ring

/-! ### A request for the folder 0 of two, which have the number 0 and 1 -/

/-- The record at 512 has the number 1. -/
def twoEntries : Memory := { twoRecords with bytes := fun p => if p = 520 then 1 else 0 }

theorem twoEntries_wellFormed : WellFormed twoEntries 64 [256, 512] where
  ring := twoRecords_isRing
  notNull := by decide
  distinct := by decide

theorem list_answers_right_iff_two : AnswersRight .folder 64 [256, 512] 7 0 0 twoEntries ↔
    NothingToShow twoEntries [256, 512] 7 .folder :=
  list_answers_right_iff .folder twoEntries_wellFormed

/-- Folder 0 is there. -/
theorem not_answersRight_folder : ¬ ∀ kind head records result a4 v7 w, WellFormed w head records →
    AnswersRight kind head records result a4 v7 w := by
  intro hall
  have hright := hall .folder 64 [256, 512] 0 0 0 twoEntries twoEntries_wellFormed
  have hfirst : (256 : U32) ∈ [256, 512] := List.mem_cons_self
  exact folder_found twoEntries_wellFormed hfirst (by decide) hright

end DvdLists

end MtcDrivers
