import MtcDrivers.Keys.TouchKey
import MtcDrivers.Link.Proofs.AckProofs
import MtcDrivers.Search.First

/-!
# Proofs: touch keys

The search stops at the first record that is empty or holds the coordinate. If that is one of the eight records
of the table, the bytes behind them do not matter; if there is none among them, the search goes on in the fields
of the status that follow, where the table alone would have ended it.
-/

namespace MtcDrivers

namespace TouchKey

open History Proc Search StatusBytes

/-! ## The search -/

variable {a1 : U32} {tab tab' : ℕ → U8} {keys : U8 × U8}

/-- The search stops at record `i`. -/
def Stops (a1 : U32) (tab : ℕ → U8) (i : ℕ) : Prop := Empty tab i ∨ Holds tab i a1

/-- The answer at a record that stops the search. -/
def answerAt (tab : ℕ → U8) (keys : U8 × U8) (i : ℕ) : U32 × (U8 × U8) :=
  if Empty tab i then (255, keys)
  else ((BitVec.ofNat 8 (i + 1)).setWidth 32, (tab (4 * i), tab (4 * i + 1)))

/-- Records that do not stop the search are passed. -/
theorem scanFrom_pass {i j : ℕ} (n : ℕ) (hij : i ≤ j) (hpass : ∀ k, i ≤ k → k < j → ¬Stops a1 tab k) :
    scanFrom a1 tab keys (j - i + n) i = scanFrom a1 tab keys n j := by
  induction hij generalizing n with
  | refl => rw [Nat.sub_self, Nat.zero_add]
  | step hij ih =>
    rename_i j
    have hlast := not_or.mp (hpass j hij (Nat.lt_succ_self j))
    have hlen : j + 1 - i + n = j - i + (n + 1) := by
      have hle : i ≤ j := hij
      omega
    rw [hlen, ih (n + 1) fun k hk hlt => hpass k hk (Nat.lt_succ_of_lt hlt), scanFrom, if_neg hlast.1,
      if_neg hlast.2]

theorem scanFrom_of_stops {n j : ℕ} (hj : j < n) (hstops : Stops a1 tab j)
    (hbefore : ∀ k < j, ¬Stops a1 tab k) : scanFrom a1 tab keys n 0 = answerAt tab keys j := by
  obtain ⟨m, rfl⟩ : ∃ m, n = j - 0 + (m + 1) := ⟨n - j - 1, by omega⟩
  rw [scanFrom_pass (m + 1) (Nat.zero_le j) fun k _ hk => hbefore k hk, scanFrom, answerAt]
  split_ifs with hempty hholds
  · rfl
  · rfl
  · exact absurd hstops (not_or.mpr ⟨hempty, hholds⟩)

/-- Where one of the first eight records stops the search, the records behind them do not matter. -/
theorem scanFrom_congr (hsame : ∀ k < 32, tab k = tab' k) (hstops : ∃ i < 8, Stops a1 tab i) :
    scanFrom a1 tab keys 10 0 = scanFrom a1 tab' keys 10 0 := by
  have hempty : ∀ i < 8, Empty tab i ↔ Empty tab' i := by
    intro i hi
    rw [Empty, Empty, hsame _ (by omega), hsame _ (by omega)]
  have hholds : ∀ i < 8, Holds tab i a1 ↔ Holds tab' i a1 := by
    intro i hi
    rw [Holds, Holds, hsame _ (by omega), hsame _ (by omega)]
  have hstop : ∀ i < 8, Stops a1 tab i ↔ Stops a1 tab' i := fun i hi => or_congr (hempty i hi) (hholds i hi)
  obtain ⟨i, hi, hstops⟩ := hstops
  obtain ⟨j, hj, hfirst⟩ := exists_isFirst (n := 8) hi hstops
  have hj8 := hfirst.lt
  rw [scanFrom_of_stops (by omega) hfirst.holds hfirst.before,
    scanFrom_of_stops (by omega) ((hstop j hj8).mp hfirst.holds)
      fun k hk hstops => hfirst.before k hk ((hstop k (by omega)).mpr hstops),
    answerAt, answerAt, hsame _ (by omega), hsame _ (by omega)]
  by_cases he : Empty tab j
  · rw [if_pos he, if_pos ((hempty j hj8).mp he)]
  · rw [if_neg he, if_neg (mt (hempty j hj8).mpr he)]

/-- Where none of them does, the records 8 and 9 decide. -/
theorem scanFrom_behind (hnone : ∀ i < 8, ¬Stops a1 tab i) :
    scanFrom a1 tab keys 10 0 = (255, keys) ↔
      ¬(¬Empty tab 8 ∧ (Holds tab 8 a1 ∨ ¬Empty tab 9 ∧ Holds tab 9 a1)) := by
  have hpass : scanFrom a1 tab keys (8 - 0 + 2) 0 = scanFrom a1 tab keys 2 8 :=
    scanFrom_pass 2 (Nat.zero_le 8) fun k _ hk => hnone k hk
  rw [show (10 : ℕ) = 8 - 0 + 2 from rfl, hpass]
  simp only [scanFrom]
  by_cases he8 : Empty tab 8
  · simp [he8]
  · by_cases hh8 : Holds tab 8 a1
    · simp [he8, hh8]
    · by_cases he9 : Empty tab 9
      · simp [he8, hh8, he9]
      · by_cases hh9 : Holds tab 9 a1
        · simp [he8, hh8, he9, hh9]
        · simp [he8, hh8, he9, hh9]

/-! ## The table in the status -/

variable {table : List U8} {m : StatusBytes}

/-- The search in the status is right for every coordinate exactly if the fields behind the table do not matter. -/
theorem keysRight_iff (hsame : ∀ k < 32, tabIn m k = closedTab table k) (hlen : table.length = 32) :
    KeysRight table m ↔ TableFits table m := by
  -- behind the 32 bytes the closed table has an empty record
  have hend : Empty (closedTab table) 8 := by
    constructor <;> simp [closedTab, hlen]
  have hstop : ∀ a1, (∀ i < 8, ¬Stops a1 (closedTab table) i) → ∀ i < 8, ¬Stops a1 (tabIn m) i := by
    intro a1 hnone i hi
    have h := hnone i hi
    rwa [Stops, Empty, Holds, ← hsame _ (by omega), ← hsame _ (by omega), ← hsame _ (by omega),
      ← hsame _ (by omega)] at h
  have hclosed : ∀ a1 keys, (∀ i < 8, ¬Stops a1 (closedTab table) i) →
      mtcGetTouchKeyTab a1 (closedTab table) keys = (255, keys) :=
    fun a1 keys hnone => (scanFrom_behind hnone).mpr fun h => h.1 hend
  constructor
  · intro hright
    by_cases hempty : ∃ i < 8, Empty (closedTab table) i
    · exact Or.inl hempty
    · refine Or.inr fun a1 hheld => ?_
      by_contra hnone
      have hpass : ∀ i < 8, ¬Stops a1 (closedTab table) i :=
        fun i hi => not_or.mpr ⟨fun h => hempty ⟨i, hi, h⟩, fun h => hnone ⟨i, hi, h⟩⟩
      have heq : mtcGetTouchKey a1 m (0, 0) = (255, (0, 0)) := (hright a1 (0, 0)).trans (hclosed a1 _ hpass)
      exact (scanFrom_behind (hstop a1 hpass)).mp heq hheld
  · intro hfits a1 keys
    by_cases hstops : ∃ i < 8, Stops a1 (closedTab table) i
    · exact (scanFrom_congr (fun k hk => (hsame k hk).symm) hstops).symm
    · have hpass : ∀ i < 8, ¬Stops a1 (closedTab table) i := fun i hi h => hstops ⟨i, hi, h⟩
      rw [hclosed a1 keys hpass]
      refine (scanFrom_behind (hstop a1 hpass)).mpr fun hheld => ?_
      rcases hfits with ⟨i, hi, hempty⟩ | hfits
      · exact hpass i hi (Or.inl hempty)
      · obtain ⟨i, hi, hholds⟩ := hfits a1 hheld
        exact hpass i hi (Or.inr hholds)

/-! ## The message -/

/-- Transferring bits shows nothing of the status or of what was received. -/
def SameTable (w w' : World) : Prop :=
  w'.car.status = w.car.status ∧ receptionsOk w' = receptionsOk w

theorem sameTable_pins : KeptByPins SameTable where
  refl _ := ⟨rfl, rfl⟩
  trans _ _ _ h h' := ⟨h'.1.trans h.1, h'.2.trans h.2⟩
  level _ _ := ⟨rfl, rfl⟩
  clock _ := ⟨rfl, rfl⟩
  pad _ _ _ := ⟨rfl, rfl⟩
  wire w e he := ⟨rfl, by cases e <;> first | rfl | simp [Event.isWire] at he⟩

/-- A message `0xF021` stores the 32 bytes that it receives, or it receives none and stores nothing. -/
def TableTaken (w w' : World) : Prop :=
  SameTable w w' ∨ ∃ table : List U8, table.length = 32 ∧ receptionsOk w' = table :: receptionsOk w ∧
    w'.car.status = { w.car.status with reserved22 := Vector.ofFn fun k => table.getD k 0 }

theorem receptionsOk_modifyCar (w : World) (f : CarStruct → CarStruct) :
    receptionsOk (w.modifyCar f) = receptionsOk w := rfl

theorem sameTable_command (w : World) (cmd : U32) : SameTable w (w.emit (.command cmd)).popFrame := ⟨rfl, rfl⟩

theorem processMcuCommand_table (w : World) :
    (processMcuCommand 0xF021).wlp (fun _ w' => TableTaken w w') w := by
  unfold processMcuCommand
  simp only [wlp_bind, wlp_emit, wlp_popFrame, World.emit_frames]
  have hstart := sameTable_command w 0xF021
  generalize (w.emit (.command 0xF021)).popFrame = w0 at hstart ⊢
  simp +decide only [mcuCase, mcuRequest, if_true, if_false, wlp_bind]
  refine sameTable_pins.wlp_armRevBytes (fun _ => ⟨rfl, rfl⟩) fun ok table w1 hpins hlen => ?_
  have h1 : SameTable w w1 := sameTable_pins.trans _ _ _ hstart hpins
  cases ok with
  | false => exact wlp_pure.mpr (Or.inl h1)
  | true =>
    simp only [if_true, wlp_bind]
    refine wlp_loads sameTable_pins.toIsPreorder (fun _ _ _ => ⟨rfl, rfl⟩) fun w2 h2 => ?_
    have hmap := receive_map (CArray.onFrame 32 w.frames.head) 0 table
    rw [hlen rfl] at hmap
    rw [hmap, wlp_modifyStatus, tailAck, if_pos (by decide), returnAck, wlp_bind]
    refine (sameTable_pins.armRevAck fun _ _ => ⟨rfl, rfl⟩).wlp fun ack w3 h3 => wlp_pure.mpr (Or.inr ?_)
    obtain ⟨hstatus1, hlog1⟩ := h1
    obtain ⟨hstatus2, hlog2⟩ := h2
    obtain ⟨hstatus3, hlog3⟩ := h3
    refine ⟨table, hlen rfl, ?_, ?_⟩
    · have hreceived : receptionsOk w2 = table :: receptionsOk w1 := hlog2
      have hbefore : receptionsOk w1 = receptionsOk w := hlog1
      have hafter : receptionsOk w3 = receptionsOk w2 := by rwa [receptionsOk_modifyCar] at hlog3
      rw [hafter, hreceived, hbefore]
    · have hkept : w2.car.status = w.car.status := hstatus2.trans hstatus1
      rw [hstatus3, ← hkept]
      rfl

theorem puts_append (m : StatusBytes) (bytes bytes' : List (ℕ × U8)) :
    m.puts (bytes ++ bytes') = (m.puts bytes).puts bytes' :=
  List.foldl_append

/-- Stores at offsets that follow one another. -/
theorem byte_puts_range (m : StatusBytes) {off n k : ℕ} (f : ℕ → U8) (hn : off + n ≤ 160) (hk : k < n) :
    (m.puts ((List.range n).map fun k => (off + k, f k))).byte (off + k) = f k := by
  induction n with
  | zero => omega
  | succ n ih =>
    have hlast : ∀ m : StatusBytes, m.puts [(off + n, f n)] = m.put (off + n) (f n) := fun _ => rfl
    rw [List.range_succ, List.map_append, List.map_singleton, puts_append, hlast]
    rcases Nat.lt_succ_iff_lt_or_eq.mp hk with hlt | rfl
    · rw [byte_put_ne _ (by omega)]
      exact ih (by omega) hlt
    · exact byte_put_self _ (by omega) _

theorem byte_storeStatus_table (m : StatusBytes) (s : CarStatus) {k : ℕ} (hk : k < 32) :
    (m.storeStatus s).byte (reserved22 + k) = s.reserved22[k]?.getD 0 := by
  have hlast : ∀ b ∈ [(power2Flag, s.power2Flag), (mcuCmdState, s.mcuCmdState)], b.1 ≠ reserved22 + k := by
    intro b hb
    have hoff : b.1 = 155 ∨ b.1 = 156 := by
      rcases List.mem_cons.mp hb with rfl | hb
      · exact Or.inl rfl
      · rw [List.mem_singleton.mp hb]
        exact Or.inr rfl
    show b.1 ≠ 101 + k
    omega
  rw [storeStatus, puts_append, byte_puts hlast, puts_append]
  exact byte_puts_range _ (fun k => s.reserved22[k]?.getD 0) (by decide) hk

/-- The 32 bytes are in the status afterwards, and stores elsewhere leave them there. -/
theorem tabIn_accepted {link : World} {m' : StatusBytes} {changes : List (ℕ × U8)}
    (haccepted : TableAccepted link m table m') (helse : Elsewhere changes) :
    table.length = 32 ∧ ∀ k < 32, tabIn (m'.puts changes) k = closedTab table k := by
  obtain ⟨v, w, hends, hreceived, rfl⟩ := haccepted.ends
  have htaken := processMcuCommand_table _ v w hends
  rcases htaken with ⟨-, hlog⟩ | ⟨table', hlen, hlog, hstatus⟩
  · have hnone := hlog.symm.trans hreceived
    exact absurd hnone.symm (List.cons_ne_self _ _)
  · have htable : table' = table := (List.cons.inj (hlog.symm.trans hreceived)).1
    subst htable
    refine ⟨hlen, fun k hk => ?_⟩
    have hkeep : ∀ c ∈ changes, c.1 ≠ reserved22 + k := by
      intro c hc heq
      rcases helse c hc with hlt | hge
      · omega
      · omega
    rw [tabIn, byte_puts hkeep, byte_storeStatus_table m w.car.status hk, hstatus]
    simp [closedTab, hk]

theorem armRevAck_stored {w : World} (f : CarStruct → CarStruct)
    (hahead : Ahead w (.const true) (holds [false, true, true] (.const true))) :
    armRevAck.wp (fun ok w' => Grew callsSoFar [.ack ok] w w') (w.modifyCar f) :=
  wp_mono (wp_and_wlp (armRevAck_peer (.const true) (.const true) hahead) armRevAck_calls)
    fun _ _ h => h.2

/-- An MCU that sends a table has it accepted. -/
theorem tableAccepted_sender (hlen : table.length = 32) (m : StatusBytes) :
    ∃ m', TableAccepted (.sender table) m table m' := by
  have hrun : (processMcuCommand 0xF021).wp
      (fun _ w' => receptionsOk w' = table :: receptionsOk (.sender table)) (linkWorld (.sender table) m) := by
    simp +decide only [processMcuCommand, mcuCase, mcuRequest, if_true, if_false, wp_bind, wp_emit, wp_popFrame]
    refine wp_mono (armRevBytes_delivered table hlen (ahead_sender table)) fun r w1 h1 => ?_
    obtain ⟨rfl, hahead, hgrew, -⟩ := h1
    simp only [if_true, wp_bind]
    refine wp_loads fun tab w2 hlevels hcalls _ => ?_
    have hahead2 : Ahead w2 (.const true) (holds [false, true, true] (.const true)) := by
      obtain ⟨hclk, hdin⟩ := hahead
      exact ⟨by rw [hlevels, hclk], by rw [hlevels, hdin]⟩
    rw [wp_modifyStatus, tailAck, if_pos (by decide), returnAck, wp_bind]
    refine wp_mono (armRevAck_stored _ hahead2) fun ok w3 hgrew3 => wp_pure.mpr ?_
    have hlog := (hgrew.trans (grew_nil.mpr hcalls)).trans hgrew3
    have hnew : callsSoFar w3 = .ack ok :: .payload true table :: callsSoFar (.sender table) := hlog
    rw [receptionsOk, hnew]
    rfl
  obtain ⟨v, w, hends, hreceived⟩ := hrun
  exact ⟨_, v, w, hends, hreceived, rfl⟩

/-- After an accepted message `0xF021` and any stores elsewhere, every key press is that of the received table
exactly if the fields behind the table do not matter. -/
theorem touchKeys_right_iff {link : World} {m' : StatusBytes} {changes : List (ℕ × U8)}
    (haccepted : TableAccepted link m table m') (helse : Elsewhere changes) :
    KeysRight table (m'.puts changes) ↔ TableFits table (m'.puts changes) := by
  obtain ⟨hlen, hsame⟩ := tabIn_accepted haccepted helse
  exact keysRight_iff hsame hlen

/-! ### A full table whose records hold no coordinate, before the width of an 800 pixel panel -/

/-- Eight records with a key and without coordinates. -/
def keysOnly : List U8 := [1, 1, 0, 0, 1, 1, 0, 0, 1, 1, 0, 0, 1, 1, 0, 0,
  1, 1, 0, 0, 1, 1, 0, 0, 1, 1, 0, 0, 1, 1, 0, 0]

theorem length_keysOnly : keysOnly.length = 32 := rfl

/-- The probe has stored the volume limit. -/
def probedStatus : StatusBytes := zeroed.puts [(134, 30)]

/-- The touch panel reports its width, 800. -/
def widthStores : List (ℕ × U8) := [(136, 0x20), (137, 3)]

theorem widthStores_elsewhere : Elsewhere widthStores := by
  intro c hc
  rcases List.mem_cons.mp hc with rfl | hc
  · exact Or.inr (by decide)
  · rw [List.mem_singleton.mp hc]
    exact Or.inr (by decide)

/-- The volume limit is a key byte of record 8. -/
theorem heldBehind_width {m' : StatusBytes} (hend : m'.byte 134 = 30) (hlow : m'.byte 135 = 0) :
    HeldBehind (m'.puts widthStores) 5 := by
  have h134 : tabIn (m'.puts widthStores) 33 = 30 := (byte_puts (by decide)).trans hend
  have h135 : tabIn (m'.puts widthStores) 34 = 0 := (byte_puts (by decide)).trans hlow
  have h136 : tabIn (m'.puts widthStores) 35 = 0x20 := by
    show ((m'.put 136 0x20).put 137 3).byte 136 = 0x20
    rw [byte_put_ne _ (by decide), byte_put_self _ (by decide)]
  refine ⟨fun hempty => ?_, Or.inl ⟨?_, ?_⟩⟩
  · exact absurd (h134.symm.trans hempty.2) (by decide)
  · rw [h135]
    decide
  · rw [h136]
    decide

theorem not_tableFits_width {m' : StatusBytes} (hend : m'.byte 134 = 30) (hlow : m'.byte 135 = 0) :
    ¬TableFits keysOnly (m'.puts widthStores) := by
  rintro (⟨i, hi, hempty⟩ | hfits)
  · have hnone : ∀ i < 8, ¬Empty (closedTab keysOnly) i := by decide
    exact hnone i hi hempty
  · obtain ⟨i, hi, hholds⟩ := hfits 5 (heldBehind_width hend hlow)
    have hnone : ∀ i < 8, ¬Holds (closedTab keysOnly) i 5 := by decide
    exact hnone i hi hholds

/-- The message does not reach the volume limit and the byte behind it. -/
theorem byte_accepted {link : World} {m' : StatusBytes} (haccepted : TableAccepted link m table m') :
    m'.byte 134 = m.byte 134 ∧ m'.byte 135 = m.byte 135 := by
  obtain ⟨v, w, -, -, rfl⟩ := haccepted.ends
  have hoff : ∀ k ∈ [134, 135], k ∉ [8, 12, 13, 14, 15, 16, 17, 18, 19, 24, 25, 26, 27, 28, 29, 30, 31, 32] ++
      (List.range 32).map (101 + ·) ++ [155, 156] := by
    decide
  exact ⟨byte_puts_of_not_mem (hoff 134 (by decide)), byte_puts_of_not_mem (hoff 135 (by decide))⟩

/-- Coordinate 5 gets the key of record 8. -/
theorem not_keysRight_width : ¬ ∀ link m m' table changes, TableAccepted link m table m' →
    Elsewhere changes → KeysRight table (m'.puts changes) := by
  intro hall
  obtain ⟨m', haccepted⟩ := tableAccepted_sender length_keysOnly probedStatus
  obtain ⟨hlen, hsame⟩ := tabIn_accepted haccepted widthStores_elsewhere
  have hright := hall _ _ _ _ _ haccepted widthStores_elsewhere
  have hlimit : probedStatus.byte 134 = 30 := byte_put_self _ (by decide) _
  have hzero : probedStatus.byte 135 = 0 := (byte_puts (by decide)).trans (byte_zeroed 135)
  have hend : m'.byte 134 = 30 := (byte_accepted haccepted).1.trans hlimit
  have hlow : m'.byte 135 = 0 := (byte_accepted haccepted).2.trans hzero
  exact not_tableFits_width hend hlow ((keysRight_iff hsame hlen).mp hright)

theorem touchKeys_right_iff_width :
    ∃ m', TableAccepted (.sender keysOnly) probedStatus keysOnly m' ∧
      (KeysRight keysOnly (m'.puts widthStores) ↔ TableFits keysOnly (m'.puts widthStores)) := by
  obtain ⟨m', haccepted⟩ := tableAccepted_sender length_keysOnly probedStatus
  exact ⟨m', haccepted, touchKeys_right_iff haccepted widthStores_elsewhere⟩

end TouchKey

end MtcDrivers
