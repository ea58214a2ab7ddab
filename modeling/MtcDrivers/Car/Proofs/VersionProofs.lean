import MtcDrivers.Car.Version
import MtcDrivers.Search.First

/-!
# Proofs: the firmware version and the customer

The fields hold the segments read so far, so that `strlen` is where the next byte belongs. A version has
one base name: no name ends in a digit, and no other name is `KLDY`.
-/

namespace MtcDrivers

open StatusBytes

/-! ## The split -/

/-- The field of 16 bytes holds this string. -/
structure Holds (m : StatusBytes) (field : ℕ) (text : Text) : Prop where
  length : text.length < 16
  bytes : ∀ i < 16, m.byte (field + i) = text.getD i 0
  ne_zero : ∀ b ∈ text, b ≠ 0

theorem Holds.cString {m : StatusBytes} {field : ℕ} {text : Text} (h : Holds m field text)
    (hfield : field + 16 ≤ 160) : m.cString field = text := by
  have hlen := h.length
  apply cString_eq (by omega) (fun i hi => h.bytes i (by omega)) h.ne_zero
  rw [h.bytes _ hlen]
  simp [List.getD_eq_getElem?_getD]

theorem byte_append (m : StatusBytes) {field : ℕ} {text : Text} (h : Holds m field text)
    (hfield : field + 16 ≤ 160) (b : U8) (i : ℕ) :
    (m.append field b).byte i = if i = field + text.length then b else m.byte i := by
  have hlen := h.length
  rw [StatusBytes.append, StatusBytes.strlen, h.cString hfield]
  by_cases hi : i = field + text.length
  · rw [if_pos hi, hi]
    exact byte_put_self m (by omega) b
  · rw [if_neg hi]
    exact byte_put_ne m (Ne.symm hi) b

/-- One more byte at the end of the string. -/
theorem Holds.append {m : StatusBytes} {field : ℕ} {text : Text} (h : Holds m field text)
    (hfield : field + 16 ≤ 160) (hfit : text.length + 1 < 16) {b : U8} (hb : b ≠ 0) :
    Holds (m.append field b) field (text ++ [b]) where
  length := by
    rw [List.length_append, List.length_singleton]
    exact hfit
  bytes := by
    intro i hi
    rw [byte_append m h hfield]
    by_cases heq : field + i = field + text.length
    · have hi' : i = text.length := by omega
      rw [if_pos heq, hi']
      simp [List.getD_eq_getElem?_getD]
    · rw [if_neg heq, h.bytes i hi, List.getD_eq_getElem?_getD, List.getD_eq_getElem?_getD]
      rcases Nat.lt_trichotomy i text.length with hlt | hi' | hgt
      · rw [List.getElem?_append_left hlt]
      · omega
      · rw [List.getElem?_eq_none (by omega), List.getElem?_eq_none (by
          rw [List.length_append, List.length_singleton]
          omega)]
  ne_zero := by
    intro x hx
    rcases List.mem_append.mp hx with hx | hx
    · exact h.ne_zero x hx
    · rw [List.mem_singleton.mp hx]
      exact hb

/-- The other field is not touched. -/
theorem Holds.append_other {m : StatusBytes} {field field' : ℕ} {text text' : Text}
    (h : Holds m field text) (h' : Holds m field' text') (hfield : field + 16 ≤ 160)
    (hapart : field + 16 ≤ field' ∨ field' + 16 ≤ field) (b : U8) :
    Holds (m.append field b) field' text' where
  length := h'.length
  bytes := by
    intro i hi
    have hlen := h.length
    have hne : ¬ field' + i = field + text.length := by omega
    rw [byte_append m h hfield, if_neg hne]
    exact h'.bytes i hi
  ne_zero := h'.ne_zero

/-- What the rest of a version adds to segment `k`, where `part` separators have been read. -/
def restOfSegment (k part : ℕ) (rest : List U8) : Text :=
  if part ≤ k then ((cString rest).splitOn dash).getD (k - part) [] else []

theorem restOfSegment_nil (k part : ℕ) : restOfSegment k part [] = [] := by
  unfold restOfSegment
  split
  · rw [show cString [] = [] from rfl, List.splitOn_nil]
    cases k - part with
    | zero => rfl
    | succ n => rfl
  · rfl

theorem restOfSegment_nul (k part : ℕ) (rest : List U8) :
    restOfSegment k part (0 :: rest) = [] := restOfSegment_nil k part

theorem restOfSegment_dash (k part : ℕ) (rest : List U8) :
    restOfSegment k part (dash :: rest) = restOfSegment k (part + 1) rest := by
  have hsplit : (cString (dash :: rest)).splitOn dash = [] :: (cString rest).splitOn dash := by
    rw [show cString (dash :: rest) = dash :: cString rest from rfl, List.splitOn_eq_splitOnP,
      List.splitOnP_cons_eq_if_modifyHead]
    rfl
  unfold restOfSegment
  rw [hsplit]
  rcases Nat.lt_trichotomy k part with hlt | rfl | hgt
  · rw [if_neg (by omega), if_neg (by omega)]
  · rw [if_pos (Nat.le_refl k), if_neg (by omega), Nat.sub_self]
    rfl
  · obtain ⟨n, hn⟩ : ∃ n, k - part = n + 1 := ⟨k - part - 1, by omega⟩
    rw [if_pos (by omega), if_pos (by omega), hn, List.getD_cons_succ]
    congr 1
    omega

theorem restOfSegment_byte (k part : ℕ) {b : U8} (hb : b ≠ 0) (hdash : b ≠ dash) (rest : List U8) :
    restOfSegment k part (b :: rest) =
      if part = k then b :: restOfSegment k part rest else restOfSegment k part rest := by
  have hsplit : (cString (b :: rest)).splitOn dash = ((cString rest).splitOn dash).modifyHead (b :: ·) := by
    have hcons : cString (b :: rest) = b :: cString rest := by
      unfold cString
      rw [List.takeWhile_cons, if_pos (decide_eq_true hb)]
    have htest : (b == dash) = false := beq_eq_false_iff_ne.mpr hdash
    rw [hcons, List.splitOn_eq_splitOnP, List.splitOnP_cons_eq_if_modifyHead, htest]
    rfl
  unfold restOfSegment
  rw [hsplit]
  cases hrest : (cString rest).splitOn dash with
  | nil => exact absurd hrest (List.splitOnP_ne_nil _ _)
  | cons segment segments =>
    rw [List.modifyHead_cons]
    rcases Nat.lt_trichotomy k part with hlt | rfl | hgt
    · rw [if_neg (by omega), if_neg (by omega), if_neg (by omega)]
    · rw [if_pos (Nat.le_refl k), if_pos rfl, if_pos (Nat.le_refl k), Nat.sub_self]
      rfl
    · obtain ⟨n, hn⟩ : ∃ n, k - part = n + 1 := ⟨k - part - 1, by omega⟩
      rw [if_pos (by omega), if_neg (by omega), if_pos (by omega), hn]
      rfl

/-- The loop, from any point of the version: `part` separators have been read, and the fields hold the
    segments so far. -/
theorem splitVersion_holds (rest : List U8) {part : ℕ} {m : StatusBytes} {text1 text2 : Text}
    (h1 : Holds m mcuver1 text1) (h2 : Holds m mcuver2 text2)
    (hlen : part + text1.length + text2.length + rest.length ≤ 16) :
    Holds (splitVersion rest part m) mcuver1 (text1 ++ restOfSegment 1 part rest) ∧
      Holds (splitVersion rest part m) mcuver2 (text2 ++ restOfSegment 2 part rest) ∧
      ∀ i, ¬ (mcuver1 ≤ i ∧ i < mcuver1 + 16) → ¬ (mcuver2 ≤ i ∧ i < mcuver2 + 16) →
        (splitVersion rest part m).byte i = m.byte i := by
  induction rest generalizing part m text1 text2 with
  | nil =>
    rw [restOfSegment_nil, restOfSegment_nil, List.append_nil, List.append_nil]
    exact ⟨h1, h2, fun i _ _ => rfl⟩
  | cons b rest ih =>
    rw [List.length_cons] at hlen
    rw [splitVersion]
    by_cases hnul : b = 0
    · rw [if_pos hnul, hnul, restOfSegment_nul, restOfSegment_nul, List.append_nil, List.append_nil]
      exact ⟨h1, h2, fun i _ _ => rfl⟩
    rw [if_neg hnul]
    by_cases hdash : b = dash
    · rw [if_pos hdash, hdash, restOfSegment_dash, restOfSegment_dash]
      exact ih h1 h2 (by omega)
    rw [if_neg hdash, restOfSegment_byte 1 part hnul hdash, restOfSegment_byte 2 part hnul hdash]
    have hfit1 : mcuver1 + 16 ≤ 160 := by decide
    have hfit2 : mcuver2 + 16 ≤ 160 := by decide
    by_cases hpart1 : part = 1
    · have hone : ¬ part = 2 := by omega
      rw [if_pos hpart1, if_pos hpart1, if_neg hone]
      have h1' := h1.append hfit1 (by omega) hnul
      have h2' := h1.append_other h2 hfit1 (.inr (by decide)) b
      have hlen' : part + (text1 ++ [b]).length + text2.length + rest.length ≤ 16 := by
        rw [List.length_append, List.length_singleton]
        omega
      obtain ⟨hr1, hr2, hother⟩ := ih h1' h2' hlen'
      rw [List.append_assoc] at hr1
      refine ⟨hr1, hr2, fun i hi1 hi2 => ?_⟩
      rw [hother i hi1 hi2, byte_append m h1 hfit1, if_neg]
      have hlen1 := h1.length
      omega
    · rw [if_neg hpart1, if_neg hpart1]
      by_cases hpart2 : part = 2
      · rw [if_pos hpart2, if_pos hpart2]
        have h2' := h2.append hfit2 (by omega) hnul
        have h1' := h2.append_other h1 hfit2 (.inl (by decide)) b
        have hlen' : part + text1.length + (text2 ++ [b]).length + rest.length ≤ 16 := by
          rw [List.length_append, List.length_singleton]
          omega
        obtain ⟨hr1, hr2, hother⟩ := ih h1' h2' hlen'
        rw [List.append_assoc] at hr2
        refine ⟨hr1, hr2, fun i hi1 hi2 => ?_⟩
        rw [hother i hi1 hi2, byte_append m h2 hfit2, if_neg]
        have hlen2 := h2.length
        omega
      · rw [if_neg hpart2, if_neg hpart2]
        exact ih h1 h2 (by omega)

theorem holds_zeroed (field : ℕ) : Holds zeroed field [] where
  length := by decide
  bytes i _ := byte_zeroed _
  ne_zero b hb := absurd hb (List.not_mem_nil)

/-- The whole loop, from a zeroed status. -/
theorem splitVersion_zeroed (version : Vector U8 16) :
    let m := splitVersion version.toList 0 .zeroed
    Holds m mcuver1 ((versionSegments version).getD 1 []) ∧
      Holds m mcuver2 ((versionSegments version).getD 2 []) ∧
      ∀ i, ¬ (mcuver1 ≤ i ∧ i < mcuver1 + 16) → ¬ (mcuver2 ≤ i ∧ i < mcuver2 + 16) → m.byte i = 0 := by
  have hlen : 0 + ([] : Text).length + ([] : Text).length + version.toList.length ≤ 16 := by simp
  obtain ⟨h1, h2, hother⟩ :=
    splitVersion_holds version.toList (holds_zeroed mcuver1) (holds_zeroed mcuver2) hlen
  exact ⟨h1, h2, fun i hi1 hi2 => (hother i hi1 hi2).trans (byte_zeroed i)⟩

theorem splitVersion_split (version : Vector U8 16) :
    VersionSplit version (splitVersion version.toList 0 .zeroed) := by
  obtain ⟨h1, h2, hother⟩ := splitVersion_zeroed version
  exact ⟨h1.length, h2.length, h1.bytes, h2.bytes, hother⟩

/-! ## The customer -/

theorem checkCustomer_iff (cs name : Text) : checkCustomer cs name = true ↔ Matches cs name := by
  unfold checkCustomer Matches
  rcases Nat.lt_trichotomy cs.length name.length with hlt | heq | hgt
  · rw [if_pos hlt]
    refine iff_of_false Bool.false_ne_true ?_
    rintro (rfl | ⟨d, -, -, rfl⟩ | ⟨rfl, rfl⟩)
    · omega
    · rw [List.length_append] at hlt
      omega
    · exact absurd hlt (by decide)
  · rw [if_neg (by omega), if_pos heq, decide_eq_true_iff]
    constructor
    · exact .inl
    · rintro (rfl | ⟨d, -, -, rfl⟩ | ⟨rfl, rfl⟩)
      · rfl
      · rw [List.length_append, List.length_singleton] at heq
        omega
      · exact absurd heq (by decide)
  · rw [if_neg (by omega), if_neg (by omega)]
    by_cases hnext : cs.length = name.length + 1
    · rw [if_neg (not_not.mpr hnext)]
      by_cases hkld : name = ascii "KLD" ∧ cs = ascii "KLDY"
      · rw [if_pos hkld]
        exact iff_of_true rfl (.inr (.inr hkld))
      rw [if_neg hkld]
      by_cases htake : cs.take name.length = name
      · obtain ⟨d, hd⟩ : ∃ d, cs = name ++ [d] := by
          have hdrop : (cs.drop name.length).length = 1 := by
            rw [List.length_drop]
            omega
          obtain ⟨d, hd⟩ := List.length_eq_one_iff.mp hdrop
          exact ⟨d, by rw [← List.take_append_drop name.length cs, htake, hd]⟩
        have hlast : cs.getD name.length 0 = d := by
          rw [hd]
          simp [List.getD_eq_getElem?_getD]
        rw [if_neg (not_not.mpr htake), hlast]
        have hdigit : (if (0x2F : U8) < d then decide (d ≤ 0x39) else false) = true ↔
            0x30 ≤ d ∧ d ≤ 0x39 := by
          by_cases hlow : (0x2F : U8) < d
          · rw [if_pos hlow, decide_eq_true_iff]
            refine (and_iff_right ?_).symm
            simp only [BitVec.lt_def, BitVec.le_def] at hlow ⊢
            exact hlow
          · rw [if_neg hlow]
            refine iff_of_false Bool.false_ne_true fun h => hlow ?_
            have hle := h.1
            simp only [BitVec.lt_def, BitVec.le_def] at hle ⊢
            exact hle
        rw [hdigit]
        constructor
        · rintro ⟨hlow, hhigh⟩
          exact .inr (.inl ⟨d, hlow, hhigh, hd⟩)
        · rintro (rfl | ⟨d', hlow, hhigh, hd'⟩ | h)
          · omega
          · obtain rfl : d = d' := by simpa using hd.symm.trans hd'
            exact ⟨hlow, hhigh⟩
          · exact absurd h hkld
      · rw [if_pos htake]
        refine iff_of_false Bool.false_ne_true ?_
        rintro (rfl | ⟨d, -, -, rfl⟩ | h)
        · omega
        · exact htake List.take_left
        · exact hkld h
    · rw [if_pos hnext]
      refine iff_of_false Bool.false_ne_true ?_
      rintro (rfl | ⟨d, -, -, rfl⟩ | ⟨rfl, rfl⟩)
      · omega
      · exact hnext (by rw [List.length_append, List.length_singleton])
      · exact hnext (by decide)

/-- The name that a version can only be an extension of. -/
def baseName (cs : Text) : Text :=
  if cs = ascii "KLDY" then ascii "KLD"
  else if ∃ d ∈ cs.getLast?, (0x30 : U8) ≤ d ∧ d ≤ 0x39 then cs.dropLast
  else cs

/-- No name of the chain is `KLDY`, or ends in a digit. -/
theorem customerChain_names : ∀ g ∈ customerChain, ∀ name ∈ g.names,
    name ≠ ascii "KLDY" ∧ ¬ ∃ d ∈ name.getLast?, (0x30 : U8) ≤ d ∧ d ≤ 0x39 := by
  simp [customerChain, ascii]

/-- No name is in two branches. -/
theorem customerChain_disjoint : ∀ g ∈ customerChain, ∀ g' ∈ customerChain, ∀ name ∈ g.names,
    name ∈ g'.names → g = g' := by
  decide

theorem Matches.baseName {cs name : Text} (h : Matches cs name) {g : CustomerGroup}
    (hg : g ∈ customerChain) (hname : name ∈ g.names) : baseName cs = name := by
  obtain ⟨hkldy, hlast⟩ := customerChain_names g hg name hname
  unfold MtcDrivers.baseName
  rcases h with rfl | ⟨d, hlow, hhigh, rfl⟩ | ⟨rfl, rfl⟩
  · rw [if_neg hkldy, if_neg hlast]
  · have hdigit : ∃ x ∈ (name ++ [d]).getLast?, (0x30 : U8) ≤ x ∧ x ≤ 0x39 :=
      ⟨d, by simp, hlow, hhigh⟩
    have hne : name ++ [d] ≠ ascii "KLDY" := by
      intro heq
      rw [heq] at hdigit
      exact absurd hdigit (by decide)
    rw [if_neg hne, if_pos hdigit, List.dropLast_concat]
  · rfl

/-- At most one branch of the chain matches. -/
theorem customerChain_unique (cs : Text) : ∀ g ∈ customerChain, ∀ g' ∈ customerChain,
    g.check cs = true → g'.check cs = true → g = g' := by
  intro g hg g' hg' hcheck hcheck'
  obtain ⟨name, hname, hmatch⟩ := List.any_eq_true.mp hcheck
  obtain ⟨name', hname', hmatch'⟩ := List.any_eq_true.mp hcheck'
  have hbase := ((checkCustomer_iff cs name).mp hmatch).baseName hg hname
  have hbase' := ((checkCustomer_iff cs name').mp hmatch').baseName hg' hname'
  rw [← hbase'.symm.trans hbase] at hname
  exact customerChain_disjoint g hg g' hg' name' hname hname'

theorem runChain_perm (cs : Text) {chain : List CustomerGroup} (h : customerChain.Perm chain) :
    runChain chain cs = runChain customerChain cs := by
  unfold runChain
  rw [Search.find?_perm h (customerChain_unique cs)]

/-- The split and the customer, for every answer of the MCU. -/
theorem carProbe_version (version : Vector U8 16) :
    VersionSplit version (splitVersion version.toList 0 .zeroed) ∧
      (∀ cs name, checkCustomer cs name = true ↔ Matches cs name) ∧
      (∀ cs, ∀ g ∈ customerChain, ∀ g' ∈ customerChain, g.check cs = true → g'.check cs = true → g = g') ∧
      ∀ chain, customerChain.Perm chain →
        runChain chain ((versionSegments version).getD 1 []) = mtcCustomer version := by
  refine ⟨splitVersion_split version, checkCustomer_iff, customerChain_unique, fun chain hperm => ?_⟩
  have hfield := (splitVersion_zeroed version).1.cString (by decide)
  rw [mtcCustomer, hfield, runChain_perm _ hperm]

end MtcDrivers
