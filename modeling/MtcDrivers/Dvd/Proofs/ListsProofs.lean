import MtcDrivers.Dvd.Lists
import MtcDrivers.Proc.Proofs.WlpProofs

/-!
# Proofs: folder and media lists

A pass of the loop frees the first record of what is left of the list. The three cursors are the record that is
freed next and, twice, the cell behind it, which is a record that is still there or the head.
-/

namespace MtcDrivers

namespace DvdLists

open Linked Proc History

variable {poison : U32 × U32} {head : U32} {w w' : Memory}

/-! ## Single operations -/

theorem wp_readNext {a : U32} {Q : U32 → Memory → Prop} :
    (readNext a).wp Q w ↔ Q (w.links.next a) (w.emit (.readNext a)) := by
  simp [readNext]

/-- What `list_del` accesses. -/
def delAccesses (l : Links U32) (a : U32) : List Access :=
  [.readPrev a, .readNext a, .writePrev (l.next a), .writeNext (l.prev a), .writeNext a, .writePrev a]

theorem wp_listDel {a : U32} {Q : Unit → Memory → Prop}
    (hQ : ∀ w', w'.links = w.links.remove a poison.1 poison.2 → Grew Memory.log (delAccesses w.links a) w w' →
      Q () w') : (listDel poison a).wp Q w := by
  simp only [listDel, readPrev, readNext, writePrev, writeNext, wp_bind, wp_modify, wp_get, wp_pure]
  exact hQ _ rfl rfl

/-! ## A pass -/

/-- What a pass accesses that frees `a`, with `i` behind it. -/
def passAccesses (head a i : U32) : List Access :=
  [.readPrev a, .readNext a, .writePrev i, .writeNext head, .writeNext a, .writePrev a, .kfree a, .readNext i]

theorem wp_freePass {a : U32} {rest : List U32} (hring : IsRing w.links head (a :: rest)) :
    (freePass poison head (a, rest.headD head, rest.headD head)).wp (fun x w' =>
      IsRing w'.links head rest ∧ Grew Memory.log (passAccesses head a (rest.headD head)) w w' ∧
      x = match rest with
        | [] => .inr head
        | b :: rest => .inl (b, rest.headD head, rest.headD head)) w := by
  have hnext : w.links.next a = rest.headD head := hring.next_first
  rw [freePass, wp_bind]
  refine wp_listDel fun w1 hlinks hgrew => ?_
  have hring1 : IsRing w1.links head rest := hlinks ▸ hring.remove_first
  simp only [wp_bind, kfree, wp_modify, wp_readNext]
  rw [delAccesses, hnext, hring.prev_first] at hgrew
  have hlast : Grew Memory.log [.kfree a, .readNext (rest.headD head)] w1
      ((w1.emit (.kfree a)).emit (.readNext (rest.headD head))) := rfl
  have hgrew2 := hgrew.trans hlast
  cases rest with
  | nil =>
    rw [if_pos (show head = List.headD [] head from rfl)]
    exact wp_pure.mpr ⟨hring1, hgrew2, rfl⟩
  | cons b rest =>
    have hne : head ≠ b := fun heq => hring1.head_notMem (heq ▸ List.mem_cons_self)
    have hbehind : w1.links.next b = rest.headD head := hring1.next_first
    rw [if_neg (show head ≠ List.headD (b :: rest) head from hne)]
    refine wp_pure.mpr ⟨hring1, hgrew2, ?_⟩
    simp [hbehind]

/-! ## The loop -/

/-- The accesses of a pass are to `a` until it is freed, and to cells that are still there. -/
theorem cell_passAccesses {a i : U32} {e : Access} (he : e ∈ passAccesses head a i) :
    e.cell = a ∨ e.cell = i ∨ e.cell = head := by
  simp only [passAccesses, List.mem_cons, List.not_mem_nil, or_false] at he
  rcases he with rfl | rfl | rfl | rfl | rfl | rfl | rfl | rfl <;> simp [Access.cell]

theorem freed_passAccesses (a i : U32) : freed (passAccesses head a i) = [a] := rfl

theorem mem_freed {accesses : List Access} {a : U32} : a ∈ freed accesses ↔ .kfree a ∈ accesses := by
  simp only [freed, List.mem_filterMap]
  constructor
  · rintro ⟨e, he, hsome⟩
    cases e with
    | kfree b =>
      obtain rfl : b = a := Option.some.inj hsome
      exact he
    | _ => simp at hsome
  · intro he
    exact ⟨.kfree a, he, rfl⟩

/-- Within a pass only the cell behind the record is read after it was freed. -/
theorem noUse_passAccesses {a i : U32} (hne : i ≠ a) : NoUseAfterFree (passAccesses head a i) := by
  simp [NoUseAfterFree, passAccesses, Access.cell, hne]

/-- Accesses to other cells can follow. -/
theorem NoUseAfterFree.append {before after : List Access} (hbefore : NoUseAfterFree before)
    (hafter : NoUseAfterFree after) (hcells : ∀ e ∈ after, e.cell ∉ freed before) :
    NoUseAfterFree (before ++ after) := by
  refine List.pairwise_append.mpr ⟨hbefore, hafter, fun e he e' he' a heq hcell => ?_⟩
  subst heq
  exact hcells e' he' (hcell ▸ mem_freed.mpr he)

/-- The records `done` have been freed, and the ones behind them are still in the list. -/
structure Freeing (head : U32) (done left : List U32) (w w' : Memory) : Prop where
  ring : IsRing w'.links head left
  accesses : ∃ new, Grew Memory.log new w w' ∧ freed new = done ∧ NoUseAfterFree new

/-- A pass frees one more record. -/
theorem Freeing.pass {w0 : Memory} {done rest : List U32} {a : U32} (h : Freeing head done (a :: rest) w0 w)
    (hring : IsRing w'.links head rest)
    (hgrew : Grew Memory.log (passAccesses head a (rest.headD head)) w w')
    (hnodup : (done ++ a :: rest).Nodup) (hhead : head ∉ done ++ a :: rest) :
    Freeing head (done ++ [a]) rest w0 w' := by
  obtain ⟨new, hnew, hfreed, hunused⟩ := h.accesses
  obtain ⟨-, hleft, hdisjoint⟩ := List.nodup_append.mp hnodup
  have hbehind : rest.headD head = head ∨ rest.headD head ∈ rest := by
    cases rest with
    | nil => exact Or.inl rfl
    | cons b rest => exact Or.inr List.mem_cons_self
  have hne : rest.headD head ≠ a := by
    intro heq
    rcases hbehind with hhd | hmem
    · exact hhead (List.mem_append_right done (hhd.symm.trans heq ▸ List.mem_cons_self))
    · exact (List.nodup_cons.mp hleft).1 (heq ▸ hmem)
  refine ⟨hring, new ++ passAccesses head a (rest.headD head), hnew.trans hgrew, ?_, ?_⟩
  · rw [freed, List.filterMap_append, ← freed, hfreed, ← freed, freed_passAccesses]
  · refine hunused.append (noUse_passAccesses hne) fun e he hmem => ?_
    rw [hfreed] at hmem
    have hlive : e.cell = head ∨ e.cell ∈ a :: rest := by
      rcases cell_passAccesses he with heq | heq | heq
      · exact Or.inr (heq ▸ List.mem_cons_self)
      · rcases hbehind with hhd | hrest
        · exact Or.inl (heq.trans hhd)
        · exact Or.inr (heq ▸ List.mem_cons_of_mem a hrest)
      · exact Or.inl heq
    rcases hlive with heq | hlive
    · exact hhead (heq ▸ List.mem_append_left _ hmem)
    · exact hdisjoint _ hmem _ hlive rfl

/-- By induction on the records that are left. -/
theorem wp_freeLoop {w0 : Memory} : ∀ {rest done : List U32} {a : U32} {w : Memory},
    Freeing head done (a :: rest) w0 w → (done ++ a :: rest).Nodup → head ∉ done ++ a :: rest →
    (iter (freePass poison head) (a, rest.headD head, rest.headD head)).wp
      (fun _ w' => Freeing head (done ++ a :: rest) [] w0 w') w := by
  intro rest
  induction rest with
  | nil =>
    intro done a w h hnodup hhead
    refine wp_iter_pass.mpr (wp_mono (wp_freePass h.ring) fun x w' hx => ?_)
    obtain ⟨hring, hgrew, rfl⟩ := hx
    exact h.pass hring hgrew hnodup hhead
  | cons b rest ih =>
    intro done a w h hnodup hhead
    refine wp_iter_pass.mpr (wp_mono (wp_freePass h.ring) fun x w' hx => ?_)
    obtain ⟨hring, hgrew, rfl⟩ := hx
    have hpass := h.pass hring hgrew hnodup hhead
    have hsplit : done ++ a :: b :: rest = done ++ [a] ++ b :: rest := by simp
    rw [hsplit] at hnodup hhead ⊢
    exact ih hpass hnodup hhead

/-- Reads free nothing. -/
theorem Freeing.start (reads : List U32) {left : List U32} (hring : IsRing w'.links head left)
    (hgrew : Grew Memory.log (reads.map .readNext) w w') : Freeing head [] left w w' := by
  refine ⟨hring, reads.map .readNext, hgrew, ?_, ?_⟩
  · refine List.filterMap_eq_nil_iff.mpr fun e he => ?_
    obtain ⟨a, -, rfl⟩ := List.mem_map.mp he
    rfl
  · refine List.pairwise_of_forall_mem_list fun e he e' _ a heq => ?_
    obtain ⟨b, -, rfl⟩ := List.mem_map.mp he
    exact absurd heq Access.noConfusion

theorem Freeing.disposed {records : List U32} (h : Freeing head records [] w w') : Disposed head records w w' := by
  obtain ⟨new, hgrew, hfreed, hunused⟩ := h.accesses
  exact ⟨hgrew.since.symm ▸ hfreed, hgrew.since.symm ▸ hunused, h.ring.empty⟩

theorem freeList_disposes {records : List U32} (h : IsRing w.links head records) :
    (freeList poison head).wp (fun _ w' => Disposed head records w w') w := by
  simp only [freeList, wp_bind, wp_readNext, Memory.emit_links, h.next_head]
  cases records with
  | nil =>
    rw [if_neg (not_not.mpr (show head = List.headD [] head from rfl))]
    have hstart : Freeing head [] [] w ((w.emit (.readNext head)).emit (.readNext head)) :=
      .start [head, head] h rfl
    exact wp_pure.mpr hstart.disposed
  | cons a rest =>
    have hne : head ≠ a := fun heq => h.head_notMem (heq ▸ List.mem_cons_self)
    have hnext : w.links.next a = rest.headD head := h.next_first
    rw [if_pos (show head ≠ List.headD (a :: rest) head from hne)]
    simp only [wp_bind, wp_readNext, Memory.emit_links, List.headD_cons, hnext]
    have hstart : Freeing head [] (a :: rest) w
        ((((w.emit (.readNext head)).emit (.readNext head)).emit (.readNext a)).emit (.readNext a)) :=
      .start [head, head, a, a] h rfl
    exact wp_mono (wp_freeLoop hstart h.nodup_rest h.head_notMem) fun _ _ hdone => hdone.disposed

/-- Both functions dispose of every list, whatever `list_del` leaves in the links of a record. -/
theorem free_lists_dispose {records : List U32} (h : IsRing w.links head records) :
    (freeFolder poison head).wp (fun _ w' => Disposed head records w w') w ∧
    (freeMedia poison head).wp (fun _ w' => Disposed head records w w') w :=
  ⟨freeList_disposes h, freeList_disposes h⟩

theorem free_lists_dispose_two :
    (freeFolder (0x100100, 0x200200) 64).wp (fun _ w' => Disposed 64 [256, 512] twoRecords w') twoRecords ∧
    (freeMedia (0x100100, 0x200200) 64).wp (fun _ w' => Disposed 64 [256, 512] twoRecords w') twoRecords :=
  free_lists_dispose twoRecords_isRing

end DvdLists

end MtcDrivers
