import Mathlib.Data.List.Chain
import Mathlib.Logic.Function.Basic

/-!
# Circular doubly linked lists

Cells are linked forward and backward. A ring goes from its head, which is no record, through the records and
back to the head.
-/

namespace Linked

variable {α : Type}

/-- The links of the cells. -/
structure Links (α : Type) where
  next : α → α
  prev : α → α

namespace Links

/-- The links between the two cells agree. -/
def Joined (l : Links α) (a b : α) : Prop := l.next a = b ∧ l.prev b = a

variable [DecidableEq α]

/-- Link two cells. -/
def join (l : Links α) (a b : α) : Links α := ⟨Function.update l.next a b, Function.update l.prev b a⟩

/-- Replace the links of a cell. -/
def poison (l : Links α) (a p q : α) : Links α := ⟨Function.update l.next a p, Function.update l.prev a q⟩

/-- Link the neighbours of a cell, and poison its own links. -/
def remove (l : Links α) (a p q : α) : Links α := (l.join (l.prev a) (l.next a)).poison a p q

end Links

/-- The links go from the head through the records `rest` and back. -/
structure IsRing (l : Links α) (head : α) (rest : List α) : Prop where
  joined : List.IsChain l.Joined (head :: (rest ++ [head]))
  nodup : (head :: rest).Nodup

namespace IsRing

variable {l : Links α} {head a p q : α} {rest before after : List α}

theorem head_notMem (h : IsRing l head rest) : head ∉ rest := (List.nodup_cons.mp h.nodup).1

theorem nodup_rest (h : IsRing l head rest) : rest.Nodup := (List.nodup_cons.mp h.nodup).2

/-- A cell of the ring and the one behind it are linked. -/
theorem joined_split (h : IsRing l head rest) (hsplit : head :: rest = before ++ a :: after) :
    l.Joined a (after.headD head) := by
  have hall : head :: (rest ++ [head]) = before ++ a :: (after ++ [head]) := by
    rw [← List.cons_append, hsplit]
    simp
  have hjoined := h.joined
  rw [hall] at hjoined
  have hchain := hjoined.right_of_append
  cases after with
  | nil => exact (List.isChain_cons_cons.mp hchain).1
  | cons b after => exact (List.isChain_cons_cons.mp hchain).1

/-- The cell behind the head. -/
theorem next_head (h : IsRing l head rest) : l.next head = rest.headD head :=
  (h.joined_split (List.nil_append _).symm).1

/-- The cell behind a record. -/
theorem next_record (h : IsRing l head (before ++ a :: after)) : l.next a = after.headD head :=
  (h.joined_split (List.cons_append).symm).1

/-- The cell behind a cell of the ring is one, and it is linked back. -/
theorem next_mem (h : IsRing l head rest) (ha : a ∈ head :: rest) :
    l.next a ∈ head :: rest ∧ l.prev (l.next a) = a := by
  obtain ⟨before, after, hsplit⟩ := List.append_of_mem ha
  obtain ⟨hnext, hprev⟩ := h.joined_split hsplit
  rw [hnext]
  refine ⟨?_, hprev⟩
  cases after with
  | nil => exact List.mem_cons_self
  | cons b after =>
    rw [hsplit]
    exact List.mem_append_right before (List.mem_cons_of_mem a List.mem_cons_self)

theorem next_first (h : IsRing l head (a :: rest)) : l.next a = rest.headD head := by
  have hfirst : IsRing l head ([] ++ a :: rest) := h
  exact hfirst.next_record

theorem prev_first (h : IsRing l head (a :: rest)) : l.prev a = head :=
  (List.isChain_cons_cons.mp h.joined).1.2

/-- The head of an empty ring is linked to itself. -/
theorem empty (h : IsRing l head []) : l.next head = head ∧ l.prev head = head :=
  (List.isChain_cons_cons.mp h.joined).1

variable [DecidableEq α]

/-- Without its first record a ring is a ring, whatever the links of the record are replaced by. -/
theorem remove_first (h : IsRing l head (a :: rest)) : IsRing (l.remove a p q) head rest := by
  obtain ⟨hhead, hnodup⟩ := List.nodup_cons.mp h.nodup
  obtain ⟨ha, hrest⟩ := List.nodup_cons.mp hnodup
  have hne : head ≠ a := fun heq => hhead (heq ▸ List.mem_cons_self)
  have hout : head ∉ rest := fun hmem => hhead (List.mem_cons_of_mem a hmem)
  have hnext : l.next a = rest.headD head := h.next_first
  have hprev := h.prev_first
  have hchain := (List.isChain_cons_cons.mp h.joined).2
  refine ⟨?_, List.nodup_cons.mpr ⟨hout, hrest⟩⟩
  cases rest with
  | nil =>
    refine List.isChain_cons_cons.mpr ⟨⟨?_, ?_⟩, List.isChain_singleton _⟩
    · simp [Links.remove, Links.join, Links.poison, hne, hprev, hnext]
    · simp [Links.remove, Links.join, Links.poison, hne, hprev, hnext]
  | cons b rest =>
    have hab : a ≠ b := fun heq => ha (heq ▸ List.mem_cons_self)
    have hbrest := (List.nodup_cons.mp hrest).1
    have hhb : head ≠ b := fun heq => hout (heq ▸ List.mem_cons_self)
    have hkept := (List.isChain_cons_cons.mp hchain).2
    refine List.isChain_cons_cons.mpr ⟨⟨?_, ?_⟩, ?_⟩
    · simp [Links.remove, Links.join, Links.poison, hne, hprev, hnext]
    · simp [Links.remove, Links.join, Links.poison, hab.symm, hprev, hnext]
    · refine hkept.imp_of_mem_tail_imp fun x y hx hy hxy => ?_
      have hyrest : y ∈ rest ∨ y = head := by simpa using hy
      have hya : y ≠ a := by
        rintro rfl
        rcases hyrest with hmem | heq
        · exact ha (List.mem_cons_of_mem b hmem)
        · exact hne heq.symm
      have hyb : y ≠ b := by
        rintro rfl
        rcases hyrest with hmem | heq
        · exact hbrest hmem
        · exact hhb heq.symm
      -- the head stands at the end of the chain, where its forward link is not used
      have hxhead : x ≠ head := by
        rintro rfl
        exact hya (hxy.1.symm.trans h.next_head)
      have hxa : x ≠ a := by
        rintro rfl
        have hmem : x = b ∨ x ∈ rest ∨ x = head := by simpa using hx
        rcases hmem with rfl | hmem | rfl
        · exact hab rfl
        · exact ha (List.mem_cons_of_mem b hmem)
        · exact hne rfl
      constructor
      · simpa [Links.remove, Links.join, Links.poison, hprev, hxa, hxhead] using hxy.1
      · have hyb' : y ≠ l.next a := fun heq => hyb (heq.trans hnext)
        simpa [Links.remove, Links.join, Links.poison, hya, hyb'] using hxy.2

end IsRing

end Linked
