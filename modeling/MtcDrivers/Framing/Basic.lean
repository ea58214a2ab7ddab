import Mathlib.Data.List.Basic

/-!
# Frames in a stream

A framing turns values into non-empty blocks of symbols so that the first value and what follows its
block can be read off a stream. Reading values until the stream is empty then recovers every list of
values from its concatenated blocks.
-/

/-- A framing of the values `α` in streams of `β`. -/
structure Framing (α β : Type) where
  /-- The block of a value. -/
  encode : α → List β
  /-- The first value of a stream, and the rest behind its block. -/
  decode : List β → Option (α × List β)
  encode_ne_nil : ∀ a, encode a ≠ []
  decode_encode : ∀ a rest, decode (encode a ++ rest) = some (a, rest)

namespace Framing

variable {α β : Type} (F : Framing α β)

/-- At most `n` values from the front of a stream that they must exhaust. -/
def decodeUpTo : ℕ → List β → Option (List α)
  | _, [] => some []
  | 0, _ :: _ => none
  | n + 1, b :: stream => do
    let (a, rest) ← F.decode (b :: stream)
    let as ← decodeUpTo n rest
    pure (a :: as)

/-- The values of a stream. A block is not empty, so that there are no more values than symbols. -/
def decodeAll (stream : List β) : Option (List α) := F.decodeUpTo stream.length stream

theorem decodeUpTo_encode (a : α) (rest : List β) (n : ℕ) :
    F.decodeUpTo (n + 1) (F.encode a ++ rest) = (F.decodeUpTo n rest).map (a :: ·) := by
  have hdecode := F.decode_encode a rest
  cases hblock : F.encode a with
  | nil => exact absurd hblock (F.encode_ne_nil a)
  | cons b block =>
    rw [hblock, List.cons_append] at hdecode
    rw [List.cons_append, decodeUpTo, hdecode]
    cases hrest : F.decodeUpTo n rest <;> simp [hrest]

theorem decodeUpTo_flatMap (as : List α) {n : ℕ} (hn : as.length ≤ n) :
    F.decodeUpTo n (as.flatMap F.encode) = some as := by
  induction as generalizing n with
  | nil => cases n <;> rfl
  | cons a as ih =>
    obtain ⟨n, rfl⟩ : ∃ m, n = m + 1 := ⟨n - 1, by rw [List.length_cons] at hn; omega⟩
    rw [List.flatMap_cons, decodeUpTo_encode, ih (Nat.le_of_succ_le_succ hn)]
    rfl

theorem length_le_flatMap (as : List α) : as.length ≤ (as.flatMap F.encode).length := by
  induction as with
  | nil => exact Nat.zero_le _
  | cons a as ih =>
    have hpos : 0 < (F.encode a).length := List.length_pos_iff.mpr (F.encode_ne_nil a)
    rw [List.flatMap_cons, List.length_append, List.length_cons]
    omega

/-- Reading a stream of blocks gives the values that were written to it. -/
theorem decodeAll_flatMap (as : List α) : F.decodeAll (as.flatMap F.encode) = some as :=
  F.decodeUpTo_flatMap as (F.length_le_flatMap as)

end Framing
