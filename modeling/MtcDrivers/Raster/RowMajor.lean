import Mathlib.Data.Int.Notation

/-!
# Row-major pictures

A picture is a list of coloured pixels, given by row and column. Placed in a buffer whose rows are `width`
long, each of its pixels goes to the cell `row * width + column`.
-/

namespace Raster

variable {α : Type} {width height : ℤ}

structure Pixel (α : Type) where
  row : ℤ
  column : ℤ
  colour : α
deriving DecidableEq

/-- The pixel is on a screen of this size. -/
structure Pixel.OnScreen (width height : ℤ) (p : Pixel α) : Prop where
  row_nonneg : 0 ≤ p.row
  row_lt : p.row < height
  column_nonneg : 0 ≤ p.column
  column_lt : p.column < width

/-- The cell of a pixel. -/
def index (width row column : ℤ) : ℤ := row * width + column

/-- What is stored where for a picture. -/
def place (width : ℤ) (picture : List (Pixel α)) : List (ℤ × α) :=
  picture.map fun p => (index width p.row p.column, p.colour)

/-- The cells of a screen are those of a buffer of its size. -/
theorem Pixel.OnScreen.index_mem {p : Pixel α} (h : p.OnScreen width height) :
    0 ≤ index width p.row p.column ∧ index width p.row p.column < width * height := by
  obtain ⟨hrow, hrow', hcol, hcol'⟩ := h
  have hwidth : 0 ≤ width := by omega
  have hlow : 0 ≤ p.row * width := Int.mul_nonneg hrow hwidth
  have hlast : (p.row + 1) * width ≤ height * width := Int.mul_le_mul_of_nonneg_right hrow' hwidth
  have hnext : (p.row + 1) * width = p.row * width + width := by rw [Int.add_mul, Int.one_mul]
  have hcomm : height * width = width * height := Int.mul_comm height width
  unfold index
  constructor
  · omega
  · omega

/-- A picture that is on the screen stays inside the buffer. -/
theorem place_inside {picture : List (Pixel α)} (h : ∀ p ∈ picture, p.OnScreen width height) :
    ∀ a ∈ place width picture, 0 ≤ a.1 ∧ a.1 < width * height := by
  intro a ha
  obtain ⟨p, hp, rfl⟩ := List.mem_map.mp ha
  exact (h p hp).index_mem

end Raster
