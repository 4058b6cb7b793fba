import Labbook.Picture.Bitmap
import Labbook.Proofs.Mesh.GridCells
import Mathlib.Tactic.Common
import Mathlib.Tactic.Ring

namespace Labbook

namespace Bitmap
variable {bytes done : ByteArray} {width height : Nat} {a : Area}

theorem size_rowSlice {x count row : Nat} (wide : x + count ≤ width)
    (stored : 3 * ((row + 1) * width) ≤ bytes.size) :
    (rowSlice bytes width x count row).size = 3 * count := by
  rw [rowSlice, ByteArray.size_extract]
  have next : (row + 1) * width = row * width + width := Nat.succ_mul row width
  omega

theorem size_cropRows {x count y rows : Nat} (wide : x + count ≤ width)
    (stored : 3 * ((y + rows) * width) ≤ bytes.size) :
    (cropRows bytes width x count done y rows).size = done.size + 3 * (count * rows) := by
  induction rows generalizing done y with
  | zero => rfl
  | succ rows ih =>
    have row : 3 * ((y + 1) * width) ≤ bytes.size :=
      Nat.le_trans (Nat.mul_le_mul_left 3 (Nat.mul_le_mul_right width (by omega))) stored
    rw [cropRows, ih (by rwa [Nat.add_right_comm]), ByteArray.size_append, size_rowSlice wide row]
    ring

theorem getElem?_append_left {first second : ByteArray} {i : Nat} (inside : i < first.size) :
    (first ++ second)[i]? = first[i]? := by
  change (first ++ second).data[i]? = first.data[i]?
  rw [ByteArray.data_append]
  exact Array.getElem?_append_left inside

theorem getElem?_append_right (first second : ByteArray) (i : Nat) :
    (first ++ second)[first.size + i]? = second[i]? := by
  change (first ++ second).data[first.data.size + i]? = second.data[i]?
  rw [ByteArray.data_append, Array.getElem?_append_right (Nat.le_add_right ..), Nat.add_sub_cancel_left]

theorem getElem?_rowSlice {x count row i : Nat} (inside : i < 3 * count)
    (stored : 3 * (row * width + x) + 3 * count ≤ bytes.size) :
    (rowSlice bytes width x count row)[i]? = bytes[3 * (row * width + x) + i]? := by
  change (rowSlice bytes width x count row).data[i]? = bytes.data[3 * (row * width + x) + i]?
  have room : 3 * (row * width + x) + 3 * count ≤ bytes.data.size := stored
  rw [rowSlice, ByteArray.data_extract, Array.getElem?_extract, if_pos (by omega)]

theorem cropRows_keeps {x count y rows i : Nat} (inside : i < done.size) :
    (cropRows bytes width x count done y rows)[i]? = done[i]? := by
  induction rows generalizing done y with
  | zero => rfl
  | succ rows ih =>
    have longer : i < (done ++ rowSlice bytes width x count y).size := by
      rw [ByteArray.size_append]
      exact Nat.lt_add_right _ inside
    rw [cropRows, ih longer, getElem?_append_left inside]

-- The rows lie one behind the other, behind what was there before them.
theorem getElem?_cropRows {x count y rows row i : Nat} (wide : x + count ≤ width)
    (stored : 3 * ((y + rows) * width) ≤ bytes.size) (inRow : row < rows) (inside : i < 3 * count) :
    (cropRows bytes width x count done y rows)[done.size + (row * (3 * count) + i)]? =
      bytes[3 * ((y + row) * width + x) + i]? := by
  induction rows generalizing done y row with
  | zero => exact absurd inRow (Nat.not_lt_zero row)
  | succ rows ih =>
    have first : 3 * ((y + 1) * width) ≤ bytes.size :=
      Nat.le_trans (Nat.mul_le_mul_left 3 (Nat.mul_le_mul_right width (by omega))) stored
    have slice : (rowSlice bytes width x count y).size = 3 * count := size_rowSlice wide first
    rw [cropRows]
    cases row with
    | zero =>
      have next : (y + 1) * width = y * width + width := Nat.succ_mul y width
      rw [Nat.zero_mul, Nat.zero_add, cropRows_keeps (by rw [ByteArray.size_append, slice]; omega),
        getElem?_append_right, getElem?_rowSlice inside (by omega), Nat.add_zero]
    | succ row =>
      have place : done.size + ((row + 1) * (3 * count) + i) =
          (done ++ rowSlice bytes width x count y).size + (row * (3 * count) + i) := by
        rw [ByteArray.size_append, slice, Nat.succ_mul]
        omega
      rw [place, ih (by rwa [Nat.add_right_comm]) (Nat.lt_of_succ_lt_succ inRow),
        Nat.add_right_comm y 1 row]
      rfl

def Within (a : Area) (size : Nat × Nat) : Prop :=
  0 ≤ a.left ∧ 0 ≤ a.top ∧ a.left.toNat + a.width.toNat ≤ size.1 ∧
    a.top.toNat + a.height.toNat ≤ size.2

instance (a : Area) (size : Nat × Nat) : Decidable (Within a size) :=
  inferInstanceAs (Decidable (_ ∧ _))

def cropArea (bytes : ByteArray) (width : Nat) (a : Area) : ByteArray :=
  cropRows bytes width a.left.toNat a.width.toNat .empty a.top.toNat a.height.toNat

-- A byte of the pixel in a column and a row, where a row has `width` pixels.
def byteAt? (bytes : ByteArray) (width col row k : Nat) : Option UInt8 :=
  bytes[3 * (row * width + col) + k]?

theorem byteAt?_stored {col row k : Nat} (full : bytes.size = 3 * (width * height)) (inCol : col < width)
    (inRow : row < height) (third : k < 3) : ∃ byte, byteAt? bytes width col row k = some byte := by
  have place : row * width + col < width * height := by
    rw [Nat.mul_comm width]
    exact Grid.place_lt inRow inCol
  have stands : 3 * (row * width + col) + k < bytes.size := by omega
  exact ⟨_, getElem?_pos bytes _ stands⟩

theorem Within.rows_stored (within : Within a (width, height))
    (stored : 3 * (width * height) ≤ bytes.size) :
    3 * ((a.top.toNat + a.height.toNat) * width) ≤ bytes.size := by
  refine Nat.le_trans (Nat.mul_le_mul_left 3 ?_) stored
  rw [Nat.mul_comm width]
  exact Nat.mul_le_mul_right width within.2.2.2

theorem size_cropArea (within : Within a (width, height)) (stored : 3 * (width * height) ≤ bytes.size) :
    (cropArea bytes width a).size = 3 * (a.width.toNat * a.height.toNat) := by
  rw [cropArea, size_cropRows within.2.2.1 (within.rows_stored stored)]
  exact Nat.zero_add _

theorem byteAt?_cropArea {col row k : Nat} (within : Within a (width, height))
    (stored : 3 * (width * height) ≤ bytes.size) (inCol : col < a.width.toNat)
    (inRow : row < a.height.toNat) (third : k < 3) :
    byteAt? (cropArea bytes width a) a.width.toNat col row k =
      byteAt? bytes width (a.left.toNat + col) (a.top.toNat + row) k := by
  have place : 3 * (row * a.width.toNat + col) + k =
      ByteArray.empty.size + (row * (3 * a.width.toNat) + (3 * col + k)) := by
    rw [ByteArray.size_empty]
    ring
  unfold byteAt? cropArea
  rw [place, getElem?_cropRows within.2.2.1 (within.rows_stored stored) inRow (by omega)]
  congr 1
  ring

-- An area that was cut out of the rows of a buffer: no row was taken from beyond the buffer, and every
-- pixel has the bytes that it had there.
structure CutOut (bytes : ByteArray) (width : Nat) (a : Area) (cut : ByteArray) : Prop where
  inside : ∀ row < a.height.toNat,
    3 * ((a.top.toNat + row) * width + a.left.toNat) + 3 * a.width.toNat ≤ bytes.size
  size : cut.size = 3 * (a.width.toNat * a.height.toNat)
  copied : ∀ col < a.width.toNat, ∀ row < a.height.toNat, ∀ k < 3, ∃ byte,
    byteAt? cut a.width.toNat col row k = some byte ∧
      byteAt? bytes width (a.left.toNat + col) (a.top.toNat + row) k = some byte

theorem cropArea_cutOut (within : Within a (width, height)) (stored : 3 * (width * height) ≤ bytes.size) :
    CutOut bytes width a (cropArea bytes width a) := by
  have size := size_cropArea within stored
  refine ⟨?_, size, ?_⟩
  · intro row inRow
    have across : a.left.toNat + a.width.toNat ≤ width := within.2.2.1
    have rows := within.rows_stored stored
    have last : (a.top.toNat + row + 1) * width ≤ (a.top.toNat + a.height.toNat) * width :=
      Nat.mul_le_mul_right width (by omega)
    rw [Nat.succ_mul] at last
    omega
  · intro col inCol row inRow k third
    obtain ⟨byte, found⟩ := byteAt?_stored size inCol inRow third
    exact ⟨byte, found, (byteAt?_cropArea within stored inCol inRow third).symm.trans found⟩

-- Cutting can be left to a buffer exactly when it has three bytes for each pixel: a smaller one lacks a
-- part of the last row.
theorem croppable_iff : (∀ a, Within a (width, height) → CutOut bytes width a (cropArea bytes width a)) ↔
    3 * (width * height) ≤ bytes.size := by
  constructor
  · intro cuts
    have whole : Within ⟨0, 0, width, height⟩ (width, height) := by
      simp [Within, Area.width, Area.height]
    have rows := (cuts _ whole).inside
    cases height with
    | zero => exact Nat.zero_le _
    | succ rest =>
      have last := rows rest (by simp [Area.height])
      have next : (rest + 1) * width = rest * width + width := Nat.succ_mul rest width
      simp only [Area.width, Int.toNat_zero, Nat.zero_add, Nat.add_zero, Int.sub_zero,
        Int.toNat_natCast] at last
      rw [Nat.mul_comm width]
      omega
  · intro stored a within
    exact cropArea_cutOut within stored

theorem crop?_bytes {b : Bitmap} (within : Within a (b.width, b.height)) :
    ∃ cut, b.crop? a = some cut ∧ cut.width = a.width.toNat ∧ cut.height = a.height.toNat ∧
      cut.bytes = cropArea b.bytes b.width a := by
  have size := size_cropArea within (Nat.le_of_eq b.size_bytes.symm)
  exact ⟨⟨_, _, _, size⟩, (if_pos within).trans (dif_pos size), rfl, rfl, rfl⟩

theorem crop?_outside {b : Bitmap} (outside : ¬ Within a (b.width, b.height)) : b.crop? a = none :=
  if_neg outside

end Bitmap

end Labbook
