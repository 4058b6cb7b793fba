import Labbook.Proofs.Picture.PaintOrder

namespace Labbook

namespace Bitmap

-- The buffer of a canvas has three bytes for each pixel, and whatever is painted on it, every area of the
-- canvas is cut out of it as it is.
structure RasterExact (width height : UInt32) : Prop where
  allocated : (whiteBytes width height).size = 3 * (width.toNat * height.toNat)
  croppable : ∀ bytes : ByteArray, bytes.size = (whiteBytes width height).size →
    ∀ a, Within a (width.toNat, height.toNat) →
      CutOut bytes width.toNat a (cropArea bytes width.toNat a)
  cropped : ∀ b : Bitmap, b.extent = (width.toNat, height.toNat) → ∀ a, Within a b.extent →
    ∃ cut, b.crop? a = some cut ∧ cut.width = a.width.toNat ∧ cut.height = a.height.toNat ∧
      cut.bytes = cropArea b.bytes b.width a

theorem rasterExact_iff (width height : UInt32) : RasterExact width height ↔
    3 * (width.toNat * height.toNat) < 2 ^ 32 := by
  have counted := size_whiteBytes width height
  constructor
  · intro exact
    rw [exact.allocated] at counted
    omega
  · intro fits
    have allocated : (whiteBytes width height).size = 3 * (width.toNat * height.toNat) := by
      omega
    refine ⟨allocated, ?_, fun b _ a within => crop?_bytes within⟩
    intro bytes same
    exact croppable_iff.mpr (Nat.le_of_eq (allocated.symm.trans same.symm))

end Bitmap

namespace Canvas
variable {c : Canvas}

-- A canvas whose bytes cannot be counted has no picture with pixels on it.
theorem scene_uncounted (shown : c.isEmpty = false) (raster : c.isRasterized = true)
    (many : 2 ^ 32 ≤ 3 * ((UInt32.ofNat c.size.1).toNat * (UInt32.ofNat c.size.2).toNat))
    (bar : Option (Colorbar Binary64)) : c.scene bar = .error (.noPixels c.size) := by
  have unmade : Bitmap.white? (UInt32.ofNat c.size.1) (UInt32.ofNat c.size.2) = none := by
    rw [← Option.not_isSome_iff_eq_none, Bitmap.white?_isSome_iff]
    exact Nat.not_lt_of_le many
  have image : c.rasterImage (c.plotChart bar) bar = .error (.noPixels c.size) := by
    unfold rasterImage
    rw [unmade]
    rfl
  rw [scene_eq shown, embedded, if_pos raster, image]
  rfl

def vast : Canvas where
  layers := [.mesh ⟨[0, 1], [0], ⟨1, 2, #[1, 2], rfl⟩, true⟩]
  size := (37838, 37837)

-- Of more than four thousand million bytes a word counts some 60 thousand.
theorem vast_uncounted : (Bitmap.whiteBytes 37838 37837).size = 61922 ∧
    ¬ (Bitmap.whiteBytes 37838 37837).size = 3 * (37838 * 37837) ∧
    vast.scene none = .error (.noPixels (37838, 37837)) := by
  have size : (Bitmap.whiteBytes 37838 37837).size = 61922 := by
    rw [Bitmap.size_whiteBytes]
    decide
  refine ⟨size, ?_, scene_uncounted rfl rfl (by decide) none⟩
  rw [size]
  decide

end Canvas

end Labbook
