import Labbook.Picture.Scene
import Labbook.Proofs.Outcome
import Labbook.Proofs.Picture.Cropping

namespace Labbook

namespace Bitmap

def extent (b : Bitmap) : Nat × Nat := (b.width, b.height)

@[simp]
theorem extent_paint (b : Bitmap) (x y : Nat) (c : Rgb) : (b.paint x y c).extent = b.extent := by
  unfold paint
  split <;> rfl

@[simp]
theorem extent_fillRow (c : Rgb) (y x count : Nat) (b : Bitmap) :
    (fillRow c y x count b).extent = b.extent := by
  induction count generalizing x b with
  | zero => rfl
  | succ n ih => rw [fillRow, ih, extent_paint]

@[simp]
theorem extent_fillRows (c : Rgb) (x width y count : Nat) (b : Bitmap) :
    (fillRows c x width y count b).extent = b.extent := by
  induction count generalizing y b with
  | zero => rfl
  | succ n ih => rw [fillRows, ih, extent_fillRow]

@[simp]
theorem extent_fill (a : Area) (c : Rgb) (b : Bitmap) : (b.fill a c).extent = b.extent :=
  extent_fillRows ..

@[simp]
theorem extent_mix (x y : Int) (c : Rgb) (weight : Nat) (b : Bitmap) :
    (b.mix x y c weight).extent = b.extent := by
  unfold mix
  split
  · rfl
  · split
    · rfl
    · exact extent_paint ..

@[simp]
theorem extent_discLine (center : Int × Int) (radius middle : Nat) (c : Rgb) (b : Bitmap)
    (distance : Int) : (discLine center radius middle c b distance).extent = b.extent := by
  simp [discLine]

theorem extent_foldl {α : Type} {step : Bitmap → α → Bitmap}
    (keeps : ∀ b a, (step b a).extent = b.extent) (steps : List α) (b : Bitmap) :
    (steps.foldl step b).extent = b.extent := by
  induction steps generalizing b with
  | nil => rfl
  | cons a rest ih => rw [List.foldl_cons, ih, keeps]

@[simp]
theorem extent_disc (center : Int × Int) (radius : Nat) (c : Rgb) (b : Bitmap) :
    (b.disc center radius c).extent = b.extent :=
  extent_foldl (extent_discLine center radius _ c) _ b

theorem size_whiteBytes (width height : UInt32) :
    (whiteBytes width height).size = width.toNat * height.toNat * 3 % 2 ^ 32 := by
  rw [whiteBytes, size_pushFull, byteCount, UInt32.toNat_mul, UInt32.toNat_mul, Nat.mod_mul_mod]
  exact Nat.zero_add _

theorem white?_isSome_iff (width height : UInt32) : (white? width height).isSome = true ↔
    3 * (width.toNat * height.toNat) < 2 ^ 32 := by
  unfold white?
  simp only [size_whiteBytes]
  split <;> simp <;> omega

theorem extent_of_white? {width height : UInt32} {b : Bitmap}
    (made : white? width height = some b) : b.extent = (width.toNat, height.toNat) := by
  unfold white? at made
  simp only at made
  split at made
  · cases made
    rfl
  · cases made

theorem crop?_isSome_iff (b : Bitmap) (a : Area) :
    (b.crop? a).isSome = true ↔ Within a b.extent := by
  by_cases within : Within a b.extent
  · obtain ⟨cut, taken, -⟩ := crop?_bytes within
    rw [taken]
    exact iff_of_true rfl within
  · rw [crop?_outside within]
    exact iff_of_false Bool.false_ne_true within

end Bitmap

theorem Chart.extent_paint (chart : Chart) (b : Bitmap) (mark : Mark Binary64) :
    (chart.paint b mark).extent = b.extent := by
  cases mark with
  | path points => rfl
  | dot center radius color => exact Bitmap.extent_disc ..
  | box a d color => exact Bitmap.extent_fill ..

namespace Canvas

-- Whatever is painted on it, a canvas has an image when its bytes can be counted and its plotting area
-- is a part of it with room for a pixel.
theorem rasterImage_isOk (c : Canvas) (chart : Chart) (bar : Option (Colorbar Binary64))
    (fits : 3 * ((UInt32.ofNat c.size.1).toNat * (UInt32.ofNat c.size.2).toNat) < 2 ^ 32)
    (inside : Bitmap.Within chart.area
      ((UInt32.ofNat c.size.1).toNat, (UInt32.ofNat c.size.2).toNat))
    (visible : chart.area.isVisible = true) : (c.rasterImage chart bar).isOk = true := by
  obtain ⟨blank, made⟩ := Option.isSome_iff_exists.mp ((Bitmap.white?_isSome_iff _ _).mpr fits)
  have extent := Bitmap.extent_foldl chart.extent_paint (marksOf c.rasterLayers bar) blank
  rw [Bitmap.extent_of_white? made] at extent
  rw [← extent] at inside
  obtain ⟨cut, taken⟩ := Option.isSome_iff_exists.mp ((Bitmap.crop?_isSome_iff _ _).mpr inside)
  simp only [rasterImage, made, taken, visible]
  rfl

end Canvas

namespace Frame

-- With room between its cuts, a length is cut where it is asked to be.
theorem cuts_of_room {low high before after : Int} (start : 0 ≤ before) (stop : 0 ≤ after)
    (room : low + before ≤ high - after) :
    cuts low high before after = [low, low + before, high - after, high] := by
  have sorted : (cuts low high before after).Pairwise fun a b => decide (a ≤ b) = true :=
    List.pairwise_mergeSort (fun _ _ _ => by simpa using Int.le_trans)
      (fun a b => by simpa using Int.le_total a b) _
  have ordered : [low, low + before, high - after, high].Pairwise fun a b => decide (a ≤ b) = true := by
    simp only [List.pairwise_cons, List.mem_cons, decide_eq_true_eq]
    grind
  have later : ([high] ++ [low + before, high - after]).Perm ([low + before, high - after] ++ [high]) :=
    List.perm_append_comm
  have same : (cuts low high before after).Perm [low, low + before, high - after, high] :=
    (List.mergeSort_perm _ _).trans (later.cons low)
  refine List.Perm.eq_of_pairwise ?_ sorted ordered same
  intro a b _ _ le ge
  exact Int.le_antisymm (of_decide_eq_true le) (of_decide_eq_true ge)

theorem divide_plot_of_room {a : Area} {left bottom right : Int} (start : 0 ≤ left)
    (stop : 0 ≤ right) (under : 0 ≤ bottom) (across : a.left + left ≤ a.right - right)
    (down : a.top ≤ a.bottom - bottom) :
    (divide a left bottom right).plot = ⟨a.left + left, a.top, a.right - right, a.bottom - bottom⟩ := by
  have rows := cuts_of_room (Int.le_refl 0) under (by rwa [Int.add_zero] : a.top + 0 ≤ _)
  simp only [divide, cuts_of_room start stop across, rows, Int.add_zero]
  rfl

end Frame

end Labbook
