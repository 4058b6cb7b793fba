import Labbook.Proofs.Mesh.Classification
import Labbook.Proofs.Setpoint.MeasuringOrder
import Labbook.Proofs.Setpoint.ScaledColumns

namespace Labbook

namespace PlotType
open Binary64 Setpoint
variable {n : Nat} {k : Int} {s : Binary64} {x y x' y' : List Binary64}

-- The types of a line at two scales, the smaller one first.
def LineKept (data : RecordData) (small large : Tensor Binary64) : Prop :=
  of1D (.numeric large) data = of1D (.numeric small) data ∨
    of1D (.numeric small) data = point1D ∧ of1D (.numeric large) data = line1D ∧
      ConstantAbsolutely small.cells

theorem of1D_numeric {data : RecordData} (plain : data.isText = false) (t : Tensor Binary64) :
    of1D (.numeric t) data = ofSetpoints t.cells := by
  rw [of1D, plain, if_neg Bool.false_ne_true]

theorem lineKept_of_scaled {data : RecordData} (plain : data.isText = false) {small large : Tensor Binary64}
    (all : ScaledColumn n small.cells large.cells) : LineKept data small large := by
  unfold LineKept
  rw [of1D_numeric plain, of1D_numeric plain, ofSetpoints_eq, ofSetpoints_eq]
  cases varied : allTheSame large.cells with
  | true =>
    rw [allTheSame_of_scaled all varied]
    exact .inl rfl
  | false =>
    cases same : allTheSame small.cells with
    | true => exact .inr ⟨rfl, rfl, constantAbsolutely_of_scaled all same varied⟩
    | false => exact .inl rfl

def measuredX (x y : List Binary64) : List Binary64 := (measuredPairs x y).map (·.1)

def measuredY (x y : List Binary64) : List Binary64 := (measuredPairs x y).map (·.2)

-- The type of a pair of columns from the answers to all questions about them.
def decided (empty constant unique full even swept : Bool) : PlotType :=
  if empty then unknown2D
  else if constant then point2D
  else if !unique then unknown2D
  else if full then if even then equidistant2D else grid2D
  else if swept then grid2D
  else unknown2D

theorem of2D_eq (x y : List Binary64) : of2D x y =
    let ux := uniqueSorted (measuredX x y)
    let uy := uniqueSorted (measuredY x y)
    decided (measuredPairs x y).isEmpty (allTheSame (measuredX x y) || allTheSame (measuredY x y))
      (pairsUnique (measuredX x y) (measuredY x y)) (ux.length * uy.length == (measuredPairs x y).length)
      (isEquidistant ux && isEquidistant uy)
      (isInterruptedSweep (measuredX x y) uy.length || isInterruptedSweep (measuredY x y) ux.length) :=
  rfl

-- Two of the answers may turn from yes to no.
theorem decided_weakened (empty unique full swept : Bool) {constant even constant' even' : Bool}
    (same : constant' = true → constant = true) (spaced : even' = true → even = true) :
    decided empty constant' unique full even' swept = decided empty constant unique full even swept ∨
      (decided empty constant unique full even swept = point2D ∧ constant = true ∧ constant' = false) ∨
      (decided empty constant unique full even swept = equidistant2D ∧
        decided empty constant' unique full even' swept = grid2D ∧ even = true ∧ even' = false) := by
  revert empty unique full swept constant even constant' even'
  decide

def MeshKept (x y x' y' : List Binary64) : Prop :=
  of2D x' y' = of2D x y ∨
    (of2D x y = point2D ∧ (ConstantAbsolutely (measuredX x y) ∨ ConstantAbsolutely (measuredY x y))) ∨
    (of2D x y = equidistant2D ∧ of2D x' y' = grid2D ∧
      (EvenAbsolutely (uniqueSorted (measuredX x y)) (uniqueSorted (measuredX x' y')) ∨
        EvenAbsolutely (uniqueSorted (measuredY x y)) (uniqueSorted (measuredY x' y'))))

def ScaledPair (n : Nat) (p q : Binary64 × Binary64) : Prop := Scaled n p.1 q.1 ∧ Scaled n p.2 q.2

theorem biUnique_scaledPair (n : Nat) : Relator.BiUnique (ScaledPair n) := by
  obtain ⟨left, right⟩ := Scaled.biUnique n
  constructor
  · intro p r q one other
    exact Prod.ext (left one.1 other.1) (left one.2 other.2)
  · intro p q r one other
    exact Prod.ext (right one.1 other.1) (right one.2 other.2)

section
variable (allX : ScaledColumn n x x') (allY : ScaledColumn n y y')
include allX allY

theorem measuredPairs_scaled :
    List.Forall₂ (ScaledPair n) (measuredPairs x y) (measuredPairs x' y') := by
  unfold measuredPairs
  induction allX generalizing y y' with
  | nil => exact .nil
  | cons sampleX restX ih =>
    cases allY with
    | nil => exact .nil
    | cons sampleY restY =>
      have rest := ih restY
      rw [List.zip_cons_cons, List.zip_cons_cons]
      cases sampleX with
      | unmeasured broken brokenProduct => simpa [broken, brokenProduct] using rest
      | measured scaledX =>
        cases sampleY with
        | unmeasured broken brokenProduct => simpa [broken, brokenProduct] using rest
        | measured scaledY =>
          have pair : ScaledPair n (_, _) (_, _) := ⟨scaledX, scaledY⟩
          simpa [scaledX.measured, scaledY.measured] using And.intro pair rest

theorem measuredX_scaled : List.Forall₂ (Scaled n) (measuredX x y) (measuredX x' y') := by
  unfold measuredX
  rw [List.forall₂_map_left_iff, List.forall₂_map_right_iff]
  exact (measuredPairs_scaled allX allY).imp fun _ _ pair => pair.1

theorem measuredY_scaled : List.Forall₂ (Scaled n) (measuredY x y) (measuredY x' y') := by
  unfold measuredY
  rw [List.forall₂_map_left_iff, List.forall₂_map_right_iff]
  exact (measuredPairs_scaled allX allY).imp fun _ _ pair => pair.2

theorem pairsUnique_scaled : pairsUnique (measuredX x' y') (measuredY x' y') =
    pairsUnique (measuredX x y) (measuredY x y) := by
  have related := measuredPairs_scaled allX allY
  have pairs (x y : List Binary64) : (measuredX x y).zip (measuredY x y) = measuredPairs x y :=
    (List.zip_of_prod rfl rfl).symm
  rw [Bool.eq_iff_iff, pairsUnique_iff, pairsUnique_iff, pairs, pairs]
  exact (List.rel_nodup (biUnique_scaledPair n) related).symm

theorem columns_scaled : ScaledColumn n (measuredX x y) (measuredX x' y') ∧
    ScaledColumn n (measuredY x y) (measuredY x' y') :=
  ⟨(measuredX_scaled allX allY).imp fun _ _ => .measured,
    (measuredY_scaled allX allY).imp fun _ _ => .measured⟩

theorem constant_of_scaled
    (constant : (allTheSame (measuredX x' y') || allTheSame (measuredY x' y')) = true) :
    (allTheSame (measuredX x y) || allTheSame (measuredY x y)) = true := by
  obtain ⟨columnX, columnY⟩ := columns_scaled allX allY
  rw [Bool.or_eq_true] at constant ⊢
  exact constant.imp (allTheSame_of_scaled columnX) (allTheSame_of_scaled columnY)

theorem even_of_scaled (even : (isEquidistant (uniqueSorted (measuredX x' y')) &&
      isEquidistant (uniqueSorted (measuredY x' y'))) = true) :
    (isEquidistant (uniqueSorted (measuredX x y)) &&
      isEquidistant (uniqueSorted (measuredY x y))) = true := by
  obtain ⟨columnX, columnY⟩ := columns_scaled allX allY
  rw [Bool.and_eq_true] at even ⊢
  exact even.imp (isEquidistant_of_scaled (uniqueSorted_scaled columnX))
    (isEquidistant_of_scaled (uniqueSorted_scaled columnY))

theorem meshKept_of_scaled : MeshKept x y x' y' := by
  obtain ⟨columnX, columnY⟩ := columns_scaled allX allY
  have distinctX := uniqueSorted_scaled columnX
  have distinctY := uniqueSorted_scaled columnY
  have lengths := (measuredPairs_scaled allX allY).length_eq
  have empty : (measuredPairs x' y').isEmpty = (measuredPairs x y).isEmpty := by
    rw [Bool.eq_iff_iff, List.isEmpty_iff_length_eq_zero, List.isEmpty_iff_length_eq_zero, lengths]
  unfold MeshKept
  rw [of2D_eq x y, of2D_eq x' y']
  dsimp only
  rw [empty, pairsUnique_scaled allX allY, ← distinctX.length_eq, ← distinctY.length_eq, ← lengths,
    isInterruptedSweep_scaled (measuredX_scaled allX allY),
    isInterruptedSweep_scaled (measuredY_scaled allX allY)]
  rcases decided_weakened _ _ _ _ (constant_of_scaled allX allY) (even_of_scaled allX allY) with
    kept | ⟨point, constant, varied⟩ | ⟨spread, grid, even, uneven⟩
  · exact .inl kept
  · refine .inr (.inl ⟨point, ?_⟩)
    rw [Bool.or_eq_false_iff] at varied
    rw [Bool.or_eq_true] at constant
    exact constant.imp (fun first => constantAbsolutely_of_scaled columnX first varied.1)
      fun second => constantAbsolutely_of_scaled columnY second varied.2
  · refine .inr (.inr ⟨spread, grid, ?_⟩)
    rw [Bool.and_eq_true] at even
    rw [Bool.and_eq_false_iff] at uneven
    exact uneven.imp (evenAbsolutely_of_scaled distinctX even.1)
      (evenAbsolutely_of_scaled distinctY even.2)

end

section
variable (lossless : ∀ v ∈ x, ExactProduct s v)
include lossless

theorem scaledColumn_up (power : IsPower s n) : ScaledColumn n x (x.map (· * s)) := by
  rw [ScaledColumn, List.forall₂_map_right_iff, List.forall₂_same]
  intro v member
  have kept := isNaN_mul power (lossless v member)
  cases broken : v.isNaN with
  | true => exact .unmeasured broken (kept.trans broken)
  | false => exact .measured (scaled_mul power broken (lossless v member))

theorem scaledColumn_down (power : IsPower s (-n)) : ScaledColumn n (x.map (· * s)) x := by
  rw [ScaledColumn, List.forall₂_map_left_iff, List.forall₂_same]
  intro v member
  have kept := isNaN_mul power (lossless v member)
  cases broken : v.isNaN with
  | true => exact .unmeasured (kept.trans broken) broken
  | false => exact .measured (mul_scaled power broken (lossless v member))

end

-- The order of a line counts through its first value alone, a unit through the absolute tolerance alone.
theorem types_ordered_scaled (data : RecordData) (plain : data.isText = false) (t : Tensor Binary64)
    (x y : List Binary64) (power : IsPower s k) (exactT : ∀ v ∈ t.cells, ExactProduct s v)
    (exactX : ∀ v ∈ x, ExactProduct s v) (exactY : ∀ v ∈ y, ExactProduct s v) :
    ((∀ p : Tensor Binary64, p.cells.Perm t.cells →
        of1D (.numeric p) data = of1D (.numeric t) data) ↔ OrderFree t.cells) ∧
      (∀ p : Tensor Binary64, p.cells.Perm t.cells →
        (measured p.cells).head? = (measured t.cells).head? →
          of1D (.numeric p) data = of1D (.numeric t) data) ∧
      (0 ≤ k → LineKept data t (t.map (· * s)) ∧ MeshKept x y (x.map (· * s)) (y.map (· * s))) ∧
      (k ≤ 0 → LineKept data (t.map (· * s)) t ∧ MeshKept (x.map (· * s)) (y.map (· * s)) x y) := by
  refine ⟨⟨fun fixed => ?_, fun free p perm => ?_⟩, fun p perm heads => ?_, fun above => ?_,
    fun below => ?_⟩
  · rw [← ofSetpoints_perm_iff]
    intro p perm
    have same := fixed ⟨t.dims, p, perm.length_eq.trans t.cells_length⟩ perm
    rwa [of1D_numeric plain, of1D_numeric plain] at same
  · rw [of1D_numeric plain, of1D_numeric plain]
    exact ofSetpoints_perm_iff.mpr free p.cells perm
  · rw [of1D_numeric plain, of1D_numeric plain, ofSetpoints_eq, ofSetpoints_eq,
      allTheSame_of_head perm heads]
  · obtain ⟨n, rfl⟩ := Int.eq_ofNat_of_zero_le above
    exact ⟨lineKept_of_scaled plain (scaledColumn_up exactT power),
      meshKept_of_scaled (scaledColumn_up exactX power) (scaledColumn_up exactY power)⟩
  · obtain ⟨n, rfl⟩ := Int.exists_eq_neg_ofNat below
    exact ⟨lineKept_of_scaled plain (scaledColumn_down exactT power),
      meshKept_of_scaled (scaledColumn_down exactX power) (scaledColumn_down exactY power)⟩

-- Three positions in any order, and a sweep whose unit is made 1024 times smaller.
theorem types_ordered_scaled_sweep :
    (∀ p : Tensor Binary64, p.cells.Perm [0, 1, 2] →
        of1D (.numeric p) (.numeric (.ofList [5, 6, 7])) = line1D) ∧
      LineKept (.numeric (.ofList [5, 6, 7])) (.ofList [0, 1, 2]) (.ofList [0, 1024, 2048]) ∧
      MeshKept [0, 0, 1e-9, 1e-9] [0, 1e-9, 0, 1e-9] ([0, 0, 1e-9, 1e-9].map (· * 1024))
        ([0, 1e-9, 0, 1e-9].map (· * 1024)) := by
  have power : IsPower 1024 10 := ⟨by decide +kernel, by decide +kernel⟩
  obtain ⟨order, -, up, -⟩ := types_ordered_scaled (.numeric (.ofList [5, 6, 7])) rfl
    (.ofList [0, 1, 2]) [0, 0, 1e-9, 1e-9] [0, 1e-9, 0, 1e-9] power (by decide +kernel)
    (by decide +kernel) (by decide +kernel)
  obtain ⟨line, mesh⟩ := up (by decide)
  refine ⟨fun p perm => ?_, ?_, mesh⟩
  · rw [order.mpr (by decide +kernel) p perm]
    decide +kernel
  · have products : (Tensor.ofList [0, 1, 2]).map (· * (1024 : Binary64)) = .ofList [0, 1024, 2048] := by
      have cells : [0, 1, 2].map (· * (1024 : Binary64)) = [0, 1024, 2048] := by decide +kernel
      unfold Tensor.map Tensor.ofList
      congr
    rwa [products] at line

-- The order of three positions counts, and the units of two positions and of a sweep.
theorem types_within_tolerance :
    ([9e-9, 0, -9e-9] : List Binary64).Perm [0, 9e-9, -9e-9] ∧
      (of1D (.numeric (.ofList [0, 9e-9, -9e-9])) (.numeric (.ofList [5, 6, 7])) = point1D ∧
        of1D (.numeric (.ofList [9e-9, 0, -9e-9])) (.numeric (.ofList [5, 6, 7])) = line1D) ∧
      IsPower 1024 10 ∧ (∀ v ∈ [0, 1e-9], ExactProduct 1024 v) ∧
      (of1D (.numeric (.ofList [0, 1e-9])) (.numeric (.ofList [5, 6])) = point1D ∧
        of1D (.numeric ((Tensor.ofList [0, 1e-9]).map (· * 1024))) (.numeric (.ofList [5, 6])) = line1D) ∧
      of2D [0, 0, 1e-9, 1e-9] [0, 1e-9, 0, 1e-9] = point2D ∧
        of2D ([0, 0, 1e-9, 1e-9].map (· * 1024)) ([0, 1e-9, 0, 1e-9].map (· * 1024)) = equidistant2D := by
  have order : of1D (.numeric (.ofList [0, 9e-9, -9e-9])) (.numeric (.ofList [5, 6, 7])) = point1D ∧
      of1D (.numeric (.ofList [9e-9, 0, -9e-9])) (.numeric (.ofList [5, 6, 7])) = line1D := by
    decide +kernel
  have power : IsPower 1024 10 := ⟨by decide +kernel, by decide +kernel⟩
  have line : of1D (.numeric (.ofList [0, 1e-9])) (.numeric (.ofList [5, 6])) = point1D ∧
      of1D (.numeric ((Tensor.ofList [0, 1e-9]).map (· * 1024))) (.numeric (.ofList [5, 6])) = line1D := by
    decide +kernel
  have points : of2D [0, 0, 1e-9, 1e-9] [0, 1e-9, 0, 1e-9] = point2D := by
    decide +kernel
  refine ⟨.swap _ _ _, order, power, by decide +kernel, line, points, ?_⟩
  have ascending : [0, (1e-9 * 1024 : Binary64)].Pairwise (· < ·) := by decide +kernel
  have clean : ∀ v ∈ [0, (1e-9 * 1024 : Binary64)], v.isNaN = false := by decide +kernel
  have columnX : measuredX ([0, 0, 1e-9, 1e-9].map (· * 1024)) ([0, 1e-9, 0, 1e-9].map (· * 1024)) =
      [0, 0, 1e-9 * 1024, 1e-9 * 1024] := by decide +kernel
  have columnY : measuredY ([0, 0, 1e-9, 1e-9].map (· * 1024)) ([0, 1e-9, 0, 1e-9].map (· * 1024)) =
      [0, 1e-9 * 1024, 0, 1e-9 * 1024] := by decide +kernel
  have axisX : uniqueSorted [0, 0, (1e-9 * 1024 : Binary64), 1e-9 * 1024] = [0, 1e-9 * 1024] :=
    uniqueSorted_eq ascending fun v => by
      simp only [List.mem_cons, List.not_mem_nil, or_false] at clean ⊢
      have := clean v
      tauto
  have axisY : uniqueSorted [0, (1e-9 * 1024 : Binary64), 0, 1e-9 * 1024] = [0, 1e-9 * 1024] :=
    uniqueSorted_eq ascending fun v => by
      simp only [List.mem_cons, List.not_mem_nil, or_false] at clean ⊢
      have := clean v
      tauto
  have unique : pairsUnique [0, 0, (1e-9 * 1024 : Binary64), 1e-9 * 1024]
      [0, 1e-9 * 1024, 0, 1e-9 * 1024] = true := by
    rw [pairsUnique_iff]
    decide +kernel
  rw [of2D_eq, columnX, columnY]
  dsimp only
  rw [axisX, axisY, unique]
  decide +kernel

end PlotType

end Labbook
