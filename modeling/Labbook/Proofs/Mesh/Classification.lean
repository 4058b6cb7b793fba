import Labbook.Proofs.Mesh.Placement
import Labbook.Proofs.Setpoint.Runs
import Mathlib.Data.List.ProdSigma
import Mathlib.Data.List.Zip

namespace Labbook

namespace PlotType

theorem distinctFrom_iff {β : Type} [BEq β] [Hashable β] [LawfulBEq β] (seen : Std.HashSet β)
    (items : List β) :
    distinctFrom seen items = true ↔ items.Nodup ∧ ∀ b ∈ items, b ∉ seen := by
  induction items generalizing seen with
  | nil => simp [distinctFrom]
  | cons b rest ih =>
    unfold distinctFrom
    by_cases known : seen.contains b = true
    · have member : b ∈ seen := Std.HashSet.contains_iff_mem.mp known
      simp [known, member]
    · have fresh : b ∉ seen := mt Std.HashSet.contains_iff_mem.mpr known
      rw [if_neg known, ih, List.nodup_cons]
      constructor
      · rintro ⟨nodup, unseen⟩
        refine ⟨⟨fun again => unseen b again Std.HashSet.mem_insert_self, nodup⟩, ?_⟩
        intro c member
        rcases List.mem_cons.mp member with rfl | later
        · exact fresh
        · exact fun old => unseen c later (Std.HashSet.mem_insert.mpr (.inr old))
      · rintro ⟨⟨once, nodup⟩, unseen⟩
        refine ⟨nodup, fun c later old => ?_⟩
        rcases Std.HashSet.mem_insert.mp old with same | before
        · exact once (eq_of_beq same ▸ later)
        · exact unseen c (List.mem_cons_of_mem _ later) before

theorem distinct_iff {β : Type} [BEq β] [Hashable β] [LawfulBEq β] (items : List β) :
    distinct items = true ↔ items.Nodup := by
  rw [distinct, distinctFrom_iff]
  exact ⟨And.left, fun nodup => ⟨nodup, fun b _ => Std.HashSet.not_mem_empty⟩⟩

theorem pairsUnique_iff (x y : List Binary64) : pairsUnique x y = true ↔ (x.zip y).Nodup := by
  rw [pairsUnique, distinct_iff]
  refine List.nodup_map_iff fun p q same => ?_
  obtain ⟨⟨px⟩, ⟨py⟩⟩ := p
  obtain ⟨⟨qx⟩, ⟨qy⟩⟩ := q
  cases same
  rfl

theorem measuredPairs_plain {x y : List Binary64} (plainX : Setpoint.Plain x)
    (plainY : Setpoint.Plain y) : measuredPairs x y = x.zip y := by
  refine List.filter_eq_self.mpr fun p member => ?_
  obtain ⟨memberX, memberY⟩ := List.of_mem_zip member
  simp [plainX.measured _ memberX, plainY.measured _ memberY]

-- Whether the places of a sweep are filled, apart from the end of its last line.
def FillsGrid (x y : List Binary64) : Prop :=
  (Setpoint.uniqueSorted x).length * (Setpoint.uniqueSorted y).length = x.length ∨
    isInterruptedSweep x (Setpoint.uniqueSorted y).length = true ∨
    isInterruptedSweep y (Setpoint.uniqueSorted x).length = true

theorem isMesh_of2D_iff {x y : List Binary64} (plainX : Setpoint.Plain x)
    (plainY : Setpoint.Plain y) (lengths : x.length = y.length) :
    (of2D x y).isMesh = true ↔
      x ≠ [] ∧ Setpoint.allTheSame x = false ∧ Setpoint.allTheSame y = false ∧ (x.zip y).Nodup ∧
        FillsGrid x y := by
  have firsts : (x.zip y).map (·.1) = x := List.map_fst_zip (Nat.le_of_eq lengths)
  have seconds : (x.zip y).map (·.2) = y := List.map_snd_zip (Nat.le_of_eq lengths.symm)
  have count : (x.zip y).length = x.length := by
    rw [List.length_zip, ← lengths, Nat.min_self]
  have empty : (x.zip y).isEmpty = true ↔ x = [] := by
    rw [List.isEmpty_iff, ← List.length_eq_zero_iff, count, List.length_eq_zero_iff]
  unfold of2D FillsGrid
  rw [measuredPairs_plain plainX plainY]
  dsimp only
  rw [firsts, seconds, count, ← pairsUnique_iff]
  split
  · rename_i unmeasured
    simp [empty.mp unmeasured, isMesh]
  · rename_i filled
    have nonempty : x ≠ [] := mt empty.mpr filled
    split
    · rename_i constant
      rcases Bool.or_eq_true _ _ ▸ constant with sameX | sameY
      · simp [sameX, isMesh]
      · simp [sameY, isMesh]
    · rename_i varied
      rw [Bool.or_eq_true, not_or, Bool.not_eq_true, Bool.not_eq_true] at varied
      split
      · rename_i repeated
        have notUnique : pairsUnique x y = false := by simpa using repeated
        simp [notUnique, isMesh]
      · rename_i unique
        have isUnique : pairsUnique x y = true := by simpa using unique
        simp only [nonempty, varied.1, varied.2, isUnique, ne_eq, not_false_eq_true, true_and]
        split
        · rename_i product
          have filled := eq_of_beq product
          refine ⟨fun _ => .inl filled, fun _ => ?_⟩
          split <;> rfl
        · rename_i incomplete
          have incompleteGrid :
              ¬ (Setpoint.uniqueSorted x).length * (Setpoint.uniqueSorted y).length = x.length :=
            fun filled => incomplete (beq_iff_eq.mpr filled)
          split
          · rename_i sweep
            exact ⟨fun _ => .inr (Bool.or_eq_true _ _ ▸ sweep), fun _ => rfl⟩
          · rename_i noSweep
            rw [Bool.or_eq_true] at noSweep
            refine ⟨fun mesh => absurd mesh Bool.false_ne_true, ?_⟩
            rintro (filled | sweep)
            · exact absurd filled incompleteGrid
            · exact absurd sweep noSweep

end PlotType

section Counting
variable {pairs : List (Binary64 × Binary64)}

-- As many pairs as there are places in the product of two axes fill all of them.
theorem product_full (once : pairs.Nodup) {axisX axisY : List Binary64}
    (inside : ∀ p ∈ pairs, p.1 ∈ axisX ∧ p.2 ∈ axisY)
    (count : axisX.length * axisY.length = pairs.length) :
    ∀ v ∈ axisX, ∀ w ∈ axisY, (v, w) ∈ pairs := by
  have subset : pairs ⊆ axisX ×ˢ axisY := fun p member => List.mem_product.mpr (inside p member)
  have perm := (once.subperm subset).perm_of_length_le (by rw [List.length_product, count])
  intro v memberV w memberW
  exact perm.mem_iff.mpr (List.mem_product.mpr ⟨memberV, memberW⟩)

-- A value with as many pairs as the other axis has places is paired with all of them.
theorem line_full (once : pairs.Nodup) {axis : List Binary64} (inside : ∀ p ∈ pairs, p.2 ∈ axis)
    {v : Binary64} (count : (pairs.map (·.1)).count v = axis.length) :
    ∀ w ∈ axis, (v, w) ∈ pairs := by
  let line := (pairs.filter fun p => p.1 == v).map (·.2)
  have onLine : ∀ p ∈ pairs.filter fun p => p.1 == v, p ∈ pairs ∧ p.1 = v := fun p member => by
    simpa using member
  have nodup : line.Nodup := by
    refine List.Nodup.map_on ?_ (once.filter _)
    intro p memberP q memberQ same
    exact Prod.ext ((onLine p memberP).2.trans (onLine q memberQ).2.symm) same
  have subset : line ⊆ axis := by
    intro w member
    obtain ⟨p, memberP, rfl⟩ := List.mem_map.mp member
    exact inside p (onLine p memberP).1
  have length : line.length = axis.length := by
    rw [← count, List.count, List.countP_map, List.countP_eq_length_filter, List.length_map]
    rfl
  have perm := (nodup.subperm subset).perm_of_length_le (Nat.le_of_eq length.symm)
  intro w memberW
  obtain ⟨p, memberP, rfl⟩ := List.mem_map.mp (perm.mem_iff.mpr memberW)
  obtain ⟨member, rfl⟩ := onLine p memberP
  exact member

end Counting

namespace MeshData

def sampleCell (m : MeshData) (x y : List Binary64) (i : Nat) : Nat × Nat :=
  (m.y.idxOf (y.getD i .nan), m.x.idxOf (x.getD i .nan))

def IsGap (m : MeshData) (x y : List Binary64) (cell : Nat × Nat) : Prop :=
  cell.1 < m.y.length ∧ cell.2 < m.x.length ∧ ∀ i < x.length, m.sampleCell x y i ≠ cell

-- A mesh of a sweep that may have been interrupted: nothing measured is lost, nothing else is filled in,
-- and what is missing belongs to the line of the last sample.
structure ShowsSweep (m : MeshData) (x y z : List Binary64) : Prop where
  ascending : m.x.Pairwise (· < ·) ∧ m.y.Pairwise (· < ·)
  stands : ∀ i < x.length,
    m.y[(m.sampleCell x y i).1]? = y[i]? ∧ m.x[(m.sampleCell x y i).2]? = x[i]?
  shown : ∀ i < x.length, m.z.get? (m.sampleCell x y i).1 (m.sampleCell x y i).2 = z[i]?
  apart : ∀ i < x.length, ∀ j < x.length, m.sampleCell x y i = m.sampleCell x y j → i = j
  blank : ∀ cell, m.IsGap x y cell → m.z.get? cell.1 cell.2 = some .nan
  lastLine : (∀ cell, m.IsGap x y cell → cell.2 = (m.sampleCell x y (x.length - 1)).2) ∨
    (∀ cell, m.IsGap x y cell → cell.1 = (m.sampleCell x y (x.length - 1)).1)

section Samples
variable {x y z : List Binary64}

theorem getElem?_axis (plain : Setpoint.Plain x) {v : Binary64} (member : v ∈ x) :
    (Setpoint.uniqueSorted x)[(Setpoint.uniqueSorted x).idxOf v]? = some v :=
  List.getElem?_idxOf ((Setpoint.mem_uniqueSorted_plain plain).mpr member)

theorem sampleCell_stands (plainX : Setpoint.Plain x) (plainY : Setpoint.Plain y)
    (lengths : x.length = y.length) {i : Nat} (inside : i < x.length) :
    (layOut x y z).y[((layOut x y z).sampleCell x y i).1]? = y[i]? ∧
      (layOut x y z).x[((layOut x y z).sampleCell x y i).2]? = x[i]? := by
  have insideY : i < y.length := lengths ▸ inside
  have rowValue : y.getD i .nan = y[i] := List.getD_eq_getElem _ _ insideY
  have colValue : x.getD i .nan = x[i] := List.getD_eq_getElem _ _ inside
  unfold sampleCell
  rw [rowValue, colValue, List.getElem?_eq_getElem insideY, List.getElem?_eq_getElem inside]
  exact ⟨getElem?_axis plainY (List.getElem_mem insideY),
    getElem?_axis plainX (List.getElem_mem inside)⟩

theorem eq_of_setpoints (lengths : x.length = y.length) (once : (x.zip y).Nodup) {i j : Nat}
    (inside : i < x.length) (sameX : x[i]? = x[j]?)
    (sameY : y[i]? = y[j]?) : i = j := by
  have count : (x.zip y).length = x.length := by
    rw [List.length_zip, ← lengths, Nat.min_self]
  have pairs : (x.zip y)[i]? = (x.zip y)[j]? := by
    unfold List.zip
    rw [List.getElem?_zipWith, List.getElem?_zipWith, sameX, sameY]
  exact (List.getElem?_inj (count ▸ inside) once).mp pairs

-- Two samples in one cell have the same setpoints, so they are one sample.
theorem sampleCell_injective (plainX : Setpoint.Plain x) (plainY : Setpoint.Plain y)
    (lengths : x.length = y.length) (once : (x.zip y).Nodup) {i j : Nat} (insideI : i < x.length)
    (insideJ : j < x.length)
    (same : (layOut x y z).sampleCell x y i = (layOut x y z).sampleCell x y j) : i = j := by
  have standsI := sampleCell_stands (z := z) plainX plainY lengths insideI
  have standsJ := sampleCell_stands (z := z) plainX plainY lengths insideJ
  rw [same] at standsI
  exact eq_of_setpoints lengths once insideI (standsI.2.symm.trans standsJ.2)
    (standsI.1.symm.trans standsJ.1)

theorem cell?_sample (plainX : Setpoint.Plain x) (plainY : Setpoint.Plain y)
    (lengths : x.length = y.length) {point : Point} {i : Nat} (atX : x[i]? = some point.1)
    (atY : y[i]? = some point.2.1) : cell? (layOut x y z).x (layOut x y z).y point =
      some ((layOut x y z).sampleCell x y i) := by
  have inside : i < x.length := (List.getElem?_eq_some_iff.mp atX).1
  have stands := sampleCell_stands (z := z) plainX plainY lengths inside
  refine (cell?_iff (Setpoint.uniqueSorted_nodup x) (Setpoint.uniqueSorted_nodup y)).mpr
    ⟨?_, ?_, ?_, ?_⟩
  · exact plainX.measured _ (List.mem_of_getElem? atX)
  · exact plainY.measured _ (List.mem_of_getElem? atY)
  · exact stands.1.trans atY
  · exact stands.2.trans atX

theorem layOut_shown (plainX : Setpoint.Plain x) (plainY : Setpoint.Plain y)
    (lengths : x.length = y.length) (once : (x.zip y).Nodup) (values : y.length = z.length) {i : Nat}
    (inside : i < x.length) : (layOut x y z).z.get? ((layOut x y z).sampleCell x y i).1
      ((layOut x y z).sampleCell x y i).2 = z[i]? := by
  have only : ∀ (p : Point) (j : Nat), x[j]? = some p.1 → y[j]? = some p.2.1 →
      cell? (layOut x y z).x (layOut x y z).y p = some ((layOut x y z).sampleCell x y i) → j = i := by
    intro p j atX atY found
    have insideJ : j < x.length := (List.getElem?_eq_some_iff.mp atX).1
    rw [cell?_sample (z := z) plainX plainY lengths atX atY] at found
    exact sampleCell_injective plainX plainY lengths once insideJ inside (Option.some.inj found)
  have insideY : i < y.length := lengths ▸ inside
  have placed : cell? (layOut x y z).x (layOut x y z).y (x[i], y[i], .nan) =
      some ((layOut x y z).sampleCell x y i) :=
    cell?_sample plainX plainY lengths (List.getElem?_eq_getElem inside)
      (List.getElem?_eq_getElem insideY)
  obtain ⟨inRow, inCol⟩ := cell?_inside placed
  rw [layOut_get? inRow inCol, lastIn?_eq_getElem? only
    (fun p atX atY => cell?_sample plainX plainY lengths atX atY)
    (Nat.le_of_eq (values.symm.trans lengths.symm)) (Nat.le_of_eq values.symm),
    List.getElem?_eq_getElem (values ▸ lengths ▸ inside)]
  rfl

theorem layOut_blank (plainX : Setpoint.Plain x) (plainY : Setpoint.Plain y)
    (lengths : x.length = y.length) {cell : Nat × Nat} (gap : (layOut x y z).IsGap x y cell) :
    (layOut x y z).z.get? cell.1 cell.2 = some .nan := by
  obtain ⟨inRow, inCol, free⟩ := gap
  have absent : ∀ p ∈ points x y z, cell? (layOut x y z).x (layOut x y z).y p ≠ some cell := by
    intro p member found
    obtain ⟨j, otherX, otherY, -⟩ := mem_points.mp member
    rw [cell?_sample (z := z) plainX plainY lengths otherX otherY] at found
    exact free j (List.getElem?_eq_some_iff.mp otherX).1 (Option.some.inj found)
  rw [layOut_get? inRow inCol, lastIn?_eq_none absent]
  rfl

-- The setpoints of a gap were never measured together.
theorem gap_unpaired {cell : Nat × Nat}
    (gap : (layOut x y z).IsGap x y cell) {v w : Binary64}
    (row : (layOut x y z).y[cell.1]? = some w) (col : (layOut x y z).x[cell.2]? = some v) :
    (v, w) ∉ x.zip y := by
  intro member
  obtain ⟨i, found⟩ := List.mem_iff_getElem?.mp member
  obtain ⟨atX, atY⟩ := List.getElem?_zip_eq_some.mp found
  have inside : i < x.length := (List.getElem?_eq_some_iff.mp atX).1
  have cell : (layOut x y z).sampleCell x y i = cell := by
    unfold sampleCell
    rw [List.getD_eq_getElem?_getD, List.getD_eq_getElem?_getD, atX, atY]
    exact Prod.ext (idxOf_of_getElem? (Setpoint.uniqueSorted_nodup y) row)
      (idxOf_of_getElem? (Setpoint.uniqueSorted_nodup x) col)
  exact gap.2.2 i inside cell

theorem gap_setpoints {cell : Nat × Nat} (gap : (layOut x y z).IsGap x y cell) :
    ∃ v ∈ Setpoint.uniqueSorted x, ∃ w ∈ Setpoint.uniqueSorted y,
      (layOut x y z).x[cell.2]? = some v ∧ (layOut x y z).y[cell.1]? = some w ∧
        (v, w) ∉ x.zip y := by
  have row := List.getElem?_eq_getElem gap.1
  have col := List.getElem?_eq_getElem gap.2.1
  exact ⟨_, List.getElem_mem gap.2.1, _, List.getElem_mem gap.1, col, row, gap_unpaired gap row col⟩

-- Only the value of the last run may lack a partner.
theorem eq_last_of_unpaired {outer inner : List Binary64} (plain : Setpoint.Plain inner)
    (lengths : outer.length = inner.length) (once : (outer.zip inner).Nodup) {last : Binary64}
    (sweep : Setpoint.Interrupted outer (Setpoint.uniqueSorted inner).length last) {v w : Binary64}
    (memberV : v ∈ outer) (memberW : w ∈ Setpoint.uniqueSorted inner)
    (unpaired : (v, w) ∉ outer.zip inner) : v = last := by
  by_contra differ
  have firsts : (outer.zip inner).map (·.1) = outer := List.map_fst_zip (Nat.le_of_eq lengths)
  have inside : ∀ p ∈ outer.zip inner, p.2 ∈ Setpoint.uniqueSorted inner := fun p member =>
    (Setpoint.mem_uniqueSorted_plain plain).mpr (List.of_mem_zip member).2
  have count := sweep.complete v memberV differ
  rw [← firsts] at count
  exact unpaired (line_full once inside count w memberW)

theorem sampleCell_last_column {m : MeshData} {last : Binary64} (ends : x.getLast? = some last) :
    (m.sampleCell x y (x.length - 1)).2 = m.x.idxOf last := by
  rw [List.getLast?_eq_getElem?] at ends
  unfold sampleCell
  rw [List.getD_eq_getElem?_getD, List.getD_eq_getElem?_getD, ends]
  rfl

theorem sampleCell_last_row {m : MeshData} {last : Binary64} (lengths : x.length = y.length)
    (ends : y.getLast? = some last) : (m.sampleCell x y (x.length - 1)).1 = m.y.idxOf last := by
  rw [List.getLast?_eq_getElem?, ← lengths] at ends
  unfold sampleCell
  rw [List.getD_eq_getElem?_getD, List.getD_eq_getElem?_getD, ends]
  rfl

theorem layOut_lastLine (plainX : Setpoint.Plain x) (plainY : Setpoint.Plain y)
    (lengths : x.length = y.length) (mesh : (PlotType.of2D x y).isMesh = true) :
    (∀ cell, (layOut x y z).IsGap x y cell →
        cell.2 = ((layOut x y z).sampleCell x y (x.length - 1)).2) ∨
      (∀ cell, (layOut x y z).IsGap x y cell →
        cell.1 = ((layOut x y z).sampleCell x y (x.length - 1)).1) := by
  obtain ⟨-, -, -, once, product | sweep | sweep⟩ :=
    (PlotType.isMesh_of2D_iff plainX plainY lengths).mp mesh
  · -- A full product has no gap at all.
    refine .inl fun cell gap => ?_
    obtain ⟨v, memberV, w, memberW, -, -, unpaired⟩ := gap_setpoints gap
    have inside : ∀ p ∈ x.zip y,
        p.1 ∈ Setpoint.uniqueSorted x ∧ p.2 ∈ Setpoint.uniqueSorted y := fun p member =>
      ⟨(Setpoint.mem_uniqueSorted_plain plainX).mpr (List.of_mem_zip member).1,
        (Setpoint.mem_uniqueSorted_plain plainY).mpr (List.of_mem_zip member).2⟩
    have count : (x.zip y).length = x.length := by rw [List.length_zip, ← lengths, Nat.min_self]
    exact absurd (product_full once inside (product.trans count.symm) v memberV w memberW) unpaired
  · obtain ⟨last, interrupted⟩ := (Setpoint.isInterruptedSweep_iff plainX).mp sweep
    refine .inl fun cell gap => ?_
    obtain ⟨v, memberV, w, memberW, col, -, unpaired⟩ := gap_setpoints gap
    have outer : v = last := eq_last_of_unpaired plainY lengths once interrupted
      ((Setpoint.mem_uniqueSorted_plain plainX).mp memberV) memberW unpaired
    rw [sampleCell_last_column interrupted.ends, ← outer]
    exact (idxOf_of_getElem? (Setpoint.uniqueSorted_nodup x) col).symm
  · obtain ⟨last, interrupted⟩ := (Setpoint.isInterruptedSweep_iff plainY).mp sweep
    refine .inr fun cell gap => ?_
    obtain ⟨v, memberV, w, memberW, -, row, unpaired⟩ := gap_setpoints gap
    have turned : (y.zip x).Nodup := by
      rw [← List.zip_swap]
      exact once.map Prod.swap_injective
    have free : (w, v) ∉ y.zip x := by
      rw [← List.zip_swap]
      rintro member
      obtain ⟨p, paired, same⟩ := List.mem_map.mp member
      cases same
      exact unpaired paired
    have outer : w = last := eq_last_of_unpaired plainX lengths.symm turned interrupted
      ((Setpoint.mem_uniqueSorted_plain plainY).mp memberW) memberV free
    rw [sampleCell_last_row lengths interrupted.ends, ← outer]
    exact (idxOf_of_getElem? (Setpoint.uniqueSorted_nodup y) row).symm

-- A pair of columns that is drawn as a mesh loses no sample on the mesh, and where it has gaps it is a
-- sweep whose last line was not finished.
theorem showsSweep_of_isMesh (lengths : x.length = y.length) (values : y.length = z.length)
    (ordinaryX : ∀ v ∈ x, v.isNaN = false ∧ v ≠ Binary64.negativeZero)
    (ordinaryY : ∀ v ∈ y, v.isNaN = false ∧ v ≠ Binary64.negativeZero)
    (mesh : (PlotType.of2D x y).isMesh = true) : (layOut x y z).ShowsSweep x y z := by
  have plainX := Setpoint.plain_of_ordinary ordinaryX
  have plainY := Setpoint.plain_of_ordinary ordinaryY
  obtain ⟨-, -, -, once, -⟩ := (PlotType.isMesh_of2D_iff plainX plainY lengths).mp mesh
  exact {
    ascending := ⟨Setpoint.uniqueSorted_ascending x, Setpoint.uniqueSorted_ascending y⟩
    stands := fun i inside => sampleCell_stands plainX plainY lengths inside
    shown := fun i inside => layOut_shown plainX plainY lengths once values inside
    apart := fun i insideI j insideJ => sampleCell_injective plainX plainY lengths once insideI insideJ
    blank := fun cell gap => layOut_blank plainX plainY lengths gap
    lastLine := layOut_lastLine plainX plainY lengths mesh }

theorem showsSweep_of_stopped_sweep : (PlotType.of2D [0, 0, 1] [0, 1, 0]).isMesh = true ∧
    (layOut [0, 0, 1] [0, 1, 0] [5, 6, 7]).ShowsSweep [0, 0, 1] [0, 1, 0] [5, 6, 7] ∧
    (layOut [0, 0, 1] [0, 1, 0] [5, 6, 7]).IsGap [0, 0, 1] [0, 1, 0] (1, 1) := by
  have ordinaryX : ∀ v ∈ ([0, 0, 1] : List Binary64), v.isNaN = false ∧ v ≠ Binary64.negativeZero := by
    decide +kernel
  have ordinaryY : ∀ v ∈ ([0, 1, 0] : List Binary64), v.isNaN = false ∧ v ≠ Binary64.negativeZero := by
    decide +kernel
  have ascending : ([0, 1] : List Binary64).Pairwise (· < ·) := by decide +kernel
  have axisX : Setpoint.uniqueSorted [0, 0, 1] = [0, 1] :=
    Setpoint.uniqueSorted_eq ascending fun v => by
      simpa using fun member => (ordinaryX v member).1
  have axisY : Setpoint.uniqueSorted [0, 1, 0] = [0, 1] :=
    Setpoint.uniqueSorted_eq ascending fun v => by
      have clean := fun member => (ordinaryY v member).1
      simp only [List.mem_cons, List.not_mem_nil, or_false] at clean ⊢
      tauto
  have mesh : (PlotType.of2D [0, 0, 1] [0, 1, 0]).isMesh = true := by
    refine (PlotType.isMesh_of2D_iff (Setpoint.plain_of_ordinary ordinaryX)
      (Setpoint.plain_of_ordinary ordinaryY) rfl).mpr
      ⟨by decide, by decide +kernel, by decide +kernel, by decide +kernel, .inr (.inl ?_)⟩
    rw [PlotType.isInterruptedSweep, axisX, axisY]
    decide +kernel
  refine ⟨mesh, showsSweep_of_isMesh rfl rfl ordinaryX ordinaryY mesh, ?_⟩
  unfold IsGap sampleCell layOut
  dsimp only
  rw [axisX, axisY]
  decide +kernel

end Samples

end MeshData

end Labbook
