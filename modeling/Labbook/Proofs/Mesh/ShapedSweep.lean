import Labbook.Proofs.Mesh.Padding
import Labbook.Proofs.Mesh.Placement

namespace Labbook

namespace MeshData

-- The outer setpoints of the first samples, the inner ones running fastest.
def outerColumn (outer inner : List Binary64) (count : Nat) : List Binary64 :=
  (List.range count).map fun t => outer.getD (t / inner.length) .nan

def innerColumn (inner : List Binary64) (count : Nat) : List Binary64 :=
  (List.range count).map fun t => inner.getD (t % inner.length) .nan

def lines (count width : Nat) : Nat := (count + width - 1) / width

theorem lt_lines {count width line : Nat} (wide : 0 < width) :
    line < lines count width ↔ line * width < count := by
  unfold lines
  rw [← Nat.succ_le_iff, Nat.le_div_iff_mul_le wide, Nat.succ_mul]
  omega

structure SweepAxis (values : List Binary64) : Prop where
  nonempty : 0 < values.length
  ascending : values.Pairwise (· < ·)
  finite : ∀ v ∈ values, v.isFinite = true

theorem SweepAxis.nodup {values : List Binary64} (axis : SweepAxis values) : values.Nodup :=
  axis.ascending.imp Binary64.ne_of_lt

theorem SweepAxis.getD {values : List Binary64} (axis : SweepAxis values) {i : Nat}
    (inside : i < values.length) :
    values.getD i .nan ∈ values ∧ (values.getD i .nan).isNaN = false := by
  rw [List.getD_eq_getElem _ _ inside]
  have member := List.getElem_mem inside
  exact ⟨member, Binary64.not_isNaN_of_isFinite (axis.finite _ member)⟩

theorem getD_map_range (f : Nat → Binary64) (count t : Nat) :
    ((List.range count).map f).getD t .nan = if t < count then f t else .nan := by
  rw [List.getD_eq_getElem?_getD, List.getElem?_map]
  by_cases inside : t < count
  · rw [List.getElem?_range inside, if_pos inside]
    rfl
  · rw [List.getElem?_eq_none (by simpa using inside), if_neg inside]
    rfl

theorem getElem?_map_range {f : Nat → Binary64} {count t : Nat} {v : Binary64} :
    ((List.range count).map f)[t]? = some v ↔ t < count ∧ f t = v := by
  rw [List.getElem?_map]
  by_cases inside : t < count
  · rw [List.getElem?_range inside]
    simp [inside]
  · rw [List.getElem?_eq_none (by simpa using inside)]
    simp [inside]

section Sweep
variable {outer inner : List Binary64} {count : Nat}

theorem getD_outerColumn (t : Nat) : (outerColumn outer inner count).getD t .nan =
    if t < count then outer.getD (t / inner.length) .nan else .nan :=
  getD_map_range _ _ _

theorem getD_innerColumn (t : Nat) : (innerColumn inner count).getD t .nan =
    if t < count then inner.getD (t % inner.length) .nan else .nan :=
  getD_map_range _ _ _

theorem line_inside (short : count ≤ outer.length * inner.length) {t : Nat} (inside : t < count) :
    t / inner.length < outer.length :=
  Nat.div_lt_of_lt_mul (Nat.mul_comm _ _ ▸ Nat.lt_of_lt_of_le inside short)

theorem uniqueSorted_outerColumn (axisX : SweepAxis outer) (axisY : SweepAxis inner)
    (short : count ≤ outer.length * inner.length) :
    Setpoint.uniqueSorted (outerColumn outer inner count) = outer.take (lines count inner.length) := by
  refine Setpoint.uniqueSorted_eq (axisX.ascending.sublist (List.take_sublist _ _)) fun v => ?_
  rw [List.mem_take_iff_getElem]
  constructor
  · rintro ⟨line, inside, rfl⟩
    obtain ⟨begun, inAxis⟩ := Nat.lt_min.mp inside
    have first := (lt_lines axisY.nonempty).mp begun
    have member := List.getElem_mem inAxis
    refine ⟨List.mem_map.mpr ⟨line * inner.length, List.mem_range.mpr first, ?_⟩,
      Binary64.not_isNaN_of_isFinite (axisX.finite _ member)⟩
    rw [Nat.mul_div_cancel _ axisY.nonempty, List.getD_eq_getElem _ _ inAxis]
  · rintro ⟨member, -⟩
    obtain ⟨t, inRange, rfl⟩ := List.mem_map.mp member
    have sample := List.mem_range.mp inRange
    have inAxis := line_inside short sample
    refine ⟨t / inner.length, Nat.lt_min.mpr ⟨(lt_lines axisY.nonempty).mpr ?_, inAxis⟩, ?_⟩
    · exact Nat.lt_of_le_of_lt (Nat.div_mul_le_self _ _) sample
    · rw [List.getD_eq_getElem _ _ inAxis]

theorem uniqueSorted_innerColumn (axisY : SweepAxis inner) :
    Setpoint.uniqueSorted (innerColumn inner count) = inner.take count := by
  refine Setpoint.uniqueSorted_eq (axisY.ascending.sublist (List.take_sublist _ _)) fun v => ?_
  rw [List.mem_take_iff_getElem]
  constructor
  · rintro ⟨place, inside, rfl⟩
    obtain ⟨sample, inAxis⟩ := Nat.lt_min.mp inside
    have member := List.getElem_mem inAxis
    refine ⟨List.mem_map.mpr ⟨place, List.mem_range.mpr sample, ?_⟩,
      Binary64.not_isNaN_of_isFinite (axisY.finite _ member)⟩
    rw [Nat.mod_eq_of_lt inAxis, List.getD_eq_getElem _ _ inAxis]
  · rintro ⟨member, -⟩
    obtain ⟨t, inRange, rfl⟩ := List.mem_map.mp member
    have inAxis : t % inner.length < inner.length := Nat.mod_lt _ axisY.nonempty
    refine ⟨t % inner.length, Nat.lt_min.mpr ⟨?_, inAxis⟩, ?_⟩
    · exact Nat.lt_of_le_of_lt (Nat.mod_le _ _) (List.mem_range.mp inRange)
    · rw [List.getD_eq_getElem _ _ inAxis]

theorem isNaN_nan : Binary64.nan.isNaN = true := by decide

theorem haveDistance_finite {v : Binary64} (finite : v.isFinite = true) : haveDistance v v = true := by
  have measured := Binary64.not_isNaN_of_isFinite finite
  have bounded : v.isInfinite = false := by
    rw [Binary64.isFinite, decide_eq_true_iff] at finite
    rw [Binary64.isInfinite, beq_eq_false_iff_ne]
    exact UInt64.ne_of_lt finite
  simp [haveDistance, measured, bounded]

-- Grids agree with their references when every measured value is its own reference, and there is one.
theorem agree_iff {pairs : List (Binary64 × Binary64)} : agree pairs = true ↔
    (∃ p ∈ pairs, haveDistance p.1 p.2 = true) ∧
      ∀ p ∈ pairs, haveDistance p.1 p.2 = true → p.1.equals p.2 = true := by
  unfold agree
  rw [Bool.and_eq_true, List.all_eq_true, Bool.not_eq_true', List.isEmpty_eq_false_iff_exists_mem]
  simp only [List.mem_filter, and_imp]

theorem agree_of_references {g : Grid Binary64} {reference : Nat → Nat → Binary64}
    (same : ∀ (row col : Nat) (v : Binary64), g.get? row col = some v → v.isNaN = false →
      reference row col = v)
    {corner : Binary64} (start : g.get? 0 0 = some corner) (finite : corner.isFinite = true) :
    agree (g.indexed.map fun (row, col, v) => (v, reference row col)) = true := by
  obtain ⟨inRow, inCol⟩ := Grid.inside_of_get? start
  have first := Grid.mem_indexed_of_get? inRow inCol start
  refine agree_iff.mpr ⟨⟨_, List.mem_map.mpr ⟨_, first, rfl⟩, ?_⟩, ?_⟩
  · dsimp only
    rw [same 0 0 corner start (Binary64.not_isNaN_of_isFinite finite)]
    exact haveDistance_finite finite
  · intro p member distance
    obtain ⟨⟨row, col, v⟩, cell, rfl⟩ := List.mem_map.mp member
    obtain ⟨-, -, found⟩ := Grid.mem_indexed cell
    have measured : v.isNaN = false := by
      simp only [haveDistance, Bool.and_eq_true, Bool.not_eq_true'] at distance
      exact distance.1.1
    dsimp only
    rw [same row col v found measured]
    exact Binary64.equals_refl measured

-- The setpoint of a padded cell: that of its line, or of its place, as long as it was measured.
theorem get?_outerGrid {line place : Nat} (inLine : line < outer.length)
    (inPlace : place < inner.length) :
    (Grid.ofColumn outer.length inner.length (outerColumn outer inner count)).get? line place =
      some (if line * inner.length + place < count then outer.getD line .nan else .nan) := by
  rw [Grid.get?_ofColumn _ inLine inPlace, getD_outerColumn, Grid.place_div inPlace]

theorem get?_innerGrid {line place : Nat} (inLine : line < outer.length)
    (inPlace : place < inner.length) :
    (Grid.ofColumn outer.length inner.length (innerColumn inner count)).get? line place =
      some (if line * inner.length + place < count then inner.getD place .nan else .nan) := by
  rw [Grid.get?_ofColumn _ inLine inPlace, getD_innerColumn, Grid.place_mod inPlace]

theorem measured_sample {sample : Prop} [Decidable sample] {value v : Binary64}
    (found : (if sample then value else .nan) = v) (measured : v.isNaN = false) : sample := by
  by_contra missing
  rw [if_neg missing] at found
  rw [← found, isNaN_nan] at measured
  cases measured

theorem isRectilinear_padded (axisX : SweepAxis outer) (axisY : SweepAxis inner)
    (begun : 0 < count) : isRectilinear
      (Grid.ofColumn outer.length inner.length (outerColumn outer inner count))
      (Grid.ofColumn outer.length inner.length (innerColumn inner count)) = true := by
  have corner : 0 * inner.length + 0 < count := by rwa [Nat.zero_mul, Nat.zero_add]
  have outerStart := @get?_outerGrid outer inner count 0 0 axisX.nonempty axisY.nonempty
  have innerStart := @get?_innerGrid outer inner count 0 0 axisX.nonempty axisY.nonempty
  rw [if_pos corner] at outerStart innerStart
  unfold isRectilinear
  simp only [Bool.and_eq_true, bne_iff_ne]
  refine ⟨⟨⟨Nat.ne_of_gt axisY.nonempty, Nat.ne_of_gt axisX.nonempty⟩, ?_⟩, ?_⟩
  · refine @agree_of_references _ (fun line _ => Option.getD (Grid.get? _ line 0) .nan) ?_ _ outerStart
      (axisX.finite _ (axisX.getD axisX.nonempty).1)
    intro line place v found measured
    obtain ⟨inLine, inPlace⟩ := Grid.inside_of_get? found
    rw [get?_outerGrid inLine inPlace, Option.some.injEq] at found
    have sample := measured_sample found measured
    have first : line * inner.length + 0 < count := by omega
    rw [get?_outerGrid inLine axisY.nonempty, if_pos first, ← found, if_pos sample]
    rfl
  · refine @agree_of_references _ (fun _ place => Option.getD (Grid.get? _ 0 place) .nan) ?_ _ innerStart
      (axisY.finite _ (axisY.getD axisY.nonempty).1)
    intro line place v found measured
    obtain ⟨inLine, inPlace⟩ := Grid.inside_of_get? found
    rw [get?_innerGrid inLine inPlace, Option.some.injEq] at found
    have sample := measured_sample found measured
    have first : 0 * inner.length + place < count := by omega
    rw [get?_innerGrid axisX.nonempty inPlace, if_pos first, ← found, if_pos sample]
    rfl

-- When the measured values come first, clipping keeps a front part.
theorem measuredAt_front {length kept : Nat} {f : Nat → Binary64} (short : kept ≤ length)
    (reached : ∀ i < length, (f i).isNaN = false ↔ i < kept) :
    measuredAt ((List.range length).map f) = List.range kept := by
  unfold measuredAt
  rw [List.length_map, List.length_range]
  refine (List.pairwise_lt_range.sublist List.filter_sublist).eq_of_mem_iff List.pairwise_lt_range
    fun i => ?_
  rw [List.mem_filter, List.mem_range, List.mem_range, Bool.not_eq_true', getD_map_range]
  constructor
  · rintro ⟨inside, measured⟩
    rw [if_pos inside] at measured
    exact (reached i inside).mp measured
  · intro front
    have inside := Nat.lt_of_lt_of_le front short
    rw [if_pos inside]
    exact ⟨inside, (reached i inside).mpr front⟩

theorem map_range_getD {values : List Binary64} {kept : Nat} (short : kept ≤ values.length) :
    ((List.range kept).map fun i => values.getD i .nan) = values.take kept := by
  refine List.ext_getElem (by simpa using short) fun i inside inTake => ?_
  rw [List.getElem_map, List.getElem_range, List.getElem_take]
  exact List.getD_eq_getElem _ _ _

theorem lines_le (axisY : SweepAxis inner) (short : count ≤ outer.length * inner.length) :
    lines count inner.length ≤ outer.length :=
  Nat.le_of_not_lt fun more => Nat.not_lt_of_le short ((lt_lines axisY.nonempty).mp more)

theorem isNaN_kept {values : List Binary64} (axis : SweepAxis values) {sample : Prop}
    [Decidable sample] {i : Nat} (inside : i < values.length) :
    ((some (if sample then values.getD i .nan else .nan)).getD .nan).isNaN = false ↔ sample := by
  by_cases kept : sample
  · simp only [kept, if_true, Option.getD_some, iff_true]
    exact (axis.getD inside).2
  · simp only [kept, if_false, Option.getD_some, iff_false]
    decide

theorem firstColumn_padded (axisY : SweepAxis inner) :
    (Grid.ofColumn outer.length inner.length (outerColumn outer inner count)).firstColumn =
      (List.range outer.length).map fun line =>
        (some (if line * inner.length < count then outer.getD line .nan else .nan)).getD .nan := by
  rw [Grid.firstColumn_eq axisY.nonempty .nan]
  refine List.map_congr_left fun line member => ?_
  rw [get?_outerGrid (List.mem_range.mp member) axisY.nonempty, Nat.add_zero]

theorem firstRow_padded (axisX : SweepAxis outer) :
    (Grid.ofColumn outer.length inner.length (innerColumn inner count)).firstRow =
      (List.range inner.length).map fun place =>
        (some (if place < count then inner.getD place .nan else .nan)).getD .nan := by
  rw [Grid.firstRow_eq axisX.nonempty .nan]
  refine List.map_congr_left fun place member => ?_
  rw [get?_innerGrid axisX.nonempty (List.mem_range.mp member), Nat.zero_mul, Nat.zero_add]

theorem measuredAt_firstColumn (axisX : SweepAxis outer) (axisY : SweepAxis inner)
    (short : count ≤ outer.length * inner.length) : measuredAt
      (Grid.ofColumn outer.length inner.length (outerColumn outer inner count)).firstColumn =
      List.range (lines count inner.length) := by
  rw [firstColumn_padded axisY]
  refine measuredAt_front (lines_le axisY short) fun line inside => ?_
  rw [isNaN_kept axisX inside, lt_lines axisY.nonempty]

theorem measuredAt_firstRow (axisX : SweepAxis outer) (axisY : SweepAxis inner) : measuredAt
      (Grid.ofColumn outer.length inner.length (innerColumn inner count)).firstRow =
      List.range (min count inner.length) := by
  rw [firstRow_padded axisX]
  refine measuredAt_front (Nat.min_le_right _ _) fun place inside => ?_
  rw [isNaN_kept axisY inside]
  omega

theorem cell?_sweep (axisX : SweepAxis outer) (axisY : SweepAxis inner)
    (short : count ≤ outer.length * inner.length) {point : Point} {t : Nat}
    (atX : (outerColumn outer inner count)[t]? = some point.1)
    (atY : (innerColumn inner count)[t]? = some point.2.1) :
    cell? (outer.take (lines count inner.length)) (inner.take count) point =
      some (t % inner.length, t / inner.length) := by
  obtain ⟨sample, outerValue⟩ := getElem?_map_range.mp atX
  obtain ⟨-, innerValue⟩ := getElem?_map_range.mp atY
  have inLine := line_inside short sample
  have inPlace : t % inner.length < inner.length := Nat.mod_lt _ axisY.nonempty
  have begun : t / inner.length < lines count inner.length :=
    (lt_lines axisY.nonempty).mpr (Nat.lt_of_le_of_lt (Nat.div_mul_le_self _ _) sample)
  have reached : t % inner.length < count := Nat.lt_of_le_of_lt (Nat.mod_le _ _) sample
  refine (cell?_iff (axisX.nodup.sublist (List.take_sublist _ _))
    (axisY.nodup.sublist (List.take_sublist _ _))).mpr ⟨?_, ?_, ?_, ?_⟩
  · rw [← outerValue]
    exact (axisX.getD inLine).2
  · rw [← innerValue]
    exact (axisY.getD inPlace).2
  · rw [← innerValue, List.getElem?_take_of_lt reached, List.getD_eq_getElem _ _ inPlace]
    exact List.getElem?_eq_getElem inPlace
  · rw [← outerValue, List.getElem?_take_of_lt begun, List.getD_eq_getElem _ _ inLine]
    exact List.getElem?_eq_getElem inLine

-- A cell holds the sample taken at its place of the sweep, if the sweep came so far.
theorem lastIn?_sweep (axisX : SweepAxis outer) (axisY : SweepAxis inner) {values : List Binary64}
    (short : values.length ≤ outer.length * inner.length) {line place : Nat}
    (inPlace : place < inner.length) :
    lastIn? (outer.take (lines values.length inner.length)) (inner.take values.length)
      (points (outerColumn outer inner values.length) (innerColumn inner values.length) values)
      (place, line) = values[line * inner.length + place]? := by
  have only : ∀ (p : Point) (t : Nat),
      (outerColumn outer inner values.length)[t]? = some p.1 →
      (innerColumn inner values.length)[t]? = some p.2.1 →
      cell? (outer.take (lines values.length inner.length)) (inner.take values.length) p =
        some (place, line) → t = line * inner.length + place := by
    intro p t atX atY found
    rw [cell?_sweep axisX axisY short atX atY] at found
    have same := Option.some.inj found
    have places : t % inner.length = place := congrArg Prod.fst same
    have lines : t / inner.length = line := congrArg Prod.snd same
    rw [← places, ← lines, Nat.mul_comm, Nat.div_add_mod]
  refine lastIn?_eq_getElem? only (fun p atX atY => ?_) ?_ ?_
  · rw [cell?_sweep axisX axisY short atX atY, Grid.place_mod inPlace, Grid.place_div inPlace]
  · simp [outerColumn]
  · simp [innerColumn]

-- What is kept of the padded axes: the lines that were begun, and the places that the first line reached.
theorem keptColumn_padded (axisY : SweepAxis inner) (short : count ≤ outer.length * inner.length) :
    ((List.range (lines count inner.length)).map fun i =>
      (Grid.ofColumn outer.length inner.length (outerColumn outer inner count)).firstColumn.getD i .nan) =
      outer.take (lines count inner.length) := by
  have linesLe := lines_le axisY short
  rw [← map_range_getD linesLe]
  refine List.map_congr_left fun line member => ?_
  have begun := List.mem_range.mp member
  rw [firstColumn_padded axisY, getD_map_range, if_pos (Nat.lt_of_lt_of_le begun linesLe),
    if_pos ((lt_lines axisY.nonempty).mp begun)]
  rfl

theorem keptRow_padded (axisX : SweepAxis outer) :
    ((List.range (min count inner.length)).map fun j =>
      (Grid.ofColumn outer.length inner.length (innerColumn inner count)).firstRow.getD j .nan) =
      inner.take count := by
  rw [List.take_eq_take_min, ← map_range_getD (Nat.min_le_right _ _)]
  refine List.map_congr_left fun place member => ?_
  obtain ⟨reached, inside⟩ := Nat.lt_min.mp (List.mem_range.mp member)
  rw [firstRow_padded axisX, getD_map_range, if_pos inside, if_pos reached]
  rfl

theorem clipUnmeasured_begun (axisX : SweepAxis outer) (axisY : SweepAxis inner)
    {values : List Binary64} (short : values.length ≤ outer.length * inner.length)
    (begun : 0 < values.length) : clipUnmeasured
      (Grid.ofColumn outer.length inner.length (outerColumn outer inner values.length))
      (Grid.ofColumn outer.length inner.length (innerColumn inner values.length))
      (Grid.ofColumn outer.length inner.length values) =
      layOut (outerColumn outer inner values.length) (innerColumn inner values.length) values := by
  have axisOfX := uniqueSorted_outerColumn axisX axisY short
  have axisOfY : Setpoint.uniqueSorted (innerColumn inner values.length) = inner.take values.length :=
    uniqueSorted_innerColumn axisY
  have linesLe := lines_le axisY short
  unfold clipUnmeasured
  rw [if_pos (isRectilinear_padded axisX axisY begun), measuredAt_firstColumn axisX axisY short,
    measuredAt_firstRow axisX axisY]
  have laidX : (layOut (outerColumn outer inner values.length) (innerColumn inner values.length)
      values).x = outer.take (lines values.length inner.length) := axisOfX
  have laidY : (layOut (outerColumn outer inner values.length) (innerColumn inner values.length)
      values).y = inner.take values.length := axisOfY
  dsimp only
  rw [List.length_range, List.length_range]
  -- Rows of the mesh are places of the sweep, its columns are lines.
  refine eq_of_parts ?_ ?_ ?_
  · exact (keptColumn_padded axisY short).trans laidX.symm
  · exact (keptRow_padded axisX).trans laidY.symm
  · obtain ⟨rows, cols⟩ := layOut_dims (outerColumn outer inner values.length)
      (innerColumn inner values.length) values
    refine Grid.ext_get? ?_ ?_ ?_
    · rw [rows, laidY, List.length_take]
      rfl
    · rw [cols, laidX, List.length_take, Nat.min_eq_left linesLe]
      rfl
    · intro place (reached : place < min values.length inner.length) line
        (begun : line < lines values.length inner.length)
      have inPlace := (Nat.lt_min.mp reached).2
      have inLine := Nat.lt_of_lt_of_le begun linesLe
      have placeIndex : (List.range (min values.length inner.length)).getD place 0 = place := by
        rw [List.getD_eq_getElem _ _ (by simpa using reached), List.getElem_range]
      have lineIndex : (List.range (lines values.length inner.length)).getD line 0 = line := by
        rw [List.getD_eq_getElem _ _ (by simpa using begun), List.getElem_range]
      rw [Grid.get?_ofFn _ reached begun, placeIndex, lineIndex, Grid.get?_ofColumn _ inLine inPlace,
        layOut_get? (by simpa [laidY, and_comm] using reached)
          (by simpa [laidX, inLine] using begun), laidX, laidY,
        lastIn?_sweep axisX axisY short inPlace, List.getD_eq_getElem?_getD]
      rfl

theorem agree_unmeasured {pairs : List (Binary64 × Binary64)}
    (unmeasured : ∀ p ∈ pairs, p.1.isNaN = true) : agree pairs = false := by
  rw [Bool.eq_false_iff]
  intro agrees
  obtain ⟨⟨p, member, distance⟩, -⟩ := agree_iff.mp agrees
  rw [haveDistance, unmeasured p member] at distance
  cases distance

-- Before the first sample the padded grid is unmeasured throughout, so it counts as no grid at all.
theorem clipUnmeasured_unbegun (outer inner : List Binary64) : clipUnmeasured
      (Grid.ofColumn outer.length inner.length []) (Grid.ofColumn outer.length inner.length [])
      (Grid.ofColumn outer.length inner.length []) = layOut [] [] [] := by
  have unmeasured : ∀ v ∈ (Grid.ofColumn outer.length inner.length []).toList, v.isNaN = true := by
    intro v member
    have padding : v ∈ List.replicate (cellCount [outer.length, inner.length]) Binary64.nan := by
      simpa [Grid.ofColumn, Grid.toList, Tensor.padded, Tensor.ofList] using member
    rw [List.eq_of_mem_replicate padding]
    exact isNaN_nan
  have noGrid : isRectilinear (Grid.ofColumn outer.length inner.length [])
      (Grid.ofColumn outer.length inner.length []) = false := by
    unfold isRectilinear
    rw [agree_unmeasured, Bool.and_false, Bool.false_and]
    intro p member
    obtain ⟨⟨row, col, v⟩, cell, rfl⟩ := List.mem_map.mp member
    obtain ⟨i, inside, same⟩ := List.mem_mapIdx.mp cell
    cases same
    exact unmeasured _ (List.getElem_mem inside)
  unfold clipUnmeasured
  rw [noGrid, if_neg Bool.false_ne_true, List.filter_eq_nil_iff.mpr]
  · rfl
  · intro p member
    simp [unmeasured p.1 (List.of_mem_zip member).1]

theorem clipUnmeasured_padded (axisX : SweepAxis outer) (axisY : SweepAxis inner)
    {values : List Binary64} (short : values.length ≤ outer.length * inner.length) : clipUnmeasured
      (Grid.ofColumn outer.length inner.length (outerColumn outer inner values.length))
      (Grid.ofColumn outer.length inner.length (innerColumn inner values.length))
      (Grid.ofColumn outer.length inner.length values) =
      layOut (outerColumn outer inner values.length) (innerColumn inner values.length) values := by
  cases values with
  | nil => exact clipUnmeasured_unbegun outer inner
  | cons first rest => exact clipUnmeasured_begun axisX axisY short (Nat.succ_pos _)

end Sweep

def clipPadded (rows cols : Nat) (x y z : List Binary64) : Outcome MeshData := do
  let x ← (RecordData.numeric (.ofList x)).reshaped [rows, cols]
  let y ← (RecordData.numeric (.ofList y)).reshaped [rows, cols]
  let z ← (RecordData.numeric (.ofList z)).reshaped [rows, cols]
  let x ← Triple.shaped rows cols x.axisValues
  let y ← Triple.shaped rows cols y.axisValues
  let z ← Triple.shaped rows cols z.axisValues
  clipUnmeasured? x y z

theorem reshaped_column {rows cols : Nat} {column : List Binary64}
    (fits : column.length ≤ rows * cols) (small : Tensor.storable [rows, cols] = true) :
    (RecordData.numeric (.ofList column)).reshaped [rows, cols] =
      .ok (.numeric ((Tensor.ofList column).padded [rows, cols] .nan)) := by
  have laid := Tensor.reshaped_storable Binary64.nan (t := .ofList column) fits small
  unfold RecordData.reshaped
  dsimp only
  rw [laid]
  rfl

theorem shaped_column (rows cols : Nat) (column : List Binary64) : Triple.shaped rows cols
      (RecordData.numeric ((Tensor.ofList column).padded [rows, cols] .nan)).axisValues =
      .ok (Grid.ofColumn rows cols column) := by
  unfold Triple.shaped RecordData.axisValues
  dsimp only
  rw [Grid.ofList?_padded]

theorem clipUnmeasured?_covered {x y z : Grid Binary64} (rows : x.rows = z.rows)
    (cols : y.cols = z.cols) : clipUnmeasured? x y z = .ok (clipUnmeasured x y z) := by
  have inside : ∀ {values : List Binary64} {bound : Nat}, values.length ≤ bound →
      (measuredAt values).any (bound ≤ ·) = false := by
    intro values bound short
    refine List.any_eq_false.mpr fun i kept => ?_
    have within := List.mem_range.mp (List.mem_filter.mp kept).1
    simpa using Nat.lt_of_lt_of_le within short
  unfold clipUnmeasured?
  rw [inside (rows ▸ x.length_firstColumn_le), inside (cols ▸ y.length_firstRow_le), Bool.or_false,
    Bool.and_false]
  rfl

theorem clipPadded_storable {rows cols : Nat} {x y z : List Binary64}
    (fitsX : x.length ≤ rows * cols) (fitsY : y.length ≤ rows * cols)
    (fitsZ : z.length ≤ rows * cols) (small : Tensor.storable [rows, cols] = true) :
    clipPadded rows cols x y z = .ok (clipUnmeasured (Grid.ofColumn rows cols x)
      (Grid.ofColumn rows cols y) (Grid.ofColumn rows cols z)) := by
  unfold clipPadded
  rw [reshaped_column fitsX small, reshaped_column fitsY small, reshaped_column fitsZ small]
  simp only [bind, Except.bind, shaped_column]
  exact clipUnmeasured?_covered rfl rfl

-- A sweep over a known grid is shown the same whether its shape is used or not, however far it came. A
-- grid that cannot be stored is refused.
theorem clipPadded_sweep {outer inner values : List Binary64} (axisX : SweepAxis outer)
    (axisY : SweepAxis inner) (short : values.length ≤ outer.length * inner.length) :
    (Tensor.storable [outer.length, inner.length] = true →
      clipPadded outer.length inner.length (outerColumn outer inner values.length)
        (innerColumn inner values.length) values =
        .ok (layOut (outerColumn outer inner values.length) (innerColumn inner values.length) values)) ∧
    (Tensor.storable [outer.length, inner.length] = false →
      ∃ e, clipPadded outer.length inner.length (outerColumn outer inner values.length)
        (innerColumn inner values.length) values = .error e) := by
  constructor
  · intro small
    rw [clipPadded_storable (by simpa [outerColumn] using short)
      (by simpa [innerColumn] using short) short small, clipUnmeasured_padded axisX axisY short]
  · intro large
    obtain ⟨e, refused⟩ := Tensor.reshaped_unstorable Binary64.nan
      (Tensor.ofList (outerColumn outer inner values.length)) large
    refine ⟨e, ?_⟩
    unfold clipPadded RecordData.reshaped
    dsimp only
    rw [refused]
    rfl

theorem clipPadded_stopped_sweep : SweepAxis [0, 1] ∧ Tensor.storable [2, 2] = true ∧
    clipPadded 2 2 [0, 0, 1] [0, 1, 0] [5, 6, 7] = .ok (layOut [0, 0, 1] [0, 1, 0] [5, 6, 7]) := by
  have axis : SweepAxis [0, 1] := ⟨by decide, by decide +kernel, by decide +kernel⟩
  have small : Tensor.storable [2, 2] = true := by decide
  exact ⟨axis, small, (@clipPadded_sweep _ _ [5, 6, 7] axis axis (by decide)).1 small⟩

end MeshData

end Labbook
