import Labbook.Number.Decimal
import Labbook.Plot.OneSetpoint
import Labbook.Proofs.Number.WordKinds
import Labbook.Proofs.Setpoint.MeasuringOrder

namespace Labbook

namespace Binary64
variable {a b : Binary64}

theorem le_of_precedes (measuredA : a.isNaN = false) (measuredB : b.isNaN = false)
    (ordered : a.precedes b = true) : a ≤ b :=
  le_iff.mpr ⟨measuredA, measuredB, valueIndex_mono ordered⟩

-- Behind a NaN without a sign there are only such.
theorem isNaN_of_precedes (broken : a.isNaN = true) (unsigned : a.isNegative = false)
    (ordered : a.precedes b = true) : b.isNaN = true := by
  by_contra measured
  have high := mt a.measured_iff_magnitude.mpr (by simp [broken])
  have low := b.measured_iff_magnitude.mp (by simpa using measured)
  have below := mt (isNegative_iff a).mpr (by simp [unsigned])
  rw [precedes_iff, orderIndex_toNat, orderIndex_toNat, if_neg below] at ordered
  rw [magnitude_toNat, top] at high low
  split at ordered <;> omega

theorem not_precedes_signed (broken : a.isNaN = true) (signed : a.isNegative = true)
    (measured : b.isNaN = false) : b.precedes a = false := by
  have high := mt a.measured_iff_magnitude.mpr (by simp [broken])
  have low := b.measured_iff_magnitude.mp measured
  have above := (isNegative_iff a).mp signed
  have boundA := a.bits.toNat_lt
  have boundB := b.bits.toNat_lt
  rw [Bool.eq_false_iff, ne_eq, precedes_iff, orderIndex_toNat, orderIndex_toNat, if_pos above]
  rw [magnitude_toNat, top] at high low
  split <;> omega

end Binary64

namespace Setpoint

theorem exists_measured {values : List Binary64} (varied : allTheSame values = false) :
    ∃ v ∈ values, v.isNaN = false := by
  cases kept : measured values with
  | nil =>
    rw [allTheSame_none kept] at varied
    cases varied
  | cons first rest => exact ⟨first, mem_measured.mp (kept ▸ List.mem_cons_self)⟩

end Setpoint

namespace Canvas
variable {samples line : List (Binary64 × Binary64)}

def inOrder (a b : Binary64 × Binary64) : Bool := a.1.precedes b.1

theorem inOrder_trans (a b c : Binary64 × Binary64) (first : inOrder a b = true)
    (second : inOrder b c = true) : inOrder a c = true :=
  Binary64.precedes_trans a.1 b.1 c.1 first second

theorem inOrder_total (a b : Binary64 × Binary64) : (inOrder a b || inOrder b a) = true :=
  Binary64.precedes_total a.1 b.1

theorem inOrder_sorted (samples : List (Binary64 × Binary64)) :
    (samples.mergeSort inOrder).Pairwise fun a b => inOrder a b = true :=
  List.pairwise_mergeSort inOrder_trans inOrder_total samples

structure SortedLine (samples line : List (Binary64 × Binary64)) : Prop where
  perm : line.Perm samples
  ascending : (line.filter fun point => !point.1.isNaN).Pairwise fun a b => a.1 ≤ b.1
  stable : ∀ setpoint, (line.filter fun point => point.1 = setpoint) =
    samples.filter fun point => point.1 = setpoint

-- Behind a point without a setpoint there are only such points.
def UnmeasuredLast (line : List (Binary64 × Binary64)) : Prop :=
  line.Pairwise fun a b => a.1.isNaN = true → b.1.isNaN = true

-- The samples of one setpoint are in order as they were measured, so sorting keeps them as they are.
theorem filter_setpoint (samples : List (Binary64 × Binary64)) (setpoint : Binary64) :
    ((samples.mergeSort inOrder).filter fun point => point.1 = setpoint) =
      samples.filter fun point => point.1 = setpoint := by
  let own : List (Binary64 × Binary64) := samples.filter fun point => point.1 = setpoint
  have even : own.Pairwise fun a b => inOrder a b = true := by
    refine List.pairwise_of_forall_mem_list fun a first b second => ?_
    have here : a.1 = setpoint := by simpa using (List.mem_filter.mp first).2
    have there : b.1 = setpoint := by simpa using (List.mem_filter.mp second).2
    rw [inOrder, here, there]
    exact Binary64.precedes_refl setpoint
  have kept : own.Sublist (samples.mergeSort inOrder) :=
    List.sublist_mergeSort inOrder_trans inOrder_total even List.filter_sublist
  have within := kept.filter fun point => point.1 = setpoint
  have again : (own.filter fun point => point.1 = setpoint) = own := by
    rw [List.filter_filter]
    simp [own]
  rw [again] at within
  have count := ((List.mergeSort_perm samples inOrder).filter fun point => point.1 = setpoint).length_eq
  exact (within.eq_of_length count.symm).symm

theorem sortedLine_mergeSort (samples : List (Binary64 × Binary64)) :
    SortedLine samples (samples.mergeSort inOrder) where
  perm := List.mergeSort_perm _ _
  ascending := by
    refine ((inOrder_sorted samples).filter _).imp_of_mem ?_
    intro a b first second ordered
    exact Binary64.le_of_precedes (by simpa using (List.mem_filter.mp first).2)
      (by simpa using (List.mem_filter.mp second).2) ordered
  stable := filter_setpoint samples

theorem unmeasuredLast_of_unsigned
    (unsigned : ∀ point ∈ samples, point.1.isNaN = true → point.1.isNegative = false) :
    UnmeasuredLast (samples.mergeSort inOrder) := by
  refine (inOrder_sorted samples).imp_of_mem ?_
  intro a b member _ ordered broken
  exact Binary64.isNaN_of_precedes broken (unsigned a (List.mem_mergeSort.mp member) broken) ordered

-- A single point with a sign is enough to break the order, as long as there is one with a setpoint.
theorem not_unmeasuredLast {stray measured : Binary64 × Binary64} (listed : stray ∈ samples)
    (broken : stray.1.isNaN = true) (signed : stray.1.isNegative = true) (other : measured ∈ samples)
    (clean : measured.1.isNaN = false) : ¬UnmeasuredLast (samples.mergeSort inOrder) := by
  intro last
  have sorted := inOrder_sorted samples
  have strayKept : stray ∈ samples.mergeSort inOrder := List.mem_mergeSort.mpr listed
  have measuredKept : measured ∈ samples.mergeSort inOrder := List.mem_mergeSort.mpr other
  obtain ⟨i, within, rfl⟩ := List.getElem_of_mem strayKept
  obtain ⟨j, inside, rfl⟩ := List.getElem_of_mem measuredKept
  rcases Nat.lt_trichotomy i j with before | rfl | behind
  · have also := List.pairwise_iff_getElem.mp last i j within inside before broken
    rw [also] at clean
    cases clean
  · rw [broken] at clean
    cases clean
  · have ordered := List.pairwise_iff_getElem.mp sorted j i inside within behind
    rw [inOrder, Binary64.not_precedes_signed broken signed clean] at ordered
    cases ordered

theorem unmeasuredLast_iff (known : ∃ point ∈ samples, point.1.isNaN = false) :
    UnmeasuredLast (samples.mergeSort inOrder) ↔
      ∀ point ∈ samples, point.1.isNaN = true → point.1.isNegative = false := by
  refine ⟨fun last stray listed broken => ?_, unmeasuredLast_of_unsigned⟩
  obtain ⟨measured, other, clean⟩ := known
  by_contra signed
  exact not_unmeasuredLast listed broken (by simpa using signed) other clean last

section
variable {x y : Record} {xs ys : Tensor Binary64} (setpoints : x.data = .numeric xs)
  (values : y.data = .numeric ys) (joined : PlotType.of1D x.data y.data = .line1D)
include setpoints values joined

theorem plotSeries_line (canvas : Canvas) : canvas.plotSeries x y =
    .ok (.line1D, canvas.push (.line ((xs.cells.zip ys.cells).mergeSort inOrder))) := by
  unfold plotSeries
  dsimp only
  rw [joined, setpoints, values]
  rfl

theorem varied_of_line : Setpoint.allTheSame xs.cells = false := by
  rw [setpoints, values] at joined
  change PlotType.ofSetpoints xs.cells = .line1D at joined
  rw [PlotType.ofSetpoints_eq] at joined
  split at joined
  next => cases joined
  next varied => exact Bool.eq_false_iff.mpr varied

-- A line comes out sorted for all samples. Its unmeasured setpoints are at the end as long as none of
-- them has its sign bit set.
theorem plotSeries_unmeasuredLast_iff (canvas : Canvas) (paired : xs.size = ys.size) :
    ∃ line, canvas.plotSeries x y = .ok (.line1D, canvas.push (.line line)) ∧
      SortedLine (xs.cells.zip ys.cells) line ∧
      (UnmeasuredLast line ↔ ∀ v ∈ xs.cells, v.isNaN = true → v.isNegative = false) := by
  have columns : (xs.cells.zip ys.cells).map Prod.fst = xs.cells :=
    List.map_fst_zip (Nat.le_of_eq paired)
  have everyone (p : Binary64 → Prop) :
      (∀ point ∈ xs.cells.zip ys.cells, p point.1) ↔ ∀ v ∈ xs.cells, p v := by
    rw [← List.forall_mem_map, columns]
  obtain ⟨v, listed, clean⟩ :=
    Setpoint.exists_measured (varied_of_line setpoints values joined)
  rw [← columns, List.mem_map] at listed
  obtain ⟨point, member, rfl⟩ := listed
  refine ⟨_, plotSeries_line setpoints values joined canvas, sortedLine_mergeSort _, ?_⟩
  rw [unmeasuredLast_iff ⟨point, member, clean⟩]
  exact everyone fun v => v.isNaN = true → v.isNegative = false

end

-- A sweep from one to zero. The setpoint of the sample in between was written as a NaN with a sign.
def lapsed : Record where
  name := "x"
  label := ""
  unit := ""
  data := .numeric (.ofList [1, -.nan, 0])
  shape := none

def response : Record where
  name := "y"
  label := ""
  unit := ""
  data := .numeric (.ofList [10, 20, 30])
  shape := none

theorem lapsed_joined : PlotType.of1D lapsed.data response.data = .line1D := by decide +kernel

theorem plotSeries_unmeasuredLast_lapsed : lapsed.data.size = response.data.size ∧
    PlotType.of1D lapsed.data response.data = .line1D ∧
    ∃ line, (blank (400, 300)).plotSeries lapsed response =
        .ok (.line1D, (blank (400, 300)).push (.line line)) ∧
      SortedLine [(1, 10), (-.nan, 20), (0, 30)] line ∧
      (UnmeasuredLast line ↔
        ∀ v ∈ ([1, -.nan, 0] : List Binary64), v.isNaN = true → v.isNegative = false) := by
  refine ⟨rfl, lapsed_joined, ?_⟩
  exact @plotSeries_unmeasuredLast_iff lapsed response (.ofList [1, -.nan, 0]) (.ofList [10, 20, 30])
    rfl rfl lapsed_joined (blank (400, 300)) rfl

-- The sample without a setpoint is not behind the two that have one.
theorem lapsed_starts_unmeasured : Binary64.read? "-nan" = some (-.nan : Binary64) ∧
    ∃ line, (blank (400, 300)).plotSeries lapsed response =
      .ok (.line1D, (blank (400, 300)).push (.line line)) ∧ ¬UnmeasuredLast line := by
  refine ⟨by decide +kernel, _, plotSeries_line rfl rfl lapsed_joined _, ?_⟩
  have stray : (-.nan, 20) ∈ [((1 : Binary64), (10 : Binary64)), (-.nan, 20), (0, 30)] := by simp
  have sampled : (1, 10) ∈ [((1 : Binary64), (10 : Binary64)), (-.nan, 20), (0, 30)] := by simp
  exact not_unmeasuredLast stray (by decide) (by decide) sampled (by decide)

end Canvas

end Labbook
