import Labbook.Analysis.PlotType
import Labbook.Proofs.Setpoint.Distinct
import Labbook.Proofs.Setpoint.Tolerance
import Mathlib.Data.List.Perm.Basic

namespace Labbook

namespace Setpoint
open Binary64

-- A sample and its product. What was not measured is not measured at the other scale.
inductive ScaledSample (n : Nat) (v w : Binary64) : Prop where
  | unmeasured (broken : v.isNaN = true) (brokenProduct : w.isNaN = true)
  | measured (scaled : Scaled n v w)

abbrev ScaledColumn (n : Nat) : List Binary64 → List Binary64 → Prop := List.Forall₂ (ScaledSample n)

section
variable {R : Binary64 → Binary64 → Prop} {xs ys : List Binary64} {v w : Binary64}

theorem exists_right (all : List.Forall₂ R xs ys) (member : v ∈ xs) : ∃ w ∈ ys, R v w := by
  induction all with
  | nil => cases member
  | cons related _ ih =>
    rcases List.mem_cons.mp member with rfl | later
    · exact ⟨_, List.mem_cons_self, related⟩
    · obtain ⟨w, other, rest⟩ := ih later
      exact ⟨w, List.mem_cons_of_mem _ other, rest⟩

theorem exists_left (all : List.Forall₂ R xs ys) (member : w ∈ ys) : ∃ v ∈ xs, R v w :=
  exists_right all.flip member

end

variable {n : Nat} {xs ys : List Binary64}

theorem measured_scaled (all : ScaledColumn n xs ys) :
    List.Forall₂ (Scaled n) (measured xs) (measured ys) := by
  change List.Forall₂ (Scaled n) (xs.filter fun v => !v.isNaN) (ys.filter fun v => !v.isNaN)
  induction all with
  | nil => exact .nil
  | cons sample _ ih =>
    cases sample with
    | unmeasured broken brokenProduct =>
      simpa [broken, brokenProduct] using ih
    | measured scaled =>
      obtain ⟨own, other⟩ := scaled.measured
      simpa [own, other] using And.intro scaled ih

theorem pairwise_scaled (all : List.Forall₂ (Scaled n) xs ys)
    (sorted : xs.Pairwise fun a b => a.precedes b = true) :
    ys.Pairwise fun a b => a.precedes b = true := by
  induction all with
  | nil => exact .nil
  | cons scaled rest ih =>
    obtain ⟨ahead, tail⟩ := List.pairwise_cons.mp sorted
    refine List.pairwise_cons.mpr ⟨fun w member => ?_, ih tail⟩
    obtain ⟨v, other, partner⟩ := exists_left rest member
    rw [scaled.precedes partner]
    exact ahead v other

theorem mergeSort_scaled (all : List.Forall₂ (Scaled n) xs ys) :
    List.Forall₂ (Scaled n) (xs.mergeSort precedes) (ys.mergeSort precedes) := by
  have sorted (values : List Binary64) :=
    List.pairwise_mergeSort precedes_trans precedes_total values
  obtain ⟨zs, related, perm⟩ := List.perm_comp_forall₂ (List.mergeSort_perm xs precedes) all
  have same : zs = ys.mergeSort precedes := by
    apply List.Perm.eq_of_pairwise _ (pairwise_scaled related (sorted xs)) (sorted ys)
      (perm.trans (List.mergeSort_perm ys precedes).symm)
    intro a b _ _ below above
    rw [precedes_iff] at below above
    exact orderIndex_injective (Nat.le_antisymm below above)
  rwa [← same]

theorem dropRepeatsAfter_scaled {v w : Binary64} (last : Scaled n v w)
    (all : List.Forall₂ (Scaled n) xs ys) :
    List.Forall₂ (Scaled n) (dropRepeatsAfter equals v xs) (dropRepeatsAfter equals w ys) := by
  induction all generalizing v w with
  | nil => exact .nil
  | cons scaled _ ih =>
    unfold dropRepeatsAfter
    rw [last.equals scaled]
    split
    · exact ih last
    · exact .cons scaled (ih scaled)

theorem dropRepeats_scaled (all : List.Forall₂ (Scaled n) xs ys) :
    List.Forall₂ (Scaled n) (dropRepeats equals xs) (dropRepeats equals ys) := by
  cases all with
  | nil => exact .nil
  | cons scaled rest => exact .cons scaled (dropRepeatsAfter_scaled scaled rest)

theorem uniqueSorted_scaled (all : ScaledColumn n xs ys) :
    List.Forall₂ (Scaled n) (uniqueSorted xs) (uniqueSorted ys) :=
  dropRepeats_scaled (mergeSort_scaled (measured_scaled all))

-- A constant column that the absolute tolerance has decided.
def ConstantAbsolutely (values : List Binary64) : Prop :=
  ∃ first rest, measured values = first :: rest ∧ ∃ v ∈ rest, AbsolutelyClose v first

theorem allTheSame_of_scaled (all : ScaledColumn n xs ys) (same : allTheSame ys = true) :
    allTheSame xs = true := by
  have related := measured_scaled all
  unfold allTheSame at same ⊢
  generalize measured xs = small at related ⊢
  generalize measured ys = large at related same
  cases related with
  | nil => rfl
  | cons first rest =>
    rw [List.all_eq_true] at same ⊢
    intro v member
    obtain ⟨w, other, scaled⟩ := exists_right rest member
    exact isClose_of_scaled scaled first (same w other)

theorem constantAbsolutely_of_scaled (all : ScaledColumn n xs ys) (same : allTheSame xs = true)
    (varied : allTheSame ys = false) : ConstantAbsolutely xs := by
  have related := measured_scaled all
  unfold allTheSame at same varied
  unfold ConstantAbsolutely
  generalize measured xs = small at related same ⊢
  generalize measured ys = large at related varied
  cases related with
  | nil => cases varied
  | @cons f g small large first rest =>
    rw [List.all_eq_true] at same
    rw [List.all_eq_false] at varied
    obtain ⟨w, member, apart⟩ := varied
    obtain ⟨v, other, scaled⟩ := exists_left rest member
    exact ⟨f, small, rfl, v, other,
      absolutelyClose_of_scaled scaled first (same v other) (Bool.eq_false_iff.mpr apart)⟩

-- Steps that are even as the absolute tolerance has decided, or of which some overflows at the larger
-- scale.
def EvenAbsolutely (small large : List Binary64) : Prop :=
  ∃ first rest, steps small = first :: rest ∧
    ((∃ s ∈ rest, AbsolutelyClose s first) ∨ ∃ s ∈ steps large, s.isInfinite = true)

theorem zipWith_scaled {vs ws : List Binary64} (one : List.Forall₂ (Scaled n) xs ys)
    (other : List.Forall₂ (Scaled n) vs ws) :
    List.Forall₂ (Grown n) (List.zipWith (· - ·) xs vs) (List.zipWith (· - ·) ys ws) := by
  induction one generalizing vs ws with
  | nil => exact .nil
  | cons scaled _ ih =>
    cases other with
    | nil => exact .nil
    | cons scaled' rest => exact .cons (scaled.sub scaled') (ih rest)

theorem steps_scaled (all : List.Forall₂ (Scaled n) xs ys) :
    List.Forall₂ (Grown n) (steps xs) (steps ys) :=
  zipWith_scaled (List.forall₂_drop 1 all) all

theorem isEquidistant_iff (sorted : List Binary64) : isEquidistant sorted = true ↔
    sorted.length < 3 ∨ ∀ first rest, steps sorted = first :: rest →
      ∀ s ∈ first :: rest, isClose s first = true := by
  unfold isEquidistant
  split
  · rename_i few
    simp [few]
  · rename_i many
    simp only [many, false_or]
    split
    · rename_i stepless
      simp [stepless]
    · rename_i first rest own
      rw [own, List.all_eq_true]
      constructor
      · rintro even _ _ same
        cases same
        exact even
      · exact fun even => even first rest rfl

-- A step that is close to a finite one at the larger scale has not overflowed.
theorem Grown.multiple_of_finite {d e : Binary64} (grown : Grown n d e) (finite : e.isFinite = true) :
    Multiple n d e := by
  cases grown with
  | multiple multiple => exact multiple
  | overflow _ kind =>
    rw [not_isInfinite_of_isFinite finite] at kind
    cases kind
  | unlimited _ kind =>
    rw [finite] at kind
    cases kind

theorem isEquidistant_of_scaled (all : List.Forall₂ (Scaled n) xs ys) (even : isEquidistant ys = true) :
    isEquidistant xs = true := by
  have related := steps_scaled all
  rw [isEquidistant_iff] at even ⊢
  rw [all.length_eq]
  refine even.imp id fun close first rest own s member => ?_
  rw [own] at related
  generalize steps ys = large at related close
  cases related with
  | @cons _ g _ large grown others =>
    have close := close g large rfl
    have finite := finite_of_isClose_self (close g List.mem_cons_self)
    obtain ⟨t, partner, grownStep⟩ := exists_right (.cons grown others) member
    have finiteStep := finite_of_isClose (close t partner) finite
    exact isClose_of_multiple (Grown.multiple_of_finite grownStep finiteStep)
      (Grown.multiple_of_finite grown finite) (close t partner)

theorem evenAbsolutely_of_scaled (all : List.Forall₂ (Scaled n) xs ys) (even : isEquidistant xs = true)
    (uneven : isEquidistant ys = false) : EvenAbsolutely xs ys := by
  have related := steps_scaled all
  rw [isEquidistant_iff, all.length_eq] at even
  rw [Bool.eq_false_iff, ne_eq, isEquidistant_iff, not_or] at uneven
  obtain ⟨many, uneven⟩ := uneven
  have close := even.resolve_left many
  push Not at uneven
  obtain ⟨g, large, own, t, member, apart⟩ := uneven
  unfold EvenAbsolutely
  rw [own] at related ⊢
  generalize steps xs = small at related close ⊢
  cases related with
  | @cons f _ small _ grown others =>
    refine ⟨f, small, rfl, ?_⟩
    have close := close f small rfl
    have finite := finite_of_isClose_self (close f List.mem_cons_self)
    obtain ⟨s, partner, grownStep⟩ := exists_left (.cons grown others) member
    have finiteStep := finite_of_isClose (close s partner) finite
    cases grown with
    | overflow _ kind => exact .inr ⟨g, List.mem_cons_self, kind⟩
    | unlimited kind =>
      rw [finite] at kind
      cases kind
    | multiple multiple =>
      cases grownStep with
      | overflow _ kind => exact .inr ⟨t, member, kind⟩
      | unlimited kind =>
        rw [finiteStep] at kind
        cases kind
      | multiple multipleStep =>
        have decided := absolutelyClose_of_multiple multipleStep multiple (close s partner)
          (Bool.eq_false_iff.mpr apart)
        rcases List.mem_cons.mp partner with rfl | later
        · have beyond := decided.beyond
          rw [sub_self, abs_zero] at beyond
          exact absurd beyond (not_lt.mpr (mul_nonneg Tolerance.relative_pos.le (abs_nonneg _)))
        · exact .inl ⟨s, later, decided⟩

end Setpoint

namespace PlotType
open Binary64
variable {n : Nat} {xs ys : List Binary64}

theorem runLengthsFrom_scaled {v w : Binary64} (count : Nat) (last : Scaled n v w)
    (all : List.Forall₂ (Scaled n) xs ys) :
    runLengthsFrom w count ys = runLengthsFrom v count xs := by
  induction all generalizing v w count with
  | nil => rfl
  | cons scaled _ ih =>
    unfold runLengthsFrom
    rw [last.equals scaled, ih (count + 1) last, ih 1 scaled]

theorem runLengths_scaled (all : List.Forall₂ (Scaled n) xs ys) : runLengths ys = runLengths xs := by
  cases all with
  | nil => rfl
  | cons scaled rest => exact runLengthsFrom_scaled 1 scaled rest

theorem isInterruptedSweep_scaled (all : List.Forall₂ (Scaled n) xs ys) (inner : Nat) :
    isInterruptedSweep ys inner = isInterruptedSweep xs inner := by
  have distinct := Setpoint.uniqueSorted_scaled (all.imp fun _ _ => .measured)
  unfold isInterruptedSweep
  rw [runLengths_scaled all, distinct.length_eq]

end PlotType

end Labbook
