import Labbook.Analysis.PlotType
import Labbook.Proofs.Setpoint.Distinct

namespace Labbook

namespace Setpoint
variable {values p : List Binary64} {first : Binary64} {rest : List Binary64}

theorem measured_perm (perm : p.Perm values) : (measured p).Perm (measured values) :=
  perm.filter _

-- With the first value only its comparisons with the others are fixed.
theorem allTheSame_iff_of_first (perm : p.Perm values) (starts : measured p = first :: rest) :
    allTheSame p = true ↔ ∀ v ∈ (measured values).erase first, isClose v first = true := by
  have others : rest.Perm ((measured values).erase first) := by
    have erased := (measured_perm perm).erase first
    rwa [starts, List.erase_cons_head] at erased
  have members (v : Binary64) := others.mem_iff (a := v)
  unfold allTheSame
  rw [starts, List.all_eq_true]
  simp only [members]

theorem allTheSame_none (empty : measured p = []) : allTheSame p = true := by
  unfold allTheSame
  rw [empty]

theorem allTheSame_of_head (perm : p.Perm values)
    (heads : (measured p).head? = (measured values).head?) : allTheSame p = allTheSame values := by
  cases starts : measured values with
  | nil =>
    rw [starts, List.head?_nil, List.head?_eq_none_iff] at heads
    rw [allTheSame_none starts, allTheSame_none heads]
  | cons first rest =>
    rw [starts, List.head?_cons, List.head?_eq_some_iff] at heads
    obtain ⟨others, begins⟩ := heads
    rw [Bool.eq_iff_iff, allTheSame_iff_of_first perm begins,
      allTheSame_iff_of_first (List.Perm.refl values) starts]

theorem exists_first (member : first ∈ measured values) :
    ∃ p, p.Perm values ∧ ∃ rest, measured p = first :: rest := by
  obtain ⟨listed, clean⟩ := mem_measured.mp member
  refine ⟨first :: values.erase first, (List.perm_cons_erase listed).symm,
    measured (values.erase first), ?_⟩
  exact List.filter_cons_of_pos (show (!first.isNaN) = true by simp [clean])

-- No other value could have been measured first to another result: all values are close to each other, or
-- each one has one that is not close to it.
def OrderFree (values : List Binary64) : Prop :=
  (∀ first ∈ measured values, ∀ v ∈ (measured values).erase first, isClose v first = true) ∨
    ∀ first ∈ measured values, ∃ v ∈ (measured values).erase first, isClose v first = false

instance (values : List Binary64) : Decidable (OrderFree values) := inferInstanceAs (Decidable (_ ∨ _))

theorem allTheSame_of_orderFree (free : OrderFree values) (perm : p.Perm values) :
    allTheSame p = allTheSame values := by
  have own := List.Perm.refl values
  cases starts : measured values with
  | nil =>
    have empty : measured p = [] := List.Perm.eq_nil (starts ▸ measured_perm perm)
    rw [allTheSame_none starts, allTheSame_none empty]
  | cons first rest =>
    cases begins : measured p with
    | nil =>
      have empty : measured values = [] := List.Perm.eq_nil (begins ▸ (measured_perm perm).symm)
      rw [empty] at starts
      cases starts
    | cons other others =>
      have member : first ∈ measured values := starts ▸ List.mem_cons_self
      have moved : other ∈ measured values := (measured_perm perm).mem_iff.mp (begins ▸ List.mem_cons_self)
      rw [Bool.eq_iff_iff, allTheSame_iff_of_first perm begins, allTheSame_iff_of_first own starts]
      rcases free with close | apart
      · exact iff_of_true (close other moved) (close first member)
      · refine iff_of_false (fun all => ?_) fun all => ?_
        · obtain ⟨v, listed, far⟩ := apart other moved
          rw [all v listed] at far
          cases far
        · obtain ⟨v, listed, far⟩ := apart first member
          rw [all v listed] at far
          cases far

theorem orderFree_of_allTheSame (fixed : ∀ p, p.Perm values → allTheSame p = allTheSame values) :
    OrderFree values := by
  by_cases same : allTheSame values = true
  · refine .inl fun first member => ?_
    obtain ⟨p, perm, rest, starts⟩ := exists_first member
    exact (allTheSame_iff_of_first perm starts).mp ((fixed p perm).trans same)
  · refine .inr fun first member => ?_
    obtain ⟨p, perm, rest, starts⟩ := exists_first member
    by_contra separate
    push Not at separate
    have all := (allTheSame_iff_of_first perm starts).mpr fun v listed => by simpa using separate v listed
    exact same ((fixed p perm).symm.trans all)

end Setpoint

namespace PlotType
variable {values : List Binary64}

theorem allTheSame_of_short (short : values.length < 2) : Setpoint.allTheSame values = true := by
  cases starts : Setpoint.measured values with
  | nil => exact Setpoint.allTheSame_none starts
  | cons first rest =>
    have most : (Setpoint.measured values).length ≤ values.length := List.length_filter_le _ _
    rw [starts, List.length_cons] at most
    obtain rfl := List.length_eq_zero_iff.mp (show rest.length = 0 by omega)
    unfold Setpoint.allTheSame
    rw [starts]
    rfl

-- Columns that are too short for a line are constant anyway.
theorem ofSetpoints_eq (values : List Binary64) :
    ofSetpoints values = if Setpoint.allTheSame values then point1D else line1D := by
  unfold ofSetpoints
  by_cases short : values.length < 2
  · rw [allTheSame_of_short short, Bool.or_true]
  · rw [decide_eq_false short, Bool.false_or]

theorem ofSetpoints_perm_iff : (∀ p, p.Perm values → ofSetpoints p = ofSetpoints values) ↔
    Setpoint.OrderFree values := by
  constructor
  · intro fixed
    apply Setpoint.orderFree_of_allTheSame
    intro p perm
    have same := fixed p perm
    rw [ofSetpoints_eq, ofSetpoints_eq] at same
    cases one : Setpoint.allTheSame p <;> cases other : Setpoint.allTheSame values <;> simp_all
  · intro free p perm
    rw [ofSetpoints_eq, ofSetpoints_eq, Setpoint.allTheSame_of_orderFree free perm]

end PlotType

end Labbook
