import Labbook.Analysis.PlotType
import Labbook.Proofs.Setpoint.Distinct
import Mathlib.Data.List.Perm.Subperm

namespace Labbook

namespace Setpoint

-- Values of a column are equal exactly as words: nothing unmeasured and not both zeros.
def Plain (values : List Binary64) : Prop :=
  ∀ a ∈ values, ∀ b ∈ values, a.equals b = true ↔ a = b

theorem plain_of_ordinary {values : List Binary64}
    (ordinary : ∀ v ∈ values, v.isNaN = false ∧ v ≠ Binary64.negativeZero) : Plain values := by
  intro a memberA b memberB
  constructor
  · exact Binary64.eq_of_equals (ordinary a memberA).2 (ordinary b memberB).2
  · rintro rfl
    exact Binary64.equals_refl (ordinary a memberA).1

theorem Plain.subset {values fewer : List Binary64} (plain : Plain values) (subset : fewer ⊆ values) :
    Plain fewer :=
  fun a memberA b memberB => plain a (subset memberA) b (subset memberB)

theorem Plain.measured {values : List Binary64} (plain : Plain values) :
    ∀ v ∈ values, v.isNaN = false :=
  fun v member => (Binary64.equals_iff.mp ((plain v member v member).mpr rfl)).1

theorem Plain.faithful {values : List Binary64} (plain : Plain values) : Faithful values :=
  fun a memberA b memberB => (plain a memberA b memberB).mp

theorem mem_uniqueSorted_plain {values : List Binary64} (plain : Plain values) {v : Binary64} :
    v ∈ uniqueSorted values ↔ v ∈ values := by
  rw [mem_uniqueSorted plain.faithful]
  exact ⟨And.left, fun member => ⟨member, plain.measured v member⟩⟩

theorem mem_dropRepeats {values : List Binary64} (plain : Plain values) {v : Binary64} :
    v ∈ dropRepeats Binary64.equals values ↔ v ∈ values := by
  have kept : dropRepeats Binary64.equals values ⊆ values := (dropRepeats_sublist values).subset
  refine ⟨fun member => kept member, fun member => ?_⟩
  have unsorted : values.Pairwise fun _ _ => True := List.pairwise_of_forall fun _ _ => trivial
  obtain ⟨u, head, rfl | ⟨same, -⟩⟩ := @dropRepeats_covers _ Binary64.equals _ _ unsorted v member
  · exact head
  · exact (plain u (kept head) v member).mp same ▸ head

theorem getLast?_dropRepeatsAfter {last : Binary64} {rest : List Binary64}
    (plain : Plain (last :: rest)) :
    (last :: dropRepeatsAfter Binary64.equals last rest).getLast? = (last :: rest).getLast? := by
  induction rest generalizing last with
  | nil => rfl
  | cons a rest ih =>
    have tail : Plain (a :: rest) := plain.subset (List.subset_cons_self _ _)
    unfold dropRepeatsAfter
    split
    · rename_i same
      have equal : last = a := (plain last (by simp) a (by simp)).mp same
      subst equal
      rw [ih tail, List.getLast?_cons_cons]
    · rw [List.getLast?_cons_cons, List.getLast?_cons_cons]
      exact ih tail

theorem getLast?_dropRepeats {values : List Binary64} (plain : Plain values) :
    (dropRepeats Binary64.equals values).getLast? = values.getLast? := by
  cases values with
  | nil => rfl
  | cons first rest => exact getLast?_dropRepeatsAfter plain

theorem length_runLengthsFrom (last : Binary64) (count : Nat) (rest : List Binary64) :
    (PlotType.runLengthsFrom last count rest).length =
      (last :: dropRepeatsAfter Binary64.equals last rest).length := by
  induction rest generalizing last count with
  | nil => rfl
  | cons a rest ih =>
    unfold PlotType.runLengthsFrom dropRepeatsAfter
    split
    · exact ih last (count + 1)
    · rw [List.length_cons, List.length_cons, ih a 1]

theorem length_runLengths (values : List Binary64) :
    (PlotType.runLengths values).length = (dropRepeats Binary64.equals values).length := by
  cases values with
  | nil => rfl
  | cons first rest => exact length_runLengthsFrom first 1 rest

-- When no head comes back, a run is all there is of its value, and its length is the value's count.
theorem runLengthsFrom_eq {last : Binary64} {count : Nat} {rest : List Binary64}
    (plain : Plain (last :: rest))
    (once : (last :: dropRepeatsAfter Binary64.equals last rest).Nodup) :
    PlotType.runLengthsFrom last count rest = (count + rest.count last) ::
      (dropRepeatsAfter Binary64.equals last rest).map fun v => rest.count v := by
  induction rest generalizing last count with
  | nil => rfl
  | cons a rest ih =>
    have tail : Plain (a :: rest) := plain.subset (List.subset_cons_self _ _)
    unfold PlotType.runLengthsFrom dropRepeatsAfter
    unfold dropRepeatsAfter at once
    by_cases same : last.equals a = true
    · have equal : last = a := (plain last (by simp) a (by simp)).mp same
      subst equal
      rw [if_pos same] at once ⊢
      rw [if_pos same, ih tail once, List.count_cons_self]
      congr 1
      · omega
      · refine List.map_congr_left fun v member => ?_
        have differ : last ≠ v := fun e => (List.nodup_cons.mp once).1 (e ▸ member)
        rw [List.count_cons_of_ne differ]
    · rw [if_neg same] at once ⊢
      rw [if_neg same, ih tail (List.nodup_cons.mp once).2]
      have gone : last ∉ a :: rest := fun member =>
        (List.nodup_cons.mp once).1 ((mem_dropRepeats tail).mpr member)
      rw [List.count_eq_zero.mpr gone, Nat.add_zero, List.map_cons, List.count_cons_self,
        Nat.add_comm]
      congr 2
      refine List.map_congr_left fun v member => ?_
      have differ : a ≠ v := fun e =>
        (List.nodup_cons.mp (List.nodup_cons.mp once).2).1 (e ▸ member)
      rw [List.count_cons_of_ne differ]

theorem runLengths_eq {values : List Binary64} (plain : Plain values)
    (once : (dropRepeats Binary64.equals values).Nodup) :
    PlotType.runLengths values =
      (dropRepeats Binary64.equals values).map fun v => values.count v := by
  cases values with
  | nil => rfl
  | cons first rest =>
    have heads : dropRepeats Binary64.equals (first :: rest) =
      first :: dropRepeatsAfter Binary64.equals first rest := rfl
    rw [heads] at once ⊢
    rw [List.map_cons, List.count_cons_self, Nat.add_comm]
    refine (runLengthsFrom_eq plain once).trans (congrArg _ ?_)
    refine List.map_congr_left fun v member => ?_
    have differ : first ≠ v := fun e => (List.nodup_cons.mp once).1 (e ▸ member)
    rw [List.count_cons_of_ne differ]

-- As many runs as values: every value stands in a single run.
theorem length_uniqueSorted_iff {values : List Binary64} (plain : Plain values) :
    (uniqueSorted values).length = (PlotType.runLengths values).length ↔
      (dropRepeats Binary64.equals values).Nodup := by
  rw [length_runLengths]
  have same : ∀ v, v ∈ uniqueSorted values ↔ v ∈ dropRepeats Binary64.equals values := fun v => by
    rw [mem_uniqueSorted_plain plain, mem_dropRepeats plain]
  constructor
  · intro lengths
    have perm := ((uniqueSorted_nodup values).subperm fun v => (same v).mp).perm_of_length_le
      (Nat.le_of_eq lengths.symm)
    exact perm.nodup_iff.mp (uniqueSorted_nodup values)
  · intro once
    exact ((List.perm_ext_iff_of_nodup (uniqueSorted_nodup values) once).mpr same).length_eq

-- An interrupted sweep: no outer value is taken up again, all but the last one have the full inner
-- length, and the last one has no more.
structure Interrupted (outer : List Binary64) (inner : Nat) (last : Binary64) : Prop where
  ends : outer.getLast? = some last
  contiguous : (dropRepeats Binary64.equals outer).Nodup
  complete : ∀ v ∈ outer, v ≠ last → outer.count v = inner
  bounded : outer.count last ≤ inner

theorem isInterruptedSweep_iff {outer : List Binary64} (plain : Plain outer) {inner : Nat} :
    PlotType.isInterruptedSweep outer inner = true ↔ ∃ last, Interrupted outer inner last := by
  unfold PlotType.isInterruptedSweep
  rw [Bool.and_eq_true, beq_iff_eq, length_uniqueSorted_iff plain]
  cases ends : outer.getLast? with
  | none =>
    rw [List.getLast?_eq_none_iff] at ends
    subst ends
    constructor
    · rintro ⟨-, runs⟩
      cases runs
    · rintro ⟨last, interrupted⟩
      cases interrupted.ends
  | some last =>
    obtain ⟨front, heads⟩ := List.getLast?_eq_some_iff.mp ((getLast?_dropRepeats plain).trans ends)
    have members : ∀ v, v ∈ outer ↔ v ∈ front ++ [last] := fun v => by
      rw [← heads, mem_dropRepeats plain]
    -- The runs are those of the heads, the last one standing for the last value.
    have runs : (dropRepeats Binary64.equals outer).Nodup →
        PlotType.runLengths outer = front.map (fun v => outer.count v) ++ [outer.count last] :=
      fun once => by rw [runLengths_eq plain once, heads, List.map_append]; rfl
    constructor
    · rintro ⟨once, checked⟩
      rw [runs once, List.getLast?_concat, List.dropLast_concat] at checked
      simp only [List.all_map, Bool.and_eq_true, List.all_eq_true, Function.comp_apply, beq_iff_eq,
        decide_eq_true_eq] at checked
      refine ⟨last, ends, once, fun v member differ => checked.1 v ?_, checked.2⟩
      simpa [differ] using (members v).mp member
    · rintro ⟨other, interrupted⟩
      cases Option.some.inj (ends.symm.trans interrupted.ends)
      have once := interrupted.contiguous
      refine ⟨once, ?_⟩
      rw [runs once, List.getLast?_concat, List.dropLast_concat]
      simp only [List.all_map, Bool.and_eq_true, List.all_eq_true, Function.comp_apply, beq_iff_eq,
        decide_eq_true_eq]
      refine ⟨fun v member => interrupted.complete v ?_ ?_, interrupted.bounded⟩
      · exact (members v).mpr (List.mem_append_left _ member)
      · rintro rfl
        rw [heads] at once
        exact (List.nodup_append.mp once).2.2 v member v List.mem_cons_self rfl

end Setpoint

end Labbook
