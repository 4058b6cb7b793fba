import Labbook.Analysis.Setpoint
import Labbook.Proofs.Number.WordOrder
import Mathlib.Data.List.Pairwise
import Mathlib.Data.List.Sort

namespace Labbook

section DropRepeats
variable {α : Type} {same : α → α → Bool}

theorem dropRepeatsAfter_sublist (last : α) (rest : List α) :
    (dropRepeatsAfter same last rest).Sublist rest := by
  induction rest generalizing last with
  | nil => exact List.nil_sublist _
  | cons a rest ih =>
    unfold dropRepeatsAfter
    split
    · exact (ih last).cons a
    · exact (ih a).cons_cons a

theorem dropRepeats_sublist (items : List α) : (dropRepeats same items).Sublist items := by
  cases items with
  | nil => exact List.nil_sublist _
  | cons a rest => exact (dropRepeatsAfter_sublist a rest).cons_cons a

-- What is dropped is the same as something that was kept before it.
theorem dropRepeatsAfter_covers {before : α → α → Prop} {last : α} {rest : List α}
    (sorted : (last :: rest).Pairwise before) :
    ∀ a ∈ rest, ∃ b ∈ last :: dropRepeatsAfter same last rest, b = a ∨ same b a = true ∧ before b a := by
  induction rest generalizing last with
  | nil => intro a member; cases member
  | cons c rest ih =>
    obtain ⟨ahead, tail⟩ := List.pairwise_cons.mp sorted
    intro a member
    unfold dropRepeatsAfter
    split
    · rename_i repeated
      rcases List.mem_cons.mp member with rfl | later
      · exact ⟨last, List.mem_cons_self, .inr ⟨repeated, ahead a List.mem_cons_self⟩⟩
      · exact ih (sorted.sublist ((List.sublist_cons_self c rest).cons_cons last)) a later
    · rcases List.mem_cons.mp member with rfl | later
      · exact ⟨a, by simp, .inl rfl⟩
      · obtain ⟨b, kept, covers⟩ := ih tail a later
        exact ⟨b, List.mem_cons_of_mem _ kept, covers⟩

theorem dropRepeats_covers {before : α → α → Prop} {items : List α} (sorted : items.Pairwise before) :
    ∀ a ∈ items, ∃ b ∈ dropRepeats same items, b = a ∨ same b a = true ∧ before b a := by
  cases items with
  | nil => intro a member; cases member
  | cons c rest =>
    intro a member
    rcases List.mem_cons.mp member with rfl | later
    · exact ⟨a, List.mem_cons_self, .inl rfl⟩
    · exact dropRepeatsAfter_covers sorted a later

-- Of sorted elements those that are kept are strictly sorted: each is not the same as the one kept before
-- it, and what is dropped in between makes no difference.
theorem dropRepeatsAfter_pairwise {before strictly : α → α → Prop}
    (trans : ∀ a b c, strictly a b → strictly b c → strictly a c)
    (separates : ∀ a b, before a b → same a b = false → strictly a b) {last : α} {rest : List α}
    (sorted : (last :: rest).Pairwise before) :
    (last :: dropRepeatsAfter same last rest).Pairwise strictly := by
  induction rest generalizing last with
  | nil => exact List.pairwise_singleton _ _
  | cons a rest ih =>
    unfold dropRepeatsAfter
    split
    · exact ih (sorted.sublist ((List.sublist_cons_self a rest).cons_cons last))
    · rename_i differ
      obtain ⟨ahead, tail⟩ := List.pairwise_cons.mp sorted
      have later := ih tail
      have first := separates last a (ahead a List.mem_cons_self) (Bool.eq_false_iff.mpr differ)
      refine List.pairwise_cons.mpr ⟨?_, later⟩
      intro b member
      rcases List.mem_cons.mp member with rfl | behind
      · exact first
      · exact trans last a b first ((List.pairwise_cons.mp later).1 b behind)

theorem dropRepeats_pairwise {before strictly : α → α → Prop}
    (trans : ∀ a b c, strictly a b → strictly b c → strictly a c)
    (separates : ∀ a b, before a b → same a b = false → strictly a b) {items : List α}
    (sorted : items.Pairwise before) : (dropRepeats same items).Pairwise strictly := by
  cases items with
  | nil => exact List.Pairwise.nil
  | cons a rest => exact dropRepeatsAfter_pairwise trans separates sorted

end DropRepeats

namespace Setpoint

theorem mem_measured {values : List Binary64} {v : Binary64} :
    v ∈ measured values ↔ v ∈ values ∧ v.isNaN = false := by
  unfold measured
  rw [List.mem_filter, Bool.not_eq_true']
  rfl

theorem uniqueSorted_ascending (values : List Binary64) :
    (uniqueSorted values).Pairwise (· < ·) := by
  unfold uniqueSorted
  have clean : ∀ v ∈ (measured values).mergeSort Binary64.precedes, v.isNaN = false :=
    fun v member => (mem_measured.mp (List.mem_mergeSort.mp member)).2
  have sorted : ((measured values).mergeSort Binary64.precedes).Pairwise fun a b =>
      a.isNaN = false ∧ b.isNaN = false ∧ a.precedes b = true :=
    (List.pairwise_mergeSort Binary64.precedes_trans Binary64.precedes_total _).imp_of_mem
      fun memberA memberB before => ⟨clean _ memberA, clean _ memberB, before⟩
  have trans : ∀ a b c : Binary64, a < b → b < c → a < c := fun _ _ _ => Binary64.lt_trans
  have separates : ∀ a b : Binary64, (a.isNaN = false ∧ b.isNaN = false ∧ a.precedes b = true) →
      a.equals b = false → a < b := by
    rintro a b ⟨measuredA, measuredB, before⟩ differ
    exact Binary64.lt_of_precedes measuredA measuredB before differ
  exact dropRepeats_pairwise trans separates sorted

theorem uniqueSorted_subset {values : List Binary64} {v : Binary64}
    (member : v ∈ uniqueSorted values) : v ∈ values ∧ v.isNaN = false := by
  have kept := (dropRepeats_sublist _).subset member
  exact mem_measured.mp (List.mem_mergeSort.mp kept)

-- Every measured value has its distinct one, the first in the total order of those equal to it.
theorem uniqueSorted_covers {values : List Binary64} {v : Binary64} (member : v ∈ values)
    (measured : v.isNaN = false) :
    ∃ u ∈ uniqueSorted values, u.equals v = true ∧ u.precedes v = true := by
  have listed : v ∈ (Setpoint.measured values).mergeSort Binary64.precedes :=
    List.mem_mergeSort.mpr (mem_measured.mpr ⟨member, measured⟩)
  have sorted := List.pairwise_mergeSort Binary64.precedes_trans Binary64.precedes_total
    (Setpoint.measured values)
  obtain ⟨u, kept, rfl | ⟨same, before⟩⟩ := @dropRepeats_covers _ Binary64.equals _ _ sorted v listed
  · exact ⟨u, kept, Binary64.equals_refl measured, Binary64.precedes_refl u⟩
  · exact ⟨u, kept, same, before⟩

-- Equal values are the same word. Of all columns only those that hold both zeros are not faithful.
def Faithful (values : List Binary64) : Prop :=
  ∀ a ∈ values, ∀ b ∈ values, a.equals b = true → a = b

theorem faithful_of_ascending {values : List Binary64} (ascending : values.Pairwise (· < ·)) :
    Faithful values := by
  have apart : values.Pairwise fun a b => a.equals b = true → a = b := by
    refine ascending.imp fun less same => ?_
    rw [Binary64.not_equals_of_lt less] at same
    cases same
  have : Std.Symm fun a b : Binary64 => a.equals b = true → a = b :=
    ⟨fun a b given same => (given (Binary64.equals_symm same)).symm⟩
  intro a memberA b memberB
  exact apart.forall_of_forall (fun _ _ _ => rfl) memberA memberB

theorem mem_uniqueSorted {values : List Binary64} (faithful : Faithful values) {v : Binary64} :
    v ∈ uniqueSorted values ↔ v ∈ values ∧ v.isNaN = false := by
  refine ⟨uniqueSorted_subset, ?_⟩
  rintro ⟨member, measured⟩
  obtain ⟨u, kept, same, -⟩ := uniqueSorted_covers member measured
  rwa [← faithful u (uniqueSorted_subset kept).1 v member same]

theorem uniqueSorted_nodup (values : List Binary64) : (uniqueSorted values).Nodup :=
  (uniqueSorted_ascending values).imp Binary64.ne_of_lt

theorem uniqueSorted_eq {values ascending : List Binary64} (sorted : ascending.Pairwise (· < ·))
    (same : ∀ v, v ∈ ascending ↔ v ∈ values ∧ v.isNaN = false) :
    uniqueSorted values = ascending := by
  have faithful : Faithful values := by
    intro a memberA b memberB equal
    obtain ⟨measuredA, measuredB, -⟩ := Binary64.equals_iff.mp equal
    exact faithful_of_ascending sorted a ((same a).mpr ⟨memberA, measuredA⟩) b
      ((same b).mpr ⟨memberB, measuredB⟩) equal
  refine (uniqueSorted_ascending values).eq_of_mem_iff sorted fun v => ?_
  rw [mem_uniqueSorted faithful, same]

end Setpoint

end Labbook
