import Labbook.Number.Scalar
import Labbook.Proofs.Number.WordValue

namespace Labbook

namespace Binary64
variable {a b : Binary64} {rest : List Binary64}

theorem greater_cases (a b : Binary64) : Scalar.greater a b = a ∨ Scalar.greater a b = b := by
  unfold Scalar.greater
  split
  · exact .inr rfl
  · split
    · exact .inr rfl
    · exact .inl rfl

theorem lesser_cases (a b : Binary64) : Scalar.lesser a b = a ∨ Scalar.lesser a b = b := by
  unfold Scalar.lesser
  split
  · exact .inr rfl
  · split
    · exact .inr rfl
    · exact .inl rfl

theorem le_greater (measuredA : a.isNaN = false) (measuredB : b.isNaN = false) :
    a.value ≤ (Scalar.greater a b).value ∧ b.value ≤ (Scalar.greater a b).value := by
  unfold Scalar.greater
  rw [if_neg (show ¬Scalar.isNaN a = true from Bool.eq_false_iff.mp measuredA)]
  split
  next less => exact ⟨(value_lt less).le, le_refl _⟩
  next notLess => exact ⟨le_refl _, value_le measuredA measuredB notLess⟩

theorem lesser_le (measuredA : a.isNaN = false) (measuredB : b.isNaN = false) :
    a.value ≥ (Scalar.lesser a b).value ∧ b.value ≥ (Scalar.lesser a b).value := by
  unfold Scalar.lesser
  rw [if_neg (show ¬Scalar.isNaN a = true from Bool.eq_false_iff.mp measuredA)]
  split
  next less => exact ⟨(value_lt less).le, le_refl _⟩
  next notLess => exact ⟨le_refl _, value_le measuredB measuredA notLess⟩

-- Where a choice between two words keeps one that neither goes before, so does its fold over a list.
theorem foldl_choice {choose : Binary64 → Binary64 → Binary64} {order : Rat → Rat → Prop}
    [Std.Refl order] [IsTrans Rat order] (kept : ∀ a b, choose a b = a ∨ choose a b = b)
    (behind : ∀ {a b}, a.isNaN = false → b.isNaN = false →
      order a.value (choose a b).value ∧ order b.value (choose a b).value)
    (measured : ∀ v ∈ a :: rest, v.isNaN = false) :
    rest.foldl choose a ∈ a :: rest ∧
      ∀ v ∈ a :: rest, order v.value (rest.foldl choose a).value := by
  induction rest generalizing a with
  | nil =>
    refine ⟨List.mem_cons_self, fun v member => ?_⟩
    rw [List.mem_singleton.mp member]
    exact refl_of order _
  | cons b rest ih =>
    obtain ⟨measuredA, others⟩ := List.forall_mem_cons.mp measured
    obtain ⟨measuredB, later⟩ := List.forall_mem_cons.mp others
    have chosen : (choose a b).isNaN = false := by
      rcases kept a b with same | same <;> rw [same] <;> assumption
    obtain ⟨member, bounds⟩ := ih (List.forall_mem_cons.mpr ⟨chosen, later⟩)
    obtain ⟨boundA, boundB⟩ := behind measuredA measuredB
    have first := bounds _ List.mem_cons_self
    rw [List.foldl_cons]
    refine ⟨?_, fun v listed => ?_⟩
    · rcases List.mem_cons.mp member with same | listed
      · rw [same]
        rcases kept a b with same | same <;> rw [same] <;> simp
      · exact List.mem_cons_of_mem _ (List.mem_cons_of_mem _ listed)
    · rcases List.mem_cons.mp listed with rfl | listed
      · exact trans_of order boundA first
      rcases List.mem_cons.mp listed with rfl | listed
      · exact trans_of order boundB first
      · exact bounds v (List.mem_cons_of_mem _ listed)

theorem foldl_greater (measured : ∀ v ∈ a :: rest, v.isNaN = false) :
    rest.foldl Scalar.greater a ∈ a :: rest ∧
      ∀ v ∈ a :: rest, v.value ≤ (rest.foldl Scalar.greater a).value :=
  foldl_choice greater_cases le_greater measured

theorem foldl_lesser (measured : ∀ v ∈ a :: rest, v.isNaN = false) :
    rest.foldl Scalar.lesser a ∈ a :: rest ∧
      ∀ v ∈ a :: rest, v.value ≥ (rest.foldl Scalar.lesser a).value :=
  foldl_choice lesser_cases lesser_le measured

end Binary64

end Labbook
