import Labbook.Plot.Layer
import Mathlib.Algebra.Order.Field.Rat
import Mathlib.Tactic.Linarith
import Mathlib.Tactic.NormNum
import Mathlib.Tactic.Ring

namespace Labbook

section
variable {α : Type} [Scalar α]

theorem length_inner (c d : α) (rest : List α) :
    (cellEdges.inner c d rest).length = rest.length + 2 := by
  induction rest generalizing c d with
  | nil => rfl
  | cons e rest ih => exact congrArg (· + 1) (ih d e)

theorem length_cellEdges {centers : List α} (nonempty : centers ≠ []) :
    (cellEdges centers).length = centers.length + 1 := by
  match centers with
  | [] => exact absurd rfl nonempty
  | [_] => rfl
  | c :: d :: rest => exact congrArg (· + 1) (length_inner c d rest)

theorem inner_ne_nil (c d : α) (rest : List α) : cellEdges.inner c d rest ≠ [] := by
  apply List.ne_nil_of_length_pos
  rw [length_inner]
  exact Nat.succ_pos _

end

theorem cellEdges_single (c : Rat) : cellEdges [c] = [c - 1 / 2, c + 1 / 2] := by
  have half : (0.5 : Rat) = 1 / 2 := by norm_num
  change [c - (0.5 : Rat), c + (0.5 : Rat)] = _
  rw [half]

theorem cellEdges_cons (c d : Rat) (rest : List Rat) :
    cellEdges (c :: d :: rest) = (c - (d - c) / 2) :: cellEdges.inner c d rest := by
  have two : (2.0 : Rat) = 2 := by norm_num
  change (c - (d - c) / (2.0 : Rat)) :: _ = _
  rw [two]

theorem inner_nil (c d : Rat) : cellEdges.inner c d [] = [(c + d) / 2, d + (d - c) / 2] := by
  have two : (2.0 : Rat) = 2 := by norm_num
  change [(c + d) / (2.0 : Rat), d + (d - c) / (2.0 : Rat)] = _
  rw [two]

theorem inner_cons (c d e : Rat) (rest : List Rat) :
    cellEdges.inner c d (e :: rest) = (c + d) / 2 :: cellEdges.inner d e rest := by
  have two : (2.0 : Rat) = 2 := by norm_num
  change (c + d) / (2.0 : Rat) :: _ = _
  rw [two]

theorem cellEdges_isNil {centers : List Rat} : cellEdges centers = [] ↔ centers = [] := by
  match centers with
  | [] => exact iff_of_true rfl rfl
  | [c] => exact iff_of_false (by rw [cellEdges_single]; nofun) nofun
  | c :: d :: rest => exact iff_of_false (by rw [cellEdges_cons]; nofun) nofun

def outerEdges (centers : List Rat) : Option (Rat × Rat) :=
  (cellEdges centers).head?.bind fun first => (cellEdges centers).getLast?.map (first, ·)

theorem inner_last {c d : Rat} {rest : List Rat} (ascending : (c :: d :: rest).Pairwise (· < ·)) :
    ∃ last, (cellEdges.inner c d rest).getLast? = some last ∧ ∀ v ∈ c :: d :: rest, v < last := by
  induction rest generalizing c d with
  | nil =>
    have less : c < d := List.rel_of_pairwise_cons ascending List.mem_cons_self
    rw [inner_nil]
    refine ⟨d + (d - c) / 2, rfl, ?_⟩
    intro v member
    simp only [List.mem_cons, List.not_mem_nil, or_false] at member
    rcases member with rfl | rfl
    · linarith
    · linarith
  | cons e rest ih =>
    obtain ⟨ahead, tail⟩ := List.pairwise_cons.mp ascending
    obtain ⟨last, found, above⟩ := ih tail
    rw [inner_cons, List.getLast?_cons_of_ne_nil (inner_ne_nil d e rest)]
    refine ⟨last, found, ?_⟩
    intro v member
    rcases List.mem_cons.mp member with rfl | later
    · exact lt_trans (ahead d List.mem_cons_self) (above d List.mem_cons_self)
    · exact above v later

theorem outerEdges_ascending {centers : List Rat} (ascending : centers.Pairwise (· < ·))
    (nonempty : centers ≠ []) : ∃ first last, outerEdges centers = some (first, last) ∧
      ∀ v ∈ centers, first < v ∧ v < last := by
  unfold outerEdges
  match centers with
  | [] => exact absurd rfl nonempty
  | [c] =>
    rw [cellEdges_single]
    refine ⟨c - 1 / 2, c + 1 / 2, rfl, ?_⟩
    intro v member
    rw [List.mem_singleton.mp member]
    exact ⟨by linarith, by linarith⟩
  | c :: d :: rest =>
    obtain ⟨ahead, tail⟩ := List.pairwise_cons.mp ascending
    obtain ⟨last, found, above⟩ := inner_last ascending
    rw [cellEdges_cons, List.head?_cons, List.getLast?_cons_of_ne_nil (inner_ne_nil c d rest), found]
    refine ⟨_, _, rfl, ?_⟩
    have less := ahead d List.mem_cons_self
    intro v member
    refine ⟨?_, above v member⟩
    rcases List.mem_cons.mp member with rfl | later
    · linarith
    · have upward := ahead v later
      linarith

theorem inner_neg (c d : Rat) (rest : List Rat) :
    cellEdges.inner (-c) (-d) (rest.map (- ·)) = (cellEdges.inner c d rest).map (- ·) := by
  induction rest generalizing c d with
  | nil =>
    simp only [List.map_nil, inner_nil, List.map_cons, List.cons.injEq, and_true]
    constructor <;> ring
  | cons e rest ih =>
    simp only [List.map_cons, inner_cons, ih, List.cons.injEq, and_true]
    ring

-- The mirror image of two or more cells. A single cell keeps the order of its edges.
theorem cellEdges_neg (c d : Rat) (rest : List Rat) :
    cellEdges ((c :: d :: rest).map (- ·)) = (cellEdges (c :: d :: rest)).map (- ·) := by
  simp only [List.map_cons, cellEdges_cons, inner_neg, List.cons.injEq, and_true]
  ring

theorem outerEdges_neg (c d : Rat) (rest : List Rat) : outerEdges ((c :: d :: rest).map (- ·)) =
    (outerEdges (c :: d :: rest)).map fun edges => (-edges.1, -edges.2) := by
  unfold outerEdges
  rw [cellEdges_neg, List.head?_map, List.getLast?_map]
  cases (cellEdges (c :: d :: rest)).head? <;> cases (cellEdges (c :: d :: rest)).getLast? <;> rfl

theorem outerEdges_descending {c d : Rat} {rest : List Rat}
    (descending : (c :: d :: rest).Pairwise (· > ·)) :
    ∃ first last, outerEdges (c :: d :: rest) = some (first, last) ∧
      ∀ v ∈ c :: d :: rest, last < v ∧ v < first := by
  have turned : ((c :: d :: rest).map (- ·)).Pairwise (· < ·) :=
    List.pairwise_map.mpr (descending.imp fun less => neg_lt_neg less)
  obtain ⟨first, last, edges, between⟩ := outerEdges_ascending turned nofun
  rw [outerEdges_neg] at edges
  obtain ⟨⟨a, b⟩, found, same⟩ := Option.map_eq_some_iff.mp edges
  cases same
  refine ⟨a, b, found, ?_⟩
  intro v member
  obtain ⟨below, above⟩ := between (-v) (List.mem_map_of_mem member)
  exact ⟨neg_lt_neg_iff.mp above, neg_lt_neg_iff.mp below⟩

-- Centres in order lie between the outer edges.
theorem outerEdges_enclose {centers : List Rat}
    (ordered : centers.Pairwise (· < ·) ∨ centers.Pairwise (· > ·)) (nonempty : centers ≠ []) :
    ∃ first last, outerEdges centers = some (first, last) ∧
      ∀ v ∈ centers, min first last < v ∧ v < max first last := by
  have ascent (ascending : centers.Pairwise (· < ·)) : ∃ first last,
      outerEdges centers = some (first, last) ∧
        ∀ v ∈ centers, min first last < v ∧ v < max first last := by
    obtain ⟨first, last, edges, between⟩ := outerEdges_ascending ascending nonempty
    refine ⟨first, last, edges, fun v member => ?_⟩
    obtain ⟨below, above⟩ := between v member
    exact ⟨min_lt_of_left_lt below, lt_max_of_lt_right above⟩
  rcases ordered with ascending | descending
  · exact ascent ascending
  · match centers with
    | [] => exact ascent .nil
    | [c] => exact ascent (List.pairwise_singleton ..)
    | c :: d :: rest =>
      obtain ⟨first, last, edges, between⟩ := outerEdges_descending descending
      refine ⟨first, last, edges, fun v member => ?_⟩
      obtain ⟨below, above⟩ := between v member
      exact ⟨min_lt_of_right_lt below, lt_max_of_lt_left above⟩

end Labbook
