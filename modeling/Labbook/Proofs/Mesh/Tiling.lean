import Labbook.Proofs.Mesh.CellEdges

namespace Labbook

-- An edge, a centre, an edge and so on, each less than the next, with an edge at both ends.
inductive Alternates : List Rat → List Rat → Prop where
  | last (a : Rat) : Alternates [] [a]
  | cell {a b c : Rat} {centers edges : List Rat} (left : a < c) (right : c < b)
      (rest : Alternates centers (b :: edges)) : Alternates (c :: centers) (a :: b :: edges)

-- Cells that tile an axis. `single` takes the edges of a cell to it.
structure Tiles (centers edges : List Rat) : Prop where
  count : edges.length = centers.length + 1
  ascending : edges.Pairwise (· < ·)
  own : ∀ i c, centers[i]? = some c →
    ∃ a b, edges[i]? = some a ∧ edges[i + 1]? = some b ∧ a < c ∧ c < b
  single : ∀ i j c a b, centers[i]? = some c → edges[j]? = some a → edges[j + 1]? = some b →
    a ≤ c → c ≤ b → i = j

theorem le_of_places {edges : List Rat} (ascending : edges.Pairwise (· < ·)) {i j : Nat} {a b : Rat}
    (order : i ≤ j) (lower : edges[i]? = some a) (upper : edges[j]? = some b) : a ≤ b := by
  rcases Nat.eq_or_lt_of_le order with rfl | less
  · rw [lower] at upper
    exact le_of_eq (Option.some.inj upper)
  · obtain ⟨inLower, rfl⟩ := List.getElem?_eq_some_iff.mp lower
    obtain ⟨inUpper, rfl⟩ := List.getElem?_eq_some_iff.mp upper
    exact le_of_lt (List.pairwise_iff_getElem.mp ascending i j inLower inUpper less)

namespace Alternates
variable {centers edges : List Rat}

theorem ascending (turns : Alternates centers edges) : edges.Pairwise (· < ·) := by
  induction turns with
  | last a => exact List.pairwise_singleton ..
  | @cell a b c centers edges left right rest ih =>
    have less : a < b := lt_trans left right
    refine List.pairwise_cons.mpr ⟨?_, ih⟩
    intro e member
    rcases List.mem_cons.mp member with rfl | later
    · exact less
    · exact lt_trans less (List.rel_of_pairwise_cons ih later)

theorem own (turns : Alternates centers edges) {i : Nat} {c : Rat} (found : centers[i]? = some c) :
    ∃ a b, edges[i]? = some a ∧ edges[i + 1]? = some b ∧ a < c ∧ c < b := by
  induction turns generalizing i with
  | last a => cases found
  | @cell a b d centers edges left right rest ih =>
    cases i with
    | zero =>
      cases found
      exact ⟨a, b, rfl, rfl, left, right⟩
    | succ i => exact ih found

theorem single (turns : Alternates centers edges) {i j : Nat} {a b c : Rat}
    (found : centers[i]? = some c) (lower : edges[j]? = some a) (upper : edges[j + 1]? = some b)
    (above : a ≤ c) (below : c ≤ b) : i = j := by
  obtain ⟨l, r, left, right, less, more⟩ := turns.own found
  rcases Nat.lt_trichotomy i j with before | same | behind
  · have order := le_of_places turns.ascending before right lower
    linarith
  · exact same
  · have order := le_of_places turns.ascending behind upper left
    linarith

end Alternates

theorem inner_alternates {a c d : Rat} {rest : List Rat} (before : a < c)
    (ascending : (c :: d :: rest).Pairwise (· < ·)) :
    Alternates (c :: d :: rest) (a :: cellEdges.inner c d rest) := by
  induction rest generalizing a c d with
  | nil =>
    have less : c < d := List.rel_of_pairwise_cons ascending List.mem_cons_self
    rw [inner_nil]
    refine .cell before ?_ (.cell ?_ ?_ (.last _))
    · linarith
    · linarith
    · linarith
  | cons e rest ih =>
    obtain ⟨ahead, tail⟩ := List.pairwise_cons.mp ascending
    have less : c < d := ahead d List.mem_cons_self
    rw [inner_cons]
    refine .cell before ?_ (ih ?_ tail)
    · linarith
    · linarith

theorem cellEdges_alternates {centers : List Rat} (ascending : centers.Pairwise (· < ·))
    (nonempty : centers ≠ []) : Alternates centers (cellEdges centers) := by
  match centers with
  | [] => exact absurd rfl nonempty
  | [c] =>
    rw [cellEdges_single]
    refine .cell ?_ ?_ (.last _)
    · linarith
    · linarith
  | c :: d :: rest =>
    have less : c < d := List.rel_of_pairwise_cons ascending List.mem_cons_self
    rw [cellEdges_cons]
    exact inner_alternates (by linarith) ascending

theorem cellEdges_tiles {centers : List Rat} (ascending : centers.Pairwise (· < ·))
    (nonempty : centers ≠ []) : Tiles centers (cellEdges centers) := by
  have turns := cellEdges_alternates ascending nonempty
  exact {
    count := length_cellEdges nonempty
    ascending := turns.ascending
    own := fun _ _ found => turns.own found
    single := fun _ _ _ _ _ found lower upper above below =>
      turns.single found lower upper above below }

-- One more centre behind the others moves the last edge and adds one.
theorem inner_concat {c d y : Rat} {rest : List Rat} (last : (d :: rest).getLast? = some y) (z : Rat) :
    cellEdges.inner c d (rest ++ [z]) =
      (cellEdges.inner c d rest).dropLast ++ [(y + z) / 2, z + (z - y) / 2] := by
  induction rest generalizing c d with
  | nil =>
    cases last
    rw [List.nil_append, inner_cons, inner_nil, inner_nil]
    rfl
  | cons e rest ih =>
    rw [List.getLast?_cons_cons] at last
    rw [List.cons_append, inner_cons, ih last, inner_cons,
      List.dropLast_cons_of_ne_nil (inner_ne_nil d e rest), List.cons_append]

theorem cellEdges_concat {centers : List Rat} (many : 2 ≤ centers.length) {y : Rat}
    (last : centers.getLast? = some y) (z : Rat) :
    cellEdges (centers ++ [z]) =
      (cellEdges centers).dropLast ++ [(y + z) / 2, z + (z - y) / 2] := by
  match centers with
  | c :: d :: rest =>
    rw [List.getLast?_cons_cons] at last
    rw [List.cons_append, List.cons_append, cellEdges_cons, inner_concat last, cellEdges_cons,
      List.dropLast_cons_of_ne_nil (inner_ne_nil c d rest), List.cons_append]

theorem cellEdges_reverse_cons (c d : Rat) (rest : List Rat) :
    cellEdges (c :: d :: rest).reverse = (cellEdges (c :: d :: rest)).reverse := by
  induction rest generalizing c d with
  | nil =>
    change cellEdges [d, c] = (cellEdges [c, d]).reverse
    rw [cellEdges_cons, inner_nil, cellEdges_cons, inner_nil]
    simp only [List.reverse_cons, List.reverse_nil, List.nil_append, List.cons_append, List.cons.injEq,
      and_true]
    refine ⟨?_, ?_, ?_⟩ <;> ring
  | cons e rest ih =>
    have last : (d :: e :: rest).reverse.getLast? = some d := by
      rw [List.getLast?_reverse, List.head?_cons]
    have many : 2 ≤ (d :: e :: rest).reverse.length := by
      rw [List.length_reverse]
      exact Nat.le_add_left 2 rest.length
    rw [List.reverse_cons, cellEdges_concat many last, ih, cellEdges_cons, cellEdges_cons, inner_cons]
    simp only [List.reverse_cons, List.dropLast_concat, List.append_assoc, List.singleton_append,
      List.append_cancel_left_eq, List.cons.injEq, and_true]
    refine ⟨?_, ?_⟩ <;> ring

theorem cellEdges_reverse {centers : List Rat} (plural : centers.length ≠ 1) :
    cellEdges centers = (cellEdges centers.reverse).reverse := by
  match centers with
  | [] => rfl
  | [c] => exact absurd rfl plural
  | c :: d :: rest => rw [cellEdges_reverse_cons, List.reverse_reverse]

-- The cells around ascending centres tile their axis, and those around descending ones are the mirror
-- image of the cells around the same centres in ascending order.
theorem cellEdges_tile (centers : List Rat) :
    (centers.Pairwise (· < ·) → centers ≠ [] → Tiles centers (cellEdges centers)) ∧
      (centers.Pairwise (· > ·) → centers.length ≠ 1 → (cellEdges centers).Pairwise (· > ·) ∧
        cellEdges centers = (cellEdges centers.reverse).reverse) := by
  refine ⟨cellEdges_tiles, ?_⟩
  intro descending plural
  have mirror := cellEdges_reverse plural
  refine ⟨?_, mirror⟩
  have turned : centers.reverse.Pairwise (· < ·) := List.pairwise_reverse.mpr descending
  rw [mirror, List.pairwise_reverse]
  by_cases empty : centers.reverse = []
  · rw [empty]
    exact .nil
  · exact (cellEdges_tiles turned empty).ascending

theorem cellEdges_tile_uneven :
    [(0 : Rat), 1, 3].Pairwise (· < ·) ∧ Tiles [0, 1, 3] [-1 / 2, 1 / 2, 2, 4] ∧
      [(3 : Rat), 1, 0].Pairwise (· > ·) ∧ [(4 : Rat), 2, 1 / 2, -1 / 2].Pairwise (· > ·) ∧
      cellEdges [(3 : Rat), 1, 0] = [4, 2, 1 / 2, -1 / 2] := by
  have upward : [(0 : Rat), 1, 3].Pairwise (· < ·) := by decide
  have downward : [(3 : Rat), 1, 0].Pairwise (· > ·) := by decide
  have edges : cellEdges [(0 : Rat), 1, 3] = [-1 / 2, 1 / 2, 2, 4] := by
    rw [cellEdges_cons, inner_cons, inner_nil]
    norm_num
  have tiled := (cellEdges_tile [0, 1, 3]).1 upward nofun
  obtain ⟨descending, mirror⟩ := (cellEdges_tile [3, 1, 0]).2 downward (by decide)
  have mirrored : cellEdges [(3 : Rat), 1, 0] = [4, 2, 1 / 2, -1 / 2] := by
    rw [mirror]
    change (cellEdges [(0 : Rat), 1, 3]).reverse = _
    rw [edges]
    rfl
  rw [edges] at tiled
  rw [mirrored] at descending
  exact ⟨upward, tiled, downward, descending, mirrored⟩

-- A single centre is in descending order too, and its edges are not their own mirror image.
theorem cellEdges_lone_ascend :
    [(2 : Rat)].Pairwise (· > ·) ∧ cellEdges [(2 : Rat)] = [3 / 2, 5 / 2] ∧
      ¬ (cellEdges [(2 : Rat)]).Pairwise (· > ·) ∧
      cellEdges [(2 : Rat)] ≠ (cellEdges [(2 : Rat)].reverse).reverse := by
  have edges : cellEdges [(2 : Rat)] = [3 / 2, 5 / 2] := by
    rw [cellEdges_single]
    norm_num
  refine ⟨List.pairwise_singleton .., edges, ?_, ?_⟩
  · rw [edges]
    norm_num
  · change cellEdges [(2 : Rat)] ≠ (cellEdges [(2 : Rat)]).reverse
    rw [edges]
    norm_num

end Labbook
