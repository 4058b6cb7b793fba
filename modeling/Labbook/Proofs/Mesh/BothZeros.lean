import Labbook.Proofs.Mesh.DroppedPoints
import Mathlib.Data.Nat.Find

namespace Labbook

namespace Binary64

theorem zero_behind : precedes 0 negativeZero = false := by decide +kernel

theorem zero_of_bits {v : Binary64} (bits : v.bits.toNat = 0) : v = 0 := eq_of_bits bits

-- Words that are equal without being the same are the two zeros.
theorem zeros_of_equals {a b : Binary64} (same : a.equals b = true) (differ : a ≠ b) :
    a = 0 ∧ b = negativeZero ∨ a = negativeZero ∧ b = 0 := by
  obtain ⟨-, -, index⟩ := equals_iff.mp same
  have boundA := a.bits.toNat_lt
  have boundB := b.bits.toNat_lt
  have zero : ∀ v : Binary64, v.orderIndex.toNat = 2 ^ 63 → v = 0 := by
    intro v place
    have bound := v.bits.toNat_lt
    rw [orderIndex_toNat] at place
    refine zero_of_bits ?_
    split at place <;> omega
  rw [valueIndex_toNat, valueIndex_toNat] at index
  split at index <;> split at index
  next signedA signedB => exact absurd (signedA.trans signedB.symm) differ
  next signedA _ => exact .inr ⟨signedA, zero b index.symm⟩
  next _ signedB => exact .inl ⟨zero a index, signedB⟩
  next => exact absurd (orderIndex_injective index) differ

end Binary64

namespace Setpoint
variable {values : List Binary64} {v : Binary64}

-- The place of the zeros goes to the one with a sign.
def Stands (values : List Binary64) (v : Binary64) : Prop :=
  v = 0 → Binary64.negativeZero ∉ values

instance (values : List Binary64) (v : Binary64) : Decidable (Stands values v) :=
  inferInstanceAs (Decidable (_ → _))

theorem mem_uniqueSorted_iff :
    v ∈ uniqueSorted values ↔ v ∈ values ∧ v.isNaN = false ∧ Stands values v := by
  constructor
  · intro distinct
    obtain ⟨member, measured⟩ := uniqueSorted_subset distinct
    refine ⟨member, measured, ?_⟩
    rintro rfl signed
    have before := uniqueSorted_first distinct signed (by decide +kernel)
    rw [Binary64.zero_behind] at before
    cases before
  · rintro ⟨member, measured, stands⟩
    obtain ⟨u, distinct, same, before⟩ := uniqueSorted_covers member measured
    by_cases word : u = v
    · exact word ▸ distinct
    · rcases Binary64.zeros_of_equals same word with ⟨rfl, rfl⟩ | ⟨rfl, rfl⟩
      · rw [Binary64.zero_behind] at before
        cases before
      · exact absurd (uniqueSorted_subset distinct).1 (stands rfl)

end Setpoint

namespace MeshData
variable {x y z : List Binary64} {i j : Nat}

-- Two samples have equal setpoints. Where there is no sample nothing is equal.
def Meets (x y : List Binary64) (i j : Nat) : Prop :=
  (x.getD j .nan).equals (x.getD i .nan) = true ∧ (y.getD j .nan).equals (y.getD i .nan) = true

instance (x y : List Binary64) : DecidableRel (Meets x y) :=
  fun _ _ => inferInstanceAs (Decidable (_ ∧ _))

def LastThere (x y : List Binary64) (i j : Nat) : Prop :=
  Meets x y i j ∧ ∀ k, Meets x y i k → k ≤ j

theorem exists_word {values : List Binary64} {v : Binary64} {place : Nat}
    (there : (values.getD place .nan).equals v = true) :
    ∃ u, values[place]? = some u ∧ u.equals v = true := by
  rw [List.getD_eq_getElem?_getD] at there
  cases found : values[place]? with
  | some u =>
    rw [found] at there
    exact ⟨u, rfl, there⟩
  | none =>
    rw [found] at there
    cases (Binary64.equals_iff.mp there).1

theorem Meets.inside (meets : Meets x y i j) : j < x.length ∧ j < y.length := by
  obtain ⟨_, foundX, -⟩ := exists_word meets.1
  obtain ⟨_, foundY, -⟩ := exists_word meets.2
  exact ⟨(List.getElem?_eq_some_iff.mp foundX).1, (List.getElem?_eq_some_iff.mp foundY).1⟩

theorem LastThere.unique {k : Nat} (last : LastThere x y i j) (other : LastThere x y i k) : j = k :=
  Nat.le_antisymm (other.2 j last.1) (last.2 k other.1)

theorem exists_lastThere (here : Meets x y i i) : ∃ j, LastThere x y i j := by
  refine ⟨Nat.findGreatest (Meets x y i) x.length,
    Nat.findGreatest_spec (Nat.le_of_lt here.inside.1) here, fun k meets => ?_⟩
  exact Nat.le_findGreatest (Nat.le_of_lt meets.inside.1) meets

def KeepsPlace (x y : List Binary64) (j : Nat) : Prop :=
  Setpoint.Stands x (x.getD j .nan) ∧ Setpoint.Stands y (y.getD j .nan)

instance (x y : List Binary64) (j : Nat) : Decidable (KeepsPlace x y j) :=
  inferInstanceAs (Decidable (_ ∧ _))

def LastKept (x y : List Binary64) (i j : Nat) : Prop :=
  (Meets x y i j ∧ KeepsPlace x y j) ∧ ∀ k, Meets x y i k → KeepsPlace x y k → k ≤ j

theorem LastThere.kept (last : LastThere x y i j) (keeps : KeepsPlace x y j) : LastKept x y i j :=
  ⟨⟨last.1, keeps⟩, fun k meets _ => last.2 k meets⟩

def PlaceOf (m : MeshData) (x y : List Binary64) (i row col : Nat) : Prop :=
  (m.x.getD col .nan).equals (x.getD i .nan) = true ∧ (m.y.getD row .nan).equals (y.getD i .nan) = true

-- The mesh has a place for a sample, and there stands what was measured last in it.
def Shows (m : MeshData) (x y z : List Binary64) (i : Nat) : Prop :=
  ∃ row col j, m.PlaceOf x y i row col ∧ LastThere x y i j ∧ m.z.get? row col = z[j]?

theorem exists_onAxis {column : List Binary64} (measured : ∀ v ∈ column, v.isNaN = false)
    (inside : i < column.length) :
    ∃ place, ((Setpoint.uniqueSorted column).getD place .nan).equals (column.getD i .nan) = true := by
  rw [List.getD_eq_getElem _ _ inside]
  have member := List.getElem_mem inside
  obtain ⟨u, distinct, same, -⟩ := Setpoint.uniqueSorted_covers member (measured _ member)
  obtain ⟨place, found⟩ := List.mem_iff_getElem?.mp distinct
  refine ⟨place, ?_⟩
  rw [List.getD_eq_getElem?_getD, found]
  exact same

theorem onAxis_unique {axis : List Binary64} (ascending : axis.Pairwise (· < ·)) {v : Binary64}
    {a b : Nat} (atA : (axis.getD a .nan).equals v = true) (atB : (axis.getD b .nan).equals v = true) :
    a = b := by
  obtain ⟨u, foundA, sameA⟩ := exists_word atA
  obtain ⟨w, foundB, sameB⟩ := exists_word atB
  have same := Setpoint.faithful_of_ascending ascending u (List.mem_of_getElem? foundA) w
    (List.mem_of_getElem? foundB) (Binary64.equals_trans sameA (Binary64.equals_symm sameB))
  have inside := (List.getElem?_eq_some_iff.mp foundA).1
  exact (List.getElem?_inj inside (ascending.imp Binary64.ne_of_lt)).mp
    (foundA.trans (same ▸ foundB.symm))

theorem PlaceOf.unique {row col r c : Nat} (place : (layOut x y z).PlaceOf x y i row col)
    {w : List Binary64} (other : (layOut x y w).PlaceOf x y i r c) : row = r ∧ col = c :=
  ⟨onAxis_unique (Setpoint.uniqueSorted_ascending y) place.2 other.2,
    onAxis_unique (Setpoint.uniqueSorted_ascending x) place.1 other.1⟩

theorem getD_of_getElem? {values : List Binary64} {v : Binary64} (found : values[j]? = some v) :
    values.getD j .nan = v := by
  rw [List.getD_eq_getElem?_getD, found]
  rfl

section Cell
variable {row col : Nat}

-- In the cell of a place there are samples with its setpoints, those that keep their place.
theorem cell?_iff_kept (place : (layOut x y z).PlaceOf x y i row col) {p : Point} {k : Nat}
    (atX : x[k]? = some p.1) (atY : y[k]? = some p.2.1) :
    cell? (layOut x y z).x (layOut x y z).y p = some (row, col) ↔
      Meets x y i k ∧ KeepsPlace x y k := by
  obtain ⟨v, onX, sameX⟩ := exists_word place.1
  obtain ⟨w, onY, sameY⟩ := exists_word place.2
  have cell := @cell?_iff (layOut x y z).x (layOut x y z).y (Setpoint.uniqueSorted_nodup x)
    (Setpoint.uniqueSorted_nodup y) p row col
  rw [cell, onX, onY, Option.some.injEq, Option.some.injEq]
  unfold Meets KeepsPlace
  rw [getD_of_getElem? atX, getD_of_getElem? atY]
  constructor
  · rintro ⟨-, -, rfl, rfl⟩
    exact ⟨⟨sameX, sameY⟩, (Setpoint.mem_uniqueSorted_iff.mp (List.mem_of_getElem? onX)).2.2,
      (Setpoint.mem_uniqueSorted_iff.mp (List.mem_of_getElem? onY)).2.2⟩
  · rintro ⟨⟨meetsX, meetsY⟩, standsX, standsY⟩
    have measuredX := (Binary64.equals_iff.mp meetsX).1
    have measuredY := (Binary64.equals_iff.mp meetsY).1
    refine ⟨measuredX, measuredY, ?_, ?_⟩
    · refine Setpoint.faithful_of_ascending (Setpoint.uniqueSorted_ascending y) w
        (List.mem_of_getElem? onY) _ ?_ (Binary64.equals_trans sameY (Binary64.equals_symm meetsY))
      exact Setpoint.mem_uniqueSorted_iff.mpr ⟨List.mem_of_getElem? atY, measuredY, standsY⟩
    · refine Setpoint.faithful_of_ascending (Setpoint.uniqueSorted_ascending x) v
        (List.mem_of_getElem? onX) _ ?_ (Binary64.equals_trans sameX (Binary64.equals_symm meetsX))
      exact Setpoint.mem_uniqueSorted_iff.mpr ⟨List.mem_of_getElem? atX, measuredX, standsX⟩

theorem layOut_place (place : (layOut x y z).PlaceOf x y i row col) :
    (layOut x y z).z.get? row col = some
      ((lastIn? (layOut x y z).x (layOut x y z).y (points x y z) (row, col)).getD .nan) := by
  obtain ⟨_, onX, -⟩ := exists_word place.1
  obtain ⟨_, onY, -⟩ := exists_word place.2
  exact layOut_get? (List.getElem?_eq_some_iff.mp onY).1 (List.getElem?_eq_some_iff.mp onX).1

theorem layOut_kept (place : (layOut x y z).PlaceOf x y i row col) (last : LastKept x y i j)
    (values : x.length ≤ z.length) : (layOut x y z).z.get? row col = z[j]? := by
  obtain ⟨kept, latest⟩ := last
  obtain ⟨insideX, insideY⟩ := kept.1.inside
  have insideZ := Nat.lt_of_lt_of_le insideX values
  have atX := List.getElem?_eq_getElem insideX
  have atY := List.getElem?_eq_getElem insideY
  have atZ := List.getElem?_eq_getElem insideZ
  have listed : (points x y z)[j]? = some (x[j], y[j], z[j]) :=
    getElem?_points.mpr ⟨atX, atY, atZ⟩
  have later : ∀ k q, j < k → (points x y z)[k]? = some q →
      cell? (layOut x y z).x (layOut x y z).y q ≠ some (row, col) := by
    intro k q after found here
    obtain ⟨alsoX, alsoY, -⟩ := getElem?_points.mp found
    obtain ⟨meets, keeps⟩ := (cell?_iff_kept place alsoX alsoY).mp here
    exact Nat.not_le_of_lt after (latest k meets keeps)
  rw [layOut_place place, lastIn?_last listed ((cell?_iff_kept place atX atY).mpr kept) later, atZ]
  rfl

theorem layOut_unkept (place : (layOut x y z).PlaceOf x y i row col)
    (off : ∀ k, Meets x y i k → ¬KeepsPlace x y k) :
    (layOut x y z).z.get? row col = some .nan := by
  have absent : ∀ p ∈ points x y z,
      cell? (layOut x y z).x (layOut x y z).y p ≠ some (row, col) := by
    intro p member here
    obtain ⟨k, atX, atY, -⟩ := mem_points.mp member
    obtain ⟨meets, keeps⟩ := (cell?_iff_kept place atX atY).mp here
    exact off k meets keeps
  rw [layOut_place place, lastIn?_eq_none absent]
  rfl

end Cell

theorem foldl_place_set {axisX axisY : List Binary64} {j : Nat}
    (off : ∀ value, cell? axisX axisY (x.getD j .nan, y.getD j .nan, value) = none) (c : Binary64)
    (grid : Grid Binary64) :
    (points x y (z.set j c)).foldl (place axisX axisY) grid =
      (points x y z).foldl (place axisX axisY) grid := by
  induction j generalizing x y z grid with
  | zero =>
    cases x <;> cases y <;> cases z <;> try rfl
    rename_i v _ w _ value _
    have skipped : ∀ value, place axisX axisY grid (v, w, value) = grid := by
      intro value
      rw [place_eq, show cell? axisX axisY (v, w, value) = none from off value]
    exact congrArg (List.foldl (place axisX axisY) · _) ((skipped c).trans (skipped value).symm)
  | succ j ih =>
    cases x <;> cases y <;> cases z <;> try rfl
    exact ih off _

theorem layOut_set (off : ¬KeepsPlace x y j) (c : Binary64) :
    layOut x y (z.set j c) = layOut x y z := by
  have skipped : ∀ value, cell? (Setpoint.uniqueSorted x) (Setpoint.uniqueSorted y)
      (x.getD j .nan, y.getD j .nan, value) = none := by
    intro value
    rw [Option.eq_none_iff_forall_ne_some]
    rintro ⟨row, col⟩ found
    obtain ⟨-, -, onY, onX⟩ :=
      (cell?_iff (Setpoint.uniqueSorted_nodup x) (Setpoint.uniqueSorted_nodup y)).mp found
    exact off ⟨(Setpoint.mem_uniqueSorted_iff.mp (List.mem_of_getElem? onX)).2.2,
      (Setpoint.mem_uniqueSorted_iff.mp (List.mem_of_getElem? onY)).2.2⟩
  exact eq_of_parts rfl rfl (foldl_place_set skipped c _)

-- A layout that shows a sample whatever is measured tells the values of its last sample apart.
theorem keepsPlace_of_shows (last : LastThere x y i j)
    (shows : ∀ z : List Binary64, z.length = x.length → (layOut x y z).Shows x y z i) :
    KeepsPlace x y j := by
  by_contra off
  let zeros : List Binary64 := List.replicate x.length 0
  have inside : j < zeros.length := List.length_replicate ▸ last.1.inside.1
  obtain ⟨row, col, k, place, also, cell⟩ := shows zeros List.length_replicate
  obtain ⟨r, c, l, other, again, changed⟩ :=
    shows (zeros.set j 1) (List.length_set.trans List.length_replicate)
  obtain ⟨rfl, rfl⟩ := place.unique other
  cases last.unique also
  cases last.unique again
  rw [layOut_set off, cell, List.getElem?_set_self inside, List.getElem?_eq_getElem inside,
    List.getElem_replicate] at changed
  revert changed
  decide +kernel

-- What a mesh shows: every sample has a place, and there stands the last one of those with its setpoints
-- that keep their place. A zero without a sign loses it to the other zero of its column, so a sample is
-- shown whatever is measured exactly when the last one with its setpoints is not such a zero.
theorem layOut_shows_iff (x y : List Binary64) (lengths : x.length = y.length)
    (measuredX : ∀ v ∈ x, v.isNaN = false) (measuredY : ∀ v ∈ y, v.isNaN = false) (i : Nat)
    (inside : i < x.length) :
    ∃ row col j, (∀ z, (layOut x y z).PlaceOf x y i row col) ∧ LastThere x y i j ∧
      ((∀ z : List Binary64, z.length = x.length → (layOut x y z).Shows x y z i) ↔
        KeepsPlace x y j) ∧
      ∀ z : List Binary64, z.length = x.length →
        (∀ k, LastKept x y i k → (layOut x y z).z.get? row col = z[k]?) ∧
        ((∀ k, Meets x y i k → ¬KeepsPlace x y k) →
          (layOut x y z).z.get? row col = some .nan) := by
  obtain ⟨col, onX⟩ := exists_onAxis measuredX inside
  obtain ⟨row, onY⟩ := exists_onAxis measuredY (lengths ▸ inside)
  have place : ∀ z, (layOut x y z).PlaceOf x y i row col := fun z => ⟨onX, onY⟩
  have here : Meets x y i i := by
    unfold Meets
    rw [List.getD_eq_getElem _ _ inside, List.getD_eq_getElem _ _ (lengths ▸ inside)]
    exact ⟨Binary64.equals_refl (measuredX _ (List.getElem_mem _)),
      Binary64.equals_refl (measuredY _ (List.getElem_mem _))⟩
  obtain ⟨j, last⟩ := exists_lastThere here
  refine ⟨row, col, j, place, last, ⟨keepsPlace_of_shows last, ?_⟩, ?_⟩
  · intro keeps z values
    exact ⟨row, col, j, place z, last,
      layOut_kept (place z) (last.kept keeps) (Nat.le_of_eq values.symm)⟩
  · intro z values
    exact ⟨fun k kept => layOut_kept (place z) kept (Nat.le_of_eq values.symm),
      fun off => layOut_unkept (place z) off⟩

-- The zero with a sign is measured after the other one, in the same place.
theorem layOut_shows_repeated_zero : KeepsPlace [0, .negativeZero] [3, 3] 1 ∧
    (layOut [0, .negativeZero] [3, 3] [5, 6]).Shows [0, .negativeZero] [3, 3] [5, 6] 0 := by
  have keeps : KeepsPlace [0, .negativeZero] [3, 3] 1 := by decide +kernel
  obtain ⟨-, -, j, -, last, shows, -⟩ := layOut_shows_iff [0, .negativeZero] [3, 3] rfl
    (by decide +kernel) (by decide +kernel) 0 (by decide)
  have meets : Meets [0, .negativeZero] [3, 3] 0 1 := by decide +kernel
  have one : j = 1 := Nat.le_antisymm (Nat.le_of_lt_succ last.1.inside.1) (last.2 1 meets)
  exact ⟨keeps, shows.mpr (one ▸ keeps) [5, 6] rfl⟩

-- A line over -1, 0 and 1, and a second one back over 1, -0 and -1.
def thereX : List Binary64 := [-1, 0, 1, 1, .negativeZero, -1]

def thereY : List Binary64 := [0, 0, 0, 1, 1, 1]

def thereZ : List Binary64 := [1, 2, 3, 4, 5, 6]

-- The middle of the first line is lost.
theorem layOut_drops_zero : (∀ v ∈ thereX, v.isNaN = false) ∧ (∀ v ∈ thereY, v.isNaN = false) ∧
    ¬(layOut thereX thereY thereZ).Shows thereX thereY thereZ 1 := by
  refine ⟨by decide +kernel, by decide +kernel, ?_⟩
  rintro ⟨row, col, j, place, ⟨meets, -⟩, shown⟩
  have alone : ∀ k < thereX.length, Meets thereX thereY 1 k → k = 1 ∧ ¬KeepsPlace thereX thereY k := by
    decide +kernel
  have off := layOut_unkept place fun k again => (alone k again.inside.1 again).2
  rw [(alone j meets.inside.1 meets).1, off] at shown
  revert shown
  decide +kernel

end MeshData

end Labbook
