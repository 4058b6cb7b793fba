import Labbook.Proofs.Mesh.Clipping
import Labbook.Proofs.Plot.Failures

namespace Labbook

theorem Grid.firstColumn_subset {α : Type} {g : Grid α} {v : α} (member : v ∈ g.firstColumn) :
    v ∈ g.toList := by
  obtain ⟨row, -, found⟩ := List.mem_filterMap.mp member
  exact mem_toList_of_get? found

theorem Grid.firstRow_subset {α : Type} {g : Grid α} {v : α} (member : v ∈ g.firstRow) :
    v ∈ g.toList := by
  obtain ⟨col, -, found⟩ := List.mem_filterMap.mp member
  exact mem_toList_of_get? found

namespace MeshData
variable {m : MeshData} {xs ys : List Binary64}

structure AxesFrom (m : MeshData) (xs ys : List Binary64) : Prop where
  x : ∀ v ∈ m.x, v ∈ xs ∧ v.isNaN = false
  y : ∀ v ∈ m.y, v ∈ ys ∧ v.isNaN = false

theorem AxesFrom.mono {moreX moreY : List Binary64} (axes : m.AxesFrom xs ys)
    (x : ∀ v ∈ xs, v ∈ moreX) (y : ∀ v ∈ ys, v ∈ moreY) : m.AxesFrom moreX moreY :=
  ⟨fun v member => ⟨x v (axes.x v member).1, (axes.x v member).2⟩,
    fun v member => ⟨y v (axes.y v member).1, (axes.y v member).2⟩⟩

theorem layOut_axes (x y z : List Binary64) : (layOut x y z).AxesFrom x y :=
  ⟨fun _ => Setpoint.uniqueSorted_subset, fun _ => Setpoint.uniqueSorted_subset⟩

theorem clipUnmeasured_axesFrom (x y z : Grid Binary64) :
    (clipUnmeasured x y z).AxesFrom x.toList y.toList := by
  cases rectilinear : isRectilinear x y with
  | true =>
    obtain ⟨axisX, axisY⟩ := @clipUnmeasured_axes x y z rectilinear
    refine ⟨?_, ?_⟩
    · intro v member
      rw [axisX, Setpoint.mem_measured] at member
      exact ⟨Grid.firstColumn_subset member.1, member.2⟩
    · intro v member
      rw [axisY, Setpoint.mem_measured] at member
      exact ⟨Grid.firstRow_subset member.1, member.2⟩
  | false =>
    unfold clipUnmeasured
    rw [rectilinear]
    refine (layOut_axes _ _ _).mono ?_ ?_
    · intro v member
      obtain ⟨point, measured, rfl⟩ := List.mem_map.mp member
      exact (List.of_mem_zip (List.mem_filter.mp measured).1).1
    · intro v member
      obtain ⟨point, measured, rfl⟩ := List.mem_map.mp member
      exact (List.of_mem_zip (List.of_mem_zip (List.mem_filter.mp measured).1).2).1

end MeshData

namespace Triple
variable {t : Triple} {xs ys zs : AxisValues} {m : MeshData}

theorem shaped_toList {rows cols : Nat} {values : AxisValues} {g : Grid Binary64}
    (done : shaped rows cols values = .ok g) : g.toList = values.values := by
  unfold shaped Grid.ofList? at done
  split at done
  next grid made =>
    cases done
    split at made
    · cases made
      rfl
    · cases made
  next => cases done

theorem meshData_axes (done : t.meshData xs ys zs = .ok m) : m.AxesFrom xs.values ys.values := by
  unfold meshData at done
  split at done
  · split at done
    · obtain ⟨xg, madeX, done⟩ := Outcome.bind_eq_ok.mp done
      obtain ⟨yg, madeY, done⟩ := Outcome.bind_eq_ok.mp done
      obtain ⟨zg, -, done⟩ := Outcome.bind_eq_ok.mp done
      cases done
      rw [← shaped_toList madeX, ← shaped_toList madeY]
      exact MeshData.clipUnmeasured_axesFrom xg yg zg
    · cases done
      exact MeshData.layOut_axes _ _ _
  · cases done
    exact MeshData.layOut_axes _ _ _

theorem meshData_ascending (free : t.z.shape = none) (done : t.meshData xs ys zs = .ok m) :
    m.x.Pairwise (· < ·) ∧ m.y.Pairwise (· < ·) := by
  unfold meshData at done
  rw [free] at done
  cases done
  exact ⟨Setpoint.uniqueSorted_ascending _, Setpoint.uniqueSorted_ascending _⟩

end Triple

end Labbook
