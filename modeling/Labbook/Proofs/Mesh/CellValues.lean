import Labbook.Proofs.Mesh.MeshAxes

namespace Labbook

namespace MeshData
variable {m : MeshData} {zs more : List Binary64}

-- The cells of a mesh take their values from measured samples.
def CellsFrom (m : MeshData) (zs : List Binary64) : Prop := ∀ v ∈ m.z.toList, v = .nan ∨ v ∈ zs

theorem CellsFrom.mono (cells : m.CellsFrom zs) (subset : ∀ v ∈ zs, v ∈ more) : m.CellsFrom more := by
  intro v member
  exact (cells v member).imp_right (subset v)

theorem place_cells {axisX axisY : List Binary64} {g : Grid Binary64} {p : Point} {v : Binary64}
    (member : v ∈ (place axisX axisY g p).toList) : v = p.2.2 ∨ v ∈ g.toList := by
  unfold place at member
  dsimp only at member
  split at member
  · exact .inr member
  · split at member
    · exact Grid.mem_set member
    · exact .inr member

theorem foldl_place_cells {axisX axisY : List Binary64} {points : List Point} {g : Grid Binary64}
    {v : Binary64} (member : v ∈ (points.foldl (place axisX axisY) g).toList) :
    v ∈ points.map (·.2.2) ∨ v ∈ g.toList := by
  induction points generalizing g with
  | nil => exact .inr member
  | cons p rest ih =>
    rcases ih member with later | earlier
    · exact .inl (List.mem_cons_of_mem _ later)
    · rcases place_cells earlier with rfl | old
      · exact .inl List.mem_cons_self
      · exact .inr old

theorem mem_values_of_points {x y z : List Binary64} {v : Binary64}
    (member : v ∈ (points x y z).map (·.2.2)) : v ∈ z := by
  obtain ⟨p, listed, rfl⟩ := List.mem_map.mp member
  exact (List.of_mem_zip (List.of_mem_zip listed).2).2

theorem layOut_cells (x y z : List Binary64) : (layOut x y z).CellsFrom z := by
  intro v member
  rcases foldl_place_cells member with placed | unmeasured
  · exact .inr (mem_values_of_points placed)
  · exact .inl (Grid.mem_replicate unmeasured)

theorem clipUnmeasured_cells (x y z : Grid Binary64) : (clipUnmeasured x y z).CellsFrom z.toList := by
  unfold clipUnmeasured
  split
  · intro v member
    obtain ⟨b, a, same⟩ := Grid.mem_ofFn member
    cases found : z.get? ((measuredAt x.firstColumn).getD a 0) ((measuredAt y.firstRow).getD b 0) with
    | none =>
      rw [found] at same
      exact .inl same
    | some w =>
      rw [found] at same
      cases same
      exact .inr (Grid.mem_toList_of_get? found)
  · apply (layOut_cells _ _ _).mono
    intro v member
    obtain ⟨p, kept, rfl⟩ := List.mem_map.mp member
    exact mem_values_of_points (List.mem_map_of_mem (List.mem_filter.mp kept).1)

end MeshData

namespace Triple
variable {t : Triple} {xs ys zs : AxisValues} {m : MeshData}

theorem meshData_cells (done : t.meshData xs ys zs = .ok m) : m.CellsFrom zs.values := by
  unfold meshData at done
  split at done
  · split at done
    · obtain ⟨xg, -, done⟩ := Outcome.bind_eq_ok.mp done
      obtain ⟨yg, -, done⟩ := Outcome.bind_eq_ok.mp done
      obtain ⟨zg, madeZ, done⟩ := Outcome.bind_eq_ok.mp done
      cases done
      rw [← shaped_toList madeZ]
      exact MeshData.clipUnmeasured_cells xg yg zg
    · cases done
      exact MeshData.layOut_cells _ _ _
  · cases done
    exact MeshData.layOut_cells _ _ _

end Triple

end Labbook
