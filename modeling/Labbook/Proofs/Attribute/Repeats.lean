import Labbook.Proofs.Attribute.Subclass
import Mathlib.Data.List.Chain

namespace Labbook

namespace Registry
variable {r : Registry} {name base : String}

theorem depthFirst_extends (todo order : List String) :
    ∃ added, r.depthFirst todo order = order ++ added ∧ (order.Nodup → (order ++ added).Nodup) := by
  induction todo, order using depthFirst_induction (r := r) with
  | done order =>
    rw [depthFirst_nil]
    exact ⟨[], (List.append_nil order).symm, fun nodup => by rwa [List.append_nil]⟩
  | seen base rest order present ih =>
    rw [depthFirst_seen present]
    exact ih
  | fresh base rest order absent ih =>
    rw [depthFirst_fresh absent]
    obtain ⟨added, walked, distinct⟩ := ih
    rw [List.append_assoc] at walked distinct
    refine ⟨base :: added, walked, fun nodup => distinct ?_⟩
    rw [← List.concat_eq_append]
    exact nodup.concat absent

-- The orders that a class gets from its bases: each is cut where it comes back to the class.
def ordersBelow (r : Registry) (name : String) : List (List String) :=
  (r.basesOf name).map (r.linearize [name]) ++ [r.basesOf name]

theorem mro_eq (r : Registry) (name : String) :
    r.mro name = r.orderFrom name ((r.basesOf name).map (r.linearize [name])) :=
  linearize_fresh List.not_mem_nil

-- A way up to a class can be taken without leaving that class on it.
theorem Reaches.climbs (reached : r.Reaches base name) : r.Climbs [name] base name := by
  induction reached using Relation.TransGen.head_induction_on with
  | @single base member =>
    by_cases same : base = name
    · rw [same]
      exact .refl
    · exact .single ⟨mt List.mem_singleton.mp same, member⟩
  | @head base next member _ ih =>
    by_cases same : base = name
    · rw [same]
      exact .refl
    · exact .head ⟨mt List.mem_singleton.mp same, member⟩ ih

theorem mem_ordersBelow : (∃ s ∈ r.ordersBelow name, name ∈ s) ↔ r.Reaches name name := by
  constructor
  · rintro ⟨s, present, inside⟩
    rcases List.mem_append.mp present with order | last
    · obtain ⟨base, member, rfl⟩ := List.mem_map.mp order
      exact reaches_iff.mpr ⟨base, member, (linearize_sound [name] base name inside).imp_left Eq.symm⟩
    · rw [List.mem_singleton.mp last] at inside
      exact reaches_base inside
  · intro cycle
    obtain ⟨base, member, back⟩ := reaches_iff.mp cycle
    have climbs : r.Climbs [name] base name := by
      rcases back with rfl | further
      · exact .refl
      · exact further.climbs
    exact ⟨r.linearize [name] base, List.mem_append_left _ (List.mem_map_of_mem member),
      linearize_complete [name] base name climbs⟩

-- No class but the first is ever repeated, and the first once at most. It is repeated exactly when it is
-- its own ancestor and some order without repeats contains those of its bases.
theorem mro_nodup_iff (r : Registry) (name : String) :
    (∃ rest, r.mro name = name :: rest ∧ rest.Nodup) ∧
      ((r.mro name).Nodup ↔
        ¬ (r.Reaches name name ∧ ∃ order, IsCommonOrder (r.ordersBelow name) order)) := by
  cases outcome : mergeOrders (r.ordersBelow name) with
  | some merged =>
    obtain ⟨common, members⟩ := mergeOrders_sound outcome
    have order : r.mro name = name :: merged := by rw [mro_eq, orderFrom_merged outcome]
    refine ⟨⟨merged, order, common.nodup⟩, ?_⟩
    rw [order, List.nodup_cons, members, mem_ordersBelow]
    exact ⟨fun ⟨above, _⟩ both => above both.1,
      fun apart => ⟨fun cycle => apart ⟨cycle, merged, common⟩, common.nodup⟩⟩
  | none =>
    obtain ⟨added, walked, distinct⟩ := depthFirst_extends (r := r) (r.basesOf name) [name]
    have order : r.mro name = name :: added := by rw [mro_eq, orderFrom_stuck outcome, walked]; rfl
    have nodup : (name :: added).Nodup := distinct (List.nodup_singleton name)
    refine ⟨⟨added, order, nodup.of_cons⟩, ?_⟩
    rw [order]
    refine iff_of_true nodup ?_
    rintro ⟨-, common⟩
    obtain ⟨merged, found⟩ := mergeOrders_complete common.choose_spec
    rw [outcome] at found
    cases found

-- A driver that is named like the driver it is derived from in another module.
def namesake : Registry := ofSources [("dac.py", "class Dac(drivers.Dac): pass\n")]

theorem mro_repeats_class : namesake.mro "Dac" = ["Dac", "Dac"] ∧ ¬ (namesake.mro "Dac").Nodup := by
  have order : namesake.mro "Dac" = ["Dac", "Dac"] := by decide +kernel
  rw [order]
  decide

-- Orders that agree with one among them are merged into that one.
theorem mergeOrders_covering {sequences : List (List String)} {order : List String}
    (common : IsCommonOrder sequences order) (listed : order ∈ sequences) :
    mergeOrders sequences = some order := by
  obtain ⟨merged, found⟩ := mergeOrders_complete common
  obtain ⟨kept, members⟩ := mergeOrders_sound found
  have inside : ∀ c ∈ merged, c ∈ order := by
    intro c member
    obtain ⟨s, present, here⟩ := (members c).mp member
    exact (common.keeps s present).subset here
  have same : merged.Perm order := (List.perm_ext_iff_of_nodup kept.nodup common.nodup).mpr
    fun c => ⟨inside c, fun member => (members c).mpr ⟨order, listed, member⟩⟩
  rw [found, (kept.keeps order listed).eq_of_length same.length_eq.symm]

theorem orderFrom_only {each : String → List String} {order : List String}
    (only : r.basesOf name = [base]) (below : each base = order) (nodup : order.Nodup)
    (starts : base ∈ order.head?) :
    r.orderFrom name ((r.basesOf name).map each) = name :: order := by
  refine orderFrom_merged ?_
  rw [only, List.map_singleton, below]
  refine mergeOrders_covering ⟨nodup, fun s present => ?_⟩ List.mem_cons_self
  rcases List.mem_pair.mp present with rfl | rfl
  · exact List.Sublist.refl _
  · exact List.singleton_sublist.mpr (List.mem_of_mem_head? starts)

-- Each class of a line has the next one as its only base.
def Line (r : Registry) (line : List String) : Prop :=
  line.IsChain fun c base => r.basesOf c = [base]

variable {line : List String} {last : String}

theorem exists_next (line : List String) (last : String) : ∃ next, next ∈ (line ++ [last]).head? := by
  cases line <;> exact ⟨_, rfl⟩

theorem nodup_toward (nodup : line.Nodup) (apart : last ∉ line) : (line ++ [last]).Nodup := by
  rw [← List.concat_eq_append]
  exact nodup.concat apart

-- A line of new classes is listed up to the class of the path that it leads to.
theorem linearize_line {path : List String} (leads : r.Line (line ++ [last])) (nodup : line.Nodup)
    (fresh : ∀ c ∈ line, c ∉ path) (met : last ∈ path) :
    ∀ c ∈ (line ++ [last]).head?, r.linearize path c = line ++ [last] := by
  induction line generalizing path with
  | nil =>
    rintro c ⟨⟩
    exact linearize_met met
  | cons first rest ih =>
    rintro c ⟨⟩
    obtain ⟨new, distinct⟩ := List.nodup_cons.mp nodup
    obtain ⟨only, further⟩ := List.isChain_cons.mp leads
    obtain ⟨next, starts⟩ := exists_next rest last
    have freshRest : ∀ c ∈ rest, c ∉ first :: path := by
      intro c member onPath
      rcases List.mem_cons.mp onPath with rfl | earlier
      · exact new member
      · exact fresh c (List.mem_cons_of_mem _ member) earlier
    have apart : last ∉ rest := fun member => fresh last (List.mem_cons_of_mem _ member) met
    rw [linearize_fresh (fresh first List.mem_cons_self)]
    exact orderFrom_only (only next starts)
      (ih further distinct freshRest (List.mem_cons_of_mem _ met) next starts)
      (nodup_toward distinct apart) starts

-- However long a cycle of classes with one base each is, the order of a class goes round it and comes
-- back to the class.
theorem mro_of_cycle (cycle : r.Line (name :: line ++ [name])) (nodup : (name :: line).Nodup) :
    r.mro name = name :: line ++ [name] := by
  obtain ⟨apart, distinct⟩ := List.nodup_cons.mp nodup
  obtain ⟨only, further⟩ := List.isChain_cons.mp cycle
  obtain ⟨next, starts⟩ := exists_next line name
  have fresh : ∀ c ∈ line, c ∉ [name] := by
    intro c member same
    exact apart (List.mem_singleton.mp same ▸ member)
  rw [mro_eq]
  exact orderFrom_only (only next starts)
    (linearize_line further distinct fresh (List.mem_singleton_self name) next starts)
    (nodup_toward distinct apart) starts

end Registry

end Labbook
