import Labbook.Proofs.Attribute.Ancestors
import Labbook.Proofs.Attribute.Merge

namespace Labbook

section
variable {α : Type} [DecidableEq α]

theorem nodup_eraseDups (items : List α) : items.eraseDups.Nodup := by
  induction h : items.length using Nat.strongRecOn generalizing items with
  | ind length ih =>
    subst h
    cases items with
    | nil => exact List.nodup_nil
    | cons a rest =>
      rw [List.eraseDups_cons, List.nodup_cons]
      refine ⟨?_, ih _ (Nat.lt_succ_of_le (List.length_filter_le _ _)) _ rfl⟩
      intro member
      simpa using (List.mem_filter.mp (List.mem_eraseDups.mp member)).2

theorem eraseDups_of_nodup {items : List α} (nodup : items.Nodup) : items.eraseDups = items := by
  induction items with
  | nil => rfl
  | cons a rest ih =>
    obtain ⟨fresh, nodup⟩ := List.nodup_cons.mp nodup
    have kept : (rest.filter fun b => !b == a) = rest := by
      refine List.filter_eq_self.mpr fun b member => ?_
      have other : b ≠ a := fun same => fresh (same ▸ member)
      simpa using other
    rw [List.eraseDups_cons, kept, ih nodup]

-- Repeats of what is there already change nothing.
theorem eraseDups_append_seen {order seen : List α} (all : ∀ a ∈ seen, a ∈ order) (items : List α) :
    (order ++ (seen ++ items)).eraseDups = (order ++ items).eraseDups := by
  have absorbed : (seen ++ items).removeAll order = items.removeAll order := by
    unfold List.removeAll
    rw [List.filter_append, List.filter_eq_nil_iff.mpr, List.nil_append]
    intro a member
    simpa using all a member
  rw [List.eraseDups_append, absorbed, ← List.eraseDups_append]

theorem eraseDups_append_left (order items : List α) :
    (order.eraseDups ++ items).eraseDups = (order ++ items).eraseDups := by
  have sameNames : items.removeAll order.eraseDups = items.removeAll order := by
    unfold List.removeAll
    refine List.filter_congr fun a _ => ?_
    rw [List.elem_eq_mem, List.elem_eq_mem, decide_eq_decide.mpr List.mem_eraseDups]
  rw [List.eraseDups_append, List.eraseDups_append, eraseDups_of_nodup (nodup_eraseDups order),
    sameNames]

end

namespace Registry
variable {r : Registry} {name base : String}

theorem depthFirst_nil (order : List String) : r.depthFirst [] order = order := by
  rw [depthFirst]

theorem depthFirst_seen {rest order : List String} (seen : base ∈ order) :
    r.depthFirst (base :: rest) order = r.depthFirst rest order := by
  rw [depthFirst, if_pos seen]

theorem basesOf_unknown (unknown : ¬ (r.get? base).isSome) : r.basesOf base = [] := by
  unfold basesOf
  split
  next found => rw [found] at unknown; exact absurd rfl unknown
  next => rfl

theorem depthFirst_fresh {rest order : List String} (fresh : base ∉ order) :
    r.depthFirst (base :: rest) order = r.depthFirst (r.basesOf base ++ rest) (order ++ [base]) := by
  rw [depthFirst, if_neg fresh]
  split
  next => rfl
  next unknown => rw [basesOf_unknown unknown, List.nil_append]

-- The invariant of the walk. Classes that are still on the way down break it, but they are not met
-- again.
def Settled (r : Registry) (walk order : List String) : Prop :=
  ∀ c ∈ walk, c ∈ order → ∀ above, r.Reaches c above → above ∈ order

section
variable {above others order : List String}

theorem Settled.seen (settled : r.Settled (base :: above ++ others) order)
    (up : r.Preorder (r.basesOf base) above) (seen : base ∈ order) :
    ∀ c ∈ base :: above, c ∈ order := by
  intro c member
  rcases List.mem_cons.mp member with rfl | further
  · exact seen
  · exact settled base List.mem_cons_self seen c (up.mem_above.mp further)

theorem Settled.later (settled : r.Settled (base :: above ++ others) order) :
    r.Settled others order :=
  fun c member => settled c (List.mem_append_right _ member)

theorem Settled.up (settled : r.Settled (base :: above ++ others) order)
    (up : r.Preorder (r.basesOf base) above) (acyclic : r.Acyclic base) :
    r.Settled above (order ++ [base]) := by
  intro c member present d further
  rcases List.mem_append.mp present with earlier | last
  · have walked : c ∈ base :: above ++ others :=
      List.mem_append_left _ (List.mem_cons_of_mem _ member)
    exact List.mem_append_left _ (settled c walked earlier d further)
  · rw [List.mem_singleton.mp last] at member
    exact absurd (up.mem_above.mp member) acyclic.irrefl

theorem Settled.next (settled : r.Settled (base :: above ++ others) order)
    (up : r.Preorder (r.basesOf base) above) :
    r.Settled others (order ++ [base] ++ above).eraseDups := by
  intro c member present d further
  rw [List.mem_eraseDups, List.mem_append, List.mem_append, List.mem_singleton] at present ⊢
  rcases present with (earlier | rfl) | higher
  · exact .inl (.inl (settled.later c member earlier d further))
  · exact .inr (up.mem_above.mpr further)
  · exact .inr (up.mem_above.mpr ((up.mem_above.mp higher).trans further))

end

theorem depthFirst_walk {todo walk : List String} (walked : r.Preorder todo walk)
    (acyclic : ∀ base ∈ todo, r.Acyclic base) {order : List String} (nodup : order.Nodup)
    (settled : r.Settled walk order) (rest : List String) :
    r.depthFirst (todo ++ rest) order = r.depthFirst rest (order ++ walk).eraseDups := by
  induction walked generalizing order rest with
  | nil => rw [List.append_nil, eraseDups_of_nodup nodup, List.nil_append]
  | @cons base more above others up next ihUp ihNext =>
    have acyclicBase := acyclic base List.mem_cons_self
    have acyclicMore := fun c member => acyclic c (List.mem_cons_of_mem base member)
    rw [List.cons_append]
    by_cases seen : base ∈ order
    · rw [depthFirst_seen seen, ihNext acyclicMore nodup settled.later,
        eraseDups_append_seen (settled.seen up seen)]
    · have grown : (order ++ [base]).Nodup := by
        refine List.nodup_append.mpr ⟨nodup, List.nodup_singleton base, ?_⟩
        rintro a member b last rfl
        exact seen (List.mem_singleton.mp last ▸ member)
      rw [depthFirst_fresh seen, ihUp (fun c => acyclicBase.of_base) grown (settled.up up acyclicBase),
        ihNext acyclicMore (nodup_eraseDups _) (settled.next up), eraseDups_append_left]
      simp only [List.append_assoc, List.cons_append, List.nil_append]

theorem linearize_fresh {path : List String} (fresh : name ∉ path) :
    r.linearize path name =
      r.orderFrom name ((r.basesOf name).map (r.linearize (name :: path))) := by
  rw [linearize, if_neg fresh]
  congr 1
  exact List.attach_map_val

-- The path only ends a branch that comes back to it, which none does.
theorem linearize_acyclic (acyclic : r.Acyclic name) {path : List String}
    (clear : ∀ c ∈ path, c ≠ name ∧ ¬ r.Reaches name c) :
    r.linearize path name = r.orderFrom name ((r.basesOf name).map r.mro) := by
  induction acyclic using Acyclic.induction generalizing path with
  | step name acyclic ih =>
    have fresh : name ∉ path := fun onPath => (clear name onPath).1 rfl
    rw [linearize_fresh fresh]
    congr 1
    refine List.map_congr_left fun base member => ?_
    have clearBase : ∀ c ∈ name :: path, c ≠ base ∧ ¬ r.Reaches base c := by
      intro c onPath
      have notAbove : ¬ r.Reaches name c := by
        rcases List.mem_cons.mp onPath with rfl | earlier
        · exact acyclic.irrefl
        · exact (clear c earlier).2
      exact ⟨fun same => notAbove (same ▸ reaches_base member),
        fun further => notAbove (.head member further)⟩
    change r.linearize (name :: path) base = r.linearize [] base
    rw [ih base member clearBase]
    exact (ih base member fun c onPath => absurd onPath List.not_mem_nil).symm

theorem mro_acyclic (acyclic : r.Acyclic name) :
    r.mro name = r.orderFrom name ((r.basesOf name).map r.mro) :=
  linearize_acyclic acyclic fun _ onPath => absurd onPath List.not_mem_nil

def parentOrders (r : Registry) (name : String) : List (List String) :=
  (r.basesOf name).map r.mro ++ [r.basesOf name]

theorem orderFrom_merged {orders : List (List String)} {merged : List String}
    (found : mergeOrders (orders ++ [r.basesOf name]) = some merged) :
    r.orderFrom name orders = name :: merged := by
  unfold orderFrom
  rw [found]

theorem orderFrom_stuck {orders : List (List String)}
    (stuck : mergeOrders (orders ++ [r.basesOf name]) = none) :
    r.orderFrom name orders = r.depthFirst (r.basesOf name) [name] := by
  unfold orderFrom
  rw [stuck]

theorem mro_merged (acyclic : r.Acyclic name) {merged : List String}
    (found : mergeOrders (r.parentOrders name) = some merged) : r.mro name = name :: merged := by
  rw [mro_acyclic acyclic, orderFrom_merged found]

theorem mro_walked (acyclic : r.Acyclic name) (stuck : mergeOrders (r.parentOrders name) = none) :
    ∃ walk, r.Preorder (r.basesOf name) walk ∧ r.mro name = name :: walk.eraseDups := by
  obtain ⟨walk, walked⟩ := acyclic.exists_preorder
  refine ⟨walk, walked, ?_⟩
  have absent : name ∉ walk := fun member =>
    acyclic.irrefl (reaches_iff.mpr (walked.mem_iff.mp member))
  have settled : r.Settled walk [name] := by
    intro c member same
    rw [List.mem_singleton.mp same] at member
    exact absurd member absent
  have visited := depthFirst_walk walked (fun base => acyclic.of_base) (List.nodup_singleton name)
    settled []
  rw [List.append_nil, depthFirst_nil] at visited
  rw [mro_acyclic acyclic, orderFrom_stuck stuck, visited, List.singleton_append, List.eraseDups_cons,
    List.filter_eq_self.mpr]
  intro c member
  have other : c ≠ name := fun same => absent (same ▸ member)
  simpa using other

-- The names that are merged are those above the class, when each base has its own in its order.
theorem mem_parentOrders
    (each : ∀ base ∈ r.basesOf name, ∀ c, c ∈ r.mro base ↔ c = base ∨ r.Reaches base c) (c : String) :
    (∃ s ∈ r.parentOrders name, c ∈ s) ↔ r.Reaches name c := by
  rw [reaches_iff]
  constructor
  · rintro ⟨s, present, inside⟩
    rcases List.mem_append.mp present with order | last
    · obtain ⟨base, member, rfl⟩ := List.mem_map.mp order
      exact ⟨base, member, ((each base member c).mp inside).imp_left Eq.symm⟩
    · rw [List.mem_singleton.mp last] at inside
      exact ⟨c, inside, .inl rfl⟩
  · rintro ⟨base, member, above⟩
    exact ⟨r.mro base, List.mem_append_left _ (List.mem_map_of_mem member),
      (each base member c).mpr (above.imp_left Eq.symm)⟩

-- Every order has the class in front and everything above it behind, whether it was merged or walked.
theorem mro_ancestors (acyclic : r.Acyclic name) :
    ∃ rest, r.mro name = name :: rest ∧ rest.Nodup ∧ ∀ c, c ∈ rest ↔ r.Reaches name c := by
  induction acyclic using Acyclic.induction with
  | step name acyclic ih =>
    cases outcome : mergeOrders (r.parentOrders name) with
    | some merged =>
      obtain ⟨common, members⟩ := mergeOrders_sound outcome
      refine ⟨merged, mro_merged acyclic outcome, common.nodup, ?_⟩
      intro c
      refine (members c).trans (mem_parentOrders ?_ c)
      intro base member c
      obtain ⟨rest, order, -, above⟩ := ih base member
      rw [order, List.mem_cons, above]
    | none =>
      obtain ⟨walk, walked, order⟩ := mro_walked acyclic outcome
      refine ⟨walk.eraseDups, order, nodup_eraseDups walk, ?_⟩
      intro c
      rw [List.mem_eraseDups, walked.mem_iff, ← reaches_iff]

-- An order that contains those of all bases and the bases themselves is found whenever there is one;
-- the depth-first walk stands in only when there is none.
theorem mro_of_acyclic (acyclic : r.Acyclic name) :
    (∃ rest, r.mro name = name :: rest ∧ (r.mro name).Nodup ∧ ∀ c, c ∈ rest ↔ r.Reaches name c) ∧
      ((∃ order, IsCommonOrder ((r.basesOf name).map r.mro ++ [r.basesOf name]) order) →
        (∀ base ∈ r.basesOf name, (r.mro base).Sublist (r.mro name)) ∧
          (r.basesOf name).Sublist (r.mro name)) ∧
      ((¬ ∃ order, IsCommonOrder ((r.basesOf name).map r.mro ++ [r.basesOf name]) order) →
        ∃ walk, r.Preorder (r.basesOf name) walk ∧ r.mro name = name :: walk.eraseDups) := by
  refine ⟨?_, ?_, ?_⟩
  · obtain ⟨rest, order, nodup, above⟩ := mro_ancestors acyclic
    refine ⟨rest, order, ?_, above⟩
    rw [order, List.nodup_cons]
    exact ⟨fun member => acyclic.irrefl ((above name).mp member), nodup⟩
  · rintro ⟨order, common⟩
    obtain ⟨merged, found⟩ := mergeOrders_complete common
    have keeps : ∀ s ∈ r.parentOrders name, s.Sublist (r.mro name) := by
      intro s present
      rw [mro_merged acyclic found]
      exact ((mergeOrders_sound found).1.keeps s present).cons name
    exact ⟨fun base member => keeps _ (List.mem_append_left _ (List.mem_map_of_mem member)),
      keeps _ (List.mem_append_right _ (List.mem_singleton_self _))⟩
  · intro inconsistent
    refine mro_walked acyclic ?_
    cases outcome : mergeOrders (r.parentOrders name) with
    | none => rfl
    | some merged => exact absurd ⟨merged, (mergeOrders_sound outcome).1⟩ inconsistent

def diamond : Registry where
  classes :=
    [⟨"Shared", [], "", [], ""⟩, ⟨"Left", ["Shared"], "", [], ""⟩, ⟨"Right", ["Shared"], "", [], ""⟩,
      ⟨"Both", ["Left", "Right"], "", [], ""⟩]

theorem mro_of_acyclic_diamond : diamond.Acyclic "Both" ∧
    (∃ rest, diamond.mro "Both" = "Both" :: rest ∧ (diamond.mro "Both").Nodup ∧
      ∀ c, c ∈ rest ↔ diamond.Reaches "Both" c) ∧
    (∀ base ∈ diamond.basesOf "Both", (diamond.mro base).Sublist (diamond.mro "Both")) ∧
      (diamond.basesOf "Both").Sublist (diamond.mro "Both") := by
  have acyclic : diamond.Acyclic "Both" :=
    acyclic_of_rank (fun name => if name = "Both" then 2 else if name = "Shared" then 0 else 1)
      (by decide) "Both"
  have common : IsCommonOrder
      ((diamond.basesOf "Both").map diamond.mro ++ [diamond.basesOf "Both"])
      ["Left", "Right", "Shared"] := ⟨by decide, by decide +kernel⟩
  obtain ⟨above, kept, -⟩ := mro_of_acyclic acyclic
  exact ⟨acyclic, above, kept ⟨_, common⟩⟩

end Registry

end Labbook
