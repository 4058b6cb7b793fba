import Labbook.Proofs.Attribute.Linearization

namespace Labbook

namespace Registry
variable {r : Registry} {name base other : String}

theorem depthFirst_induction {motive : List String → List String → Prop}
    (done : ∀ order, motive [] order)
    (seen : ∀ base rest order, base ∈ order → motive rest order → motive (base :: rest) order)
    (fresh : ∀ base rest order, base ∉ order →
      motive (r.basesOf base ++ rest) (order ++ [base]) → motive (base :: rest) order)
    (todo order : List String) : motive todo order := by
  induction todo, order using depthFirst.induct r with
  | case1 order => exact done order
  | case2 order base rest present ih => exact seen base rest order present ih
  | case3 order base rest absent _ ih => exact fresh base rest order absent ih
  | case4 order base rest absent unknown ih =>
    refine fresh base rest order absent ?_
    rw [basesOf_unknown unknown]
    exact ih

theorem depthFirst_append (todo rest order : List String) :
    r.depthFirst (todo ++ rest) order = r.depthFirst rest (r.depthFirst todo order) := by
  induction todo, order using depthFirst_induction (r := r) with
  | done order => rw [depthFirst_nil, List.nil_append]
  | seen base more order present ih =>
    rw [List.cons_append, depthFirst_seen present, depthFirst_seen present, ih]
  | fresh base more order absent ih =>
    rw [List.cons_append, depthFirst_fresh absent, depthFirst_fresh absent, ← List.append_assoc, ih]

theorem depthFirst_keeps (todo order : List String) : ∀ c ∈ order, c ∈ r.depthFirst todo order := by
  induction todo, order using depthFirst_induction (r := r) with
  | done order => rw [depthFirst_nil]; exact fun _ member => member
  | seen base rest order present ih => rw [depthFirst_seen present]; exact ih
  | fresh base rest order absent ih =>
    rw [depthFirst_fresh absent]
    exact fun c member => ih c (List.mem_append_left _ member)

theorem depthFirst_visits (todo order : List String) : ∀ c ∈ todo, c ∈ r.depthFirst todo order := by
  induction todo, order using depthFirst_induction (r := r) with
  | done order => exact fun _ member => absurd member List.not_mem_nil
  | seen base rest order present ih =>
    rw [depthFirst_seen present]
    intro c member
    rcases List.mem_cons.mp member with rfl | later
    · exact depthFirst_keeps rest order c present
    · exact ih c later
  | fresh base rest order absent ih =>
    rw [depthFirst_fresh absent]
    intro c member
    rcases List.mem_cons.mp member with rfl | later
    · exact depthFirst_keeps _ _ c (List.mem_append_right _ (List.mem_singleton_self c))
    · exact ih c (List.mem_append_right _ later)

-- Whatever a walk adds, it adds with everything directly above it.
theorem depthFirst_closed (todo order : List String) :
    ∀ c ∈ r.depthFirst todo order, c ∈ order ∨ ∀ base ∈ r.basesOf c, base ∈ r.depthFirst todo order := by
  induction todo, order using depthFirst_induction (r := r) with
  | done order => rw [depthFirst_nil]; exact fun _ member => .inl member
  | seen base rest order present ih => rw [depthFirst_seen present]; exact ih
  | fresh base rest order absent ih =>
    rw [depthFirst_fresh absent]
    intro c member
    rcases ih c member with listed | closed
    · rcases List.mem_append.mp listed with earlier | last
      · exact .inl earlier
      · cases List.mem_singleton.mp last
        exact .inr fun above up => depthFirst_visits _ _ above (List.mem_append_left _ up)
    · exact .inr closed

theorem depthFirst_sound (todo order : List String) :
    ∀ c ∈ r.depthFirst todo order, c ∈ order ∨ ∃ base ∈ todo, base = c ∨ r.Reaches base c := by
  induction todo, order using depthFirst_induction (r := r) with
  | done order => rw [depthFirst_nil]; exact fun _ member => .inl member
  | seen base rest order present ih =>
    rw [depthFirst_seen present]
    intro c member
    rcases ih c member with listed | ⟨b, later, above⟩
    · exact .inl listed
    · exact .inr ⟨b, List.mem_cons_of_mem _ later, above⟩
  | fresh base rest order absent ih =>
    rw [depthFirst_fresh absent]
    intro c member
    rcases ih c member with listed | ⟨b, todo, above⟩
    · rcases List.mem_append.mp listed with earlier | last
      · exact .inl earlier
      · exact .inr ⟨base, List.mem_cons_self, .inl (List.mem_singleton.mp last).symm⟩
    · rcases List.mem_append.mp todo with up | later
      · exact .inr ⟨base, List.mem_cons_self, .inr (reaches_iff.mpr ⟨b, up, above⟩)⟩
      · exact .inr ⟨b, List.mem_cons_of_mem _ later, above⟩

theorem mem_depthFirst_bases :
    other ∈ r.depthFirst (r.basesOf name) [name] ↔ other = name ∨ r.Reaches name other := by
  constructor
  · intro member
    rcases depthFirst_sound _ _ other member with start | found
    · exact .inl (List.mem_singleton.mp start)
    · exact .inr (reaches_iff.mpr found)
  · have closed : ∀ c ∈ r.depthFirst (r.basesOf name) [name], ∀ base ∈ r.basesOf c,
        base ∈ r.depthFirst (r.basesOf name) [name] := by
      intro c member
      rcases depthFirst_closed _ _ c member with start | above
      · cases List.mem_singleton.mp start
        exact depthFirst_visits _ _
      · exact above
    have start : name ∈ r.depthFirst (r.basesOf name) [name] :=
      depthFirst_keeps _ _ name (List.mem_singleton_self name)
    rintro (rfl | reached)
    · exact start
    · induction reached with
      | single member => exact closed name start _ member
      | tail _ member ih => exact closed _ ih _ member

-- The order of a class that is met again is itself; any other is put together from those of its bases.
theorem linearize_induction {motive : List String → String → Prop}
    (met : ∀ path name, name ∈ path → motive path name)
    (fresh : ∀ path name, name ∉ path → (∀ base ∈ r.basesOf name, motive (name :: path) base) →
      motive path name) (path : List String) (name : String) : motive path name := by
  induction path, name using linearize.induct r with
  | case1 path name present => exact met path name present
  | case2 path name absent ih => exact fresh path name absent fun base member => ih base member

theorem linearize_met {path : List String} (present : name ∈ path) : r.linearize path name = [name] := by
  rw [linearize, if_pos present]

theorem mem_orderFrom {each : String → List String}
    (exact : ∀ base ∈ r.basesOf name, ∀ c ∈ each base, c = base ∨ r.Reaches base c) :
    (∀ c ∈ r.orderFrom name ((r.basesOf name).map each), c = name ∨ r.Reaches name c) ∧
      name ∈ r.orderFrom name ((r.basesOf name).map each) ∧
      ∀ base ∈ r.basesOf name, ∀ c ∈ each base,
        c ∈ r.orderFrom name ((r.basesOf name).map each) := by
  have above : ∀ base ∈ r.basesOf name, ∀ c ∈ each base, r.Reaches name c :=
    fun base member c listed =>
      reaches_iff.mpr ⟨base, member, (exact base member c listed).imp_left Eq.symm⟩
  cases outcome : mergeOrders ((r.basesOf name).map each ++ [r.basesOf name]) with
  | none =>
    rw [orderFrom_stuck outcome]
    refine ⟨fun c member => mem_depthFirst_bases.mp member, mem_depthFirst_bases.mpr (.inl rfl), ?_⟩
    exact fun base member c listed => mem_depthFirst_bases.mpr (.inr (above base member c listed))
  | some merged =>
    have members := (mergeOrders_sound outcome).2
    rw [orderFrom_merged outcome]
    refine ⟨?_, List.mem_cons_self, ?_⟩
    · intro c member
      rcases List.mem_cons.mp member with rfl | later
      · exact .inl rfl
      · obtain ⟨s, present, inside⟩ := (members c).mp later
        rcases List.mem_append.mp present with order | last
        · obtain ⟨base, member, rfl⟩ := List.mem_map.mp order
          exact .inr (above base member c inside)
        · rw [List.mem_singleton.mp last] at inside
          exact .inr (reaches_base inside)
    · intro base member c listed
      refine List.mem_cons_of_mem _ ((members c).mpr ⟨each base, ?_, listed⟩)
      exact List.mem_append_left _ (List.mem_map_of_mem member)

theorem linearize_sound (path : List String) (name : String) :
    ∀ c ∈ r.linearize path name, c = name ∨ r.Reaches name c := by
  induction path, name using linearize_induction (r := r) with
  | met path name present =>
    rw [linearize_met present]
    exact fun c member => .inl (List.mem_singleton.mp member)
  | fresh path name absent ih =>
    rw [linearize_fresh absent]
    exact (mem_orderFrom ih).1

-- Going up from base to base without leaving any class of the path.
def Climbs (r : Registry) (path : List String) : String → String → Prop :=
  Relation.ReflTransGen fun c base => c ∉ path ∧ base ∈ r.basesOf c

-- A class need be left only once: what comes before it is left for the last time can be skipped.
theorem Climbs.split {path : List String} (climbs : r.Climbs path name other) :
    other = name ∨ name ∉ path ∧ ∃ base ∈ r.basesOf name, r.Climbs (name :: path) base other := by
  induction climbs with
  | refl => exact .inl rfl
  | @tail middle other before step ih =>
    obtain ⟨fresh, member⟩ := step
    by_cases back : middle = name
    · subst back
      exact .inr ⟨fresh, other, member, .refl⟩
    · rcases ih with same | ⟨start, base, up, further⟩
      · exact absurd same back
      · have outside : middle ∉ name :: path := by simp [back, fresh]
        exact .inr ⟨start, base, up, further.tail ⟨outside, member⟩⟩

-- The recursion only stops at classes of its path, so it lists all that is reached without leaving one.
theorem linearize_complete (path : List String) (name : String) :
    ∀ c, r.Climbs path name c → c ∈ r.linearize path name := by
  induction path, name using linearize_induction (r := r) with
  | met path name present =>
    intro c climbs
    rcases climbs.split with rfl | ⟨fresh, -⟩
    · rw [linearize_met present]
      exact List.mem_singleton_self c
    · exact absurd present fresh
  | fresh path name absent ih =>
    intro c climbs
    obtain ⟨-, start, listed⟩ :=
      @mem_orderFrom r name (r.linearize (name :: path)) fun base _ => linearize_sound (name :: path) base
    rw [linearize_fresh absent]
    rcases climbs.split with rfl | ⟨-, base, member, further⟩
    · exact start
    · exact listed base member c (ih base member c further)

theorem mem_mro : other ∈ r.mro name ↔ other = name ∨ r.Reaches name other := by
  constructor
  · exact linearize_sound [] name other
  · intro above
    refine linearize_complete [] name other ?_
    rcases above with rfl | reached
    · exact .refl
    · exact Relation.ReflTransGen.mono (fun c base member => ⟨List.not_mem_nil, member⟩) _ _
        reached.to_reflTransGen

end Registry

-- A merge that is given up after a number of rounds.
def mergeWithin : Nat → List (List String) → Option (Option (List String))
  | 0, _ => none
  | rounds + 1, sequences =>
    if sequences.all List.isEmpty then some (some [])
    else
      match mergeHead? sequences with
      | none => some none
      | some name => (mergeWithin rounds (advance name sequences)).map fun rest => rest.map (name :: ·)

-- Every round takes a name off some sequence.
theorem mergeWithin_eq {rounds : Nat} {sequences : List (List String)}
    (enough : totalLength sequences < rounds) :
    mergeWithin rounds sequences = some (mergeOrders sequences) := by
  induction rounds generalizing sequences with
  | zero => exact absurd enough (Nat.not_lt_zero _)
  | succ rounds ih =>
    unfold mergeWithin
    by_cases empty : sequences.all List.isEmpty = true
    · rw [if_pos empty, mergeOrders, if_pos empty]
    · rw [if_neg empty]
      cases picked : mergeHead? sequences with
      | none =>
        have filled : ∃ s ∈ sequences, s ≠ [] := by simpa using empty
        rw [mergeOrders_stuck filled picked]
      | some name =>
        have shorter := totalLength_advance_lt (List.mem_of_find?_eq_some picked)
        rw [mergeOrders_step picked]
        dsimp only
        rw [ih (Nat.lt_of_lt_of_le shorter (Nat.le_of_lt_succ enough))]
        rfl

namespace Registry
variable {r : Registry} {name base : String}

-- A walk whose calls are nested no deeper than a bound. A class that is new calls for its own bases.
def walkWithin (r : Registry) : Nat → List String → List String → Option (List String)
  | 0, _, _ => none
  | depth + 1, bases, order =>
    bases.foldlM (fun order base =>
      if base ∈ order then some order
      else r.walkWithin depth (r.basesOf base) (order ++ [base])) order

-- An order whose recursion and loops are given up after a number of steps.
def linearizeWithin (r : Registry) : Nat → List String → String → Option (List String)
  | 0, _, _ => none
  | steps + 1, path, name =>
    if name ∈ path then some [name]
    else do
      let orders ← (r.basesOf name).mapM (r.linearizeWithin steps (name :: path))
      match ← mergeWithin steps (orders ++ [r.basesOf name]) with
      | some merged => some (name :: merged)
      | none => r.walkWithin steps (r.basesOf name) [name]

theorem unseen_le_of_subset {seen more : List String} (subset : ∀ c ∈ seen, c ∈ more) :
    r.unseen more ≤ r.unseen seen := by
  unfold unseen
  rw [← List.countP_eq_length_filter, ← List.countP_eq_length_filter]
  refine List.countP_mono_left fun c _ absent => ?_
  simp only [List.contains_iff_mem, Bool.not_eq_true', ← Bool.not_eq_true] at absent ⊢
  exact fun present => absent (subset c.name present)

-- A nested walk has at least one more registered class behind it, or no bases to look at.
theorem walkWithin_eq {depth : Nat} {bases order : List String}
    (enough : r.unseen order + 1 < depth) :
    r.walkWithin depth bases order = some (r.depthFirst bases order) := by
  induction depth generalizing bases order with
  | zero => exact absurd enough (Nat.not_lt_zero _)
  | succ depth ih =>
    have nested : ∀ base order, base ∉ order → r.unseen order + 1 < depth + 1 →
        r.walkWithin depth (r.basesOf base) (order ++ [base]) =
          some (r.depthFirst (r.basesOf base) (order ++ [base])) := by
      intro base order absent enough
      by_cases known : (r.get? base).isSome = true
      · have fewer := unseen_cons_lt known absent
        have swap : r.unseen (order ++ [base]) = r.unseen (base :: order) := by
          simp [unseen, Bool.or_comm]
        exact ih (by omega)
      · rw [basesOf_unknown known, depthFirst_nil]
        obtain ⟨rest, rfl⟩ := Nat.exists_eq_add_one.mpr (show 0 < depth by omega)
        rfl
    unfold walkWithin
    induction bases generalizing order with
    | nil => rw [depthFirst_nil]; rfl
    | cons base rest inner =>
      rw [List.foldlM_cons]
      by_cases present : base ∈ order
      · rw [if_pos present, depthFirst_seen present]
        exact inner enough
      · have fewer : r.unseen (r.depthFirst (r.basesOf base) (order ++ [base])) ≤ r.unseen order :=
          unseen_le_of_subset fun c member =>
            depthFirst_keeps _ _ c (List.mem_append_left _ member)
        rw [if_neg present, nested base order present enough, depthFirst_fresh present,
          depthFirst_append]
        exact inner (by omega)

theorem mapM_within {each : Nat → String → Option (List String)} {whole : String → List String}
    {bases : List String}
    (ends : ∀ base ∈ bases, ∃ bound, ∀ steps, bound ≤ steps → each steps base = some (whole base)) :
    ∃ bound, ∀ steps, bound ≤ steps → bases.mapM (each steps) = some (bases.map whole) := by
  induction bases with
  | nil => exact ⟨0, fun _ _ => rfl⟩
  | cons base rest ih =>
    obtain ⟨first, once⟩ := ends base List.mem_cons_self
    obtain ⟨others, more⟩ := ih fun c member => ends c (List.mem_cons_of_mem _ member)
    refine ⟨max first others, fun steps enough => ?_⟩
    rw [List.mapM_cons, once steps (by omega), more steps (by omega)]
    rfl

-- The classes on the path are registered and different, so the recursion comes to an end, and then
-- every merge and every walk on the way back does.
theorem linearizeWithin_eq (path : List String) (name : String) :
    ∃ bound, ∀ steps, bound ≤ steps →
      r.linearizeWithin steps path name = some (r.linearize path name) := by
  induction path, name using linearize_induction (r := r) with
  | met path name present =>
    refine ⟨1, fun steps enough => ?_⟩
    obtain ⟨rest, rfl⟩ := Nat.exists_eq_add_one.mpr enough
    rw [linearize_met present, linearizeWithin, if_pos present]
  | fresh path name absent ih =>
    obtain ⟨bound, below⟩ := mapM_within ih
    let sequences := (r.basesOf name).map (r.linearize (name :: path)) ++ [r.basesOf name]
    refine ⟨bound + totalLength sequences + r.unseen [name] + 3, fun steps enough => ?_⟩
    obtain ⟨rest, rfl⟩ := Nat.exists_eq_add_one.mpr (show 0 < steps by omega)
    rw [linearize_fresh absent, linearizeWithin, if_neg absent, below rest (by omega)]
    have merged : mergeWithin rest sequences = some (mergeOrders sequences) :=
      mergeWithin_eq (by omega)
    have walked : r.walkWithin rest (r.basesOf name) [name] =
        some (r.depthFirst (r.basesOf name) [name]) := walkWithin_eq (by omega)
    simp only [Option.bind_eq_bind, Option.bind_some]
    rw [merged, Option.bind_some]
    cases outcome : mergeOrders sequences with
    | none => rw [orderFrom_stuck outcome]; exact walked
    | some order => rw [orderFrom_merged outcome]

-- Whether one class is below another is decided on every registry, cyclic ones among them, and decided
-- by the bases alone.
theorem isSubclass_iff (r : Registry) (name base : String) :
    (∃ bound, ∀ steps, bound ≤ steps → r.linearizeWithin steps [] name = some (r.mro name)) ∧
      (r.isSubclass name base = true ↔ base = name ∨ r.Reaches name base) := by
  refine ⟨linearizeWithin_eq [] name, ?_⟩
  rw [isSubclass, List.contains_iff_mem]
  exact mem_mro

end Registry

end Labbook
