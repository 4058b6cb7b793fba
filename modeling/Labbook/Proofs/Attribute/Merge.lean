import Labbook.Attribute.Hierarchy
import Mathlib.Data.List.Basic

namespace Labbook

-- An order without repeats that contains every sequence.
structure IsCommonOrder (sequences : List (List String)) (order : List String) : Prop where
  nodup : order.Nodup
  keeps : ∀ s ∈ sequences, s.Sublist order

theorem inSomeTail_eq_false {sequences : List (List String)} {name : String} :
    inSomeTail sequences name = false ↔ ∀ s ∈ sequences, name ∉ s.tail := by
  unfold inSomeTail
  rw [List.any_eq_false]
  simp only [List.contains_iff_mem]

theorem mergeHead?_free {sequences : List (List String)} {name : String}
    (picked : mergeHead? sequences = some name) : ∀ s ∈ sequences, name ∉ s.tail := by
  have free := List.find?_some picked
  rw [Bool.not_eq_true'] at free
  exact inSomeTail_eq_false.mp free

theorem mergeHead?_head {sequences : List (List String)} {name : String}
    (picked : mergeHead? sequences = some name) : ∃ s ∈ sequences, s.head? = some name :=
  List.mem_filterMap.mp (List.mem_of_find?_eq_some picked)

theorem dropHead_cases {name : String} {s : List String} (free : name ∉ s.tail) :
    (s = name :: dropHead name s ∨ s = dropHead name s) ∧ name ∉ dropHead name s := by
  unfold dropHead
  split
  next heads =>
    obtain ⟨rest, rfl⟩ := List.head?_eq_some_iff.mp heads
    exact ⟨.inl rfl, free⟩
  next heads =>
    refine ⟨.inr rfl, ?_⟩
    cases s with
    | nil => exact List.not_mem_nil
    | cons first rest =>
      intro member
      rcases List.mem_cons.mp member with rfl | later
      · exact heads rfl
      · exact free later

theorem dropHead_eq_erase {name : String} {s : List String} (free : name ∉ s.tail) :
    dropHead name s = s.erase name := by
  obtain ⟨front | same, absent⟩ := dropHead_cases free
  · rw [congrArg (List.erase · name) front, List.erase_cons_head]
  · rw [congrArg (List.erase · name) same, List.erase_of_not_mem absent]

theorem advance_isCommonOrder {sequences : List (List String)} {order : List String} {name : String}
    (free : ∀ s ∈ sequences, name ∉ s.tail) (common : IsCommonOrder sequences order) :
    IsCommonOrder (advance name sequences) (order.erase name) := by
  refine ⟨common.nodup.erase name, ?_⟩
  intro t member
  obtain ⟨s, present, rfl⟩ := List.mem_map.mp member
  rw [dropHead_eq_erase (free s present)]
  exact (common.keeps s present).erase name

theorem cons_isCommonOrder {sequences : List (List String)} {order : List String} {name : String}
    (free : ∀ s ∈ sequences, name ∉ s.tail) (fresh : name ∉ order)
    (common : IsCommonOrder (advance name sequences) order) :
    IsCommonOrder sequences (name :: order) := by
  refine ⟨List.nodup_cons.mpr ⟨fresh, common.nodup⟩, ?_⟩
  intro s present
  have kept := common.keeps _ (List.mem_map_of_mem present)
  obtain ⟨front | same, -⟩ := dropHead_cases (free s present)
  · rw [front]
    exact kept.cons_cons name
  · rw [same]
    exact kept.cons name

-- The first name of a common order that heads a sequence is behind no head: what stands in front of a
-- name in a sequence stands in front of it in the order.
theorem exists_free_head {sequences : List (List String)} {order : List String}
    (common : IsCommonOrder sequences order) (filled : ∃ s ∈ sequences, s ≠ []) :
    ∃ name, name ∈ sequences.filterMap List.head? ∧ ∀ s ∈ sequences, name ∉ s.tail := by
  induction order with
  | nil =>
    obtain ⟨s, present, notEmpty⟩ := filled
    exact absurd (List.sublist_nil.mp (common.keeps s present)) notEmpty
  | cons first later ih =>
    obtain ⟨fresh, nodup⟩ := List.nodup_cons.mp common.nodup
    by_cases heads : first ∈ sequences.filterMap List.head?
    · refine ⟨first, heads, ?_⟩
      intro s present behind
      exact fresh ((common.keeps s present).tail.subset behind)
    · refine ih ⟨nodup, ?_⟩
      intro s present
      rcases List.sublist_cons_iff.mp (common.keeps s present) with kept | ⟨rest, rfl, -⟩
      · exact kept
      · exact absurd (List.mem_filterMap.mpr ⟨first :: rest, present, List.head?_cons⟩) heads

theorem mergeHead?_isSome {sequences : List (List String)} {order : List String}
    (common : IsCommonOrder sequences order) (filled : ∃ s ∈ sequences, s ≠ []) :
    (mergeHead? sequences).isSome := by
  obtain ⟨name, heads, free⟩ := exists_free_head common filled
  refine List.find?_isSome.mpr ⟨name, heads, ?_⟩
  rw [Bool.not_eq_true']
  exact inSomeTail_eq_false.mpr free

theorem mergeOrders_done {sequences : List (List String)} (done : ∀ s ∈ sequences, s = []) :
    mergeOrders sequences = some [] := by
  rw [mergeOrders, if_pos]
  exact List.all_eq_true.mpr fun s present => List.isEmpty_iff.mpr (done s present)

theorem mergeOrders_stuck {sequences : List (List String)} (filled : ∃ s ∈ sequences, s ≠ [])
    (stuck : mergeHead? sequences = none) : mergeOrders sequences = none := by
  obtain ⟨s, present, notEmpty⟩ := filled
  rw [mergeOrders, if_neg]
  · split
    next => rfl
    next picked => rw [stuck] at picked; cases picked
  · intro done
    exact notEmpty (List.isEmpty_iff.mp (List.all_eq_true.mp done s present))

theorem mergeOrders_step {sequences : List (List String)} {name : String}
    (picked : mergeHead? sequences = some name) :
    mergeOrders sequences = (mergeOrders (advance name sequences)).map (name :: ·) := by
  obtain ⟨s, present, heads⟩ := mergeHead?_head picked
  rw [mergeOrders, if_neg]
  · split
    next stuck => rw [picked] at stuck; cases stuck
    next other again =>
      rw [picked] at again
      cases again
      rfl
  · intro done
    rw [List.isEmpty_iff.mp (List.all_eq_true.mp done s present)] at heads
    cases heads

theorem mergeOrders_induction {motive : List (List String) → Prop}
    (done : ∀ sequences, (∀ s ∈ sequences, s = []) → motive sequences)
    (stuck : ∀ sequences, (∃ s ∈ sequences, s ≠ []) → mergeHead? sequences = none → motive sequences)
    (step : ∀ sequences name, mergeHead? sequences = some name → motive (advance name sequences) →
      motive sequences) (sequences : List (List String)) : motive sequences := by
  induction sequences using mergeOrders.induct with
  | case1 sequences empty =>
    exact done sequences fun s present => List.isEmpty_iff.mp (List.all_eq_true.mp empty s present)
  | case2 sequences filled none => exact stuck sequences (by simpa using filled) none
  | case3 sequences _ name picked ih => exact step sequences name picked ih

theorem mem_advance {sequences : List (List String)} {name other : String}
    (free : ∀ s ∈ sequences, name ∉ s.tail) :
    (∃ t ∈ advance name sequences, other ∈ t) ↔ other ≠ name ∧ ∃ s ∈ sequences, other ∈ s := by
  constructor
  · rintro ⟨t, member, inside⟩
    obtain ⟨s, present, rfl⟩ := List.mem_map.mp member
    obtain ⟨-, absent⟩ := dropHead_cases (free s present)
    refine ⟨fun same => absent (same ▸ inside), s, present, ?_⟩
    rw [dropHead_eq_erase (free s present)] at inside
    exact List.mem_of_mem_erase inside
  · rintro ⟨other, s, present, inside⟩
    refine ⟨dropHead name s, List.mem_map_of_mem present, ?_⟩
    rw [dropHead_eq_erase (free s present)]
    exact (List.mem_erase_of_ne other).mpr inside

theorem mergeOrders_sound {sequences : List (List String)} {order : List String}
    (merged : mergeOrders sequences = some order) :
    IsCommonOrder sequences order ∧ ∀ name, name ∈ order ↔ ∃ s ∈ sequences, name ∈ s := by
  induction sequences using mergeOrders_induction generalizing order with
  | done sequences empty =>
    rw [mergeOrders_done empty] at merged
    cases merged
    refine ⟨⟨List.nodup_nil, fun s present => List.sublist_nil.mpr (empty s present)⟩, ?_⟩
    intro name
    constructor
    · intro member
      cases member
    · rintro ⟨s, present, inside⟩
      rw [empty s present] at inside
      exact inside
  | stuck sequences filled stuck =>
    rw [mergeOrders_stuck filled stuck] at merged
    cases merged
  | step sequences name picked ih =>
    rw [mergeOrders_step picked] at merged
    obtain ⟨rest, below, rfl⟩ := Option.map_eq_some_iff.mp merged
    obtain ⟨common, members⟩ := ih below
    have free := mergeHead?_free picked
    have fresh : name ∉ rest := by
      intro member
      exact ((mem_advance free).mp ((members name).mp member)).1 rfl
    refine ⟨cons_isCommonOrder free fresh common, ?_⟩
    intro other
    rw [List.mem_cons, members, mem_advance free]
    by_cases same : other = name
    · subst same
      obtain ⟨s, present, heads⟩ := mergeHead?_head picked
      exact ⟨fun _ => ⟨s, present, List.mem_of_head? heads⟩, fun _ => .inl rfl⟩
    · exact ⟨fun found => (found.resolve_left same).2, fun found => .inr ⟨same, found⟩⟩

theorem mergeOrders_complete {sequences : List (List String)} {order : List String}
    (common : IsCommonOrder sequences order) : ∃ merged, mergeOrders sequences = some merged := by
  induction sequences using mergeOrders_induction generalizing order with
  | done sequences empty => exact ⟨[], mergeOrders_done empty⟩
  | stuck sequences filled stuck =>
    have found := mergeHead?_isSome common filled
    rw [stuck] at found
    cases found
  | step sequences name picked ih =>
    obtain ⟨rest, below⟩ := ih (advance_isCommonOrder (mergeHead?_free picked) common)
    exact ⟨name :: rest, by rw [mergeOrders_step picked, below]; rfl⟩

-- A merge round by round: it is finished when nothing is left, stuck when every head stands behind another one,
-- and else takes the first free head off all sequences. The number counts the heads that were taken.
inductive MergesIn : List (List String) → Nat → Option (List String) → Prop where
  | finished {sequences : List (List String)} (empty : ∀ s ∈ sequences, s = []) :
      MergesIn sequences 0 (some [])
  | stuck {sequences : List (List String)} (filled : ∃ s ∈ sequences, s ≠ [])
      (behind : mergeHead? sequences = none) : MergesIn sequences 0 none
  | round {sequences : List (List String)} {name : String} {rounds : Nat}
      {outcome : Option (List String)} (picked : mergeHead? sequences = some name)
      (further : MergesIn (advance name sequences) rounds outcome) :
      MergesIn sequences (rounds + 1) (outcome.map (name :: ·))

theorem mergeHead?_of_empty {sequences : List (List String)} (empty : ∀ s ∈ sequences, s = []) :
    mergeHead? sequences = none := by
  cases picked : mergeHead? sequences with
  | none => rfl
  | some name =>
    obtain ⟨s, present, heads⟩ := mergeHead?_head picked
    rw [empty s present] at heads
    cases heads

-- A round shortens the sequences, so a merge has an end.
theorem mergesIn_mergeOrders (sequences : List (List String)) :
    ∃ rounds ≤ totalLength sequences, MergesIn sequences rounds (mergeOrders sequences) := by
  induction sequences using mergeOrders_induction with
  | done sequences empty =>
    rw [mergeOrders_done empty]
    exact ⟨0, Nat.zero_le _, .finished empty⟩
  | stuck sequences filled stuck =>
    rw [mergeOrders_stuck filled stuck]
    exact ⟨0, Nat.zero_le _, .stuck filled stuck⟩
  | step sequences name picked ih =>
    obtain ⟨rounds, few, further⟩ := ih
    have shorter := totalLength_advance_lt (List.mem_of_find?_eq_some picked)
    rw [mergeOrders_step picked]
    exact ⟨rounds + 1, Nat.succ_le_of_lt (Nat.lt_of_le_of_lt few shorter), .round picked further⟩

theorem MergesIn.unique {sequences : List (List String)} {rounds others : Nat}
    {outcome other : Option (List String)} (one : MergesIn sequences rounds outcome)
    (another : MergesIn sequences others other) : others = rounds ∧ other = outcome := by
  induction one generalizing others other with
  | finished empty =>
    cases another with
    | finished => exact ⟨rfl, rfl⟩
    | stuck filled =>
      obtain ⟨s, present, notEmpty⟩ := filled
      exact absurd (empty s present) notEmpty
    | round picked =>
      rw [mergeHead?_of_empty empty] at picked
      cases picked
  | stuck filled behind =>
    cases another with
    | finished empty =>
      obtain ⟨s, present, notEmpty⟩ := filled
      exact absurd (empty s present) notEmpty
    | stuck => exact ⟨rfl, rfl⟩
    | round picked =>
      rw [behind] at picked
      cases picked
  | round picked further ih =>
    cases another with
    | finished empty =>
      rw [mergeHead?_of_empty empty] at picked
      cases picked
    | stuck _ behind =>
      rw [behind] at picked
      cases picked
    | round again next =>
      rw [picked] at again
      cases again
      obtain ⟨rfl, rfl⟩ := ih next
      exact ⟨rfl, rfl⟩

-- A merge comes to one end. It finds an order exactly when some order without repeats contains every
-- sequence, and what it finds is such an order and has no other names.
theorem mergeOrders_decides (sequences : List (List String)) :
    (∃ rounds ≤ totalLength sequences, ∀ count outcome,
        MergesIn sequences count outcome ↔ count = rounds ∧ outcome = mergeOrders sequences) ∧
      ((mergeOrders sequences).isSome ↔ ∃ order, IsCommonOrder sequences order) ∧
      (∀ merged, mergeOrders sequences = some merged →
        IsCommonOrder sequences merged ∧ ∀ name, name ∈ merged ↔ ∃ s ∈ sequences, name ∈ s) := by
  refine ⟨?_, ?_, fun merged found => mergeOrders_sound found⟩
  · obtain ⟨rounds, few, merges⟩ := mergesIn_mergeOrders sequences
    refine ⟨rounds, few, fun count outcome => ⟨merges.unique, ?_⟩⟩
    rintro ⟨rfl, rfl⟩
    exact merges
  · rw [Option.isSome_iff_exists]
    constructor
    · rintro ⟨merged, found⟩
      exact ⟨merged, (mergeOrders_sound found).1⟩
    · rintro ⟨order, common⟩
      exact mergeOrders_complete common

end Labbook
