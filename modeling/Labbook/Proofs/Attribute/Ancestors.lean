import Labbook.Attribute.Hierarchy
import Mathlib.Data.List.Nodup
import Mathlib.Logic.Relation

namespace Labbook

namespace Registry
variable {r : Registry} {name base other : String}

-- What is found by going from a class to one of its bases, at least once. The root of all classes is
-- no base, and what is not registered has none.
def Reaches (r : Registry) : String → String → Prop :=
  Relation.TransGen fun name base => base ∈ r.basesOf name

-- No class above this one is its own ancestor. That holds for the class itself too: it would be above
-- itself otherwise.
def Acyclic (r : Registry) (name : String) : Prop :=
  ∀ above, r.Reaches name above → ¬ r.Reaches above above

theorem reaches_base (member : base ∈ r.basesOf name) : r.Reaches name base := .single member

theorem reaches_iff :
    r.Reaches name other ↔ ∃ base ∈ r.basesOf name, base = other ∨ r.Reaches base other := by
  constructor
  · intro reached
    obtain ⟨base, member, further⟩ := Relation.TransGen.head'_iff.mp reached
    exact ⟨base, member, (Relation.reflTransGen_iff_eq_or_transGen.mp further).imp Eq.symm id⟩
  · rintro ⟨base, member, rfl | further⟩
    · exact reaches_base member
    · exact .head member further

theorem Acyclic.irrefl (acyclic : r.Acyclic name) : ¬ r.Reaches name name :=
  fun cycle => acyclic name cycle cycle

theorem Acyclic.of_base (acyclic : r.Acyclic name) (member : base ∈ r.basesOf name) : r.Acyclic base :=
  fun above reached => acyclic above (.head member reached)

-- Classes without a cycle above them, bases first. The classes on the way down are all different, so
-- the registry runs out of others.
theorem Acyclic.induction {motive : (name : String) → r.Acyclic name → Prop}
    (step : ∀ name (acyclic : r.Acyclic name),
      (∀ base (member : base ∈ r.basesOf name), motive base (acyclic.of_base member)) →
        motive name acyclic)
    {name : String} (acyclic : r.Acyclic name) : motive name acyclic := by
  suffices below : ∀ count path, r.unseen path = count → ∀ name (acyclic : r.Acyclic name),
      (∀ c ∈ path, r.Reaches c name) → motive name acyclic from
    below _ [] rfl name acyclic fun _ member => absurd member List.not_mem_nil
  intro count
  induction count using Nat.strongRecOn with
  | ind count ih =>
    intro path same name acyclic reached
    subst same
    refine step name acyclic fun base member => ?_
    have fresh : name ∉ path := fun seen => acyclic.irrefl (reached name seen)
    have fewer := unseen_cons_lt (isSome_get?_of_mem_basesOf member) fresh
    refine ih _ fewer (name :: path) rfl base (acyclic.of_base member) ?_
    intro c onPath
    rcases List.mem_cons.mp onPath with rfl | earlier
    · exact reaches_base member
    · exact .tail (reached c earlier) member

theorem mem_basesOf (member : base ∈ r.basesOf name) :
    ∃ c ∈ r.classes, c.name = name ∧ base ∈ c.bases ∧ base ≠ rootName := by
  unfold basesOf at member
  split at member
  next c found =>
    obtain ⟨listed, notRoot⟩ := List.mem_filter.mp member
    have named := List.find?_some found
    exact ⟨c, List.mem_of_find?_eq_some found, by simpa using named, listed, by simpa using notRoot⟩
  next => exact absurd member List.not_mem_nil

-- A number that falls from every class to its bases rules cycles out.
theorem acyclic_of_rank (rank : String → Nat)
    (falls : ∀ c ∈ r.classes, ∀ base ∈ c.bases, base ≠ rootName → rank base < rank c.name)
    (name : String) : r.Acyclic name := by
  have lower : ∀ a b, r.Reaches a b → rank b < rank a := by
    intro a b reached
    induction reached with
    | single member =>
      obtain ⟨c, listed, rfl, base, notRoot⟩ := mem_basesOf member
      exact falls c listed _ base notRoot
    | tail _ member ih =>
      obtain ⟨c, listed, rfl, base, notRoot⟩ := mem_basesOf member
      exact Nat.lt_trans (falls c listed _ base notRoot) ih
  intro above _ cycle
  exact Nat.lt_irrefl _ (lower above above cycle)

-- Each class is met before its bases, and everything above it before its neighbour. What is above two
-- classes is met twice.
inductive Preorder (r : Registry) : List String → List String → Prop
  | nil : Preorder r [] []
  | cons {base : String} {rest above others : List String}
      (up : Preorder r (r.basesOf base) above) (next : Preorder r rest others) :
      Preorder r (base :: rest) (base :: above ++ others)

theorem Preorder.mem_iff {todo walk : List String} (walked : r.Preorder todo walk) :
    other ∈ walk ↔ ∃ base ∈ todo, base = other ∨ r.Reaches base other := by
  induction walked with
  | nil => simp
  | @cons base rest above others up next ihUp ihNext =>
    rw [List.cons_append, List.mem_cons, List.mem_append, ihUp, ihNext, ← reaches_iff]
    simp only [List.mem_cons, exists_eq_or_imp, eq_comm (a := other), or_assoc]

theorem Preorder.mem_above {above : List String} (up : r.Preorder (r.basesOf base) above) :
    other ∈ above ↔ r.Reaches base other := by
  rw [up.mem_iff, ← reaches_iff]

theorem Preorder.exists_of_each {todo : List String}
    (each : ∀ base ∈ todo, ∃ above, r.Preorder (r.basesOf base) above) :
    ∃ walk, r.Preorder todo walk := by
  induction todo with
  | nil => exact ⟨[], .nil⟩
  | cons base rest ih =>
    obtain ⟨above, up⟩ := each base List.mem_cons_self
    obtain ⟨others, next⟩ := ih fun other member => each other (List.mem_cons_of_mem _ member)
    exact ⟨_, .cons up next⟩

theorem Acyclic.exists_preorder (acyclic : r.Acyclic name) :
    ∃ walk, r.Preorder (r.basesOf name) walk := by
  induction acyclic using Acyclic.induction with
  | step name _ each => exact Preorder.exists_of_each each

end Registry

end Labbook
