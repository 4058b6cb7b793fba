import Labbook.Attribute.ClassModel

namespace Labbook

def inSomeTail (sequences : List (List String)) (name : String) : Bool :=
  sequences.any fun s => s.tail.contains name

def mergeHead? (sequences : List (List String)) : Option String :=
  (sequences.filterMap List.head?).find? fun name => !inSomeTail sequences name

def dropHead (name : String) (s : List String) : List String :=
  if s.head? = some name then s.tail else s

def advance (name : String) (sequences : List (List String)) : List (List String) :=
  sequences.map (dropHead name)

def totalLength (sequences : List (List String)) : Nat := sequences.flatten.length

theorem dropHead_length_le (name : String) (s : List String) : (dropHead name s).length ≤ s.length := by
  unfold dropHead; split <;> simp

theorem dropHead_length_lt {name : String} {s : List String} (h : s.head? = some name) :
    (dropHead name s).length < s.length := by
  cases s with
  | nil => simp at h
  | cons a r => simp [dropHead, h]

theorem totalLength_advance_le (name : String) (sequences : List (List String)) :
    totalLength (advance name sequences) ≤ totalLength sequences := by
  induction sequences with
  | nil => simp [totalLength, advance]
  | cons s rest ih =>
    have := dropHead_length_le name s
    simp only [totalLength, advance, List.map_cons, List.flatten_cons, List.length_append] at ih ⊢
    omega

theorem totalLength_advance_lt {name : String} {sequences : List (List String)}
    (h : name ∈ sequences.filterMap List.head?) :
    totalLength (advance name sequences) < totalLength sequences := by
  induction sequences with
  | nil => simp at h
  | cons s rest ih =>
    have le := totalLength_advance_le name rest
    simp only [totalLength, advance, List.map_cons, List.flatten_cons, List.length_append] at ih le ⊢
    by_cases hs : s.head? = some name
    · have := dropHead_length_lt hs
      omega
    · have mem : name ∈ rest.filterMap List.head? := by
        simp only [List.mem_filterMap, List.mem_cons] at h ⊢
        obtain ⟨t, rfl | ht, e⟩ := h
        · exact absurd e hs
        · exact ⟨t, ht, e⟩
      have := ih mem
      have := dropHead_length_le name s
      omega

def mergeOrders (sequences : List (List String)) : Option (List String) :=
  if sequences.all List.isEmpty then some []
  else
    match _h : mergeHead? sequences with
    | none => none
    | some name => (mergeOrders (advance name sequences)).map (name :: ·)
termination_by totalLength sequences
decreasing_by exact totalLength_advance_lt (List.mem_of_find?_eq_some _h)

namespace Registry

def rootName : String := "object"

-- The bases of a class. What is not registered has none.
def basesOf (r : Registry) (name : String) : List String :=
  match r.get? name with
  | some c => c.bases.filter (· ≠ rootName)
  | none => []

def unseen (r : Registry) (seen : List String) : Nat :=
  (r.classes.filter fun c => !seen.contains c.name).length

theorem filter_length_lt_of_mem {α : Type} {p q : α → Bool} {l : List α} (h : ∀ x ∈ l, q x → p x)
    {a : α} (ha : a ∈ l) (hp : p a = true) (hq : q a = false) :
    (l.filter q).length < (l.filter p).length := by
  have nested : l.filter q = (l.filter p).filter q := by
    rw [List.filter_filter]
    refine List.filter_congr fun x mem => ?_
    cases hqx : q x with
    | true => exact (h x mem hqx).symm
    | false => rfl
  rw [nested, List.length_filter_lt_length_iff_exists]
  exact ⟨a, List.mem_filter.mpr ⟨ha, hp⟩, by simp [hq]⟩

theorem unseen_cons_lt {r : Registry} {seen : List String} {name : String}
    (known : (r.get? name).isSome) (fresh : name ∉ seen) : r.unseen (name :: seen) < r.unseen seen := by
  obtain ⟨c, hc⟩ := Option.isSome_iff_exists.1 known
  have mem : c ∈ r.classes := List.mem_of_find?_eq_some hc
  have named : c.name = name := by simpa using List.find?_some hc
  refine filter_length_lt_of_mem (a := c) ?_ mem ?_ ?_
  · intro x _ hx
    simp only [List.contains_cons, Bool.not_or, Bool.and_eq_true] at hx
    exact hx.2
  · simpa [named] using fresh
  · simp [named]

theorem isSome_get?_of_mem_basesOf {r : Registry} {name base : String} (h : base ∈ r.basesOf name) :
    (r.get? name).isSome := by
  unfold basesOf at h
  split at h
  · simp_all
  · simp at h

-- Ancestors from left to right and depth first, each once. `order` holds those found already, `todo`
-- the bases still to be visited.
def depthFirst (r : Registry) (todo order : List String) : List String :=
  match todo with
  | [] => order
  | base :: rest =>
    if base ∈ order then r.depthFirst rest order
    else if (r.get? base).isSome then r.depthFirst (r.basesOf base ++ rest) (order ++ [base])
    else r.depthFirst rest (order ++ [base])
termination_by (r.unseen order, todo.length)
decreasing_by
  · apply Prod.Lex.right; simp
  · rename_i fresh known
    apply Prod.Lex.left
    have swap : r.unseen (order ++ [base]) = r.unseen (base :: order) := by
      simp [unseen, Bool.or_comm]
    rw [swap]
    exact unseen_cons_lt known fresh
  · rename_i fresh unknown
    have same : r.unseen (order ++ [base]) = r.unseen order := by
      unfold unseen
      congr 1
      apply List.filter_congr
      intro c hc
      have : c.name ≠ base := by
        intro e
        apply unknown
        simp only [get?, List.find?_isSome]
        exact ⟨c, hc, by simp [e]⟩
      simp [this]
    rw [same]
    apply Prod.Lex.right; simp

def orderFrom (r : Registry) (name : String) (orders : List (List String)) : List String :=
  match mergeOrders (orders ++ [r.basesOf name]) with
  | some merged => name :: merged
  | none => r.depthFirst (r.basesOf name) [name]

-- The order of a class met below the classes of `path`.
def linearize (r : Registry) (path : List String) (name : String) : List String :=
  if name ∈ path then [name]
  else
    r.orderFrom name ((r.basesOf name).attach.map fun ⟨base, _⟩ => r.linearize (name :: path) base)
termination_by r.unseen path
decreasing_by
  rename_i fresh member
  exact unseen_cons_lt (isSome_get?_of_mem_basesOf member) fresh

-- The method resolution order of a class, the root of all classes left out. Bases that are not
-- registered are listed and have no bases of their own.
def mro (r : Registry) (name : String) : List String := r.linearize [] name

def isSubclass (r : Registry) (name base : String) : Bool := (r.mro name).contains base

end Registry

end Labbook
