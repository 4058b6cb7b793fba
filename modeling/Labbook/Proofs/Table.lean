import Labbook.Data.Table
import Mathlib.Data.List.Nodup

namespace Labbook

namespace Table
variable {β : Type}

def Single (t : Table β) : Prop := (t.map Prod.fst).Nodup

theorem single_nil : Single ([] : Table β) := List.nodup_nil

theorem find?_cons (t : Table β) (name other : String) (value : β) :
    Table.find? ((name, value) :: t) other = if other = name then some value else t.find? other := by
  unfold Table.find?
  rw [List.lookup_cons]
  by_cases same : other = name
  · simp [same]
  · simp only [beq_eq_false_iff_ne.mpr same, if_neg same]

theorem mem_of_find? {t : Table β} {name : String} {value : β} (found : t.find? name = some value) :
    (name, value) ∈ t := by
  obtain ⟨before, after, rfl, -⟩ := List.lookup_eq_some_iff.mp found
  exact List.mem_append_right _ List.mem_cons_self

theorem find?_insert (t : Table β) (name other : String) (value : β) :
    (t.insert name value).find? other = if other = name then some value else t.find? other := by
  induction t with
  | nil => exact find?_cons [] name other value
  | cons entry rest ih =>
    obtain ⟨first, old⟩ := entry
    unfold insert
    by_cases here : first = name
    · subst here
      simp only [beq_self_eq_true, if_true, find?_cons]
      by_cases same : other = first <;> simp [same]
    · have apart : (first == name) = false := by simpa using here
      simp only [apart, Bool.false_eq_true, if_false, find?_cons, ih]
      by_cases same : other = first
      · simp [same, here]
      · simp [same]

theorem mem_insert_names (t : Table β) (name other : String) (value : β) :
    other ∈ (t.insert name value).map Prod.fst ↔ other = name ∨ other ∈ t.map Prod.fst := by
  induction t with
  | nil => simp [insert]
  | cons entry rest ih =>
    obtain ⟨first, old⟩ := entry
    unfold insert
    by_cases here : first = name
    · simp [here]
    · have apart : (first == name) = false := by simpa using here
      simp only [apart, Bool.false_eq_true, if_false, List.map_cons, List.mem_cons, ih]
      tauto

theorem Single.insert {t : Table β} (single : t.Single) (name : String) (value : β) :
    (t.insert name value).Single := by
  induction t with
  | nil => simp [Single, Table.insert]
  | cons entry rest ih =>
    obtain ⟨first, old⟩ := entry
    obtain ⟨fresh, tail⟩ := List.nodup_cons.mp single
    unfold Table.insert
    by_cases here : first = name
    · subst here
      simp only [beq_self_eq_true, if_true]
      exact List.nodup_cons.mpr ⟨fresh, tail⟩
    · have apart : (first == name) = false := by simpa using here
      simp only [apart, Bool.false_eq_true, if_false]
      refine List.nodup_cons.mpr ⟨?_, ih tail⟩
      intro member
      rcases (mem_insert_names rest name first value).mp member with same | later
      · exact here same
      · exact fresh later

theorem Single.insertAll {t : Table β} (single : t.Single) (entries : Table β) :
    (t.insertAll entries).Single := by
  unfold Table.insertAll
  induction entries generalizing t with
  | nil => exact single
  | cons entry rest ih => exact ih (single.insert entry.1 entry.2)

-- What is written into a table hides what it had.
theorem find?_insertAll (t : Table β) {entries : Table β} (single : entries.Single) (name : String) :
    (t.insertAll entries).find? name = (entries.find? name).or (t.find? name) := by
  unfold insertAll
  induction entries generalizing t with
  | nil => rfl
  | cons entry rest ih =>
    obtain ⟨first, value⟩ := entry
    obtain ⟨fresh, tail⟩ := List.nodup_cons.mp single
    rw [List.foldl_cons, ih (t.insert first value) tail, find?_insert, find?_cons]
    by_cases same : name = first
    · subst same
      have absent : Table.find? rest name = none := List.lookup_eq_none_iff.mpr fun entry member =>
        bne_iff_ne.mpr fun equal => fresh (List.mem_map.mpr ⟨entry, member, equal.symm⟩)
      simp [absent]
    · simp [same]

theorem find?_filter (t : Table β) (keep : String → Bool) (name : String) :
    Table.find? (t.filter fun entry => keep entry.1) name = if keep name then t.find? name else none := by
  induction t with
  | nil => simp [Table.find?]
  | cons entry rest ih =>
    obtain ⟨first, value⟩ := entry
    rw [List.filter_cons, find?_cons]
    by_cases kept : keep first = true
    · rw [if_pos kept, find?_cons, ih]
      by_cases same : name = first <;> simp [same, kept]
    · rw [if_neg kept, ih]
      by_cases same : name = first <;> simp [same, kept]

-- Tables written over each other: the last one that has a name decides.
theorem find?_foldl_insertAll {α : Type} (items : List α) (each : α → Table β)
    (single : ∀ item ∈ items, (each item).Single) (t : Table β) (name : String) :
    Table.find? (items.foldl (fun found item => found.insertAll (each item)) t) name =
      (items.reverse.findSome? fun item => (each item).find? name).or (t.find? name) := by
  induction items generalizing t with
  | nil => rfl
  | cons item rest ih =>
    have later := ih (fun i member => single i (List.mem_cons_of_mem _ member)) (t.insertAll (each item))
    rw [List.foldl_cons, later, find?_insertAll t (single item List.mem_cons_self), List.reverse_cons,
      List.findSome?_append, Option.or_assoc]
    simp

end Table

end Labbook
