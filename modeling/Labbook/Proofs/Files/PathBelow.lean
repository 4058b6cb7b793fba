import Labbook.Files.Path
import Mathlib.Data.List.Basic

namespace Labbook

namespace Path
variable {base path root : String}

theorem isAbsolute_iff : isAbsolute path = true ↔ ∃ rest, path.toList = '/' :: rest := by
  unfold isAbsolute
  rw [String.startsWith_string_iff]
  exact ⟨fun ⟨rest, same⟩ => ⟨rest, same.symm⟩, fun ⟨rest, same⟩ => ⟨rest, same.symm⟩⟩

theorem endsWith_separator (ends : base.endsWith "/" = true) : ∃ front, base = front ++ "/" := by
  rw [← String.endsWith_toSlice, String.Slice.endsWith_string_iff] at ends
  obtain ⟨front, same⟩ := ends
  refine ⟨String.ofList front, String.toList_inj.mp ?_⟩
  simpa using same.symm

theorem components_append_separator (front rest : String) :
    components (front ++ "/" ++ rest) = components front ++ components rest := by
  have separator : (front ++ "/" ++ rest).toList = front.toList ++ '/' :: rest.toList := by simp
  unfold components
  rw [separator, List.splitOnP_append_cons _ _ (by decide), List.map_append, List.filter_append]

theorem components_empty : components "" = [] := by decide

theorem join_absolute (absolute : isAbsolute path = true) : join base path = path := by
  unfold join
  rw [absolute]
  rfl

theorem components_join (relative : isAbsolute path = false) :
    components (join base path) = components base ++ components path := by
  unfold join
  rw [relative, Bool.false_or]
  split
  next empty =>
    rw [String.isEmpty_iff.mp empty, components_empty, List.nil_append]
  next =>
    split
    next ends =>
      obtain ⟨front, rfl⟩ := endsWith_separator ends
      have closed := components_append_separator front ""
      rw [String.append_empty, components_empty, List.append_nil] at closed
      rw [components_append_separator, closed]
    next => exact components_append_separator base path

theorem isAbsolute_append (nonempty : base ≠ "") (rest : String) :
    isAbsolute (base ++ rest) = isAbsolute base := by
  rw [Bool.eq_iff_iff, isAbsolute_iff, isAbsolute_iff, String.toList_append]
  cases front : base.toList with
  | nil => exact absurd (String.toList_eq_nil_iff.mp front) nonempty
  | cons c more => simp

theorem isAbsolute_join (relative : isAbsolute path = false) :
    isAbsolute (join base path) = isAbsolute base := by
  unfold join
  rw [relative, Bool.false_or]
  split
  next empty =>
    rw [String.isEmpty_iff.mp empty, relative]
    decide
  next filled =>
    have nonempty : base ≠ "" := fun empty => filled (String.isEmpty_iff.mpr empty)
    split
    · exact isAbsolute_append nonempty path
    · rw [String.append_assoc]
      exact isAbsolute_append nonempty _

theorem components_name {name : String} (uncut : '/' ∉ name.toList) (nonempty : name ≠ "")
    (named : name ≠ ".") : components name = [name] := by
  have whole : name.toList.splitOnP (· == '/') = [name.toList] := by
    apply List.splitOnP_eq_singleton
    intro c member
    rw [beq_eq_false_iff_ne]
    rintro rfl
    exact uncut member
  unfold components
  rw [whole]
  simp [nonempty, named]

theorem relative_name {name : String} (uncut : '/' ∉ name.toList) : isAbsolute name = false := by
  rw [Bool.eq_false_iff, ne_eq, isAbsolute_iff]
  rintro ⟨rest, same⟩
  rw [same] at uncut
  exact uncut List.mem_cons_self

-- The path goes on from another one, at least by one component and never up.
def Below (root path : String) : Prop :=
  isAbsolute path = isAbsolute root ∧
    ∃ names, names ≠ [] ∧ ".." ∉ names ∧ components path = components root ++ names

-- A name that leads on from any directory, and never up.
structure LeadsDown (name : String) : Prop where
  relative : isAbsolute name = false
  downwards : ".." ∉ components name

theorem below_iff {names : List String} (start : isAbsolute path = isAbsolute root)
    (nonempty : names ≠ []) (parts : components path = components root ++ names) :
    Below root path ↔ ".." ∉ names := by
  constructor
  · intro ⟨_, others, _, down, same⟩
    rw [parts, List.append_cancel_left_eq] at same
    rwa [same]
  · intro down
    exact ⟨start, names, nonempty, down, parts⟩

end Path

end Labbook
