import Labbook.Text.Blank
import Mathlib.Tactic.Common

namespace Labbook

section
variable {word cs : List Char} {c : Char}

theorem wordsFrom_append_blank (blank : isBlank c = true) (before after : List Char) :
    wordsFrom word (before ++ c :: after) = wordsFrom word before ++ wordList after := by
  induction before generalizing word with
  | nil =>
    rw [List.nil_append, wordsFrom, wordsFrom, if_pos blank]
    split
    · rfl
    · rfl
  | cons first rest ih =>
    rw [List.cons_append, wordsFrom, wordsFrom]
    split
    · split
      · exact ih
      · rw [ih, List.cons_append]
    · exact ih

theorem wordsFrom_unblank (unblank : ∀ c ∈ cs, isBlank c = false) (nonempty : word ≠ [] ∨ cs ≠ []) :
    wordsFrom word cs = [word.reverse ++ cs] := by
  induction cs generalizing word with
  | nil =>
    have filled : word ≠ [] := nonempty.resolve_right fun missing => missing rfl
    rw [wordsFrom, if_neg (by simpa using filled), List.append_nil]
  | cons first rest ih =>
    obtain ⟨here, later⟩ := List.forall_mem_cons.mp unblank
    rw [wordsFrom, here, if_neg Bool.false_ne_true, ih later (.inl (List.cons_ne_nil _ _)),
      List.reverse_cons, List.append_assoc, List.singleton_append]

theorem mem_wordsFrom (unblank : ∀ c ∈ word, isBlank c = false) :
    ∀ found ∈ wordsFrom word cs, found ≠ [] ∧ ∀ c ∈ found, isBlank c = false := by
  have finished : ∀ {read : List Char}, ¬read.isEmpty = true → (∀ c ∈ read, isBlank c = false) →
      read.reverse ≠ [] ∧ ∀ c ∈ read.reverse, isBlank c = false := by
    intro read filled clean
    refine ⟨?_, fun c member => clean c (List.mem_reverse.mp member)⟩
    rw [Ne, List.reverse_eq_nil_iff, ← List.isEmpty_iff]
    exact filled
  have fresh : ∀ c ∈ ([] : List Char), isBlank c = false := fun c member => nomatch member
  induction cs generalizing word with
  | nil =>
    intro found member
    rw [wordsFrom] at member
    split at member
    · cases member
    next filled =>
      rw [List.mem_singleton.mp member]
      exact finished filled unblank
  | cons first rest ih =>
    intro found member
    rw [wordsFrom] at member
    split at member
    · split at member
      · exact ih fresh found member
      next filled =>
        rcases List.mem_cons.mp member with rfl | later
        · exact finished filled unblank
        · exact ih fresh found later
    next here =>
      exact ih (List.forall_mem_cons.mpr ⟨Bool.eq_false_iff.mpr here, unblank⟩) found member

theorem wordList_intercalate (blank : isBlank c = true) (texts : List (List Char)) :
    wordList ([c].intercalate texts) = texts.flatMap wordList := by
  induction texts with
  | nil => rfl
  | cons first rest ih =>
    cases rest with
    | nil => rw [List.intercalate_singleton, List.flatMap_singleton]
    | cons next later =>
      have cut : wordList (first ++ c :: [c].intercalate (next :: later)) =
          wordList first ++ wordList ([c].intercalate (next :: later)) := wordsFrom_append_blank blank _ _
      rw [List.intercalate_cons_cons, List.append_assoc, List.singleton_append, cut, ih]
      exact List.flatMap_cons.symm

-- Blanks in front of a text belong to no word.
theorem wordList_blanks {blanks : List Char} (all : ∀ c ∈ blanks, isBlank c = true) (cs : List Char) :
    wordList (blanks ++ cs) = wordList cs := by
  unfold wordList
  induction blanks with
  | nil => rfl
  | cons first rest ih =>
    obtain ⟨here, later⟩ := List.forall_mem_cons.mp all
    rw [List.cons_append, wordsFrom, if_pos here, if_pos List.isEmpty_nil]
    exact ih later

end

structure IsWord (text : String) : Prop where
  filled : text ≠ ""
  unblank : ∀ c ∈ text.toList, isBlank c = false

def IsSeparator (text : String) : Prop := ∃ c, text.toList = [c] ∧ isBlank c = true

theorem isSeparator_space : IsSeparator " " := ⟨' ', rfl, by decide⟩

theorem isSeparator_newline : IsSeparator "\n" := ⟨'\n', rfl, by decide⟩

theorem isWord_of_mem {text word : String} (member : word ∈ words text) : IsWord word := by
  obtain ⟨found, listed, rfl⟩ := List.mem_map.mp member
  have clean : ∀ c ∈ ([] : List Char), isBlank c = false := fun c member => nomatch member
  obtain ⟨filled, unblank⟩ := mem_wordsFrom clean found listed
  refine ⟨?_, ?_⟩
  · rw [Ne, ← String.toList_inj, String.toList_ofList]
    exact filled
  · rw [String.toList_ofList]
    exact unblank

theorem words_of_isWord {word : String} (isWord : IsWord word) : words word = [word] := by
  have nonempty : word.toList ≠ [] := fun empty => isWord.filled (String.toList_inj.mp empty)
  have alone : wordList word.toList = [word.toList] :=
    wordsFrom_unblank isWord.unblank (.inr nonempty)
  rw [words, alone, List.map_singleton, String.ofList_toList]

theorem words_intercalate {separator : String} (separates : IsSeparator separator)
    (texts : List String) : words (separator.intercalate texts) = texts.flatMap words := by
  obtain ⟨c, only, blank⟩ := separates
  rw [words, String.toList_intercalate, only, wordList_intercalate blank, List.flatMap_map,
    List.map_flatMap]
  rfl

end Labbook
