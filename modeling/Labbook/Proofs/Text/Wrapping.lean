import Labbook.Picture.Frame
import Labbook.Plot.OfDataset
import Labbook.Proofs.Text.Words
import Mathlib.Data.List.Basic

namespace Labbook

def joined (line : List String) : String := " ".intercalate line

-- A line fits in the width, unless it holds a single word.
structure IsLine (width : Nat) (line : List String) : Prop where
  filled : line ≠ []
  fits : (joined line).length ≤ width ∨ line.length = 1

-- Words set in lines, by which rule ever.
structure SetIn (width : Nat) (words : List String) (lines : List (List String)) : Prop where
  whole : lines.flatten = words
  each : ∀ line ∈ lines, IsLine width line

section
variable {width : Nat} {line more : List String}

theorem joined_append (filled : line ≠ []) (nonempty : more ≠ []) :
    joined (line ++ more) = joined line ++ " " ++ joined more :=
  String.intercalate_append_of_ne_nil filled nonempty

theorem joined_length (filled : line ≠ []) (nonempty : more ≠ []) :
    (joined (line ++ more)).length = (joined line).length + 1 + (joined more).length := by
  rw [joined_append filled nonempty, String.length_append, String.length_append]
  rfl

theorem joined_singleton (word : String) : joined [word] = word := String.intercalate_singleton

theorem isLine_single (word : String) : IsLine width [word] := ⟨List.cons_ne_nil _ _, .inr rfl⟩

-- What remains of a line behind some of its words is no longer than the line.
theorem IsLine.drop (isLine : IsLine width line) (count : Nat) (nonempty : line.drop count ≠ []) :
    IsLine width (line.drop count) := by
  refine ⟨nonempty, ?_⟩
  rcases isLine.fits with fits | single
  · left
    by_cases empty : line.take count = []
    · have whole := List.take_append_drop count line
      rw [empty, List.nil_append] at whole
      rwa [whole]
    · have split := joined_length empty nonempty
      rw [List.take_append_drop] at split
      omega
  · right
    have positive := List.length_pos_of_ne_nil nonempty
    have fewer := List.length_drop (l := line) (i := count)
    omega

end

-- The words of the lines that are filled one after the other, `line` being the words of the current one.
def fillWords (width : Nat) (line : List String) : List String → List (List String)
  | [] => [line]
  | word :: rest =>
    if width < (joined line).length + 1 + word.length then line :: fillWords width [word] rest
    else fillWords width (line ++ [word]) rest

def setWords (width : Nat) : List String → List (List String)
  | [] => []
  | word :: rest => fillWords width [word] rest

section
variable {width : Nat} {line more rest : List String}

theorem joined_ne_empty (filled : line ≠ []) (clean : ∀ word ∈ line, IsWord word) :
    joined line ≠ "" := by
  cases line with
  | nil => exact absurd rfl filled
  | cons word others =>
    have first := (clean word List.mem_cons_self).filled
    cases others with
    | nil =>
      rw [joined_singleton]
      exact first
    | cons next later =>
      intro empty
      rw [joined, String.intercalate_cons_cons, String.append_eq_empty_iff,
        String.append_eq_empty_iff] at empty
      exact first empty.1.1

theorem fillLines_eq (filled : line ≠ []) (clean : ∀ word ∈ line, IsWord word)
    (ahead : ∀ word ∈ rest, IsWord word) :
    fillLines width (joined line) rest = (fillWords width line rest).map joined := by
  induction rest generalizing line with
  | nil =>
    rw [fillLines, if_neg (by simpa using joined_ne_empty filled clean)]
    rfl
  | cons word rest ih =>
    obtain ⟨here, later⟩ := List.forall_mem_cons.mp ahead
    have alone : ∀ other ∈ [word], IsWord other := List.forall_mem_singleton.mpr here
    rw [fillLines, if_neg (by simpa using joined_ne_empty filled clean), fillWords]
    split
    · have next := ih (List.cons_ne_nil word []) alone later
      rw [joined_singleton] at next
      rw [next, List.map_cons]
    · have longer := joined_append filled (List.cons_ne_nil word [])
      rw [joined_singleton] at longer
      rw [← longer]
      refine ih (List.append_ne_nil_of_left_ne_nil filled _) ?_ later
      exact List.forall_mem_append.mpr ⟨clean, alone⟩

theorem wrapTitle_eq (width : Nat) (text : String) :
    wrapTitle width text = (setWords width (words text)).map joined := by
  have clean : ∀ word ∈ words text, IsWord word := fun _ => isWord_of_mem
  unfold wrapTitle
  cases found : words text with
  | nil => rfl
  | cons word rest =>
    rw [found] at clean
    obtain ⟨here, later⟩ := List.forall_mem_cons.mp clean
    have first := @fillLines_eq width [word] rest (List.cons_ne_nil _ _)
      (List.forall_mem_singleton.mpr here) later
    rw [joined_singleton] at first
    rw [fillLines, if_pos (show "".isEmpty = true from rfl), first]
    rfl

theorem fillWords_flatten : (fillWords width line rest).flatten = line ++ rest := by
  induction rest generalizing line with
  | nil => simp [fillWords]
  | cons word rest ih =>
    rw [fillWords]
    split
    · rw [List.flatten_cons, ih, List.singleton_append]
    · rw [ih, List.append_assoc, List.singleton_append]

theorem fillWords_each (isLine : IsLine width line) :
    ∀ other ∈ fillWords width line rest, IsLine width other := by
  induction rest generalizing line with
  | nil =>
    rw [fillWords]
    exact List.forall_mem_singleton.mpr isLine
  | cons word rest ih =>
    rw [fillWords]
    split
    · exact List.forall_mem_cons.mpr ⟨isLine, ih (isLine_single word)⟩
    next fits =>
      refine ih ⟨List.append_ne_nil_of_left_ne_nil isLine.filled _, .inl ?_⟩
      rw [joined_length isLine.filled (List.cons_ne_nil word []), joined_singleton]
      exact Nat.le_of_not_lt fits

theorem setWords_setIn (width : Nat) (words : List String) : SetIn width words (setWords width words) := by
  cases words with
  | nil => exact ⟨rfl, fun line member => nomatch member⟩
  | cons word rest => exact ⟨fillWords_flatten, fillWords_each (isLine_single word)⟩

-- The current line takes every word that leaves it a line.
theorem fillWords_takes (filled : line ≠ []) (isLine : IsLine width (line ++ more)) :
    fillWords width line (more ++ rest) = fillWords width (line ++ more) rest := by
  induction more generalizing line with
  | nil => rw [List.nil_append, List.append_nil]
  | cons word more ih =>
    have split : line ++ word :: more = line ++ [word] ++ more := by
      rw [List.append_assoc, List.singleton_append]
    have room : (joined line).length + 1 + word.length ≤ width := by
      have long := List.length_pos_of_ne_nil filled
      have fits : (joined (line ++ word :: more)).length ≤ width := by
        refine isLine.fits.resolve_right fun single => ?_
        rw [List.length_append, List.length_cons] at single
        omega
      have head := joined_length filled (List.cons_ne_nil word [])
      rw [joined_singleton] at head
      cases more with
      | nil => omega
      | cons next later =>
        have whole := joined_length (List.append_ne_nil_of_left_ne_nil filled [word])
          (List.cons_ne_nil next later)
        rw [← split] at whole
        omega
    rw [split] at isLine ⊢
    rw [List.cons_append, fillWords, if_neg (Nat.not_lt.mpr room)]
    exact ih (List.append_ne_nil_of_left_ne_nil filled _) isLine

theorem fillWords_first (width : Nat) (line rest : List String) : ∃ taken later,
    rest = taken ++ later ∧ fillWords width line rest = (line ++ taken) :: setWords width later := by
  induction rest generalizing line with
  | nil => exact ⟨[], [], rfl, by rw [List.append_nil]; rfl⟩
  | cons word rest ih =>
    rw [fillWords]
    split
    · exact ⟨[], word :: rest, rfl, by rw [List.append_nil]; rfl⟩
    · obtain ⟨taken, later, rfl, done⟩ := ih (line ++ [word])
      refine ⟨word :: taken, later, rfl, ?_⟩
      rw [done, List.append_assoc, List.singleton_append]

-- Filling stays ahead of any other way to set the words: from wherever a line of the other one is
-- left, one line reaches at least its end.
theorem setWords_drop_le (lines : List (List String)) (each : ∀ line ∈ lines, IsLine width line)
    (count : Nat) : (setWords width (lines.flatten.drop count)).length ≤ lines.length := by
  induction lines generalizing count with
  | nil => simp [setWords]
  | cons line lines ih =>
    obtain ⟨isLine, others⟩ := List.forall_mem_cons.mp each
    rw [List.flatten_cons, List.drop_append, List.length_cons]
    cases left : line.drop count with
    | nil => exact Nat.le_succ_of_le (ih others (count - line.length))
    | cons word more =>
      have inside : count < line.length := by
        refine Nat.lt_of_not_le fun beyond => ?_
        rw [List.drop_eq_nil_of_le beyond] at left
        cases left
      have remains : IsLine width ([word] ++ more) := by
        have dropped := isLine.drop count (left ▸ List.cons_ne_nil word more)
        rwa [left] at dropped
      obtain ⟨taken, later, split, first⟩ := fillWords_first width ([word] ++ more) lines.flatten
      have reached : later = lines.flatten.drop taken.length := by
        rw [split, List.drop_left]
      rw [Nat.sub_eq_zero_of_le (Nat.le_of_lt inside), List.drop_zero, List.cons_append, setWords,
        fillWords_takes (List.cons_ne_nil word []) remains, first, List.length_cons, reached]
      exact Nat.succ_le_succ (ih others taken.length)

theorem setWords_fewest {words : List String} {lines : List (List String)}
    (other : SetIn width words lines) : (setWords width words).length ≤ lines.length := by
  have ahead := setWords_drop_le lines other.each 0
  rwa [List.drop_zero, other.whole] at ahead

end

theorem joined_flatten {lines : List (List String)} (filled : ∀ line ∈ lines, line ≠ []) :
    joined (lines.map joined) = joined lines.flatten := by
  induction lines with
  | nil => rfl
  | cons line lines ih =>
    obtain ⟨first, others⟩ := List.forall_mem_cons.mp filled
    cases lines with
    | nil => rw [List.map_singleton, joined_singleton, List.flatten_singleton]
    | cons next later =>
      have nonempty : (next :: later).flatten ≠ [] := by
        rw [List.flatten_cons]
        exact List.append_ne_nil_of_left_ne_nil (others next List.mem_cons_self) _
      rw [List.flatten_cons, joined_append first nonempty, ← ih others]
      exact String.intercalate_cons_cons

theorem words_joined {line : List String} (clean : ∀ word ∈ line, IsWord word) :
    words (joined line) = line := by
  rw [joined, words_intercalate isSeparator_space,
    List.flatMap_congr fun word member => words_of_isWord (clean word member)]
  exact List.flatMap_singleton' line

theorem words_lines {lines : List (List String)} (clean : ∀ word ∈ lines.flatten, IsWord word) :
    words ("\n".intercalate (lines.map joined)) = lines.flatten := by
  have each : ∀ line ∈ lines, words (joined line) = line := fun line member =>
    words_joined fun word listed => clean word (List.mem_flatten.mpr ⟨line, member, listed⟩)
  rw [words_intercalate isSeparator_newline, List.flatMap_map, List.flatMap_congr each]
  exact List.flatMap_id'

theorem wrapTitle_again (width : Nat) (text : String) :
    wrapTitle width ("\n".intercalate (wrapTitle width text)) = wrapTitle width text := by
  have whole := (setWords_setIn width (words text)).whole
  have same : words ("\n".intercalate (wrapTitle width text)) = words text := by
    rw [wrapTitle_eq, words_lines fun word member => isWord_of_mem (whole ▸ member), whole]
  rw [wrapTitle, same]
  rfl

structure Wrapped (width : Nat) (text : String) (lines : List String) : Prop where
  filled : ∀ line ∈ lines, line ≠ ""
  fits : ∀ line ∈ lines, line.length ≤ width ∨ line ∈ words text
  joins : " ".intercalate lines = normalizeBlanks text
  set : ∃ cut, SetIn width (words text) cut ∧ lines = cut.map joined
  fewest : ∀ cut, SetIn width (words text) cut → lines.length ≤ cut.length
  again : wrapTitle width ("\n".intercalate lines) = lines

-- A title is stored with its lines below each other, and a picture wraps what was stored.
theorem wrapTitle_wrapped (width : Nat) (text : String) :
    Wrapped width text (wrapTitle width text) ∧
      ∀ c : Canvas, { c with title := Plot.wrappedTitle text }.titleLines =
        wrapTitle Canvas.titleWidth text := by
  have set := setWords_setIn width (words text)
  have clean : ∀ line ∈ setWords width (words text), ∀ word ∈ line, word ∈ words text :=
    fun line member word listed => set.whole ▸ List.mem_flatten.mpr ⟨line, member, listed⟩
  have shown : ∀ line ∈ wrapTitle width text, ∃ own ∈ setWords width (words text),
      joined own = line := fun line member => List.mem_map.mp (wrapTitle_eq width text ▸ member)
  refine ⟨⟨?_, ?_, ?_, ⟨_, set, wrapTitle_eq width text⟩, ?_, wrapTitle_again width text⟩,
    fun _ => wrapTitle_again Canvas.titleWidth text⟩
  · intro line member
    obtain ⟨own, listed, rfl⟩ := shown line member
    exact joined_ne_empty (set.each own listed).filled fun word inside =>
      isWord_of_mem (clean own listed word inside)
  · intro line member
    obtain ⟨own, listed, rfl⟩ := shown line member
    rcases (set.each own listed).fits with fits | single
    · exact .inl fits
    · obtain ⟨word, rfl⟩ := List.length_eq_one_iff.mp single
      rw [joined_singleton]
      exact .inr (clean [word] listed word List.mem_cons_self)
  · rw [wrapTitle_eq]
    refine (joined_flatten fun line member => (set.each line member).filled).trans ?_
    rw [set.whole]
    rfl
  · intro cut other
    rw [wrapTitle_eq, List.length_map]
    exact setWords_fewest other

-- A word that is longer than the width has a line of its own, and the words around it do not share one.
example : wrapTitle 4 " a  longer b\nc " = ["a", "longer", "b c"] := by decide +kernel

end Labbook
