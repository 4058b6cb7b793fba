import Labbook.Attribute.ClassModel
import Labbook.Proofs.Text.Words
import Mathlib.Data.List.Basic
import Mathlib.Data.List.Forall2

namespace Labbook

-- The lines of a text. A line feed ends a line, and so does one behind a carriage return; the last line may
-- be without an end, but is not empty then.
inductive SplitsInto : List Char → List (List Char) → Prop where
  | nothing : SplitsInto [] []
  | last {line : List Char} (filled : line ≠ []) (whole : '\n' ∉ line) : SplitsInto line [line]
  | fed {line rest : List Char} {lines : List (List Char)} (whole : '\n' ∉ line)
      (bare : line.getLast? ≠ some '\r') (further : SplitsInto rest lines) :
      SplitsInto (line ++ '\n' :: rest) (line :: lines)
  | returned {line rest : List Char} {lines : List (List Char)} (whole : '\n' ∉ line)
      (further : SplitsInto rest lines) :
      SplitsInto (line ++ '\r' :: '\n' :: rest) (line :: lines)

section
variable {line rest cs : List Char} {lines : List (List Char)}

theorem unfed_iff : (∀ c ∈ line, (c == '\n') = false) ↔ '\n' ∉ line := by
  constructor
  · intro other member
    cases other '\n' member
  · rintro whole c member
    rw [beq_eq_false_iff_ne]
    rintro rfl
    exact whole member

theorem sourceLines_last (filled : line ≠ []) (whole : '\n' ∉ line) : sourceLines line = [line] := by
  unfold sourceLines
  rw [List.splitOnP_eq_singleton (unfed_iff.mpr whole)]
  cases line with
  | nil => exact absurd rfl filled
  | cons c line => rfl

theorem sourceLines_ended (whole : '\n' ∉ line) : sourceLines (line ++ '\n' :: rest) =
    (if line.getLast? = some '\r' then line.dropLast else line) :: sourceLines rest := by
  have pieces := List.splitOnP_ne_nil (· == '\n') rest
  unfold sourceLines
  dsimp only
  rw [List.splitOnP_append_cons_of_forall_mem (unfed_iff.mpr whole) '\n' rfl rest,
    List.dropLast_cons_of_ne_nil pieces, List.getLast?_cons_of_ne_nil pieces, List.map_cons]
  split <;> rfl

theorem SplitsInto.sourceLines_eq (splits : SplitsInto cs lines) : sourceLines cs = lines := by
  induction splits with
  | nothing => rfl
  | last filled whole => exact sourceLines_last filled whole
  | fed whole bare _ ih => rw [sourceLines_ended whole, if_neg bare, ih]
  | @returned line rest lines whole _ ih =>
    have unfed : '\n' ∉ line ++ ['\r'] := by
      rw [List.mem_append, not_or]
      exact ⟨whole, by decide⟩
    have ended := @sourceLines_ended (line ++ ['\r']) rest unfed
    rw [List.append_assoc, List.singleton_append, if_pos List.getLast?_concat, List.dropLast_concat,
      ih] at ended
    exact ended

theorem exists_splitsInto (cs : List Char) : ∃ lines, SplitsInto cs lines := by
  induction length : cs.length using Nat.strongRecOn generalizing cs with
  | ind n ih =>
    subst length
    by_cases fed : '\n' ∈ cs
    · obtain ⟨line, rest, rfl, whole⟩ := List.eq_append_cons_of_mem fed
      have shorter : rest.length < (line ++ '\n' :: rest).length := by
        rw [List.length_append, List.length_cons]
        omega
      obtain ⟨lines, further⟩ := ih _ shorter rest rfl
      by_cases returned : line.getLast? = some '\r'
      · obtain ⟨front, rfl⟩ := List.getLast?_eq_some_iff.mp returned
        refine ⟨front :: lines, ?_⟩
        rw [List.append_assoc, List.singleton_append]
        exact .returned (fun member => whole (List.mem_append_left _ member)) further
      · exact ⟨line :: lines, .fed whole returned further⟩
    · cases cs with
      | nil => exact ⟨[], .nothing⟩
      | cons c cs => exact ⟨[c :: cs], .last (List.cons_ne_nil c cs) fed⟩

theorem splitsInto_iff : SplitsInto cs lines ↔ lines = sourceLines cs := by
  constructor
  · exact fun splits => splits.sourceLines_eq.symm
  · rintro rfl
    obtain ⟨lines, splits⟩ := exists_splitsInto cs
    rwa [splits.sourceLines_eq]

end

def bytesOf (cs : List Char) : List UInt8 := (String.ofList cs).toByteArray.data.toList

def isIndentByte (b : UInt8) : Bool := b = 0x20 || b = 0x09

def marginSize (column : Nat) (line : List Char) : Nat :=
  (((bytesOf line).take column).takeWhile isIndentByte).length

theorem bytesOf_eq (cs : List Char) : bytesOf cs = cs.flatMap String.utf8EncodeChar := by
  rw [bytesOf, String.toByteArray_ofList, List.utf8Encode, List.toList_data_toByteArray]

theorem bytesOf_cons (c : Char) (cs : List Char) :
    bytesOf (c :: cs) = String.utf8EncodeChar c ++ bytesOf cs := by
  rw [bytesOf_eq, bytesOf_eq, List.flatMap_cons]

theorem isIndent_iff {c : Char} : isIndent c = true ↔ c = ' ' ∨ c = '\t' := by
  rw [isIndent, Bool.or_eq_true, decide_eq_true_eq, decide_eq_true_eq]

theorem encode_indent {c : Char} (indent : isIndent c = true) :
    ∃ b, String.utf8EncodeChar c = [b] ∧ isIndentByte b = true := by
  rcases isIndent_iff.mp indent with rfl | rfl
  · exact ⟨0x20, by decide, by decide⟩
  · exact ⟨0x09, by decide, by decide⟩

theorem isIndentByte_ofNat {n : Nat} (byte : n < 256) (other : n ≠ 0x20 ∧ n ≠ 0x09) :
    isIndentByte (UInt8.ofNat n) = false := by
  have back : (UInt8.ofNat n).toNat = n := by
    rw [UInt8.toNat_ofNat']
    exact Nat.mod_eq_of_lt byte
  unfold isIndentByte
  rw [Bool.or_eq_false_iff, decide_eq_false_iff_not, decide_eq_false_iff_not]
  constructor
  · intro same
    exact other.1 (back.symm.trans (congrArg UInt8.toNat same))
  · intro same
    exact other.2 (back.symm.trans (congrArg UInt8.toNat same))

-- No other character begins with the byte of a space or a tab.
theorem encode_other {c : Char} (other : isIndent c = false) :
    ∃ b rest, String.utf8EncodeChar c = b :: rest ∧ isIndentByte b = false := by
  have apart : c.val.toNat ≠ 0x20 ∧ c.val.toNat ≠ 0x09 := by
    rw [← Bool.not_eq_true, isIndent_iff, not_or] at other
    exact ⟨fun same => other.1 (Char.ext (UInt32.toNat.inj same)),
      fun same => other.2 (Char.ext (UInt32.toNat.inj same))⟩
  unfold String.utf8EncodeChar
  dsimp only
  split
  · exact ⟨_, _, rfl, isIndentByte_ofNat (by omega) apart⟩
  · split
    · exact ⟨_, _, rfl, isIndentByte_ofNat (by omega) (by omega)⟩
    · split
      · exact ⟨_, _, rfl, isIndentByte_ofNat (by omega) (by omega)⟩
      · exact ⟨_, _, rfl, isIndentByte_ofNat (by omega) (by omega)⟩

theorem margin_bytes (column : Nat) (line : List Char) :
    ((bytesOf line).take column).takeWhile isIndentByte =
      bytesOf ((line.take column).takeWhile isIndent) := by
  induction line generalizing column with
  | nil => cases column <;> rfl
  | cons c line ih =>
    cases column with
    | zero => rfl
    | succ column =>
      rw [bytesOf_cons, List.take_succ_cons]
      cases indent : isIndent c with
      | true =>
        obtain ⟨b, encoded, blank⟩ := encode_indent indent
        rw [encoded, List.singleton_append, List.take_succ_cons, List.takeWhile_cons_of_pos blank,
          List.takeWhile_cons_of_pos indent, bytesOf_cons, encoded, ih]
        rfl
      | false =>
        obtain ⟨b, rest, encoded, filled⟩ := encode_other indent
        rw [encoded, List.cons_append, List.take_succ_cons,
          List.takeWhile_cons_of_neg (Bool.eq_false_iff.mp filled),
          List.takeWhile_cons_of_neg (Bool.eq_false_iff.mp indent)]
        rfl

def indentOf (line : List Char) : List Char := line.takeWhile isIndent

-- What becomes of a line that loses its indentation up to a column. The cut is counted in bytes and falls
-- between two characters.
structure Unindents (column : Nat) (line piece : List Char) : Prop where
  uncut : ∃ margin, line = margin ++ piece ∧ (bytesOf margin).length = marginSize column line ∧
    ∀ c ∈ margin, c = ' ' ∨ c = '\t'
  deep : column ≤ (indentOf line).length → marginSize column line = column
  shallow : (indentOf line).length < column → line = indentOf line ++ piece
  rest : indentOf piece = (indentOf line).drop column

theorem indented {blanks line : List Char} (within : blanks <+: indentOf line) :
    ∀ c ∈ blanks, isIndent c = true :=
  fun _ member => List.all_eq_true.mp List.all_takeWhile _ (within.subset member)

theorem length_bytesOf {blanks : List Char} (all : ∀ c ∈ blanks, isIndent c = true) :
    (bytesOf blanks).length = blanks.length := by
  induction blanks with
  | nil => rfl
  | cons c blanks ih =>
    obtain ⟨here, later⟩ := List.forall_mem_cons.mp all
    obtain ⟨b, encoded, -⟩ := encode_indent here
    rw [bytesOf_cons, encoded, List.singleton_append, List.length_cons, List.length_cons, ih later]

variable (column : Nat) (line : List Char)

theorem dedentLine_split : line = (indentOf line).take column ++ dedentLine column line := by
  have margin : (line.take column).takeWhile isIndent = (indentOf line).take column :=
    List.take_takeWhile.symm
  have front : (indentOf line).take column <+: line :=
    (List.take_prefix column _).trans (List.takeWhile_prefix isIndent)
  rw [dedentLine, margin]
  exact (List.prefix_iff_eq_append.mp front).symm

theorem marginSize_eq : marginSize column line = ((indentOf line).take column).length := by
  rw [marginSize, margin_bytes, ← List.take_takeWhile]
  exact length_bytesOf (indented (List.take_prefix column (indentOf line)))

theorem dedentLine_unindents : Unindents column line (dedentLine column line) := by
  have split := dedentLine_split column line
  have blank := indented (List.take_prefix column (indentOf line))
  refine ⟨⟨(indentOf line).take column, split, ?_, fun c member => isIndent_iff.mp (blank c member)⟩,
    fun deep => ?_, fun shallow => ?_, ?_⟩
  · rw [marginSize_eq, length_bytesOf blank]
  · rw [marginSize_eq, List.length_take_of_le deep]
  · rwa [List.take_of_length_le (Nat.le_of_lt shallow)] at split
  · have whole : indentOf line = (indentOf line).take column ++ indentOf (dedentLine column line) := by
      conv_lhs => rw [split]
      exact List.takeWhile_append_of_pos blank
    conv_lhs at whole => rw [← List.take_append_drop column (indentOf line)]
    exact (List.append_cancel_left whole).symm

theorem wordList_dedentLine : wordList (dedentLine column line) = wordList line := by
  have blank : ∀ c ∈ (indentOf line).take column, isBlank c = true := by
    intro c member
    rcases isIndent_iff.mp (indented (List.take_prefix column (indentOf line)) c member) with rfl | rfl
    · decide
    · decide
  conv_rhs => rw [dedentLine_split column line]
  exact (wordList_blanks blank _).symm

theorem SplitsInto.words {cs : List Char} {lines : List (List Char)} (splits : SplitsInto cs lines) :
    wordList cs = lines.flatMap wordList := by
  have feed : isBlank '\n' = true := by decide
  have back : isBlank '\r' = true := by decide
  induction splits with
  | nothing => rfl
  | last => rw [List.flatMap_singleton]
  | fed _ _ _ ih =>
    rw [List.flatMap_cons, ← ih]
    exact wordsFrom_append_blank feed _ _
  | @returned line rest _ _ _ ih =>
    have ends : ∀ c ∈ ['\n'], isBlank c = true := List.forall_mem_singleton.mpr feed
    rw [List.flatMap_cons, ← ih, ← wordList_blanks ends rest]
    exact wordsFrom_append_blank back _ _

theorem dedentChars_eq (cs : List Char) : dedentChars column cs =
    ['\n'].intercalate ((sourceLines cs).take 1 ++ (sourceLines cs).tail.map (dedentLine column)) := by
  unfold dedentChars
  cases sourceLines cs <;> rfl

theorem wordList_dedentChars (cs : List Char) : wordList (dedentChars column cs) = wordList cs := by
  have each : (sourceLines cs).tail.flatMap (fun line => wordList (dedentLine column line)) =
      (sourceLines cs).tail.flatMap wordList := by
    simp only [wordList_dedentLine]
  rw [dedentChars_eq, wordList_intercalate (by decide), List.flatMap_append, List.flatMap_map, each,
    (splitsInto_iff.mpr rfl).words, ← List.flatMap_append]
  cases sourceLines cs <;> rfl

-- The first line of a class text stays, every other line loses its indentation, and the lines are joined
-- again. Recovered expressions read the same as in the file.
theorem dedent_unindents (text : String) :
    (∃ lines pieces, (∀ other, SplitsInto text.toList other ↔ other = lines) ∧
        List.Forall₂ (Unindents column) lines.tail pieces ∧
        (dedent column text).toList = ['\n'].intercalate (lines.take 1 ++ pieces)) ∧
      normalizeBlanks (dedent column text) = normalizeBlanks text := by
  have chars : (dedent column text).toList = dedentChars column text.toList := String.toList_ofList
  refine ⟨⟨sourceLines text.toList, (sourceLines text.toList).tail.map (dedentLine column),
    fun _ => splitsInto_iff, ?_, chars.trans (dedentChars_eq column _)⟩, ?_⟩
  · rw [List.forall₂_map_right_iff, List.forall₂_same]
    exact fun line _ => dedentLine_unindents column line
  · rw [normalizeBlanks, normalizeBlanks, words, words, chars, wordList_dedentChars]

end Labbook
