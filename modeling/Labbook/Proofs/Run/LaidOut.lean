import Labbook.Data.Record
import Labbook.Proofs.Outcome
import Mathlib.Algebra.Group.Nat.Defs

namespace Labbook

namespace Tensor
variable {α : Type} {dims : List Nat}

-- Every product of leading dimensions fits a word of 64 bits.
def Counted (dims : List Nat) : Prop := ∀ k, cellCount (dims.take k) < Word.bound64

-- Counting may begin with any word, and then every product on the way has it as a factor.
theorem foldlM_eq_some {n count : Nat} (small : n < Word.bound64) :
    dims.foldlM (fun n d => if n * d < Word.bound64 then some (n * d) else none) n = some count ↔
      (∀ k, n * cellCount (dims.take k) < Word.bound64) ∧ n * cellCount dims = count := by
  induction dims generalizing n with
  | nil => simpa [cellCount] using fun _ => small
  | cons d rest ih =>
    have product : ∀ tail, n * cellCount (d :: tail) = n * d * cellCount tail := fun tail =>
      (Nat.mul_assoc n d (cellCount tail)).symm
    rw [List.foldlM_cons, product]
    by_cases fits : n * d < Word.bound64
    · rw [if_pos fits]
      refine (ih fits).trans (and_congr_left fun _ => ⟨?_, ?_⟩)
      · intro each k
        cases k with
        | zero => simpa [cellCount] using small
        | succ k =>
          rw [List.take_succ_cons, product]
          exact each k
      · intro each k
        rw [← product]
        exact each (k + 1)
    · rw [if_neg fits]
      refine iff_of_false nofun ?_
      intro ⟨each, _⟩
      exact fits (by simpa [cellCount] using each 1)

theorem wordCount?_eq_some {count : Nat} :
    wordCount? dims = some count ↔ Counted dims ∧ cellCount dims = count := by
  have start := @foldlM_eq_some dims 1 count (by decide)
  simp only [Nat.one_mul] at start
  exact start

theorem wordCount?_eq_none : wordCount? dims = none ↔ ¬Counted dims := by
  constructor
  · intro missing counted
    rw [wordCount?_eq_some.mpr ⟨counted, rfl⟩] at missing
    cases missing
  · intro many
    apply Option.eq_none_iff_forall_ne_some.mpr
    intro count found
    exact many (wordCount?_eq_some.mp found).1

theorem storable_iff : storable dims = true ↔ cellCount (dims.filter (· ≠ 0)) < 2 ^ 63 := by
  simp [storable]

theorem cellCount_filter_pos (dims : List Nat) : 0 < cellCount (dims.filter (· ≠ 0)) := by
  induction dims with
  | nil => decide
  | cons n rest ih =>
    cases n with
    | zero => exact ih
    | succ n => exact Nat.mul_pos n.succ_pos ih

-- A size 0 brings a product down to 0, so none goes beyond the product of the other sizes.
theorem cellCount_take_le (dims : List Nat) (k : Nat) :
    cellCount (dims.take k) ≤ cellCount (dims.filter (· ≠ 0)) := by
  induction dims generalizing k with
  | nil => simp
  | cons n rest ih =>
    cases k with
    | zero => exact cellCount_filter_pos (n :: rest)
    | succ k =>
      cases n with
      | zero =>
        change 0 * _ ≤ _
        simp
      | succ n => exact Nat.mul_le_mul_left (n + 1) (ih k)

theorem cellCount_le (dims : List Nat) : cellCount dims ≤ cellCount (dims.filter (· ≠ 0)) := by
  simpa using cellCount_take_le dims dims.length

theorem counted_of_small (small : cellCount (dims.filter (· ≠ 0)) < 2 ^ 63) : Counted dims := by
  intro k
  have below := cellCount_take_le dims k
  exact Nat.lt_of_le_of_lt below (Nat.lt_trans small (by decide))

theorem mem_padded {t : Tensor α} {fill a : α} (fits : t.size ≤ cellCount dims) :
    a ∈ (t.padded dims fill).cells ↔ a ∈ t.cells ∨ a = fill ∧ t.size < cellCount dims := by
  unfold padded
  dsimp only
  rw [List.take_of_length_le fits, List.mem_append, List.mem_replicate]
  unfold size
  constructor
  · rintro (own | ⟨room, same⟩)
    · exact .inl own
    · exact .inr ⟨same, by omega⟩
  · rintro (own | ⟨same, room⟩)
    · exact .inl own
    · exact .inr ⟨by omega, same⟩

-- What comes of laying samples out on other dimensions, with what they are if they fit.
inductive Reshapes {β : Type} (size : Nat) (dims : List Nat) (laid : β) : Outcome β → Prop where
  | uncounted (many : ¬Counted dims) : Reshapes size dims laid (.error (.gridUncounted dims))
  | crowded (counted : Counted dims) (more : cellCount dims < size) :
      Reshapes size dims laid (.error (.gridTooSmall size dims))
  | unstorable (counted : Counted dims) (fits : size ≤ cellCount dims)
      (large : 2 ^ 63 ≤ cellCount (dims.filter (· ≠ 0))) :
      Reshapes size dims laid (.error (.gridTooLarge dims))
  | fitting (fits : size ≤ cellCount dims) (small : cellCount (dims.filter (· ≠ 0)) < 2 ^ 63) :
      Reshapes size dims laid (.ok laid)

theorem Reshapes.map {β γ : Type} {size : Nat} {laid : β} {outcome : Outcome β} (f : β → γ)
    (run : Reshapes size dims laid outcome) : Reshapes size dims (f laid) (f <$> outcome) := by
  cases run with
  | uncounted many => exact .uncounted many
  | crowded counted more => exact .crowded counted more
  | unstorable counted fits large => exact .unstorable counted fits large
  | fitting fits small => exact .fitting fits small

theorem reshapes (dims : List Nat) (fill : α) (t : Tensor α) :
    Reshapes t.size dims (t.padded dims fill) (t.reshaped dims fill) := by
  unfold reshaped
  split
  next many => exact .uncounted (wordCount?_eq_none.mp many)
  next count found =>
    obtain ⟨counted, rfl⟩ := wordCount?_eq_some.mp found
    by_cases more : cellCount dims < t.size
    · rw [if_pos more]
      exact .crowded counted more
    · have fits := Nat.le_of_not_lt more
      rw [if_neg more]
      by_cases small : cellCount (dims.filter (· ≠ 0)) < 2 ^ 63
      · rw [storable_iff.mpr small]
        exact .fitting fits small
      · have large : storable dims = false := Bool.eq_false_iff.mpr (mt storable_iff.mp small)
        rw [large]
        exact .unstorable counted fits (Nat.le_of_not_lt small)

end Tensor

inductive Sample where
  | number (x : Binary64)
  | complex (c : ComplexSample)
  | text (s : String)

namespace RecordData

def fill : RecordData → Sample
  | numeric _ => .number .nan
  | complex _ => .complex ⟨.nan, .nan⟩
  | text _ => .text ""

def padded (dims : List Nat) : RecordData → RecordData
  | numeric t => .numeric (t.padded dims .nan)
  | complex t => .complex (t.padded dims ⟨.nan, .nan⟩)
  | text t => .text (t.padded dims "")

-- The record on the grid that its run declares, or as it is.
def onShape : Option (List Nat) → RecordData → RecordData
  | none, data => data
  | some dims, data => data.padded dims

variable {data : RecordData} {dims : List Nat}

theorem reshapes (dims : List Nat) (data : RecordData) :
    Tensor.Reshapes data.size dims (data.padded dims) (data.reshaped dims) := by
  cases data with
  | numeric t => exact (t.reshapes dims _).map numeric
  | complex t => exact (t.reshapes dims _).map complex
  | text t => exact (t.reshapes dims _).map text

theorem reshaped_eq_ok {laid : RecordData} (done : data.reshaped dims = .ok laid) :
    laid = data.padded dims ∧ data.size ≤ cellCount dims ∧ cellCount dims < 2 ^ 63 := by
  have run := data.reshapes dims
  rw [done] at run
  cases run with
  | fitting fits small => exact ⟨rfl, fits, Nat.lt_of_le_of_lt (Tensor.cellCount_le dims) small⟩

theorem isComplex_onShape (shape : Option (List Nat)) (data : RecordData) :
    (data.onShape shape).isComplex = data.isComplex := by
  cases shape <;> cases data <;> rfl

end RecordData

end Labbook
