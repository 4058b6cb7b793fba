import Labbook.Error
import Labbook.Number.Word

namespace Labbook

-- The product of the dimensions. No dimensions mean one cell.
def cellCount (dims : List Nat) : Nat := dims.foldr (· * ·) 1

structure Tensor (α : Type) where
  dims : List Nat
  cells : List α
  cells_length : cells.length = cellCount dims

namespace Tensor

variable {α β : Type}

def ofList (cells : List α) : Tensor α := ⟨[cells.length], cells, by simp [cellCount]⟩

def size (t : Tensor α) : Nat := t.cells.length

def map (f : α → β) (t : Tensor α) : Tensor β :=
  ⟨t.dims, t.cells.map f, by simp [t.cells_length]⟩

def padded (dims : List Nat) (fill : α) (t : Tensor α) : Tensor α :=
  let count := cellCount dims
  ⟨dims, t.cells.take count ++ List.replicate (count - t.cells.length) fill, by
    simp only [List.length_append, List.length_take, List.length_replicate]; omega⟩

-- The product of the dimensions, taken from the left in words of 64 bits. There is none once a product does
-- not fit a word, whatever dimensions follow.
def wordCount? (dims : List Nat) : Option Nat :=
  dims.foldlM (fun n d => if n * d < Word.bound64 then some (n * d) else none) 1

-- Whether an array of these dimensions can be stored at all: the product of the dimensions that are
-- not zero stays below half the words.
def storable (dims : List Nat) : Bool := cellCount (dims.filter (· ≠ 0)) < 0x8000000000000000

def reshaped (dims : List Nat) (fill : α) (t : Tensor α) : Outcome (Tensor α) :=
  match wordCount? dims with
  | none => .error (.gridUncounted dims)
  | some count =>
    if count < t.size then .error (.gridTooSmall t.size dims)
    else if !storable dims then .error (.gridTooLarge dims)
    else .ok (t.padded dims fill)

end Tensor

end Labbook
