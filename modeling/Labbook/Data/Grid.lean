namespace Labbook

structure Grid (α : Type) where
  rows : Nat
  cols : Nat
  cells : Array α
  size_eq : cells.size = rows * cols

namespace Grid

variable {α β : Type}

def ofList? (rows cols : Nat) (cells : List α) : Option (Grid α) :=
  if h : cells.length = rows * cols then some ⟨rows, cols, cells.toArray, by simpa using h⟩ else none

def replicate (rows cols : Nat) (a : α) : Grid α :=
  ⟨rows, cols, Array.replicate (rows * cols) a, by simp⟩

def ofFn (rows cols : Nat) (f : Nat → Nat → α) : Grid α :=
  ⟨rows, cols, Array.ofFn (n := rows * cols) fun i => f (i.val / cols) (i.val % cols), by simp⟩

def get? (g : Grid α) (row col : Nat) : Option α :=
  if row < g.rows ∧ col < g.cols then g.cells[row * g.cols + col]? else none

def set (g : Grid α) (row col : Nat) (a : α) : Grid α :=
  if row < g.rows ∧ col < g.cols then
    ⟨g.rows, g.cols, g.cells.setIfInBounds (row * g.cols + col) a, by simp [g.size_eq]⟩
  else g

def toList (g : Grid α) : List α := g.cells.toList

def indexed (g : Grid α) : List (Nat × Nat × α) :=
  g.toList.mapIdx fun i a => (i / g.cols, i % g.cols, a)

def map (f : α → β) (g : Grid α) : Grid β := ⟨g.rows, g.cols, g.cells.map f, by simp [g.size_eq]⟩

def firstColumn (g : Grid α) : List α := (List.range g.rows).filterMap fun row => g.get? row 0

def firstRow (g : Grid α) : List α := (List.range g.cols).filterMap fun col => g.get? 0 col

end Grid

end Labbook
