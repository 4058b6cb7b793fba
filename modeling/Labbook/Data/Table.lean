namespace Labbook

abbrev Table (β : Type) := List (String × β)

namespace Table

variable {β : Type}

def find? (t : Table β) (name : String) : Option β := t.lookup name

-- Gives a name a value. A name that is there already keeps its place.
def insert (t : Table β) (name : String) (value : β) : Table β :=
  match t with
  | [] => [(name, value)]
  | (other, old) :: rest =>
    if other == name then (other, value) :: rest else (other, old) :: insert rest name value

def insertAll (t : Table β) (entries : Table β) : Table β :=
  entries.foldl (fun t (name, value) => t.insert name value) t

def sorted (t : Table β) : Table β := t.mergeSort fun a b => decide (a.1 ≤ b.1)

end Table

end Labbook
