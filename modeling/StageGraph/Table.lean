/-! Tables sorted by key. -/
namespace StageGraph.Table

variable {α : Type}

/-- Puts an entry where its key belongs; an entry with the same key gives way. -/
def insert (key : String) (a : α) : List (String × α) → List (String × α)
  | [] => [(key, a)]
  | (k, b) :: rest =>
    if key < k then (key, a) :: (k, b) :: rest
    else if key = k then (key, a) :: rest
    else (k, b) :: insert key a rest

/-- The table of the given entries; of entries with one key the last is kept. -/
def ofList (entries : List (String × α)) : List (String × α) :=
  entries.foldl (fun table entry => insert entry.1 entry.2 table) []

end StageGraph.Table
