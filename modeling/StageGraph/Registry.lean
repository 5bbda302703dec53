import StageGraph.Function

/-! The functions that specs can name, sorted by name; a later registration replaces an earlier one. -/
namespace StageGraph

structure Registry where
  functions : List (String × Function) := []

namespace Registry

def empty : Registry := {}

def register (r : Registry) (f : Function) : Registry := ⟨Table.insert f.name f r.functions⟩

def registerAll (r : Registry) (fs : List Function) : Registry := fs.foldl register r

def get? (r : Registry) (name : String) : Option Function := List.lookup name r.functions

def contains (r : Registry) (name : String) : Bool := (r.get? name).isSome

def names (r : Registry) : List String := r.functions.map Prod.fst

def size (r : Registry) : Nat := r.functions.length

/-- The functions of control flow, which the catalog leaves out. -/
def internalNames : List String := ["map", "remap_regex", "case_regex"]

/-- The descriptors of all functions but the excluded ones, sorted by name. -/
def catalogExcluding (r : Registry) (excluded : List String) : List Value :=
  (r.functions.filter fun entry => !excluded.contains entry.1).map fun entry => entry.2.descriptor

def catalog (r : Registry) : List Value := r.catalogExcluding internalNames

end Registry
end StageGraph
