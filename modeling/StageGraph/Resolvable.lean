import StageGraph.Path

/-! Values that may still be on their way.

A `Resolvable` is a tree whose leaves are finished values and pending ones. What a pending value is, the
type leaves open: a function names one by how it comes about, the running machine by the cell that holds
its result. -/
namespace StageGraph

inductive Resolvable (π : Type) where
  | ready (v : Value)
  | pending (p : π)
  | sequence (items : List (Resolvable π))
  | mapping (entries : List (String × Resolvable π))
  deriving Inhabited

namespace Resolvable

variable {π : Type}

mutual

/-- Whether anything in the tree is still pending. -/
def isPending : Resolvable π → Bool
  | ready _ => false
  | pending _ => true
  | sequence items => anyPending items
  | mapping entries => anyEntryPending entries

def anyPending : List (Resolvable π) → Bool
  | [] => false
  | r :: rest => r.isPending || anyPending rest

def anyEntryPending : List (String × Resolvable π) → Bool
  | [] => false
  | (_, r) :: rest => r.isPending || anyEntryPending rest

end

mutual

/-- The pending values of a tree, from left to right. -/
def awaited : Resolvable π → List π
  | ready _ => []
  | pending p => [p]
  | sequence items => awaitedItems items
  | mapping entries => awaitedEntries entries

def awaitedItems : List (Resolvable π) → List π
  | [] => []
  | r :: rest => r.awaited ++ awaitedItems rest

def awaitedEntries : List (String × Resolvable π) → List π
  | [] => []
  | (_, r) :: rest => r.awaited ++ awaitedEntries rest

end

/-- The element a segment selects among `items`. -/
def select {α : Type} (items : List α) (segment found : String) : Except Cause α :=
  match Path.index? segment with
  | none => .error (.notNavigable segment found)
  | some k =>
    match items[k]? with
    | some item => .ok item
    | none => .error (.indexOutOfRange k items.length)

/-- One navigation step from a value that is not pending itself. -/
def step (segment : String) : Resolvable π → Except Cause (Resolvable π)
  | ready (.array items) => (select items segment "array").map ready
  | ready (.object fields) =>
    match Fields.get? fields segment with
    | some v => .ok (ready v)
    | none => .error (.missingKey segment)
  | sequence items => select items segment "sequence"
  | mapping entries =>
    match List.lookup segment entries with
    | some r => .ok r
    | none => .error (.missingKey segment)
  | ready v => .error (.notNavigable segment v.kindName)
  | pending _ => .error (.notNavigable segment "pending")

end Resolvable
end StageGraph
