import StageGraph.Resolvable.Progress

/-! Asking for values in a tree.

`force` asks for all that is pending and puts the values together in the shape of the tree. `navigate` follows
a path and asks only for the pending values that it meets on the way. What it takes to ask, and whether asking
changes anything, is up to the monad; a machine that only looks uses `Id`. -/
namespace StageGraph.Resolvable

variable {π ρ : Type} {m : Type → Type} [Monad m]

/-- The value of a tree, as far as one look at it tells. -/
def force (ask : π → m (Poll Value)) (r : Resolvable π) : m (Poll Value) := do
  return (← r.progress.look ask).outcome?

/-- A pending value gives way to its outcome; anything else stays as it is. -/
def await (ask : π → m (Poll Value)) : Resolvable π → m (Poll (Resolvable π))
  | pending p => do return (← ask p).map (Except.map ready)
  | r => pure (some (.ok r))

/-- What stands at the end of a path. A pending value on the way is awaited before the next step, and one
at the end as well. -/
def navigate (ask : π → m (Poll Value)) (r : Resolvable π) : Path → m (Poll (Resolvable π))
  | [] => await ask r
  | segment :: rest => do
    match ← await ask r with
    | some (.ok found) =>
      match found.step segment with
      | .ok next => navigate ask next rest
      | .error cause => pure (some (.error ⟨cause, none⟩))
    | unfinished => pure unfinished

/-- The value at the end of a path. -/
def obtain? (ask : π → m (Poll Value)) (r : Resolvable π) (path : Path) : m (Poll Value) := do
  match ← navigate ask r path with
  | some (.ok found) => force ask found
  | some (.error f) => pure (some (.error f))
  | none => pure none

mutual

/-- The tree with other names for its pending values. -/
def map (rename : π → ρ) : Resolvable π → Resolvable ρ
  | ready v => ready v
  | pending p => pending (rename p)
  | sequence items => sequence (mapItems rename items)
  | mapping entries => mapping (mapEntries rename entries)

def mapItems (rename : π → ρ) : List (Resolvable π) → List (Resolvable ρ)
  | [] => []
  | r :: rest => map rename r :: mapItems rename rest

def mapEntries (rename : π → ρ) : List (String × Resolvable π) → List (String × Resolvable ρ)
  | [] => []
  | (key, r) :: rest => (key, map rename r) :: mapEntries rename rest

end

end StageGraph.Resolvable
