import StageGraph.Resolvable

/-! How far a value has come whose parts are on their way.

`look` asks for what is still pending, from left to right, and keeps what it is told, so a part that has come
about stays as it is. A few parts are waited for together: the first of them to fail is the failure of the
whole. In a crowd every part has to wait its turn: a failure counts once all parts before it are there, and
is kept until then. -/
namespace StageGraph

/-- What asking tells: nothing yet, or how it came out. -/
abbrev Poll (α : Type) := Option (Except Fault α)

/-- A value on its way, as far as it is known. -/
inductive Progress (π : Type) where
  | done (o : Outcome)
  | pending (p : π)
  /-- A value to be made of several. -/
  | parts (whole : List Value → Value) (items : List (Progress π))
  deriving Inhabited

namespace Progress

variable {π : Type} {m : Type → Type} [Monad m]

/-- The outcome, once it is there. -/
def outcome? : Progress π → Poll Value
  | done o => some o
  | _ => none

def succeeded : Progress π → Bool
  | done (.ok _) => true
  | _ => false

def failed : Progress π → Bool
  | done (.error _) => true
  | _ => false

/-- The values of parts that are waited for together. A failure is known at once, of several the leftmost. -/
def together : List (Progress π) → Poll (List Value)
  | [] => some (.ok [])
  | done (.ok v) :: rest => (together rest).map (Except.map (v :: ·))
  | done (.error f) :: _ => some (.error f)
  | _ :: rest =>
    match together rest with
    | some (.error f) => some (.error f)
    | _ => none

/-- The values of parts that have their turns. Nothing is known past a part that is not there. -/
def inTurn : List (Progress π) → Poll (List Value)
  | [] => some (.ok [])
  | done (.ok v) :: rest => (inTurn rest).map (Except.map (v :: ·))
  | done (.error f) :: _ => some (.error f)
  | _ :: _ => none

/-- Whether parts are too many to be waited for together. -/
def crowded (items : List (Progress π)) : Bool := 30 < items.length

/-- The values of all parts, or the failure that counts. -/
def gathered (items : List (Progress π)) : Poll (List Value) :=
  if crowded items then inTurn items else together items

mutual

/-- Asks for what is pending. -/
def look (ask : π → m (Poll Value)) : Progress π → m (Progress π)
  | done o => pure (done o)
  | pending p => do
    match ← ask p with
    | some o => pure (done o)
    | none => pure (pending p)
  | parts whole items => do
    let items ← lookAll ask (crowded items) true items
    match gathered items with
    | some o => pure (done (o.map whole))
    | none => pure (parts whole items)

/-- Asks part after part, up to a failure that counts; in a crowd, that is one with all parts before it there.
`counts` tells whether a failure of the next part would. -/
def lookAll (ask : π → m (Poll Value)) (crowd counts : Bool) : List (Progress π) → m (List (Progress π))
  | [] => pure []
  | r :: rest => do
    let first ← look ask r
    if counts && first.failed then pure (first :: rest)
    else return first :: (← lookAll ask crowd (!crowd || counts && first.succeeded) rest)

end

/-- Asks for the pending parts of several. -/
def lookThrough (ask : π → m (Poll Value)) (items : List (Progress π)) : m (List (Progress π)) :=
  lookAll ask (crowded items) true items

mutual

/-- What is still asked for, from left to right. -/
def awaited : Progress π → List π
  | done _ => []
  | pending p => [p]
  | parts _ items => awaitedOfAll items

def awaitedOfAll : List (Progress π) → List π
  | [] => []
  | r :: rest => r.awaited ++ awaitedOfAll rest

end

end Progress

namespace Resolvable

variable {π : Type}

mutual

/-- A tree before anything of it is asked for. Objects keep the first position and the last value of a
repeated key. -/
def progress : Resolvable π → Progress π
  | ready v => .done (.ok v)
  | pending p => .pending p
  | sequence items => .parts .array (progressOfItems items)
  | mapping entries =>
    .parts (fun values => .object (Fields.ofList ((entries.map Prod.fst).zip values)))
      (progressOfEntries entries)

def progressOfItems : List (Resolvable π) → List (Progress π)
  | [] => []
  | r :: rest => r.progress :: progressOfItems rest

def progressOfEntries : List (String × Resolvable π) → List (Progress π)
  | [] => []
  | (_, r) :: rest => r.progress :: progressOfEntries rest

end

end Resolvable
end StageGraph
