import StageGraph.Resolvable.Polling

/-! Values that come later, without a machine.

A shelf holds deferred values under numbers. A delay runs from the moment at which it is first asked for; a
shared value is worked out once for all who ask, and is made of values that were put up before it. To wait
means to ask, and to ask again whenever the next delay is over. -/
namespace StageGraph

inductive Deferred where
  /-- An outcome that stands `ms` milliseconds after it was first asked for; `due` once it was. -/
  | delay (ms : Nat) (o : Outcome) (due : Option Nat)
  /-- A value that never comes. -/
  | never (asked : Bool)
  /-- A value made of earlier ones. -/
  | shared (p : Progress Nat) (asked : Bool)

/-- Deferred values by number, and the time in milliseconds. -/
structure Shelf where
  clock : Nat := 0
  items : Array Deferred := #[]

namespace Deferred

/-- A value that comes by itself after some milliseconds. -/
def after (ms : Nat) (o : Outcome) : Deferred := delay ms o none

/-- A value that all who ask share. -/
def sharing (r : Resolvable Nat) : Deferred := shared r.progress false

/-- The value from the moment on at which it is asked for. -/
def start (now : Nat) : Deferred → Deferred
  | delay ms o due => delay ms o (some (due.getD (now + ms)))
  | never _ => never true
  | shared p _ => shared p true

/-- The moment that a value waits for. -/
def moment? : Deferred → Option Nat
  | delay _ _ due => due
  | _ => none

/-- Whether the value was ever asked for. -/
def asked : Deferred → Bool
  | delay _ _ due => due.isSome
  | never asked => asked
  | shared _ asked => asked

end Deferred

namespace Shelf

/-- Puts a value up; its number is the next free one. -/
def add (s : Shelf) (d : Deferred) : Nat × Shelf := (s.items.size, { s with items := s.items.push d })

/-- Asks for the value of a number, which starts it. Shared values may nest `depth` deep. -/
def ask : Nat → Nat → StateM Shelf (Poll Value)
  | 0, _ => pure none
  | depth + 1, n => do
    modify fun s => { s with items := s.items.modify n (Deferred.start s.clock) }
    let s ← get
    match s.items[n]? with
    | some (.delay _ o (some due)) => pure (if due ≤ s.clock then some o else none)
    | some (.shared p _) => do
      let p ← p.look (ask depth)
      modify fun s => { s with items := s.items.setIfInBounds n (.shared p true) }
      pure p.outcome?
    | _ => pure none

/-- The next moment at which a delay is over. -/
def nextMoment? (s : Shelf) : Option Nat :=
  ((s.items.toList.filterMap Deferred.moment?).filter (s.clock < ·)).min?

/-- Repeats a question until it is answered, so many times more at most; in between, the time goes to the
next moment at which a delay is over. -/
def wait {α : Type} (question : StateM Shelf (Poll α)) : Nat → StateM Shelf (Poll α)
  | 0 => question
  | n + 1 => do
    match ← question with
    | some answer => pure (some answer)
    | none =>
      match (← get).nextMoment? with
      | some moment => do
        modify fun s => { s with clock := moment }
        wait question n
      | none => pure none

/-- How deep shared values can nest. -/
def depth (s : Shelf) : Nat := s.items.size + 1

/-- Follows a path. Every wait passes the end of a delay, so there are not more of them than values. -/
def navigate (r : Resolvable Nat) (path : Path) : StateM Shelf (Poll (Resolvable Nat)) := do
  let s ← get
  wait (r.navigate (ask s.depth) path) s.items.size

/-- Waits for the value of a tree, which is put up for that. -/
def resolve (r : Resolvable Nat) : StateM Shelf (Poll Value) := do
  let (n, s) := (← get).add (.sharing r)
  set s
  wait (ask s.depth n) s.items.size

end Shelf
end StageGraph
