import StageGraph.Pipeline

/-! A pipeline on the bench: built, and handled step by step.

Beside the pipeline itself there are the children that its handle has started. A child's output is held
until it is given up or handed to a watcher, a task that waits for it on its own. -/
namespace StageGraph

structure Bench where
  machine : Machine
  /-- The pipeline. -/
  pipeline : Nat
  /-- Whether it has neither been dropped nor run. -/
  held : Bool := true
  /-- The children at hand. -/
  children : List (String × Nat) := []
  /-- The slots of the watchers. -/
  watchers : List (String × Nat) := []

namespace Bench

def without (name : String) (entries : List (String × Nat)) : List (String × Nat) :=
  entries.filter fun e => e.1 != name

/-- Gives a child up. -/
def abandon (b : Bench) (name : String) : Bool × Bench :=
  match List.lookup name b.children with
  | none => (false, b)
  | some p =>
    (true, { b with machine := b.machine.retire p, children := without name b.children })

/-- Starts a child under a name; a child of that name at hand is given up. -/
def spawn (b : Bench) (name : String) (document input : Value) : Except Fault Bench := do
  let spec ← Spec.parse document
  let (p, m) ← b.machine.spawn (some b.pipeline) none spec input
  let b := (abandon { b with machine := m } name).2
  return { b with children := (name, p) :: b.children }

/-- A function that stands for nothing but waiting. -/
def watching : Function where
  name := ""
  handler _ := .hang

/-- Hands a child to a watcher. -/
def watch (b : Bench) (name : String) : Bench :=
  match List.lookup name b.children with
  | none => b
  | some p =>
    let (slot, m) := b.machine.addTask watching .null (.settling (.pending (.output p)))
    { b with
      machine := m
      children := without name b.children
      watchers := (name, slot) :: without name b.watchers }

/-- Waits for the output of a child. What a watcher has to tell comes first, and it tells it once. -/
def resolve (choose : Machine.Choice) (fuel : Nat) (b : Bench) (name : String) : Option Outcome × Bench :=
  match List.lookup name b.watchers, List.lookup name b.children with
  | some slot, _ =>
    let (o, m) := b.machine.await choose fuel (Machine.Awaited.ofSlot slot)
    (o, { b with machine := m, watchers := without name b.watchers })
  | none, some p =>
    let (o, m) := b.machine.await choose fuel (.output p)
    (o, { b with machine := m })
  | none, none => (none, b)

/-- Lets go of the pipeline. -/
def drop (b : Bench) : Bool × Bench :=
  (b.held, { b with machine := if b.held then b.machine.retire b.pipeline else b.machine, held := false })

/-- Runs the pipeline, which is gone then. -/
def run (choose : Machine.Choice) (fuel : Nat) (b : Bench) (supplied : List (String × Value)) :
    Option Outcome × Bench :=
  if b.held then
    let (o, m) := b.machine.run choose fuel b.pipeline supplied
    (o, { b with machine := m, held := false })
  else (none, b)

def pass (choose : Machine.Choice) (fuel : Nat) (b : Bench) (ms : Nat) : Bench :=
  { b with machine := b.machine.pass choose fuel ms }

def alive (b : Bench) : Bool := b.machine.alive b.pipeline

/-- The spec and the settings of the pipeline while it is held. -/
def description? (b : Bench) : Option (Spec × Settings) :=
  if b.held then (b.machine.instances[b.pipeline]?).map fun i => (i.spec, i.settings) else none

end Bench
end StageGraph
