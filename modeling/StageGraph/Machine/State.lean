import StageGraph.Registry
import StageGraph.Resolvable.Polling

/-! The state of the machine that runs pipelines.

Results have slots: one for every stage and for every declared input. A slot is filled once. Whatever
waits, waits for slots to be filled, for the clock, or for the output of a child pipeline; `standing` tells
from the state alone what has become of it. What breaks down never comes to stand. Who looks takes new
results in, and no more than `intake` of them at a time; what has been taken in once is there for everybody.
A pipeline at work is an `Instance`, a stage at work a `Task`. The clock counts milliseconds and moves only
when no task can. -/
namespace StageGraph

/-- The place of a result. -/
inductive Slot where
  | empty
  /-- A result that nobody has taken in so far. -/
  | fresh (o : Outcome)
  | known (o : Outcome)

namespace Slot

/-- What is in a slot. -/
def outcome? : Slot → Poll Value
  | empty => none
  | fresh o => some o
  | known o => some o

/-- Puts an outcome into a slot; a slot that is filled stays as it is. -/
def fill (o : Outcome) : Slot → Slot
  | empty => fresh o
  | filled => filled

end Slot

/-- A reference that has been looked up: the value that its head names and the path behind the head, or
the fault of a head that names nothing. Faults on the way are attributed to `blamed`, if it is given. -/
structure Link where
  base : Except Fault (Resolvable Nat)
  path : Path := []
  blamed : Option Value := none

/-- What a task waits for. -/
inductive Awaited where
  | link (l : Link)
  /-- An outcome that stands from some time on. -/
  | timer (due : Nat) (o : Outcome)
  /-- What breaks down whoever looks at it from some time on. -/
  | broken (due : Nat)
  /-- The output of an instance. -/
  | output (p : Nat)

/-- An argument before its stage starts. -/
inductive Source where
  | reference (path : String)
  | later (ms : Nat) (o : Outcome)
  | broken (ms : Nat)

/-- How far the output of an instance is. -/
inductive Output where
  | unread
  | linked (r : Progress Link)
  | known (o : Outcome)

/-- A pipeline at work. Instances are known by their number. -/
structure Instance where
  spec : Spec
  settings : Settings
  /-- Where names of stages are looked up: the instance itself, then those around it. -/
  scope : List Nat
  /-- The instances with which this one ends: itself, then those whose tasks brought it about. -/
  keepers : List Nat
  /-- The task that started it. -/
  starter : Option Nat
  input : Resolvable Nat
  /-- The slots of the declared inputs. -/
  bindings : List (String × Nat)
  /-- The slots of the stages. -/
  stages : List (String × Nat)
  /-- The tasks that are still to be started. -/
  jobs : List Nat
  output : Output := .unread
  alive : Bool := true

/-- How far a task is. -/
inductive Phase where
  | unstarted (args : List (String × Resolvable Source)) (positional : Bool)
  | gathering (names : List String) (args : List (Progress Awaited))
  | resting (due : Nat) (next : Reply)
  | hanging
  | settling (result : Progress Awaited)
  | finished

/-- One invocation of a function. Tasks are known by their number. -/
structure Task where
  function : Function
  /-- The node of the stage, to which faults are attributed. -/
  node : Value
  /-- The node to which a reference whose head names nothing is attributed. -/
  inputNode : Value
  pipeline : Option Nat
  /-- Where the result goes. -/
  slot : Nat
  phase : Phase

/-- A call that a handler received. -/
structure Received where
  task : Nat
  function : String
  recorded : Bool
  args : Fields

structure Machine where
  registry : Registry
  clock : Nat := 0
  slots : Array Slot := #[]
  /-- How many fresh results the look that is under way may still take in. -/
  room : Nat := 0
  instances : Array Instance := #[]
  tasks : Array Task := #[]
  /-- The tasks that wait for their turn, in order. -/
  ready : List Nat := []
  /-- The tasks that wait for something else, the longest waiting first. -/
  blocked : List Nat := []
  /-- All calls so far, in order. -/
  log : Array Received := #[]

/-- The slots that stay empty when an instance ends, each with what is missing then. -/
def Instance.abandoned (i : Instance) : List (Nat × Cause) :=
  i.stages.map (fun s => (s.2, .cancelled s.1)) ++ i.bindings.map fun b => (b.2, .unboundInput b.1)

/-- The moments that something awaited waits for. -/
def Awaited.moments : Awaited → List Nat
  | .timer due _ | .broken due => [due]
  | _ => []

def Phase.moments : Phase → List Nat
  | .gathering _ args => (Progress.awaitedOfAll args).flatMap Awaited.moments
  | .resting due _ => [due]
  | .settling result => result.awaited.flatMap Awaited.moments
  | _ => []

/-- What has become of a link, by what asking for slots tells. -/
def Link.look {m : Type → Type} [Monad m] (slot : Nat → m (Poll Value)) (l : Link) : m (Poll Value) := do
  let found ←
    match l.base with
    | .ok base => base.obtain? slot l.path
    | .error f => pure (some (.error f))
  return found.map (Except.mapError (Fault.blame? · l.blamed))

namespace Machine

/-- What is in a slot. -/
def slot (m : Machine) (s : Nat) : Poll Value := (m.slots[s]?).bind Slot.outcome?

/-- What has become of a link, by what is in the slots. -/
def linked (m : Machine) (l : Link) : Poll Value := l.look (m := Id) m.slot

/-- What has become of something awaited. An output is known once it has been read. -/
def standing (m : Machine) : Awaited → Poll Value
  | .link l => m.linked l
  | .timer due o => if due ≤ m.clock then some o else none
  | .broken _ => none
  | .output p =>
    match (m.instances[p]?).map Instance.output with
    | some (.known o) => some o
    | _ => none

/-- What has become of something awaited, unless it has broken down. -/
def sound? (m : Machine) : Awaited → Option (Poll Value)
  | .broken due => if due ≤ m.clock then none else some none
  | a => some (m.standing a)

/-- Whether something awaited gives cause to look at it again. -/
def stirs (m : Machine) : Awaited → Bool
  | .output p =>
    match (m.instances[p]?).map Instance.output with
    | some (.linked r) => r.awaited.any fun l => (m.linked l).isSome
    | _ => true
  | .broken due => due ≤ m.clock
  | a => (m.standing a).isSome

def alive (m : Machine) (p : Nat) : Bool :=
  match m.instances[p]? with
  | some i => i.alive
  | none => false

/-- The settings of an instance while it lives. -/
def settings? (m : Machine) (p : Nat) : Option Settings :=
  match m.instances[p]? with
  | some i => if i.alive then some i.settings else none
  | none => none

/-- A pipeline as the functions it calls see it. -/
def owner? (m : Machine) (p : Nat) : Option Owner :=
  (m.instances[p]?).map fun i => ⟨i.alive, i.settings⟩

/-- Puts an outcome into a slot. -/
def fill (m : Machine) (s : Nat) (o : Outcome) : Machine :=
  { m with slots := m.slots.modify s (Slot.fill o) }

/-- How many fresh results can be taken in at a time. -/
def intake : Nat := 128

/-- Begins a look. -/
def refreshed (m : Machine) : Machine := { m with room := intake }

/-- Takes in what is in a slot, if there is room for it. -/
def receive (s : Nat) : StateM Machine (Poll Value) := fun m =>
  match m.slots[s]? with
  | some (.known o) => (some o, m)
  | some (.fresh o) =>
    if m.room = 0 then (none, m)
    else (some o, { m with slots := m.slots.setIfInBounds s (.known o), room := m.room - 1 })
  | _ => (none, m)

/-- Looks at something awaited. -/
def ask : Awaited → StateM Machine (Poll Value)
  | .link l => l.look receive
  | a => fun m => (m.standing a, m)

def setPhase (m : Machine) (k : Nat) (phase : Phase) : Machine :=
  { m with tasks := m.tasks.modify k fun t => { t with phase := phase } }

/-- Puts a task aside until what it waits for gives cause to look at it again. -/
def park (m : Machine) (k : Nat) (phase : Phase) : Machine :=
  { m.setPhase k phase with blocked := m.blocked ++ [k] }

def setOutput (m : Machine) (p : Nat) (output : Output) : Machine :=
  { m with instances := m.instances.modify p fun i => { i with output := output } }

end Machine
end StageGraph
