import StageGraph.Machine.Scope

/-! How pipelines come and go.

`assemble` makes an instance of a spec, with a slot and a task for every stage; `start` gives its tasks
their turns. `retire` ends an instance together with all that its tasks brought about: their tasks are
over, and slots still empty are filled with the fault of what will not come any more. An output that comes
about ends its child. -/
namespace StageGraph.Machine

/-- What an instance is made from, beside its spec. -/
structure Placement where
  /-- A given input; without one the declared inputs have to be bound. -/
  input : Option Value := none
  settings : Settings
  /-- The scope around it. -/
  outer : List Nat := []
  /-- The instances with which it ends. -/
  keepers : List Nat := []
  starter : Option Nat := none

/-- A stage with its function. -/
def functionOf (m : Machine) (s : Stage) : Except Fault (Stage × Function) :=
  match m.registry.get? s.function with
  | some f => .ok (s, f)
  | none => .error ⟨.unknownFunction s.function, some s.node⟩

/-- The function of every stage. -/
def functionsOf (m : Machine) (spec : Spec) : Except Fault (List (Stage × Function)) :=
  spec.stages.mapM m.functionOf

/-- Numbers a list from a given number on. -/
def numbered {α : Type} (first : Nat) : List α → List (α × Nat)
  | [] => []
  | a :: rest => (a, first) :: numbered (first + 1) rest

/-- The declared inputs that have to be bound. -/
def Placement.names (place : Placement) (spec : Spec) : List String :=
  if place.input.isSome then [] else spec.input

/-- The tasks of the stages, each with a slot of its own. -/
def stageTasks (m : Machine) (stages : List (Stage × Function)) : List Task :=
  (numbered m.slots.size stages).map fun ((s, f), slot) =>
    { function := f, node := s.node, inputNode := s.inputNode, pipeline := some m.instances.size, slot,
      phase := .unstarted s.args s.positional }

/-- An instance before it starts, with slots for its stages and for its inputs. -/
def instanceOf (m : Machine) (spec : Spec) (place : Placement) (stages : List (Stage × Function)) : Instance :=
  let bindings := numbered (m.slots.size + stages.length) (place.names spec)
  { spec
    settings := place.settings
    scope := m.instances.size :: place.outer
    keepers := m.instances.size :: place.keepers
    starter := place.starter
    input :=
      match place.input with
      | some v => .ready v
      | none => .mapping (bindings.map fun b => (b.1, .pending b.2))
    bindings
    stages := (numbered m.slots.size stages).map fun ((s, _), slot) => (s.name, slot)
    jobs := (numbered m.tasks.size (m.stageTasks stages)).map Prod.snd }

/-- The machine with one more instance. -/
def assembled (m : Machine) (spec : Spec) (place : Placement) (stages : List (Stage × Function)) : Machine :=
  { m with
    slots := m.slots ++ Array.replicate (stages.length + (place.names spec).length) .empty
    instances := m.instances.push (m.instanceOf spec place stages)
    tasks := m.tasks ++ (m.stageTasks stages).toArray }

/-- Makes an instance. Nothing runs yet. -/
def assemble (m : Machine) (spec : Spec) (place : Placement) : Except Fault (Nat × Machine) := do
  let stages ← m.functionsOf spec
  return (m.instances.size, m.assembled spec place stages)

/-- Gives the tasks of an instance their turns. -/
def start (m : Machine) (p : Nat) : Machine :=
  match m.instances[p]? with
  | none => m
  | some i =>
    { m with
      ready := m.ready ++ i.jobs
      instances := m.instances.modify p fun i => { i with jobs := [] } }

/-- Makes and starts a child of a pipeline that lives. It ends with its parent when a task of the parent
starts it for itself; otherwise it belongs to whoever holds its output. -/
def spawn (m : Machine) (parent : Option Nat) (starter : Option Nat) (spec : Spec) (input : Value) :
    Except Fault (Nat × Machine) :=
  match parent.bind fun p => m.instances[p]? with
  | none => .error ⟨.pipelineDropped, none⟩
  | some i =>
    if i.alive then do
      let (child, m) ← m.assemble spec
        { input := some input, settings := i.settings, outer := i.scope,
          keepers := if starter.isSome then i.keepers else [], starter }
      return (child, m.start child)
    else .error ⟨.pipelineDropped, none⟩

/-- Starts a child for every input, up to the first that cannot be. -/
def spawnAll (m : Machine) (parent : Option Nat) (starter : Option Nat) (spec : Spec) :
    List Value → Except Fault (List Nat) × Machine
  | [] => (.ok [], m)
  | v :: rest =>
    match m.spawn parent starter spec v with
    | .error f => (.error f, m)
    | .ok (child, m) =>
      let (more, m) := m.spawnAll parent starter spec rest
      (more.map (child :: ·), m)

/-- Whether an instance ends with another. -/
def endsWith (m : Machine) (p : Nat) (other : Nat) : Bool :=
  match m.instances[other]? with
  | some i => i.keepers.contains p
  | none => false

/-- Ends an instance and all that end with it, tasks as well. -/
def halted (m : Machine) (p : Nat) : Machine :=
  { m with
    instances := m.instances.map fun i =>
      if i.keepers.contains p then { i with alive := false, jobs := [] } else i
    tasks := m.tasks.map fun t =>
      if t.pipeline.any (m.endsWith p) then { t with phase := .finished } else t }

/-- Ends an instance and all that end with it; their slots that are still empty are given up. -/
def retire (m : Machine) (p : Nat) : Machine :=
  let gone := m.instances.toList.filter fun i => i.keepers.contains p
  (gone.flatMap Instance.abandoned).foldl (fun m (s, cause) => m.fill s (.error ⟨cause, none⟩)) (m.halted p)

/-- The children of a task that live, but for those it keeps. -/
def children (m : Machine) (k : Nat) (kept : List Nat) : List Nat :=
  (List.range m.instances.size).filter fun p =>
    (match m.instances[p]? with
      | some i => i.alive && i.starter == some k
      | none => false) && !kept.contains p

/-- Ends the children of a task, but for those it keeps. -/
def release (m : Machine) (k : Nat) (kept : List Nat) : Machine := (m.children k kept).foldl retire m

/-- The output of an instance before anything of it is asked for. -/
def outputLinks (m : Machine) (p : Nat) (i : Instance) : Progress Link :=
  (i.spec.output.tree.map (m.link (some p) i.spec.outputNode (some i.spec.outputNode))).progress

/-- Looks at the output of an instance. An output that has come about is kept, and the instance ends. -/
def lookOutput (m : Machine) (p : Nat) (r : Progress Link) : Machine :=
  match r.look (Link.look receive) m with
  | (.done o, m) => (m.setOutput p (.known o)).retire p
  | (r, m) => m.setOutput p (.linked r)

/-- Reads the output of an instance that lives, which looks its references up the first time. -/
def readOutput (m : Machine) (p : Nat) : Machine :=
  match m.instances[p]? with
  | none => m
  | some i =>
    if i.alive then
      match i.output with
      | .unread => m.lookOutput p (m.outputLinks p i)
      | .linked r => m.lookOutput p r
      | .known _ => m
    else m

/-- Reads what is awaited, as far as reading is needed. -/
def read (m : Machine) : Awaited → Machine
  | .output p => m.readOutput p
  | _ => m

end StageGraph.Machine
