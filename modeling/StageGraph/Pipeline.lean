import StageGraph.Machine.Drive

/-! Pipelines from their documents to their results.

A document is built into an instance, with nothing running. Its run takes a value for every declared input,
starts the stages, waits for the output no longer than the settings allow, and ends the instance whatever
came of it. Functions can also be invoked without a pipeline. -/
namespace StageGraph.Machine

/-- Reads a document and makes an instance of it. -/
def build (m : Machine) (document : Value) (settings : Settings) : Except Fault (Nat × Machine) := do
  m.assemble (← Spec.parse document) { settings }

/-- The supplied values in the order of the declared names: as many as there are names, and one for each.
Of a name that is supplied twice the last value counts. -/
def matchInputs (spec : Spec) (supplied : List (String × Value)) : Except Fault (List Value) :=
  let fields := Fields.ofList supplied
  if fields.length = spec.input.length then
    spec.input.mapM fun name =>
      match Fields.get? fields name with
      | some v => .ok v
      | none => .error ⟨.missingInput name, some spec.inputNode⟩
  else .error ⟨.inputCount spec.input.length fields.length, some spec.inputNode⟩

/-- Fills the slots of the declared inputs. -/
def bindInputs (m : Machine) (i : Instance) (values : List Value) : Machine :=
  ((i.bindings.map Prod.snd).zip values).foldl (fun m (s, v) => m.fill s (.ok v)) m

/-- Runs an instance that is there and has not run. Without fuel there is no result. -/
def run (choose : Choice) (fuel : Nat) (m : Machine) (p : Nat) (supplied : List (String × Value)) :
    Option Outcome × Machine :=
  match m.instances[p]? with
  | none => (none, m)
  | some i =>
    match matchInputs i.spec supplied with
    | .error f => (some (.error f), m.retire p)
    | .ok values =>
      let (verdict, m) := drive choose (.output p) (some (m.clock + i.settings.patience)) fuel
        ((m.bindInputs i values).start p)
      let result : Option Outcome :=
        match verdict with
        | some (.outcome o) => some o
        | some .late => some (.error ⟨.timeout i.settings.timeout, none⟩)
        | some .stuck => none
        | none => none
      (result, m.retire p)

/-- Waits for something without a deadline. There is no result when nothing can bring it about. -/
def await (choose : Choice) (fuel : Nat) (m : Machine) (goal : Awaited) : Option Outcome × Machine :=
  match drive choose goal none fuel m with
  | (some (.outcome o), m) => (some o, m)
  | (_, m) => (none, m)

/-- Lets some milliseconds pass. -/
def pass (choose : Choice) (fuel : Nat) (m : Machine) (ms : Nat) : Machine :=
  (m.await choose fuel (.timer (m.clock + ms) (.ok .null))).2

/-- What waits for a slot. -/
def Awaited.ofSlot (s : Nat) : Awaited := .link { base := .ok (.pending s) }

/-- Adds a task outside of all pipelines, as the next to have its turn; gives the slot of its result. -/
def addTask (m : Machine) (f : Function) (node : Value) (phase : Phase) : Nat × Machine :=
  let task : Task :=
    { function := f, node, inputNode := node, pipeline := none, slot := m.slots.size, phase }
  (m.slots.size,
    { m with slots := m.slots.push .empty, tasks := m.tasks.push task, ready := m.ready ++ [m.tasks.size] })

/-- Invokes a function with arguments of which some may come later. -/
def invoke (choose : Choice) (fuel : Nat) (m : Machine) (f : Function) (node : Value)
    (args : List (String × Resolvable Source)) (positional : Bool) : Option Outcome × Machine :=
  let (slot, m) := m.addTask f node (.unstarted args positional)
  m.await choose fuel (Awaited.ofSlot slot)

/-- The recorded calls, in order. -/
def recorded (m : Machine) : List Received := m.log.toList.filter Received.recorded

/-- Forgets the calls so far. -/
def forgetCalls (m : Machine) : Machine := { m with log := #[] }

end StageGraph.Machine
