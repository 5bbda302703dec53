import StageGraph.Machine.State

/-! Where references lead.

The head of a reference is the word `input`, which names the input of the reading pipeline, or the name of
a stage, which is looked up in the reading pipeline and then outwards through those that live. The look-up
takes place when the reference is first read. -/
namespace StageGraph.Machine

/-- The slot of the innermost stage of a name. Past a pipeline that has ended nothing is found. -/
def stageSlot? (m : Machine) (name : String) : List Nat → Option Nat
  | [] => none
  | p :: outer =>
    match m.instances[p]? with
    | none => none
    | some i =>
      if i.alive then
        match List.lookup name i.stages with
        | some s => some s
        | none => m.stageSlot? name outer
      else none

/-- The value that a head names, for a reader that lives. -/
def head? (m : Machine) (reader : Instance) (head : String) : Option (Resolvable Nat) :=
  if head = Spec.inputHead then some reader.input else (m.stageSlot? head reader.scope).map .pending

/-- Looks a reference up. A head that names nothing is attributed to `node`. -/
def link (m : Machine) (reader : Option Nat) (node : Value) (blamed : Option Value) (text : String) : Link :=
  match reader.bind fun p => m.instances[p]? with
  | none => { base := .error ⟨.pipelineDropped, none⟩, blamed }
  | some i =>
    if i.alive then
      let (head, rest) := Path.splitHead text
      match m.head? i head with
      | some base => { base := .ok base, path := Path.parse rest, blamed }
      | none => { base := .error ⟨.missingStage head text, some node⟩, blamed }
    else { base := .error ⟨.pipelineDropped, none⟩, blamed }

/-- An argument when its task starts: references are looked up, delays begin. -/
def begin (m : Machine) (t : Task) : Source → Awaited
  | .reference text => .link (m.link t.pipeline t.inputNode none text)
  | .later ms o => .timer (m.clock + ms) o
  | .broken ms => .broken (m.clock + ms)

/-- A promise when it is made: delays begin. -/
def promised (m : Machine) : Promise → Awaited
  | .later ms o => .timer (m.clock + ms) o
  | .broken ms => .broken (m.clock + ms)
  | .held p => .output p

end StageGraph.Machine

namespace StageGraph

/-- The shape of an output with its paths. -/
def OutputShape.tree : OutputShape → Resolvable String
  | single path => .pending path
  | list paths => .sequence (paths.map .pending)
  | named entries => .mapping (entries.map fun e => (e.1, .pending e.2))

/-- The arguments of a stage: those written down and not overridden, then those that refer to others. -/
def Stage.args (s : Stage) : List (String × Resolvable Source) :=
  let overridden (key : String) : Bool := s.input.any fun i => i.1 == key
  (s.params.filter fun p => !overridden p.1).map (fun p => (p.1, .ready p.2)) ++
    s.input.map fun i => (i.1, .pending (.reference i.2))

end StageGraph
