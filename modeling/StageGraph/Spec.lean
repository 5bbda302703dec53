import StageGraph.Fault

/-! Specs: the documents that describe pipelines.

A spec declares input names, stages and an output. Stages and outputs refer to values by paths whose head
is the word `input` or the name of a stage. `Spec.parse` accepts the documents of this shape and keeps,
beside what they say, the nodes that faults are attributed to. -/
namespace StageGraph

/-- One stage: which function it calls, and with what. -/
structure Stage where
  name : String
  function : String
  /-- The arguments written down in the spec. -/
  params : Fields
  /-- The arguments that refer to other values, by path. -/
  input : List (String × String)
  /-- Whether arguments were written as a list. -/
  positional : Bool
  node : Value
  /-- The node an unknown reference is attributed to: the stage's `input`, or the stage without one. -/
  inputNode : Value
  deriving Repr, Inhabited

/-- The shape of the output: one path, a list of paths, or paths by name. -/
inductive OutputShape where
  | single (path : String)
  | list (paths : List String)
  | named (entries : List (String × String))
  deriving Repr, Inhabited, DecidableEq

structure Spec where
  document : Value
  input : List String
  /-- The node that faults of input binding are attributed to. -/
  inputNode : Value
  stages : List Stage
  output : OutputShape
  /-- The node that faults of the output are attributed to: the document when the output is one path. -/
  outputNode : Value
  deriving Repr, Inhabited

namespace Spec

/-- The head that refers to a pipeline's own input. -/
def inputHead : String := "input"

def invalid (message : String) (node : Value) : Fault := ⟨.invalidSpec message, some node⟩

/-- A path has to be a string; `node` is blamed otherwise. -/
def reference (node : Value) : Value → Except Fault String
  | .string path => .ok path
  | _ => .error (invalid "references must be path strings" node)

/-- Paths by name, each a string. -/
def references (node : Value) (fields : Fields) : Except Fault (List (String × String)) :=
  fields.mapM fun field => do return (field.1, ← reference node field.2)

/-- First occurrences, in order. -/
def firstOccurrences : List String → List String
  | [] => []
  | name :: rest => name :: (firstOccurrences rest).filter (· ≠ name)

/-- The declared input names: a list of strings, of which repeated ones count once. -/
def parseInput (node : Value) : Except Fault (List String) :=
  match node with
  | .array items => do
    let names ← items.mapM fun item =>
      match item with
      | .string name => Except.ok name
      | _ => .error (invalid "input names must be strings" node)
    return firstOccurrences names
  | _ => .error (invalid "\"input\" must be a list of names" node)

/-- A stage's text field. -/
def textField (node : Value) (fields : Fields) (key : String) : Except Fault String :=
  match Fields.get? fields key with
  | some (.string s) => .ok s
  | _ => .error (invalid ("stage needs a string " ++ Cause.quoted key) node)

/-- The written arguments of a stage, and whether they are a list. -/
def parseParams (node : Value) (fields : Fields) : Except Fault (Fields × Bool) :=
  match Fields.get? fields "params" with
  | none => .ok ([], false)
  | some (.object params) => .ok (params, false)
  | some (.array _) => .ok ([], true)
  | some _ => .error (invalid "\"params\" must be a mapping" node)

/-- The referring arguments of a stage, and whether they are a list. -/
def parseReferences (node inputNode : Value) (fields : Fields) :
    Except Fault (List (String × String) × Bool) :=
  match Fields.get? fields "input" with
  | none => .ok ([], false)
  | some (.object input) => (references inputNode input).map fun refs => (refs, false)
  | some (.array _) => .ok ([], true)
  | some _ => .error (invalid "\"input\" must be a mapping" node)

def parseStage (node : Value) : Except Fault Stage :=
  match node with
  | .object fields => do
    let name ← textField node fields "name"
    let function ← textField node fields "func"
    if name.toList.contains '.' then throw ⟨.invalidStageName name, some node⟩
    let (params, listed) ← parseParams node fields
    let inputNode := (Fields.get? fields "input").getD node
    let (input, inputListed) ← parseReferences node inputNode fields
    return { name, function, params, input, positional := listed || inputListed, node, inputNode }
  | _ => .error (invalid "stage must be an object" node)

/-- The stages in order, with names that `seen` and the earlier ones do not have. -/
def parseStages (seen : List String) : List Value → Except Fault (List Stage)
  | [] => .ok []
  | node :: rest => do
    let stage ← parseStage node
    if seen.contains stage.name then throw ⟨.duplicateStage stage.name, some stage.node⟩
    return stage :: (← parseStages (stage.name :: seen) rest)

/-- The output's shape and the node its faults are attributed to. -/
def parseOutput (document node : Value) : Except Fault (OutputShape × Value) :=
  match node with
  | .string path => .ok (.single path, document)
  | .array items => (items.mapM (reference node)).map fun paths => (.list paths, node)
  | .object fields => (references node fields).map fun entries => (.named entries, node)
  | _ => .error (invalid "\"output\" must be a path, a list of paths or a mapping of paths" node)

/-- The declared input names and the node that their faults are attributed to. -/
def inputPart (document : Value) (fields : Fields) : Except Fault (List String × Value) :=
  match Fields.get? fields "input" with
  | none => .ok ([], document)
  | some node => (parseInput node).map fun names => (names, node)

/-- The stages of a document. -/
def stagesPart (fields : Fields) : Except Fault (List Stage) :=
  match Fields.get? fields "stages" with
  | none => .ok []
  | some (.array nodes) => parseStages [] nodes
  | some node => .error (invalid "\"stages\" must be a list" node)

/-- The output of a document. -/
def outputPart (document : Value) (fields : Fields) : Except Fault (OutputShape × Value) :=
  match Fields.get? fields "output" with
  | none => .error (invalid "missing \"output\"" document)
  | some node => parseOutput document node

/-- Reads a document: its input names, then its stages, then its output. -/
def parse (document : Value) : Except Fault Spec :=
  match document with
  | .object fields => do
    let (input, inputNode) ← inputPart document fields
    let stages ← stagesPart fields
    let (output, outputNode) ← outputPart document fields
    return { document, input, inputNode, stages, output, outputNode }
  | _ => .error (invalid "spec must be an object" document)

end Spec
end StageGraph
