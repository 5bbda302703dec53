import StageGraph.Number.Seconds
import StageGraph.Value.Text

/-! Everything that can go wrong with a pipeline.

A `Fault` is a cause and the node of the document it is attributed to. The frame nearest to the failure
attributes it; `Fault.blame` in an outer frame then changes nothing. Functions report failures of their own
as a `Failure`: a message or a fault, under any number of layers of context. -/
namespace StageGraph

/-- The broad class of a cause. -/
inductive Category where
  | structural
  | reference
  | contract
  | execution
  | timeout
  deriving DecidableEq, Repr

def Category.name : Category → String
  | structural => "structural"
  | reference => "reference"
  | contract => "contract"
  | execution => "execution"
  | timeout => "timeout"

/-- What went wrong. -/
inductive Cause where
  | invalidSpec (message : String)
  | invalidStageName (name : String)
  | duplicateStage (name : String)
  | unknownFunction (function : String)
  | inputCount (expected actual : Nat)
  | missingInput (name : String)
  | unboundInput (name : String)
  | pipelineDropped
  | missingStage (stage path : String)
  | indexOutOfRange (index length : Nat)
  | missingKey (key : String)
  | notNavigable (segment found : String)
  | positionalArgs (function : String)
  | missingArgument (function argument : String)
  | unexpectedArgument (function argument : String)
  | argumentType (function argument expected found : String)
  | returnType (function expected found : String)
  | cancelled (stage : String)
  | execution (message : String)
  | timeout (bound : Seconds)
  deriving DecidableEq, Repr, Inhabited

namespace Cause

def category : Cause → Category
  | invalidSpec _ | invalidStageName _ | duplicateStage _ | unknownFunction _ => .structural
  | inputCount _ _ | missingInput _ | unboundInput _ | pipelineDropped | cancelled _ => .structural
  | missingStage _ _ | indexOutOfRange _ _ | missingKey _ | notNavigable _ _ => .reference
  | positionalArgs _ | missingArgument _ _ | unexpectedArgument _ _ => .contract
  | argumentType _ _ _ _ | returnType _ _ _ => .contract
  | execution _ => .execution
  | timeout _ => .timeout

/-- A name between double quotes, as it is. -/
def quoted (s : String) : String := "\"" ++ s ++ "\""

def message : Cause → String
  | invalidSpec message => "invalid pipeline spec: " ++ message
  | invalidStageName name => "invalid stage name: " ++ quoted name ++ " (\".\" are forbidden)"
  | duplicateStage name => "duplicate name in call graph: " ++ name
  | unknownFunction function => "unknown function " ++ quoted function
  | inputCount expected actual =>
    "incorrect input parameters amount: expected " ++ Nat.repr expected ++ ", got " ++ Nat.repr actual
  | missingInput name => "missing input parameter " ++ quoted name
  | unboundInput name => "input " ++ quoted name ++ " was never bound"
  | pipelineDropped => "owning pipeline is no longer alive"
  | missingStage stage path => "missing stage " ++ quoted stage ++ " in input param " ++ quoted path
  | indexOutOfRange index length =>
    "index " ++ Nat.repr index ++ " out of range for sequence of length " ++ Nat.repr length
  | missingKey key => "key " ++ quoted key ++ " not found"
  | notNavigable segment found => "cannot look up " ++ quoted segment ++ " in " ++ found ++ " value"
  | positionalArgs function => "positional args are not supported for func " ++ quoted function
  | missingArgument function argument =>
    "func " ++ quoted function ++ " is missing required argument " ++ quoted argument
  | unexpectedArgument function argument =>
    "func " ++ quoted function ++ " got an unexpected argument " ++ quoted argument
  | argumentType function argument expected found =>
    "argument " ++ quoted argument ++ " of func " ++ quoted function ++ " must be " ++ expected
      ++ ", got " ++ found
  | returnType function expected found =>
    "func " ++ quoted function ++ " must return " ++ expected ++ ", got " ++ found
  | cancelled stage => "stage " ++ quoted stage ++ " was cancelled before producing a result"
  | execution message => message
  | timeout bound => "pipeline timed out after " ++ bound.toText ++ "s"

end Cause

/-- A cause and the node it is attributed to. -/
structure Fault where
  cause : Cause
  node : Option Value := none
  deriving Repr, Inhabited

namespace Fault

/-- Attributes a fault to a node unless it is attributed already. -/
def blame (f : Fault) (node : Value) : Fault :=
  match f.node with
  | some _ => f
  | none => { f with node := some node }

/-- Attributes a fault where a node is given. -/
def blame? (f : Fault) : Option Value → Fault
  | some node => f.blame node
  | none => f

def message (f : Fault) : String := f.cause.message

def category (f : Fault) : Category := f.cause.category

end Fault

/-- The value of a computation, or the fault that ended it. -/
abbrev Outcome := Except Fault Value

/-- What a failure of a function's own says at its root. -/
inductive Failure.Root where
  | message (text : String)
  | fault (f : Fault)
  deriving Repr

/-- A failure inside a function, with the contexts put around it from the inside out. -/
structure Failure where
  root : Failure.Root
  contexts : List String := []
  deriving Repr

namespace Failure

def ofMessage (text : String) : Failure := ⟨.message text, []⟩

def ofFault (f : Fault) : Failure := ⟨.fault f, []⟩

def withContext (f : Failure) (text : String) : Failure := { f with contexts := f.contexts ++ [text] }

/-- A fault comes back as it was, whatever was put around it. Any other failure becomes a fault of
execution that tells its outermost layer. -/
def toFault (f : Failure) : Fault :=
  match f.root with
  | .fault inner => inner
  | .message text => ⟨.execution (f.contexts.getLast?.getD text), none⟩

end Failure
end StageGraph
