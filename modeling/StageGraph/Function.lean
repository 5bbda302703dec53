import StageGraph.Call
import StageGraph.Resolvable
import StageGraph.Spec
import StageGraph.ValueType.Descriptor

/-! Functions that stages call.

A function declares its parameters and its result; its handler sees only calls that respect the
declaration. What a handler does, it says with a `Reply`: a plan that the machine carries out. A reply that
neither rests, hangs nor starts children is decided at once; all of them depend on the call alone. -/
namespace StageGraph

/-- A pending value as a reply names it: one that comes after a while, one that breaks down instead of
coming, or one that the machine holds. -/
inductive Promise where
  | later (ms : Nat) (result : Outcome)
  | broken (ms : Nat)
  | held (cell : Nat)
  deriving Inhabited

/-- What a handler does with a call. -/
inductive Reply where
  | give (r : Resolvable Promise)
  | fail (f : Failure)
  /-- Breaks down, with a message or without one. -/
  | panic (message : Option String)
  /-- Goes on after some milliseconds. -/
  | rest (ms : Nat) (next : Reply)
  /-- Never goes on. -/
  | hang
  /-- Starts one child pipeline for each input and goes on with their outputs. The outputs of children that are
`kept` are held elsewhere as well, so that they do not end with the call. -/
  | start (kept : Bool) (spec : Spec) (inputs : List Value) (next : List Promise → Reply)

namespace Reply

/-- A finished value. -/
def value (v : Value) : Reply := give (.ready v)

/-- Starts children for the call alone. -/
@[match_pattern] abbrev spawn (spec : Spec) (inputs : List Value) (next : List Promise → Reply) : Reply :=
  start false spec inputs next

/-- A value or a failure. -/
def ofExcept : Except Failure Value → Reply
  | .ok v => value v
  | .error f => fail f

end Reply

/-- A declared parameter; one without a default is required. -/
structure Param where
  name : String
  type : ValueType
  default : Option Value := none
  deriving Repr

structure Function where
  name : String
  params : List Param := []
  output : ValueType := .any
  category : List String := ["default"]
  description : Option String := none
  /-- Whether undeclared arguments are accepted. -/
  extraArgs : Bool := false
  wantsStage : Bool := false
  wantsPipeline : Bool := false
  /-- Whether its calls are kept for inspection. -/
  recorded : Bool := false
  handler : Call → Reply

namespace Function

def declares (f : Function) (name : String) : Bool := f.params.any fun p => p.name == name

/-- Takes the parameters in order: what is supplied has to conform, what is not takes its default. -/
def bindParams (function : String) : List Param → Fields → Except Cause Fields
  | [], args => .ok args
  | p :: rest, args =>
    match Fields.get? args p.name with
    | some v =>
      if p.type.check v then bindParams function rest args
      else .error (.argumentType function p.name p.type.describe v.kindName)
    | none =>
      match p.default with
      | some d => bindParams function rest (Fields.insert args p.name d)
      | none => .error (.missingArgument function p.name)

/-- The arguments a handler gets: those supplied, then the defaults of those left out. -/
def bindArguments (f : Function) (args : Fields) : Except Cause Fields :=
  match if f.extraArgs then none else args.find? fun a => !f.declares a.1 with
  | some a => .error (.unexpectedArgument f.name a.1)
  | none => bindParams f.name f.params args

/-- A result has to conform to the declaration. -/
def checkOutput (f : Function) (v : Value) : Except Cause Value :=
  if f.output.check v then .ok v else .error (.returnType f.name f.output.describe v.kindName)

/-- The catalog's record of a function. -/
def descriptor (f : Function) : Value :=
  .object
    [("func", .string f.name),
     ("input", .object (Table.ofList (f.params.map fun p => (p.name, p.type.toValue)))),
     ("output", f.output.toValue),
     ("description", match f.description with
      | some text => .string text
      | none => .null),
     ("category", .array (f.category.map .string))]

end Function
end StageGraph
