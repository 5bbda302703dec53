import StageGraph.Pattern.Parser
import StageGraph.Registry

/-! The functions of control flow: a fan-out over a list, and two choices by pattern.

`map` runs the pipeline that its stage's `params` describe once for every item. `remap_regex` and
`case_regex` take the first of a list of patterns that matches a whole string: one gives the target that
stands beside the pattern, the other runs it as a pipeline. -/
namespace StageGraph.ControlFlow

def category : String := "control-flow"

/-! ### Fan-out -/

/-- Parses the stage's `params` as a spec and starts a child for every item. -/
def mapHandler (c : Call) : Reply :=
  match (c.arg? "items").bind Value.array?, c.stage, c.owner with
  | none, _, _ => .fail (.ofMessage "\"items\" must be a list")
  | _, none, _ => .fail (.ofMessage "map needs its stage descriptor")
  | _, _, none => .fail (.ofMessage "map needs its owning pipeline")
  | some items, some stage, some _ =>
    match Spec.parse ((stage.field? "params").getD .null) with
    | .error f => .fail (.ofFault f)
    | .ok spec => .spawn spec items fun children => .give (.sequence (children.map .pending))

def map : Function where
  name := "map"
  params := [{ name := "items", type := .array .any }]
  output := .array .any
  category := [category]
  description := some
    "Runs the stage params as a sub-pipeline for every item and returns the outputs in order."
  extraArgs := true
  wantsStage := true
  wantsPipeline := true
  handler := mapHandler

/-! ### Choice -/

/-- The target of the first pattern that matches a whole value. Patterns are read in turn; one that cannot
be read ends the search. -/
def firstMatch (value : String) : List (String × Value) → Except Failure (Option Value)
  | [] => .ok none
  | (text, target) :: rest =>
    match Pattern.whole? text with
    | none => .error (.ofMessage ("invalid pattern " ++ Cause.quoted text))
    | some p => if p.occursIn value then .ok (some target) else firstMatch value rest

/-- Patterns and their targets. -/
def pairsType : ValueType := .array (.tuple [.string, .any])

/-- The target, or else the default. -/
def remap (c : Call) : Except Failure Value := do
  let value ← c.get Value.string? "value"
  let items ← c.get Value.pairs? "items"
  return (← firstMatch value items).getD (c.argOrNull "default")

def remapRegex : Function where
  name := "remap_regex"
  params :=
    [{ name := "value", type := .string }, { name := "items", type := pairsType },
     { name := "default", type := .any, default := some .null }]
  category := [category]
  description := some "Maps a string to the target of the first fully matching pattern."
  handler c := .ofExcept (remap c)

/-- The spec to run: the target, or else the default, which has to be there and not null. -/
def branch (c : Call) : Except Failure Spec := do
  let value ← c.get Value.string? "value"
  let items ← c.get Value.pairs? "items"
  if c.owner.isNone then throw (.ofMessage "case_regex needs its owning pipeline")
  let chosen ←
    match ← firstMatch value items, c.argOrNull "default" with
    | some target, _ => Except.ok target
    | none, .null =>
      .error (.ofMessage ("no pattern matched " ++ Cause.quoted value ++ " and there is no default branch"))
    | none, other => .ok other
  (Spec.parse chosen).mapError Failure.ofFault

/-- Runs the chosen spec with `data` as its input. -/
def caseHandler (c : Call) : Reply :=
  match branch c with
  | .error f => .fail f
  | .ok spec =>
    .spawn spec [c.argOrNull "data"] fun
      | child :: _ => .give (.pending child)
      | [] => .hang

def caseRegex : Function where
  name := "case_regex"
  params :=
    [{ name := "data", type := .any }, { name := "value", type := .string },
     { name := "items", type := pairsType }, { name := "default", type := .any, default := some .null }]
  category := [category]
  description := some
    "Runs the sub-pipeline of the first fully matching pattern with data as its input."
  wantsPipeline := true
  handler := caseHandler

end ControlFlow

/-- The functions that every registry starts with. -/
def Registry.builtins : Registry :=
  Registry.empty.registerAll [ControlFlow.map, ControlFlow.remapRegex, ControlFlow.caseRegex]

end StageGraph
