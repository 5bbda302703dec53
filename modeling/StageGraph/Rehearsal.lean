import StageGraph.ControlFlow

/-! Functions to rehearse pipelines with: they copy, count, fail, hang and sleep as they are told, and one
keeps what it was called with. -/
namespace StageGraph.Rehearsal

def category : List String := ["testing"]

def identity : Function where
  name := "identity"
  params := [{ name := "value", type := .any }]
  category := category
  description := some "Returns its argument."
  handler c := .value (c.argOrNull "value")

/-- A sum or a product that has to fit a signed 64-bit integer; the function breaks down otherwise. -/
def fitting (operation : String) (n : Int) : Reply :=
  match (Value.integer n).int64? with
  | some _ => .value (.integer n)
  | none => .panic (some ("attempt to " ++ operation ++ " with overflow"))

def double : Function where
  name := "double"
  params := [{ name := "x", type := .integer }]
  output := .integer
  category := category
  description := some "Doubles an integer."
  handler c :=
    match c.get Value.int64? "x" with
    | .ok x => fitting "multiply" (x * 2)
    | .error f => .fail f

def add : Function where
  name := "add"
  params := [{ name := "a", type := .integer }, { name := "b", type := .integer }]
  output := .integer
  category := category
  handler c :=
    match c.get Value.int64? "a", c.get Value.int64? "b" with
    | .ok a, .ok b => fitting "add" (a + b)
    | .error f, _ => .fail f
    | _, .error f => .fail f

def fail : Function where
  name := "fail"
  params := [{ name := "message", type := .string, default := some (.string "stage failed") }]
  category := category
  handler c :=
    match c.get Value.string? "message" with
    | .ok message => .fail (.ofMessage message)
    | .error f => .fail f

def never : Function where
  name := "never"
  category := category
  handler _ := .hang

def sleepThen : Function where
  name := "sleep_then"
  params :=
    [{ name := "ms", type := .integer }, { name := "value", type := .any, default := some .null }]
  category := category
  handler c :=
    match c.get Value.nat64? "ms" with
    | .ok ms => .rest ms (.value (c.argOrNull "value"))
    | .error f => .fail f

/-- A function whose calls are kept, and that returns its argument `value`. -/
def recorder (name : String) : Function where
  name := name
  category := category
  extraArgs := true
  recorded := true
  handler c := .value (c.argOrNull "value")

end Rehearsal

/-- The functions of control flow and those for rehearsal. -/
def Registry.rehearsal : Registry :=
  Registry.builtins.registerAll
    [Rehearsal.identity, Rehearsal.double, Rehearsal.add, Rehearsal.fail, Rehearsal.never,
     Rehearsal.sleepThen]

end StageGraph
