import StageGraph.Settings
import StageGraph.Number.Word
import StageGraph.Fault

/-! What a function is called with: its arguments and the context it asked for. -/
namespace StageGraph

/-- The calling pipeline as a function sees it. -/
structure Owner where
  alive : Bool
  settings : Settings

structure Call where
  args : Fields
  /-- The node of the calling stage, if the function wants it. -/
  stage : Option Value := none
  /-- The calling pipeline, if the function wants it and there is one. -/
  owner : Option Owner := none

namespace Value

/-- An integer between two bounds. -/
def integerWithin? (low high : Int) : Value → Option Int
  | .integer n => if low ≤ n ∧ n ≤ high then some n else none
  | _ => none

/-- A signed 64-bit integer. -/
def int64? : Value → Option Int := integerWithin? (-Word.half) (Word.half - 1)

/-- An unsigned 64-bit integer. -/
def nat64? (v : Value) : Option Nat := (integerWithin? 0 (Word.count - 1) v).map Int.toNat

/-- A list of strings. -/
def strings? : Value → Option (List String)
  | .array items => items.mapM string?
  | _ => none

/-- A string and any value, as a list of two. -/
def pair? : Value → Option (String × Value)
  | .array [.string s, v] => some (s, v)
  | _ => none

/-- A list of such pairs. -/
def pairs? : Value → Option (List (String × Value))
  | .array items => items.mapM pair?
  | _ => none

end Value

namespace Call

def arg? (c : Call) (name : String) : Option Value := Fields.get? c.args name

/-- An argument, or null without it. -/
def argOrNull (c : Call) (name : String) : Value := (c.arg? name).getD .null

/-- An argument read as what the function needs. -/
def get {α : Type} (c : Call) (read : Value → Option α) (name : String) : Except Failure α :=
  match c.arg? name with
  | none => .error (.ofMessage ("argument " ++ Cause.quoted name ++ " not provided"))
  | some v =>
    match read v with
    | some a => .ok a
    | none => .error (.ofMessage ("argument " ++ Cause.quoted name ++ " has an unexpected shape"))

/-- Takes an argument out; the last one moves into its place. -/
def take (c : Call) (name : String) : Option Value × Call :=
  let (found, left) := Fields.take c.args name
  (found, { c with args := left })

end Call
end StageGraph
