import StageGraph.Number.Seconds

/-! The settings of a run: how long it may take. -/
namespace StageGraph

structure Settings where
  /-- The bound on one run, in seconds. -/
  timeout : Seconds
  deriving Repr, DecidableEq

namespace Settings

/-- A run may take five minutes. -/
def default : Settings := ⟨Seconds.ofNat 300⟩

instance : Inhabited Settings := ⟨default⟩

def withTimeout (s : Settings) (bound : Seconds) : Settings := { s with timeout := bound }

/-- Numeric equality of the bounds. -/
def equal (s t : Settings) : Bool := s.timeout.equal t.timeout

/-- The JSON form. -/
def toValue (s : Settings) : Value := .object [("timeout_secs", s.timeout.toValue)]

/-- Reads settings from an object, other fields of which are passed over, or from a list of at most one
item; what is left out has its default. -/
def ofValue? : Value → Option Settings
  | .object fields =>
    match Fields.get? fields "timeout_secs" with
    | some v => (Seconds.ofValue? v).map .mk
    | none => some default
  | .array [] => some default
  | .array [v] => (Seconds.ofValue? v).map .mk
  | _ => none

/-- The bound in whole milliseconds, rounded up. A bound that no clock reaches counts as thirty years. -/
def patience (s : Settings) : Nat :=
  let ns := s.timeout.nanoseconds
  if ns < Word.half * 1000000000 then (ns + 999999) / 1000000 else 30 * 365 * 86400 * 1000

end Settings
end StageGraph
