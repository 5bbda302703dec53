import StageGraph.Value
import StageGraph.Number.Decimal
import StageGraph.Number.Word

/-! A time bound in seconds: any double, so also the infinities and the number that is none. -/
namespace StageGraph

inductive Seconds where
  | finite (x : Binary64)
  | infinite (negative : Bool)
  | undefined
  deriving DecidableEq, Repr

namespace Seconds

/-- Numeric equality; what is no number equals nothing. -/
def equal : Seconds → Seconds → Bool
  | finite x, finite y => x.equal y
  | infinite a, infinite b => a == b
  | _, _ => false

/-- The text in messages: no exponent, no point behind a whole number. -/
def toText : Seconds → String
  | finite x => x.toPlainText
  | infinite negative => if negative then "-inf" else "inf"
  | undefined => "NaN"

/-- JSON has no spelling for what is not finite. -/
def toValue : Seconds → Value
  | finite x => .real x
  | _ => .null

/-- Any number, an integer as the nearest double. -/
def ofValue? : Value → Option Seconds
  | .integer n => (Binary64.ofInt n).map .finite
  | .real x => some (.finite x)
  | _ => none

def ofNat (n : Nat) : Seconds :=
  match Binary64.ofNat n with
  | some x => .finite x
  | none => .infinite false

/-- The longest bound, in nanoseconds. -/
def longest : Nat := Word.count * 1000000000 - 1

/-- The bound in whole nanoseconds, to the nearest, a half to the even one. There is no waiting for zero,
for less, or for what is no number; the seconds of the longest bound fill a word. -/
def nanoseconds : Seconds → Nat
  | finite x =>
    if x.negative || x.isZero then 0
    else if x.ratio.1 < Word.count * x.ratio.2 then roundHalfEven (x.ratio.1 * 1000000000) x.ratio.2
    else longest
  | infinite negative => if negative then 0 else longest
  | undefined => 0

end Seconds
end StageGraph
