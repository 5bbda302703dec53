import StageGraph.Number.Binary64

/-! The decimal text of a double.

`Binary64.shortest` is the decimal with the fewest digits that reads back as the number and, of those,
the one nearest to it: on the grids of one, two, … seventeen digits it tests the two neighbours of the
exact value against the interval of reals that round to the number. Two layouts write such a decimal:
`toText` for JSON, which turns to an exponent outside a fixed range, and `toPlainText`, which never does. Of
two neighbours just as near, the first takes the even one and the second the greater. -/
namespace StageGraph

/-- `digits * 10 ^ exponent`. -/
structure Decimal where
  digits : Nat
  exponent : Int
  deriving DecidableEq, Repr

namespace Decimal

/-- Trailing zeros of the digits, at most `fuel` of them, moved into the exponent. -/
def trim (d : Decimal) : Nat → Decimal
  | 0 => d
  | fuel + 1 => if d.digits ≠ 0 ∧ d.digits % 10 = 0 then trim ⟨d.digits / 10, d.exponent + 1⟩ fuel else d

/-- Compares with `m * 2 ^ e`. -/
def compareBinary (d : Decimal) (m : Nat) (e : Int) : Ordering :=
  compare (d.digits * Nat.pow 10 d.exponent.toNat * Nat.pow 2 (-e).toNat)
    (m * Nat.pow 2 e.toNat * Nat.pow 10 (-d.exponent).toNat)

/-- The exponent of the leading digit. -/
def leading (d : Decimal) : Int := d.exponent + (Nat.repr d.digits).length - 1

end Decimal

namespace Binary64

/-- Whether a decimal rounds to `|x|`: it lies between the midpoints to the two neighbours, the midpoints
included when the significand is even. Below a power of two the neighbour is half as far. -/
def admits (x : Binary64) (d : Decimal) : Bool :=
  let m := 4 * x.mantissa
  let e := x.exponent - 2
  let below := if x.fraction.val = 0 ∧ 1 < x.biased.val then 1 else 2
  let low := d.compareBinary (m - below) e
  let high := d.compareBinary (m + 2) e
  if x.mantissa % 2 = 0 then low != .lt && high != .gt else low == .gt && high == .lt

/-- The exponent of the leading decimal digit of `|x|`, which is not zero. -/
def decimalExponent (x : Binary64) : Int :=
  let guess := (((x.mantissa.log2 : Int) + x.exponent) * 30103).fdiv 100000
  let reaches (k : Int) : Bool := (Decimal.mk 1 k).compareBinary x.mantissa x.exponent != .gt
  if reaches (guess + 1) then guess + 1 else if reaches guess then guess else guess - 1

/-- The neighbours of `|x|` on the grid of `n` digits, the one first to which `round` takes a quotient. -/
def neighbours (round : Nat → Nat → Nat) (x : Binary64) (n : Nat) : List Decimal :=
  let k := x.decimalExponent - n + 1
  let num := x.ratio.1 * Nat.pow 10 (-k).toNat
  let den := x.ratio.2 * Nat.pow 10 k.toNat
  let d := num / den
  if round num den = d then [⟨d, k⟩, ⟨d + 1, k⟩] else [⟨d + 1, k⟩, ⟨d, k⟩]

/-- The shortest decimal that reads back as `|x|`. -/
def shortest (round : Nat → Nat → Nat) (x : Binary64) : Decimal :=
  if x.isZero then ⟨0, 0⟩
  else
    let found := (List.range 17).findSome? fun n => (x.neighbours round (n + 1)).find? x.admits
    (found.getD ⟨0, 0⟩).trim 17

/-- Where the JSON layout writes a number without an exponent, by the exponent of its leading digit. -/
def positional (leading : Int) : Bool := -5 ≤ leading && leading ≤ 15

def sign (x : Binary64) : String := if x.negative then "-" else ""

/-- Digits with a point: `whole` asks for `.0` behind a whole number. -/
def pointed (d : Decimal) (whole : Bool) : String :=
  let text := Nat.repr d.digits
  if 0 ≤ d.exponent then
    text ++ "".pushn '0' d.exponent.toNat ++ (if whole then ".0" else "")
  else
    let places := d.exponent.natAbs
    let padded := "".pushn '0' (places + 1 - text.length) ++ text
    let front := padded.length - places
    String.ofList (padded.toList.take front) ++ "." ++ String.ofList (padded.toList.drop front)

/-- One digit, a point if more follow, and a signed exponent. -/
def scientific (d : Decimal) : String :=
  let digits := (Nat.repr d.digits).toList
  let mark := if d.leading < 0 then "e-" else "e+"
  let point := if digits.length ≤ 1 then "" else "."
  String.ofList (digits.take 1) ++ point ++ String.ofList (digits.drop 1) ++ mark ++ Nat.repr d.leading.natAbs

/-- The JSON text: it always shows that the number is not an integer literal. -/
def toText (x : Binary64) : String :=
  let d := x.shortest roundHalfEven
  x.sign ++ if positional d.leading then pointed d true else scientific d

/-- The text without an exponent, a whole number without a point. -/
def toPlainText (x : Binary64) : String := x.sign ++ pointed (x.shortest roundHalfUp) false

end Binary64
end StageGraph
