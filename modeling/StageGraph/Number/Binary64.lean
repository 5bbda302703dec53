/-! Finite binary64 numbers, kept as the three fields of their encoding.

Every triple of fields is one number and every finite double is one triple, so the type needs no
invariant; the only two numbers that compare equal without being equal are the zeros. All arithmetic is
exact arithmetic on natural numbers followed by one rounding, `Binary64.round`: to the nearest double,
a half to the even neighbour, and to nothing when the result would pass the largest double. -/
namespace StageGraph

/-- The quotient rounded to the nearest natural number, a half to the even one. -/
def roundHalfEven (num den : Nat) : Nat :=
  let q := num / den
  let r := num % den
  if 2 * r < den then q else if den < 2 * r then q + 1 else q + q % 2

/-- The quotient rounded to the nearest natural number, a half to the greater one. -/
def roundHalfUp (num den : Nat) : Nat := (2 * num + den) / (2 * den)

/-- How many fractions there are: two to the fifty-second. -/
abbrev Binary64.fractions : Nat := 4503599627370496

/-- A finite double by sign, biased exponent and fraction. -/
structure Binary64 where
  negative : Bool
  biased : Fin 2047
  fraction : Fin Binary64.fractions
  deriving DecidableEq, Repr, Inhabited

namespace Binary64

def zero (negative : Bool) : Binary64 := ⟨negative, 0, 0⟩

/-- The significand: subnormals lack the leading bit. -/
def mantissa (x : Binary64) : Nat :=
  if x.biased.val = 0 then x.fraction.val else fractions + x.fraction.val

/-- The power of two that the significand counts. -/
def exponent (x : Binary64) : Int :=
  if x.biased.val = 0 then -1074 else (x.biased.val : Int) - 1075

def isZero (x : Binary64) : Bool := x.mantissa == 0

/-- Numeric equality: the two zeros are equal, all else only to itself. -/
def equal (x y : Binary64) : Bool := (x.isZero && y.isZero) || x == y

/-- `m * 2 ^ e` from a significand of at most `2 ^ 53`, which has its leading bit unless `e` is the least
exponent. A significand of `2 ^ 53` carries into the exponent by itself. -/
def assemble (negative : Bool) (m : Nat) (e : Int) : Option Binary64 :=
  let code := (e + 1074).toNat * fractions + m
  if h : code / fractions < 2047 then some ⟨negative, ⟨code / fractions, h⟩, Fin.ofNat _ code⟩ else none

/-- `num / den * 2 ^ shift`, rounded; nothing past the largest double. -/
def round (negative : Bool) (num den : Nat) (shift : Int) : Option Binary64 :=
  if num = 0 then some (zero negative)
  else
    let top := (num.log2 : Int) - den.log2 + shift
    let low := max (top - 53) (-1074)
    let scaled (e : Int) : Nat × Nat :=
      (num * Nat.pow 2 (shift - e).toNat, den * Nat.pow 2 (e - shift).toNat)
    let e := if 2 * fractions ≤ (scaled low).1 / (scaled low).2 then low + 1 else low
    assemble negative (roundHalfEven (scaled e).1 (scaled e).2) e

def ofNat (n : Nat) : Option Binary64 := round false n 1 0

/-- The nearest double to an integer. -/
def ofInt (n : Int) : Option Binary64 := round (n < 0) n.natAbs 1 0

def mul (x y : Binary64) : Option Binary64 :=
  round (x.negative != y.negative) (x.mantissa * y.mantissa) 1 (x.exponent + y.exponent)

/-- Division by a number that is not zero. -/
def div (x y : Binary64) : Option Binary64 :=
  round (x.negative != y.negative) x.mantissa y.mantissa (x.exponent - y.exponent)

/-- The nearest double to a power of ten. -/
def pow10 (k : Nat) : Option Binary64 := ofNat (Nat.pow 10 k)

/-- The exact value as a ratio of natural numbers, without the sign. -/
def ratio (x : Binary64) : Nat × Nat :=
  (x.mantissa * Nat.pow 2 x.exponent.toNat, Nat.pow 2 (-x.exponent).toNat)

/-- `x * 10 ^ k` in at most three roundings: powers of ten from `10 ^ 308` down are rounded once and the
product or quotient once more; smaller ones are divided out `10 ^ 308` at a time. -/
def scale (x : Binary64) (k : Int) : Option Binary64 :=
  if x.isZero then some x
  else if k > 308 then none
  else if 0 ≤ k then (pow10 k.toNat).bind x.mul
  else if -308 ≤ k then (pow10 k.natAbs).bind x.div
  else ((pow10 308).bind x.div).bind (scale · (k + 308))
termination_by k.natAbs

end Binary64
end StageGraph
