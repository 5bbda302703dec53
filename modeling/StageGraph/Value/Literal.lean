import StageGraph.Value
import StageGraph.Number.Word

/-! Reading the scalar literals of JSON text: numbers and strings.

A number without a point or an exponent is an integer when it fits 64 bits. Any other number is a double
computed from a 64-bit significand: digits are taken as long as the significand holds them, the rest only
count, and the power of ten is applied to the rounded significand. -/
namespace StageGraph.Literal

def digit? (c : Char) : Option Nat := if c.isDigit then some (c.toNat - '0'.toNat) else none

/-- The decimal digits a text starts with, and the rest. -/
def digits : List Char → List Nat × List Char
  | [] => ([], [])
  | c :: rest =>
    match digit? c with
    | some d => let (ds, left) := digits rest; (d :: ds, left)
    | none => ([], c :: rest)

/-- The number that decimal digits write. -/
def natural (ds : List Nat) : Nat := ds.foldl (fun n d => n * 10 + d) 0

/-- Appends digits to a significand while it fits 64 bits; also how many were taken. -/
def absorb (significand : Nat) : List Nat → Nat × Nat
  | [] => (significand, 0)
  | d :: ds =>
    if significand * 10 + d < Word.count then
      let (s, taken) := absorb (significand * 10 + d) ds; (s, taken + 1)
    else (significand, 0)

/-- A number literal, cut up. -/
structure Number where
  negative : Bool
  whole : List Nat
  places : Option (List Nat)
  exponent : Option Int
  deriving Repr

namespace Number

/-- The double a literal stands for; nothing when it is past the largest one. -/
def toReal (n : Number) : Option Binary64 :=
  let (front, kept) := absorb 0 n.whole
  let (significand, taken) := absorb front (n.places.getD [])
  let exponent : Int := (n.whole.length - kept : Nat) - (taken : Int) + n.exponent.getD 0
  (((Binary64.ofNat significand).bind (Binary64.scale · exponent))).map fun x =>
    { x with negative := n.negative }

def toValue (n : Number) : Option Value :=
  let magnitude := natural n.whole
  if n.places.isNone && n.exponent.isNone then
    if n.negative then
      if 0 < magnitude ∧ magnitude ≤ Word.half then some (.integer (-magnitude)) else n.toReal.map .real
    else if magnitude < Word.count then some (.integer magnitude)
    else n.toReal.map .real
  else n.toReal.map .real

end Number

/-- The digits behind a point; a point needs one. -/
def places? : List Char → Option (Option (List Nat) × List Char)
  | '.' :: rest =>
    match digits rest with
    | ([], _) => none
    | (ds, left) => some (some ds, left)
  | rest => some (none, rest)

/-- A signed run of digits; it needs one. -/
def signed? (text : List Char) : Option (Int × List Char) :=
  let (negative, text) :=
    match text with
    | '-' :: rest => (true, rest)
    | '+' :: rest => (false, rest)
    | _ => (false, text)
  match digits text with
  | ([], _) => none
  | (ds, left) => some (if negative then -(natural ds : Int) else natural ds, left)

def exponent? : List Char → Option (Option Int × List Char)
  | 'e' :: rest => (signed? rest).map fun (n, left) => (some n, left)
  | 'E' :: rest => (signed? rest).map fun (n, left) => (some n, left)
  | rest => some (none, rest)

/-- A number at the start of a text: no leading zeros, no leading plus. -/
def number? (text : List Char) : Option (Value × List Char) := do
  let (negative, text) :=
    match text with
    | '-' :: rest => (true, rest)
    | _ => (false, text)
  let (whole, text) := digits text
  match whole with
  | [] => none
  | 0 :: _ :: _ => none
  | _ => pure ()
  let (places, text) ← places? text
  let (exponent, text) ← exponent? text
  let v ← (Number.mk negative whole places exponent).toValue
  pure (v, text)

def hexDigit? (c : Char) : Option Nat :=
  if c.isDigit then some (c.toNat - '0'.toNat)
  else if 'a' ≤ c ∧ c ≤ 'f' then some (c.toNat - 'a'.toNat + 10)
  else if 'A' ≤ c ∧ c ≤ 'F' then some (c.toNat - 'A'.toNat + 10)
  else none

/-- A code unit of four hexadecimal digits. -/
def unit? : List Char → Option (Nat × List Char)
  | a :: b :: c :: d :: rest => do
    let a ← hexDigit? a
    let b ← hexDigit? b
    let c ← hexDigit? c
    let d ← hexDigit? d
    pure (((a * 16 + b) * 16 + c) * 16 + d, rest)
  | _ => none

/-- The character of a `\u` escape; a leading surrogate needs a trailing one, which cannot stand alone. -/
def unicode? (text : List Char) : Option (Char × List Char) := do
  let (u, rest) ← unit? text
  if 0xDC00 ≤ u ∧ u ≤ 0xDFFF then none
  else if 0xD800 ≤ u ∧ u ≤ 0xDBFF then
    match rest with
    | '\\' :: 'u' :: rest =>
      let (v, rest) ← unit? rest
      if 0xDC00 ≤ v ∧ v ≤ 0xDFFF then
        pure (Char.ofNat (0x10000 + (u - 0xD800) * 0x400 + (v - 0xDC00)), rest)
      else none
    | _ => none
  else pure (Char.ofNat u, rest)

/-- The character behind a backslash. -/
def escape? : List Char → Option (Char × List Char)
  | 'u' :: rest => unicode? rest
  | '"' :: rest => some ('"', rest)
  | '\\' :: rest => some ('\\', rest)
  | '/' :: rest => some ('/', rest)
  | 'b' :: rest => some (Char.ofNat 8, rest)
  | 'f' :: rest => some (Char.ofNat 12, rest)
  | 'n' :: rest => some ('\n', rest)
  | 'r' :: rest => some ('\r', rest)
  | 't' :: rest => some ('\t', rest)
  | _ => none

/-- The rest of a string behind its opening quote. Control characters have to be escaped. -/
def closeString : Nat → List Char → List Char → Option (String × List Char)
  | 0, _, _ => none
  | fuel + 1, done, text =>
    match text with
    | [] => none
    | '"' :: rest => some (String.ofList done.reverse, rest)
    | '\\' :: rest => (escape? rest).bind fun (c, rest) => closeString fuel (c :: done) rest
    | c :: rest => if c.toNat < 32 then none else closeString fuel (c :: done) rest

/-- A string at the start of a text, behind its opening quote. -/
def string? (text : List Char) : Option (String × List Char) := closeString (text.length + 1) [] text

end StageGraph.Literal
