import StageGraph.Value.Literal

/-! Reading JSON text.

The grammar is the strict one: nothing but blanks around one value, and containers nested no deeper than a
given bound. Objects keep the order of their fields; a repeated key keeps its first position and its last
value. -/
namespace StageGraph

namespace Reader

def isBlank (c : Char) : Bool := c == ' ' || c == '\t' || c == '\n' || c == '\r'

def skip (text : List Char) : List Char := text.dropWhile isBlank

/-- A fixed word, and the value it stands for. -/
def word? (word : List Char) (v : Value) (text : List Char) : Option (Value × List Char) :=
  if word.isPrefixOf text then some (v, text.drop word.length) else none

mutual

/-- One value; `room` more containers may be open at once. -/
def value? : Nat → Nat → List Char → Option (Value × List Char)
  | 0, _, _ => none
  | fuel + 1, room, text =>
    match skip text with
    | '"' :: rest => (Literal.string? rest).map fun (s, rest) => (.string s, rest)
    | '[' :: rest =>
      match room, skip rest with
      | 0, _ => none
      | _, ']' :: rest => some (.array [], rest)
      | room + 1, rest => (items? fuel room rest).map fun (vs, rest) => (.array vs, rest)
    | '{' :: rest =>
      match room, skip rest with
      | 0, _ => none
      | _, '}' :: rest => some (.object [], rest)
      | room + 1, rest => (fields? fuel room rest).map fun (fs, rest) => (.object (Fields.ofList fs), rest)
    | 'n' :: rest => word? ['u', 'l', 'l'] .null rest
    | 't' :: rest => word? ['r', 'u', 'e'] (.boolean true) rest
    | 'f' :: rest => word? ['a', 'l', 's', 'e'] (.boolean false) rest
    | text => Literal.number? text

/-- The items of an array up to its closing bracket. -/
def items? : Nat → Nat → List Char → Option (List Value × List Char)
  | 0, _, _ => none
  | fuel + 1, room, text => do
    let (v, text) ← value? fuel room text
    match skip text with
    | ',' :: rest => (items? fuel room rest).map fun (vs, rest) => (v :: vs, rest)
    | ']' :: rest => pure ([v], rest)
    | _ => none

/-- The fields of an object up to its closing brace. -/
def fields? : Nat → Nat → List Char → Option (List (String × Value) × List Char)
  | 0, _, _ => none
  | fuel + 1, room, text => do
    let '"' :: text := skip text | none
    let (key, text) ← Literal.string? text
    let ':' :: text := skip text | none
    let (v, text) ← value? fuel room text
    match skip text with
    | ',' :: rest => (fields? fuel room rest).map fun (fs, rest) => ((key, v) :: fs, rest)
    | '}' :: rest => pure ([(key, v)], rest)
    | _ => none

end

end Reader

/-- How many containers a document may have open at once. -/
def nestingBound : Nat := 127

/-- Reads a whole text as one value whose containers nest at most `room` deep. -/
def Value.ofText? (text : String) (room : Nat) : Option Value :=
  let chars := text.toList
  match Reader.value? (2 * chars.length + 2) room chars with
  | some (v, rest) => if (Reader.skip rest).isEmpty then some v else none
  | none => none

end StageGraph
