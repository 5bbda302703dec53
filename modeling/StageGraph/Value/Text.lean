import StageGraph.Value
import StageGraph.Number.Decimal

/-! The compact JSON text of a value: no blanks, fields in order, characters outside ASCII as they are. -/
namespace StageGraph

/-- How a character is written between double quotes: a quote, a backslash and the characters below the
blank are escaped, the latter by letter where there is one. -/
def jsonEscape (c : Char) : List Char :=
  if c = '"' then ['\\', '"']
  else if c = '\\' then ['\\', '\\']
  else if c = '\n' then ['\\', 'n']
  else if c = '\r' then ['\\', 'r']
  else if c = '\t' then ['\\', 't']
  else if c.toNat = 8 then ['\\', 'b']
  else if c.toNat = 12 then ['\\', 'f']
  else if c.toNat < 32 then
    ['\\', 'u', '0', '0', Nat.digitChar (c.toNat / 16), Nat.digitChar (c.toNat % 16)]
  else [c]

/-- A string as a JSON literal. -/
def jsonQuote (s : String) : String :=
  String.ofList ('"' :: s.toList.flatMap jsonEscape ++ ['"'])

namespace Value

mutual

/-- The compact JSON text. -/
def toText : Value → String
  | null => "null"
  | boolean b => if b then "true" else "false"
  | integer n => Int.repr n
  | real x => x.toText
  | string s => jsonQuote s
  | array items => "[" ++ itemsText items ++ "]"
  | object fields => "\x7b" ++ fieldsText fields ++ "\x7d"

def itemsText : List Value → String
  | [] => ""
  | [v] => v.toText
  | v :: rest => v.toText ++ "," ++ itemsText rest

def fieldsText : List (String × Value) → String
  | [] => ""
  | [(k, v)] => jsonQuote k ++ ":" ++ v.toText
  | (k, v) :: rest => jsonQuote k ++ ":" ++ v.toText ++ "," ++ fieldsText rest

end

end Value
end StageGraph
