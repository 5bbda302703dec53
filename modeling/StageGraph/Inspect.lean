import StageGraph.Resolvable
import StageGraph.ValueType
import StageGraph.Unicode.Recent

/-! The diagnostic notation: values with the names of their constructors.

Lists stand in brackets and tables in braces, with a comma and a blank between entries; a record shows its
name and its fields, and two dots at the end where it has more. -/
namespace StageGraph.Inspect

def hexDigits (n : Nat) : List Char := Nat.toDigits 16 n

/-- How a character is written between double quotes. Escaped by number are the characters that extend the
one before them and those that no text shows. -/
def escape (c : Char) : List Char :=
  if c = Char.ofNat 0 then ['\\', '0']
  else if c = '\t' then ['\\', 't']
  else if c = '\r' then ['\\', 'r']
  else if c = '\n' then ['\\', 'n']
  else if c = '\\' then ['\\', '\\']
  else if c = '"' then ['\\', '"']
  else if 32 ≤ c.toNat ∧ c.toNat < 127 then [c]
  else if Unicode.escaped.holds c.toNat then ['\\', 'u', '\x7b'] ++ hexDigits c.toNat ++ ['\x7d']
  else [c]

def text (s : String) : String := String.ofList ('"' :: s.toList.flatMap escape ++ ['"'])

def commas (parts : List String) : String := String.intercalate ", " parts

def list (parts : List String) : String := "[" ++ commas parts ++ "]"

def table (entries : List (String × String)) : String :=
  "\x7b" ++ commas (entries.map fun e => text e.1 ++ ": " ++ e.2) ++ "\x7d"

/-- A record with its fields; `more` tells that some are left out. -/
def record (name : String) (fields : List (String × String)) (more : Bool) : String :=
  let shown := fields.map fun f => f.1 ++ ": " ++ f.2
  name ++ " \x7b " ++ commas (if more then shown ++ [".."] else shown) ++ " \x7d"

def flag (b : Bool) : String := if b then "true" else "false"

mutual

def value : Value → String
  | .null => "Null"
  | .boolean b => "Bool(" ++ flag b ++ ")"
  | .integer n => "Number(" ++ Int.repr n ++ ")"
  | .real x => "Number(" ++ x.toText ++ ")"
  | .string s => "String(" ++ text s ++ ")"
  | .array items => "Array " ++ list (values items)
  | .object fields => "Object " ++ table (fieldValues fields)

def values : List Value → List String
  | [] => []
  | v :: rest => value v :: values rest

def fieldValues : List (String × Value) → List (String × String)
  | [] => []
  | (key, v) :: rest => (key, value v) :: fieldValues rest

end

mutual

def resolvable {π : Type} : Resolvable π → String
  | .ready v => "Ready(" ++ value v ++ ")"
  | .pending _ => "Pending"
  | .sequence items => list (resolvables items)
  | .mapping entries => table (entryResolvables entries)

def resolvables {π : Type} : List (Resolvable π) → List String
  | [] => []
  | r :: rest => resolvable r :: resolvables rest

def entryResolvables {π : Type} : List (String × Resolvable π) → List (String × String)
  | [] => []
  | (key, r) :: rest => (key, resolvable r) :: entryResolvables rest

end

mutual

def valueType : ValueType → String
  | .string => "String"
  | .integer => "Integer"
  | .float => "Float"
  | .boolean => "Boolean"
  | .any => "Any"
  | .none => "None"
  | .array item => record "Array" [("value_type", valueType item)] false
  | .dict key value => record "Dict" [("key_type", valueType key), ("value_type", valueType value)] false
  | .tuple items => record "Tuple" [("value_type", list (valueTypes items))] false
  | .union options => record "Union" [("value_type", list (valueTypes options))] false
  | .object fields => record "Object" [("value_type", table (fieldTypes fields))] false

def valueTypes : List ValueType → List String
  | [] => []
  | t :: rest => valueType t :: valueTypes rest

def fieldTypes : List (String × ValueType) → List (String × String)
  | [] => []
  | (name, t) :: rest => (name, valueType t) :: fieldTypes rest

end

/-- A value that may be missing. -/
def optional (v : Option Value) : String :=
  match v with
  | some v => "Some(" ++ value v ++ ")"
  | none => "None"

end StageGraph.Inspect
