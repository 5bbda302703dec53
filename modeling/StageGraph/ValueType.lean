import StageGraph.Value
import StageGraph.Table

/-! Declared types of parameters and results.

A type accepts values by shape. Records name the fields they need and allow others; dictionaries check
every key as a string. -/
namespace StageGraph

inductive ValueType where
  | string
  | integer
  | float
  | boolean
  | any
  | none
  | array (item : ValueType)
  | dict (key value : ValueType)
  | tuple (items : List ValueType)
  | union (options : List ValueType)
  | object (fields : List (String × ValueType))
  deriving Inhabited, Repr

namespace ValueType

/-- The record type of the given fields, which are kept in the order of their names. -/
def record (fields : List (String × ValueType)) : ValueType := object (Table.ofList fields)

/-- The type or null. -/
def optional (t : ValueType) : ValueType := union [t, none]

mutual

/-- Whether a value conforms. -/
def check : ValueType → Value → Bool
  | any, _ => true
  | none, .null => true
  | string, .string _ => true
  | boolean, .boolean _ => true
  | float, .integer _ => true
  | float, .real _ => true
  | integer, .integer _ => true
  | array item, .array vs => vs.all fun v => item.check v
  | tuple items, .array vs => checkAll items vs
  | dict key value, .object fields => fields.all fun f => key.check (.string f.1) && value.check f.2
  | object fields, .object given => checkFields fields given
  | union options, v => checkAny options v
  | _, _ => false

/-- Position by position, with the same number on both sides. -/
def checkAll : List ValueType → List Value → Bool
  | [], [] => true
  | t :: ts, v :: vs => t.check v && checkAll ts vs
  | _, _ => false

def checkAny : List ValueType → Value → Bool
  | [], _ => false
  | t :: ts, v => t.check v || checkAny ts v

/-- Every declared field is there and conforms. -/
def checkFields : List (String × ValueType) → Fields → Bool
  | [], _ => true
  | (name, t) :: rest, given =>
    (match Fields.get? given name with
      | some v => t.check v
      | Option.none => false) && checkFields rest given

end

mutual

/-- The type as messages spell it. -/
def describe : ValueType → String
  | string => "string"
  | integer => "integer"
  | float => "float"
  | boolean => "boolean"
  | any => "any"
  | none => "none"
  | array item => "array<" ++ item.describe ++ ">"
  | dict key value => "dict<" ++ key.describe ++ ", " ++ value.describe ++ ">"
  | tuple items => "tuple<" ++ describeAll ", " items ++ ">"
  | union options => "union<" ++ describeAll " | " options ++ ">"
  | object fields => "object\x7b" ++ describeFields fields ++ "\x7d"

def describeAll (separator : String) : List ValueType → String
  | [] => ""
  | [t] => t.describe
  | t :: rest => t.describe ++ separator ++ describeAll separator rest

def describeFields : List (String × ValueType) → String
  | [] => ""
  | [(name, t)] => name ++ ": " ++ t.describe
  | (name, t) :: rest => name ++ ": " ++ t.describe ++ ", " ++ describeFields rest

end

end ValueType
end StageGraph
