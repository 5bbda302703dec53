import StageGraph.ValueType

/-! The JSON form of a declared type.

A type is an object that names its kind under `type` and holds its parts under `key_type` and
`value_type`: a type, a list of types or a table of types, as the kind has it. Fields of other names are
passed over. A list whose first item names the kind and whose further items are the parts, in that order
and without any more, reads as well; and a part may name its kind by number. -/
namespace StageGraph.ValueType

def kindNames : List String :=
  ["string", "integer", "float", "boolean", "any", "none", "array", "dict", "tuple", "union", "object"]

mutual

/-- The JSON form. -/
def toValue : ValueType → Value
  | string => .object [("type", .string "string")]
  | integer => .object [("type", .string "integer")]
  | float => .object [("type", .string "float")]
  | boolean => .object [("type", .string "boolean")]
  | any => .object [("type", .string "any")]
  | none => .object [("type", .string "none")]
  | array item => .object [("type", .string "array"), ("value_type", item.toValue)]
  | dict key value =>
    .object [("type", .string "dict"), ("key_type", key.toValue), ("value_type", value.toValue)]
  | tuple items => .object [("type", .string "tuple"), ("value_type", .array (valuesOf items))]
  | union options => .object [("type", .string "union"), ("value_type", .array (valuesOf options))]
  | object fields => .object [("type", .string "object"), ("value_type", .object (fieldsOf fields))]

def valuesOf : List ValueType → List Value
  | [] => []
  | t :: rest => t.toValue :: valuesOf rest

def fieldsOf : List (String × ValueType) → List (String × Value)
  | [] => []
  | (name, t) :: rest => (name, t.toValue) :: fieldsOf rest

end

/-- The kind a tag names; inside another type also by its number. -/
def kind? (inner : Bool) : Value → Option String
  | .string s => if kindNames.contains s then some s else Option.none
  | .integer n => if inner && 0 ≤ n then kindNames[n.toNat]? else Option.none
  | _ => Option.none

/-- The names of the parts of a kind, in order. -/
def partNames (kind : String) : List String :=
  if kind = "dict" then ["key_type", "value_type"]
  else if ["array", "tuple", "union", "object"].contains kind then ["value_type"]
  else []

/-- The kind and the parts that a JSON form names. -/
def parts? (inner : Bool) : Value → Option (String × List Value)
  | .object fields => do
    let kind ← (Fields.get? fields "type").bind (kind? inner)
    let parts ← (partNames kind).mapM (Fields.get? fields)
    pure (kind, parts)
  | .array (tag :: parts) => do
    let kind ← kind? inner tag
    if parts.length = (partNames kind).length then pure (kind, parts) else Option.none
  | _ => Option.none

/-- Puts a type together from its kind and its parts, each read by `read`. -/
def build? (read : Value → Option ValueType) : String → List Value → Option ValueType
  | "string", [] => some string
  | "integer", [] => some integer
  | "float", [] => some float
  | "boolean", [] => some boolean
  | "any", [] => some any
  | "none", [] => some none
  | "array", [item] => (read item).map array
  | "dict", [key, value] => (read key).bind fun k => (read value).map fun v => dict k v
  | "tuple", [.array items] => (items.mapM read).map tuple
  | "union", [.array options] => (options.mapM read).map union
  | "object", [.object fields] =>
    (fields.mapM fun field => (read field.2).map fun t => (field.1, t)).map record
  | _, _ => Option.none

/-- Reads a type whose parts nest less than `depth` deep. -/
def read? : Nat → Bool → Value → Option ValueType
  | 0, _, _ => Option.none
  | depth + 1, inner, v => (parts? inner v).bind fun (kind, parts) => build? (read? depth true) kind parts

mutual

/-- How deep containers nest in a value. -/
def nesting : Value → Nat
  | .array items => nestingItems items + 1
  | .object fields => nestingFields fields + 1
  | _ => 0

def nestingItems : List Value → Nat
  | [] => 0
  | v :: rest => max (nesting v) (nestingItems rest)

def nestingFields : List (String × Value) → Nat
  | [] => 0
  | (_, v) :: rest => max (nesting v) (nestingFields rest)

end

/-- Reads the JSON form of a type. -/
def ofValue? (v : Value) : Option ValueType := read? (nesting v + 1) false v

end StageGraph.ValueType
