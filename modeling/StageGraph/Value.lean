import StageGraph.Number.Binary64

/-! JSON values.

An object is the list of its fields in order. Documents as read, and objects built by `Fields.ofList`,
repeat no key; nothing here depends on that. `Value.same` is the equality of the data model: objects are
compared without regard to the order of their fields, an integer never equals a float, and the two zeros
are equal. -/
namespace StageGraph

/-- A JSON value. An integer literal that fits 64 bits, signed or not, is an `integer`, any other number
a `real`. -/
inductive Value where
  | null
  | boolean (b : Bool)
  | integer (n : Int)
  | real (x : Binary64)
  | string (s : String)
  | array (items : List Value)
  | object (fields : List (String × Value))
  deriving Inhabited, Repr

/-- The fields of an object, in order. -/
abbrev Fields := List (String × Value)

namespace Fields

/-- The value of the first field with this key. -/
def get? (fields : Fields) (key : String) : Option Value := List.lookup key fields

/-- Replaces the value where the key stands, or appends the field. -/
def insert : Fields → String → Value → Fields
  | [], key, v => [(key, v)]
  | (k, w) :: rest, key, v => if k = key then (k, v) :: rest else (k, w) :: insert rest key v

/-- A repeated key keeps its first position and its last value. -/
def ofList (entries : List (String × Value)) : Fields :=
  entries.foldl (fun fields entry => insert fields entry.1 entry.2) []

/-- Closes a hole with the last of the fields behind it. -/
def closeGap (rest : Fields) : Fields :=
  match rest.getLast? with
  | none => []
  | some last => last :: rest.dropLast

/-- Takes a field out; the last field moves into its place. -/
def take : Fields → String → Option Value × Fields
  | [], _ => (none, [])
  | (k, v) :: rest, key =>
    if k = key then (some v, closeGap rest)
    else let (found, left) := take rest key; (found, (k, v) :: left)

end Fields

namespace Value

/-- The name of a value's JSON type. -/
def kindName : Value → String
  | null => "null"
  | boolean _ => "boolean"
  | integer _ => "number"
  | real _ => "number"
  | string _ => "string"
  | array _ => "array"
  | object _ => "object"

def string? : Value → Option String
  | string s => some s
  | _ => none

def array? : Value → Option (List Value)
  | array items => some items
  | _ => none

def object? : Value → Option Fields
  | object fields => some fields
  | _ => none

/-- A field of an object; nothing for other values. -/
def field? (v : Value) (key : String) : Option Value := v.object?.bind (Fields.get? · key)

mutual

/-- Equality of the data model. -/
def same : Value → Value → Bool
  | null, null => true
  | boolean a, boolean b => a == b
  | integer a, integer b => a == b
  | real a, real b => a.equal b
  | string a, string b => a == b
  | array a, array b => sameItems a b
  | object a, object b => a.length == b.length && fieldsWithin a b
  | _, _ => false

def sameItems : List Value → List Value → Bool
  | [], [] => true
  | a :: as, b :: bs => same a b && sameItems as bs
  | _, _ => false

/-- Each field of the first list has an equal one in the second. -/
def fieldsWithin : List (String × Value) → Fields → Bool
  | [], _ => true
  | (k, v) :: rest, other =>
    (match Fields.get? other k with
      | some w => same v w
      | none => false) && fieldsWithin rest other

end

end Value
end StageGraph
