import StageGraph.Fault

/-! A document around a fault, as text.

The document is laid out over lines, four blanks a level. A block, the lines of one non-empty container,
is marked by a bar behind each of its lines, one column past the longest, and by the message behind the
bar of the first. Marked are the blocks equal to the node of the fault; when the document holds no such
block, or the fault has no node, the document as a whole. -/
namespace StageGraph.Report

/-- The lines of a value, whether they are to be marked, and whether a mark stands among them. -/
structure Block where
  lines : List String
  marked : Bool
  found : Bool
  deriving Repr

def indent (depth : Nat) : String := "".pushn ' ' (4 * depth)

def width (lines : List String) : Nat := (lines.map String.length).foldl max 0

/-- A line padded past the longest one and closed with a bar. -/
def barred (width : Nat) (line : String) : String := line ++ "".pushn ' ' (width - line.length + 1) ++ "|"

/-- What stands behind the bar of the first marked line. -/
def flag (message : String) : String := " <---[ERROR HERE]---[" ++ message ++ "]"

/-- Marks a block. -/
def mark (message : String) (lines : List String) : List String :=
  match lines.map (barred (width lines)) with
  | [] => []
  | first :: rest => (first ++ flag message) :: rest

/-- The lines of a block with its mark. -/
def Block.finish (message : String) (b : Block) : List String :=
  if b.marked then mark message b.lines else b.lines

/-- Appends to the last line. -/
def appendLast (suffix : String) : List String → List String
  | [] => []
  | [line] => [line ++ suffix]
  | line :: rest => line :: appendLast suffix rest

/-- Puts a field's key in front of the first line of its value, whose own indentation it replaces. -/
def keyFirst (depth : Nat) (key : String) : List String → List String
  | [] => []
  | first :: rest =>
    (indent depth ++ jsonQuote key ++ ": " ++ String.ofList (first.toList.dropWhile (· == ' '))) :: rest

mutual

/-- The block of a value at a depth; a container equal to `fault` is to be marked. -/
def block (fault : Value) (message : String) (depth : Nat) : Value → Block
  | .array (v :: rest) =>
    let (lines, found) := itemLines fault message (depth + 1) (v :: rest)
    let marked := Value.same (.array (v :: rest)) fault
    ⟨(indent depth ++ "[") :: lines ++ [indent depth ++ "]"], marked, marked || found⟩
  | .object (f :: rest) =>
    let (lines, found) := fieldLines fault message (depth + 1) (f :: rest)
    let marked := Value.same (.object (f :: rest)) fault
    ⟨(indent depth ++ "\x7b") :: lines ++ [indent depth ++ "\x7d"], marked, marked || found⟩
  | v => ⟨[indent depth ++ v.toText], false, false⟩

def itemLines (fault : Value) (message : String) (depth : Nat) : List Value → List String × Bool
  | [] => ([], false)
  | v :: rest =>
    let b := block fault message depth v
    let lines := if rest.isEmpty then b.lines else appendLast "," b.lines
    let (more, found) := itemLines fault message depth rest
    ({ b with lines := lines }.finish message ++ more, b.found || found)

def fieldLines (fault : Value) (message : String) (depth : Nat) :
    List (String × Value) → List String × Bool
  | [] => ([], false)
  | (key, v) :: rest =>
    let b := block fault message depth v
    let lines := keyFirst depth key b.lines
    let lines := if rest.isEmpty then lines else appendLast "," lines
    let (more, found) := fieldLines fault message depth rest
    ({ b with lines := lines }.finish message ++ more, b.found || found)

end

/-- The document marked as a whole. -/
def wholeLines (document : Value) (message : String) : List String :=
  { block document message 0 document with marked := true }.finish message

/-- The lines of the report. -/
def lines (document : Value) (f : Fault) : List String :=
  match f.node with
  | some node =>
    let b := block node f.message 0 document
    if b.found then b.finish f.message else wholeLines document f.message
  | none => wholeLines document f.message

end Report

/-- The document with the fault marked, as one text. -/
def report (document : Value) (f : Fault) : String := String.intercalate "\n" (Report.lines document f)

end StageGraph
