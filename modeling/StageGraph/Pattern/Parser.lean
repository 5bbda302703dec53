import StageGraph.Unicode.Recent
import StageGraph.Pattern.Notation
import StageGraph.Pattern.Shape

/-! Reading patterns.

`parse?` refuses what is not well formed, nests too deep or stands for too large an automaton. Flags hold
up to the end of the group they stand in, across its alternatives. -/
namespace StageGraph.Pattern

/-- What holds for the signs that follow: the modes, and the group names so far. -/
structure Scope where
  modes : Modes := {}
  names : List String := []

/-- The pattern of a literal. A byte past ASCII is none. -/
def literal? (m : Modes) (c : Char) (byte : Bool) : Option Pattern :=
  if !m.unicode && byte && 127 < c.toNat then none
  else if !m.unicode && 127 < c.toNat then some (.set (.single c))
  else some (.set (m.fold (.single c)))

/-- Any character but those that end a line. -/
def dot? (m : Modes) : Option Pattern :=
  if !m.unicode then none
  else
    let ends : Unicode.Ranges := if m.dotAll then [] else if m.returns then [(10, 10), (13, 13)] else [(10, 10)]
    some (.set (.complement (.ranges ends)))

def lineStart (m : Modes) : Look :=
  if !m.multiLine then .startText else if m.returns then .startLineReturn else .startLine

def lineEnd (m : Modes) : Look :=
  if !m.multiLine then .endText else if m.returns then .endLineReturn else .endLine

/-- The pattern of an escaped sign. -/
def ofSign? (m : Modes) : Sign → Option Pattern
  | .literal c byte => literal? m c byte
  | .members c => some (.set c)
  | .look l => some (.look l)

/-- The pattern of one sign. -/
def sign? (m : Modes) (text : List Char) : Option (Pattern × List Char) :=
  match text with
  | [] => none
  | '.' :: rest => (dot? m).map fun p => (p, rest)
  | '^' :: rest => some (.look (lineStart m), rest)
  | '$' :: rest => some (.look (lineEnd m), rest)
  | '\\' :: rest => do
    let (sign, rest) ← escape? m rest
    let p ← ofSign? m sign
    some (p, rest)
  | c :: rest => (literal? m c false).map fun p => (p, rest)

/-! ### Repetition -/

/-- The decimal digits at the front of a text. -/
def digits (m : Modes) : Nat → List Char → List Nat × List Char
  | 0, text => ([], text)
  | fuel + 1, text =>
    match text with
    | [] => ([], [])
    | c :: rest =>
      if c.isDigit then
        let (ds, rest) := digits m fuel (m.skip rest)
        ((c.toNat - '0'.toNat) :: ds, rest)
      else ([], c :: rest)

/-- A number of repetitions, with blanks around it. It may not be too large. -/
def count? (m : Modes) (text : List Char) : Option (Nat × List Char) :=
  let text := text.dropWhile isBlank
  let (ds, rest) := digits m text.length text
  let n := ds.foldl (fun n d => n * 10 + d) 0
  if ds.isEmpty || 4294967296 ≤ n then none else some (n, m.skip (rest.dropWhile isBlank))

/-- The greatest number of repetitions, behind a comma; there is none in front of the closing brace. -/
def most? (m : Modes) (text : List Char) : Option (Option Nat × List Char) :=
  match text with
  | '}' :: _ => some (none, text)
  | text => (count? m text).map fun (n, rest) => (some n, rest)

/-- Drops the mark of a repetition that prefers less, which changes nothing about what matches. -/
def dropLazy (text : List Char) : List Char :=
  match text with
  | '?' :: rest => rest
  | _ => text

/-- The greatest number of repetitions, behind the least one. -/
def upper? (m : Modes) (least : Nat) (text : List Char) : Option (Option Nat × List Char) :=
  match text with
  | ',' :: rest => most? m (m.skip rest)
  | text => some (some least, text)

/-- The closing brace behind two bounds, which have to be in order. -/
def bounded? (m : Modes) (least : Nat) (most : Option Nat) (text : List Char) :
    Option ((Nat × Option Nat) × List Char) :=
  match text with
  | '}' :: rest => if most.all (least ≤ ·) then some ((least, most), dropLazy (m.skip rest)) else none
  | _ => none

/-- The bounds of a counted repetition, behind its opening brace. -/
def bounds? (m : Modes) (text : List Char) : Option ((Nat × Option Nat) × List Char) := do
  let (least, text) ← count? m (m.skip text)
  let (most, text) ← upper? m least text
  bounded? m least most text

/-- Repeats the last of the patterns read so far; there has to be one, and flags are none. -/
def repeatLast (least : Nat) (most : Option Nat) : List Pattern → Option (List Pattern)
  | [] => none
  | .empty :: _ => none
  | p :: before => some (.repeated p least most :: before)

/-! ### Groups -/

/-- Switches the mode of a flag. -/
def switch (m : Modes) (on : Bool) : Char → Option Modes
  | 'i' => some { m with foldCase := on }
  | 'm' => some { m with multiLine := on }
  | 's' => some { m with dotAll := on }
  | 'U' => some { m with swapGreed := on }
  | 'u' => some { m with unicode := on }
  | 'R' => some { m with returns := on }
  | 'x' => some { m with verbose := on }
  | _ => none

/-- Flags and the colon or the parenthesis behind them: none twice, at most one hyphen, and none at the end.
Gives the modes, the flags read, and whether it was the parenthesis. -/
def flags? (seen : List Char) (m : Modes) : List Char → Option ((Modes × List Char × Bool) × List Char)
  | [] => none
  | c :: rest =>
    if c = ':' ∨ c = ')' then
      if seen.head? == some '-' then none else some ((m, seen, c == ')'), rest)
    else if seen.contains c then none
    else if c = '-' then flags? (c :: seen) m rest
    else (switch m (!seen.contains '-') c).bind fun m => flags? (c :: seen) m rest

def isLetter (c : Char) : Bool := c.isAlpha || (127 < c.toNat && Unicode.nameStart.holds c.toNat)

def isNumeral (c : Char) : Bool := c.isDigit || (127 < c.toNat && Unicode.nameNumber.holds c.toNat)

/-- Whether a character may stand in the name of a group, at its front or behind. -/
def isNameChar (front : Bool) (c : Char) : Bool :=
  c == '_' || isLetter c || (!front && (c == '.' || c == '[' || c == ']' || isNumeral c))

def isName : List Char → Bool
  | [] => false
  | c :: more => isNameChar true c && more.all (isNameChar false)

/-- The name of a group up to its closing angle, which no group before has. -/
def groupName? (names : List String) (text : List Char) : Option (String × List Char) :=
  let name := text.takeWhile (· ≠ '>')
  match text.drop name.length with
  | '>' :: rest =>
    if isName name && !names.contains (String.ofList name) then some (String.ofList name, rest) else none
  | _ => none

/-- What an opening parenthesis starts: a group, or other modes for what is left of the group around it. -/
inductive Opening where
  | group (modes : Modes) (names : List String) (captures : Bool)
  | switched (modes : Modes)

/-- A group with a name, behind the angle in front of the name. -/
def named? (m : Modes) (names : List String) (text : List Char) : Option (Opening × List Char) :=
  (groupName? names text).map fun (name, rest) => (.group m (name :: names) true, rest)

/-- Flags switch the modes of the group around them, or those of a group that does not capture. -/
def flagged? (names : List String) (read : Modes × List Char × Bool) : Option Opening :=
  let (m, seen, closed) := read
  if closed then if seen.isEmpty then none else some (.switched m) else some (.group m names false)

/-- A name or flags, behind the question mark. There is no looking around. -/
def special? (m : Modes) (names : List String) (text : List Char) : Option (Opening × List Char) :=
  match text with
  | '<' :: rest => named? m names rest
  | 'P' :: '<' :: rest => named? m names rest
  | text => do
    let (read, rest) ← flags? [] m text
    let opening ← flagged? names read
    some (opening, rest)

/-- Reads what follows an opening parenthesis. -/
def opening? (m : Modes) (names : List String) (text : List Char) : Option (Opening × List Char) :=
  match text with
  | '?' :: rest => special? m names rest
  | text => some (.group m names true, text)

/-! ### Patterns -/

/-- Patterns in a row; a single one stands for itself. -/
def row : List Pattern → Pattern
  | [] => .empty
  | [p] => p
  | ps => .concat ps

/-- Alternatives; a single one stands for itself. -/
def choice : List Pattern → Pattern
  | [p] => p
  | ps => .alternate ps

/-- A sign behind the patterns of its row, or a repetition of the last one of them. -/
def step? (m : Modes) (done : List Pattern) (text : List Char) : Option (List Pattern × List Char) :=
  match text with
  | '[' :: rest => (bracketed m (2 * rest.length + 2) rest).map fun (c, rest) => (.set c :: done, rest)
  | '?' :: rest => (repeatLast 0 (some 1) done).map fun done => (done, dropLazy rest)
  | '*' :: rest => (repeatLast 0 none done).map fun done => (done, dropLazy rest)
  | '+' :: rest => (repeatLast 1 none done).map fun done => (done, dropLazy rest)
  | '{' :: rest => do
    let ((least, most), rest) ← bounds? m rest
    let done ← repeatLast least most done
    some (done, rest)
  | text => (sign? m text).map fun (p, rest) => (p :: done, rest)

mutual

/-- Alternatives up to the end of their group. -/
def branches? : Nat → Scope → List Char → Option ((List Pattern × Scope) × List Char)
  | 0, _, _ => none
  | fuel + 1, s, text => do
    let ((p, s), text) ← row? fuel [] s text
    match text with
    | '|' :: rest =>
      let ((ps, s), rest) ← branches? fuel s rest
      some ((p :: ps, s), rest)
    | _ => some (([p], s), text)

/-- Patterns in a row, behind those read before, the last of which comes first. -/
def row? : Nat → List Pattern → Scope → List Char → Option ((Pattern × Scope) × List Char)
  | 0, _, _, _ => none
  | fuel + 1, done, s, text =>
    match s.modes.skip text with
    | [] => some ((row done.reverse, s), [])
    | '|' :: rest => some ((row done.reverse, s), '|' :: rest)
    | ')' :: rest => some ((row done.reverse, s), ')' :: rest)
    | '(' :: rest => do
      let (opening, rest) ← opening? s.modes s.names (s.modes.skip rest)
      match opening with
      | .switched modes => row? fuel (.empty :: done) { s with modes := modes } rest
      | .group modes names captures =>
        let ((ps, inner), rest) ← branches? fuel { modes := modes, names := names } rest
        match rest with
        | ')' :: rest => row? fuel (.group (choice ps) captures :: done) { s with names := inner.names } rest
        | _ => none
    | text => do
      let (done, rest) ← step? s.modes done text
      row? fuel done s rest

end

/-- Reads a pattern, however large it is. -/
def tree? (text : String) : Option Pattern :=
  match branches? (2 * text.toList.length + 2) {} text.toList with
  | some ((ps, _), []) => some (choice ps)
  | _ => none

/-- How deep a pattern may nest. -/
def nestingBound : Nat := 250

/-- Whether a pattern nests no deeper than it may and its automaton has room. -/
def withinBounds (p : Pattern) : Bool := p.nesting ≤ nestingBound && p.shape.fits

/-- Reads a pattern. -/
def parse? (text : String) : Option Pattern := (tree? text).filter withinBounds

/-- A pattern as it is written, in a group between the conditions for the start and the end. -/
def anchored (text : String) : String := "\\A(?:" ++ text ++ ")\\z"

/-- The pattern that is to match whole texts. -/
def whole? (text : String) : Option Pattern := parse? (anchored text)

end StageGraph.Pattern
