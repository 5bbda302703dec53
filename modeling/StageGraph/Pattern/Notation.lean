import StageGraph.Pattern.Tree
import StageGraph.Unicode.Age

/-! The notation of single characters, classes and conditions in patterns.

Every function here reads from the front of a text and gives what it read and the rest. In verbose mode
blanks and comments between the signs of a pattern do not count. -/
namespace StageGraph.Pattern

/-- The modes that the flags of a pattern switch. -/
structure Modes where
  foldCase : Bool := false
  multiLine : Bool := false
  dotAll : Bool := false
  swapGreed : Bool := false
  unicode : Bool := true
  returns : Bool := false
  verbose : Bool := false
  deriving DecidableEq, Repr

def isBlank (c : Char) : Bool := Unicode.whitespace.holds c.toNat

/-- Skips blanks and comments, which end with their line. -/
def skipBlank : Bool → List Char → List Char
  | _, [] => []
  | true, c :: rest => skipBlank (c != '\n') rest
  | false, c :: rest =>
    if isBlank c then skipBlank false rest else if c = '#' then skipBlank true rest else c :: rest

namespace Modes

/-- Skips what does not count in front of the next sign. -/
def skip (m : Modes) (text : List Char) : List Char := if m.verbose then skipBlank false text else text

/-- Moves on by one sign. -/
def next (m : Modes) (text : List Char) : List Char := m.skip (text.drop 1)

def fold (m : Modes) (c : CharClass) : CharClass :=
  if m.foldCase then (if m.unicode then .folded c else .foldedAscii c) else c

/-- Outside Unicode mode a class has to stay within ASCII. -/
def checked (m : Modes) (c : CharClass) : Option CharClass := if m.unicode || c.isAscii then some c else none

/-- A class as it is or its complement. -/
def negate (m : Modes) (negated : Bool) (c : CharClass) : Option CharClass :=
  m.checked (if negated then .complement c else c)

end Modes

/-- One sign of a pattern: a literal, which may be written as a byte, a class or a condition. -/
inductive Sign where
  | literal (c : Char) (byte : Bool)
  | members (c : CharClass)
  | look (l : Look)

/-! ### Classes by name -/

/-- The ASCII classes by name. -/
def asciiClass? (name : String) : Option CharClass :=
  let given (rs : Unicode.Ranges) : Option CharClass := some (.ranges rs)
  match name with
  | "alnum" => given [(48, 57), (65, 90), (97, 122)]
  | "alpha" => given [(65, 90), (97, 122)]
  | "ascii" => given [(0, 127)]
  | "blank" => given [(9, 9), (32, 32)]
  | "cntrl" => given [(0, 31), (127, 127)]
  | "digit" => given [(48, 57)]
  | "graph" => given [(33, 126)]
  | "lower" => given [(97, 122)]
  | "print" => given [(32, 126)]
  | "punct" => given [(33, 47), (58, 64), (91, 96), (123, 126)]
  | "space" => given [(9, 13), (32, 32)]
  | "upper" => given [(65, 90)]
  | "word" => given [(48, 57), (65, 90), (95, 95), (97, 122)]
  | "xdigit" => given [(48, 57), (65, 70), (97, 102)]
  | _ => none

/-- Digits, blanks and word characters by their letters. -/
def letterClass (m : Modes) (c : Char) : CharClass :=
  let name := if c = 'd' then "digit" else if c = 's' then "space" else "word"
  if m.unicode then
    .ranges (if c = 'd' then Unicode.decimalDigit else if c = 's' then Unicode.whitespace else Unicode.word)
  else (asciiClass? name).getD default

/-- A property name without case, separators and a leading `is`. -/
def plainName (name : List Char) : String :=
  let dropIs : List Char → Bool × List Char
    | a :: b :: rest => if a.toLower = 'i' ∧ b.toLower = 's' then (true, rest) else (false, a :: b :: rest)
    | short => (false, short)
  let (dropped, rest) := dropIs name
  let kept := (rest.filter fun c => c ≠ ' ' && c ≠ '_' && c ≠ '-' && c.toNat < 128).map Char.toLower
  String.ofList (if dropped && kept == ['c'] then ['i', 's', 'c'] else kept)

/-- The general categories under a name; three names stand for sets of their own. -/
def category? (name : String) : Option Unicode.Ranges :=
  if name = "any" then some [(0, Unicode.lastCodePoint)]
  else if name = "ascii" then some [(0, 127)]
  else if name = "assigned" then
    some ((Unicode.categories.filter fun run => run.2.2 ≠ "Cn").map fun run => (run.1, run.2.1))
  else
    (Unicode.categoryNames.find? fun entry => entry.1.contains name).map fun entry =>
      Unicode.categoryRanges entry.2

/-- A property that stands alone: a binary one, a category or a script. -/
def property? (name : String) : Option Unicode.Ranges :=
  let binary := if ["cf", "sc", "lc"].contains name then none else Unicode.binaryProperty? name
  binary <|> category? name <|> Unicode.script? name

/-- A property with a value. -/
def valueProperty? (name value : String) : Option Unicode.Ranges :=
  if ["gc", "generalcategory"].contains name then category? value
  else if ["sc", "script"].contains name then Unicode.script? value
  else if ["scx", "scriptextensions"].contains name then Unicode.scriptUse? value
  else if name = "age" then Unicode.ofAge? value
  else if ["gcb", "graphemeclusterbreak"].contains name then Unicode.cluster? value
  else if ["wb", "wordbreak"].contains name then Unicode.wordClass? value
  else if ["sb", "sentencebreak"].contains name then Unicode.sentenceClass? value
  else none

/-- The text in front of a sign, and the text behind it, if the sign is there. -/
def splitOnce (sign : List Char) : List Char → Option (List Char × List Char)
  | [] => none
  | c :: rest =>
    if sign.isPrefixOf (c :: rest) then some ([], (c :: rest).drop sign.length)
    else (splitOnce sign rest).map fun (front, back) => (c :: front, back)

/-- What stands between the braces of a property: a name, or a name and a value that are or are not to be
equal. -/
def propertyQuery? (query : List Char) : Option (Bool × Unicode.Ranges) :=
  match splitOnce ['!', '='] query with
  | some (name, value) => (valueProperty? (plainName name) (plainName value)).map fun rs => (true, rs)
  | none =>
    match splitOnce [':'] query <|> splitOnce ['='] query with
    | some (name, value) => (valueProperty? (plainName name) (plainName value)).map fun rs => (false, rs)
    | none => (property? (plainName query)).map fun rs => (false, rs)

/-- The signs up to a closing brace. -/
def braced (m : Modes) : Nat → List Char → Option (List Char × List Char)
  | 0, _ => none
  | fuel + 1, text =>
    match text with
    | [] => none
    | '}' :: rest => some ([], rest)
    | c :: rest => (braced m fuel (m.skip rest)).map fun (cs, rest) => (c :: cs, rest)

/-- The name of a property: a single sign, or what stands in braces. -/
def propertyName? (m : Modes) (text : List Char) : Option (List Char × List Char) :=
  match text with
  | [] => none
  | '{' :: inner => braced m (inner.length + 1) (m.skip inner)
  | c :: rest => if c = '\\' then none else some ([c], m.skip rest)

/-- The class that a property names, or its complement. -/
def propertySign? (m : Modes) (negated : Bool) (query : List Char) : Option Sign := do
  let (differs, rs) ← propertyQuery? query
  if m.unicode then
    let c := m.fold (.ranges rs)
    some (.members (if negated != differs then .complement c else c))
  else none

/-- A class by property, behind the letter that says whether its complement is meant. -/
def propertyClass? (m : Modes) (negated : Bool) (text : List Char) : Option (Sign × List Char) := do
  let (query, rest) ← propertyName? m text
  let sign ← propertySign? m negated query
  some (sign, rest)

/-! ### Escapes -/

def hexDigit? (c : Char) : Option Nat :=
  if c.isDigit then some (c.toNat - '0'.toNat)
  else if 'a' ≤ c ∧ c ≤ 'f' then some (c.toNat - 'a'.toNat + 10)
  else if 'A' ≤ c ∧ c ≤ 'F' then some (c.toNat - 'A'.toNat + 10)
  else none

/-- The character with this number, if there is one. -/
def scalar? (n : Nat) : Option Char :=
  if n < 0xD800 ∨ (0xDFFF < n ∧ n ≤ Unicode.lastCodePoint) then some (Char.ofNat n) else none

/-- The given number of hexadecimal digits, at the front of a text. -/
def hexDigits (m : Modes) : Nat → Nat → List Char → Option (Nat × List Char)
  | 0, value, text => some (value, text)
  | left + 1, value, text =>
    match text with
    | [] => none
    | c :: rest => do
      let d ← hexDigit? c
      hexDigits m left (value * 16 + d) (m.skip rest)

/-- A character by number, as many digits as given. -/
def digitsNumber? (m : Modes) (digits : Nat) (text : List Char) : Option (Sign × List Char) := do
  let (n, rest) ← hexDigits m digits 0 text
  let c ← scalar? n
  some (.literal c (digits == 2), rest)

/-- The character whose digits stand in braces. -/
def bracedScalar? (cs : List Char) : Option Char := do
  let ds ← cs.mapM hexDigit?
  if ds.isEmpty then none else scalar? (ds.foldl (fun n d => n * 16 + d) 0)

/-- A character by number, as many digits as there are up to a closing brace. -/
def bracedNumber? (m : Modes) (inner : List Char) : Option (Sign × List Char) := do
  let (cs, rest) ← braced m (inner.length + 1) (m.skip inner)
  let c ← bracedScalar? cs
  some (.literal c false, m.skip rest)

/-- A character by number, behind the letter that says how many digits it has. -/
def numbered? (m : Modes) (digits : Nat) (text : List Char) : Option (Sign × List Char) :=
  match text with
  | '{' :: inner => bracedNumber? m inner
  | text => digitsNumber? m digits text

/-- The conditions written in braces behind `\b`. -/
def wordCondition? (wide : Bool) (name : String) : Option Look :=
  match name with
  | "start" => some (.wordStart wide)
  | "end" => some (.wordEnd wide)
  | "start-half" => some (.wordStartHalf wide)
  | "end-half" => some (.wordEndHalf wide)
  | _ => none

def isConditionLetter (c : Char) : Bool := c.isAlpha || c == '-'

/-- A condition by name, up to its closing brace. -/
def namedCondition? (m : Modes) (text : List Char) : Option (Sign × List Char) := do
  let (cs, rest) ← braced m (text.length + 1) text
  let l ← wordCondition? m.unicode (String.ofList cs)
  some (.look l, rest)

/-- A word boundary, behind its letter. Braces that start with a letter or a hyphen name a condition. -/
def boundary? (m : Modes) (text : List Char) : Option (Sign × List Char) :=
  match text with
  | '{' :: inner =>
    if (m.skip inner).head?.any isConditionLetter then namedCondition? m (m.skip inner)
    else some (.look (.wordBoundary m.unicode), text)
  | _ => some (.look (.wordBoundary m.unicode), text)

/-- The signs that mean something by themselves. -/
def metaSigns : List Char :=
  ['\\', '.', '+', '*', '?', '(', ')', '|', '[', ']', '\x7b', '\x7d', '^', '$', '#', '&', '-', '~']

/-- Whether a backslash in front of the sign makes it a literal. -/
def isEscapable (c : Char) : Bool :=
  metaSigns.contains c || (c.toNat < 128 && !c.isAlphanum && c ≠ '<' && c ≠ '>')

/-- A sign behind a backslash. -/
def escape? (m : Modes) (text : List Char) : Option (Sign × List Char) :=
  match text with
  | [] => none
  | c :: rest =>
    let plain (code : Nat) : Option (Sign × List Char) := some (.literal (Char.ofNat code) false, rest)
    let condition (l : Look) : Option (Sign × List Char) := some (.look l, rest)
    if c = 'x' ∨ c = 'u' ∨ c = 'U' then
      numbered? m (if c = 'x' then 2 else if c = 'u' then 4 else 8) (m.skip rest)
    else if c = 'p' ∨ c = 'P' then propertyClass? m (c == 'P') (m.skip rest)
    else if c = 'd' ∨ c = 's' ∨ c = 'w' then some (.members (letterClass m c), rest)
    else if c = 'D' ∨ c = 'S' ∨ c = 'W' then
      (m.negate true (letterClass m c.toLower)).map fun cls => (.members cls, rest)
    else if isEscapable c then some (.literal c false, rest)
    else
      match c with
      | 'a' => plain 7
      | 'f' => plain 12
      | 't' => plain 9
      | 'n' => plain 10
      | 'r' => plain 13
      | 'v' => plain 11
      | 'A' => condition .startText
      | 'z' => condition .endText
      | 'b' => boundary? m rest
      | 'B' => condition (.notWordBoundary m.unicode)
      | '<' => condition (.wordStart m.unicode)
      | '>' => condition (.wordEnd m.unicode)
      | _ => none

/-! ### Bracketed classes -/

/-- A literal as a member of a class. Outside Unicode mode it has to be ASCII. -/
def memberCode? (m : Modes) (c : Char) : Option Nat :=
  if m.unicode || c.toNat < 128 then some c.toNat else none

/-- A sign inside brackets. -/
def classSign? (m : Modes) : List Char → Option (Sign × List Char)
  | [] => none
  | '\\' :: rest => escape? m rest
  | c :: rest => some (.literal c false, rest)

/-- The next sign as far as ranges look ahead: in verbose mode behind blanks and the mark of a comment, but not
behind the comment. -/
def Modes.peek (m : Modes) (text : List Char) : Option Char :=
  if m.verbose then
    let ahead := text.dropWhile isBlank
    let beyond := if ahead.head? == some '#' then (ahead.drop 1).dropWhile isBlank else ahead
    (if beyond.isEmpty then text else beyond).head?
  else text.head?

/-- Whether a range goes on here: a hyphen in front of a bracket or of another hyphen makes none. -/
def rangeAhead (m : Modes) (text : List Char) : Bool :=
  let ahead := m.peek (text.drop 1)
  text.head? == some '-' && ahead != some ']' && ahead != some '-'

/-- The range between two signs. -/
def range? (m : Modes) : Sign → Sign → Option CharClass
  | .literal a _, .literal b _ => do
    let low ← memberCode? m a
    let high ← memberCode? m b
    if low ≤ high then some (.ranges [(low, high)]) else none
  | _, _ => none

/-- The members that a single sign stands for. -/
def single? (m : Modes) : Sign → Option CharClass
  | .literal c _ => (memberCode? m c).map fun n => .ranges [(n, n)]
  | .members c => some c
  | .look _ => none

/-- The end of a range that starts with a sign, behind the hyphen. -/
def rangeEnd? (m : Modes) (first : Sign) (text : List Char) : Option (CharClass × List Char) := do
  let (second, rest) ← classSign? m text
  let c ← range? m first second
  some (c, rest)

/-- What a sign inside brackets starts: a range, or a single member. -/
def memberFrom? (m : Modes) (first : Sign) (text : List Char) : Option (CharClass × List Char) :=
  if rangeAhead m text then rangeEnd? m first (m.next text) else (single? m first).map fun c => (c, text)

/-- A single member or a range. -/
def classRange? (m : Modes) (text : List Char) : Option (CharClass × List Char) := do
  let (first, rest) ← classSign? m text
  memberFrom? m first (m.skip rest)

/-- The ASCII class whose name stands in front of a colon and a bracket. -/
def className? (text : List Char) : Option (CharClass × List Char) :=
  let name := text.takeWhile (· ≠ ':')
  match text.drop name.length with
  | ':' :: ']' :: rest => (asciiClass? (String.ofList name)).map fun c => (c, rest)
  | _ => none

/-- An ASCII class by name, inside brackets and behind a bracket of its own. -/
def namedClass? (m : Modes) (text : List Char) : Option (Option CharClass × List Char) :=
  match text with
  | ':' :: '^' :: rest => (className? rest).map fun (c, rest) => (m.negate true (m.fold c), rest)
  | ':' :: rest => (className? rest).map fun (c, rest) => (m.negate false (m.fold c), rest)
  | _ => none

/-- An operation between two classes. -/
inductive SetOp where
  | both
  | without
  | either

def SetOp.apply (m : Modes) (op : SetOp) (a b : CharClass) : CharClass :=
  match op with
  | both => .both (m.fold a) (m.fold b)
  | without => .without (m.fold a) (m.fold b)
  | either => .either (m.fold a) (m.fold b)

/-- The class read so far: the members since the last operation, joined to what stands in front of it. -/
def joined (m : Modes) (left : Option (SetOp × CharClass)) (members : List CharClass) : CharClass :=
  match left with
  | some (op, a) => op.apply m a (.union members)
  | none => .union members

/-- The hyphens behind an opening bracket, which are members. -/
def leadingHyphens (m : Modes) : Nat → List Char → List CharClass × List Char
  | 0, text => ([], text)
  | fuel + 1, text =>
    match text with
    | '-' :: rest =>
      let (more, rest) := leadingHyphens m fuel (m.skip rest)
      (.single '-' :: more, rest)
    | _ => ([], text)

/-- What is a member only at the front of a class: hyphens, or a bracket that closes nothing yet. -/
def firstMembers (m : Modes) (text : List Char) : List CharClass × List Char :=
  match leadingHyphens m text.length text with
  | ([], ']' :: rest) => ([.single ']'], m.skip rest)
  | found => found

/-- The front of a class: whether its complement is meant, and the first members. -/
def classFront (m : Modes) (text : List Char) : (Bool × List CharClass) × List Char :=
  match m.skip text with
  | '^' :: rest => ((true, (firstMembers m (m.skip rest)).1), (firstMembers m (m.skip rest)).2)
  | text => ((false, (firstMembers m text).1), (firstMembers m text).2)

mutual

/-- A bracketed class, behind its opening bracket. -/
def bracketed (m : Modes) : Nat → List Char → Option (CharClass × List Char)
  | 0, _ => none
  | fuel + 1, text => do
    let ((negated, first), text) := classFront m text
    let (c, rest) ← members? m fuel first none text
    let c ← m.negate negated (m.fold c)
    some (.bracketed c, rest)

/-- The members up to the closing bracket. -/
def members? (m : Modes) :
    Nat → List CharClass → Option (SetOp × CharClass) → List Char → Option (CharClass × List Char)
  | 0, _, _, _ => none
  | fuel + 1, members, left, text =>
    match m.skip text with
    | [] => none
    | ']' :: rest => some (joined m left members, rest)
    | '&' :: '&' :: rest => members? m fuel [] (some (.both, joined m left members)) rest
    | '-' :: '-' :: rest => members? m fuel [] (some (.without, joined m left members)) rest
    | '~' :: '~' :: rest => members? m fuel [] (some (.either, joined m left members)) rest
    | '[' :: inner =>
      match namedClass? m inner with
      | some (some c, rest) => members? m fuel (c :: members) left rest
      | some (none, _) => none
      | none => do
        let (c, rest) ← bracketed m fuel inner
        members? m fuel (c :: members) left rest
    | text => do
      let (c, rest) ← classRange? m text
      members? m fuel (c :: members) left rest

end

end StageGraph.Pattern
