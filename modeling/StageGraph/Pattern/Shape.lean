import StageGraph.Pattern.Tree
import StageGraph.Unicode.ByteRange

/-! The room that a pattern takes.

A pattern is refused when an automaton for it, forwards or backwards, would be too large. What is built is not
the pattern as written but its `Shape`: repetitions of what takes no characters are cut short, alternatives
between single characters are one class, and alternatives share what they start with. `Shape.size` counts the
bytes of the states: a state takes thirty-two, and more for the states that it leads to. -/
namespace StageGraph.Pattern

/-- A pattern as an automaton is built for it. -/
inductive Shape where
  | empty
  /-- Certain bytes. -/
  | literal (bytes : List Nat)
  /-- One of several characters, or of none. -/
  | set (rs : Unicode.Ranges)
  | look (l : Look)
  | captured (s : Shape)
  | repeated (s : Shape) (least : Nat) (most : Option Nat)
  | concat (ss : List Shape)
  | alternate (ss : List Shape)
  deriving Inhabited, Repr

namespace Shape

/-! ### Shapes of patterns -/

/-- The bytes of a character. -/
def encode (n : Nat) : List Nat := (Unicode.byteSequences (n, n)).flatMap fun bytes => bytes.map Prod.fst

/-- A class; of one member, its bytes. -/
def ofSet (rs : Unicode.Ranges) : Shape :=
  match rs with
  | [(low, high)] => if low = high then literal (encode low) else set rs
  | _ => set rs

mutual

/-- Whether shapes are alike. Nothing that captures is like another. -/
def alike : Shape → Shape → Bool
  | empty, empty => true
  | literal a, literal b => a == b
  | set a, set b => a == b
  | look a, look b => a == b
  | repeated a least most, repeated b least' most' => least == least' && most == most' && alike a b
  | concat as, concat bs => allAlike as bs
  | alternate as, alternate bs => allAlike as bs
  | _, _ => false

def allAlike : List Shape → List Shape → Bool
  | [], [] => true
  | a :: as, b :: bs => alike a b && allAlike as bs
  | _, _ => false

end

mutual

/-- Whether a shape is known to take no characters. -/
def isVoid : Shape → Bool
  | empty => true
  | literal _ => false
  | set _ => false
  | look _ => true
  | captured s => s.isVoid
  | repeated s _ most => most.isSome && s.isVoid
  | concat ss => allVoid ss
  | alternate ss => allVoid ss

def allVoid : List Shape → Bool
  | [] => true
  | s :: rest => s.isVoid && allVoid rest

end

/-- A repetition. What takes no characters is repeated once at most. -/
def repeatOf (s : Shape) (least : Nat) (most : Option Nat) : Shape :=
  let (least, most) := if s.isVoid then (min least 1, some (min (most.getD 1) 1)) else (least, most)
  if most = some 0 then empty else if least = 1 ∧ most = some 1 then s else repeated s least most

/-- The parts of a sequence: what is a sequence itself is taken apart, what is empty is left out. -/
def spread (ss : List Shape) : List Shape :=
  ss.flatMap fun
    | concat parts => parts
    | empty => []
    | s => [s]

/-- Puts literals that follow each other together. -/
def joinLiterals : List Shape → List Shape
  | [] => []
  | s :: rest =>
    match s, joinLiterals rest with
    | literal a, literal b :: more => literal (a ++ b) :: more
    | s, rest => s :: rest

/-- A sequence. -/
def concatOf (ss : List Shape) : Shape :=
  match joinLiterals (spread ss) with
  | [] => empty
  | [s] => s
  | ss => concat ss

/-- The characters of a class or of a literal of one character. -/
def characters? : Shape → Option Unicode.Ranges
  | set rs => some rs
  | literal bytes =>
    let lead := bytes.headD 0
    let more := if lead < 0xC0 then 0 else if lead < 0xE0 then 1 else if lead < 0xF0 then 2 else 3
    let mark := if more = 0 then 0 else if more = 1 then 0xC0 else if more = 2 then 0xE0 else 0xF0
    if bytes.length = more + 1 then
      let n := (bytes.drop 1).foldl (fun n b => n * 64 + (b - 0x80)) (lead - mark)
      some [(n, n)]
    else none
  | _ => none

/-- Alternatives, of which those between characters are one class. -/
def either (ss : List Shape) : Shape :=
  match ss with
  | [s] => s
  | ss =>
    match ss.mapM characters? with
    | some sets => ofSet (Unicode.Ranges.normal sets.flatten)
    | none => alternate ss

/-- Alternatives among which are alternatives, as one list. -/
def flatten (ss : List Shape) : List Shape :=
  ss.flatMap fun
    | alternate parts => parts
    | s => [s]

/-- How many parts two lists have in common at their front. -/
def common : List Shape → List Shape → Nat
  | a :: as, b :: bs => if alike a b then common as bs + 1 else 0
  | _, _ => 0

/-- The parts of sequences; nothing if one is none. -/
def sequences? (ss : List Shape) : Option (List (List Shape)) :=
  ss.mapM fun
    | concat parts => some parts
    | _ => none

/-- Alternatives. Sequences with the same front share it. -/
def alternateOf (ss : List Shape) : Shape :=
  let ss := flatten ss
  match either ss with
  | alternate ss =>
    match sequences? ss with
    | some (first :: rest) =>
      let shared := rest.foldl (fun n parts => min n (common first parts)) first.length
      if shared = 0 then alternate ss
      else
        let backs := (first :: rest).map fun parts => concatOf (parts.drop shared)
        concatOf (first.take shared ++ [either (flatten backs)])
    | _ => alternate ss
  | s => s

end Shape

mutual

/-- The shape of a pattern. -/
def shape : Pattern → Shape
  | empty => .empty
  | set c => .ofSet c.members
  | look l => .look l
  | group p captures => if captures then .captured p.shape else p.shape
  | concat ps => .concatOf (shapes ps)
  | alternate ps => .alternateOf (shapes ps)
  | repeated p least most => .repeatOf p.shape least most

def shapes : List Pattern → List Shape
  | [] => []
  | p :: ps => p.shape :: shapes ps

end

namespace Shape

/-! ### Sizes -/

/-- The bytes of one state. -/
def state : Nat := 32

/-- The bytes of a state that leads to several others. -/
def fork (branches : Nat) : Nat := state + 4 * branches

/-- The bytes of a state that so many byte ranges lead out of. -/
def choices (n : Nat) : Nat := state + 8 * n

/-- Byte sequences by their first range, those with the same one behind each other taken together. -/
def byFirst : List Unicode.ByteSequence → List ((Nat × Nat) × List Unicode.ByteSequence)
  | [] => []
  | [] :: rest => byFirst rest
  | (r :: more) :: rest =>
    match byFirst rest with
    | (next, same) :: others =>
      if r = next then (r, more :: same) :: others else (r, [more]) :: (next, same) :: others
    | [] => [(r, [more])]

/-- The states that are there, each as the ranges that lead out of it with the number of the state that they
lead to. Zero is the last state, the first of the list one. -/
abbrev States := List (List ((Nat × Nat) × Nat))

/-- The number of a state, which is added unless it is there. -/
def numberOf (node : List ((Nat × Nat) × Nat)) : StateM States Nat := fun states =>
  match states.findIdx? (· == node) with
  | some i => (i + 1, states)
  | none => (states.length + 1, states ++ [node])

/-- Adds the states for byte sequences of so many bytes at most; gives the number of the first. -/
def addStates : Nat → List Unicode.ByteSequence → StateM States Nat
  | 0, _ => pure 0
  | bytes + 1, seqs => do
    let node ← (byFirst seqs).mapM fun (r, rest) => do
      if rest.all List.isEmpty then pure (r, 0) else return (r, ← addStates bytes rest)
    numberOf node

/-- A class forwards: states that lead on in the same way are shared. -/
def setSize (seqs : List Unicode.ByteSequence) : Nat :=
  ((addStates 4 seqs).run []).2.foldl (fun total node => total + choices node.length) state

/-- The different fronts of byte sequences of so many bytes at most. -/
def fronts : Nat → List Unicode.ByteSequence → Nat
  | 0, _ => 0
  | bytes + 1, seqs => (byFirst seqs).foldl (fun total group => total + fronts bytes group.2 + 1) 0

/-- A class backwards: sequences share the bytes that they start with. -/
def backwardSetSize (seqs : List Unicode.ByteSequence) : Nat :=
  fork seqs.length + state + state * fronts 4 seqs

/-- Texts by their first byte, each with what stands behind it. -/
def byByte (texts : List (List Nat)) : List (Nat × List (List Nat)) :=
  (texts.filterMap List.head?).eraseDups.map fun b =>
    (b, texts.filterMap fun
      | c :: rest => if c = b then some rest else none
      | [] => none)

/-- Texts between those that are empty; of several empty ones without a text before, one counts. -/
def segments : Bool → List (List Nat) → List (List (List Nat))
  | _, [] => [[]]
  | begun, [] :: rest =>
    if !begun && rest.head? == some [] then segments begun rest else [] :: segments begun rest
  | _, text :: rest =>
    match segments true rest with
    | segment :: more => (text :: segment) :: more
    | [] => [[text]]

/-- A tree for texts of so many bytes at most, without its last state. -/
def treeSize : Nat → List (List Nat) → Nat
  | 0, _ => 0
  | bytes + 1, texts =>
    let parts := (segments false texts).map byByte
    let full := parts.filter fun part => !part.isEmpty
    let inner := full.flatten.map fun (_, rest) => if rest.all List.isEmpty then 0 else treeSize bytes rest
    fork (full.length + (parts.length - 1)) + inner.sum
      + (full.map fun part => if part.length = 1 then state else choices part.length).sum

/-- The bytes of literals; nothing if one of several is none. -/
def literals? (ss : List Shape) : Option (List (List Nat)) :=
  ss.mapM fun
    | literal bytes => some bytes
    | _ => none

mutual

/-- The least number of bytes; nothing if there may be no match. -/
def shortest? : Shape → Option Nat
  | empty => some 0
  | literal bytes => some bytes.length
  | set rs => if rs.isEmpty then none else some 1
  | look _ => some 0
  | captured s => s.shortest?
  | repeated s least _ => s.shortest?.map (least * ·)
  | concat ss => (shortestOfAll ss).map List.sum
  | alternate ss => (shortestOfAll ss).bind List.min?

def shortestOfAll : List Shape → Option (List Nat)
  | [] => some []
  | s :: rest =>
    match s.shortest?, shortestOfAll rest with
    | some n, some ns => some (n :: ns)
    | _, _ => none

end

mutual

/-- The bytes of the states for a shape. -/
def size (back : Bool) : Shape → Nat
  | empty => state
  | literal bytes => state * bytes.length
  | set rs =>
    if rs.all (·.2 < 128) then state + choices rs.length
    else if back then backwardSetSize rs.sequences
    else setSize rs.sequences
  | look _ => state
  | captured s => s.size back + if back then 0 else 2 * state
  | repeated s least most =>
    let one := s.size back
    match least, most with
    | 0, some 1 => one + fork 2 + state
    | 0, none => if s.shortest?.any (0 < ·) then one + fork 2 else one + 2 * fork 2 + state
    | n, none => n * one + fork 2
    | n, some m =>
      if n = m then n * one
      else (if n = 0 then state else n * one) + (m - n) * (one + fork 2) + state
  | concat ss => sizeOfAll back ss
  | alternate ss =>
    match literals? ss with
    | some texts =>
      let texts := if back then texts.map List.reverse else texts
      state + treeSize ((texts.map List.length).foldl max 0) texts
    | none => sizeOfAll back ss + fork ss.length + state

def sizeOfAll (back : Bool) : List Shape → Nat
  | [] => 0
  | s :: rest => s.size back + sizeOfAll back rest

end

/-- How large an automaton may be. -/
def room : Nat := 10485760

/-- Whether there is room for the automata of a shape. The one that runs forwards has two states at either end,
the other one. -/
def fits (s : Shape) : Bool := s.size false + 4 * state ≤ room && s.size true + 2 * state ≤ room

end Shape
end StageGraph.Pattern
