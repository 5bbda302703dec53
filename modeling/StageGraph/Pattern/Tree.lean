import StageGraph.Pattern.CharClass

/-! Patterns and the strings they match.

`Matches text p i j` says that `p` matches the characters of `text` from position `i` up to position `j`.
`reach` computes it for a set of starting positions at once: sets are numbers whose binary digits are the
members, a class moves the members in front of its characters up by one, and repetition adds positions
until nothing changes. -/
namespace StageGraph

namespace Pattern

/-- A condition on a position, which takes no characters. -/
inductive Look where
  | startText
  | endText
  | startLine
  | endLine
  /-- The start of a line that a carriage return, a line feed or both may end. -/
  | startLineReturn
  | endLineReturn
  | wordBoundary (wide : Bool)
  | notWordBoundary (wide : Bool)
  | wordStart (wide : Bool)
  | wordEnd (wide : Bool)
  | wordStartHalf (wide : Bool)
  | wordEndHalf (wide : Bool)
  deriving DecidableEq, Repr

/-- Whether a character is there and part of a word. -/
def inWord (wide : Bool) : Option Char → Bool
  | some c => isWordChar wide c
  | none => false

/-- Whether the condition holds between two characters, where there are any. -/
def Look.holds (before after : Option Char) : Look → Bool
  | startText => before.isNone
  | endText => after.isNone
  | startLine => before.isNone || before == some '\n'
  | endLine => after.isNone || after == some '\n'
  | startLineReturn =>
    before.isNone || before == some '\n' || (before == some '\r' && after != some '\n')
  | endLineReturn => after.isNone || after == some '\r' || (after == some '\n' && before != some '\r')
  | wordBoundary wide => inWord wide before != inWord wide after
  | notWordBoundary wide => inWord wide before == inWord wide after
  | wordStart wide => !inWord wide before && inWord wide after
  | wordEnd wide => inWord wide before && !inWord wide after
  | wordStartHalf wide => !inWord wide before
  | wordEndHalf wide => !inWord wide after

end Pattern

/-- A pattern. A group changes nothing but counts as a level of nesting; one that captures takes room. -/
inductive Pattern where
  | empty
  | set (c : Pattern.CharClass)
  | look (l : Pattern.Look)
  | group (p : Pattern) (captures : Bool)
  | concat (ps : List Pattern)
  | alternate (ps : List Pattern)
  | repeated (p : Pattern) (least : Nat) (most : Option Nat)
  deriving Inhabited, Repr

namespace Pattern

/-- The character in front of a position. -/
def before (text : Array Char) (i : Nat) : Option Char := if i = 0 then none else text[i - 1]?

/-- What it means that a pattern matches `text` from one position to another. -/
inductive Matches (text : Array Char) : Pattern → Nat → Nat → Prop where
  | empty {i} : i ≤ text.size → Matches text .empty i i
  | set {c i ch} : text[i]? = some ch → c.holds ch.toNat = true → Matches text (.set c) i (i + 1)
  | look {l i} : i ≤ text.size → l.holds (before text i) text[i]? = true → Matches text (.look l) i i
  | group {p captures i j} : Matches text p i j → Matches text (.group p captures) i j
  | concatNil {i} : i ≤ text.size → Matches text (.concat []) i i
  | concatCons {p ps i j k} :
      Matches text p i j → Matches text (.concat ps) j k → Matches text (.concat (p :: ps)) i k
  | alternate {p ps i j} : p ∈ ps → Matches text p i j → Matches text (.alternate ps) i j
  | repeatedStop {p most i} : i ≤ text.size → Matches text (.repeated p 0 most) i i
  | repeatedFirst {p least most i j k} :
      Matches text p i j → Matches text (.repeated p least (most.map (· - 1))) j k →
        (∀ m, most = some m → least < m) → Matches text (.repeated p (least + 1) most) i k
  | repeatedMore {p most i j k} :
      Matches text p i j → Matches text (.repeated p 0 (most.map (· - 1))) j k →
        (∀ m, most = some m → 0 < m) → Matches text (.repeated p 0 most) i k

/-- The set of positions up to `n` with a property. -/
def positions (n : Nat) (holds : Nat → Bool) : Nat :=
  (List.range (n + 1)).foldl (fun s i => if holds i then s ||| 1 <<< i else s) 0

/-- Applies a step a number of times, or until it changes nothing. -/
def times (step : Nat → Nat) : Nat → Nat → Nat
  | 0, s => s
  | k + 1, s => let t := step s; if t = s then s else times step k t

mutual

/-- The positions that matches starting in `s` end at. -/
def reach (text : Array Char) : Pattern → Nat → Nat
  | empty, s => s
  | set c, s => (s &&& positions text.size fun i => (text[i]?).any fun ch => c.holds ch.toNat) <<< 1
  | look l, s => s &&& positions text.size fun i => l.holds (before text i) text[i]?
  | group p _, s => reach text p s
  | concat ps, s => reachThrough text ps s
  | alternate ps, s => reachEither text ps s
  | repeated p least most, s =>
    let first := times (reach text p) least s
    times (fun t => t ||| reach text p t) (match most with
      | some m => m - least
      | none => text.size + 1) first

def reachThrough (text : Array Char) : List Pattern → Nat → Nat
  | [], s => s
  | p :: ps, s => reachThrough text ps (reach text p s)

def reachEither (text : Array Char) : List Pattern → Nat → Nat
  | [], _ => 0
  | p :: ps, s => reach text p s ||| reachEither text ps s

end

/-- Whether the pattern matches some stretch of a text. -/
def occursIn (p : Pattern) (text : String) : Bool :=
  let chars := text.toList.toArray
  reach chars p (positions chars.size fun _ => true) != 0

mutual

/-- How deep groups, repetitions, sequences, alternatives and classes in brackets nest. -/
def nesting : Pattern → Nat
  | empty | look _ => 0
  | set c => c.nesting
  | group p _ => p.nesting + 1
  | concat ps => nestingAll ps + 1
  | alternate ps => nestingAll ps + 1
  | repeated p _ _ => p.nesting + 1

def nestingAll : List Pattern → Nat
  | [] => 0
  | p :: ps => max p.nesting (nestingAll ps)

end

end Pattern
end StageGraph
