import StageGraph.Unicode.Folding
import StageGraph.Unicode.Binary
import StageGraph.Unicode.Script

/-! Classes of characters in patterns. -/
namespace StageGraph.Pattern

/-- A class of code points. -/
inductive CharClass where
  | ranges (rs : Unicode.Ranges)
  | union (parts : List CharClass)
  /-- A class in brackets, which changes nothing but counts as a level of nesting. -/
  | bracketed (c : CharClass)
  | complement (c : CharClass)
  | both (a b : CharClass)
  | without (a b : CharClass)
  | either (a b : CharClass)
  /-- What equals a member up to case. -/
  | folded (c : CharClass)
  /-- What equals a member up to the case of ASCII letters. -/
  | foldedAscii (c : CharClass)
  deriving Inhabited, Repr

/-- The code points equal to this one up to the case of ASCII letters. -/
def asciiVariants (n : Nat) : List Nat :=
  if 65 ≤ n ∧ n ≤ 90 then [n, n + 32] else if 97 ≤ n ∧ n ≤ 122 then [n, n - 32] else [n]

namespace CharClass

mutual

def holds : CharClass → Nat → Bool
  | ranges rs, n => rs.holds n
  | union parts, n => anyHolds parts n
  | bracketed c, n => c.holds n
  | complement c, n => !c.holds n
  | both a b, n => a.holds n && b.holds n
  | without a b, n => a.holds n && !b.holds n
  | either a b, n => a.holds n != b.holds n
  | folded c, n => (Unicode.caseVariants n).any fun m => c.holds m
  | foldedAscii c, n => (asciiVariants n).any fun m => c.holds m

def anyHolds : List CharClass → Nat → Bool
  | [], _ => false
  | c :: rest, n => c.holds n || anyHolds rest n

end

/-- One character. -/
def single (c : Char) : CharClass := ranges [(c.toNat, c.toNat)]

/-- Whether the class has no member among the upper half of the bytes. -/
def isAscii (c : CharClass) : Bool := (List.range 128).all fun i => !c.holds (i + 128)

mutual

/-- The members as ranges in order. -/
def members : CharClass → Unicode.Ranges
  | ranges rs => rs.normal
  | union parts => (membersOfAll parts).normal
  | bracketed c => c.members
  | complement c => c.members.gaps
  | both a b => a.members.common b.members
  | without a b => a.members.common b.members.gaps
  | either a b => ((a.members ++ b.members).normal).common (a.members.common b.members).gaps
  | folded c =>
    let rs := c.members
    (rs ++ ((Unicode.foldingSets.filter fun set => set.any rs.holds).flatten.map fun n => (n, n))).normal
  | foldedAscii c =>
    let rs := c.members
    (rs ++ (((List.range 128).filter rs.holds).flatMap asciiVariants).map fun n => (n, n)).normal

def membersOfAll : List CharClass → Unicode.Ranges
  | [] => []
  | c :: rest => c.members ++ membersOfAll rest

end

mutual

/-- How deep brackets, unions and operations nest. -/
def nesting : CharClass → Nat
  | ranges _ => 0
  | union parts => nestingOfAll parts + if 1 < parts.length then 1 else 0
  | bracketed c => c.nesting + 1
  | complement c => c.nesting
  | both a b => max a.nesting b.nesting + 1
  | without a b => max a.nesting b.nesting + 1
  | either a b => max a.nesting b.nesting + 1
  | folded c => c.nesting
  | foldedAscii c => c.nesting

def nestingOfAll : List CharClass → Nat
  | [] => 0
  | c :: rest => max c.nesting (nestingOfAll rest)

end

end CharClass

/-- Whether a character is part of a word; `wide` takes all of Unicode into account. -/
def isWordChar (wide : Bool) (c : Char) : Bool :=
  if wide then Unicode.word.holds c.toNat else c.isAlphanum || c == '_'

end StageGraph.Pattern
