import StageGraph.Fault
import StageGraph.Number.Word

/-! Reference paths: segments between dots.

A segment of ASCII digits is an index, any other one a key. The text without a character has no segment;
every other text has one segment more than it has dots. -/
namespace StageGraph

/-- The segments of a reference path. -/
abbrev Path := List String

namespace Path

/-- Cuts a text at its dots. -/
def cut : List Char → List (List Char)
  | [] => [[]]
  | c :: rest =>
    if c = '.' then [] :: cut rest
    else
      match cut rest with
      | segment :: more => (c :: segment) :: more
      | [] => [[c]]

/-- The path a text writes. -/
def parse (text : String) : Path :=
  if text = "" then [] else (cut text.toList).map String.ofList

/-- The text up to its first dot, and the text behind it. -/
def splitHead (text : String) : String × String :=
  let chars := text.toList
  let head := chars.takeWhile (· ≠ '.')
  (String.ofList head, String.ofList (chars.drop (head.length + 1)))

/-- The index a segment denotes: ASCII digits, leading zeros allowed, of a number that fits a word. -/
def index? (segment : String) : Option Nat :=
  let chars := segment.toList
  if chars.isEmpty || !chars.all Char.isDigit then none
  else
    let n := chars.foldl (fun n c => n * 10 + (c.toNat - '0'.toNat)) 0
    if n < Word.count then some n else none

end Path
end StageGraph
