/-! Sets of code points as lists of ranges, and the notation their tables are written in.

A table of ranges is text: hexadecimal numbers, single or in pairs joined by a hyphen, between blanks. A
table of runs names, after the start of each run, what holds up to the start of the next one. -/
namespace StageGraph.Unicode

/-- Ranges of code points, both ends included. -/
abbrev Ranges := List (Nat × Nat)

/-- Whether a code point lies in one of the ranges. -/
def Ranges.holds (rs : Ranges) (n : Nat) : Bool := rs.any fun r => r.1 ≤ n && n ≤ r.2

/-- What is left of a range outside of a hole. -/
def cutOut (hole r : Nat × Nat) : Ranges :=
  if hole.2 < r.1 || r.2 < hole.1 then [r]
  else
    (if r.1 < hole.1 then [(r.1, hole.1 - 1)] else []) ++
      if hole.2 < r.2 then [(hole.2 + 1, r.2)] else []

/-- What is left of a set outside of another one. -/
def Ranges.minus (rs holes : Ranges) : Ranges :=
  holes.foldl (fun left hole => left.flatMap (cutOut hole)) rs

/-- The largest code point. -/
def lastCodePoint : Nat := 0x10FFFF

/-- A range and those that start behind it, in order, with the ones that touch made one. -/
def mergeOnto (r : Nat × Nat) : Ranges → Ranges
  | [] => [r]
  | next :: rest =>
    if next.1 ≤ r.2 + 1 then mergeOnto (r.1, max r.2 next.2) rest else r :: mergeOnto next rest

/-- The same set as ranges in order with gaps between them. -/
def Ranges.normal (rs : Ranges) : Ranges :=
  match rs.mergeSort fun a b => a.1 ≤ b.1 with
  | [] => []
  | r :: rest => mergeOnto r rest

/-- The gaps from a code point on. -/
def gapsFrom (start : Nat) : Ranges → Ranges
  | [] => if start ≤ lastCodePoint then [(start, lastCodePoint)] else []
  | r :: rest => (if start < r.1 then [(start, r.1 - 1)] else []) ++ gapsFrom (r.2 + 1) rest

/-- What is not in a set, whose ranges are in order. -/
def Ranges.gaps (rs : Ranges) : Ranges := gapsFrom 0 rs

/-- What two sets have in common; the ranges of both are in order. -/
def Ranges.common (a b : Ranges) : Ranges := (a.gaps ++ b.gaps).normal.gaps

/-- Cuts a list at every `mark`. -/
def cutAt (mark : Char) : List Char → List (List Char)
  | [] => [[]]
  | c :: rest =>
    if c = mark then [] :: cutAt mark rest
    else
      match cutAt mark rest with
      | piece :: more => (c :: piece) :: more
      | [] => [[c]]

/-- Cuts a text at every `mark`. -/
def splitAt (mark : Char) (text : String) : List String := (cutAt mark text.toList).map String.ofList

def hexValue (c : Char) : Nat :=
  if c.isDigit then c.toNat - '0'.toNat else c.toNat - 'a'.toNat + 10

def hexNumber (text : String) : Nat := text.toList.foldl (fun n c => n * 16 + hexValue c) 0

/-- Reads a table of ranges. -/
def readRanges (table : List String) : Ranges :=
  (table.flatMap (splitAt ' ')).map fun entry =>
    match splitAt '-' entry with
    | [low, high] => (hexNumber low, hexNumber high)
    | _ => (hexNumber entry, hexNumber entry)

/-- Gives every run the end that the next one's start implies. -/
def closeRuns : List (Nat × String) → List (Nat × Nat × String)
  | [] => []
  | [(start, label)] => [(start, lastCodePoint, label)]
  | (start, label) :: (next, other) :: rest =>
    (start, next - 1, label) :: closeRuns ((next, other) :: rest)

/-- Reads a table of runs: first and last code point and label of each. -/
def readRuns (table : List String) : List (Nat × Nat × String) :=
  closeRuns ((table.flatMap (splitAt ' ')).map fun entry =>
    match splitAt ':' entry with
    | [start, label] => (hexNumber start, label)
    | _ => (0, ""))

/-- The ranges of the runs with one of the given labels. -/
def rangesOf (runs : List (Nat × Nat × String)) (labels : List String) : Ranges :=
  (runs.filter fun run => labels.contains run.2.2).map fun run => (run.1, run.2.1)

end StageGraph.Unicode
