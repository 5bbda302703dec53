import StageGraph.Unicode.Ranges

/-! Ranges of code points in bytes.

The code points of a range, written in one to four bytes, are those of some sequences of byte ranges, in
order. A byte behind the first is a digit of six bits; a range of numbers falls into pieces in which the
digits vary freely. -/
namespace StageGraph.Unicode

/-- A sequence of byte ranges: any byte of the first, then any of the second, and so on. -/
abbrev ByteSequence := List (Nat × Nat)

/-- The pieces of a range of numbers with a leading digit and so many digits behind it. -/
def pieces : Nat → Nat → Nat → List ByteSequence
  | 0, low, high => [[(low, high)]]
  | k + 1, low, high =>
    let unit := Nat.pow 64 (k + 1)
    let first := low / unit
    let last := high / unit
    if first = last then (pieces k (low % unit) (high % unit)).map ((first, first) :: ·)
    else
      let startsWhole := low % unit == 0
      let endsWhole := high % unit == unit - 1
      let front := if startsWhole then [] else (pieces k (low % unit) (unit - 1)).map ((first, first) :: ·)
      let back := if endsWhole then [] else (pieces k 0 (high % unit)).map ((last, last) :: ·)
      let start := if startsWhole then first else first + 1
      let stop := if endsWhole then last + 1 else last
      let middle := if start < stop then [(start, stop - 1) :: List.replicate (k + 1) (0, 63)] else []
      front ++ middle ++ back

/-- How code points are written: those from one to another with so many bytes behind the first, to whose digit
a mark is added. -/
def forms : List (Nat × Nat × Nat × Nat) :=
  [(0, 0x7F, 0, 0), (0x80, 0x7FF, 1, 0xC0), (0x800, 0xD7FF, 2, 0xE0), (0xE000, 0xFFFF, 2, 0xE0),
   (0x10000, lastCodePoint, 3, 0xF0)]

/-- The sequences for a range of code points. -/
def byteSequences (r : Nat × Nat) : List ByteSequence :=
  forms.flatMap fun (low, high, more, mark) =>
    if max r.1 low ≤ min r.2 high then
      (pieces more (max r.1 low) (min r.2 high)).map fun digits =>
        (digits.take 1).map (fun d => (d.1 + mark, d.2 + mark)) ++
          (digits.drop 1).map fun d => (d.1 + 0x80, d.2 + 0x80)
    else []

/-- The sequences for a set of code points. -/
def Ranges.sequences (rs : Ranges) : List ByteSequence := rs.flatMap byteSequences

end StageGraph.Unicode
