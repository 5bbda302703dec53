import Mathlib.Data.Nat.Digits.Defs
import StageGraph.Resolvable

/-! Segments of digits.

A segment that is not empty and is made of digits denotes a number, with any number of zeros in front of it. It is an
index just if that number fits a word (`Path.index?_digits`). One that fits selects the element in its place, or fails
because there is no such place, in a finished array as in a sequence (`Placed`). One that does not fit is taken for a
name, for which a list has no place at all, so the failure is another one (`placed_iff_fits`). -/
namespace StageGraph

namespace Path

/-- The number that a segment of digits denotes. -/
def number (segment : String) : Nat :=
  Nat.ofDigits 10 ((segment.toList.map fun c => c.toNat - '0'.toNat).reverse)

/-- A segment of digits, and of one at least. -/
structure Numeral (segment : String) : Prop where
  some_digit : segment.toList ≠ []
  digits : ∀ c ∈ segment.toList, c.isDigit = true

/-- Reading digits from the left is reading them by their places. -/
theorem foldl_digits (chars : List Char) : ∀ n : Nat,
    chars.foldl (fun n c => n * 10 + (c.toNat - '0'.toNat)) n =
      n * 10 ^ chars.length + Nat.ofDigits 10 ((chars.map fun c => c.toNat - '0'.toNat).reverse) := by
  induction chars with
  | nil => intro n; simp
  | cons c rest ih =>
    intro n
    rw [List.foldl_cons, ih, List.map_cons, List.reverse_cons, Nat.ofDigits_append, Nat.ofDigits_singleton,
      List.length_reverse, List.length_map, List.length_cons, Nat.pow_succ, Nat.add_mul]
    ring

variable {segment : String}

/-- A segment of digits is an index just if its number fits a word. -/
theorem index?_digits (h : Numeral segment) :
    index? segment = if number segment < Word.count then some (number segment) else none := by
  have hempty : segment.toList.isEmpty = false := List.isEmpty_eq_false_iff.mpr h.some_digit
  have hall : segment.toList.all Char.isDigit = true := List.all_eq_true.mpr h.digits
  have hnumber : segment.toList.foldl (fun n c => n * 10 + (c.toNat - '0'.toNat)) 0 = number segment := by
    rw [foldl_digits, Nat.zero_mul, Nat.zero_add]
    rfl
  simp only [index?, hempty, hall, hnumber, Bool.not_true, Bool.or_self, Bool.false_eq_true, if_false]

end Path

namespace Resolvable

variable {π : Type} {segment : String} {k : Nat}

/-- How a step into a list comes out that selects a place: with the element there, or, if there is no such place, with a
failure that tells the place and how long the list is. -/
inductive Placed {α : Type} (items : List α) (k : Nat) : Except Cause α → Prop
  | element {item : α} (found : items[k]? = some item) : Placed items k (.ok item)
  | outside (beyond : items.length ≤ k) : Placed items k (.error (.indexOutOfRange k items.length))

theorem select_placed {α : Type} {items : List α} {found : String} (hindex : Path.index? segment = some k) :
    Placed items k (select items segment found) := by
  simp only [select, hindex]
  cases hitem : items[k]? with
  | some item => exact .element hitem
  | none => exact .outside (List.getElem?_eq_none_iff.mp hitem)

theorem select_misread {α : Type} {items : List α} {found : String} (hindex : Path.index? segment = none) :
    select items segment found = .error (.notNavigable segment found) := by
  simp only [select, hindex]

/-- A selected place is none that cannot be looked up. -/
theorem not_placed {α : Type} {items : List α} {found : String} :
    ¬Placed items k (.error (.notNavigable segment found)) := by
  intro h
  cases h

/-- A step into a finished array selects one of its elements. -/
theorem step_array (items : List Value) :
    (ready (.array items) : Resolvable π).step segment = select (items.map ready) segment "array" := by
  simp only [step, select, List.getElem?_map, List.length_map]
  cases Path.index? segment with
  | none => rfl
  | some k => cases hitem : items[k]? <;> simp [hitem, Except.map]

/-- **A segment of digits is an index just if its number fits a word.** Then a step into an array or a sequence leads to
the element in that place, or fails because there is none; with any greater number it fails as with a name. -/
theorem placed_iff_fits (h : Path.Numeral segment) (values : List Value) (items : List (Resolvable π)) :
    (Placed (values.map ready) (Path.number segment) ((ready (.array values) : Resolvable π).step segment) ↔
        Path.number segment < Word.count) ∧
      (Placed items (Path.number segment) ((sequence items).step segment) ↔ Path.number segment < Word.count) ∧
      (Word.count ≤ Path.number segment →
        (ready (.array values) : Resolvable π).step segment = .error (.notNavigable segment "array") ∧
          (sequence items).step segment = .error (.notNavigable segment "sequence")) := by
  have hindex := Path.index?_digits h
  rw [step_array, show (sequence items).step segment = select items segment "sequence" from rfl]
  by_cases hfits : Path.number segment < Word.count
  · rw [if_pos hfits] at hindex
    refine ⟨iff_of_true (select_placed hindex) hfits, iff_of_true (select_placed hindex) hfits, fun hlarge => ?_⟩
    exact absurd hfits (Nat.not_lt.mpr hlarge)
  · rw [if_neg hfits] at hindex
    rw [select_misread hindex, select_misread hindex]
    exact ⟨iff_of_false not_placed hfits, iff_of_false not_placed hfits, fun _ => ⟨rfl, rfl⟩⟩

/-- The number behind the last word is a place in no list, and a step does not say so. -/
theorem number_past_words : Path.Numeral "18446744073709551616" ∧ Path.number "18446744073709551616" = Word.count ∧
    ¬Placed [ready .null] (Path.number "18446744073709551616")
      ((ready (.array [.null]) : Resolvable Nat).step "18446744073709551616") ∧
    (sequence [pending 0]).step "18446744073709551616" = .error (.notNavigable "18446744073709551616" "sequence") := by
  have hnumeral : Path.Numeral "18446744073709551616" := ⟨by decide +kernel, List.all_eq_true.mp (by decide +kernel)⟩
  have hnumber : Path.number "18446744073709551616" = Word.count := by decide +kernel
  obtain ⟨harray, -, hmisread⟩ := placed_iff_fits hnumeral [.null] [pending 0]
  exact ⟨hnumeral, hnumber, fun h => absurd hnumber (Nat.ne_of_lt (harray.mp h)), (hmisread (Nat.le_of_eq hnumber.symm)).2⟩

end Resolvable
end StageGraph
