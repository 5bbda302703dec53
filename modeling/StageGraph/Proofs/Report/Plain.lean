import Mathlib.Tactic.SplitIfs
import StageGraph.Proofs.Report.Pinpoint

/-! A document over lines, without any mark.

`plain` says how a document is laid out: four blanks a level, one scalar or bracket a line, a key in front of its value,
and a comma behind all but the last. `squeezed` takes out of a line what the layout put in, the indentation and the
blank behind the colon of a key, and knows nothing of values: it reads a key as JSON text is read, up to the quote that
is not escaped. What is left of all lines is the compact text of the document (`squeezed_plain`). -/
namespace StageGraph.Report

/-! ### The layout -/

/-- What stands in front of a value: its key, if it has one. -/
def lead : Option String → String
  | none => ""
  | some key => jsonQuote key ++ ": "

/-- What stands behind a value: a comma, unless it is the last one. -/
def tail (last : Bool) : String := if last then "" else ","

mutual

/-- The lines of a value at a depth. -/
def plainLines (depth : Nat) (key : Option String) (last : Bool) : Value → List String
  | .array (v :: rest) =>
    (indent depth ++ lead key ++ "[") :: plainItems (depth + 1) (v :: rest) ++ [indent depth ++ "]" ++ tail last]
  | .object (f :: rest) =>
    (indent depth ++ lead key ++ "\x7b") :: plainFields (depth + 1) (f :: rest) ++ [indent depth ++ "\x7d" ++ tail last]
  | v => [indent depth ++ lead key ++ v.toText ++ tail last]

def plainItems (depth : Nat) : List Value → List String
  | [] => []
  | v :: rest => plainLines depth none rest.isEmpty v ++ plainItems depth rest

def plainFields (depth : Nat) : List (String × Value) → List String
  | [] => []
  | (key, v) :: rest => plainLines depth (some key) rest.isEmpty v ++ plainFields depth rest

end

/-- The lines of a document. -/
def plain (document : Value) : List String := plainLines 0 none true document

/-! ### Lines without their layout -/

/-- The rest of a JSON string literal behind its opening quote, and what follows the literal. -/
def literal : List Char → List Char × List Char
  | '\\' :: c :: rest => ('\\' :: c :: (literal rest).1, (literal rest).2)
  | '"' :: rest => (['"'], rest)
  | c :: rest => (c :: (literal rest).1, (literal rest).2)
  | [] => ([], [])

/-- A colon loses the blank behind it. -/
def closeUp : List Char → List Char
  | ':' :: ' ' :: rest => ':' :: rest
  | text => text

/-- A line without its indentation and without the blank behind the colon of its key. -/
def squeezed (line : String) : List Char :=
  match line.toList.dropWhile (· == ' ') with
  | '"' :: rest => '"' :: (literal rest).1 ++ closeUp (literal rest).2
  | text => text

/-! ### Indentation -/

theorem toList_indent (depth : Nat) : (indent depth).toList = List.replicate (4 * depth) ' ' := by
  rw [indent, toList_pushn]
  rfl

/-- An indentation is dropped in front of anything that does not start with a blank. -/
theorem dropWhile_indent (depth : Nat) {c : Char} (hc : c ≠ ' ') (rest : List Char) :
    ((indent depth).toList ++ c :: rest).dropWhile (· == ' ') = c :: rest := by
  have hblank : (c == ' ') = false := by simpa using hc
  simp [toList_indent, hblank]

/-! ### String literals -/

theorem toList_jsonQuote (s : String) : (jsonQuote s).toList = '"' :: (s.toList.flatMap jsonEscape ++ ['"']) := by
  rw [jsonQuote, String.toList_ofList, List.cons_append]

theorem literal_cons {c : Char} (hc : c ≠ '\\') (hc' : c ≠ '"') (rest : List Char) :
    literal (c :: rest) = (c :: (literal rest).1, (literal rest).2) := by
  rw [literal]
  · exact fun _ _ h _ => hc h
  · exact hc'

theorem literal_escaped (c : Char) (rest : List Char) :
    literal ('\\' :: c :: rest) = ('\\' :: c :: (literal rest).1, (literal rest).2) := rfl

/-- A hexadecimal digit is neither a backslash nor a quote. -/
theorem digitChar_plain : ∀ n < 16, Nat.digitChar n ≠ '\\' ∧ Nat.digitChar n ≠ '"' := by decide

/-- A literal goes on behind a character as it is written in one. -/
theorem literal_jsonEscape (c : Char) (rest : List Char) :
    literal (jsonEscape c ++ rest) = (jsonEscape c ++ (literal rest).1, (literal rest).2) := by
  unfold jsonEscape
  split_ifs with hquote hbackslash hline hreturn htab hback hfeed hlow
  iterate 7 rfl
  · -- the code of a character is four digits behind its letter
    have hhigh := digitChar_plain (c.toNat / 16) (by omega)
    have hunit := digitChar_plain (c.toNat % 16) (by omega)
    simp only [List.cons_append, List.nil_append, literal_escaped]
    rw [literal_cons (by decide) (by decide), literal_cons (by decide) (by decide), literal_cons hhigh.1 hhigh.2,
      literal_cons hunit.1 hunit.2]
  · exact literal_cons hbackslash hquote rest

/-- A literal ends with the quote behind its characters. -/
theorem literal_quoted (chars rest : List Char) :
    literal (chars.flatMap jsonEscape ++ '"' :: rest) = (chars.flatMap jsonEscape ++ ['"'], rest) := by
  induction chars with
  | nil => rfl
  | cons c more ih => rw [List.flatMap_cons, List.append_assoc, literal_jsonEscape, ih, List.append_assoc]

/-! ### Numbers -/

/-- A text without blanks and quotes. -/
def Bare (text : List Char) : Prop := ∀ c ∈ text, c ≠ ' ' ∧ c ≠ '"'

instance (text : List Char) : Decidable (Bare text) := List.decidableBAll (fun c => c ≠ ' ' ∧ c ≠ '"') text

theorem Bare.append {a b : List Char} (ha : Bare a) (hb : Bare b) : Bare (a ++ b) := by
  intro c hc
  rcases List.mem_append.mp hc with hc | hc
  · exact ha c hc
  · exact hb c hc

theorem Bare.of_subset {a b : List Char} (hb : Bare b) (h : a ⊆ b) : Bare a := fun c hc => hb c (h hc)

theorem bare_digits (n : Nat) : Bare (Nat.repr n).toList := by
  intro c hc
  rw [Nat.toList_repr] at hc
  have hdigit : c.isDigit = true := Nat.isDigit_of_mem_toDigits (by decide) (by decide) hc
  constructor
  · rintro rfl
    cases hdigit
  · rintro rfl
    cases hdigit

theorem bare_zeros (n : Nat) : Bare ("".pushn '0' n).toList := by
  intro c hc
  rw [toList_pushn] at hc
  obtain rfl : c = '0' := List.eq_of_mem_replicate hc
  decide

theorem bare_integer (n : Int) : Bare (Int.repr n).toList := by
  cases n with
  | ofNat n => exact bare_digits n
  | negSucc n =>
    show Bare ("-" ++ Nat.repr n.succ).toList
    rw [String.toList_append]
    exact .append (by decide) (bare_digits _)

theorem bare_pointed (d : Decimal) : Bare (Binary64.pointed d true).toList := by
  unfold Binary64.pointed
  split
  · simp only [String.toList_append, if_true]
    exact ((bare_digits _).append (bare_zeros _)).append (by decide)
  · have hpadded (n : Nat) : Bare ("".pushn '0' n ++ Nat.repr d.digits).toList := by
      rw [String.toList_append]
      exact (bare_zeros n).append (bare_digits _)
    simp only [String.toList_append, String.toList_ofList] at hpadded ⊢
    refine (Bare.append ?_ (by decide)).append ?_
    · exact (hpadded _).of_subset (List.take_subset _ _)
    · exact (hpadded _).of_subset (List.drop_subset _ _)

theorem bare_scientific (d : Decimal) : Bare (Binary64.scientific d).toList := by
  unfold Binary64.scientific
  simp only [String.toList_append, String.toList_ofList]
  refine ((((Bare.append ?_ ?_).append ?_).append ?_).append (bare_digits _))
  · exact (bare_digits _).of_subset (List.take_subset _ _)
  · split <;> decide
  · exact (bare_digits _).of_subset (List.drop_subset _ _)
  · split <;> decide

theorem bare_real (x : Binary64) : Bare x.toText.toList := by
  unfold Binary64.toText
  simp only [String.toList_append]
  refine .append ?_ ?_
  · unfold Binary64.sign
    split <;> decide
  · split
    · exact bare_pointed _
    · exact bare_scientific _

/-! ### The compact text -/

/-- What stands in front of a value in compact text. -/
def compactLead : Option String → String
  | none => ""
  | some key => jsonQuote key ++ ":"

/-- A keyed line is squeezed behind its key only. -/
theorem squeezed_keyed (depth : Nat) (key text : String) :
    squeezed (indent depth ++ lead (some key) ++ text) = (compactLead (some key) ++ text).toList := by
  have hdrop : (indent depth ++ lead (some key) ++ text).toList.dropWhile (· == ' ') =
      '"' :: (key.toList.flatMap jsonEscape ++ '"' :: ':' :: ' ' :: text.toList) := by
    simp only [lead, String.toList_append, toList_jsonQuote, List.append_assoc, List.cons_append, List.nil_append]
    exact dropWhile_indent depth (by decide) _
  unfold squeezed
  rw [hdrop]
  simp only [literal_quoted]
  simp [closeUp, compactLead, String.toList_append, toList_jsonQuote]

/-- A line is not squeezed behind its indentation when it starts with neither a blank nor a quote. -/
theorem squeezed_bare (depth : Nat) {text : String} (h : ∀ c ∈ text.toList.head?, c ≠ ' ' ∧ c ≠ '"') :
    squeezed (indent depth ++ text) = text.toList := by
  unfold squeezed
  rw [String.toList_append]
  cases htext : text.toList with
  | nil => simp [toList_indent]
  | cons c rest =>
    obtain ⟨hblank, hquote⟩ := h c (by rw [htext]; rfl)
    rw [dropWhile_indent depth hblank]
    split
    · next heq => exact absurd (List.cons.inj heq).1 hquote
    · rfl

/-- Nor is the literal of a string. -/
theorem squeezed_string (depth : Nat) (s : String) (last : Bool) :
    squeezed (indent depth ++ (jsonQuote s ++ tail last)) = (jsonQuote s ++ tail last).toList := by
  have hdrop : (indent depth ++ (jsonQuote s ++ tail last)).toList.dropWhile (· == ' ') =
      '"' :: (s.toList.flatMap jsonEscape ++ '"' :: (tail last).toList) := by
    simp only [String.toList_append, toList_jsonQuote, List.append_assoc, List.cons_append, List.nil_append]
    exact dropWhile_indent depth (by decide) _
  have hclose : closeUp (tail last).toList = (tail last).toList := by cases last <;> rfl
  unfold squeezed
  rw [hdrop]
  simp only [literal_quoted, hclose, String.toList_append, toList_jsonQuote]

/-- The text of a number or a word, and a comma behind it, start with neither a blank nor a quote. -/
theorem head_of_bare {text : String} (h : Bare text.toList) (last : Bool) :
    ∀ c ∈ (text ++ tail last).toList.head?, c ≠ ' ' ∧ c ≠ '"' := by
  have hbare : Bare (text ++ tail last).toList := by
    rw [String.toList_append]
    exact h.append (by cases last <;> decide)
  exact fun c hc => hbare c (List.mem_of_mem_head? hc)

/-- The line of a value without parts squeezes to its text. -/
theorem squeezed_scalar {v : Value} (h : v.isComposite = false) (depth : Nat) (key : Option String) (last : Bool) :
    squeezed (indent depth ++ lead key ++ v.toText ++ tail last) =
      (compactLead key ++ v.toText ++ tail last).toList := by
  cases key with
  | some key => rw [String.append_assoc, squeezed_keyed, ← String.append_assoc]
  | none =>
    simp only [lead, compactLead, String.append_empty, String.empty_append]
    rw [String.append_assoc]
    cases v with
    | string s => exact squeezed_string depth s last
    | integer n => exact squeezed_bare depth (head_of_bare (bare_integer n) last)
    | real x => exact squeezed_bare depth (head_of_bare (bare_real x) last)
    | null => exact squeezed_bare depth (head_of_bare (by decide) last)
    | boolean b => exact squeezed_bare depth (head_of_bare (by cases b <;> decide) last)
    | array items =>
      cases items with
      | nil => exact squeezed_bare depth (head_of_bare (by decide) last)
      | cons => cases h
    | object fields =>
      cases fields with
      | nil => exact squeezed_bare depth (head_of_bare (by decide) last)
      | cons => cases h

/-- The line of an opening bracket squeezes to its key and the bracket. -/
theorem squeezed_open {bracket : String} (h : Bare bracket.toList) (depth : Nat) (key : Option String) :
    squeezed (indent depth ++ lead key ++ bracket) = (compactLead key ++ bracket).toList := by
  cases key with
  | some key => exact squeezed_keyed depth key bracket
  | none =>
    simp only [lead, compactLead, String.append_empty, String.empty_append]
    exact squeezed_bare depth fun c hc => h c (List.mem_of_mem_head? hc)

theorem squeezed_close {bracket : String} (h : Bare bracket.toList) (depth : Nat) (last : Bool) :
    squeezed (indent depth ++ bracket ++ tail last) = (bracket ++ tail last).toList := by
  rw [String.append_assoc]
  exact squeezed_bare depth (head_of_bare h last)

theorem itemsText_cons (v : Value) (rest : List Value) :
    Value.itemsText (v :: rest) = v.toText ++ tail rest.isEmpty ++ Value.itemsText rest := by
  cases rest <;> simp [Value.itemsText, tail]

theorem fieldsText_cons (key : String) (v : Value) (rest : List (String × Value)) :
    Value.fieldsText ((key, v) :: rest) =
      jsonQuote key ++ ":" ++ v.toText ++ tail rest.isEmpty ++ Value.fieldsText rest := by
  cases rest <;> simp [Value.fieldsText, tail]

mutual

/-- The lines of a value squeeze to its text. -/
theorem squeezed_plainLines : ∀ (v : Value) (depth : Nat) (key : Option String) (last : Bool),
    (plainLines depth key last v).flatMap squeezed = (compactLead key ++ v.toText ++ tail last).toList
  | .array (v :: rest), depth, key, last => by
    simp only [plainLines, List.cons_append, List.flatMap_cons, List.flatMap_append, List.flatMap_nil]
    rw [squeezed_open (by decide), squeezed_plainItems (v :: rest), squeezed_close (by decide)]
    simp [Value.toText, String.toList_append]
  | .object (f :: rest), depth, key, last => by
    simp only [plainLines, List.cons_append, List.flatMap_cons, List.flatMap_append, List.flatMap_nil]
    rw [squeezed_open (by decide), squeezed_plainFields (f :: rest), squeezed_close (by decide)]
    simp [Value.toText, String.toList_append]
  | .array [], depth, key, last => (List.flatMap_singleton ..).trans (squeezed_scalar rfl depth key last)
  | .object [], depth, key, last => (List.flatMap_singleton ..).trans (squeezed_scalar rfl depth key last)
  | .null, depth, key, last => (List.flatMap_singleton ..).trans (squeezed_scalar rfl depth key last)
  | .boolean b, depth, key, last => (List.flatMap_singleton ..).trans (squeezed_scalar (v := .boolean b) rfl depth key last)
  | .integer n, depth, key, last => (List.flatMap_singleton ..).trans (squeezed_scalar (v := .integer n) rfl depth key last)
  | .real x, depth, key, last => (List.flatMap_singleton ..).trans (squeezed_scalar (v := .real x) rfl depth key last)
  | .string s, depth, key, last => (List.flatMap_singleton ..).trans (squeezed_scalar (v := .string s) rfl depth key last)

theorem squeezed_plainItems : ∀ (items : List Value) (depth : Nat),
    (plainItems depth items).flatMap squeezed = (Value.itemsText items).toList
  | [], _ => rfl
  | v :: rest, depth => by
    rw [plainItems, List.flatMap_append, squeezed_plainLines v, squeezed_plainItems rest, itemsText_cons]
    simp [compactLead, String.toList_append]

theorem squeezed_plainFields : ∀ (fields : List (String × Value)) (depth : Nat),
    (plainFields depth fields).flatMap squeezed = (Value.fieldsText fields).toList
  | [], _ => rfl
  | (key, v) :: rest, depth => by
    rw [plainFields, List.flatMap_append, squeezed_plainLines v, squeezed_plainFields rest, fieldsText_cons]
    simp [compactLead, String.toList_append]

end

/-- **The layout adds nothing but line breaks, indentation and a blank behind each key.** -/
theorem squeezed_plain (document : Value) : String.ofList ((plain document).flatMap squeezed) = document.toText := by
  have hlines := squeezed_plainLines document 0 none true
  simp only [compactLead, tail, if_true, String.append_empty, String.empty_append] at hlines
  rw [plain, hlines, String.ofList_toList]

end StageGraph.Report
