import StageGraph.Proofs.Report.Plain

/-! Reports line by line.

A report shows the lines of its document one by one and in order (`Shows`). A line is shown as it is, or it is one of a
run that is annotated: the lines of a whole value, with a bar behind each in the column past the longest of them and the
message behind the first bar. A run is annotated once and lines of it are not annotated again, as no value below a
marked one is marked (`Apart`): it would have to equal a value that it is a proper part of. -/
namespace StageGraph.Report

/-! ### Annotated runs -/

/-- A line with `n` blanks and a bar behind it. -/
def spaced (n : Nat) (line : String) : String := line ++ String.ofList (List.replicate n ' ') ++ "|"

/-- All bars of a run stand in the same column. -/
theorem spaced_length {line : String} {width : Nat} (h : line.length ≤ width) :
    (spaced (width - line.length + 1) line).length = width + 2 := by
  simp only [spaced, String.length_append, String.length_ofList, List.length_replicate]
  have hbar : ("|" : String).length = 1 := rfl
  omega

/-- How a run of lines is shown that is annotated: every line is padded by one blank more than it is shorter than the
longest, which takes all bars to one column, and the message follows on the first line. -/
def Annotated (message : String) (run shown : List String) : Prop :=
  ∃ longest ∈ run,
    (∀ line ∈ run, line.length ≤ longest.length ∧
      (spaced (longest.length - line.length + 1) line).length = longest.length + 2) ∧
    ∃ first rest, run = first :: rest ∧
      shown = (spaced (longest.length - first.length + 1) first ++ " <---[ERROR HERE]---[" ++ message ++ "]") ::
        rest.map fun line => spaced (longest.length - line.length + 1) line

/-- How lines are shown, one by one and in order: as they are, or in runs that are annotated. -/
inductive Shows (message : String) (block : List String → Prop) : List String → List String → Prop
  | nil : Shows message block [] []
  | line (line : String) {lines shown : List String} : Shows message block lines shown →
      Shows message block (line :: lines) (line :: shown)
  | run {run marked lines shown : List String} : block run → Annotated message run marked →
      Shows message block lines shown → Shows message block (run ++ lines) (marked ++ shown)

namespace Shows

variable {message : String} {block : List String → Prop} {lines lines' shown shown' : List String}

theorem append (h : Shows message block lines shown) (h' : Shows message block lines' shown') :
    Shows message block (lines ++ lines') (shown ++ shown') := by
  induction h with
  | nil => exact h'
  | line line _ ih => exact .line line ih
  | run hblock hmarked _ ih =>
    rw [List.append_assoc, List.append_assoc]
    exact .run hblock hmarked ih

theorem single (line : String) : Shows message block [line] [line] := .line line .nil

theorem whole (h : block lines) (h' : Annotated message lines shown) : Shows message block lines shown := by
  simpa using Shows.run h h' .nil

end Shows

theorem barred_eq (width : Nat) (line : String) : barred width line = spaced (width - line.length + 1) line := by
  have hblanks (n : Nat) : "".pushn ' ' n = String.ofList (List.replicate n ' ') := by
    rw [← String.toList_inj, toList_pushn]
    exact (List.nil_append _).trans String.toList_ofList.symm
  rw [barred, hblanks, spaced]

/-- The width of a run is the length of its longest line. -/
theorem exists_longest {run : List String} (h : run ≠ []) :
    ∃ longest ∈ run, longest.length = width run ∧ ∀ line ∈ run, line.length ≤ width run := by
  have hmax : (run.map String.length).max? = some (width run) := by
    rw [width, List.foldl_max]
    cases hlengths : (run.map String.length).max? with
    | none => exact absurd (List.map_eq_nil_iff.mp (List.max?_eq_none_iff.mp hlengths)) h
    | some n => simp
  obtain ⟨hmem, hle⟩ := List.max?_eq_some_iff.mp hmax
  obtain ⟨longest, hlongest, heq⟩ := List.mem_map.mp hmem
  exact ⟨longest, hlongest, heq, fun line hline => hle _ (List.mem_map_of_mem hline)⟩

/-- Marking a run annotates it. -/
theorem annotated_mark (message : String) {run : List String} (h : run ≠ []) : Annotated message run (mark message run) := by
  obtain ⟨longest, hlongest, hwidth, hle⟩ := exists_longest h
  have hshort (line : String) (hline : line ∈ run) : line.length ≤ longest.length := hwidth ▸ hle line hline
  refine ⟨longest, hlongest, fun line hline => ⟨hshort line hline, spaced_length (hshort line hline)⟩, ?_⟩
  cases run with
  | nil => exact absurd rfl h
  | cons first rest =>
    have hbars : barred (width (first :: rest)) = fun line => spaced (longest.length - line.length + 1) line :=
      funext fun line => by rw [barred_eq, hwidth]
    refine ⟨first, rest, rfl, ?_⟩
    have hflag (line : String) : line ++ flag message = line ++ " <---[ERROR HERE]---[" ++ message ++ "]" := by
      unfold flag
      rw [← String.append_assoc, ← String.append_assoc]
    rw [mark, hbars, List.map_cons, ← hflag]

/-! ### Lines with a key and a comma -/

/-- The lines of a value with its key in front and a comma behind. -/
def dressed (depth : Nat) (key : Option String) (last : Bool) (lines : List String) : List String :=
  let lines :=
    match key with
    | none => lines
    | some key => keyFirst depth key lines
  if last then lines else appendLast "," lines

theorem appendLast_append (suffix line : String) (lines : List String) :
    appendLast suffix (lines ++ [line]) = lines ++ [line ++ suffix] := by
  induction lines with
  | nil => rfl
  | cons first rest ih =>
    cases rest with
    | nil => rfl
    | cons second more => exact congrArg (first :: ·) ih

/-- A key goes between the indentation of a line and what stands there. -/
theorem keyFirst_cons (depth : Nat) (key : String) {text : String} (h : text.toList.head? ≠ some ' ')
    (rest : List String) :
    keyFirst depth key ((indent depth ++ text) :: rest) = (indent depth ++ lead (some key) ++ text) :: rest := by
  have hdrop : ((indent depth ++ text).toList.dropWhile (· == ' ')) = text.toList := by
    rw [String.toList_append]
    cases htext : text.toList with
    | nil => simp [toList_indent]
    | cons c more =>
      rw [htext] at h
      exact dropWhile_indent depth (fun hc => h (congrArg some hc)) more
  rw [keyFirst, hdrop, String.ofList_toList, lead, String.append_assoc, String.append_assoc, String.append_assoc,
    String.append_assoc]

theorem dressed_single (depth : Nat) (key : Option String) (last : Bool) {text : String}
    (h : text.toList.head? ≠ some ' ') :
    dressed depth key last [indent depth ++ text] = [indent depth ++ lead key ++ text ++ tail last] := by
  cases key <;> cases last <;> simp [dressed, lead, tail, appendLast, keyFirst_cons _ _ h]

/-- The key goes to the opening bracket and the comma to the closing one; what is between them stays. -/
theorem dressed_block (depth : Nat) (key : Option String) (last : Bool) {opening closing : String}
    (h : opening.toList.head? ≠ some ' ') (lines : List String) :
    dressed depth key last ((indent depth ++ opening) :: lines ++ [indent depth ++ closing]) =
      (indent depth ++ lead key ++ opening) :: lines ++ [indent depth ++ closing ++ tail last] := by
  have hkey : (match key with
      | none => (indent depth ++ opening) :: lines ++ [indent depth ++ closing]
      | some key => keyFirst depth key ((indent depth ++ opening) :: lines ++ [indent depth ++ closing])) =
        (indent depth ++ lead key ++ opening) :: lines ++ [indent depth ++ closing] := by
    cases key with
    | none => simp [lead]
    | some key => exact keyFirst_cons depth key h _
  unfold dressed
  rw [hkey]
  cases last with
  | true => simp [tail]
  | false => exact appendLast_append "," _ _

theorem toText_head {v : Value} (h : v.isComposite = false) : v.toText.toList.head? ≠ some ' ' := by
  have hbare {text : List Char} (hb : Bare text) : text.head? ≠ some ' ' :=
    fun hc => (hb ' ' (List.mem_of_mem_head? hc)).1 rfl
  cases v with
  | string s =>
    rw [Value.toText, toList_jsonQuote, List.head?_cons]
    decide
  | integer n => exact hbare (bare_integer n)
  | real x => exact hbare (bare_real x)
  | null => decide
  | boolean b => cases b <;> decide
  | array items =>
    cases items with
    | nil => decide
    | cons => cases h
  | object fields =>
    cases fields with
    | nil => decide
    | cons => cases h

/-! ### Marks that stand apart -/

/-- Below a mark stands no other. -/
def Apart (v : Value) (marks : Place → Bool) : Prop :=
  ∀ place rest u, marks place = true → rest ≠ [] → v.at? (place ++ rest) = some u → marks (place ++ rest) = false

/-- The lines of whole values at which there may be marks. -/
def BlockOf (good : Value → Prop) (run : List String) : Prop :=
  ∃ v depth key last, good v ∧ run = plainLines depth key last v

theorem plainLines_ne_nil (depth : Nat) (key : Option String) (last : Bool) (v : Value) :
    plainLines depth key last v ≠ [] := by
  cases v with
  | array items => cases items <;> simp [plainLines]
  | object fields => cases fields <;> simp [plainLines]
  | _ => simp [plainLines]

theorem plainLines_scalar {v : Value} (h : v.isComposite = false) (depth : Nat) (key : Option String) (last : Bool) :
    plainLines depth key last v = [indent depth ++ lead key ++ v.toText ++ tail last] := by
  cases v with
  | array items =>
    cases items with
    | nil => rfl
    | cons => cases h
  | object fields =>
    cases fields with
    | nil => rfl
    | cons => cases h
  | _ => rfl

theorem inner_scalar {v : Value} (h : v.isComposite = false) (message : String) (marks : Place → Bool) (depth : Nat)
    (key : Option String) (last : Bool) :
    dressed depth key last (inner message marks depth v) = plainLines depth key last v := by
  have hinner : inner message marks depth v = [indent depth ++ v.toText] := by
    cases v with
    | array items =>
      cases items with
      | nil => rfl
      | cons => cases h
    | object fields =>
      cases fields with
      | nil => rfl
      | cons => cases h
    | _ => rfl
  rw [hinner, plainLines_scalar h, dressed_single depth key last (toText_head h)]

mutual

/-- Without a mark, the lines are the plain ones. -/
theorem inner_unmarked (message : String) : ∀ (v : Value) (depth : Nat) (key : Option String) (last : Bool),
    dressed depth key last (inner message (fun _ => false) depth v) = plainLines depth key last v
  | .array (v :: rest), depth, key, last => by
    simp only [inner, plainLines]
    rw [dressed_block depth key last (by decide), innerItems_unmarked message (v :: rest)]
  | .object (f :: rest), depth, key, last => by
    simp only [inner, plainLines]
    rw [dressed_block depth key last (by decide), innerFields_unmarked message (f :: rest)]
  | .array [], depth, key, last => inner_scalar rfl message _ depth key last
  | .object [], depth, key, last => inner_scalar rfl message _ depth key last
  | .null, depth, key, last => inner_scalar rfl message _ depth key last
  | .boolean b, depth, key, last => inner_scalar (v := .boolean b) rfl message _ depth key last
  | .integer n, depth, key, last => inner_scalar (v := .integer n) rfl message _ depth key last
  | .real x, depth, key, last => inner_scalar (v := .real x) rfl message _ depth key last
  | .string s, depth, key, last => inner_scalar (v := .string s) rfl message _ depth key last

theorem innerItems_unmarked (message : String) : ∀ (items : List Value) (depth : Nat),
    innerItems message (fun _ _ => false) depth items = plainItems depth items
  | [], _ => rfl
  | v :: rest, depth => by
    rw [plainItems, ← inner_unmarked message v depth none rest.isEmpty, ← innerItems_unmarked message rest depth]
    rfl

theorem innerFields_unmarked (message : String) : ∀ (fields : List (String × Value)) (depth : Nat),
    innerFields message (fun _ _ => false) depth fields = plainFields depth fields
  | [], _ => rfl
  | (key, v) :: rest, depth => by
    rw [plainFields, ← inner_unmarked message v depth (some key) rest.isEmpty,
      ← innerFields_unmarked message rest depth]
    rfl

end

/-! ### Reports -/

section

variable {message : String} {good : Value → Prop}

/-- Marks below a mark can be left out. -/
theorem Apart.unmarked {v : Value} {marks : Place → Bool} (h : Apart v marks) (hroot : marks [] = true)
    (depth : Nat) : inner message marks depth v = inner message (fun _ => false) depth v :=
  inner_congr message v _ _ depth fun place u hplace hu => h [] place u hroot hplace hu

/-- A value is shown with its own mark as it is without it: a mark annotates all its lines, which hold no other. -/
theorem Apart.shows {v : Value} {marks : Place → Bool} {depth : Nat} {key : Option String} {last : Bool}
    (h : Apart v marks) (hgood : marks [] = true → good v)
    (hinner : Shows message (BlockOf good) (plainLines depth key last v)
      (dressed depth key last (inner message marks depth v))) :
    Shows message (BlockOf good) (plainLines depth key last v)
      (if marks [] then mark message (dressed depth key last (inner message marks depth v))
        else dressed depth key last (inner message marks depth v)) := by
  split
  · next hroot =>
    rw [h.unmarked hroot, inner_unmarked]
    exact .whole ⟨v, depth, key, last, hgood hroot, rfl⟩ (annotated_mark message (plainLines_ne_nil depth key last v))
  · exact hinner

/-- The lines of a value without parts are shown as they are. -/
theorem shows_scalar {v : Value} (h : v.isComposite = false) (marks : Place → Bool) (depth : Nat)
    (key : Option String) (last : Bool) : Shows message (BlockOf good) (plainLines depth key last v)
      (dressed depth key last (inner message marks depth v)) := by
  rw [inner_scalar h, plainLines_scalar h]
  exact .single _

mutual

/-- A value whose marks stand apart is shown line by line. -/
theorem shows_inner : ∀ (v : Value) (marks : Place → Bool) (depth : Nat) (key : Option String) (last : Bool),
    Apart v marks → (∀ place u, v.at? place = some u → marks place = true → good u) →
    Shows message (BlockOf good) (plainLines depth key last v) (dressed depth key last (inner message marks depth v))
  | .array (v :: rest), marks, depth, key, last, hapart, hgood => by
    simp only [inner, plainLines]
    rw [dressed_block depth key last (by decide)]
    refine .line _ (.append (shows_innerItems (v :: rest) _ (depth + 1) ?_ ?_) (.single _))
    · intro n w hn place more u hmark hmore hu
      exact hapart (n :: place) more u hmark hmore (Option.bind_eq_some_iff.mpr ⟨w, hn, hu⟩)
    · intro n w hn place u hu hmark
      exact hgood (n :: place) u (Option.bind_eq_some_iff.mpr ⟨w, hn, hu⟩) hmark
  | .object (f :: rest), marks, depth, key, last, hapart, hgood => by
    simp only [inner, plainLines]
    rw [dressed_block depth key last (by decide)]
    refine .line _ (.append (shows_innerFields (f :: rest) _ (depth + 1) ?_ ?_) (.single _))
    · intro n g hn place more u hmark hmore hu
      exact hapart (n :: place) more u hmark hmore (Option.bind_eq_some_iff.mpr ⟨g, hn, hu⟩)
    · intro n g hn place u hu hmark
      exact hgood (n :: place) u (Option.bind_eq_some_iff.mpr ⟨g, hn, hu⟩) hmark
  | .array [], marks, depth, key, last, _, _ => shows_scalar rfl marks depth key last
  | .object [], marks, depth, key, last, _, _ => shows_scalar rfl marks depth key last
  | .null, marks, depth, key, last, _, _ => shows_scalar rfl marks depth key last
  | .boolean b, marks, depth, key, last, _, _ => shows_scalar (v := .boolean b) rfl marks depth key last
  | .integer n, marks, depth, key, last, _, _ => shows_scalar (v := .integer n) rfl marks depth key last
  | .real x, marks, depth, key, last, _, _ => shows_scalar (v := .real x) rfl marks depth key last
  | .string s, marks, depth, key, last, _, _ => shows_scalar (v := .string s) rfl marks depth key last

theorem shows_innerItems : ∀ (items : List Value) (marks : Nat → Place → Bool) (depth : Nat),
    (∀ n w, items[n]? = some w → Apart w (marks n)) →
    (∀ n w, items[n]? = some w → ∀ place u, w.at? place = some u → marks n place = true → good u) →
    Shows message (BlockOf good) (plainItems depth items) (innerItems message marks depth items)
  | [], _, _, _, _ => .nil
  | v :: rest, marks, depth, hapart, hgood => by
    have hv := shows_inner v (marks 0) depth none rest.isEmpty (hapart 0 v rfl) (hgood 0 v rfl)
    have hfirst := (hapart 0 v rfl).shows (hgood 0 v rfl [] v (Value.at?_nil v)) hv
    have hrest := shows_innerItems rest (fun n => marks (n + 1)) depth (fun n w hn => hapart (n + 1) w hn)
      fun n w hn => hgood (n + 1) w hn
    exact hfirst.append hrest

theorem shows_innerFields : ∀ (fields : List (String × Value)) (marks : Nat → Place → Bool) (depth : Nat),
    (∀ n f, fields[n]? = some f → Apart f.2 (marks n)) →
    (∀ n f, fields[n]? = some f → ∀ place u, f.2.at? place = some u → marks n place = true → good u) →
    Shows message (BlockOf good) (plainFields depth fields) (innerFields message marks depth fields)
  | [], _, _, _, _ => .nil
  | (key, v) :: rest, marks, depth, hapart, hgood => by
    have hv := shows_inner v (marks 0) depth (some key) rest.isEmpty (hapart 0 (key, v) rfl) (hgood 0 (key, v) rfl)
    have hfirst := (hapart 0 (key, v) rfl).shows (hgood 0 (key, v) rfl [] v (Value.at?_nil v)) hv
    have hrest := shows_innerFields rest (fun n => marks (n + 1)) depth (fun n f hn => hapart (n + 1) f hn)
      fun n f hn => hgood (n + 1) f hn
    exact hfirst.append hrest

end

/-- A document whose marks stand apart is shown line by line. -/
theorem shows_laidOut {document : Value} {marks : Place → Bool} (hapart : Apart document marks)
    (hgood : ∀ place u, document.at? place = some u → marks place = true → good u) :
    Shows message (BlockOf good) (plain document) (laidOut message marks document) :=
  hapart.shows (hgood [] document (Value.at?_nil document)) (shows_inner document marks 0 none true hapart hgood)

end

/-- Values that equal one another do not stand in one another. -/
theorem apart_compositePlacesOf {document : Value} (hk : document.keyed = true) (node : Value) :
    Apart document (compositePlacesOf document node) := by
  intro place rest u hmark hrest hu
  obtain ⟨v, hv, hsame⟩ := (Option.any_eq_true _ _).mp hmark
  have hbelow : v.at? rest = some u := by
    rw [Value.at?_append, hv] at hu
    exact hu
  cases hboth : compositePlacesOf document node (place ++ rest) with
  | false => rfl
  | true =>
    obtain ⟨u', hu', hsame'⟩ := (Option.any_eq_true _ _).mp hboth
    obtain rfl := Option.some.inj (hu.symm.trans hu')
    simp only [Bool.and_eq_true] at hsame hsame'
    have hweight := Value.weight_of_same v node (Value.keyed_at? hk hv) hsame.2
    have hweight' := Value.weight_of_same u node (Value.keyed_at? hk hu) hsame'.2
    have hless := Value.weight_at?_lt hrest hbelow
    omega

/-- A mark at the root stands alone. -/
theorem apart_isEmpty (document : Value) : Apart document List.isEmpty := by
  intro place rest u _ hrest _
  cases place with
  | nil => simpa using hrest
  | cons n more => rfl

/-- The values that a report annotates: those that equal the node of the fault, or the document. -/
def Annotates (document : Value) (f : Fault) (v : Value) : Prop :=
  (∃ node, f.node = some node ∧ v.same node = true) ∨ v = document

/-- The lines of a report are those of the document, as they are or annotated. -/
theorem shows_lines {document : Value} (hk : document.keyed = true) (f : Fault) :
    Shows f.message (BlockOf (Annotates document f)) (plain document) (lines document f) := by
  have hwhole : Shows f.message (BlockOf (Annotates document f)) (plain document)
      (laidOut f.message List.isEmpty document) := by
    refine shows_laidOut (apart_isEmpty document) fun place u hu hplace => ?_
    obtain rfl : place = [] := List.isEmpty_iff.mp hplace
    exact .inr (Option.some.inj ((Value.at?_nil document).symm.trans hu)).symm
  cases hnode : f.node with
  | none =>
    have hlines : lines document f = wholeLines document f.message := by simp only [lines, hnode]
    rw [hlines, wholeLines_eq f.message hk]
    exact hwhole
  | some node =>
    obtain ⟨hfound, hnone⟩ := lines_eq hk hnode
    by_cases hany : ∃ place, compositePlacesOf document node place = true
    · rw [hfound hany]
      refine shows_laidOut (apart_compositePlacesOf hk node) fun place u hu hplace => .inl ⟨node, hnode, ?_⟩
      obtain ⟨v, hv, hsame⟩ := (Option.any_eq_true _ _).mp hplace
      obtain rfl := Option.some.inj (hu.symm.trans hv)
      exact (Bool.and_eq_true _ _ ▸ hsame).2
    · rw [hnone fun place => by simpa using fun h => hany ⟨place, h⟩]
      exact hwhole

/-- **A report is a faithful, aligned rendering.** Without its layout, a document over lines is its compact text. The
report shows these lines one by one, as they are or in annotated runs: the lines of whole values, which are those that
equal the node of the fault or else the document, every one with its bar in the same column of its run. -/
theorem report_renders {document : Value} (hk : document.keyed = true) (f : Fault) :
    String.ofList ((plain document).flatMap squeezed) = document.toText ∧
    Shows f.message (BlockOf (Annotates document f)) (plain document) (lines document f) :=
  ⟨squeezed_plain document, shows_lines hk f⟩

/-- A stage without a function is annotated over its three lines, its document is not. -/
theorem functionless_stage_renders :
    let document : Value := .object [("output", .string "a"), ("stages", .array [.object [("name", .string "a")]])]
    let fault : Fault := ⟨.invalidSpec "no func", some (.object [("name", .string "a")])⟩
    document.keyed = true ∧
    lines document fault = [
      "\x7b",
      "    \"output\": \"a\",",
      "    \"stages\": [",
      "        \x7b               | <---[ERROR HERE]---[" ++ fault.message ++ "]",
      "            \"name\": \"a\" |",
      "        \x7d               |",
      "    ]",
      "\x7d"] ∧
    String.ofList ((plain document).flatMap squeezed) = document.toText ∧
    Shows fault.message (BlockOf (Annotates document fault)) (plain document) (lines document fault) := by
  intro document fault
  have hk : document.keyed = true := by decide
  obtain ⟨htext, hshows⟩ := report_renders hk fault
  exact ⟨hk, by decide +kernel, htext, hshows⟩

end StageGraph.Report
