import StageGraph.Report
import StageGraph.Proofs.Value.Places

/-! Which blocks a report marks.

`laidOut` lays a document out with the blocks at given places marked and no others. What a report marks is
told by comparing it with such a layout: `lines_eq` gives the places for a fault in a list with items or an object
with fields, and the whole document for one in anything else. A report that pinpoints its fault
(`Pinpoints`) marks the sub-values equal to the node, wherever they are, and the whole document only when there
are none; `report_pinpoints_iff` says for which nodes a report does. -/
namespace StageGraph.Report

/-! ### Layouts -/

mutual

/-- The lines of a value at a depth, those of its marked blocks marked, but its own block left as it is. -/
def inner (message : String) (marks : Place → Bool) (depth : Nat) : Value → List String
  | .array (v :: rest) =>
    (indent depth ++ "[") :: innerItems message (fun n place => marks (n :: place)) (depth + 1) (v :: rest)
      ++ [indent depth ++ "]"]
  | .object (f :: rest) =>
    (indent depth ++ "\x7b") :: innerFields message (fun n place => marks (n :: place)) (depth + 1) (f :: rest)
      ++ [indent depth ++ "\x7d"]
  | v => [indent depth ++ v.toText]

/-- The lines of the items of a list; `marks` takes the number of an item and a place in it. -/
def innerItems (message : String) (marks : Nat → Place → Bool) (depth : Nat) : List Value → List String
  | [] => []
  | v :: rest =>
    let lines := inner message (marks 0) depth v
    let lines := if rest.isEmpty then lines else appendLast "," lines
    (if marks 0 [] then mark message lines else lines)
      ++ innerItems message (fun n => marks (n + 1)) depth rest

/-- The lines of the fields of an object. -/
def innerFields (message : String) (marks : Nat → Place → Bool) (depth : Nat) :
    List (String × Value) → List String
  | [] => []
  | (key, v) :: rest =>
    let lines := keyFirst depth key (inner message (marks 0) depth v)
    let lines := if rest.isEmpty then lines else appendLast "," lines
    (if marks 0 [] then mark message lines else lines)
      ++ innerFields message (fun n => marks (n + 1)) depth rest

end

/-- A document with the blocks at certain places marked. -/
def laidOut (message : String) (marks : Place → Bool) (document : Value) : List String :=
  let lines := inner message marks 0 document
  if marks [] then mark message lines else lines

/-- The places of the sub-values of `v` that equal `node`. -/
def placesOf (v node : Value) (place : Place) : Bool := (v.at? place).any (Value.same · node)

/-- The places of those that are composite. -/
def compositePlacesOf (v node : Value) (place : Place) : Bool :=
  (v.at? place).any fun u => u.isComposite && u.same node

/-! ### Marks that make a difference -/

mutual

/-- Marks count only at places that are there, and not at the root. -/
theorem inner_congr (message : String) : ∀ (v : Value) (marks marks' : Place → Bool) (depth : Nat),
    (∀ place u, place ≠ [] → v.at? place = some u → marks place = marks' place) →
    inner message marks depth v = inner message marks' depth v
  | .array (v :: rest), marks, marks', depth, h => by
    simp only [inner]
    rw [innerItems_congr message (v :: rest) _ (fun n place => marks' (n :: place)) (depth + 1)]
    intro n w place u hn hu
    exact h (n :: place) u (by simp) (Option.bind_eq_some_iff.mpr ⟨w, hn, hu⟩)
  | .object (f :: rest), marks, marks', depth, h => by
    simp only [inner]
    rw [innerFields_congr message (f :: rest) _ (fun n place => marks' (n :: place)) (depth + 1)]
    intro n g place u hn hu
    exact h (n :: place) u (by simp) (Option.bind_eq_some_iff.mpr ⟨g, hn, hu⟩)
  | .array [], _, _, _, _ => rfl
  | .object [], _, _, _, _ => rfl
  | .null, _, _, _, _ => rfl
  | .boolean _, _, _, _, _ => rfl
  | .integer _, _, _, _, _ => rfl
  | .real _, _, _, _, _ => rfl
  | .string _, _, _, _, _ => rfl

theorem innerItems_congr (message : String) : ∀ (items : List Value) (marks marks' : Nat → Place → Bool)
    (depth : Nat),
    (∀ n w place u, items[n]? = some w → w.at? place = some u → marks n place = marks' n place) →
    innerItems message marks depth items = innerItems message marks' depth items
  | [], _, _, _, _ => rfl
  | v :: rest, marks, marks', depth, h => by
    have hroot : marks 0 [] = marks' 0 [] := h 0 v [] v rfl (Value.at?_nil v)
    have hv := inner_congr message v (marks 0) (marks' 0) depth fun place u _ hu => h 0 v place u rfl hu
    have hrest := innerItems_congr message rest (fun n => marks (n + 1)) (fun n => marks' (n + 1)) depth
      fun n w place u hn hu => h (n + 1) w place u hn hu
    simp only [innerItems, hroot, hv, hrest]

theorem innerFields_congr (message : String) : ∀ (fields : List (String × Value))
    (marks marks' : Nat → Place → Bool) (depth : Nat),
    (∀ n f place u, fields[n]? = some f → f.2.at? place = some u → marks n place = marks' n place) →
    innerFields message marks depth fields = innerFields message marks' depth fields
  | [], _, _, _, _ => rfl
  | (key, v) :: rest, marks, marks', depth, h => by
    have hroot : marks 0 [] = marks' 0 [] := h 0 (key, v) [] v rfl (Value.at?_nil v)
    have hv := inner_congr message v (marks 0) (marks' 0) depth fun place u _ hu =>
      h 0 (key, v) place u rfl hu
    have hrest := innerFields_congr message rest (fun n => marks (n + 1)) (fun n => marks' (n + 1)) depth
      fun n f place u hn hu => h (n + 1) f place u hn hu
    simp only [innerFields, hroot, hv, hrest]

end

/-! ### Blocks -/

theorem block_marked (fault : Value) (message : String) (depth : Nat) (v : Value) :
    (block fault message depth v).marked = compositePlacesOf v fault [] := by
  unfold compositePlacesOf
  rw [Value.at?_nil]
  cases v with
  | array items => cases items <;> rfl
  | object fields => cases fields <;> rfl
  | _ => rfl

mutual

/-- The lines of a block are laid out with the composite places of the fault marked. -/
theorem block_lines (fault : Value) (message : String) : ∀ (v : Value) (depth : Nat),
    (block fault message depth v).lines = inner message (compositePlacesOf v fault) depth v
  | .array (v :: rest), depth => by
    simp only [block, inner]
    rw [itemLines_fst fault message (v :: rest) (depth + 1)]
  | .object (f :: rest), depth => by
    simp only [block, inner]
    rw [fieldLines_fst fault message (f :: rest) (depth + 1)]
  | .array [], _ => rfl
  | .object [], _ => rfl
  | .null, _ => rfl
  | .boolean _, _ => rfl
  | .integer _, _ => rfl
  | .real _, _ => rfl
  | .string _, _ => rfl

theorem itemLines_fst (fault : Value) (message : String) : ∀ (items : List Value) (depth : Nat),
    (itemLines fault message depth items).1 =
      innerItems message (fun n place => compositePlacesOf (.array items) fault (n :: place)) depth items
  | [], _ => rfl
  | v :: rest, depth => by
    simp only [itemLines, innerItems, Block.finish, block_marked]
    rw [block_lines fault message v depth, itemLines_fst fault message rest depth]
    rfl

theorem fieldLines_fst (fault : Value) (message : String) : ∀ (fields : List (String × Value)) (depth : Nat),
    (fieldLines fault message depth fields).1 =
      innerFields message (fun n place => compositePlacesOf (.object fields) fault (n :: place)) depth fields
  | [], _ => rfl
  | (key, v) :: rest, depth => by
    simp only [fieldLines, innerFields, Block.finish, block_marked]
    rw [block_lines fault message v depth, fieldLines_fst fault message rest depth]
    rfl

end

theorem not_compositePlacesOf {v : Value} (node : Value) (place : Place) (h : v.isComposite = false) :
    compositePlacesOf v node place = false := by
  unfold compositePlacesOf
  cases hu : v.at? place with
  | none => rfl
  | some u =>
    cases place with
    | nil =>
      rw [Value.at?_nil] at hu
      cases hu
      simp [h]
    | cons n rest => exact absurd (Value.isComposite_of_at? (by simp) hu) (by simp [h])

/-- A value without parts holds no mark. -/
theorem found_leaf {v : Value} (fault : Value) (h : v.isComposite = false) :
    false = true ↔ ∃ place, compositePlacesOf v fault place = true := by
  simp [not_compositePlacesOf fault _ h]

mutual

/-- A block tells of a mark when a composite place of the fault is there. -/
theorem block_found (fault : Value) (message : String) : ∀ (v : Value) (depth : Nat),
    (block fault message depth v).found = true ↔ ∃ place, compositePlacesOf v fault place = true
  | .array (v :: rest), depth => by
    simp only [block, Bool.or_eq_true]
    rw [itemLines_snd fault message (v :: rest) (depth + 1)]
    constructor
    · rintro (hroot | ⟨n, place, h⟩)
      · exact ⟨[], hroot⟩
      · exact ⟨n :: place, h⟩
    · rintro ⟨_ | ⟨n, place⟩, h⟩
      · exact .inl h
      · exact .inr ⟨n, place, h⟩
  | .object (f :: rest), depth => by
    simp only [block, Bool.or_eq_true]
    rw [fieldLines_snd fault message (f :: rest) (depth + 1)]
    constructor
    · rintro (hroot | ⟨n, place, h⟩)
      · exact ⟨[], hroot⟩
      · exact ⟨n :: place, h⟩
    · rintro ⟨_ | ⟨n, place⟩, h⟩
      · exact .inl h
      · exact .inr ⟨n, place, h⟩
  | .array [], _ => found_leaf fault rfl
  | .object [], _ => found_leaf fault rfl
  | .null, _ => found_leaf fault rfl
  | .boolean _, _ => found_leaf fault rfl
  | .integer _, _ => found_leaf fault rfl
  | .real _, _ => found_leaf fault rfl
  | .string _, _ => found_leaf fault rfl

theorem itemLines_snd (fault : Value) (message : String) : ∀ (items : List Value) (depth : Nat),
    (itemLines fault message depth items).2 = true ↔
      ∃ n place, compositePlacesOf (.array items) fault (n :: place) = true
  | [], _ => by simp [itemLines, not_compositePlacesOf (v := .array []) fault _ rfl]
  | v :: rest, depth => by
    simp only [itemLines, Bool.or_eq_true]
    rw [block_found fault message v depth, itemLines_snd fault message rest depth]
    exact Nat.or_exists_add_one (p := fun n => ∃ place, compositePlacesOf (.array (v :: rest)) fault (n :: place) = true)

theorem fieldLines_snd (fault : Value) (message : String) : ∀ (fields : List (String × Value)) (depth : Nat),
    (fieldLines fault message depth fields).2 = true ↔
      ∃ n place, compositePlacesOf (.object fields) fault (n :: place) = true
  | [], _ => by simp [fieldLines, not_compositePlacesOf (v := .object []) fault _ rfl]
  | (key, v) :: rest, depth => by
    simp only [fieldLines, Bool.or_eq_true]
    rw [block_found fault message v depth, fieldLines_snd fault message rest depth]
    exact Nat.or_exists_add_one
      (p := fun n => ∃ place, compositePlacesOf (.object ((key, v) :: rest)) fault (n :: place) = true)

end

/-! ### Reports -/

/-- The document marked as a whole, and nothing in it. -/
theorem wholeLines_eq {document : Value} (message : String) (hk : document.keyed = true) :
    wholeLines document message = laidOut message List.isEmpty document := by
  have hinner : inner message (compositePlacesOf document document) 0 document =
      inner message List.isEmpty 0 document := by
    apply inner_congr
    intro place u hp hu
    have hempty : place.isEmpty = false := by cases place <;> simp_all
    simp [compositePlacesOf, hu, Value.not_same_below hk hp hu, hempty]
  simp only [wholeLines, Block.finish, if_true, block_lines, hinner, laidOut, List.isEmpty_nil]

/-- What the lines of a report are, for a fault with a node. -/
theorem lines_eq {document node : Value} {f : Fault} (hk : document.keyed = true)
    (hn : f.node = some node) :
    ((∃ place, compositePlacesOf document node place = true) →
      lines document f = laidOut f.message (compositePlacesOf document node) document) ∧
    ((∀ place, compositePlacesOf document node place = false) →
      lines document f = laidOut f.message List.isEmpty document) := by
  have hlines : lines document f =
      if (block node f.message 0 document).found then (block node f.message 0 document).finish f.message
      else wholeLines document f.message := by
    simp only [lines, hn]
  constructor
  · intro hplace
    rw [hlines, if_pos ((block_found node f.message document 0).mpr hplace)]
    simp only [Block.finish, block_marked, block_lines, laidOut]
  · intro hnone
    have hfound : (block node f.message 0 document).found ≠ true := by
      rw [ne_eq, block_found]
      rintro ⟨place, h⟩
      rw [hnone place] at h
      cases h
    rw [hlines, if_neg hfound, wholeLines_eq f.message hk]

end StageGraph.Report
