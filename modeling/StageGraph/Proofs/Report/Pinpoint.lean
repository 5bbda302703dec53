import StageGraph.Proofs.Report.Marks

/-! Whether a report pinpoints its fault.

A report does (`Pinpoints`) when the marked blocks are those of the sub-values equal to the fault's node, or
the document's as a whole when no sub-value is. `report_pinpoints_iff` gives the documents and nodes for which
that is so: a list with items and an object with fields are always found, whereas a scalar, an empty list or
an empty object below the root is not, and then the whole document is marked in its place. -/
namespace StageGraph.Report

/-- A document laid out with the blocks at certain places marked, as one text. -/
def laidOutText (message : String) (marks : Place → Bool) (document : Value) : String :=
  String.intercalate "\n" (laidOut message marks document)

/-- The report marks the sub-values equal to `node` and nothing else; the whole document if there are none. -/
def Pinpoints (document : Value) (f : Fault) (node : Value) : Prop :=
  ((∃ place, placesOf document node place = true) →
    report document f = laidOutText f.message (placesOf document node) document) ∧
  ((∀ place, placesOf document node place = false) →
    report document f = laidOutText f.message List.isEmpty document)

/-! ### A mark at the root shows -/

/-- A composite value takes several lines, the first of which is its bracket. -/
theorem inner_of_composite {v : Value} (h : v.isComposite = true) :
    ∃ bracket, ∀ message marks, ∃ next rest, inner message marks 0 v = bracket :: next :: rest := by
  cases v with
  | array items =>
    cases items with
    | nil => cases h
    | cons w rest =>
      refine ⟨indent 0 ++ "[", fun message marks => ?_⟩
      simp only [inner]
      cases innerItems message (fun n place => marks (n :: place)) (0 + 1) (w :: rest) with
      | nil => exact ⟨_, _, rfl⟩
      | cons next more => exact ⟨next, _, rfl⟩
  | object fields =>
    cases fields with
    | nil => cases h
    | cons f rest =>
      refine ⟨indent 0 ++ "\x7b", fun message marks => ?_⟩
      simp only [inner]
      cases innerFields message (fun n place => marks (n :: place)) (0 + 1) (f :: rest) with
      | nil => exact ⟨_, _, rfl⟩
      | cons next more => exact ⟨next, _, rfl⟩
  | _ => cases h

theorem toList_pushn (s : String) (c : Char) (n : Nat) :
    (s.pushn c n).toList = s.toList ++ List.replicate n c := by
  induction n with
  | zero => simp [String.pushn, Nat.repeat]
  | succ n ih =>
    have hpush : s.pushn c (n + 1) = (s.pushn c n).push c := rfl
    rw [hpush, String.toList_push, ih, List.append_assoc, List.replicate_succ']

/-- Behind the bracket of a composite value stands a blank if the value is marked, and a line break if not. -/
theorem laidOutText_root {v : Value} (h : v.isComposite = true) (message : String)
    {marks marks' : Place → Bool} (hm : marks [] = true) (hm' : marks' [] = false) :
    laidOutText message marks v ≠ laidOutText message marks' v := by
  obtain ⟨bracket, hb⟩ := inner_of_composite h
  obtain ⟨next, rest, hlines⟩ := hb message marks
  obtain ⟨next', rest', hlines'⟩ := hb message marks'
  have hmarked : laidOutText message marks v = bracket ++ String.intercalate "\n"
      (("".pushn ' ' (width (bracket :: next :: rest) - bracket.length + 1) ++ "|" ++ flag message) ::
        (next :: rest).map (barred (width (bracket :: next :: rest)))) := by
    rw [← String.intercalate_cons_append]
    simp only [laidOutText, laidOut, hm, if_true, hlines, mark, List.map_cons, barred, String.append_assoc]
  have hplain : laidOutText message marks' v =
      bracket ++ ("\n" ++ String.intercalate "\n" (next' :: rest')) := by
    rw [← String.append_assoc, ← String.intercalate_cons_cons]
    simp only [laidOutText, laidOut, hm', Bool.false_eq_true, if_false, hlines']
  intro he
  rw [hmarked, hplain, String.append_right_inj] at he
  have hfirst := congrArg (fun text => text.toList.head?) he
  simp [List.map_cons, String.intercalate_cons_cons, toList_pushn, List.replicate_succ] at hfirst

/-! ### Exactly when a report pinpoints -/

theorem report_eq {document node : Value} {f : Fault} (hk : document.keyed = true)
    (hn : f.node = some node) :
    ((∃ place, compositePlacesOf document node place = true) →
      report document f = laidOutText f.message (compositePlacesOf document node) document) ∧
    ((∀ place, compositePlacesOf document node place = false) →
      report document f = laidOutText f.message List.isEmpty document) := by
  obtain ⟨hfound, hnone⟩ := lines_eq hk hn
  exact ⟨fun h => congrArg _ (hfound h), fun h => congrArg _ (hnone h)⟩

/-- All places of a composite node are places of composite sub-values. -/
theorem compositePlacesOf_eq {document node : Value} (hc : node.isComposite = true) :
    compositePlacesOf document node = placesOf document node := by
  funext place
  unfold compositePlacesOf placesOf
  cases document.at? place with
  | none => rfl
  | some u =>
    cases hs : u.same node
    · simp [hs]
    · simp [hs, Value.isComposite_of_same hs, hc]

/-- A node that is not composite has no places of composite sub-values. -/
theorem compositePlacesOf_leaf {document node : Value} (hc : node.isComposite = false) (place : Place) :
    compositePlacesOf document node place = false := by
  unfold compositePlacesOf
  cases document.at? place with
  | none => rfl
  | some u =>
    cases hs : u.same node
    · simp [hs]
    · simp [hs, Value.isComposite_of_same hs, hc]

/-- **A report pinpoints its fault unless the node is a scalar, an empty list or an empty object that stands
below the root of the document.** In that case the document is marked as a whole, and the node is not. -/
theorem report_pinpoints_iff {document node : Value} {f : Fault} (hk : document.keyed = true)
    (hn : f.node = some node) :
    (Pinpoints document f node ↔
      node.isComposite = true ∨ ∀ place, place ≠ [] → placesOf document node place = false) ∧
    (node.isComposite = false → report document f = laidOutText f.message List.isEmpty document) := by
  obtain ⟨hfound, hnone⟩ := report_eq hk hn
  cases hc : node.isComposite with
  | true =>
    rw [compositePlacesOf_eq hc] at hfound hnone
    simp only [Pinpoints, true_or, iff_true, Bool.true_eq_false, false_implies, and_true]
    exact ⟨hfound, hnone⟩
  | false =>
    have hwhole := hnone (compositePlacesOf_leaf hc)
    refine ⟨⟨fun ⟨hthere, _⟩ => .inr fun place hp => ?_, ?_⟩, fun _ => hwhole⟩
    · -- a leaf below the root would have to be marked, and the root, which is composite, would not
      cases hplace : placesOf document node place with
      | false => rfl
      | true =>
        obtain ⟨u, hu, -⟩ := (Option.any_eq_true _ _).mp hplace
        have hcomposite := Value.isComposite_of_at? hp hu
        have hroot : placesOf document node [] = false := by
          cases hs : document.same node with
          | false => simp [placesOf, hs]
          | true => rw [Value.isComposite_of_same hs, hc] at hcomposite; cases hcomposite
        have hclaimed := hthere ⟨place, hplace⟩
        exact absurd (hwhole.symm.trans hclaimed)
          (laidOutText_root hcomposite f.message rfl hroot)
    · rintro (h | hbelow)
      · cases h
      · refine ⟨fun ⟨place, hplace⟩ => ?_, fun _ => hwhole⟩
        cases place with
        | cons n rest => rw [hbelow (n :: rest) (by simp)] at hplace; cases hplace
        | nil =>
          have hmarks : ∀ place, placesOf document node place = place.isEmpty := by
            intro place
            cases place with
            | nil => exact hplace
            | cons n rest => exact hbelow (n :: rest) (by simp)
          rw [hwhole, funext hmarks]

/-- An output that is a number is not pinpointed: its document is marked as a whole. -/
theorem number_not_pinpointed :
    let document : Value := .object [("output", .integer 3)]
    let fault : Fault := ⟨.invalidSpec "bad", some (.integer 3)⟩
    document.keyed = true ∧ fault.node = some (.integer 3) ∧ ¬ Pinpoints document fault (.integer 3) ∧
      report document fault = laidOutText fault.message List.isEmpty document := by
  intro document fault
  have hk : document.keyed = true := by decide
  have hplace : placesOf document (.integer 3) [0] = true := by decide
  obtain ⟨hiff, hwhole⟩ := report_pinpoints_iff (f := fault) hk rfl
  refine ⟨hk, rfl, fun h => ?_, hwhole rfl⟩
  rcases hiff.mp h with hc | hbelow
  · cases hc
  · rw [hbelow [0] (by simp)] at hplace
    cases hplace

end StageGraph.Report
