import StageGraph.Proofs.Path.Text
import StageGraph.Proofs.Scoping.Lexical

/-! References mean their segments.

A reference is taken apart twice: its head is split off, and what is behind the first dot is read as a path by
itself. That is the rest of the segments of the whole, but for a text with one dot alone behind its head: the empty
segment that this writes is lost (`parse_splitHead`). So who reads by a reference takes one step for each of its
segments behind the head (`obtain?_eq_stepwise`), except that one. The main theorem is `references_follow_segments`. -/
namespace StageGraph

namespace Resolvable

variable {π : Type} (view : π → Poll Value)

/-- One step from what stands somewhere on a path; what is pending has to come about first. -/
def stride (told : Poll (Resolvable π)) (segment : String) : Poll (Resolvable π) :=
  match told with
  | some (.ok r) =>
    match r.await (m := Id) view with
    | some (.ok found) => some ((found.step segment).mapError fun cause => ⟨cause, none⟩)
    | unfinished => unfinished
  | unfinished => unfinished

/-- The value at the end of a path, with one step for each of its segments. -/
def stepwise (r : Resolvable π) (path : Path) : Poll Value :=
  match path.foldl (stride view) (some (.ok r)) with
  | some (.ok found) => found.force (m := Id) view
  | some (.error f) => some (.error f)
  | none => none

variable {view}

/-- What has not come about, or has failed, goes no further. -/
theorem foldl_stride {told : Poll (Resolvable π)} (h : ∀ r, told ≠ some (.ok r)) (path : Path) :
    path.foldl (stride view) told = told := by
  induction path with
  | nil => rfl
  | cons segment rest ih =>
    have hstays : stride view told segment = told := by
      unfold stride
      split
      · exact absurd rfl (h _)
      · rfl
    rw [List.foldl_cons, hstays, ih]

/-- To wait for a value before it is asked for changes nothing. -/
theorem force_await (r : Resolvable π) :
    (match r.await (m := Id) view with
      | some (.ok found) => found.force (m := Id) view
      | some (.error f) => some (.error f)
      | none => none) = r.force (m := Id) view := by
  cases r with
  | pending p =>
    show (match (view p).map (Except.map ready) with
      | some (.ok found) => found.force (m := Id) view
      | some (.error f) => some (.error f)
      | none => none) = (Progress.look (m := Id) view (.pending p)).outcome?
    rw [Progress.look_pending]
    rcases view p with - | f | v <;> rfl
  | _ => rfl

theorem stepwise_cons (r : Resolvable π) (segment : String) (rest : Path) :
    r.stepwise view (segment :: rest) =
      match stride view (some (.ok r)) segment with
      | some (.ok next) => next.stepwise view rest
      | some (.error f) => some (.error f)
      | none => none := by
  unfold stepwise
  rw [List.foldl_cons]
  rcases stride view (some (.ok r)) segment with - | f | next
  · rw [foldl_stride fun r h => by cases h]
  · rw [foldl_stride fun r h => by cases h]
  · rfl

theorem obtain?_cons (r : Resolvable π) (segment : String) (rest : Path) :
    r.obtain? (m := Id) view (segment :: rest) =
      match stride view (some (.ok r)) segment with
      | some (.ok next) => next.obtain? (m := Id) view rest
      | some (.error f) => some (.error f)
      | none => none := by
  rw [obtain?_eq, navigate_cons]
  simp only [stride]
  rcases r.await (m := Id) view with - | f | found
  · rfl
  · rfl
  · simp only [proceed]
    rcases found.step segment with cause | next <;> rfl

/-- **Who follows a path takes a step for each of its segments.** -/
theorem obtain?_eq_stepwise (path : Path) : ∀ r : Resolvable π,
    r.obtain? (m := Id) view path = r.stepwise view path := by
  induction path with
  | nil => exact force_await
  | cons segment rest ih =>
    intro r
    rw [obtain?_cons, stepwise_cons]
    rcases stride view (some (.ok r)) segment with - | f | next
    · rfl
    · rfl
    · exact ih next

end Resolvable

namespace Machine

variable {m : Machine}

/-- **References mean their segments.** Who lives and reads by a reference whose first segment names something is told
what one step for each of the other segments leads to from there, wherever the dots of the reference are; with one
exception. Where nothing but an empty segment stands behind the head, no step is taken for it. -/
theorem references_follow_segments {p : Nat} {i : Instance} (hi : m.instances[p]? = some i) (hlives : i.alive = true)
    {text head : String} {rest : Path} (hsegments : Path.parse text = head :: rest) {base : Resolvable Nat}
    (hbase : m.head? i head = some base) (node : Value) (blamed : Option Value) :
    (m.link (some p) node blamed text = ⟨.ok base, rest, blamed⟩ ↔ rest ≠ [""]) ∧
      m.linked (m.link (some p) node blamed text) =
        (base.stepwise m.slot (if rest = [""] then [] else rest)).map (Except.mapError (Fault.blame? · blamed)) := by
  obtain ⟨hhead, hpath⟩ := Path.parse_splitHead hsegments
  subst hhead
  rw [(link_of_alive hi hlives node blamed text).1 base hbase, hpath]
  constructor
  · constructor
    · rintro hlink rfl
      have hsame := congrArg Link.path hlink
      cases hsame
    · intro hrest
      rw [if_neg hrest]
  · rw [← Resolvable.obtain?_eq_stepwise]
    rfl

/-- A pipeline that gives what its input has under an empty key. -/
def unnamedKey : Value := .object [("input", .array [.string ""]), ("output", .string "input.")]

/-- A reference with one dot alone behind its head, to an input that has a value for the segment which that writes. -/
theorem trailing_segment_lost : ∃ m i base, build { registry := ⟨[]⟩ } unnamedKey Settings.default = .ok (0, m) ∧
    m.instances[0]? = some i ∧ i.alive = true ∧ Path.parse "input." = ["input", ""] ∧
      (m.fill 0 (.ok (.integer 7))).head? i "input" = some base ∧
      base.stepwise (m.fill 0 (.ok (.integer 7))).slot [""] = some (.ok (.integer 7)) ∧
      (m.fill 0 (.ok (.integer 7))).linked ((m.fill 0 (.ok (.integer 7))).link (some 0) .null none "input.") =
        some (.ok (.object [("", .integer 7)])) := by
  obtain ⟨m, hbuild⟩ : ∃ m, build { registry := ⟨[]⟩ } unnamedKey Settings.default = .ok (0, m) := ⟨_, rfl⟩
  obtain ⟨i, base, hi, hlives, hbase, hstepwise, hbare⟩ : ∃ i base, (m.fill 0 (.ok (.integer 7))).instances[0]? = some i ∧
      i.alive = true ∧ (m.fill 0 (.ok (.integer 7))).head? i "input" = some base ∧
      base.stepwise (m.fill 0 (.ok (.integer 7))).slot [""] = some (.ok (.integer 7)) ∧
      base.stepwise (m.fill 0 (.ok (.integer 7))).slot [] = some (.ok (.object [("", .integer 7)])) := by
    cases hbuild
    exact ⟨_, _, rfl, rfl, rfl, rfl, rfl⟩
  have hsegments : Path.parse "input." = ["input", ""] := by decide
  refine ⟨m, i, base, hbuild, hi, hlives, hsegments, hbase, hstepwise, ?_⟩
  rw [(references_follow_segments hi hlives hsegments hbase .null none).2, if_pos rfl, hbare]
  rfl

end Machine
end StageGraph
