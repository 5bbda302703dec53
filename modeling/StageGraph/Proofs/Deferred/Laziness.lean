import Mathlib.Logic.Relation
import StageGraph.Proofs.Deferred.Asking
import StageGraph.Proofs.Resolvable.Routes
import StageGraph.Proofs.Resolvable.Sifting

/-! Following a path on a shelf.

Who asks for a shared value asks for those that it is made of, and for nothing else (`Uses`). Nothing that is asked for
makes a shared value of more than before, so what an asked value does not use stays as it was put up (`ask_untouched`).
A path asks for the pending value that it comes to: neither the result nor the shelf tell what stands elsewhere in the
tree, and only values that the one on the path uses are started (`navigate_lazily`). -/
namespace StageGraph.Shelf

variable {s s' : Shelf} {n p q : Nat}

/-- Asking for the first number comes to the second. -/
def Uses (s : Shelf) : Nat → Nat → Prop := Relation.ReflTransGen s.MadeOf

/-- The value of a number is as it was, and no shared value is made of more. -/
structure Untouched (s : Shelf) (n : Nat) (s' : Shelf) : Prop where
  same : s'.items[n]? = s.items[n]?
  parts : ∀ p q, s'.MadeOf p q → s.MadeOf p q

namespace Untouched

theorem refl (s : Shelf) (n : Nat) : s.Untouched n s := ⟨rfl, fun _ _ h => h⟩

theorem pass (h : s.Untouched n s') (moment : Nat) : s.Untouched n (s'.pass moment) := ⟨h.same, h.parts⟩

theorem start (h : s.Untouched n s') (hp : p ≠ n) : s.Untouched n (s'.start p) :=
  ⟨by rw [start_items, if_neg hp, h.same], fun _ _ hmade => h.parts _ _ (start_madeOf hmade)⟩

theorem put {parts : Progress Nat} (h : s.Untouched n s') (hp : p ≠ n)
    (hparts : ∀ q ∈ parts.awaited, s.MadeOf p q) : s.Untouched n (s'.put p (.shared parts true)) := by
  refine ⟨by rw [put_items, if_neg hp, h.same], fun a q hmade => ?_⟩
  rcases put_madeOf hmade with ⟨rfl, hq⟩ | hmade
  · exact hparts q hq
  · exact h.parts a q hmade

end Untouched

/-- Asking for a value leaves those alone that it does not use. -/
theorem ask_untouched (depth : Nat) : ∀ {p : Nat}, ¬s.Uses p n →
    (Telling.keeping (s.Untouched n)).holds (ask depth p) fun _ => True := by
  induction depth with
  | zero => exact fun _ => Telling.pure _ trivial
  | succ depth ih =>
    intro p hunused s' hs'
    have hp : p ≠ n := fun h => hunused (h ▸ .refl)
    refine ⟨trivial, ?_⟩
    cases hitem : s'.items[p]? with
    | none =>
      rw [ask_missing hitem]
      exact hs'.start hp
    | some d =>
      cases d with
      | delay ms o due =>
        rw [ask_delay hitem]
        exact hs'.start hp
      | never asked =>
        rw [ask_never hitem]
        exact hs'.start hp
      | shared parts asked =>
        rw [ask_shared hitem]
        have hmade : ∀ q ∈ parts.awaited, s.MadeOf p q := fun q hq => hs'.parts p q ⟨_, _, hitem, hq⟩
        have hlook : (Telling.keeping (s.Untouched n)).holds (parts.look (ask depth)) fun r => ∀ q ∈ r.awaited, s.MadeOf p q :=
          Progress.look_awaits _ parts fun q hq =>
            Telling.mono _ (ih fun h => hunused (.head (hmade q hq) h)) fun _ _ _ => hmade q hq
        obtain ⟨hleft, hlooked⟩ := hlook _ (hs'.start hp)
        exact hlooked.put hp hleft

/-- Following a path leaves the values alone that the one on it does not use. -/
theorem navigate_untouched {r : Resolvable Nat} {path : Path} (h : ∀ p, r.OnPath path p → ¬s.Uses p n) :
    s.Untouched n (Shelf.navigate r path s).2 := by
  refine (wait_keeps (P := fun _ => True) (fun _ moment hs => hs.pass moment) ?_ trivial s.items.size s (.refl s n)).2
  rw [Resolvable.navigate_gate]
  cases hgate : r.gate? path with
  | none => exact Telling.pure _ trivial
  | some gate =>
    obtain ⟨p, rest⟩ := gate
    exact Telling.bind _ (ask_untouched _ (h p (Resolvable.gate?_onPath path hgate))) fun _ _ => Telling.pure _ trivial

/-- **Following a path is lazy.** Whatever stands where the path does not lead, the result is the same and so is the shelf
that is left, with every value on it that was started; the same pending values lie on the path, and none is started but
those that they use. -/
theorem navigate_lazily {r r' : Resolvable Nat} {path : Path} (h : r.SameAlong path r') (s : Shelf) :
    Shelf.navigate r' path s = Shelf.navigate r path s ∧ (∀ p, r'.OnPath path p ↔ r.OnPath path p) ∧
      ∀ n, (∀ p, r.OnPath path p → ¬s.Uses p n) → (Shelf.navigate r' path s).2.items[n]? = s.items[n]? := by
  have hsame : Shelf.navigate r' path s = Shelf.navigate r path s := by
    simp only [Shelf.navigate, Resolvable.navigate_sameAlong path h]
  refine ⟨hsame, fun p => Resolvable.onPath_sameAlong path h, fun n hunused => ?_⟩
  rw [hsame]
  exact (navigate_untouched hunused).same

/-- A value that never comes takes the place of a failure beside the path, and nobody asks for it. -/
theorem stuck_sibling_left_alone :
    (Shelf.navigate (.mapping [("b", .pending 2), ("a", .sequence [.sequence [.pending 2], .pending 0])]) ["a", "1"]
      ⟨0, #[.after 5 (.ok .null), .after 0 (.error ⟨.missingKey "k", none⟩), .never false]⟩).1 =
        some (.ok (.ready .null)) ∧
    (Shelf.navigate (.mapping [("b", .pending 2), ("a", .sequence [.sequence [.pending 2], .pending 0])]) ["a", "1"]
      ⟨0, #[.after 5 (.ok .null), .after 0 (.error ⟨.missingKey "k", none⟩), .never false]⟩).2.items[2]? =
        some (.never false) := by
  have hsame : Resolvable.SameAlong ["a", "1"]
      (.mapping [("b", .pending 1), ("a", .sequence [.pending 1, .pending 0])])
      (.mapping [("b", .pending 2), ("a", .sequence [.sequence [.pending 2], .pending 0])]) := by
    refine ⟨rfl, fun a a' ha ha' => ?_⟩
    cases ha
    cases ha'
    refine ⟨rfl, fun k a a' hk ha ha' => ?_⟩
    cases (show Path.index? "1" = some 1 by decide +kernel).symm.trans hk
    cases ha
    cases ha'
    rfl
  obtain ⟨hresult, -, hrest⟩ := navigate_lazily hsame
    ⟨0, #[.after 5 (.ok .null), .after 0 (.error ⟨.missingKey "k", none⟩), .never false]⟩
  refine ⟨by rw [hresult]; rfl, hrest 2 fun p hp huses => ?_⟩
  obtain ⟨rest, hgate⟩ := Resolvable.onPath_gate? hp
  have hfirst : (Resolvable.mapping [("b", .pending 1), ("a", .sequence [.pending 1, .pending 0])]).gate? ["a", "1"] =
    some (0, []) := rfl
  cases hfirst.symm.trans hgate
  rcases huses.cases_head with h | ⟨q, ⟨parts, asked, hitem, -⟩, -⟩
  · cases h
  · cases hitem

end StageGraph.Shelf
