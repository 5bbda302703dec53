import StageGraph.Proofs.Deferred.Commuting
import StageGraph.Proofs.Resolvable.Earliest
import StageGraph.Proofs.Resolvable.Shape

/-! What a tree comes to.

A tree whose leaves all come to values comes to the tree of these values, at whatever moments they come. If a leaf fails, the
tree fails with it as soon as it has failed, and does not wait for the others. But a sequence or a mapping that is a crowd
has its elements looked through in turn, and a failure there is noticed only when all elements before it have come: then
the tree may tell of a failure that was not the first (`crowd_tells_slow`), or of none if one of them never comes. -/
namespace StageGraph.Shelf

variable {s : Shelf} {r : Resolvable Nat}

/-- **A tree keeps its shape and fails fast.** If all leaves come to values, it comes to the tree with each leaf replaced by its
value, whenever they come. If a leaf fails and nothing in the tree is a crowd, it fails as the leaf that fails earliest, of
several the leftmost, even if others never come. With crowds, what it comes to is what was to come of it in turn. -/
theorem resolve_fails_fast (hordered : s.Ordered) (hparts : ∀ p ∈ r.awaited, p < s.items.size) :
    ((∀ p ∈ r.awaited, (s.known p).isSome) → ∃ v, r.Replaced s.known v ∧ (Shelf.resolve r s).1 = some (.ok v) ∧
      ∀ s' : Shelf, s'.Ordered → (∀ p ∈ r.awaited, p < s'.items.size ∧ s'.known p = s.known p) →
        (Shelf.resolve r s').1 = some (.ok v)) ∧
    (r.narrow = true → (∃ p ∈ r.awaited, ∃ t f, s.comes s.depth p = some (t, .error f)) →
      ∃ t f, FailsFirst (s.comes s.depth) r.awaited t f ∧ (Shelf.resolve r s).1 = some (.error f)) ∧
    (Shelf.resolve r s).1 = (r.progress.arrival s.clock (s.comes s.depth)).map Prod.snd := by
  refine ⟨fun hknown => ?_, fun hnarrow hfails => ?_, resolve_arrival hordered hparts⟩
  · obtain ⟨v, hv⟩ := Option.isSome_iff_exists.mp (Resolvable.value?_isSome r hknown)
    refine ⟨v, Resolvable.replaced_value? r hv, (resolve_ok_iff hordered hparts).mpr hv, fun s' hordered' hsame => ?_⟩
    rw [resolve_ok_iff hordered' fun p hp => (hsame p hp).1, ← hv]
    exact Resolvable.value?_congr r fun p hp => (hsame p hp).2
  · obtain ⟨t, f, hfirst, harrival⟩ := Resolvable.arrival_earliest s.clock hnarrow hfails
    refine ⟨t, f, hfirst, ?_⟩
    rw [resolve_arrival hordered hparts, harrival]
    rfl

/-- Two that fail, the second one sooner, and one that comes to a value later than both. -/
def rivals : Shelf :=
  ⟨0, #[.after 80 (.error ⟨.execution "slow", none⟩), .after 90 (.ok .null), .after 20 (.error ⟨.execution "fast", none⟩)]⟩

/-- Thirty-one elements: the slower failure, twenty-nine values, and the sooner failure. -/
def crowd : Resolvable Nat := .sequence (.pending 0 :: List.replicate 29 (.pending 1) ++ [.pending 2])

/-- A crowd tells of the failure whose turn comes, not of the one that is there first; a few elements tell of that one. -/
theorem crowd_tells_slow : FailsFirst (rivals.comes rivals.depth) crowd.awaited 20 ⟨.execution "fast", none⟩ ∧
    (Shelf.resolve crowd rivals).1 = some (.error ⟨.execution "slow", none⟩) ∧
    ∃ t f, FailsFirst (rivals.comes rivals.depth) [0, 1, 2] t f ∧
      (Shelf.resolve (.sequence [.pending 0, .pending 1, .pending 2]) rivals).1 = some (.error f) := by
  have hordered : rivals.Ordered := by
    rintro p q ⟨parts, asked, hitem, -⟩
    rcases p with - | - | - | p <;> cases hitem
  have hparts : ∀ p ∈ crowd.awaited, p < rivals.items.size := by decide
  have hlate : ∀ p ∈ 0 :: List.replicate 29 1, ∀ t g, rivals.comes rivals.depth p = some (t, .error g) → 20 < t := by
    intro p hp t g hc
    rcases List.mem_cons.mp hp with rfl | hp
    · cases hc
      decide
    · cases List.eq_of_mem_replicate hp
      cases hc
  refine ⟨⟨2, 0 :: List.replicate 29 1, [], rfl, rfl, hlate, fun _ hp => by cases hp⟩, ?_, ?_⟩
  · rw [(resolve_fails_fast hordered hparts).2.2]
    rfl
  · have hfew : ∀ p ∈ (Resolvable.sequence [.pending 0, .pending 1, .pending 2]).awaited, p < rivals.items.size := by decide
    exact (resolve_fails_fast hordered hfew).2.1 (by decide) ⟨2, by decide, 20, _, rfl⟩

end StageGraph.Shelf
