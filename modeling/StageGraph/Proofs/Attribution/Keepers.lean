import StageGraph.Proofs.Attribution.Lasting

/-! Who keeps whom.

A pipeline ends with its keepers: itself, and then, if a task started it for itself, the keepers of the pipeline of that
task (`Kept`). So whoever lives has keepers that all live, and a pipeline that is over is none of them. -/
namespace StageGraph

/-- Whether nothing that the function of a task does is still to come. -/
def Phase.quiet : Phase → Bool
  | .settling _ => true
  | .finished => true
  | _ => false

namespace Machine

variable {m m' : Machine}

/-- Keepers, all the way up. -/
structure Kept (m : Machine) : Prop where
  self {p : Nat} {i : Instance} : m.IsInstance p i → p ∈ i.keepers
  elder {p : Nat} {i : Instance} : m.IsInstance p i → ∀ q ∈ i.keepers, q ≤ p
  chain {p q : Nat} {i j : Instance} : m.IsInstance p i → q ∈ i.keepers → m.IsInstance q j → j.keepers ⊆ i.keepers
  lives {p : Nat} {i : Instance} : m.instances[p]? = some i → i.alive = true → ∀ q ∈ i.keepers, m.alive q = true
  /-- What a task started is kept by its pipeline. -/
  child {p k : Nat} {i : Instance} : m.IsInstance p i → i.starter = some k → ∃ t q parent, m.IsTask k t ∧
    t.pipeline = some q ∧ m.IsInstance q parent ∧ i.keepers = p :: parent.keepers

/-- Whoever lives ends with nobody who is over. -/
theorem Kept.not_ended (h : m.Kept) {p q : Nat} {i : Instance} (hi : m.IsInstance p i) (hlives : m.alive p = true)
    (hq : m.Ended q) : q ∉ i.keepers := by
  intro hmem
  obtain ⟨j, hj, hjlives⟩ := alive_iff.mp hlives
  have hkeepers : i.keepers = j.keepers := hi.keepers_eq (isInstance_of_get hj)
  have halive := h.lives hj hjlives q (hkeepers ▸ hmem)
  rw [not_alive_of_ended hq] at halive
  cases halive

theorem Kept.same (h : m.Kept) (htask : ∀ {k t}, m.IsTask k t → m'.IsTask k t) (hsame : SameInstances m m') :
    m'.Kept := by
  refine ⟨fun hi => h.self (hsame.isInstance.mp hi), fun hi => h.elder (hsame.isInstance.mp hi),
    fun hi hq hj => h.chain (hsame.isInstance.mp hi) hq (hsame.isInstance.mp hj), fun {p i} hi hlives q hq => ?_,
    fun {p k i} hi hstarter => ?_⟩
  · obtain ⟨j, hj, hkeepers, halive, -⟩ := hsame.get hi
    rw [hsame.alive]
    exact h.lives hj (halive.trans hlives) q (hkeepers ▸ hq)
  · obtain ⟨t, q, parent, ht, hq, hparent, hkeepers⟩ := h.child (hsame.isInstance.mp hi) hstarter
    exact ⟨t, q, parent, htask ht, hq, hsame.isInstance.mpr hparent, hkeepers⟩

/-- Who goes on when a pipeline ends has none among its keepers that does not. -/
theorem Kept.halted (h : m.Kept) (p : Nat) : (m.halted p).Kept := by
  have he := m.halted_extends p
  refine ⟨fun hi => h.self (halted_isInstance hi), fun hi => h.elder (halted_isInstance hi),
    fun hi hq hj => h.chain (halted_isInstance hi) hq (halted_isInstance hj), fun {q i} hi hlives r hr => ?_,
    fun {q k i} hi hstarter => ?_⟩
  · obtain ⟨j, hj, hjlives, hp⟩ := halted_alive.mp (alive_iff.mpr ⟨i, hi, hlives⟩)
    have hkeepers : i.keepers = j.keepers :=
      (halted_isInstance (isInstance_of_get hi)).keepers_eq (isInstance_of_get hj)
    rw [hkeepers] at hr
    obtain ⟨k, hk, hklives⟩ := alive_iff.mp (h.lives hj hjlives r hr)
    have hsubset := h.chain (isInstance_of_get hj) hr (isInstance_of_get hk)
    exact halted_alive.mpr ⟨k, hk, hklives, fun hmem => hp (hsubset hmem)⟩
  · obtain ⟨t, r, parent, ht, hr, hparent, hkeepers⟩ := h.child (halted_isInstance hi) hstarter
    exact ⟨t, r, parent, he.isTask ht, hr, he.isInstance hparent, hkeepers⟩

theorem endsWith_iff {p q : Nat} : m.endsWith p q = true ↔ ∃ i, m.instances[q]? = some i ∧ p ∈ i.keepers := by
  unfold endsWith
  cases hq : m.instances[q]? <;> simp

/-- Who is over when a pipeline has ended was over before, or ends with it. -/
theorem ended_of_halted {p q : Nat} (h : (m.halted p).Ended q) : m.Ended q ∨ m.endsWith p q = true := by
  obtain ⟨i, hi, hover⟩ := h
  rw [halted_getElem?] at hi
  obtain ⟨i₀, hi₀, rfl⟩ := Option.map_eq_some_iff.mp hi
  split at hover
  · next hp => exact .inr (endsWith_iff.mpr ⟨i₀, hi₀, List.contains_iff_mem.mp hp⟩)
  · exact .inl ⟨i₀, hi₀, hover⟩

/-- The tasks of a pipeline are over when it is. -/
theorem halted_quiet (h : ∀ {k p : Nat} {t : Task}, m.tasks[k]? = some t → t.pipeline = some p → m.Ended p →
    t.phase.quiet = true) {p k q : Nat} {t : Task} (ht : (m.halted p).tasks[k]? = some t) (hq : t.pipeline = some q)
    (hover : (m.halted p).Ended q) : t.phase.quiet = true := by
  rw [halted_tasks_getElem?] at ht
  obtain ⟨t₀, ht₀, rfl⟩ := Option.map_eq_some_iff.mp ht
  split
  · rfl
  · next hnot =>
    rw [if_neg hnot] at hq
    refine h ht₀ hq ((ended_of_halted hover).resolve_right fun hends => hnot ?_)
    rw [hq]
    exact hends

end Machine
end StageGraph
