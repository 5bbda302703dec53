import StageGraph.Proofs.Lifetime.Deeds
import StageGraph.Proofs.Scoping.Nesting

/-! Who minds whom.

A task that is not at work minds its children: one that lives is held by what the task still does with it,
and the task of a pipeline that is over does nothing any more (`Minds`). An output that has come about is that of a
pipeline that is over. That is how machines stand between turns (`Owned`); every deed in the turn of a task leaves it
so, but for the task itself (`Owned.deed`). -/
namespace StageGraph

/-- The output of a child is held: the function goes on and may use it, or the result awaits it. -/
def Phase.Holds (c : Nat) : Phase → Prop
  | .resting _ _ => True
  | .hanging => True
  | .settling result => c ∈ Machine.awaitedChildren result.awaited
  | _ => False

namespace Machine

variable {m m' : Machine} {who : Option Nat}

/-- A task minds its children in a phase. -/
structure Minds (m : Machine) (k : Nat) (t : Task) (phase : Phase) : Prop where
  quiet {p : Nat} : t.pipeline = some p → m.Ended p → phase.quiet = true
  holds {c : Nat} {i : Instance} : m.instances[c]? = some i → i.alive = true → i.starter = some k → phase.Holds c

/-- How pipelines and tasks own each other, but for a task that is at work. -/
structure Owned (busy : Option Nat) (m : Machine) : Prop where
  kept : m.Kept
  resolved {p : Nat} {o : Outcome} : m.standing (.output p) = some o → m.Ended p
  minds {k : Nat} {t : Task} : m.tasks[k]? = some t → busy ≠ some k → m.Minds k t t.phase

/-! ### Deeds in outline -/

/-- What a deed does to pipelines and tasks. -/
inductive Outline (who : Option Nat) (m m' : Machine) : Prop
  /-- Nothing that lasts. -/
  | same : m'.tasks = m.tasks → SameInstances m m' → Outline who m m'
  | ends (p : Nat) : m'.tasks = (m.halted p).tasks → SameInstances (m.halted p) m' → Outline who m m'
  | makes {p : Nat} {i : Instance} {starter : Option Nat} {spec : Spec} {v : Value} {stages : List (Stage × Function)} :
    m.instances[p]? = some i → i.alive = true → m.functionsOf spec = .ok stages →
      (∀ k, starter = some k → who = some k ∧ ∃ t, m.IsTask k t ∧ t.pipeline = some p) →
        m' = m.assembled spec (.under i starter v) stages → Outline who m m'

theorem Deed.outline (h : Deed who m m') : Outline who m m' := by
  cases h with
  | take ht =>
    obtain ⟨slots, room, rfl, -⟩ := ht.rest
    exact .same rfl fun _ => rfl
  | link => exact .same rfl (setOutput_lasting _ _)
  | @resolve p o =>
    have hsame : SameInstances m (m.setOutput p (.known o)) := setOutput_lasting _ _
    refine .ends p ?_ (hsame.halted p)
    unfold halted
    rw [hsame.endsWith]
    rfl
  | halt p => exact .ends p rfl fun _ => rfl
  | fill => exact .same rfl fun _ => rfl
  | make hi halive hstages hstarter => exact .makes hi halive hstages hstarter rfl
  | start p => exact .same (start_tasks p) (start_lasting p)

/-- The children of a task whose pipeline is over are over. -/
theorem Kept.childless (h : m.Kept) {k p : Nat} {t : Task} (ht : m.IsTask k t) (hp : t.pipeline = some p)
    (hover : m.Ended p) {c : Nat} {i : Instance} (hi : m.instances[c]? = some i) (hstarter : i.starter = some k) :
    i.alive = false := by
  obtain ⟨t', q, parent, ht', hq, hparent, hkeepers⟩ := h.child (isInstance_of_get hi) hstarter
  obtain ⟨phase, rfl⟩ := ht.eq ht'
  obtain rfl : p = q := Option.some.inj (hp.symm.trans hq)
  refine Bool.eq_false_iff.mpr fun halive => ?_
  have hplives : m.alive p = true := h.lives hi halive p (hkeepers ▸ List.mem_cons_of_mem _ (h.self hparent))
  rw [not_alive_of_ended hover] at hplives
  cases hplives

/-! ### Tasks -/

theorem Minds.same (hsame : SameInstances m m') {k : Nat} {t : Task} {phase : Phase} (h : m.Minds k t phase) :
    m'.Minds k t phase := by
  refine ⟨fun hp hover => h.quiet hp ((hsame.ended _).mp hover), fun hi halive hstarter => ?_⟩
  obtain ⟨j, hj, -, hjlives, hjstarter⟩ := hsame.get hi
  exact h.holds hj (hjlives.trans halive) (hjstarter.trans hstarter)

/-- A task that is over with its pipeline has no children left. -/
theorem Owned.minds_halted (h : Owned who m) (p : Nat) {k : Nat} {t : Task} (ht : (m.halted p).tasks[k]? = some t)
    (hk : who ≠ some k) : (m.halted p).Minds k t t.phase := by
  have hkept := h.kept.halted p
  have htask : (m.halted p).IsTask k t := isTask_of_get ht
  rw [halted_tasks_getElem?] at ht
  obtain ⟨t₀, ht₀, rfl⟩ := Option.map_eq_some_iff.mp ht
  split
  · next hover =>
    rw [if_pos hover] at htask
    obtain ⟨q, hq, hp⟩ : ∃ q, t₀.pipeline = some q ∧ m.endsWith p q = true := by
      cases hq : t₀.pipeline with
      | none => rw [hq] at hover; cases hover
      | some q => exact ⟨q, rfl, by rwa [hq] at hover⟩
    obtain ⟨i, hi, hmem⟩ := endsWith_iff.mp hp
    refine ⟨fun _ _ => rfl, fun {c j} hj halive hstarter => ?_⟩
    have hdead : j.alive = false := hkept.childless htask hq ⟨_, halted_over hi hmem, rfl⟩ hj hstarter
    rw [hdead] at halive
    cases halive
  · next hover =>
    have hold := h.minds ht₀ hk
    refine ⟨fun {q} hq hq' => ?_, fun {c j} hj halive hstarter => ?_⟩
    · refine hold.quiet hq ((ended_of_halted hq').resolve_right fun hend => hover ?_)
      rw [hq]
      exact hend
    · rw [halted_getElem?] at hj
      obtain ⟨j₀, hj₀, rfl⟩ := Option.map_eq_some_iff.mp hj
      split at halive
      · cases halive
      · next hnot =>
        rw [if_neg hnot] at hstarter
        exact hold.holds hj₀ halive hstarter

theorem standing_setOutput {p q : Nat} {output : Output} (hpq : p ≠ q) :
    (m.setOutput p output).standing (.output q) = m.standing (.output q) := by
  simp only [standing, setOutput_getElem?, if_neg hpq]

/-- An output comes about with the end of its pipeline. -/
theorem Deed.standing (h : Deed who m m') (hkept : m.Kept) {p : Nat} {o : Outcome}
    (ho : m'.standing (.output p) = some o) : m.standing (.output p) = some o ∨ m'.Ended p := by
  cases h with
  | take ht =>
    obtain ⟨slots, room, rfl, -⟩ := ht.rest
    exact .inl ho
  | @link q r =>
    by_cases hq : q = p
    · subst hq
      simp only [Machine.standing, setOutput_getElem?, if_true, Option.map_map] at ho
      cases hi : m.instances[q]? <;> simp [hi] at ho
    · rw [standing_setOutput hq] at ho
      exact .inl ho
  | @resolve q o' hnot =>
    by_cases hq : q = p
    · subst hq
      obtain ⟨i, hi⟩ : ∃ i, (m.setOutput q (.known o')).instances[q]? = some i := by
        cases hi : (m.setOutput q (.known o')).instances[q]? with
        | some i => exact ⟨i, rfl⟩
        | none => rw [halted_output] at ho; simp [Machine.standing, hi] at ho
      have hself := hkept.self ((setOutput_lasting q _).isInstance.mp (isInstance_of_get hi))
      exact .inr ⟨_, halted_over hi hself, rfl⟩
    · rw [halted_output, standing_setOutput hq] at ho
      exact .inl ho
  | halt q =>
    rw [halted_output] at ho
    exact .inl ho
  | fill => exact .inl ho
  | make =>
    simp only [Machine.standing, assembled_instances] at ho
    split at ho
    · next ho' =>
      split at ho'
      · cases ho'
      · left
        simp only [Machine.standing, ho']
        exact ho
    · cases ho
  | start q =>
    simp only [Machine.standing, start_output] at ho ⊢
    exact .inl ho

/-! ### Deeds -/

/-- New tasks have not begun, and nobody is their child. -/
theorem Owned.minds_made (h : Owned who m) {parent : Instance} {starter : Option Nat}
    (hstarter : ∀ k, starter = some k → who = some k) (spec : Spec) (v : Value) (stages : List (Stage × Function))
    {k : Nat} {t : Task} (ht : (m.assembled spec (.under parent starter v) stages).tasks[k]? = some t)
    (hk : who ≠ some k) : (m.assembled spec (.under parent starter v) stages).Minds k t t.phase := by
  have he := m.assembled_extends spec (.under parent starter v) stages
  have hended {q : Nat} (hq : (m.assembled spec (.under parent starter v) stages).Ended q) : m.Ended q := by
    obtain ⟨i, hi, hover⟩ := hq
    rw [assembled_instances] at hi
    split at hi
    · cases hi
      cases hover
    · exact ⟨i, hi, hover⟩
  have hchild {c : Nat} {i : Instance} (hi : (m.assembled spec (.under parent starter v) stages).instances[c]? = some i)
      (hik : i.starter = some k) : m.instances[c]? = some i := by
    rw [assembled_instances] at hi
    split at hi
    · cases hi
      exact absurd (hstarter k hik) hk
    · exact hi
  rcases assembled_tasks ht with hold | ⟨s, f, slot, -, hnew⟩
  · have hminds := h.minds hold hk
    exact ⟨fun hq hover => hminds.quiet hq (hended hover), fun hi halive hik => hminds.holds (hchild hi hik) halive hik⟩
  · have hpipeline : t.pipeline = some m.instances.size := by rw [hnew]; rfl
    refine ⟨fun {q} hq hover => ?_, fun {c i} hi halive hik => ?_⟩
    · obtain ⟨i, hi, -⟩ := hended hover
      obtain rfl := Option.some.inj (hpipeline.symm.trans hq)
      exact absurd (isInstance_of_get hi).lt (Nat.lt_irrefl _)
    · obtain ⟨t', q, parent', ht', hq, hparent', -⟩ := h.kept.child (isInstance_of_get (hchild hi hik)) hik
      obtain ⟨phase, rfl⟩ := (isTask_of_get ht).eq (he.isTask ht')
      obtain rfl := Option.some.inj (hpipeline.symm.trans hq)
      exact absurd hparent'.lt (Nat.lt_irrefl _)

/-- **Deeds in the turn of a task leave all others in order.** -/
theorem Owned.deed (h : Owned who m) (hdeed : Deed who m m') : Owned who m' := by
  have he := hdeed.extends'
  have hsameTask {m₁ : Machine} (htasks : m'.tasks = m₁.tasks) {k : Nat} {t : Task} (ht : m₁.IsTask k t) :
      m'.IsTask k t := by
    rw [isTask_iff, htasks, ← isTask_iff]
    exact ht
  have hkept : m'.Kept := by
    cases hdeed.outline with
    | same htasks hsame => exact h.kept.same (hsameTask htasks) hsame
    | ends p htasks hsame => exact (h.kept.halted p).same (hsameTask htasks) hsame
    | makes hp hlives _ hstarter heq =>
      subst heq
      exact h.kept.made hp hlives (fun k hk => (hstarter k hk).2) _ _ _
  refine ⟨hkept, fun ho => ?_, fun {k t} ht hk => ?_⟩
  · exact (hdeed.standing h.kept ho).elim (fun hold => he.ended (h.resolved hold)) id
  · cases hdeed.outline with
    | same htasks hsame =>
      rw [htasks] at ht
      exact (h.minds ht hk).same hsame
    | ends p htasks hsame =>
      rw [htasks] at ht
      exact (h.minds_halted p ht hk).same hsame
    | makes _ _ _ hstarter heq =>
      subst heq
      exact h.minds_made (fun k hk => (hstarter k hk).1) _ _ _ ht hk

/-- What is in slots and queues, and what was called, is nobody's. -/
theorem Owned.alike (h : Owned who m) (htasks : m'.tasks = m.tasks) (hinstances : m'.instances = m.instances) :
    Owned who m' := by
  have hsame : SameInstances m m' := fun q => by rw [hinstances]
  refine ⟨h.kept.same (fun {k t} ht => ?_) hsame, fun {p o} ho => ?_, fun {k t} ht hk => ?_⟩
  · rw [isTask_iff, htasks, ← isTask_iff]
    exact ht
  · simp only [standing, hinstances] at ho
    exact (hsame.ended p).mpr (h.resolved ho)
  · rw [htasks] at ht
    exact (h.minds ht hk).same hsame

theorem Owned.deeds (h : Owned who m) (hdeeds : Deeds who m m') : Owned who m' := hdeeds.keeps (fun hd ho => ho.deed hd) h

end Machine
end StageGraph
