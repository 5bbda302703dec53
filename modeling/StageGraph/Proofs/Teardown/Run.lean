import StageGraph.Proofs.Attribution.Inside
import StageGraph.Proofs.Teardown.Turning

/-! Faults of the end of a pipeline stay inside.

A pipeline that was built has nothing in it that is spoiled, and binding its inputs and starting it spoils nothing
either. While its run waits for the output, the output can be read: the pipeline lives until its output has come about.
So looks and turns spoil nothing (`Undisturbed.looked`, `Undisturbed.advance`), whichever of the ready tasks comes next,
and what the run fails with in the end is genuine. The main theorem is `teardown_never_surfaces`. -/
namespace StageGraph.Machine

variable {m m' : Machine} {who : Option Nat} {root : Nat} {registry : Registry} {document : Value} {settings : Settings}

/-- How things stand in the run of a pipeline, where all functions are honest. -/
structure Undisturbed (root : Nat) (m : Machine) : Prop where
  orderly : m.Orderly root
  posted : m.Posted none
  honest : m.registry.Honest
  unspoiled : m.Unspoiled none
  /-- No task started the pipeline, and nobody is around it. -/
  own : ∃ i, m.IsInstance root i ∧ i.starter = none ∧ i.scope = [root]

theorem Undisturbed.step (h : m.Undisturbed root) (hstep : Step root m m') (hunspoiled : m'.Unspoiled none) :
    m'.Undisturbed root := by
  have hsound := h.orderly.lexical.sound
  have he := hstep.extends' hsound h.orderly.owned
  obtain ⟨i, hi, howned⟩ := h.own
  refine ⟨⟨hstep.scoped h.orderly.lexical, hstep.owned hsound h.orderly.owned⟩,
    hstep.posted hsound h.orderly.owned h.posted, ?_, hunspoiled, i, he.isInstance hi, howned⟩
  rw [he.registry]
  exact h.honest

/-- The output that a run waits for can be read. -/
theorem Undisturbed.readable (h : m.Undisturbed root) : m.Readable root := by
  obtain ⟨i, hi, hstarter, -⟩ := h.own
  exact h.unspoiled.free hi hstarter

/-- The pipeline that runs is sheltered. -/
theorem Undisturbed.sheltered (h : m.Undisturbed root) : m.Sheltered root := by
  obtain ⟨i, hi, -, hscope⟩ := h.own
  intro i' hi' q hq hne
  rw [hi'.scope_eq hi, hscope] at hq
  exact absurd (List.mem_singleton.mp hq) hne

/-! ### While the output is waited for -/

/-- Who waits in which queue does not matter. -/
theorem Unspoiled.wake (h : m.Unspoiled who) : m.wake.Unspoiled who := by
  rw [wake_eq]
  exact h.same (fun _ => rfl) rfl rfl rfl rfl

theorem Undisturbed.looked (h : m.Undisturbed root) : (m.looked (.output root)).Undisturbed root := by
  have hfresh : m.refreshed.Unspoiled none := h.unspoiled.same (fun _ => rfl) rfl rfl rfl rfl
  exact h.step (.look _) (hfresh.readOutput (k := 0) h.readable).1.wake

/-- Whichever task has its turn. -/
theorem Undisturbed.advance (choose : Choice) (h : m.Undisturbed root) : (m.advance choose).Undisturbed root := by
  refine h.step (.turn choose) ?_
  by_cases hready : m.ready = []
  · rw [advance_idle hready]
    exact h.unspoiled
  · obtain ⟨k, rest, -, heq⟩ := advance_ready hready choose
    have htakes : Unspoiled none { m with ready := rest } := h.unspoiled.same (fun _ => rfl) rfl rfl rfl rfl
    rw [heq]
    exact (htakes.turn (h.orderly.owned.alike rfl rfl) (h.posted.still ⟨rfl, rfl, rfl, rfl, rfl⟩) h.honest k).wake

theorem Undisturbed.pass (moment : Nat) (h : m.Undisturbed root) : Undisturbed root { m with clock := moment } :=
  h.step (.pass moment) (h.unspoiled.same (fun _ => rfl) rfl rfl rfl rfl)

/-! ### From the start -/

theorem Unspoiled.bindInputs (h : m.Unspoiled who) (i : Instance) (values : List Value) :
    (m.bindInputs i values).Unspoiled who := by
  unfold Machine.bindInputs
  generalize (i.bindings.map Prod.snd).zip values = bound
  induction bound generalizing m with
  | nil => exact h
  | cons entry rest ih => exact ih (h.fill fun _ _ _ => .ok entry.2)

/-- What a run fails with is genuine. -/
theorem Undisturbed.run (h : m.Undisturbed root) (choose : Choice) (fuel : Nat) (supplied : List (String × Value))
    {f : Fault} (hf : (m.run choose fuel root supplied).1 = some (.error f)) : f.Genuine := by
  obtain ⟨i, hi⟩ : ∃ i, m.instances[root]? = some i := by
    obtain ⟨i, ⟨_, _, _, hi⟩, -⟩ := h.own
    exact ⟨_, hi⟩
  unfold Machine.run at hf
  rw [hi] at hf
  simp only at hf
  cases hinputs : matchInputs i.spec supplied with
  | error f' =>
    rw [hinputs] at hf
    cases hf
    exact matchInputs_genuine i.spec supplied f hinputs
  | ok values =>
    rw [hinputs] at hf
    simp only at hf
    have hbound := h.step (.bind i values) (h.unspoiled.bindInputs i values)
    have hstarted := hbound.step .start (hbound.unspoiled.start root)
    have hdriven := drive_keeps (fun h => h.looked) (fun h => h.advance choose) (fun moment h => h.pass moment)
      (some (m.clock + i.settings.patience)) fuel hstarted
    have hends := (Sound.drive choose (.output root) (some (m.clock + i.settings.patience)) fuel
      hstarted.orderly.lexical.sound).2
    generalize Machine.drive choose (.output root) (some (m.clock + i.settings.patience)) fuel
      ((m.bindInputs i values).start root) = driven at hdriven hends hf
    obtain ⟨verdict, m'⟩ := driven
    rcases verdict with - | (o | - | -)
    · cases hf
    · cases hf
      exact hdriven.unspoiled.output (hends _ rfl) f rfl hdriven.sheltered
    · cases hf
      rfl
    · cases hf

end StageGraph.Machine
