import StageGraph.Proofs.Attribution.Moves
import StageGraph.Proofs.Machine.Frame

/-! What lasts from step to step.

The small steps of a machine go on from where they are (`Extends`): tasks and instances stay what they are, what has come
about stays, and what is over stays over. Where nothing that lasts of the instances is different (`SameInstances`), the
same ones live. -/
namespace StageGraph.Machine

variable {m m' : Machine}

/-! ### Tasks and instances after a step -/

theorem isTask_of_get {k : Nat} {t : Task} (h : m.tasks[k]? = some t) : m.IsTask k t := ⟨t.phase, h⟩

theorem isInstance_of_get {p : Nat} {i : Instance} (h : m.instances[p]? = some i) : m.IsInstance p i :=
  ⟨i.jobs, i.output, i.alive, h⟩

/-- Nothing that matters for where faults arise is different. -/
theorem extends_same (hslot : ∀ s, m'.slot s = m.slot s) (htasks : m'.tasks = m.tasks)
    (hinstances : m'.instances = m.instances) (hregistry : m'.registry = m.registry) : m.Extends m' := by
  refine ⟨fun ht => ?_, fun hi => ?_, fun hp => ?_, fun {a o} ho => ?_, hregistry⟩
  · unfold IsTask at ht ⊢
    rw [htasks]
    exact ht
  · unfold IsInstance at hi ⊢
    rw [hinstances]
    exact hi
  · unfold Ended at hp ⊢
    rw [hinstances]
    exact hp
  · cases a with
    | slot s => exact (hslot s).trans ho
    | output p =>
      unfold outcome? standing at ho ⊢
      rw [hinstances]
      exact ho

theorem fill_extends (s : Nat) (o : Outcome) : m.Extends (m.fill s o) := by
  refine ⟨id, id, id, fun {a o'} ho' => ?_, rfl⟩
  cases a with
  | slot s' => exact fill_slot_of_some ho'
  | output p => exact ho'

theorem setPhase_extends (k : Nat) (phase : Phase) : m.Extends (m.setPhase k phase) := by
  refine ⟨fun {j t} ht => ?_, id, id, fun {a o} ho => ?_, rfl⟩
  · obtain ⟨phase', ht⟩ := ht
    unfold IsTask
    rw [setPhase_getElem?, ht]
    split
    · exact ⟨phase, rfl⟩
    · exact ⟨phase', rfl⟩
  · cases a <;> exact ho

theorem park_extends (k : Nat) (phase : Phase) : m.Extends (m.park k phase) :=
  (m.setPhase_extends k phase).trans (extends_same (fun _ => rfl) rfl rfl rfl)

theorem setOutput_getElem? (p : Nat) (output : Output) (q : Nat) :
    (m.setOutput p output).instances[q]? =
      if p = q then (m.instances[q]?).map fun i => { i with output := output } else m.instances[q]? := by
  unfold setOutput
  simp only [Array.getElem?_modify]

/-- An output that is not known has not come about. -/
theorem standing_unknown {p : Nat} {i : Instance} (hi : m.instances[p]? = some i)
    (hunknown : ∀ o, i.output ≠ .known o) : m.standing (.output p) = none := by
  simp only [standing, hi, Option.map_some]
  split
  · next o ho => exact absurd (Option.some.inj ho) (hunknown o)
  · rfl

theorem setOutput_extends {p : Nat} (output : Output) (hnot : m.standing (.output p) = none) :
    m.Extends (m.setOutput p output) := by
  refine ⟨id, fun {q i} hi => ?_, fun {q} hq => ?_, fun {a o} ho => ?_, rfl⟩
  · obtain ⟨jobs, output', alive, hi⟩ := hi
    unfold IsInstance
    rw [setOutput_getElem?, hi]
    split
    · exact ⟨jobs, output, alive, rfl⟩
    · exact ⟨jobs, output', alive, rfl⟩
  · obtain ⟨i, hi, hover⟩ := hq
    unfold Ended
    rw [setOutput_getElem?, hi]
    split
    · exact ⟨_, rfl, hover⟩
    · exact ⟨_, rfl, hover⟩
  · cases a with
    | slot s => exact ho
    | output q =>
      change m.standing (.output q) = some o at ho
      have hq : p ≠ q := by
        intro hpq
        rw [← hpq, hnot] at ho
        cases ho
      show (m.setOutput p output).standing (.output q) = some o
      simp only [standing, setOutput_getElem?, if_neg hq] at ho ⊢
      exact ho

/-! ### What stays the same -/

theorem IsTask.eq {k : Nat} {t t' : Task} (h : m.IsTask k t) (h' : m.IsTask k t') :
    ∃ phase, t' = { t with phase := phase } := by
  obtain ⟨phase, h⟩ := h
  obtain ⟨phase', h'⟩ := h'
  rw [h] at h'
  refine ⟨t'.phase, ?_⟩
  cases t
  cases t'
  cases h'
  rfl

theorem IsInstance.eq {p : Nat} {i i' : Instance} (h : m.IsInstance p i) (h' : m.IsInstance p i') :
    ∃ jobs output alive, i' = { i with jobs := jobs, output := output, alive := alive } := by
  obtain ⟨_, _, _, h⟩ := h
  obtain ⟨_, _, _, h'⟩ := h'
  rw [h] at h'
  refine ⟨i'.jobs, i'.output, i'.alive, ?_⟩
  cases i
  cases i'
  cases h'
  rfl

theorem IsInstance.lt {p : Nat} {i : Instance} (h : m.IsInstance p i) : p < m.instances.size := by
  obtain ⟨_, _, _, h⟩ := h
  exact (Array.getElem?_eq_some_iff.mp h).1

/-! ### The end of pipelines -/

theorem halted_tasks {p k : Nat} {t : Task} (h : (m.halted p).tasks[k]? = some t) :
    m.IsTask k t ∧ (m.tasks[k]? = some t ∨ t.phase = .finished) := by
  unfold halted at h
  simp only [Array.getElem?_map] at h
  obtain ⟨t', ht', rfl⟩ := Option.map_eq_some_iff.mp h
  split
  · exact ⟨⟨t'.phase, ht'⟩, .inr rfl⟩
  · exact ⟨isTask_of_get ht', .inl ht'⟩

theorem halted_instances {p q : Nat} {i : Instance} (h : (m.halted p).instances[q]? = some i) :
    ∃ i', m.instances[q]? = some i' ∧ ∃ jobs alive, i' = { i with jobs := jobs, alive := alive } := by
  unfold halted at h
  simp only [Array.getElem?_map] at h
  obtain ⟨i', hi', rfl⟩ := Option.map_eq_some_iff.mp h
  refine ⟨i', hi', i'.jobs, i'.alive, ?_⟩
  split <;> rfl

theorem halted_isInstance {p q : Nat} {i : Instance} (h : (m.halted p).IsInstance q i) : m.IsInstance q i := by
  obtain ⟨jobs, output, alive, hi⟩ := h
  obtain ⟨i', hi', jobs', alive', rfl⟩ := halted_instances hi
  exact ⟨jobs', output, alive', hi'⟩

theorem halted_output (p q : Nat) : (m.halted p).standing (.output q) = m.standing (.output q) := by
  simp only [standing, halted_outputs]

theorem halted_extends (p : Nat) : m.Extends (m.halted p) := by
  refine ⟨fun {k t} ht => ?_, fun {q i} hi => ?_, fun {q} hq => ?_, fun {a o} ho => ?_, rfl⟩
  · obtain ⟨phase, ht⟩ := ht
    unfold IsTask Machine.halted
    simp only [Array.getElem?_map, ht, Option.map_some]
    split
    · exact ⟨.finished, rfl⟩
    · exact ⟨phase, rfl⟩
  · obtain ⟨jobs, output, alive, hi⟩ := hi
    unfold IsInstance Machine.halted
    simp only [Array.getElem?_map, hi, Option.map_some]
    split
    · exact ⟨[], output, false, rfl⟩
    · exact ⟨jobs, output, alive, rfl⟩
  · obtain ⟨i, hi, hover⟩ := hq
    unfold Ended Machine.halted
    simp only [Array.getElem?_map, hi, Option.map_some]
    split
    · exact ⟨_, rfl, rfl⟩
    · exact ⟨i, rfl, hover⟩
  · cases a with
    | slot s => exact ho
    | output q =>
      change m.standing (.output q) = some o at ho
      show (m.halted p).standing (.output q) = some o
      rw [halted_output, ho]

theorem halted_tasks_getElem? (p k : Nat) : (m.halted p).tasks[k]? = (m.tasks[k]?).map fun t =>
    if t.pipeline.any (m.endsWith p) then { t with phase := .finished } else t := by
  unfold halted
  simp only [Array.getElem?_map]

theorem abandoned_ofEnd {i : Instance} {s : Nat} {cause : Cause} (h : (s, cause) ∈ i.abandoned) :
    cause.ofEnd = true := by
  rcases List.mem_append.mp h with h | h
  · obtain ⟨entry, -, heq⟩ := List.mem_map.mp h
    cases heq
    rfl
  · obtain ⟨entry, -, heq⟩ := List.mem_map.mp h
    cases heq
    rfl

/-- Whoever ends with a pipeline is over when it ends. -/
theorem halted_over {p q : Nat} {i : Instance} (hi : m.instances[q]? = some i) (hp : p ∈ i.keepers) :
    (m.halted p).instances[q]? = some { i with alive := false, jobs := [] } := by
  unfold halted
  simp only [Array.getElem?_map, hi, Option.map_some, if_pos (List.contains_iff_mem.mpr hp)]

/-- The slots that are given up when a pipeline ends are those of pipelines that are over by then. -/
theorem mem_abandoned_of_halted {p : Nat} {e : Nat × Cause}
    (h : e ∈ (m.instances.toList.filter fun i => i.keepers.contains p).flatMap Instance.abandoned) :
    ∃ (q : Nat) (i : Instance), (m.halted p).instances[q]? = some i ∧ i.alive = false ∧ e ∈ i.abandoned := by
  obtain ⟨i, hi, hmem⟩ := List.mem_flatMap.mp h
  obtain ⟨hi, hp⟩ := List.mem_filter.mp hi
  obtain ⟨q, hq⟩ := List.mem_iff_getElem?.mp hi
  rw [Array.getElem?_toList] at hq
  exact ⟨q, _, halted_over hq (List.contains_iff_mem.mp hp), rfl, hmem⟩

/-! ### Who lives -/

theorem alive_eq (p : Nat) : m.alive p = ((m.instances[p]?).map Instance.lasting).any Instance.alive := by
  unfold alive
  cases m.instances[p]? <;> rfl

theorem alive_iff {p : Nat} : m.alive p = true ↔ ∃ i, m.instances[p]? = some i ∧ i.alive = true := by
  unfold alive
  cases hp : m.instances[p]? <;> simp

/-- Whoever lives on after a pipeline has ended does not end with it. -/
theorem halted_alive {p q : Nat} : (m.halted p).alive q = true ↔
    ∃ i, m.instances[q]? = some i ∧ i.alive = true ∧ p ∉ i.keepers := by
  rw [alive_iff]
  unfold halted
  simp only [Array.getElem?_map, Option.map_eq_some_iff]
  constructor
  · rintro ⟨i, ⟨i', hi', rfl⟩, halive⟩
    split at halive
    · cases halive
    · next hp => exact ⟨i', hi', halive, fun hmem => hp (List.contains_iff_mem.mpr hmem)⟩
  · rintro ⟨i, hi, halive, hp⟩
    refine ⟨i, ⟨i, hi, if_neg fun hcontains => hp (List.contains_iff_mem.mp hcontains)⟩, halive⟩

theorem not_alive_of_ended {p : Nat} (h : m.Ended p) : m.alive p = false := by
  obtain ⟨i, hi, hover⟩ := h
  unfold alive
  rw [hi]
  exact hover

theorem IsInstance.keepers_eq {p : Nat} {i j : Instance} (h : m.IsInstance p i) (h' : m.IsInstance p j) :
    i.keepers = j.keepers := by
  obtain ⟨_, _, _, rfl⟩ := h.eq h'
  rfl

/-- Nothing that lasts is different of an instance. -/
def SameInstances (m m' : Machine) : Prop :=
  ∀ q : Nat, (m'.instances[q]?).map Instance.lasting = (m.instances[q]?).map Instance.lasting

theorem setOutput_lasting (p : Nat) (output : Output) : SameInstances m (m.setOutput p output) := by
  intro q
  rw [setOutput_getElem?]
  split
  · rw [Option.map_map]
    rfl
  · rfl

theorem halted_getElem? (p q : Nat) : (m.halted p).instances[q]? = (m.instances[q]?).map fun i =>
    if i.keepers.contains p then { i with alive := false, jobs := [] } else i := by
  unfold halted
  simp only [Array.getElem?_map]

theorem SameInstances.halted (h : SameInstances m m') (p : Nat) : SameInstances (m.halted p) (m'.halted p) := by
  intro q
  have hq := h q
  rw [halted_getElem?, halted_getElem?]
  cases hi : m.instances[q]? with
  | none =>
    rw [hi] at hq
    rw [Option.map_eq_none_iff.mp hq]
  | some i =>
    rw [hi] at hq
    obtain ⟨i', hi', hlasting⟩ := Option.map_eq_some_iff.mp hq
    rw [hi']
    cases i
    cases i'
    cases hlasting
    simp only [Option.map_some]
    split <;> rfl

theorem SameInstances.endsWith (h : SameInstances m m') (p : Nat) : m'.endsWith p = m.endsWith p := by
  have hany (m : Machine) (q : Nat) : m.endsWith p q =
      ((m.instances[q]?).map Instance.lasting).any fun i => i.keepers.contains p := by
    unfold Machine.endsWith
    cases m.instances[q]? <;> rfl
  funext q
  rw [hany, hany, h q]

theorem SameInstances.isInstance (h : SameInstances m m') {p : Nat} {i : Instance} :
    m'.IsInstance p i ↔ m.IsInstance p i := by
  rw [isInstance_iff, isInstance_iff, h p]

theorem SameInstances.alive (h : SameInstances m m') (p : Nat) : m'.alive p = m.alive p := by
  rw [alive_eq, alive_eq, h p]

theorem SameInstances.ended (h : SameInstances m m') (p : Nat) : m'.Ended p ↔ m.Ended p := by
  have hended (m : Machine) : m.Ended p ↔ ∃ i, (m.instances[p]?).map Instance.lasting = some i ∧ i.alive = false := by
    constructor
    · rintro ⟨i, hi, hover⟩
      exact ⟨i.lasting, by rw [hi]; rfl, hover⟩
    · rintro ⟨_, hlasting, hover⟩
      obtain ⟨i, hi, rfl⟩ := Option.map_eq_some_iff.mp hlasting
      exact ⟨i, hi, hover⟩
  rw [hended, hended, h p]

theorem SameInstances.get (h : SameInstances m m') {p : Nat} {i : Instance} (hi : m'.instances[p]? = some i) :
    ∃ j, m.instances[p]? = some j ∧ j.keepers = i.keepers ∧ j.alive = i.alive ∧ j.starter = i.starter := by
  have hp := h p
  rw [hi] at hp
  obtain ⟨j, hj, hlasting⟩ := Option.map_eq_some_iff.mp hp.symm
  cases i
  cases j
  cases hlasting
  exact ⟨_, hj, rfl, rfl, rfl⟩

end StageGraph.Machine
