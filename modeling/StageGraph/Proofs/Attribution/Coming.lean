import StageGraph.Proofs.Attribution.Steps
import StageGraph.Proofs.Machine.Documents

/-! New pipelines keep every failure accounted for.

A new instance has tasks that work for its stages, each with a slot of its own apart from those of the declared
inputs (`Sound.assembled`). Children that a task starts are instances of the spec that it starts them from; where one
cannot be started, it is unfit (`Sound.spawnAll`). -/
namespace StageGraph.Machine

variable {m : Machine}

/-! ### A new instance -/

theorem of_mem_numbered {α : Type} {first k : Nat} {a : α} {l : List α} (h : (a, k) ∈ numbered first l) :
    a ∈ l ∧ first ≤ k ∧ k < first + l.length := by
  obtain ⟨j, hj⟩ := List.mem_iff_getElem?.mp h
  rw [numbered_getElem?] at hj
  obtain ⟨a', ha', heq⟩ := Option.map_eq_some_iff.mp hj
  cases heq
  obtain ⟨hlt, -⟩ := List.getElem?_eq_some_iff.mp ha'
  exact ⟨List.mem_of_getElem? ha', Nat.le_add_right _ _, Nat.add_lt_add_left hlt _⟩

section

variable (spec : Spec) (place : Placement) (stages : List (Stage × Function))

/-- The task of a stage of a new instance. -/
def taskOf (m : Machine) (s : Stage) (f : Function) (slot : Nat) (phase : Phase) : Task where
  function := f
  node := s.node
  inputNode := s.inputNode
  pipeline := some m.instances.size
  slot := slot
  phase := phase

theorem assembled_slot (s : Nat) : (m.assembled spec place stages).slot s = m.slot s := by
  rw [slot_eq, slot_eq]
  unfold assembled
  simp only [Array.getElem?_append]
  split
  · rfl
  · next hle =>
    rw [Array.getElem?_eq_none (Nat.not_lt.mp hle), Array.getElem?_replicate]
    split <;> rfl

theorem assembled_size : (m.assembled spec place stages).slots.size =
    m.slots.size + (stages.length + (place.names spec).length) := by
  unfold assembled
  simp only [Array.size_append, Array.size_replicate]

theorem assembled_instances (p : Nat) : (m.assembled spec place stages).instances[p]? =
    if p = m.instances.size then some (m.instanceOf spec place stages) else m.instances[p]? :=
  Array.getElem?_push

theorem assembled_new : (m.assembled spec place stages).IsInstance m.instances.size (m.instanceOf spec place stages) :=
  isInstance_of_get (by rw [assembled_instances, if_pos rfl])

/-- What the input of a new instance awaits are the slots of the names that are bound. -/
theorem instanceOf_awaited {s : Nat} (h : s ∈ (m.instanceOf spec place stages).input.awaited) :
    ∃ name, (name, s) ∈ (m.instanceOf spec place stages).bindings := by
  unfold instanceOf at h
  simp only at h
  split at h
  · cases h
  · change s ∈ Resolvable.awaitedEntries _ at h
    rw [Resolvable.awaitedEntries_pending] at h
    obtain ⟨⟨name, s'⟩, hmem, rfl⟩ := List.mem_map.mp h
    exact ⟨name, hmem⟩

variable {spec place stages}

theorem assembled_tasks {k : Nat} {t : Task} (h : (m.assembled spec place stages).tasks[k]? = some t) :
    m.tasks[k]? = some t ∨ ∃ s f slot, ((s, f), slot) ∈ numbered m.slots.size stages ∧
      t = m.taskOf s f slot (.unstarted s.args s.positional) := by
  unfold assembled at h
  simp only [Array.getElem?_append] at h
  split at h
  · exact .inl h
  · right
    rw [List.getElem?_toArray] at h
    obtain ⟨⟨⟨s, f⟩, slot⟩, hmem, rfl⟩ := List.mem_map.mp (List.mem_of_getElem? h)
    exact ⟨s, f, slot, hmem, rfl⟩

theorem assembled_isTask {k : Nat} {t : Task} (h : (m.assembled spec place stages).IsTask k t) :
    m.IsTask k t ∨ ∃ s f slot phase, ((s, f), slot) ∈ numbered m.slots.size stages ∧ t = m.taskOf s f slot phase := by
  obtain ⟨phase, h⟩ := h
  rcases assembled_tasks h with hold | ⟨s, f, slot, hmem, heq⟩
  · exact .inl ⟨phase, hold⟩
  · refine .inr ⟨s, f, slot, t.phase, hmem, ?_⟩
    cases t
    cases heq
    rfl

/-- An instance after one more is made: an old one, or the new one. -/
theorem assembled_isInstance {p : Nat} {i : Instance} (h : (m.assembled spec place stages).IsInstance p i) :
    m.IsInstance p i ∨ p = m.instances.size ∧ ∃ jobs output alive,
      i = { m.instanceOf spec place stages with jobs := jobs, output := output, alive := alive } := by
  obtain ⟨jobs, output, alive, h⟩ := h
  rw [assembled_instances] at h
  split at h
  · next hp =>
    refine .inr ⟨hp, i.jobs, i.output, i.alive, ?_⟩
    rw [Option.some.inj h]
  · exact .inl ⟨jobs, output, alive, h⟩

theorem assembled_bound {s : Nat} (h : (m.assembled spec place stages).Bound s) :
    m.Bound s ∨ m.slots.size + stages.length ≤ s ∧ s < (m.assembled spec place stages).slots.size := by
  obtain ⟨p, i, name, hi, hname⟩ := h
  rcases assembled_isInstance hi with hold | ⟨-, _, _, _, rfl⟩
  · exact .inl ⟨p, i, name, hold, hname⟩
  · obtain ⟨-, hle, hlt⟩ := of_mem_numbered hname
    rw [assembled_size]
    exact .inr ⟨hle, by omega⟩

theorem assembled_worksFor (hstages : stages.map Prod.fst = spec.stages) {s : Stage} {f : Function} {slot : Nat}
    (hmem : ((s, f), slot) ∈ numbered m.slots.size stages) (phase : Phase) :
    (m.assembled spec place stages).WorksFor (m.taskOf s f slot phase) m.instances.size
      (m.instanceOf spec place stages) s := by
  refine ⟨rfl, assembled_new spec place stages, ?_, List.mem_map_of_mem hmem, rfl, rfl⟩
  show s ∈ spec.stages
  rw [← hstages]
  exact List.mem_map_of_mem (of_mem_numbered hmem).1

variable (m spec place stages)

theorem assembled_extends : m.Extends (m.assembled spec place stages) := by
  have hinstance {p : Nat} {i : Instance} (hi : m.instances[p]? = some i) :
      (m.assembled spec place stages).instances[p]? = some i := by
    obtain ⟨hlt, -⟩ := Array.getElem?_eq_some_iff.mp hi
    rw [assembled_instances, if_neg (Nat.ne_of_lt hlt), hi]
  refine ⟨fun {k t} ht => ?_, fun {p i} hi => ?_, fun {p} hp => ?_, fun {a o} ho => ?_, rfl⟩
  · obtain ⟨phase, ht⟩ := ht
    obtain ⟨hlt, -⟩ := Array.getElem?_eq_some_iff.mp ht
    refine ⟨phase, ?_⟩
    unfold assembled
    simp only [Array.getElem?_append_left hlt]
    exact ht
  · obtain ⟨jobs, output, alive, hi⟩ := hi
    exact ⟨jobs, output, alive, hinstance hi⟩
  · obtain ⟨i, hi, hover⟩ := hp
    exact ⟨i, hinstance hi, hover⟩
  · cases a with
    | slot s => exact (assembled_slot spec place stages s).trans ho
    | output p =>
      cases hi : m.instances[p]? with
      | none => simp [outcome?, standing, hi] at ho
      | some i =>
        simp only [outcome?, standing, hi] at ho
        simp only [outcome?, standing, hinstance hi]
        exact ho

end

/-! ### Who keeps it -/

theorem assembled_alive {spec : Spec} {place : Placement} {stages : List (Stage × Function)} {q : Nat}
    (h : m.alive q = true) : (m.assembled spec place stages).alive q = true := by
  obtain ⟨i, hi, halive⟩ := alive_iff.mp h
  obtain ⟨hlt, -⟩ := Array.getElem?_eq_some_iff.mp hi
  refine alive_iff.mpr ⟨i, ?_, halive⟩
  rw [assembled_instances, if_neg (Nat.ne_of_lt hlt)]
  exact hi

theorem assembled_ended {spec : Spec} {place : Placement} {stages : List (Stage × Function)} {q : Nat}
    (h : (m.assembled spec place stages).Ended q) : m.Ended q := by
  obtain ⟨i, hi, hover⟩ := h
  rw [assembled_instances] at hi
  split at hi
  · cases hi
    cases hover
  · exact ⟨i, hi, hover⟩

/-- An instance is kept by itself and by those that it is placed with, if they live and have all their keepers among
them; one that a task started is placed with the keepers of the pipeline of that task. -/
theorem Kept.assembled (h : m.Kept) {place : Placement} (hliving : ∀ q ∈ place.keepers, m.alive q = true)
    (hclosed : ∀ q ∈ place.keepers, ∀ j, m.IsInstance q j → j.keepers ⊆ place.keepers)
    (hstarter : ∀ k, place.starter = some k → ∃ t q parent, m.IsTask k t ∧ t.pipeline = some q ∧
      m.IsInstance q parent ∧ place.keepers = parent.keepers)
    (spec : Spec) (stages : List (Stage × Function)) : (m.assembled spec place stages).Kept := by
  have he := m.assembled_extends spec place stages
  have hthere {q : Nat} (hq : q ∈ place.keepers) : q < m.instances.size := by
    obtain ⟨j, hj, -⟩ := alive_iff.mp (hliving q hq)
    exact (Array.getElem?_eq_some_iff.mp hj).1
  refine ⟨fun {q i} hi => ?_, fun {q i} hi r hr => ?_, fun {q r i j} hi hr hj => ?_, fun {q i} hi hilives r hr => ?_,
    fun {q k i} hi hk => ?_⟩
  · rcases assembled_isInstance hi with hold | ⟨rfl, _, _, _, rfl⟩
    · exact h.self hold
    · exact List.mem_cons_self
  · rcases assembled_isInstance hi with hold | ⟨rfl, _, _, _, rfl⟩
    · exact h.elder hold r hr
    · rcases List.mem_cons.mp hr with rfl | hr
      · exact Nat.le_refl _
      · exact Nat.le_of_lt (hthere hr)
  · rcases assembled_isInstance hi with hold | ⟨rfl, _, _, _, rfl⟩
    · rcases assembled_isInstance hj with hjold | ⟨rfl, -⟩
      · exact h.chain hold hr hjold
      · exact absurd (h.elder hold _ hr) (Nat.not_le.mpr hold.lt)
    · rcases assembled_isInstance hj with hjold | ⟨-, _, _, _, rfl⟩
      · have hr' : r ∈ place.keepers := (List.mem_cons.mp hr).resolve_left (Nat.ne_of_lt hjold.lt)
        exact List.Subset.trans (hclosed r hr' j hjold) (List.subset_cons_self _ _)
      · exact List.Subset.refl _
  · rw [assembled_instances] at hi
    split at hi
    · cases hi
      rcases List.mem_cons.mp hr with rfl | hr
      · exact alive_iff.mpr ⟨_, (assembled_instances ..).trans (if_pos rfl), hilives⟩
      · exact assembled_alive (hliving r hr)
    · exact assembled_alive (h.lives hi hilives r hr)
  · rcases assembled_isInstance hi with hold | ⟨rfl, _, _, _, rfl⟩
    · obtain ⟨t, r, parent', ht, hr, hparent', hk'⟩ := h.child hold hk
      exact ⟨t, r, parent', he.isTask ht, hr, he.isInstance hparent', hk'⟩
    · obtain ⟨t, p, parent, ht, htp, hparent, hkeepers⟩ := hstarter k hk
      exact ⟨t, p, parent, he.isTask ht, htp, he.isInstance hparent, congrArg (m.instances.size :: ·) hkeepers⟩

/-- A child is kept by whoever keeps the pipeline of the task that starts it, or by itself alone. -/
theorem Kept.made (h : m.Kept) {p : Nat} {parent : Instance} (hp : m.instances[p]? = some parent)
    (hlives : parent.alive = true) {starter : Option Nat}
    (hstarter : ∀ k, starter = some k → ∃ t, m.IsTask k t ∧ t.pipeline = some p) (spec : Spec) (v : Value)
    (stages : List (Stage × Function)) : (m.assembled spec (.under parent starter v) stages).Kept := by
  have hparent := isInstance_of_get hp
  have hup {q : Nat} (hq : q ∈ (Placement.under parent starter v).keepers) :
      q ∈ parent.keepers ∧ (Placement.under parent starter v).keepers = parent.keepers := by
    cases starter with
    | none => cases hq
    | some k => exact ⟨hq, rfl⟩
  refine h.assembled (fun q hq => h.lives hp hlives q (hup hq).1) (fun q hq j hj => ?_) (fun k hk => ?_) spec stages
  · obtain ⟨hq', hkeepers⟩ := hup hq
    rw [hkeepers]
    exact h.chain hparent hq' hj
  · obtain ⟨t, ht, htp⟩ := hstarter k hk
    obtain rfl : starter = some k := hk
    exact ⟨t, p, parent, ht, htp, hparent, rfl⟩

/-- A root is kept by itself alone. -/
theorem Kept.built (h : m.Kept) (spec : Spec) (settings : Settings) (stages : List (Stage × Function)) :
    (m.assembled spec { settings } stages).Kept :=
  h.assembled (fun _ hq => by cases hq) (fun _ hq => by cases hq) (fun _ hk => by cases hk) spec stages

/-! ### What can be accounted for -/

/-- An instance is made of a spec, with a function for every stage. -/
theorem Sound.assembled (h : m.Sound) {spec : Spec} {place : Placement} {stages : List (Stage × Function)}
    (hstages : stages.map Prod.fst = spec.stages) (houter : ∀ q ∈ place.outer, q < m.instances.size)
    (hkept : (m.assembled spec place stages).Kept) : (m.assembled spec place stages).Sound := by
  have he := m.assembled_extends spec place stages
  have hgrown := assembled_size (m := m) spec place stages
  refine ⟨fun {k t} ht => ?_, fun {k t} ht => ?_, fun {k t} ht => ?_, fun {s} hs => ?_, fun {p i} hi s hs => ?_,
    fun {p i} hi q hq => ?_, fun {s f} hs => ?_, fun {p i} hi => ?_, hkept, fun {k p t} ht hp hover => ?_⟩
  · rcases assembled_tasks ht with hold | ⟨s, f, slot, hmem, rfl⟩
    · exact he.phaseSound (h.phases hold)
    · exact ⟨_, _, s, assembled_worksFor hstages hmem _, rfl, rfl⟩
  · rcases assembled_isTask ht with hold | ⟨s, f, slot, phase, hmem, rfl⟩
    · obtain ⟨p, i, s, hw⟩ := h.placed hold
      exact ⟨p, i, s, he.worksFor hw⟩
    · exact ⟨_, _, s, assembled_worksFor hstages hmem _⟩
  · -- slots of stages come before those of inputs
    rcases assembled_isTask ht with hold | ⟨s, f, slot, phase, hmem, rfl⟩
    · obtain ⟨hlt, hfree⟩ := h.apart hold
      refine ⟨by omega, fun hs => (assembled_bound hs).elim hfree fun hnew => ?_⟩
      exact Nat.not_lt.mpr hnew.1 (Nat.lt_add_right _ hlt)
    · obtain ⟨-, hle, hlt⟩ := of_mem_numbered hmem
      refine ⟨by show slot < _; omega, fun hs => (assembled_bound hs).elim (fun hold => ?_) fun hnew => ?_⟩
      · exact Nat.not_lt.mpr hle (h.bounded hold)
      · exact Nat.not_lt.mpr hnew.1 hlt
  · rcases assembled_bound hs with hold | hnew
    · exact Nat.lt_of_lt_of_le (h.bounded hold) (by omega)
    · exact hnew.2
  · rcases assembled_isInstance hi with hold | ⟨-, _, _, _, rfl⟩
    · exact h.inputs hold s hs
    · exact instanceOf_awaited spec place stages hs
  · have hmore : (m.assembled spec place stages).instances.size = m.instances.size + 1 := Array.size_push ..
    rw [hmore]
    rcases assembled_isInstance hi with hold | ⟨-, _, _, _, rfl⟩
    · exact Nat.lt_succ_of_lt (h.scopes hold q hq)
    · rcases List.mem_cons.mp hq with rfl | hq
      · exact Nat.lt_succ_self _
      · exact Nat.lt_succ_of_lt (houter q hq)
  · rw [assembled_slot] at hs
    refine (h.slots hs).imp he.forsaken fun hfailed => ⟨fun hb => ?_, he.due hfailed.2⟩
    refine (assembled_bound hb).elim hfailed.1 fun hnew => ?_
    rw [slot_eq] at hs
    obtain ⟨slot, hslot, -⟩ := Option.bind_eq_some_iff.mp hs
    obtain ⟨hlt, -⟩ := Array.getElem?_eq_some_iff.mp hslot
    exact Nat.not_lt.mpr hnew.1 (Nat.lt_add_right _ hlt)
  · rw [assembled_instances] at hi
    split at hi
    · cases hi
      exact trivial
    · exact he.outputSound (h.outputs hi)
  · have hover := assembled_ended hover
    rcases assembled_tasks ht with hold | ⟨s, f, slot, hmem, rfl⟩
    · exact h.quiet hold hp hover
    · cases hp
      obtain ⟨i, hi, -⟩ := hover
      exact absurd (Array.getElem?_eq_some_iff.mp hi).1 (Nat.lt_irrefl _)

/-- Of an instance that is started, only what is still to be started changes. -/
theorem start_getElem? (p q : Nat) : ∃ jobs : Instance → List Nat,
    (m.start p).instances[q]? = (m.instances[q]?).map fun i => { i with jobs := jobs i } := by
  have hsame : m.instances[q]? = (m.instances[q]?).map fun i => { i with jobs := i.jobs } := Option.map_id'.symm
  unfold Machine.start
  cases hp : m.instances[p]? with
  | none => exact ⟨Instance.jobs, hsame⟩
  | some i₀ =>
    simp only [Array.getElem?_modify]
    split
    · exact ⟨fun _ => [], rfl⟩
    · exact ⟨Instance.jobs, hsame⟩

theorem start_lasting (p q : Nat) :
    ((m.start p).instances[q]?).map Instance.lasting = (m.instances[q]?).map Instance.lasting := by
  obtain ⟨jobs, hq⟩ := m.start_getElem? p q
  rw [hq, Option.map_map]
  rfl

theorem start_output (p q : Nat) :
    ((m.start p).instances[q]?).map Instance.output = (m.instances[q]?).map Instance.output := by
  obtain ⟨jobs, hq⟩ := m.start_getElem? p q
  rw [hq, Option.map_map]
  rfl

theorem start_extends (p : Nat) : m.Extends (m.start p) := by
  refine ⟨fun {k t} ht => ?_, fun {q i} hi => ?_, fun {q} hq => ?_, fun {a o} ho => ?_, ?_⟩
  · rw [isTask_iff, start_tasks, ← isTask_iff]
    exact ht
  · rw [isInstance_iff, start_lasting, ← isInstance_iff]
    exact hi
  · obtain ⟨i, hi, hover⟩ := hq
    obtain ⟨jobs, hget⟩ := m.start_getElem? p q
    exact ⟨{ i with jobs := jobs i }, by rw [hget, hi]; rfl, hover⟩
  · cases a with
    | slot s => exact (start_slot p s).trans ho
    | output q =>
      simp only [outcome?, standing, start_output] at ho ⊢
      exact ho
  · unfold Machine.start
    split <;> rfl

/-- The tasks of an instance are given their turns. -/
theorem Sound.start (h : m.Sound) (p : Nat) : Onward m (m.start p) := by
  have hback {q : Nat} {i : Instance} (hi : (m.start p).instances[q]? = some i) :
      ∃ jobs, m.instances[q]? = some { i with jobs := jobs } := by
    obtain ⟨jobs, hget⟩ := m.start_getElem? p q
    rw [hget] at hi
    obtain ⟨i', hi', rfl⟩ := Option.map_eq_some_iff.mp hi
    exact ⟨i'.jobs, hi'⟩
  have hslots : (m.start p).slots = m.slots := by
    unfold Machine.start
    split <;> rfl
  refine h.onward (.getOn (m.start_extends p) (fun k => by rw [start_tasks]) (start_lasting p) (start_log p))
    (by rw [hslots]) (fun {k t} ht => ?_) (fun {q i} hi => ?_) (fun {k t} ht => ?_) (fun {s f} hs => ?_)
    (fun {q i} hi => ?_) (h.kept.same (m.start_extends p).isTask (m.start_lasting p)) (fun {k q t} ht hq hover => ?_)
  · rw [start_tasks] at ht
    exact isTask_of_get ht
  · obtain ⟨jobs, hi'⟩ := hback hi
    exact ⟨jobs, i.output, i.alive, hi'⟩
  · rw [start_tasks] at ht
    exact .inl ht
  · rw [start_slot] at hs
    exact .inl hs
  · obtain ⟨jobs, hi'⟩ := hback hi
    exact .inl ⟨_, hi', rfl, rfl⟩
  · rw [start_tasks] at ht
    exact h.quiet ht hq ((SameInstances.ended (m.start_lasting p) q).mp hover)

theorem start_alive (p q : Nat) : (m.start p).alive q = m.alive q := SameInstances.alive (m.start_lasting p) q

/-! ### Children -/

/-- A pipeline that is over starts no children. -/
theorem spawn_dropped {p : Nat} {i : Instance} (hi : m.instances[p]? = some i) (hover : i.alive = false)
    (starter : Option Nat) (spec : Spec) (v : Value) :
    m.spawn (some p) starter spec v = .error ⟨.pipelineDropped, none⟩ := by
  unfold Machine.spawn
  rw [Option.bind_some, hi]
  simp only [hover, Bool.false_eq_true, if_false]

/-- In a pipeline that lives a child is assembled, when its functions are all there, and started. -/
theorem spawn_alive {p : Nat} {i : Instance} (hi : m.instances[p]? = some i) (halive : i.alive = true)
    (starter : Option Nat) (spec : Spec) (v : Value) :
    m.spawn (some p) starter spec v = (m.functionsOf spec).map fun stages =>
      (m.instances.size, (m.assembled spec (.under i starter v) stages).start m.instances.size) := by
  unfold Machine.spawn assemble
  rw [Option.bind_some, hi]
  simp only [halive, if_true]
  cases m.functionsOf spec <;> rfl

theorem spawn_cases {m' : Machine} {p child : Nat} {starter : Option Nat} {spec : Spec} {v : Value}
    (h : m.spawn (some p) starter spec v = .ok (child, m')) : ∃ (i : Instance) (stages : List (Stage × Function)),
      m.instances[p]? = some i ∧ i.alive = true ∧ m.functionsOf spec = .ok stages ∧ child = m.instances.size ∧
        m' = (m.assembled spec (.under i starter v) stages).start child := by
  cases hi : m.instances[p]? with
  | none =>
    unfold Machine.spawn at h
    rw [Option.bind_some, hi] at h
    cases h
  | some i =>
    cases halive : i.alive with
    | false => cases (spawn_dropped hi halive starter spec v).symm.trans h
    | true =>
      rw [spawn_alive hi halive] at h
      cases hstages : m.functionsOf spec with
      | error f =>
        rw [hstages] at h
        cases h
      | ok stages =>
        rw [hstages] at h
        cases h
        exact ⟨i, stages, rfl, halive, rfl, rfl, rfl⟩

/-- A child is an instance of the spec that it is started from; one that cannot be started is unfit. -/
theorem Sound.spawn (h : m.Sound) {k p : Nat} {t : Task} {kept : Bool} {spec : Spec} {inputs : List Value}
    {next : List Promise → Reply} (ht : m.IsTask k t) (hr : m.Replied k t (.start kept spec inputs next))
    (hp : t.pipeline = some p) (hlives : m.alive p = true) (input : Value) :
    match m.spawn t.pipeline (if kept then none else some k) spec input with
    | .error f => m.Unfit spec f
    | .ok (child, m') => Onward m m' ∧ m'.alive p = true ∧
        m'.Children (if kept then none else some k) spec [child] := by
  obtain ⟨parent, hi, halive⟩ := alive_iff.mp hlives
  rw [hp, spawn_alive hi halive]
  cases hstages : m.functionsOf spec with
  | error f =>
    obtain ⟨s', hs', hnone, rfl⟩ := functionsOf_error hstages
    exact .unknown hs' hnone
  | ok stages =>
    have hstarter (k' : Nat) (hk : (if kept then none else some k) = some k') :
        ∃ t, m.IsTask k' t ∧ t.pipeline = some p := ⟨t, eq_of_starter hk ▸ ht, hp⟩
    have hkept := h.kept.made hi halive hstarter spec input stages
    have hsound := h.assembled (functionsOf_eq hstages).1 (h.scopes (isInstance_of_get hi)) hkept
    have he := m.assembled_extends spec (.under parent (if kept then none else some k) input) stages
    have hassembled : Onward m (m.assembled spec (.under parent (if kept then none else some k) input) stages) :=
      ⟨hsound, he, .single (.spawn ht hr hp hi halive hstages he)⟩
    have hstarted := hassembled.sound.start m.instances.size
    refine ⟨hassembled.trans hstarted, (start_alive ..).trans (assembled_alive hlives), fun c hc => ?_⟩
    rw [List.mem_singleton.mp hc]
    exact ⟨_, hstarted.extends'.isInstance (assembled_new spec _ stages), rfl, rfl⟩

/-- Children for several inputs. -/
theorem Sound.spawnAll {k p : Nat} {t : Task} {kept : Bool} {spec : Spec} {all : List Value}
    {next : List Promise → Reply} (hp : t.pipeline = some p) (inputs : List Value) : ∀ {m : Machine}, m.Sound →
      m.IsTask k t → m.Replied k t (.start kept spec all next) → m.alive p = true →
        Onward m (m.spawnAll t.pipeline (if kept then none else some k) spec inputs).2 ∧
        (m.spawnAll t.pipeline (if kept then none else some k) spec inputs).2.alive p = true ∧
        match (m.spawnAll t.pipeline (if kept then none else some k) spec inputs).1 with
        | .error f => (m.spawnAll t.pipeline (if kept then none else some k) spec inputs).2.Unfit spec f
        | .ok children => (m.spawnAll t.pipeline (if kept then none else some k) spec inputs).2.Children
            (if kept then none else some k) spec children := by
  induction inputs with
  | nil => exact fun h _ _ halive => ⟨Onward.refl h, halive, nofun⟩
  | cons v rest ih =>
    intro m h ht hr halive
    have hspawn := h.spawn ht hr hp halive v
    unfold Machine.spawnAll
    cases hv : m.spawn t.pipeline (if kept then none else some k) spec v with
    | error f =>
      rw [hv] at hspawn
      exact ⟨Onward.refl h, halive, hspawn⟩
    | ok made =>
      obtain ⟨child, m'⟩ := made
      rw [hv] at hspawn
      obtain ⟨hfirst, halive', hchild⟩ := hspawn
      obtain ⟨hmore, hlives, hall⟩ := ih hfirst.sound (hfirst.extends'.isTask ht) (hfirst.extends'.replied hr) halive'
      simp only
      generalize m'.spawnAll t.pipeline (if kept then none else some k) spec rest = made at hmore hlives hall ⊢
      obtain ⟨more, m''⟩ := made
      refine ⟨hfirst.trans hmore, hlives, ?_⟩
      cases more with
      | error f => exact hall
      | ok children =>
        intro c hc
        rcases List.mem_cons.mp hc with rfl | hc
        · exact hmore.extends'.children hchild c (List.mem_singleton_self c)
        · exact hall c hc

end StageGraph.Machine
