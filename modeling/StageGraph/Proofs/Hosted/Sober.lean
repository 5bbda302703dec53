import StageGraph.Proofs.Calls.Staff
import StageGraph.Proofs.Dataflow.Run
import StageGraph.Proofs.Machine.Strides

/-! Machines of pure functions.

In a machine whose functions are pure no task starts a pipeline, whoever lives in it: no instance has a task that
started it, tasks wait for results and for the clock alone, and each is in a queue once at most, in that of the ready
ones only with cause (`Sober`). A pipeline that is built makes such a machine, and whatever is done with it leaves it
so (`Strides.sober`), since every turn does what its task is about and nothing else (`Sober.went`). -/
namespace StageGraph

/-- A task is still to have its first turn, or it will have none. -/
def Phase.Dormant : Phase → Prop
  | .unstarted _ _ => True
  | .finished => True
  | _ => False

namespace Machine

variable {m m' : Machine} {k : Nat} {t : Task}

/-- The tasks that are still to be started. -/
def jobs (m : Machine) : List Nat := m.instances.toList.flatMap Instance.jobs

/-- All tasks that have a turn before them, or may have one. -/
def line (m : Machine) : List Nat := m.ready ++ m.blocked ++ m.jobs

/-- Nobody starts a pipeline, and everybody who is in a queue is there once. -/
structure Sober (m : Machine) : Prop where
  registry : m.registry.Pure
  alone {i : Instance} : i ∈ m.instances → i.starter = none
  tasks {k : Nat} {t : Task} : m.tasks[k]? = some t → t.function.Pure ∧ t.phase.Sober
  within {k : Nat} {t : Task} : m.tasks[k]? = some t → t.slot < m.slots.size
  slots {k k' : Nat} {t t' : Task} : m.tasks[k]? = some t → m.tasks[k']? = some t' → t.slot = t'.slot → k = k'
  queue : m.line.Nodup
  there {k : Nat} : k ∈ m.line → k < m.tasks.size
  cause {k : Nat} : k ∈ m.ready → m.stirred k = true
  new {k : Nat} {t : Task} : k ∈ m.jobs → m.tasks[k]? = some t → t.phase.Dormant

theorem stirred_of_dormant (ht : m.tasks[k]? = some t) (h : t.phase.Dormant) : m.stirred k = true := by
  unfold stirred
  rw [ht, Option.map_some]
  cases hphase : t.phase with
  | unstarted args positional => rfl
  | finished => rfl
  | hanging => rfl
  | _ =>
    rw [hphase] at h
    exact h.elim

/-! ### Getting on -/

/-- Slots are filled, and pipelines end with their tasks. -/
theorem Sober.goes (h : m.Sober) (hregistry : m'.registry = m.registry)
    (halone : ∀ i ∈ m'.instances, i.starter = none) (hjobs : m'.jobs.Sublist m.jobs) (hready : m'.ready = m.ready)
    (hblocked : m'.blocked = m.blocked) (hsize : m'.tasks.size = m.tasks.size)
    (htask : ∀ {k : Nat} {t : Task}, m'.tasks[k]? = some t → ∃ before : Task, m.tasks[k]? = some before ∧
      (t = before ∨ t = { before with phase := .finished }))
    (hslots : ∀ s o, m.slot s = some o → m'.slot s = some o) (hwithin : m'.slots.size = m.slots.size)
    (hclock : m'.clock = m.clock) : m'.Sober := by
  have hline : m'.line.Sublist m.line := by
    unfold line
    rw [hready, hblocked]
    exact (List.Sublist.refl _).append hjobs
  refine ⟨hregistry ▸ h.registry, fun hi => halone _ hi, fun ht => ?_, fun ht => ?_, fun ht ht' hslot => ?_,
    h.queue.sublist hline, fun hk => hsize ▸ h.there (hline.subset hk), fun {k} hk => ?_, fun hk ht => ?_⟩
  · obtain ⟨before, hbefore, rfl | rfl⟩ := htask ht
    · exact h.tasks hbefore
    · exact ⟨(h.tasks hbefore).1, trivial⟩
  · obtain ⟨before, hbefore, rfl | rfl⟩ := htask ht
    · exact hwithin ▸ h.within hbefore
    · rw [hwithin]
      exact h.within (t := before) hbefore
  · obtain ⟨before, hbefore, rfl | rfl⟩ := htask ht <;> obtain ⟨before', hbefore', rfl | rfl⟩ := htask ht' <;>
      exact h.slots hbefore hbefore' hslot
  · rw [hready] at hk
    cases ht : m'.tasks[k]? with
    | none =>
      unfold stirred
      rw [ht]
      rfl
    | some t =>
      obtain ⟨before, hbefore, rfl | rfl⟩ := htask ht
      · exact stirred_mono (fun t ht => (h.tasks ht).2) hslots hclock (ht.trans hbefore.symm) (h.cause hk)
      · exact stirred_of_dormant ht trivial
  · obtain ⟨before, hbefore, rfl | rfl⟩ := htask ht
    · exact h.new (hjobs.subset hk) hbefore
    · trivial

/-- Who has seen what does not matter. -/
theorem Sober.alike (h : m.Sober) (ha : m.Alike m') : m'.Sober := by
  refine h.goes ha.registry (fun i hi => ?_) (by unfold jobs; rw [ha.instances]) ha.ready ha.blocked (by rw [ha.tasks])
    (fun ht => ⟨_, ha.tasks ▸ ht, .inl rfl⟩) (fun s o hs => (ha.slot s).trans hs) ha.size ha.clock
  rw [ha.instances] at hi
  exact h.alone hi

theorem Sober.fill (h : m.Sober) (s : Nat) (o : Outcome) : (m.fill s o).Sober :=
  h.goes rfl (fun _ hi => h.alone hi) (List.Sublist.refl _) rfl rfl rfl (fun ht => ⟨_, ht, .inl rfl⟩)
    (fun _ _ hs => fill_slot_of_some hs) (fill_size s o) rfl

/-- The jobs of all, when only one has others. -/
theorem jobs_modify {p : Nat} {g : Instance → Instance} (hg : ∀ i, (g i).jobs = i.jobs) :
    ({ m with instances := m.instances.modify p g } : Machine).jobs = m.jobs := by
  unfold jobs
  simp only [Array.toList_modify]
  generalize m.instances.toList = l
  induction l generalizing p with
  | nil => cases p <;> rfl
  | cons i rest ih =>
    cases p with
    | zero => simp only [List.modify_zero_cons, List.flatMap_cons, hg]
    | succ p => simp only [List.modify_succ_cons, List.flatMap_cons, ih]

theorem Sober.setOutput (h : m.Sober) (p : Nat) (output : Output) : (m.setOutput p output).Sober := by
  refine h.goes rfl (fun i hi => ?_) (by rw [show (m.setOutput p output).jobs = m.jobs from jobs_modify fun _ => rfl])
    rfl rfl rfl (fun ht => ⟨_, ht, .inl rfl⟩) (fun _ _ hs => hs) rfl rfl
  obtain ⟨q, hq⟩ := Array.mem_iff_getElem?.mp hi
  rw [setOutput_getElem?] at hq
  split at hq
  · obtain ⟨i', hi', rfl⟩ := Option.map_eq_some_iff.mp hq
    exact h.alone (i := i') (Array.mem_of_getElem? hi')
  · exact h.alone (Array.mem_of_getElem? hq)

theorem halted_jobs (p : Nat) : (m.halted p).jobs.Sublist m.jobs := by
  unfold jobs halted
  simp only [Array.toList_map]
  generalize m.instances.toList = l
  induction l with
  | nil => exact List.Sublist.refl _
  | cons i rest ih =>
    rw [List.map_cons, List.flatMap_cons, List.flatMap_cons]
    refine List.Sublist.append ?_ ih
    split
    · exact List.nil_sublist _
    · exact List.Sublist.refl _

theorem Sober.halted (h : m.Sober) (p : Nat) : (m.halted p).Sober := by
  refine h.goes rfl (fun i hi => ?_) (halted_jobs p) rfl rfl (Array.size_map ..) (fun ht => ?_) (fun _ _ hs => hs)
    rfl rfl
  · obtain ⟨q, hq⟩ := Array.mem_iff_getElem?.mp hi
    obtain ⟨i', hi', jobs, alive, rfl⟩ := halted_instances hq
    exact h.alone (i := { i with jobs := jobs, alive := alive }) (Array.mem_of_getElem? hi')
  · rw [halted_tasks_getElem?] at ht
    obtain ⟨before, hbefore, rfl⟩ := Option.map_eq_some_iff.mp ht
    refine ⟨before, hbefore, ?_⟩
    split
    · exact .inr rfl
    · exact .inl rfl

theorem Sober.retire (h : m.Sober) (p : Nat) : (m.retire p).Sober := by
  unfold Machine.retire
  exact List.foldlRecOn _ _ (h.halted p) fun m hm entry _ => hm.fill _ _

theorem Sober.read (h : m.Sober) (goal : Awaited) : (m.read goal).Sober := by
  have hlook {m : Machine} (h : m.Sober) (p : Nat) (r : Progress Link) : (m.lookOutput p r).Sober := by
    have htaken : Taken m (r.look (Link.look receive) m).2 := (look_sees linked_sees r).taken m
    have hlooked : (r.look (Link.look receive) m).2.Sober := h.alike htaken.alike
    unfold lookOutput
    split
    · next heq => exact ((heq ▸ hlooked).setOutput p _).retire p
    · next heq => exact (heq ▸ hlooked).setOutput p _
  cases goal with
  | output p =>
    show (m.readOutput p).Sober
    unfold readOutput
    split
    · exact h
    · split
      · split
        · exact hlook h p _
        · exact hlook h p _
        · exact h
      · exact h
  | _ => exact h

/-- Nobody is lost from the queues, and nobody is in them twice. -/
theorem Sober.wake (h : m.Sober) : m.wake.Sober := by
  have hline : m.wake.line.Perm m.line := (wake_queue m).append_right m.jobs
  rw [wake_eq] at hline ⊢
  refine ⟨h.registry, fun hi => h.alone hi, h.tasks, h.within, h.slots, hline.nodup_iff.mpr h.queue,
    fun hk => h.there (hline.subset hk), fun {k} hk => ?_, h.new⟩
  rcases List.mem_append.mp hk with hk | hk
  · exact h.cause hk
  · exact (List.mem_filter.mp hk).2

/-- Time passes while nobody can move. -/
theorem Sober.pass (h : m.Sober) (hready : m.ready = []) (moment : Nat) : Sober { m with clock := moment } := by
  refine ⟨h.registry, h.alone, h.tasks, h.within, h.slots, h.queue, h.there, fun {k} hk => ?_, h.new⟩
  have hnone : k ∈ m.ready := hk
  rw [hready] at hnone
  cases hnone

/-! ### New pipelines -/

theorem flatMap_modify_perm {l : List Instance} {p : Nat} {i : Instance} (h : l[p]? = some i) :
    (i.jobs ++ (l.modify p fun i => { i with jobs := [] }).flatMap Instance.jobs).Perm (l.flatMap Instance.jobs) := by
  induction l generalizing p with
  | nil => cases h
  | cons first rest ih =>
    cases p with
    | zero =>
      cases h
      simp only [List.modify_zero_cons, List.flatMap_cons, List.nil_append]
      exact .refl _
    | succ p =>
      simp only [List.modify_succ_cons, List.flatMap_cons]
      refine (List.perm_append_comm_assoc _ _ _).trans ?_
      exact (ih h).append_left first.jobs

/-- The tasks of a pipeline move to the ready ones. -/
theorem start_line (p : Nat) : (m.start p).line.Perm m.line := by
  unfold start
  cases hi : m.instances[p]? with
  | none => exact .refl _
  | some i =>
    unfold line jobs
    simp only [Array.toList_modify]
    have hjobs := flatMap_modify_perm (l := m.instances.toList) (by rw [Array.getElem?_toList]; exact hi)
    generalize (List.modify _ p _).flatMap Instance.jobs = left at hjobs ⊢
    rw [List.append_assoc, List.append_assoc, List.append_assoc]
    refine List.Perm.append_left m.ready ((List.perm_append_comm_assoc _ _ _).trans ?_)
    exact hjobs.append_left m.blocked

theorem start_jobs (p : Nat) : (m.start p).ready = m.ready ∨
    ∃ i, m.instances[p]? = some i ∧ (m.start p).ready = m.ready ++ i.jobs := by
  unfold start
  cases hi : m.instances[p]? with
  | none => exact .inl rfl
  | some i => exact .inr ⟨i, rfl, rfl⟩

theorem mem_jobs {p : Nat} {i : Instance} (hi : m.instances[p]? = some i) (hk : k ∈ i.jobs) : k ∈ m.jobs :=
  List.mem_flatMap.mpr ⟨i, Array.mem_toList_iff.mpr (Array.mem_of_getElem? hi), hk⟩

theorem Sober.start (h : m.Sober) (p : Nat) : (m.start p).Sober := by
  have hline := m.start_line p
  have hjobs : (m.start p).jobs ⊆ m.jobs := by
    intro k hk
    obtain ⟨i, hi, hk⟩ := List.mem_flatMap.mp hk
    obtain ⟨q, hq⟩ := Array.mem_iff_getElem?.mp (Array.mem_toList_iff.mp hi)
    unfold Machine.start at hq
    split at hq
    · exact mem_jobs hq hk
    · simp only [Array.getElem?_modify] at hq
      split at hq
      · obtain ⟨i', -, rfl⟩ := Option.map_eq_some_iff.mp hq
        cases hk
      · exact mem_jobs hq hk
  have hregistry : (m.start p).registry = m.registry := by
    unfold Machine.start
    split <;> rfl
  have hslots : (m.start p).slots = m.slots := by
    unfold Machine.start
    split <;> rfl
  have hclock : (m.start p).clock = m.clock := by
    unfold Machine.start
    split <;> rfl
  have hstirred {k : Nat} (hk : m.stirred k = true) : (m.start p).stirred k = true :=
    stirred_mono (fun t ht => (h.tasks ht).2) (fun s o hs => (start_slot p s).trans hs) hclock (by rw [start_tasks]) hk
  refine ⟨hregistry ▸ h.registry, fun {i} hi => ?_, fun ht => h.tasks (start_tasks p ▸ ht), fun ht => ?_,
    fun ht ht' => h.slots (start_tasks p ▸ ht) (start_tasks p ▸ ht'), hline.nodup_iff.mpr h.queue, fun hk => ?_,
    fun {k} hk => ?_, fun hk ht => h.new (hjobs hk) (start_tasks p ▸ ht)⟩
  · obtain ⟨q, hq⟩ := Array.mem_iff_getElem?.mp hi
    obtain ⟨jobs, hget⟩ := m.start_getElem? p q
    rw [hget] at hq
    obtain ⟨i', hi', rfl⟩ := Option.map_eq_some_iff.mp hq
    exact h.alone (i := i') (Array.mem_of_getElem? hi')
  · rw [hslots]
    exact h.within (start_tasks p ▸ ht)
  · rw [start_tasks]
    exact h.there (hline.subset hk)
  · rcases m.start_jobs p with hsame | ⟨i, hi, heq⟩
    · exact hstirred (h.cause (hsame ▸ hk))
    · rw [heq] at hk
      rcases List.mem_append.mp hk with hk | hk
      · exact hstirred (h.cause hk)
      · have hmem := mem_jobs hi hk
        have hlt : k < m.tasks.size := h.there (List.mem_append_right _ hmem)
        have ht : m.tasks[k]? = some m.tasks[k] := Array.getElem?_eq_getElem hlt
        exact hstirred (stirred_of_dormant ht (h.new hmem ht))

section

variable (spec : Spec) (place : Placement) (stages : List (Stage × Function))

theorem assembled_jobs : (m.assembled spec place stages).jobs = m.jobs ++ List.range' m.tasks.size stages.length := by
  unfold jobs assembled
  rw [Array.toList_push, List.flatMap_append, List.flatMap_singleton, instanceOf_jobs]

theorem assembled_line : (m.assembled spec place stages).line = m.line ++ List.range' m.tasks.size stages.length := by
  unfold line
  rw [assembled_jobs, ← List.append_assoc]
  rfl

theorem assembled_count : (m.assembled spec place stages).tasks.size = m.tasks.size + stages.length := by
  unfold assembled stageTasks
  simp only [Array.size_append, List.size_toArray, List.length_map, numbered_length]

end

/-- A pipeline is made that no task has started. -/
theorem Sober.assembled (h : m.Sober) {spec : Spec} {place : Placement} {stages : List (Stage × Function)}
    (hstages : m.functionsOf spec = .ok stages) (hstarter : place.starter = none) :
    (m.assembled spec place stages).Sober := by
  have hwithin := assembled_size (m := m) spec place stages
  have hkept {k : Nat} (hk : k < m.tasks.size) : (m.assembled spec place stages).tasks[k]? = m.tasks[k]? :=
    Array.getElem?_append_left hk
  have hbound {k : Nat} {t : Task} : m.IsTask k t → t.slot < m.slots.size :=
    fun ⟨phase, ht⟩ => h.within (t := { t with phase }) ht
  refine ⟨h.registry, fun {i} hi => ?_, fun ht => ?_, fun {k t} ht => ?_, fun {k k' t t'} ht ht' hslot => ?_, ?_,
    fun {k} hk => ?_, fun {k} hk => ?_, fun {k t} hk ht => ?_⟩
  · rcases Array.mem_push.mp hi with hi | rfl
    · exact h.alone hi
    · exact hstarter
  · rcases assembled_tasks_getElem? ht with hold | ⟨n, s, f, -, hn, rfl⟩
    · exact h.tasks hold
    · exact ⟨h.registry _ _ ((functionsOf_eq hstages).2 _ (List.mem_of_getElem? hn)), s.args_plain⟩
  · rcases assembled_fresh (isTask_of_get ht) with hold | ⟨n, hlt, -, hn⟩
    · have hlt := hbound hold
      omega
    · omega
  · rcases assembled_fresh (isTask_of_get ht) with hold | ⟨n, -, hk, hn⟩ <;>
      rcases assembled_fresh (isTask_of_get ht') with hold' | ⟨n', -, hk', hn'⟩
    · obtain ⟨_, hold⟩ := hold
      obtain ⟨_, hold'⟩ := hold'
      exact h.slots hold hold' hslot
    · have hlt := hbound hold
      omega
    · have hlt := hbound hold'
      omega
    · omega
  · rw [assembled_line]
    refine List.nodup_append.mpr ⟨h.queue, List.nodup_range', fun k hk k' hk' heq => ?_⟩
    have hlt := h.there hk
    obtain ⟨j, -, rfl⟩ := List.mem_range'.mp hk'
    omega
  · rw [assembled_line] at hk
    rw [assembled_count]
    rcases List.mem_append.mp hk with hk | hk
    · exact Nat.lt_add_right _ (h.there hk)
    · obtain ⟨j, hj, rfl⟩ := List.mem_range'.mp hk
      omega
  · have hlt := h.there (List.mem_append_left _ (List.mem_append_left _ hk))
    exact stirred_mono (fun t ht => (h.tasks ht).2) (fun s o hs => (assembled_slot _ _ _ s).trans hs) rfl (hkept hlt)
      (h.cause hk)
  · rcases assembled_tasks_getElem? ht with hold | ⟨n, s, f, -, -, rfl⟩
    · rw [assembled_jobs] at hk
      rcases List.mem_append.mp hk with hk | hk
      · exact h.new hk hold
      · obtain ⟨j, -, rfl⟩ := List.mem_range'.mp hk
        have hlt := (Array.getElem?_eq_some_iff.mp hold).1
        omega
    · trivial

theorem Sober.spawn (h : m.Sober) {parent child : Nat} {spec : Spec} {v : Value}
    (hspawn : m.spawn (some parent) none spec v = .ok (child, m')) : m'.Sober := by
  obtain ⟨i, stages, -, -, hstages, -, rfl⟩ := spawn_cases hspawn
  exact (h.assembled hstages rfl).start child

theorem sober_of_build {registry : Registry} {document : Value} {settings : Settings} {p : Nat} (hpure : registry.Pure)
    (hbuild : build { registry } document settings = .ok (p, m)) : m.Sober := by
  obtain ⟨spec, stages, -, hstages, rfl, rfl⟩ := build_eq_ok hbuild
  have hempty : Sober { registry } := by
    refine ⟨hpure, fun hi => absurd hi (Array.not_mem_empty _), nofun, nofun, nofun, List.nodup_nil, nofun, nofun, nofun⟩
  exact hempty.assembled hstages rfl

/-! ### Turns -/

theorem begun_plain (m : Machine) (t : Task) {args : List (String × Resolvable Source)}
    (hargs : ∀ arg ∈ args, ∀ source ∈ arg.2.awaited, source.Plain) :
    Progress.everyOfAll (fun _ => True) Awaited.Plain (args.map fun a => (a.2.map (m.begin t)).progress) := by
  induction args with
  | nil => trivial
  | cons arg rest ih =>
    refine ⟨Resolvable.progress_every _ fun a ha => ?_, ih fun arg' h => hargs arg' (List.mem_cons_of_mem _ h)⟩
    rw [Resolvable.map_awaited] at ha
    obtain ⟨source, hsource, rfl⟩ := List.mem_map.mp ha
    have hplain := hargs arg List.mem_cons_self source hsource
    cases source with
    | broken => exact hplain.elim
    | _ => trivial

/-- A task is about what it comes to by what is there. -/
theorem Sober.aims (h : m.Sober) (ht : m.tasks[k]? = some t) (hmoving : 0 < t.phase.rank) :
    ∃ aim : Aim, (∀ a, aim.among a → a.Plain) ∧ aim.Fair m ∧ t.phase.Pursues aim m t := by
  have hsober := (h.tasks ht).2
  let known (s : Nat) : Option Value := (m.slot s).bind Except.toOption
  let aim (names : List String) (given : Option (List Value)) (value : Option Value) : Aim :=
    ⟨known, Awaited.Plain, names, given, value⟩
  have haim (phase : Phase) (names : List String) (given : Option (List Value)) (value : Option Value)
      (h : phase.Pursues (aim names given value) m t) :
      ∃ aim : Aim, (∀ a, aim.among a → a.Plain) ∧ aim.Fair m ∧ phase.Pursues aim m t := by
    refine ⟨aim names given value, fun _ => id, ⟨id, fun _ _ => trivial, fun _ s _ o ho => ?_⟩, h⟩
    show o.toOption = (m.slot s).bind Except.toOption
    rw [ho]
    rfl
  let given (args : List (Progress Awaited)) : Option (List Value) := Progress.values? (Awaited.value? known) args
  let result (names : List String) (given : Option (List Value)) : Option Value :=
    given.bind fun values => t.function.result? t.node (Fields.ofList (names.zip values))
  let checked (v : Option Value) : Option Value := v.bind fun v => (t.function.checkOutput v).toOption
  cases hphase : t.phase with
  | unstarted args positional =>
    cases positional with
    | true => exact haim _ [] none none rfl
    | false =>
      let begun := args.map fun a => (a.2.map (m.begin t)).progress
      exact haim _ (args.map Prod.fst) (given begun) (result (args.map Prod.fst) (given begun))
        ⟨rfl, rfl, rfl, begun_plain m t (by rw [hphase] at hsober; exact hsober)⟩
  | gathering names args =>
    rw [hphase] at hsober
    exact haim _ names (given args) (result names (given args)) ⟨rfl, rfl, rfl, hsober⟩
  | resting due next =>
    rw [hphase] at hsober
    exact haim _ [] none (checked next.value?) ⟨hsober, rfl⟩
  | settling r =>
    rw [hphase] at hsober
    exact haim _ [] none (checked (r.value? (Awaited.value? known))) ⟨rfl, hsober⟩
  | hanging =>
    rw [hphase] at hmoving
    cases hmoving
  | finished =>
    rw [hphase] at hmoving
    cases hmoving

theorem Sober.starts (h : m.Sober) (k : Nat) : Aim.Alone m k := fun i hi => by
  rw [h.alone hi]
  exact nofun

/-- Whose turn is next: a task that is ready, with the rest of those that are. -/
theorem Sober.next (h : m.Sober) (choose : Choice) (hready : m.ready ≠ []) : ∃ k t rest, (k :: rest).Perm m.ready ∧
    m.tasks[k]? = some t ∧ m.stirred k = true ∧ m.advance choose = ({ m with ready := rest }.turn k).wake := by
  obtain ⟨k, rest, hperm, heq⟩ := advance_ready hready choose
  have hmem : k ∈ m.ready := hperm.subset List.mem_cons_self
  have hlt : k < m.tasks.size := h.there (List.mem_append_left _ (List.mem_append_left _ hmem))
  exact ⟨k, m.tasks[k], rest, hperm, Array.getElem?_eq_getElem hlt, h.cause hmem, heq⟩

/-- Whoever leaves the queue is in none. -/
theorem Sober.without (h : m.Sober) {rest : List Nat} (hperm : (k :: rest).Perm m.ready) :
    Sober { m with ready := rest } ∧ k ∉ ({ m with ready := rest } : Machine).line := by
  have hline : (k :: ({ m with ready := rest } : Machine).line).Perm m.line :=
    (hperm.append_right m.blocked).append_right m.jobs
  obtain ⟨hnew, hold⟩ := List.nodup_cons.mp (hline.nodup_iff.mpr h.queue)
  refine ⟨⟨h.registry, h.alone, h.tasks, h.within, h.slots, hold, fun hk => ?_, fun hk => ?_, h.new⟩, hnew⟩
  · exact h.there (hline.subset (List.mem_cons_of_mem _ hk))
  · exact h.cause (hperm.subset (List.mem_cons_of_mem _ hk))

theorem Stepped.jobs {slot rank toil : Nat} (h : Stepped k slot rank toil m m') : m'.jobs = m.jobs := by
  unfold Machine.jobs
  rw [h.instances]

/-- A turn puts the task into the queue again at most. -/
theorem Stepped.line {slot rank toil : Nat} (h : Stepped k slot rank toil m m') (ht : m.tasks[k]? = some t) :
    m'.line = m.line ∨ m'.line.Perm (k :: m.line) := by
  unfold Machine.line
  rw [h.jobs, h.ready]
  rcases h.blocked ht with heq | ⟨heq, -⟩
  · exact .inl (by rw [heq])
  · refine .inr ?_
    rw [heq, ← List.append_assoc]
    exact (List.perm_append_singleton k _).append_right m.jobs

/-- The task itself is in a sober phase after its turn, and all others are as they were. -/
theorem Sober.went_task (h : m.Sober) (ht : m.tasks[k]? = some t) {aim : Aim} (hamong : ∀ a, aim.among a → a.Plain)
    {rank toil : Nat} (hwent : aim.Went k t rank toil m m') {j : Nat} {u : Task} (hu : m'.tasks[j]? = some u) :
    ∃ before, m.tasks[j]? = some before ∧ u = { before with phase := u.phase } ∧ u.phase.Sober := by
  by_cases hj : k = j
  · subst hj
    have hset (n : Machine) (phase : Phase) (hn : n.tasks = m.tasks) (hphase : phase.Sober)
        (hget : (n.setPhase k phase).tasks[k]? = some u) :
        ∃ before, m.tasks[k]? = some before ∧ u = { before with phase := u.phase } ∧ u.phase.Sober := by
      rw [setPhase_getElem?, if_pos rfl, hn, ht] at hget
      cases hget
      exact ⟨t, ht, rfl, hphase⟩
    cases hwent with
    | finished o value => exact hset (m.fill t.slot o) .finished rfl trivial hu
    | hanging never => exact hset m .hanging rfl trivial hu
    | parked phase comes waits moving less => exact hset m _ rfl (comes.sober hamong) hu
  · rw [hwent.stepped.tasks hj] at hu
    exact ⟨u, hu, rfl, (h.tasks hu).2⟩

theorem Sober.went (h : m.Sober) (hk : k ∉ m.line) (ht : m.tasks[k]? = some t) {aim : Aim}
    (hamong : ∀ a, aim.among a → a.Plain) {rank toil : Nat} (hwent : aim.Went k t rank toil m m') : m'.Sober := by
  have hstepped := hwent.stepped
  have hline := hstepped.line ht
  refine ⟨hstepped.registry ▸ h.registry, fun hi => h.alone (hstepped.instances ▸ hi), fun hu => ?_, fun hu => ?_,
    fun hu hu' hslot => ?_, ?_, fun {j} hj => ?_, fun {j} hj => ?_, fun {j u} hj hu => ?_⟩
  · obtain ⟨before, hbefore, heq, hsober⟩ := h.went_task ht hamong hwent hu
    refine ⟨?_, hsober⟩
    rw [heq]
    exact (h.tasks hbefore).1
  · obtain ⟨before, hbefore, heq, -⟩ := h.went_task ht hamong hwent hu
    rw [heq, hstepped.size]
    exact h.within (t := before) hbefore
  · obtain ⟨before, hbefore, heq, -⟩ := h.went_task ht hamong hwent hu
    obtain ⟨before', hbefore', heq', -⟩ := h.went_task ht hamong hwent hu'
    rw [heq, heq'] at hslot
    exact h.slots hbefore hbefore' hslot
  · rcases hline with heq | hperm
    · exact heq ▸ h.queue
    · exact hperm.nodup_iff.mpr (List.nodup_cons.mpr ⟨hk, h.queue⟩)
  · rw [hstepped.count]
    rcases hline with heq | hperm
    · exact h.there (heq ▸ hj)
    · rcases List.mem_cons.mp (hperm.subset hj) with rfl | hj
      · exact (Array.getElem?_eq_some_iff.mp ht).1
      · exact h.there hj
  · rw [hstepped.ready] at hj
    have hne : k ≠ j := by
      rintro rfl
      exact hk (List.mem_append_left _ (List.mem_append_left _ hj))
    exact stirred_mono (fun t ht => (h.tasks ht).2) hstepped.slot hstepped.clock (hstepped.tasks hne) (h.cause hj)
  · rw [hstepped.jobs] at hj
    have hne : k ≠ j := by
      rintro rfl
      exact hk (List.mem_append_right _ hj)
    rw [hstepped.tasks hne] at hu
    exact h.new hj hu

/-- A task that has no turn before it does nothing. -/
theorem turn_idle (ht : m.tasks[k]? = some t) (hidle : t.phase.rank = 0) : m.turn k = m.refreshed := by
  have hget : m.refreshed.tasks[k]? = some t := ht
  unfold turn
  simp only [hget]
  cases hphase : t.phase with
  | hanging => rfl
  | finished => rfl
  | _ =>
    rw [hphase] at hidle
    cases hidle

theorem Sober.turn (h : m.Sober) (hk : k ∉ m.line) (ht : m.tasks[k]? = some t) (hstirred : m.stirred k = true) :
    (m.turn k).Sober := by
  rcases Nat.eq_zero_or_pos t.phase.rank with hidle | hmoving
  · rw [turn_idle ht hidle]
    exact h.alike (refreshed_alike m)
  · obtain ⟨aim, hamong, hfair, hpursues⟩ := h.aims ht hmoving
    obtain ⟨base, hbase, hwent⟩ :=
      Aim.turn_went (h.starts k) hfair (h.tasks ht).1 ht hpursues hmoving hstirred
    refine (h.alike hbase).went ?_ (hbase.tasks ▸ ht) hamong hwent
    unfold line jobs
    rw [hbase.ready, hbase.blocked, hbase.instances]
    exact hk

theorem Sober.advance (h : m.Sober) (choose : Choice) : (m.advance choose).Sober := by
  by_cases hready : m.ready = []
  · rw [advance_idle hready]
    exact h
  · obtain ⟨k, t, rest, hperm, ht, hstirred, heq⟩ := h.next choose hready
    obtain ⟨hrest, hk⟩ := h.without hperm
    rw [heq]
    exact (hrest.turn hk ht hstirred).wake

/-! ### Strides -/

theorem Sober.bindInputs (h : m.Sober) (i : Instance) (values : List Value) : (m.bindInputs i values).Sober := by
  unfold Machine.bindInputs
  generalize (i.bindings.map Prod.snd).zip values = entries
  induction entries generalizing m with
  | nil => exact h
  | cons entry rest ih => exact ih (h.fill entry.1 (.ok entry.2))

theorem Sober.looked (h : m.Sober) (goal : Awaited) : (m.looked goal).Sober :=
  ((h.alike (refreshed_alike m)).read goal).wake

theorem Sober.stride (h : m.Sober) {root : Nat} (hstride : Stride root m m') : m'.Sober := by
  cases hstride with
  | bind values hi => exact h.bindInputs _ values
  | start => exact h.start root
  | look goal => exact h.looked goal
  | turn choose => exact h.advance choose
  | pass moment hidle => exact h.pass hidle.1 moment
  | giveUp p => exact h.retire p
  | spawn hspawn => exact h.spawn hspawn

/-- **Nobody starts a pipeline**, whatever is done with a machine of pure functions. -/
theorem Strides.sober {root : Nat} (hstrides : Strides root m m') (h : m.Sober) : m'.Sober := by
  induction hstrides with
  | refl => exact h
  | tail _ hstride ih => exact ih.stride hstride

end Machine
end StageGraph
