import StageGraph.Proofs.Lifetime.Owned
import StageGraph.Proofs.Teardown.Genuine

/-! Pipelines that nobody's end has spoiled.

Slots have a home: the pipeline whose stage or declared input they belong to (`Houses`). The end of a pipeline leaves
faults in its slots, which those in whose scope it was may come across: a child that a function keeps outlives the
pipeline it was started in. Nobody listens to it any more then. So what a pipeline comes to is asked about only as long
as it is sheltered, which is to say that nobody around it has ended (`Sheltered`, `Fair`). Links only lead to slots of
the pipeline that reads and of those around it (`Near`), and a child whose output a task awaits lives until that output
has come about (`Tends`). That is how things stand in a machine in which all that can still be heard of fails genuinely
(`Unspoiled`). It stays so when slots are filled, when outputs get on, when pipelines are made, and when pipelines end of
which nobody awaits anything any more. -/
namespace StageGraph.Machine

variable {m m' : Machine} {who : Option Nat}

/-! ### The invariant -/

/-- A slot of a stage or of a declared input of a pipeline. -/
def Houses (m : Machine) (p s : Nat) : Prop := ∃ i cause, m.IsInstance p i ∧ (s, cause) ∈ i.abandoned

/-- A slot of a pipeline, or of one around it. -/
def Near (m : Machine) (p s : Nat) : Prop := ∃ i q, m.IsInstance p i ∧ q ∈ i.scope ∧ m.Houses q s

/-- Nobody around a pipeline has ended, whether it has itself or not. -/
def Sheltered (m : Machine) (p : Nat) : Prop := ∀ i, m.IsInstance p i → ∀ q ∈ i.scope, q ≠ p → ¬m.Ended q

/-- A fault that may be found in a pipeline: it is genuine, as long as neither the pipeline nor anybody around it has
ended. -/
def Fair (m : Machine) (p : Nat) (f : Fault) : Prop := ¬m.Ended p → m.Sheltered p → f.Genuine

/-- A link of a pipeline: it leads to slots near it, or it failed for a reason when it was looked up. -/
def Leads (m : Machine) (p : Nat) (l : Link) : Prop :=
  match l.base with
  | .ok base => ∀ s ∈ base.awaited, m.Near p s
  | .error f => f.Genuine

/-- The output of a pipeline can be read: it lives, or its output has come about. -/
def Readable (m : Machine) (p : Nat) : Prop := m.alive p = true ∨ (m.standing (.output p)).isSome

/-- A task started a pipeline, for itself. -/
def Begot (m : Machine) (k c : Nat) : Prop := ∃ i, m.IsInstance c i ∧ i.starter = some k

/-- A pipeline is a child of another one: a task started it there for itself, and it ends with its parent, or it is
nobody's. -/
def Raised (m : Machine) (k p c : Nat) : Prop := ∃ parent i, m.IsInstance p parent ∧ m.IsInstance c i ∧
  i.scope = c :: parent.scope ∧ (i.starter = some k ∧ i.keepers = c :: parent.keepers ∨ i.starter = none)

/-- A task of a pipeline has a child whose output can be read. -/
def Tends (m : Machine) (k p c : Nat) : Prop := m.Raised k p c ∧ m.Readable c

/-- An argument on its way, in a task of a pipeline. -/
def Asked (m : Machine) (p : Nat) : Awaited → Prop
  | .link l => m.Leads p l
  | _ => False

/-- A part of a result on its way. -/
def Owed (m : Machine) (k p : Nat) : Awaited → Prop
  | .timer _ o => o.Genuine
  | .output c => m.Tends k p c
  | _ => False

/-- What a task of a pipeline may come to know is not spoiled. -/
def Unharmed (m : Machine) (k p : Nat) : Phase → Prop
  | .gathering _ args => Progress.everyOfAll (m.Fair p) (m.Asked p) args
  | .resting _ next => ∃ given, next.Honest given ∧ ∀ c ∈ given, m.Tends k p c
  | .settling result => result.every (m.Fair p) (m.Owed k p)
  | _ => True

/-- What an output may come to is not spoiled. -/
def Sincere (m : Machine) (p : Nat) : Output → Prop
  | .unread => True
  | .linked r => r.every (m.Fair p) (m.Leads p)
  | .known o => FailsOnly (fun f => m.Sheltered p → f.Genuine) o

/-- How slots and pipelines are laid out. -/
structure Laid (m : Machine) : Prop where
  single {p q s : Nat} : m.Houses p s → m.Houses q s → p = q
  bounded {p s : Nat} : m.Houses p s → s < m.slots.size
  /-- Who is around somebody around a pipeline is around the pipeline. -/
  around {p q : Nat} {i : Instance} : m.IsInstance p i → q ∈ i.scope → ∃ j, m.IsInstance q j ∧ j.scope ⊆ i.scope
  elder {p q : Nat} {i : Instance} : m.IsInstance p i → q ∈ i.scope → q ≤ p
  self {p : Nat} {i : Instance} : m.IsInstance p i → p ∈ i.scope
  inputs {p : Nat} {i : Instance} : m.IsInstance p i → ∀ s ∈ i.input.awaited, m.Houses p s
  alone {p : Nat} {i : Instance} : m.IsInstance p i → i.starter = none → i.keepers = [p]

/-- All that can still be heard of fails genuinely, but for what a task knows that is at work. -/
structure Unspoiled (who : Option Nat) (m : Machine) : Prop where
  kept : m.Kept
  laid : m.Laid
  slots {p s : Nat} {f : Fault} : m.alive p = true → m.Houses p s → m.slot s = some (.error f) → m.Fair p f
  tasks {k p : Nat} {t : Task} : m.tasks[k]? = some t → who ≠ some k → t.pipeline = some p → m.Unharmed k p t.phase
  outputs {p : Nat} {i : Instance} : m.instances[p]? = some i → m.Sincere p i.output
  free {p : Nat} {i : Instance} : m.IsInstance p i → i.starter = none → m.Readable p

/-- A pipeline has a task, with a slot for its result. -/
structure Employs (m : Machine) (p k : Nat) (t : Task) : Prop where
  task : m.IsTask k t
  pipeline : t.pipeline = some p
  slot : m.Houses p t.slot

/-! ### What stays as it is -/

section

variable (he : m.Extends m')
include he

theorem Extends.houses {p s : Nat} (h : m.Houses p s) : m'.Houses p s := by
  obtain ⟨i, cause, hi, hmem⟩ := h
  exact ⟨i, cause, he.isInstance hi, hmem⟩

theorem Extends.near {p s : Nat} (h : m.Near p s) : m'.Near p s := by
  obtain ⟨i, q, hi, hq, hs⟩ := h
  exact ⟨i, q, he.isInstance hi, hq, he.houses hs⟩

theorem Extends.leads {p : Nat} {l : Link} (h : m.Leads p l) : m'.Leads p l := by
  unfold Machine.Leads at h ⊢
  split at h
  · exact fun s hs => he.near (h s hs)
  · exact h

/-- Who has no shelter never has it again. -/
theorem Extends.sheltered {p : Nat} (h : m'.Sheltered p) : m.Sheltered p :=
  fun i hi q hq hne hover => h i (he.isInstance hi) q hq hne (he.ended hover)

theorem Extends.fair {p : Nat} {f : Fault} (h : m.Fair p f) : m'.Fair p f :=
  fun hgoesOn hsheltered => h (fun hover => hgoesOn (he.ended hover)) (he.sheltered hsheltered)

theorem Extends.sincere {p : Nat} {output : Output} (h : m.Sincere p output) : m'.Sincere p output := by
  cases output with
  | unread => trivial
  | linked r => exact Progress.every_mono (fun _ => he.fair) (fun _ => he.leads) r h
  | known o => exact fun f hf hsheltered => h f hf (he.sheltered hsheltered)

theorem Extends.employs {p k : Nat} {t : Task} (h : m.Employs p k t) : m'.Employs p k t :=
  ⟨he.isTask h.task, h.pipeline, he.houses h.slot⟩

theorem Extends.begot {k c : Nat} (h : m.Begot k c) : m'.Begot k c := by
  obtain ⟨i, hi, hstarter⟩ := h
  exact ⟨i, he.isInstance hi, hstarter⟩

theorem Extends.readable {p : Nat} (h : m.Readable p) (halive : m.alive p = true → m'.alive p = true) :
    m'.Readable p := by
  rcases h with hlives | hknown
  · exact .inl (halive hlives)
  · obtain ⟨o, ho⟩ := Option.isSome_iff_exists.mp hknown
    have ho' : m'.standing (.output p) = some o := he.outcome (a := .output p) ho
    exact .inr (by rw [ho']; rfl)

theorem Extends.raised {k p c : Nat} (h : m.Raised k p c) : m'.Raised k p c := by
  obtain ⟨parent, i, hparent, hi, hraised⟩ := h
  exact ⟨parent, i, he.isInstance hparent, he.isInstance hi, hraised⟩

theorem Extends.tends {k p c : Nat} (h : m.Tends k p c) (halive : m.alive c = true → m'.alive c = true) :
    m'.Tends k p c :=
  ⟨he.raised h.1, he.readable h.2 halive⟩

/-- Nothing is spoiled for a task that goes on tending its children. -/
theorem Extends.unharmed {k p : Nat} {phase : Phase} (h : m.Unharmed k p phase)
    (htends : ∀ c, m.Tends k p c → m'.Tends k p c) : m'.Unharmed k p phase := by
  cases phase with
  | gathering names args =>
    refine Progress.everyOfAll_mono (fun _ => he.fair) (fun a ha => ?_) args h
    cases a with
    | link l => exact he.leads ha
    | _ => exact ha
  | resting due next =>
    obtain ⟨given, hnext, hgiven⟩ := h
    exact ⟨given, hnext, fun c hc => htends c (hgiven c hc)⟩
  | settling result =>
    refine Progress.every_mono (fun _ => he.fair) (fun a ha => ?_) result h
    cases a with
    | output c => exact htends c ha
    | _ => exact ha
  | _ => trivial

end

/-- No pipeline is new. -/
theorem Laid.keeps (h : m.Laid) (he : m.Extends m') (hsize : m'.slots.size = m.slots.size)
    (hback : ∀ {p i}, m'.IsInstance p i → m.IsInstance p i) : m'.Laid := by
  have haround {p q : Nat} {i : Instance} (hi : m'.IsInstance p i) (hq : q ∈ i.scope) :
      ∃ j, m'.IsInstance q j ∧ j.scope ⊆ i.scope := by
    obtain ⟨j, hj, hscope⟩ := h.around (hback hi) hq
    exact ⟨j, he.isInstance hj, hscope⟩
  have hhouses {p s : Nat} (hs : m'.Houses p s) : m.Houses p s := by
    obtain ⟨i, cause, hi, hmem⟩ := hs
    exact ⟨i, cause, hback hi, hmem⟩
  exact ⟨fun hp hq => h.single (hhouses hp) (hhouses hq), fun hs => hsize ▸ h.bounded (hhouses hs),
    haround, fun hi => h.elder (hback hi), fun hi => h.self (hback hi),
    fun hi s hs => he.houses (h.inputs (hback hi) s hs), fun hi => h.alone (hback hi)⟩

/-- Nothing is new but outcomes in slots and outputs, none of which is spoiled. -/
theorem Unspoiled.alike (h : m.Unspoiled who) (he : m.Extends m') (hsize : m'.slots.size = m.slots.size)
    (htasks : m'.tasks = m.tasks) (hsame : SameInstances m m')
    (hslot : ∀ {p s f}, m.alive p = true → m.Houses p s → m'.slot s = some (.error f) →
      m.slot s = some (.error f) ∨ m.Fair p f)
    (houtput : ∀ {p i}, m'.instances[p]? = some i →
      (m.instances[p]?).map Instance.output = some i.output ∨ m.Sincere p i.output) : m'.Unspoiled who := by
  have htends {k p c : Nat} (hc : m.Tends k p c) : m'.Tends k p c :=
    he.tends hc fun hlives => (hsame.alive c).trans hlives
  refine ⟨h.kept.same he.isTask hsame, h.laid.keeps he hsize hsame.isInstance.mp, fun {p s f} hlives hs hf => ?_,
    fun ht hk hp => ?_, fun {p i} hi => ?_, fun {p i} hi hstarter => ?_⟩
  · have hlives' : m.alive p = true := (hsame.alive p).symm.trans hlives
    have hs' : m.Houses p s := by
      obtain ⟨i, cause, hi, hmem⟩ := hs
      exact ⟨i, cause, hsame.isInstance.mp hi, hmem⟩
    exact he.fair ((hslot hlives' hs' hf).elim (h.slots hlives' hs') id)
  · rw [htasks] at ht
    exact he.unharmed (h.tasks ht hk hp) fun _ => htends
  · rcases houtput hi with hold | hnew
    · obtain ⟨j, hj, hsameOutput⟩ := Option.map_eq_some_iff.mp hold
      exact he.sincere (hsameOutput ▸ h.outputs hj)
    · exact he.sincere hnew
  · exact he.readable (h.free (hsame.isInstance.mp hi) hstarter) fun hlives => (hsame.alive p).trans hlives

/-- Nothing is different that matters. -/
theorem Unspoiled.same (h : m.Unspoiled who) (hslot : ∀ s, m'.slot s = m.slot s) (hsize : m'.slots.size = m.slots.size)
    (htasks : m'.tasks = m.tasks) (hinstances : m'.instances = m.instances) (hregistry : m'.registry = m.registry) :
    m'.Unspoiled who := by
  refine h.alike (extends_same hslot htasks hinstances hregistry) hsize htasks (fun q => by rw [hinstances])
    (fun {p s f} _ _ hf => .inl ((hslot s).symm.trans hf)) (fun {p i} hi => .inl ?_)
  rw [← hinstances, hi]
  rfl

theorem Unspoiled.taken (h : m.Unspoiled who) (ht : Taken m m') : m'.Unspoiled who := by
  obtain ⟨slots, room, rfl, hsize⟩ := ht.rest
  exact h.same ht.slot hsize rfl rfl rfl

/-- A slot is filled, with nothing that spoils a pipeline that lives. -/
theorem Unspoiled.fill (h : m.Unspoiled who) {s : Nat} {o : Outcome}
    (ho : ∀ p, m.alive p = true → m.Houses p s → FailsOnly (m.Fair p) o) : (m.fill s o).Unspoiled who := by
  refine h.alike (m.fill_extends s o) (fill_size s o) rfl (fun _ => rfl) (fun {p s' f} hlives hs hf => ?_)
    (fun {p i} hi => .inl (congrArg (Option.map Instance.output) hi))
  rcases slot_of_fill hf with hold | ⟨rfl, heq⟩
  · exact .inl hold
  · exact .inr (ho p hlives hs f heq)

theorem Unspoiled.start (h : m.Unspoiled who) (p : Nat) : (m.start p).Unspoiled who := by
  have hslots : (m.start p).slots = m.slots := by
    unfold Machine.start
    split <;> rfl
  refine h.alike (m.start_extends p) (by rw [hslots]) (start_tasks p) (m.start_lasting p)
    (fun {q s f} _ _ hf => .inl ((start_slot p s).symm.trans hf)) (fun {q i} hi => .inl ?_)
  rw [← m.start_output p q, hi]
  rfl

/-- More is known of an output. -/
theorem Unspoiled.setOutput (h : m.Unspoiled who) {p : Nat} {output : Output} (hnot : m.standing (.output p) = none)
    (houtput : m.Sincere p output) : (m.setOutput p output).Unspoiled who := by
  refine h.alike (setOutput_extends output hnot) rfl rfl (setOutput_lasting p output) (fun _ _ => .inl)
    (fun {q i} hi => ?_)
  rw [setOutput_getElem?] at hi
  split at hi
  · next hq =>
    obtain ⟨i', -, rfl⟩ := Option.map_eq_some_iff.mp hi
    exact .inr (hq ▸ houtput)
  · exact .inl (congrArg (Option.map Instance.output) hi)

/-! ### Tasks -/

theorem Unspoiled.busy (h : m.Unspoiled none) (k : Nat) : m.Unspoiled (some k) :=
  ⟨h.kept, h.laid, h.slots, fun ht _ => h.tasks ht nofun, h.outputs, h.free⟩

/-- A task for which nothing is spoiled goes on to another phase. -/
theorem Unspoiled.setPhase {k p : Nat} {t : Task} (h : m.Unspoiled (some k)) (ht : m.Employs p k t)
    {phase : Phase} (hphase : m.Unharmed k p phase) : (m.setPhase k phase).Unspoiled none := by
  have he := m.setPhase_extends k phase
  have htends {j q c : Nat} (hc : m.Tends j q c) : (m.setPhase k phase).Tends j q c := he.tends hc id
  refine ⟨h.kept.same he.isTask fun _ => rfl, h.laid.keeps he rfl id,
    fun hlives hs hf => he.fair (h.slots hlives hs hf), fun {j q t'} hj _ hq => ?_,
    fun hi => he.sincere (h.outputs hi), fun hi hstarter => he.readable (h.free hi hstarter) id⟩
  rcases setPhase_cases hj with ⟨rfl, before, hbefore, rfl⟩ | ⟨hkj, hold⟩
  · obtain ⟨phase', rfl⟩ := ht.task.eq (isTask_of_get hbefore)
    obtain rfl := Option.some.inj (ht.pipeline.symm.trans hq)
    exact he.unharmed hphase fun _ => htends
  · exact he.unharmed (h.tasks hold (fun heq => hkj (Option.some.inj heq)) hq) fun _ => htends

theorem Unspoiled.park {k p : Nat} {t : Task} (h : m.Unspoiled (some k)) (ht : m.Employs p k t) {phase : Phase}
    (hphase : m.Unharmed k p phase) : (m.park k phase).Unspoiled none :=
  (h.setPhase ht hphase).same (fun _ => rfl) rfl rfl rfl rfl

/-! ### Ends -/

theorem IsInstance.starter_eq {p : Nat} {i j : Instance} (h : m.IsInstance p i) (h' : m.IsInstance p j) :
    i.starter = j.starter := by
  obtain ⟨_, _, _, rfl⟩ := h.eq h'
  rfl

theorem IsInstance.scope_eq {p : Nat} {i j : Instance} (h : m.IsInstance p i) (h' : m.IsInstance p j) :
    i.scope = j.scope := by
  obtain ⟨_, _, _, rfl⟩ := h.eq h'
  rfl

theorem Kept.keepers_of_begot (h : m.Kept) {k c : Nat} {i : Instance} (hi : m.IsInstance c i)
    (hstarter : i.starter = some k) {t : Task} {q : Nat} {parent : Instance} (ht : m.IsTask k t)
    (hq : t.pipeline = some q) (hparent : m.IsInstance q parent) : i.keepers = c :: parent.keepers := by
  obtain ⟨t', q', parent', ht', hq', hparent', hkeepers⟩ := h.child hi hstarter
  obtain ⟨phase, rfl⟩ := ht.eq ht'
  obtain rfl := Option.some.inj (hq.symm.trans hq')
  rw [hkeepers, hparent'.keepers_eq hparent]

/-- The pipeline of a task does not end with a child of the task. -/
theorem Kept.not_mem_of_begot (h : m.Kept) {k c q : Nat} (hc : m.Begot k c) {t : Task} (ht : m.Employs q k t)
    {parent : Instance} (hparent : m.IsInstance q parent) : c ∉ parent.keepers := by
  obtain ⟨i, hi, hstarter⟩ := hc
  have hkeepers := h.keepers_of_begot hi hstarter ht.task ht.pipeline hparent
  intro hmem
  have hle : c ≤ q := h.elder hparent c hmem
  have hge : q ≤ c := h.elder hi q (hkeepers ▸ List.mem_cons_of_mem _ (h.self hparent))
  obtain rfl := Nat.le_antisymm hle hge
  have hlength := congrArg List.length (hkeepers.symm.trans (hi.keepers_eq hparent))
  simp at hlength

/-- No pipeline ends with a child of it. -/
theorem Laid.not_mem_of_raised (hlaid : m.Laid) (hkept : m.Kept) {k c q : Nat} (hc : m.Raised k q c) {parent : Instance}
    (hparent : m.IsInstance q parent) : c ∉ parent.keepers := by
  obtain ⟨parent', i, hparent', hi, hscope, -⟩ := hc
  intro hmem
  have hle : c ≤ q := hkept.elder hparent c hmem
  have hge : q ≤ c := hlaid.elder hi (hscope ▸ List.mem_cons_of_mem _ (hlaid.self hparent'))
  obtain rfl := Nat.le_antisymm hle hge
  have hlength := congrArg List.length (hscope.symm.trans (hi.scope_eq hparent'))
  simp at hlength

/-- Children go on being tended when something else ends than they, or the pipeline of their task. -/
theorem Tends.halted {k e c p : Nat} (h : m.Tends k e c) (hlaid : m.Laid)
    (hp : ∀ parent, m.IsInstance e parent → p ∉ parent.keepers)
    (hself : p = c → (m.standing (.output c)).isSome) : (m.halted p).Tends k e c := by
  obtain ⟨hraised, hreadable⟩ := h
  have hknown (hsome : (m.standing (.output c)).isSome) : (m.halted p).Readable c := by
    refine .inr ?_
    rw [halted_output]
    exact hsome
  refine ⟨(m.halted_extends p).raised hraised, ?_⟩
  obtain ⟨parent, i, hparent, hi, -, hstarter⟩ := hraised
  rcases hreadable with hlives | hsome
  · by_cases hpc : p = c
    · exact hknown (hself hpc)
    · obtain ⟨j, hj, hjlives⟩ := alive_iff.mp hlives
      refine .inl (halted_alive.mpr ⟨j, hj, hjlives, fun hmem => ?_⟩)
      rw [(isInstance_of_get hj).keepers_eq hi] at hmem
      rcases hstarter with ⟨-, hkeepers⟩ | hnobody
      · rw [hkeepers] at hmem
        exact (List.mem_cons.mp hmem).elim hpc (hp parent hparent)
      · rw [hlaid.alone hi hnobody] at hmem
        exact hpc (List.mem_singleton.mp hmem)
  · exact hknown hsome

/-- A pipeline of which nobody awaits anything, but for the task that is at work: its output has come about, or it is a
child of that task. -/
def MayEnd (who : Option Nat) (m : Machine) (p : Nat) : Prop :=
  (m.standing (.output p)).isSome ∨ ∃ k, who = some k ∧ m.Begot k p

/-- **The end of a pipeline of which nobody awaits anything spoils nothing.** -/
theorem Unspoiled.halted (h : m.Unspoiled who) {p : Nat} (hmay : m.MayEnd who p) : (m.halted p).Unspoiled who := by
  have he := m.halted_extends p
  refine ⟨h.kept.halted p, h.laid.keeps he rfl halted_isInstance, fun {q s f} hlives hs hf => ?_,
    fun {k q t} ht hk hq => ?_, fun {q i} hi => ?_, fun {q i} hi hstarter => ?_⟩
  · obtain ⟨j, hj, hjlives, -⟩ := halted_alive.mp hlives
    obtain ⟨i, cause, hi, hmem⟩ := hs
    exact he.fair (h.slots (alive_iff.mpr ⟨j, hj, hjlives⟩) ⟨i, cause, halted_isInstance hi, hmem⟩ hf)
  · rw [halted_tasks_getElem?] at ht
    obtain ⟨t₀, ht₀, rfl⟩ := Option.map_eq_some_iff.mp ht
    split
    · trivial
    · next hgoesOn =>
      rw [if_neg hgoesOn] at hq
      -- the task goes on, so what ends is neither its pipeline nor a child that it awaits
      have hapart (parent : Instance) (hparent : m.IsInstance q parent) : p ∉ parent.keepers := by
        intro hmem
        obtain ⟨jobs, output, alive, hget⟩ := hparent
        have hends : m.endsWith p q = true := endsWith_iff.mpr ⟨_, hget, hmem⟩
        refine hgoesOn ?_
        rw [hq]
        exact hends
      refine he.unharmed (h.tasks ht₀ hk hq) fun c hc => hc.halted h.laid hapart fun hpc => ?_
      subst hpc
      rcases hmay with hsome | ⟨k', rfl, i, hi, hstarter⟩
      · exact hsome
      · obtain ⟨⟨_, j, -, hj, -, hown⟩, -⟩ := hc
        rw [← hi.starter_eq hj, hstarter] at hown
        exact absurd (hown.resolve_right nofun).1 hk
  · obtain ⟨i', hi', jobs, alive, rfl⟩ := halted_instances hi
    have houtput := h.outputs hi'
    exact he.sincere houtput
  · have hi' := halted_isInstance hi
    by_cases hpq : p = q
    · subst hpq
      rcases hmay with hsome | ⟨k, -, j, hj, hjstarter⟩
      · exact .inr (by rw [halted_output]; exact hsome)
      · cases hjstarter.symm.trans ((hj.starter_eq hi').trans hstarter)
    · refine he.readable (h.free hi' hstarter) fun hlives => ?_
      obtain ⟨j, hj, hjlives⟩ := alive_iff.mp hlives
      refine halted_alive.mpr ⟨j, hj, hjlives, fun hmem => hpq ?_⟩
      rw [(isInstance_of_get hj).keepers_eq hi', h.laid.alone hi' hstarter] at hmem
      exact List.mem_singleton.mp hmem

/-- Slots of pipelines that are over are given up. -/
theorem Unspoiled.giveUp (l : List (Nat × Cause)) : ∀ {m : Machine}, m.Unspoiled who →
    (∀ e ∈ l, ∃ q, m.Houses q e.1 ∧ m.alive q = false) →
      (l.foldl (fun m (s, cause) => m.fill s (.error ⟨cause, none⟩)) m).Unspoiled who := by
  induction l with
  | nil => exact fun h _ => h
  | cons entry rest ih =>
    intro m h hall
    obtain ⟨q, hq, hover⟩ := hall entry List.mem_cons_self
    refine ih (h.fill fun p hlives hp => ?_) fun e he => hall e (List.mem_cons_of_mem _ he)
    obtain rfl := h.laid.single hp hq
    cases hover.symm.trans hlives

theorem Unspoiled.retire (h : m.Unspoiled who) {p : Nat} (hmay : m.MayEnd who p) : (m.retire p).Unspoiled who := by
  refine (h.halted hmay).giveUp _ fun e he => ?_
  obtain ⟨q, i, hi, hover, hmem⟩ := mem_abandoned_of_halted he
  exact ⟨q, ⟨i, e.2, isInstance_of_get hi, hmem⟩, not_alive_of_ended ⟨i, hi, hover⟩⟩

/-- A task goes on tending its children when another pipeline ends than its own, or one whose output has come about. -/
theorem Tends.retire {k e c p : Nat} (h : m.Tends k e c) (hlaid : m.Laid)
    (hp : ∀ parent, m.IsInstance e parent → p ∉ parent.keepers)
    (hself : p = c → (m.standing (.output c)).isSome) : (m.retire p).Tends k e c := by
  obtain ⟨slots, heq⟩ := m.retire_eq p
  rw [heq]
  exact h.halted hlaid hp hself

/-- Children of a task end. -/
theorem Unspoiled.foldl_retire {k p : Nat} {t : Task} (l : List Nat) : ∀ {m : Machine}, m.Unspoiled (some k) →
    m.Employs p k t → (∀ c ∈ l, m.Begot k c) → (l.foldl Machine.retire m).Unspoiled (some k) ∧
      ∀ c ∉ l, m.Tends k p c → (l.foldl Machine.retire m).Tends k p c := by
  induction l with
  | nil => exact fun h _ _ => ⟨h, fun _ _ => id⟩
  | cons c rest ih =>
    intro m h ht hall
    have hc := hall c List.mem_cons_self
    have he : m.Extends (m.retire c) := (retire_deeds c : Deeds none m _).extends'
    obtain ⟨hrest, htends⟩ := ih (h.retire (.inr ⟨k, rfl, hc⟩)) (he.employs ht) fun c' hc' =>
      he.begot (hall c' (List.mem_cons_of_mem _ hc'))
    refine ⟨hrest, fun c' hc' hold => htends c' (fun hmem => hc' (List.mem_cons_of_mem _ hmem)) ?_⟩
    exact hold.retire h.laid (fun _ => h.kept.not_mem_of_begot hc ht) fun heq => absurd (heq ▸ List.mem_cons_self) hc'

/-- A task lets its children go, and goes on tending those that it keeps. -/
theorem Unspoiled.release {k p : Nat} {t : Task} (h : m.Unspoiled (some k)) (ht : m.Employs p k t)
    (keeping : List Nat) : (m.release k keeping).Unspoiled (some k) ∧
      ∀ c ∈ keeping, m.Tends k p c → (m.release k keeping).Tends k p c := by
  have hchildren (p : Nat) (hp : p ∈ m.children k keeping) : m.Begot k p := by
    obtain ⟨i, hi, -, hstarter⟩ := mem_children hp
    exact ⟨i, isInstance_of_get hi, hstarter⟩
  obtain ⟨hreleased, htends⟩ := h.foldl_retire _ ht hchildren
  refine ⟨hreleased, fun c hc => htends c fun hmem => ?_⟩
  have hlet := (List.mem_filter.mp hmem).2
  simp [hc] at hlet

/-! ### New pipelines -/

section

variable {spec : Spec} {place : Placement} {stages : List (Stage × Function)}

theorem assembled_houses {p s : Nat} (h : (m.assembled spec place stages).Houses p s) :
    m.Houses p s ∨ p = m.instances.size ∧ m.slots.size ≤ s ∧ s < (m.assembled spec place stages).slots.size := by
  obtain ⟨i, cause, hi, hmem⟩ := h
  rcases assembled_isInstance hi with hold | ⟨rfl, _, _, _, rfl⟩
  · exact .inl ⟨i, cause, hold, hmem⟩
  · refine .inr ⟨rfl, ?_⟩
    rw [assembled_size]
    rcases List.mem_append.mp hmem with hstage | hinput
    · obtain ⟨entry, hentry, heq⟩ := List.mem_map.mp hstage
      obtain ⟨⟨⟨stage, f⟩, slot⟩, hnumbered, rfl⟩ := List.mem_map.mp hentry
      cases heq
      obtain ⟨-, hle, hlt⟩ := of_mem_numbered hnumbered
      exact ⟨hle, Nat.lt_of_lt_of_le hlt (by omega)⟩
    · obtain ⟨entry, hentry, heq⟩ := List.mem_map.mp hinput
      cases heq
      obtain ⟨-, hle, hlt⟩ := of_mem_numbered hentry
      exact ⟨by omega, by omega⟩

theorem Laid.assembled (h : m.Laid) (houter : ∀ q ∈ place.outer, ∃ j, m.IsInstance q j ∧ j.scope ⊆ place.outer)
    (halone : place.starter = none → place.keepers = []) : (m.assembled spec place stages).Laid := by
  have he := m.assembled_extends spec place stages
  refine ⟨fun {p q s} hp hq => ?_, fun {p s} hs => ?_, fun {p q i} hi hq => ?_, fun {p q i} hi hq => ?_,
    fun {p i} hi => ?_, fun {p i} hi s hs => ?_, fun {p i} hi hstarter => ?_⟩
  · rcases assembled_houses hp with hp | ⟨rfl, hle, -⟩
    · rcases assembled_houses hq with hq | ⟨rfl, hle, -⟩
      · exact h.single hp hq
      · exact absurd (h.bounded hp) (Nat.not_lt.mpr hle)
    · rcases assembled_houses hq with hq | ⟨rfl, -⟩
      · exact absurd (h.bounded hq) (Nat.not_lt.mpr hle)
      · rfl
  · rcases assembled_houses hs with hs | ⟨-, -, hlt⟩
    · rw [assembled_size]
      exact Nat.lt_add_right _ (h.bounded hs)
    · exact hlt
  · rcases assembled_isInstance hi with hold | ⟨rfl, _, _, _, rfl⟩
    · obtain ⟨j, hj, hscope⟩ := h.around hold hq
      exact ⟨j, he.isInstance hj, hscope⟩
    · rcases List.mem_cons.mp hq with rfl | hq
      · exact ⟨_, assembled_new spec place stages, List.Subset.refl _⟩
      · obtain ⟨j, hj, hscope⟩ := houter q hq
        exact ⟨j, he.isInstance hj, List.Subset.trans hscope (List.subset_cons_self _ _)⟩
  · rcases assembled_isInstance hi with hold | ⟨rfl, _, _, _, rfl⟩
    · exact h.elder hold hq
    · rcases List.mem_cons.mp hq with rfl | hq
      · exact Nat.le_refl _
      · obtain ⟨j, hj, -⟩ := houter q hq
        exact Nat.le_of_lt hj.lt
  · rcases assembled_isInstance hi with hold | ⟨rfl, _, _, _, rfl⟩
    · exact h.self hold
    · exact List.mem_cons_self
  · rcases assembled_isInstance hi with hold | ⟨rfl, _, _, _, rfl⟩
    · exact he.houses (h.inputs hold s hs)
    · obtain ⟨name, hmem⟩ := instanceOf_awaited spec place stages hs
      exact ⟨_, .unboundInput name, assembled_new spec place stages,
        List.mem_append_right _ (List.mem_map.mpr ⟨_, hmem, rfl⟩)⟩
  · rcases assembled_isInstance hi with hold | ⟨rfl, _, _, _, rfl⟩
    · exact h.alone hold hstarter
    · exact congrArg (m.instances.size :: ·) (halone hstarter)

/-- A new pipeline has nothing in it that is spoiled. -/
theorem Unspoiled.assembled (h : m.Unspoiled who) (hkept : (m.assembled spec place stages).Kept)
    (houter : ∀ q ∈ place.outer, ∃ j, m.IsInstance q j ∧ j.scope ⊆ place.outer)
    (halone : place.starter = none → place.keepers = []) : (m.assembled spec place stages).Unspoiled who := by
  have he := m.assembled_extends spec place stages
  have htends {k p c : Nat} (hc : m.Tends k p c) : (m.assembled spec place stages).Tends k p c :=
    he.tends hc assembled_alive
  refine ⟨hkept, h.laid.assembled houter halone, fun {p s f} hlives hs hf => ?_, fun {k p t} ht hk hp => ?_,
    fun {p i} hi => ?_, fun {p i} hi hstarter => ?_⟩
  · rw [assembled_slot] at hf
    rcases assembled_houses hs with hs | ⟨-, hle, -⟩
    · obtain ⟨i, cause, hi, hmem⟩ := hs
      obtain ⟨j, hj, hjlives⟩ := alive_iff.mp hlives
      rw [assembled_instances, if_neg (Nat.ne_of_lt hi.lt)] at hj
      exact he.fair (h.slots (alive_iff.mpr ⟨j, hj, hjlives⟩) ⟨i, cause, hi, hmem⟩ hf)
    · rw [slot_eq, Array.getElem?_eq_none hle] at hf
      cases hf
  · rcases assembled_tasks ht with hold | ⟨s, f, slot, -, rfl⟩
    · exact he.unharmed (h.tasks hold hk hp) fun _ => htends
    · trivial
  · rw [assembled_instances] at hi
    split at hi
    · cases hi
      trivial
    · exact he.sincere (h.outputs hi)
  · rcases assembled_isInstance hi with hold | ⟨rfl, -⟩
    · exact he.readable (h.free hold hstarter) assembled_alive
    · exact .inl (alive_iff.mpr ⟨_, (assembled_instances spec place stages _).trans (if_pos rfl), rfl⟩)

end

end StageGraph.Machine
