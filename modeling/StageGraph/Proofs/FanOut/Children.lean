import StageGraph.ControlFlow
import StageGraph.Proofs.FanOut.Parts
import StageGraph.Proofs.FanOut.Queues

/-! A task with a child for every item.

A task that starts its children gets one for every item, in order, with the item as its input (`spawnAll_children`). From
then on its slot says nothing but what the children came to: the list of all their outputs, or the failure of one of
them (`Sums`); unless the end of the pipeline fills it. And as long as nothing is in the slot the task waits for
outputs of children (`Waits`). So it is whoever has a turn (`Fanned.turned`). -/
namespace StageGraph.Machine

open Progress

variable {m m' : Machine} {k p : Nat} {t : Task} {spec : Spec} {parent : Instance} {items : List Value} {cs : List Nat}

/-- A child that was started for an item, in the scope of a pipeline. -/
structure StartedFor (m : Machine) (starter : Option Nat) (spec : Spec) (parent : Instance) (c : Nat) (item : Value) :
    Prop where
  made : ∃ i, m.IsInstance c i ∧ i.spec = spec ∧ i.input = .ready item ∧ i.starter = starter ∧
    i.scope = c :: parent.scope ∧ i.settings = parent.settings

/-- A child that a task started for an item, in the scope of its own pipeline. -/
abbrev ChildFor (m : Machine) (k : Nat) (spec : Spec) (parent : Instance) (c : Nat) (item : Value) : Prop :=
  m.StartedFor (some k) spec parent c item

/-- What the children come to as a whole, for the slot of their task. -/
inductive Sums (m : Machine) (t : Task) (cs : List Nat) : Outcome → Prop
  | all {values : List Value} : List.Forall₂ m.Gives cs values → Sums m t cs (.ok (.array values))
  /-- A failure. In a crowd all children before have succeeded. -/
  | one {f : Fault} {front back : List Nat} {c : Nat} : cs = front ++ c :: back →
    m.standing (.output c) = some (.error f) → (30 < cs.length → ∀ d ∈ front, ∃ v, m.Gives d v) →
      Sums m t cs (.error (f.blame t.node))

/-- The children of a task, one for every item, and what its slot says of them. -/
structure Fanned (m : Machine) (k : Nat) (t : Task) (p : Nat) (spec : Spec) (parent : Instance) (items : List Value)
    (cs : List Nat) : Prop where
  isTask : m.IsTask k t
  pipeline : t.pipeline = some p
  isInstance : m.IsInstance p parent
  children : List.Forall₂ (m.ChildFor k spec parent) cs items
  distinct : cs.Nodup
  slot {o : Outcome} : m.slot t.slot = some o → m.Sums t cs o ∨ m.Left p o

/-- How a task waits for its children. -/
inductive Waits (m : Machine) (t : Task) (p : Nat) (cs : List Nat) : Phase → Prop
  | settling {parts : List (Progress Awaited)} : List.Forall₂ m.Part cs parts → gathered parts = none →
    Waits m t p cs (.settling (.parts .array parts))
  | finished : (m.slot t.slot).isSome = true ∨ m.Ended p → Waits m t p cs .finished

/-- A task waits for its children, or it is over. -/
def Awaits (m : Machine) (k : Nat) (t : Task) (p : Nat) (cs : List Nat) : Prop :=
  ∃ phase, m.tasks[k]? = some { t with phase := phase } ∧ m.Waits t p cs phase

/-! ### Children -/

theorem Extends.startedFor (he : m.Extends m') {starter : Option Nat} {c : Nat} {item : Value}
    (h : m.StartedFor starter spec parent c item) : m'.StartedFor starter spec parent c item := by
  obtain ⟨i, hi, hrest⟩ := h.made
  exact ⟨i, he.isInstance hi, hrest⟩

theorem Extends.functionsOf (he : m.Extends m') (spec : Spec) : m'.functionsOf spec = m.functionsOf spec := by
  have hsame : m'.functionOf = m.functionOf := by
    funext s
    simp only [functionOf, he.registry]
  simp only [Machine.functionsOf, hsame]

/-- In a pipeline that lives a child can be started from a spec whose functions are all there. -/
theorem spawn_child (starter : Option Nat) {stages : List (Stage × Function)} (hparent : m.IsInstance p parent)
    (halive : m.alive p = true) (hstages : m.functionsOf spec = .ok stages) (item : Value) :
    ∃ m', m.spawn (some p) starter spec item = .ok (m.instances.size, m') ∧ m.Extends m' ∧
      m'.StartedFor starter spec parent m.instances.size item ∧ (∀ s, m'.slot s = m.slot s) ∧ m'.alive p = true := by
  obtain ⟨i, hi, hlives⟩ := alive_iff.mp halive
  have hspawn : m.spawn (some p) starter spec item =
      .ok (m.instances.size, (m.assembled spec (.under i starter item) stages).start m.instances.size) := by
    rw [spawn_alive hi hlives, hstages]
    rfl
  obtain ⟨hscope, hsettings⟩ : i.scope = parent.scope ∧ i.settings = parent.settings := by
    obtain ⟨jobs, output, alive, hget⟩ := hparent
    cases hi.symm.trans hget
    exact ⟨rfl, rfl⟩
  have hmade : m.Extends (m.assembled spec (.under i starter item) stages) := m.assembled_extends _ _ _
  have hstarted := (m.assembled spec (.under i starter item) stages).start_extends m.instances.size
  refine ⟨_, hspawn, hmade.trans hstarted, ⟨m.instanceOf spec (.under i starter item) stages, ?_, rfl, rfl, rfl, ?_, ?_⟩,
    fun s => ?_, ?_⟩
  · exact hstarted.isInstance (assembled_new spec _ stages)
  · exact congrArg (m.instances.size :: ·) hscope
  · exact hsettings
  · rw [start_slot, assembled_slot]
  · rw [start_alive]
    exact assembled_alive halive

/-- **Children are started for all items, in order.** -/
theorem spawnAll_children (starter : Option Nat) {stages : List (Stage × Function)} (items : List Value) : ∀ {m : Machine},
    m.IsInstance p parent → m.alive p = true → m.functionsOf spec = .ok stages →
      ∃ cs m', m.spawnAll (some p) starter spec items = (.ok cs, m') ∧ m.Extends m' ∧
        List.Forall₂ (m'.StartedFor starter spec parent) cs items ∧ (∀ s, m'.slot s = m.slot s) ∧
          (∀ c ∈ cs, m.instances.size ≤ c) ∧ cs.Nodup := by
  induction items with
  | nil => exact fun _ _ _ => ⟨[], _, rfl, Extends.refl _, .nil, fun _ => rfl, nofun, .nil⟩
  | cons item rest ih =>
    intro m hparent halive hstages
    obtain ⟨m₁, hspawn, he₁, hchild, hslot₁, halive₁⟩ := spawn_child starter hparent halive hstages item
    have hstages₁ : m₁.functionsOf spec = .ok stages := (he₁.functionsOf spec).trans hstages
    obtain ⟨cs, m₂, hall, he₂, hchildren, hslot₂, hafter, hdistinct⟩ := ih (he₁.isInstance hparent) halive₁ hstages₁
    have hfirst : m.instances.size < m₁.instances.size := by
      obtain ⟨i, hi, -⟩ := hchild.made
      exact hi.lt
    refine ⟨m.instances.size :: cs, m₂, ?_, he₁.trans he₂, .cons (he₂.startedFor hchild) hchildren, fun s => ?_, ?_, ?_⟩
    · simp only [spawnAll, hspawn, hall]
      rfl
    · rw [hslot₂, hslot₁]
    · intro c hc
      rcases List.mem_cons.mp hc with rfl | hc
      · exact Nat.le_refl _
      · have hlater := hafter c hc
        omega
    · refine List.nodup_cons.mpr ⟨fun hmem => ?_, hdistinct⟩
      have hlater := hafter _ hmem
      omega

/-! ### Others at work -/

theorem Extends.sums (he : m.Extends m') {o : Outcome} (h : m.Sums t cs o) : m'.Sums t cs o := by
  cases h with
  | all hvalues => exact .all (hvalues.imp fun _ _ => he.gives)
  | one hcs hfails hfront =>
    exact .one hcs (he.outcome (a := .output _) hfails) fun hcrowd d hd => (hfront hcrowd d hd).imp fun _ => he.gives

theorem Fanned.extends' (h : m.Fanned k t p spec parent items cs) (he : m.Extends m')
    (hslot : ∀ o, m'.slot t.slot = some o → m.slot t.slot = some o ∨ m'.Left p o) :
    m'.Fanned k t p spec parent items cs := by
  refine ⟨he.isTask h.isTask, h.pipeline, he.isInstance h.isInstance, h.children.imp fun _ _ => he.startedFor, h.distinct,
    fun {o} ho => ?_⟩
  rcases hslot o ho with hold | hleft
  · exact (h.slot hold).imp he.sums he.left
  · exact .inr hleft

/-- Nothing is different for the task and its slot. -/
theorem Fanned.alike (h : m.Fanned k t p spec parent items cs) (he : m.Extends m') (hslot : ∀ s, m'.slot s = m.slot s) :
    m'.Fanned k t p spec parent items cs :=
  h.extends' he fun _ ho => .inl ((hslot _).symm.trans ho)

theorem Extends.waits (he : m.Extends m') {phase : Phase} (h : m.Waits t p cs phase) : m'.Waits t p cs phase := by
  cases h with
  | settling hparts hopen => exact .settling (hparts.imp fun _ _ => he.part) hopen
  | finished hover =>
    refine .finished (hover.imp (fun hfilled => ?_) he.ended)
    obtain ⟨o, ho⟩ := Option.isSome_iff_exists.mp hfilled
    exact Option.isSome_iff_exists.mpr ⟨o, he.outcome (a := .slot t.slot) ho⟩

theorem Awaits.alike (h : m.Awaits k t p cs) (he : m.Extends m') (htask : m'.tasks[k]? = m.tasks[k]?) :
    m'.Awaits k t p cs := by
  obtain ⟨phase, ht, hwaits⟩ := h
  exact ⟨phase, htask.trans ht, he.waits hwaits⟩

section

variable {who : Option Nat}

theorem Fanned.deed (h : m.Fanned k t p spec parent items cs) (hstaffed : m.Staffed) (hdeed : Deed who m m')
    (hk : who ≠ some k) : m'.Fanned k t p spec parent items cs := by
  obtain ⟨phase, ht⟩ := h.isTask
  exact h.extends' hdeed.extends' fun o ho => hdeed.slot_cases hstaffed ⟨phase, ht⟩ h.pipeline hk ho

theorem Fanned.deeds (h : m.Fanned k t p spec parent items cs) (hstaffed : m.Staffed) (hdeeds : Deeds who m m')
    (hk : who ≠ some k) : m'.Fanned k t p spec parent items cs :=
  (hdeeds.keeps (P := fun m => m.Staffed ∧ m.Fanned k t p spec parent items cs)
    (fun hdeed hm => ⟨hm.1.deed hdeed, hm.2.deed hm.1 hdeed hk⟩) ⟨hstaffed, h⟩).2

/-- A task that waits for its children goes on to, unless its pipeline ends. -/
theorem Awaits.deed (h : m.Awaits k t p cs) (hp : t.pipeline = some p) (hdeed : Deed who m m') : m'.Awaits k t p cs := by
  obtain ⟨phase, ht, hwaits⟩ := h
  obtain ⟨phase', ht'⟩ := hdeed.extends'.isTask (t := t) ⟨phase, ht⟩
  refine ⟨phase', ht', ?_⟩
  rcases hdeed.task ht' with hold | ⟨-, hover, q, hq, hends⟩ | ⟨hnew, -⟩
  · cases ht.symm.trans hold
    exact hdeed.extends'.waits hwaits
  · obtain rfl := Option.some.inj (hp.symm.trans hq)
    obtain rfl : phase' = .finished := hover
    exact .finished (.inr hends)
  · cases ht.symm.trans hnew

theorem Awaits.deeds (h : m.Awaits k t p cs) (hp : t.pipeline = some p) (hdeeds : Deeds who m m') :
    m'.Awaits k t p cs :=
  hdeeds.keeps (fun hdeed hm => Awaits.deed hm hp hdeed) h

end

/-! ### Its own turn -/

/-- A task with children ends with what they come to. -/
theorem Fanned.finish (h : m.Fanned k t p spec parent items cs) (hstaffed : m.Staffed) (phase : Phase) {o : Outcome}
    (hsums : m.Sums t cs (o.mapError (Fault.blame · t.node))) :
    (m.finish k { t with phase := phase } o).Fanned k t p spec parent items cs ∧
      (m.finish k { t with phase := phase } o).Awaits k t p cs := by
  have hdeeds : Deeds none m (m.release k []) := release_deeds k []
  have hreleased := h.deeds hstaffed hdeeds nofun
  have hwithin : t.slot < (m.release k []).slots.size := (hstaffed.deeds hdeeds).within hreleased.isTask
  have hsums := hdeeds.extends'.sums hsums
  unfold Machine.finish
  generalize m.release k [] = m at hreleased hwithin hsums ⊢
  simp only
  generalize o.mapError (Fault.blame · t.node) = o at hsums ⊢
  have he : m.Extends ((m.fill t.slot o).setPhase k .finished) := (fill_extends t.slot o).trans (setPhase_extends k _)
  constructor
  · refine ⟨he.isTask hreleased.isTask, h.pipeline, he.isInstance hreleased.isInstance,
      hreleased.children.imp fun _ _ => he.startedFor, h.distinct, fun {o'} ho => ?_⟩
    rcases slot_of_fill ho with hold | ⟨-, rfl⟩
    · exact (hreleased.slot hold).imp he.sums he.left
    · exact .inl (he.sums hsums)
  · obtain ⟨phase', ht⟩ := hreleased.isTask
    refine ⟨.finished, ?_, .finished (.inl ?_)⟩
    · rw [setPhase_getElem?, if_pos rfl]
      show (m.tasks[k]?).map _ = _
      rw [ht]
      rfl
    · rw [setPhase_slot, fill_slot, if_pos ⟨rfl, hwithin⟩]
      cases m.slot t.slot <;> rfl

theorem map_checkOutput (hmap : t.function = ControlFlow.map) (values : List Value) :
    t.function.checkOutput (.array values) = .ok (.array values) := by
  rw [hmap]
  simp [Function.checkOutput, ControlFlow.map, ValueType.check]

/-- A task looks at its children, and ends if they come to something as a whole. -/
theorem Fanned.settle (h : m.Fanned k t p spec parent items cs) (hstaffed : m.Staffed)
    (hmap : t.function = ControlFlow.map) (phase : Phase) {parts : List (Progress Awaited)}
    (hparts : List.Forall₂ m.Part cs parts) :
    (m.settle k { t with phase := phase } (.parts .array parts)).Fanned k t p spec parent items cs ∧
      (m.settle k { t with phase := phase } (.parts .array parts)).Awaits k t p cs := by
  have hread : Deeds none m ((Progress.parts .array parts).awaited.foldl read m) := foldl_read_deeds _
  have hsound : ∀ a ∈ (Progress.parts .array parts).awaited, a.isBroken = false := parts_sound hparts
  rw [settle_eq k _ hsound]
  generalize (Progress.parts .array parts).awaited.foldl read m = m at hread ⊢
  have h := h.deeds hstaffed hread nofun
  have hstaffed := hstaffed.deeds hread
  have hlooked : List.Forall₂ m.Part cs (lookThrough (m := Id) m.standing parts) :=
    look_parts_of _ (hparts.imp fun _ _ => hread.extends'.part) true
  have hcrowd : crowded (lookThrough (m := Id) m.standing parts) = true ↔ 30 < cs.length := crowded_iff hlooked
  simp only [settled_eq, look_parts]
  generalize lookThrough (m := Id) m.standing parts = parts at hlooked hcrowd ⊢
  cases hg : gathered parts with
  | none =>
    have hreleased : Deeds none m (m.release k (awaitedChildren (Progress.parts .array parts).awaited)) :=
      release_deeds k _
    have h := h.deeds hstaffed hreleased nofun
    simp only
    generalize m.release k (awaitedChildren (Progress.parts .array parts).awaited) = m at hreleased h ⊢
    obtain ⟨phase', ht⟩ := h.isTask
    have he := m.park_extends k (.settling (.parts .array parts))
    refine ⟨h.alike he fun _ => rfl, _, ?_, .settling (hlooked.imp fun _ _ hpart => ?_) hg⟩
    · rw [park_tasks, setPhase_getElem?, if_pos rfl, ht]
      rfl
    · exact he.part (hreleased.extends'.part hpart)
  | some o =>
    rw [gathered_eq] at hg
    cases o with
    | ok values =>
      refine h.finish hstaffed phase ?_
      rw [map_checkOutput hmap]
      exact .all (values_of_gathered hlooked hg)
    | error f =>
      obtain ⟨front, c, back, hcs, hfails, hfront⟩ := failure_of_gathered hlooked hg
      refine h.finish hstaffed phase ?_
      exact .one hcs hfails fun hmany => hfront (hcrowd.mpr hmany)

/-- **Whoever has a turn, children are asked for until they come to something as a whole.** -/
theorem Fanned.turned {j : Nat} (h : m.Fanned k t p spec parent items cs) (hawaits : m.Awaits k t p cs)
    (hstaffed : m.Staffed) (hmap : t.function = ControlFlow.map) (hturned : Turned j m m') :
    m'.Fanned k t p spec parent items cs ∧ m'.Awaits k t p cs := by
  have hclosed {m₁ m₂ : Machine} {phase : Phase} (hj : j ≠ k) (hends : Closed j m₁ phase m₂)
      (h₁ : m₁.Fanned k t p spec parent items cs) (hawaits₁ : m₁.Awaits k t p cs) :
      m₂.Fanned k t p spec parent items cs ∧ m₂.Awaits k t p cs := by
    have he := hends.extends'
    refine ⟨h₁.alike he fun s => (hends.still.slot s).trans (setPhase_slot j phase s), hawaits₁.alike he ?_⟩
    rw [hends.tasks, setPhase_getElem?, if_neg hj]
  have hworks {m₁ m₂ : Machine} {t' : Task} (hj : j ≠ k) (hstaffed₁ : m₁.Staffed)
      (h₁ : m₁.Fanned k t p spec parent items cs) (hawaits₁ : m₁.Awaits k t p cs) :
      Worked j t' m₁ m₂ → m₂.Fanned k t p spec parent items cs ∧ m₂.Awaits k t p cs
    | ⟨_, _, hdeeds, _, _, hends⟩ => hclosed hj hends
      (h₁.deeds hstaffed₁ hdeeds fun heq => hj (Option.some.inj heq)) (hawaits₁.deeds h.pipeline hdeeds)
  obtain ⟨phase, ht, hwaits⟩ := hawaits
  have hcalled : phase.preparing = false := by
    cases hwaits <;> rfl
  by_cases hj : j = k
  · subst hj
    cases hturned with
    | idle => exact ⟨h, phase, ht, hwaits⟩
    | waits ht' hprepared =>
      cases ht.symm.trans ht'
      cases hcalled.symm.trans (preparing_of_prepared? hprepared)
    | works ht' hresumes =>
      cases ht.symm.trans ht'
      cases hwaits with
      | settling hparts =>
        obtain rfl := hresumes
        exact h.settle hstaffed hmap _ hparts
      | finished => exact hresumes.elim
    | calls ht' _ _ hprepared =>
      cases ht.symm.trans ht'
      cases hcalled.symm.trans (preparing_of_prepared? hprepared)
  · have hother : some j ≠ some k := fun heq => hj (Option.some.inj heq)
    have hawaits : m.Awaits k t p cs := ⟨phase, ht, hwaits⟩
    cases hturned with
    | idle => exact ⟨h, hawaits⟩
    | @waits _ _ _ _ m₁ _ _ hlook =>
      have htake : Deed (some j) m m₁ := .take (taken_of_look hlook)
      exact hclosed hj (.park _) (h.deed hstaffed htake hother) (hawaits.deed h.pipeline htake)
    | works _ _ hworked => exact hworks hj hstaffed h hawaits hworked
    | @calls t' _ _ _ _ _ bound m₁ _ _ _ _ _ hlook _ _ _ hworked =>
      have htake : Deed (some j) m m₁ := .take (taken_of_look hlook)
      have he := m₁.noted_extends j t' bound
      have h₁ := (h.deed hstaffed htake hother).alike he fun _ => rfl
      exact hworks hj ((hstaffed.deed htake).noted j t' bound) h₁ ((hawaits.deed h.pipeline htake).alike he rfl) hworked

end StageGraph.Machine
