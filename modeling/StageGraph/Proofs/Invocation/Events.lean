import StageGraph.Proofs.Invocation.Course

/-! Invocations in the run of a machine.

Whatever happens to a machine is that pipelines are built, that functions are invoked without one, and strides
(`Event`). All along every task that has not started is fresh: its function was not called, and nothing is in its slot;
and whoever waits is in a queue, or will be when its pipeline is started (`Grounded`). So an invocation stays as it is until
it starts (`Event.begins`), and is accounted for from then on (`Later.accounted`). -/
namespace StageGraph.Machine

variable {m m' : Machine} {who : Option Nat} {j k : Nat} {t : Task} {given : List (String × Resolvable Awaited)}
  {positional : Bool}

/-! ### What can be relied on -/

/-- A task whose function is to be called, and for which nothing was done so far. -/
structure Fresh (m : Machine) (k : Nat) (t : Task) : Prop where
  calls : m.callsOf k = []
  children : m.started k = []
  silent : m.Silent t
  housed : m.Housed t

/-- Who waits is in a queue, or will be when its pipeline is started. -/
def Attended (m : Machine) (k : Nat) (t : Task) : Prop :=
  match t.phase with
  | .unstarted _ _ => m.Lined k t
  | .hanging => True
  | .finished => True
  | _ => m.Waiting k

/-- How things stand with all tasks, but for one that is at work. -/
structure Grounded (who : Option Nat) (m : Machine) : Prop where
  staffed : m.Staffed
  caller {call : Received} : call ∈ m.log → call.task < m.tasks.size
  starter {k : Nat} : some k ∈ m.starters → k < m.tasks.size
  tidy : m.Tidy
  attributes (p : Nat) : m.Attributes p
  fresh {k : Nat} {t : Task} : m.tasks[k]? = some t → who ≠ some k → t.phase.begun = false → m.Fresh k t
  attended {k : Nat} {t : Task} : m.tasks[k]? = some t → who ≠ some k → m.Attended k t

/-- **What an output fails with has a node.** -/
theorem Grounded.output_node (h : m.Grounded who) {c : Nat} {f : Fault}
    (hf : m.standing (.output c) = some (.error f)) : f.node.isSome := by
  simp only [standing] at hf
  split at hf
  · next o ho =>
    cases hf
    exact h.attributes c _ ho f rfl
  · cases hf

theorem attended_of_lined (h : m.Lined k t) (hphase : t.phase.begun = false) : m.Attended k t := by
  rcases t with ⟨f, node, inputNode, p, s, phase⟩
  cases phase with
  | unstarted => exact h
  | _ => cases hphase

/-- Who is attended stays so if it stays in line, and in the queue. -/
theorem Attended.imp (h : m.Attended k t) (hlined : m.Lined k t → m'.Lined k t)
    (hwaiting : m.Waiting k → m'.Waiting k) : m'.Attended k t := by
  rcases t with ⟨f, node, inputNode, p, s, phase⟩
  cases phase with
  | unstarted => exact hlined h
  | hanging => trivial
  | finished => trivial
  | _ => exact hwaiting h

theorem attended_of_over (hphase : t.phase = .hanging ∨ t.phase = .finished) : m.Attended k t := by
  unfold Attended
  rcases hphase with hhanging | hfinished
  · rw [hhanging]
    trivial
  · rw [hfinished]
    trivial

theorem Grounded.busy (h : m.Grounded none) (who : Option Nat) : m.Grounded who :=
  ⟨h.staffed, h.caller, h.starter, h.tidy, h.attributes, fun ht _ => h.fresh ht nofun, fun ht _ => h.attended ht nofun⟩

/-- What is no task yet has not called, and has no children. -/
theorem Grounded.beyond (h : m.Grounded who) (hk : m.tasks.size ≤ k) : m.callsOf k = [] ∧ m.started k = [] := by
  constructor
  · refine List.filter_eq_nil_iff.mpr fun call hcall heq => ?_
    have hlt := h.caller (Array.mem_toList_iff.mp hcall)
    rw [beq_iff_eq.mp heq] at hlt
    omega
  · refine List.eq_nil_iff_forall_not_mem.mpr fun c hc => ?_
    obtain ⟨i, hi, hstarter⟩ := mem_started.mp hc
    have hmem : some k ∈ m.starters := by
      refine List.mem_iff_getElem?.mpr ⟨c, ?_⟩
      rw [starters_getElem?, hi, Option.map_some, hstarter]
    have hlt := h.starter hmem
    omega

theorem Fresh.beside (h : m.Fresh k t) (hbeside : Beside k t m m') (hhoused : m'.Housed t) : m'.Fresh k t :=
  ⟨hbeside.calls.trans h.calls, hbeside.children.trans h.children, hbeside.silent h.silent, hhoused⟩

/-! ### New tasks -/

section

variable (spec : Spec) (place : Placement) (stages : List (Stage × Function))

/-- A new instance is nothing that others notice. -/
theorem assembled_beside (hk : place.starter ≠ some k) : Beside k t m (m.assembled spec place stages) := by
  refine ⟨⟨m.assembled_extends _ _ _, fun ho => .inl ((assembled_slot _ _ _ _).symm.trans ho), rfl, ?_⟩,
    fun {t'} ht => .inl ⟨?_, fun hhoused p hp => assembled_alive (hhoused p hp)⟩⟩
  · rw [started_push (assembled_starters spec place stages), if_neg hk, List.append_nil]
  · show (m.tasks ++ _)[k]? = some t'
    rw [Array.getElem?_append_left (Array.getElem?_eq_some_iff.mp ht).1, ht]

variable {spec place stages}

/-- The tasks of a new instance are to be started. -/
theorem assembled_toStart {n : Nat} {s : Stage} {f : Function} (hn : stages[n]? = some (s, f)) {slot : Nat} (phase : Phase) :
    (m.assembled spec place stages).ToStart (m.tasks.size + n) (m.taskOf s f slot phase) := by
  refine ⟨m.instances.size, m.instanceOf spec place stages, rfl, ?_, ?_⟩
  · rw [assembled_instances, if_pos rfl]
  · have hjob : (numbered m.tasks.size (m.stageTasks stages))[n]? = (m.stageTasks stages)[n]?.map fun t =>
        (t, m.tasks.size + n) := numbered_getElem? _ _ _
    have htask : (m.stageTasks stages)[n]? =
        some (m.taskOf s f (m.slots.size + n) (.unstarted s.args s.positional)) := by
      unfold stageTasks
      rw [List.getElem?_map, numbered_getElem?, hn]
      rfl
    rw [htask] at hjob
    exact List.mem_map.mpr ⟨_, List.mem_of_getElem? hjob, rfl⟩

theorem Grounded.assembled (h : m.Grounded who)
    (hstarter : ∀ k, place.starter = some k → who = some k ∧ k < m.tasks.size) :
    (m.assembled spec place stages).Grounded who := by
  have hgrown : m.tasks.size ≤ (m.assembled spec place stages).tasks.size := by
    show _ ≤ (m.tasks ++ _).size
    rw [Array.size_append]
    exact Nat.le_add_right _ _
  have hother {k : Nat} (hk : who ≠ some k) : place.starter ≠ some k := fun heq => hk (hstarter k heq).1
  refine ⟨h.staffed.assembled, fun hcall => Nat.lt_of_lt_of_le (h.caller hcall) hgrown, fun {k} hk => ?_,
    h.tidy.assembled _ _ _, fun p => (h.attributes p).assembled, fun {k t} ht hk hphase => ?_, fun {k t} ht hk => ?_⟩
  · rw [assembled_starters] at hk
    rcases List.mem_append.mp hk with hold | hnew
    · exact Nat.lt_of_lt_of_le (h.starter hold) hgrown
    · exact Nat.lt_of_lt_of_le (hstarter k (List.mem_singleton.mp hnew).symm).2 hgrown
  · rcases assembled_tasks_getElem? ht with hold | ⟨n, s, f, rfl, hn, rfl⟩
    · have hfresh := h.fresh hold hk hphase
      exact hfresh.beside (assembled_beside _ _ _ (hother hk)) fun p hp => assembled_alive (hfresh.housed p hp)
    · obtain ⟨hcalls, hstarted⟩ := h.beyond (Nat.le_add_right m.tasks.size n)
      have hbeside : Beside (m.tasks.size + n) (m.taskOf s f (m.slots.size + n) (.unstarted s.args s.positional)) m
          (m.assembled spec place stages) := assembled_beside _ _ _ (hother hk)
      have hempty : m.slots[m.slots.size + n]? = none := Array.getElem?_eq_none (Nat.le_add_right _ _)
      refine ⟨hbeside.calls.trans hcalls, hbeside.children.trans hstarted, fun o ho => ?_, fun p hp => ?_⟩
      · have hnone : m.slot (m.slots.size + n) = none := by rw [slot_eq, hempty]; rfl
        cases hnone.symm.trans ((assembled_slot _ _ _ _).symm.trans ho)
      · cases hp
        exact alive_iff.mpr ⟨m.instanceOf spec place stages, by rw [assembled_instances, if_pos rfl], rfl⟩
  · rcases assembled_tasks_getElem? ht with hold | ⟨n, s, f, rfl, hn, rfl⟩
    · refine (h.attended hold hk).imp (fun hlined => hlined.imp id fun ⟨p, i, hp, hi, hmem⟩ => ⟨p, i, hp, ?_, hmem⟩) id
      rw [assembled_instances, if_neg (Nat.ne_of_lt (Array.getElem?_eq_some_iff.mp hi).1), hi]
    · exact attended_of_lined (.inr (assembled_toStart hn _)) rfl

end

/-! ### Deeds -/

/-- No task is taken away. -/
theorem Extends.tasks_le (he : m.Extends m') : m.tasks.size ≤ m'.tasks.size := by
  refine Nat.le_of_not_lt fun hlt => ?_
  obtain ⟨phase, ht⟩ := he.isTask (isTask_of_get (Array.getElem?_eq_getElem hlt))
  have hin := (Array.getElem?_eq_some_iff.mp ht).1
  omega

theorem Grounded.deed (h : m.Grounded who) (hdeed : Deed who m m') : m'.Grounded who := by
  have he := hdeed.extends'
  -- what is neither new nor made by the deed is left alone by it
  have hkept (hstarters : ∀ k, some k ∈ m'.starters → some k ∈ m.starters)
      (htask : ∀ {k : Nat} {t : Task}, m'.tasks[k]? = some t → t.phase ≠ .finished → m.tasks[k]? = some t) :
      m'.Grounded who := by
    refine ⟨h.staffed.deed hdeed, fun hcall => ?_, fun hk => Nat.lt_of_lt_of_le (h.starter (hstarters _ hk)) he.tasks_le,
      h.tidy.deed hdeed, fun p => (h.attributes p).deed hdeed, fun {k t} ht hk hphase => ?_, fun {k t} ht hk => ?_⟩
    · rw [hdeed.log] at hcall
      exact Nat.lt_of_lt_of_le (h.caller hcall) he.tasks_le
    · have hold := htask ht fun hfinished => nomatch (congrArg Phase.begun hfinished).symm.trans hphase
      have hbeside := hdeed.beside h.staffed (isTask_of_get hold) hk
      have hfresh := h.fresh hold hk hphase
      rcases hbeside.unmoved hold with ⟨-, hhoused⟩ | ⟨hfinished, -⟩
      · exact hfresh.beside hbeside (hhoused hfresh.housed)
      · have hover := congrArg (Phase.begun ∘ Task.phase) (Option.some.inj (hfinished.symm.trans ht))
        cases hover.trans hphase
    · by_cases hfinished : t.phase = .finished
      · exact attended_of_over (.inr hfinished)
      · have hlined : m.Lined k t → m'.Lined k t := hdeed.lined ht hfinished
        exact (h.attended (htask ht hfinished) hk).imp hlined hdeed.waiting
  cases hdeed.outline with
  | same htasks hsame =>
    exact hkept (fun k hk => by rwa [hsame.starters] at hk) fun ht _ => by rwa [htasks] at ht
  | ends p htasks hsame =>
    refine hkept (fun k hk => by rwa [hsame.starters, halted_starters] at hk) fun {k t} ht hphase => ?_
    rw [htasks, halted_tasks_getElem?] at ht
    obtain ⟨before, hbefore, rfl⟩ := Option.map_eq_some_iff.mp ht
    split at hphase
    · exact absurd rfl hphase
    · next hnot => rwa [if_neg hnot]
  | makes _ _ _ hstarter heq =>
    subst heq
    refine h.assembled fun k hk => ?_
    obtain ⟨hwho, t, ⟨phase, ht⟩, -⟩ := hstarter k hk
    exact ⟨hwho, (Array.getElem?_eq_some_iff.mp ht).1⟩

theorem Grounded.deeds (h : m.Grounded who) (hdeeds : Deeds who m m') : m'.Grounded who :=
  hdeeds.keeps (fun hdeed hm => hm.deed hdeed) h

/-- Nothing is different but the clock and queues, from which nobody is lost but who is at work. -/
theorem Grounded.still (h : m.Grounded who) (hstill : m.Still m')
    (hwaiting : ∀ j, who ≠ some j → m.Waiting j → m'.Waiting j) : m'.Grounded who := by
  have hstarters : m'.starters = m.starters := by unfold starters; rw [hstill.instances]
  refine ⟨h.staffed.still hstill, fun hcall => ?_, fun hk => ?_, fun p r hr => ?_, fun p output ho => ?_,
    fun {k t} ht hk hphase => ?_, fun {k t} ht hk => ?_⟩
  · rw [hstill.log] at hcall
    rw [hstill.tasks]
    exact h.caller hcall
  · rw [hstarters] at hk
    rw [hstill.tasks]
    exact h.starter hk
  · rw [hstill.instances] at hr
    exact h.tidy p r hr
  · rw [hstill.instances] at ho
    exact h.attributes p output ho
  · rw [hstill.tasks] at ht
    have hfresh := h.fresh ht hk hphase
    exact hfresh.beside (.still hstill) (hstill.housed hfresh.housed)
  · rw [hstill.tasks] at ht
    refine (h.attended ht hk).imp (fun hlined => hlined.imp (hwaiting k hk) fun htostart => ?_) (hwaiting k hk)
    unfold ToStart
    rwa [hstill.instances]

/-! ### Turns -/

theorem Grounded.act (h : m.Grounded (some k)) (hact : Act k m m') : m'.Grounded (some k) := by
  cases hact with
  | deed hdeed => exact h.deed hdeed
  | @call t args ht =>
    have hlt : k < m.tasks.size := by
      obtain ⟨phase, ht⟩ := ht
      exact (Array.getElem?_eq_some_iff.mp ht).1
    refine ⟨h.staffed.noted k t args, fun {call} hcall => ?_, h.starter, h.tidy, h.attributes, fun {j t'} ht' hj hphase => ?_,
      fun ht' hj => (h.attended ht' hj).imp id id⟩
    · rcases Array.mem_push.mp hcall with hold | rfl
      · exact h.caller hold
      · exact hlt
    · have hbeside : Beside j t' m (m.noted k t args) :=
        (Act.call args ht).beside h.staffed (isTask_of_get (m := m) ht') fun heq => hj (heq ▸ rfl)
      have hfresh := h.fresh ht' hj hphase
      exact hfresh.beside hbeside hfresh.housed

theorem Grounded.acts (h : m.Grounded (some k)) (hacts : Acts k m m') : m'.Grounded (some k) := by
  induction hacts with
  | refl => exact h
  | tail _ hlast ih => exact ih.act hlast

/-- Who is put aside is in a queue, or it is over or has no end. -/
theorem Closed.attended {phase : Phase} (h : Closed k m phase m') (hbegun : phase.begun = true) (t : Task) :
    m'.Attended k { t with phase := phase } := by
  have hwaits {phase : Phase} (hbegun : phase.begun = true) (hwaiting : m'.Waiting k) :
      m'.Attended k { t with phase := phase } := by
    cases phase with
    | unstarted => cases hbegun
    | hanging => trivial
    | finished => trivial
    | _ => exact hwaiting
  cases h with
  | park => exact hwaits hbegun (.inr (List.mem_append_right _ (List.mem_singleton_self _)))
  | _ => trivial

theorem Grounded.closed {phase : Phase} (h : m.Grounded (some k)) (hclosed : Closed k m phase m')
    (hbegun : phase.begun = true) : m'.Grounded none := by
  have hwaiting {j : Nat} (hj : m.Waiting j) : m'.Waiting j := by
    cases hclosed with
    | park => exact hj.imp_right (List.mem_append_left _)
    | _ => exact hj
  have hstarters : m'.starters = m.starters := by unfold starters; rw [hclosed.instances]
  have hsize : m'.tasks.size = m.tasks.size := by rw [hclosed.tasks]; exact Array.size_modify ..
  refine ⟨hclosed.staffed h.staffed, fun hcall => ?_, fun hj => ?_, fun p r hr => ?_, fun p output ho => ?_,
    fun {j t} ht _ hphase => ?_, fun {j t} ht _ => ?_⟩
  · rw [hclosed.still.log] at hcall
    rw [hsize]
    exact h.caller hcall
  · rw [hstarters] at hj
    rw [hsize]
    exact h.starter hj
  · rw [hclosed.instances] at hr
    exact h.tidy p r hr
  · rw [hclosed.instances] at ho
    exact h.attributes p output ho
  · rw [hclosed.tasks] at ht
    rcases setPhase_cases ht with ⟨rfl, before, -, rfl⟩ | ⟨hkj, hold⟩
    · cases hphase.symm.trans hbegun
    · have hfresh := h.fresh hold (fun heq => hkj (Option.some.inj heq)) hphase
      exact hfresh.beside (hclosed.beside hkj) (hclosed.housed hfresh.housed)
  · rw [hclosed.tasks] at ht
    rcases setPhase_cases ht with ⟨rfl, before, -, rfl⟩ | ⟨hkj, hold⟩
    · exact hclosed.attended hbegun before
    · refine (h.attended hold fun heq => hkj (Option.some.inj heq)).imp (fun hlined => hlined.imp hwaiting ?_) hwaiting
      unfold ToStart
      rw [hclosed.instances]
      exact id

/-- A turn leaves everybody in order. -/
theorem Grounded.turn (h : m.Grounded (some k)) : (m.turn k).Grounded none := by
  have hfresh : m.refreshed.Grounded (some k) := h.still (refreshed_still m) fun _ _ => id
  rcases turn_ends m k with ⟨m₁, phase, hacts, hbegun, hclosed⟩ | ⟨heq, hover⟩
  · exact (hfresh.acts hacts).closed hclosed hbegun
  · rw [heq]
    refine ⟨hfresh.staffed, hfresh.caller, hfresh.starter, hfresh.tidy, hfresh.attributes, fun {j t} ht _ hphase => ?_,
      fun {j t} ht _ => ?_⟩
    · refine hfresh.fresh ht (fun heq => ?_) hphase
      cases heq
      rcases hover t ht with hhanging | hfinished
      · rw [hhanging] at hphase
        cases hphase
      · rw [hfinished] at hphase
        cases hphase
    · by_cases hkj : k = j
      · subst hkj
        exact attended_of_over (hover t ht)
      · exact hfresh.attended ht fun heq => hkj (Option.some.inj heq)

theorem Grounded.stride {root : Nat} (h : m.Grounded none) (hstride : Stride root m m') : m'.Grounded none := by
  obtain ⟨m₁, m₂, hbefore, hafter, hkept', ⟨hkept, hdeeds⟩ | ⟨k, -, hkept, rfl⟩⟩ := hstride.split
  · exact ((h.still hbefore fun j _ => hkept j).deeds hdeeds).still hafter fun j _ => hkept' j
  · have hm₁ : m₁.Grounded (some k) :=
      (h.busy (some k)).still hbefore fun j hj => hkept j fun heq => hj (congrArg some heq.symm)
    exact hm₁.turn.still hafter fun j _ => hkept' j

/-! ### Invocations without a pipeline -/

section

variable (f : Function) (node : Value) (phase : Phase)

/-- The task that is added. -/
def hired (m : Machine) (f : Function) (node : Value) (phase : Phase) : Task where
  function := f
  node := node
  inputNode := node
  pipeline := none
  slot := m.slots.size
  phase := phase

theorem addTask_tasks (k : Nat) : (m.addTask f node phase).2.tasks[k]? =
    if k = m.tasks.size then some (m.hired f node phase) else m.tasks[k]? := Array.getElem?_push

theorem addTask_slot (s : Nat) : (m.addTask f node phase).2.slot s = m.slot s := by
  rw [slot_eq, slot_eq]
  show ((m.slots.push .empty)[s]?).bind Slot.outcome? = _
  rw [Array.getElem?_push]
  split
  · next hs => rw [hs, Array.getElem?_eq_none (Nat.le_refl _)]; rfl
  · rfl

theorem addTask_kept (ht : m.tasks[k]? = some t) : (m.addTask f node phase).2.tasks[k]? = some t := by
  rw [addTask_tasks, if_neg (Nat.ne_of_lt (Array.getElem?_eq_some_iff.mp ht).1), ht]

theorem addTask_extends : m.Extends (m.addTask f node phase).2 := by
  refine ⟨fun ⟨before, ht⟩ => ⟨before, addTask_kept f node phase ht⟩, id, id, fun {a o} ho => ?_, rfl⟩
  cases a with
  | slot s => exact (addTask_slot f node phase s).trans ho
  | output p => exact ho

theorem addTask_beside : Beside k t m (m.addTask f node phase).2 :=
  ⟨⟨addTask_extends f node phase, fun ho => .inl ((addTask_slot f node phase _).symm.trans ho), rfl, rfl⟩,
    fun ht => .inl ⟨addTask_kept f node phase ht, id⟩⟩

/-- A task after one is added: an old one, or the new one. -/
theorem addTask_isTask (h : (m.addTask f node phase).2.IsTask k t) :
    m.IsTask k t ∨ k = m.tasks.size ∧ t.slot = m.slots.size := by
  obtain ⟨phase', ht⟩ := h
  rw [addTask_tasks] at ht
  split at ht
  · next hk => exact .inr ⟨hk, (congrArg Task.slot (Option.some.inj ht)).symm⟩
  · exact .inl ⟨phase', ht⟩

theorem Staffed.addTask (h : m.Staffed) : (m.addTask f node phase).2.Staffed := by
  have hsize : (m.addTask f node phase).2.slots.size = m.slots.size + 1 := Array.size_push ..
  refine ⟨fun hi hname => ?_, fun {k k' t t'} ht ht' hslot => ?_, fun {k t} ht => ?_, fun {s} hs => ?_, fun {k t} ht hs => ?_⟩
  · obtain ⟨k, t, ht, hrest⟩ := h.stage hi hname
    exact ⟨k, t, (addTask_extends f node phase).isTask ht, hrest⟩
  · rcases addTask_isTask f node phase ht with hold | ⟨hk, hnew⟩
    · have hlt := h.within hold
      rcases addTask_isTask f node phase ht' with hold' | ⟨-, hnew'⟩
      · exact h.alone hold hold' hslot
      · omega
    · rcases addTask_isTask f node phase ht' with hold' | ⟨hk', -⟩
      · have hlt := h.within hold'
        omega
      · exact hk.trans hk'.symm
  · rw [hsize]
    rcases addTask_isTask f node phase ht with hold | ⟨-, hnew⟩
    · have hlt := h.within hold
      omega
    · omega
  · have hlt := h.bounded hs
    omega
  · rcases addTask_isTask f node phase ht with hold | ⟨-, hnew⟩
    · exact h.unbound hold hs
    · have hlt := h.bounded hs
      omega

theorem Grounded.addTask (h : m.Grounded none) : (m.addTask f node phase).2.Grounded none := by
  have hgrown : m.tasks.size < (m.addTask f node phase).2.tasks.size := by
    show _ < (m.tasks.push _).size
    rw [Array.size_push]
    exact Nat.lt_succ_self _
  refine ⟨h.staffed.addTask f node phase, fun hcall => Nat.lt_trans (h.caller hcall) hgrown,
    fun hk => Nat.lt_trans (h.starter hk) hgrown, h.tidy, h.attributes, fun {k t} ht _ hphase => ?_, fun {k t} ht _ => ?_⟩
  · rw [addTask_tasks] at ht
    split at ht
    · next hk =>
      cases ht
      obtain ⟨hcalls, hstarted⟩ := h.beyond (Nat.le_of_eq hk.symm)
      have hnone : m.slot m.slots.size = none := by rw [slot_eq, Array.getElem?_eq_none (Nat.le_refl _)]; rfl
      refine ⟨hcalls, hstarted, fun o ho => ?_, fun p hp => nomatch hp⟩
      cases hnone.symm.trans ((addTask_slot f node phase _).symm.trans ho)
    · have hfresh := h.fresh ht nofun hphase
      exact hfresh.beside (addTask_beside f node phase) hfresh.housed
  · have hwaiting {j : Nat} (hj : m.Waiting j) : (m.addTask f node phase).2.Waiting j :=
      hj.imp_left (List.mem_append_left _)
    rw [addTask_tasks] at ht
    split at ht
    · next hk =>
      cases ht
      have hready : (m.addTask f node phase).2.Waiting k :=
        .inl (List.mem_append_right _ (List.mem_singleton.mpr hk))
      cases phase with
      | unstarted => exact .inl hready
      | hanging => trivial
      | finished => trivial
      | _ => exact hready
    · exact (h.attended ht nofun).imp (fun hlined => hlined.imp hwaiting id) hwaiting

end

/-! ### Whatever happens -/

/-- One thing that happens to a machine. -/
inductive Event (m : Machine) : Machine → Prop
  | build {document : Value} {settings : Settings} {root : Nat} {m' : Machine} :
    m.build document settings = .ok (root, m') → Event m m'
  /-- A function is invoked without a pipeline. -/
  | invoke (f : Function) (node : Value) (phase : Phase) : Event m (m.addTask f node phase).2
  | stride {root : Nat} {m' : Machine} : Stride root m m' → Event m m'

/-- What a machine becomes, whatever happens to it. -/
abbrev Later : Machine → Machine → Prop := Relation.ReflTransGen Event

theorem Strides.later {root : Nat} (h : Strides root m m') : Later m m' :=
  Relation.ReflTransGen.mono (fun _ _ => .stride) _ _ h

theorem Event.grounded (h : Event m m') (hm : m.Grounded none) : m'.Grounded none := by
  cases h with
  | build hbuild =>
    obtain ⟨spec, stages, -, -, -, rfl⟩ := build_eq_ok hbuild
    exact hm.assembled nofun
  | invoke f node phase => exact hm.addTask f node phase
  | stride hstride => exact hm.stride hstride

theorem grounded_empty (registry : Registry) : Grounded none { registry } :=
  ⟨staffed_empty registry, fun hcall => absurd hcall (Array.not_mem_empty _), nofun, nofun, nofun, nofun, nofun⟩

theorem Later.grounded (h : Later m m') (hm : m.Grounded none) : m'.Grounded none := by
  induction h with
  | refl => exact hm
  | tail _ hlast ih => exact hlast.grounded ih

/-- **Whatever happens is done by others, or it is a task's own turn.** -/
theorem Event.split (h : Event m m') (hstaffed : m.Staffed) (ht : m.IsTask k t) : Beside k t m m' ∨
    ∃ m₁, m.Still m₁ ∧ m₁.clock = m.clock ∧ (m₁.turn k).Still m' := by
  cases h with
  | build hbuild =>
    obtain ⟨spec, stages, -, -, -, rfl⟩ := build_eq_ok hbuild
    exact .inl (assembled_beside _ _ _ nofun)
  | invoke f node phase => exact .inl (addTask_beside f node phase)
  | stride hstride =>
    obtain ⟨m₁, m₂, hbefore, hafter, -, ⟨-, hdeeds⟩ | ⟨j, hclock, -, rfl⟩⟩ := hstride.split
    · have hdone := hdeeds.beside (hstaffed.still hbefore) (hbefore.extends'.isTask ht) nofun
      exact .inl ((Beside.still hbefore).trans (hdone.trans (.still hafter)))
    · by_cases hj : j = k
      · subst hj
        exact .inr ⟨m₁, hbefore, hclock, hafter⟩
      · have hdone := turn_beside (hstaffed.still hbefore) (hbefore.extends'.isTask ht) hj
        exact .inl ((Beside.still hbefore).trans (hdone.trans (.still hafter)))

theorem begun_congr (hinstances : m'.instances = m.instances) (hclock : m'.clock = m.clock) (t : Task)
    (args : List (String × Resolvable Source)) : m'.begun t args = m.begun t args := by
  have hbegin : m'.begin t = m.begin t := by
    funext source
    cases source with
    | reference text => simp only [Machine.begin, link_congr hinstances]
    | later ms o => simp only [Machine.begin, hclock]
    | broken ms => simp only [Machine.begin, hclock]
  rw [begun, begun, hbegin]

/-- An invocation that has started stays accounted for. -/
theorem Event.accounted (h : Event m m') (hm : m.Grounded none) (haccounted : m.Accounted k t given positional) :
    m'.Accounted k t given positional := by
  rcases h.split hm.staffed haccounted.isTask with hbeside | ⟨m₁, hbefore, -, hafter⟩
  · exact hbeside.accounted haccounted
  · have haccounted₁ := (Beside.still hbefore).accounted haccounted
    exact (Beside.still hafter).accounted (turn_accounted (hm.staffed.still hbefore) haccounted₁)

/-- An invocation that has not started stays as it is, or it starts now. -/
theorem Event.begins {args : List (String × Resolvable Source)} (h : Event m m') (hm : m.Grounded none)
    (ht : m.tasks[k]? = some t) (hphase : t.phase = .unstarted args positional) :
    m'.tasks[k]? = some t ∨ m'.Accounted k t (m.begun t args) positional := by
  have hfresh := hm.fresh ht nofun (by rw [hphase]; rfl)
  rcases h.split hm.staffed (isTask_of_get ht) with hbeside | ⟨m₁, hbefore, hclock, hafter⟩
  · refine (hbeside.unmoved ht).imp And.left fun ⟨hfinished, hover⟩ => ⟨.finished, [], hfinished, ?_⟩
    have hstands : m'.Stands k t (m.begun t args) positional [] none :=
      .uncalled (hbeside.calls.trans hfresh.calls) (hbeside.children.trans hfresh.children)
    exact .lapsed hstands nofun hover (hbeside.silent hfresh.silent)
  · have hstill : Beside k t m m₁ := .still hbefore
    have hturned := turn_begins (hm.staffed.still hbefore) (hbefore.tasks ▸ ht) hphase (hstill.calls.trans hfresh.calls)
      (hstill.children.trans hfresh.children) (hstill.silent hfresh.silent) (hbefore.housed hfresh.housed)
    rw [begun_congr hbefore.instances hclock] at hturned
    exact .inr ((Beside.still hafter).accounted hturned)

/-- **An invocation has not started, or it is accounted for from when it did.** -/
theorem Later.accounted {made : Machine} {args : List (String × Resolvable Source)} (h : Later made m)
    (hmade : made.Grounded none) (ht : made.tasks[k]? = some t) (hphase : t.phase = .unstarted args positional) :
    m.tasks[k]? = some t ∨ ∃ start, Later made start ∧ start.tasks[k]? = some t ∧ Later start m ∧
      m.Accounted k t (start.begun t args) positional := by
  induction h with
  | refl => exact .inl ht
  | @tail m m' hfirst hlast ih =>
    have hm := Later.grounded hfirst hmade
    rcases ih with hunstarted | ⟨start, hbefore, hstart, hafter, haccounted⟩
    · refine (hlast.begins hm hunstarted hphase).imp id fun haccounted => ?_
      exact ⟨m, hfirst, hunstarted, .single hlast, haccounted⟩
    · exact .inr ⟨start, hbefore, hstart, hafter.tail hlast, hlast.accounted hm haccounted⟩

end StageGraph.Machine
