import StageGraph.Proofs.Dataflow.Plan
import StageGraph.Proofs.Machine.Frame
import StageGraph.Proofs.Resolvable.Waiting

/-! Where a run of a plan can stand.

Whatever has come about is what it is meant for: the outcomes in the slots, what tasks know of their arguments and
of their results, and what is known of the output (`Accord`). Looking keeps this up, since looking changes nothing
but who has seen a result (`Alike`). -/
namespace StageGraph

/-! ### Machines alike -/

/-- Machines that differ only in who has seen what, and in what was called. -/
structure Machine.Alike (m m' : Machine) : Prop where
  slot (s : Nat) : m'.slot s = m.slot s
  size : m'.slots.size = m.slots.size
  clock : m'.clock = m.clock
  instances : m'.instances = m.instances
  tasks : m'.tasks = m.tasks
  ready : m'.ready = m.ready
  blocked : m'.blocked = m.blocked
  registry : m'.registry = m.registry

namespace Machine

variable {m m' m'' : Machine}

theorem Alike.refl (m : Machine) : Alike m m := ⟨fun _ => rfl, rfl, rfl, rfl, rfl, rfl, rfl, rfl⟩

theorem Alike.trans (h : Alike m m') (h' : Alike m' m'') : Alike m m'' where
  slot s := (h'.slot s).trans (h.slot s)
  size := h'.size.trans h.size
  clock := h'.clock.trans h.clock
  instances := h'.instances.trans h.instances
  tasks := h'.tasks.trans h.tasks
  ready := h'.ready.trans h.ready
  blocked := h'.blocked.trans h.blocked
  registry := h'.registry.trans h.registry

theorem Taken.alike (h : Taken m m') : Alike m m' := by
  obtain ⟨slots, room, rfl, hsize⟩ := h.rest
  exact ⟨h.slot, hsize, rfl, rfl, rfl, rfl, rfl, rfl⟩

theorem refreshed_alike (m : Machine) : Alike m m.refreshed :=
  ⟨fun _ => rfl, rfl, rfl, rfl, rfl, rfl, rfl, rfl⟩

theorem Alike.slot_eq (h : Alike m m') : m'.slot = m.slot := funext h.slot

theorem Alike.standing (h : Alike m m') (a : Awaited) : m'.standing a = m.standing a := by
  cases a with
  | link l => simp only [Machine.standing, linked, h.slot_eq]
  | timer due o => simp only [Machine.standing, h.clock]
  | broken due => rfl
  | output p => simp only [Machine.standing, h.instances]

theorem Alike.stirs (h : Alike m m') (a : Awaited) : m'.stirs a = m.stirs a := by
  cases a with
  | output p => simp only [Machine.stirs, linked, h.slot_eq, h.instances]
  | broken due => simp only [Machine.stirs, h.clock]
  | _ => exact congrArg Option.isSome (h.standing _)

theorem Alike.stirred (h : Alike m m') (k : Nat) : m'.stirred k = m.stirred k := by
  have hstirs : m'.stirs = m.stirs := funext h.stirs
  simp only [Machine.stirred, h.tasks, h.clock, hstirs]

/-! ### What is told -/

theorem receive_agrees {known : Nat → Option Value} {s : Nat} (h : Agrees known s (m.slot s)) :
    (Telling.keeping (Taken m)).holds (receive s) (Agrees known s) := by
  intro m' hm'
  refine ⟨fun o ho => h o ?_, hm'.trans ((receive_sees s).taken m')⟩
  rw [← hm'.slot s]
  exact told_of_receive ho

theorem ask_agrees {known : Nat → Option Value} {a : Awaited} (ha : a.Plain)
    (h : ∀ s ∈ a.slots, Agrees known s (m.slot s)) :
    (Telling.keeping (Taken m)).holds (ask a) (Agrees (Awaited.value? known) a) := by
  cases a with
  | link l => exact Link.look_agrees _ l fun s hs => receive_agrees (h s hs)
  | timer due o => exact fun m' hm' => ⟨standing_agrees (m := m') (a := .timer due o) trivial nofun, hm'⟩
  | _ => exact ha.elim

end Machine

/-! ### Phases -/

namespace Reply

/-- How often a reply rests. -/
def rests : Reply → Nat
  | rest _ next => next.rests + 1
  | _ => 0

end Reply

namespace Phase

/-- How many phases a task has before it, the present one included. -/
def rank : Phase → Nat
  | unstarted _ _ => 4
  | gathering _ _ => 3
  | resting _ _ => 2
  | settling _ => 1
  | hanging => 0
  | finished => 0

/-- How much a task has to do at most before its phase is over. -/
def toil : Phase → Nat
  | gathering _ args => (Progress.awaitedOfAll args).length
  | resting _ next => next.rests
  | settling result => result.awaited.length
  | _ => 0

end Phase

namespace Plan

variable (plan : Plan)

/-- The values of the arguments of a stage. -/
def arguments? (s : Stage) : Option (List Value) :=
  (referred? plan.reference? s.input).map fun given => s.written.map Prod.snd ++ given.map Prod.snd

/-- A phase on the way to the value of a stage. -/
def Fits (sf : Stage × Function) : Phase → Prop
  | .unstarted args positional => args = sf.1.args ∧ positional = sf.1.positional
  | .gathering names args => sf.1.positional = false ∧ names = sf.1.args.map Prod.fst ∧
    Progress.values? (Awaited.value? plan.slotValue?) args = plan.arguments? sf.1 ∧
    Progress.everyOfAll (fun _ => True) Awaited.Plain args
  | .resting _ next => next.Plain ∧
    (next.value?.bind fun v => (sf.2.checkOutput v).toOption) = plan.meaning? sf.1.name
  | .settling result => ((result.value? (Awaited.value? plan.slotValue?)).bind fun v =>
      (sf.2.checkOutput v).toOption) = plan.meaning? sf.1.name ∧
    result.every (fun _ => True) Awaited.Plain
  | .hanging => True
  | .finished => True

/-- The task of a stage. -/
def task (k : Nat) (sf : Stage × Function) (phase : Phase) : Task where
  function := sf.2
  node := sf.1.node
  inputNode := sf.1.inputNode
  pipeline := some 0
  slot := k
  phase := phase

/-- What is known of the output is what it is meant for. -/
def OutputFits : Output → Prop
  | .unread => True
  | .linked r => r.value? (Link.value? plan.slotValue?) = plan.result?
  | .known _ => False

/-- Nothing has come about but what it is meant for, and the output has not. -/
structure Accord (m : Machine) : Prop where
  pipeline : ∃ output, m.instances = #[plan.atWork [] output] ∧ plan.OutputFits output
  slots (s : Nat) : Agrees plan.slotValue? s (m.slot s)
  tasks (k : Nat) (t : Task) : m.tasks[k]? = some t →
    ∃ sf, plan.stages[k]? = some sf ∧ t = task k sf t.phase ∧ plan.Fits sf t.phase

variable {plan} {m m' : Machine}

theorem Accord.alike (h : plan.Accord m) (ha : m.Alike m') : plan.Accord m' where
  pipeline := by
    rw [ha.instances]
    exact h.pipeline
  slots s := by
    rw [ha.slot s]
    exact h.slots s
  tasks k t ht := by
    rw [ha.tasks] at ht
    exact h.tasks k t ht

theorem Accord.starter (h : plan.Accord m) (k : Nat) : ∀ i ∈ m.instances, i.starter ≠ some k := by
  obtain ⟨output, hm, -⟩ := h.pipeline
  intro i hi
  rw [hm] at hi
  rw [List.mem_singleton.mp (Array.mem_toList_iff.mpr hi)]
  exact nofun

end Plan
end StageGraph
