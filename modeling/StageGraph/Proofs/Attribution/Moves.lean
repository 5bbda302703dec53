import Mathlib.Logic.Relation
import StageGraph.Proofs.Attribution.Origin

/-! What a machine does, move by move.

Whatever tasks and looks do to a machine is made of moves of four kinds (`Move`): they get on with what is there, a
function is called, pipelines end, or a task starts a child in a pipeline that lives. Nothing else makes an instance,
changes what lasts of one or adds a call. What every move keeps is kept for good (`Moves.keeps`). -/
namespace StageGraph

/-- A task, however far it is. -/
def Task.lasting (t : Task) : Task := { t with phase := .finished }

/-- An instance, however far its tasks and its output are. -/
def Instance.lasting (i : Instance) : Instance := { i with jobs := [], output := .unread }

namespace Machine

/-- Where a child is placed that a pipeline starts. -/
def Placement.under (parent : Instance) (starter : Option Nat) (input : Value) : Placement where
  input := some input
  settings := parent.settings
  outer := parent.scope
  keepers := if starter.isSome then parent.keepers else []
  starter := starter

/-- A child that is not kept is started by the task itself. -/
theorem eq_of_starter {kept : Bool} {k k' : Nat} (h : (if kept then none else some k) = some k') : k' = k := by
  cases kept <;> cases h
  rfl

/-- One move of a machine. -/
inductive Move (m : Machine) : Machine → Prop
  /-- Tasks, outputs and slots get on. -/
  | getOn {m' : Machine} : m.Extends m' →
    (∀ k : Nat, (m'.tasks[k]?).map Task.lasting = (m.tasks[k]?).map Task.lasting) →
      (∀ p : Nat, (m'.instances[p]?).map Instance.lasting = (m.instances[p]?).map Instance.lasting) →
        m'.log = m.log → Move m m'
  /-- A function is called with the arguments that its stage has for it. -/
  | call {k : Nat} {t : Task} {args bound : Fields} : m.IsTask k t → m.Given t args →
    t.function.bindArguments args = .ok bound →
      Move m { m with log := m.log.push ⟨k, t.function.name, t.function.recorded, bound⟩ }
  /-- A pipeline ends, and all that end with it. -/
  | halt (p : Nat) : m.Extends (m.halted p) → Move m (m.halted p)
  /-- A task starts a child, for itself or to be kept. -/
  | spawn {k p : Nat} {t : Task} {kept : Bool} {spec : Spec} {inputs : List Value} {next : List Promise → Reply}
      {i : Instance} {v : Value} {stages : List (Stage × Function)} : m.IsTask k t →
    m.Replied k t (.start kept spec inputs next) → t.pipeline = some p → m.instances[p]? = some i → i.alive = true →
      m.functionsOf spec = .ok stages →
        m.Extends (m.assembled spec (.under i (if kept then none else some k) v) stages) →
          Move m (m.assembled spec (.under i (if kept then none else some k) v) stages)

/-- Any number of moves. -/
abbrev Moves : Machine → Machine → Prop := Relation.ReflTransGen Move

variable {m m' : Machine}

/-- What every move keeps is kept for good. -/
theorem Moves.keeps {P : Machine → Prop} (hstep : ∀ {m m'}, Move m m' → P m → P m') (h : Moves m m') (hm : P m) :
    P m' := by
  induction h with
  | refl => exact hm
  | tail _ hmove ih => exact hstep hmove ih

theorem Move.extends' (h : Move m m') : m.Extends m' := by
  cases h with
  | getOn he => exact he
  | call => exact ⟨id, id, id, fun {a o} ho => by cases a <;> exact ho, rfl⟩
  | halt p he => exact he
  | spawn _ _ _ _ _ _ he => exact he

/-! ### What lasts -/

theorem isTask_iff {k : Nat} {t : Task} : m.IsTask k t ↔ (m.tasks[k]?).map Task.lasting = some t.lasting := by
  constructor
  · intro ⟨phase, ht⟩
    rw [ht]
    rfl
  · intro h
    obtain ⟨t', ht', hlasting⟩ := Option.map_eq_some_iff.mp h
    refine ⟨t'.phase, ht'.trans ?_⟩
    cases t
    cases t'
    cases hlasting
    rfl

theorem isInstance_iff {p : Nat} {i : Instance} : m.IsInstance p i ↔
    ∃ alive, (m.instances[p]?).map Instance.lasting = some { i.lasting with alive := alive } := by
  constructor
  · intro ⟨jobs, output, alive, hi⟩
    rw [hi]
    exact ⟨alive, rfl⟩
  · intro ⟨alive, h⟩
    obtain ⟨i', hi', hlasting⟩ := Option.map_eq_some_iff.mp h
    refine ⟨i'.jobs, i'.output, i'.alive, hi'.trans ?_⟩
    cases i
    cases i'
    cases hlasting
    rfl

end Machine
end StageGraph
