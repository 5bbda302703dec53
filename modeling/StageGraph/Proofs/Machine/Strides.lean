import Mathlib.Logic.Relation
import StageGraph.Pipeline
import StageGraph.Proofs.Machine.Driving

/-! What a run does, in strides.

A `Stride` is what is done with a pipeline in its run, or what is done beside it: only the declared inputs are filled from
outside, and time passes only when nobody can move (`Idle`). A run is made of such strides (`run_strides`), and what a
machine has been through is a `Course` of states, one stride after the other. -/
namespace StageGraph.Machine

variable {m m' : Machine} {root : Nat}

/-- Nobody can move before time passes. -/
def Idle (m : Machine) : Prop := m.ready = [] ∧ ∀ k ∈ m.blocked, m.stirred k = false

/-- One thing that is done with a pipeline in its run, or beside it. -/
inductive Stride (root : Nat) (m : Machine) : Machine → Prop
  | bind {i : Instance} (values : List Value) : m.instances[root]? = some i → Stride root m (m.bindInputs i values)
  | start : Stride root m (m.start root)
  | look (goal : Awaited) : Stride root m (m.looked goal)
  | turn (choose : Choice) : Stride root m (m.advance choose)
  | pass (moment : Nat) : m.Idle → Stride root m { m with clock := moment }
  | giveUp (p : Nat) : Stride root m (m.retire p)
  /-- A child is started by hand, in whatever pipeline. -/
  | spawn {p child : Nat} {spec : Spec} {v : Value} {m' : Machine} :
    m.spawn (some p) none spec v = .ok (child, m') → Stride root m m'

/-- Any number of strides. -/
abbrev Strides (root : Nat) : Machine → Machine → Prop := Relation.ReflTransGen (Stride root)

/-- The states that a machine has been through from a start on, the first and the last included. -/
inductive Course (root : Nat) (start : Machine) : List Machine → Machine → Prop
  | start : Course root start [start] start
  | stride {states : List Machine} {m m' : Machine} : Course root start states m → Stride root m m' →
    Course root start (states ++ [m']) m'

/-- A course ends with where the machine is. -/
theorem Course.last {start : Machine} {states : List Machine} (h : Course root start states m) :
    ∃ former, states = former ++ [m] := by
  cases h with
  | start => exact ⟨[], rfl⟩
  | stride => exact ⟨_, rfl⟩

/-- Strides take a machine through a course. -/
theorem Strides.course (h : Strides root m m') : ∃ states, Course root m states m' := by
  induction h with
  | refl => exact ⟨_, .start⟩
  | tail _ hstride ih =>
    obtain ⟨states, hcourse⟩ := ih
    exact ⟨_, hcourse.stride hstride⟩

/-! ### Runs -/

/-- Whoever is left aside by a look has no cause to look again. -/
theorem looked_idle {goal : Awaited} (h : (m.looked goal).ready = []) : (m.looked goal).Idle :=
  ⟨h, fun _ hk => wake_still hk⟩

theorem advanceMany_strides (choose : Choice) (n : Nat) : ∀ m : Machine, Strides root m (m.advanceMany choose n) := by
  induction n with
  | zero => exact fun _ => .refl
  | succ n ih =>
    intro m
    unfold advanceMany
    split
    · exact .refl
    · exact .head (.turn choose) (ih _)

theorem drive_strides (choose : Choice) (goal : Awaited) (deadline : Option Nat) (fuel : Nat) :
    ∀ m : Machine, Strides root m (drive choose goal deadline fuel m).2 := by
  induction fuel with
  | zero => exact fun _ => .refl
  | succ fuel ih =>
    intro m
    have hlook : Stride root m (m.looked goal) := .look goal
    unfold drive
    simp only
    split
    · exact .single hlook
    · split
      · exact .single hlook
      · split
        · next hready =>
          split
          · exact .head hlook (ih _)
          · split
            · exact .head hlook (.head (.pass _ (looked_idle (List.isEmpty_iff.mp hready))) (ih _))
            · exact .single hlook
        · exact .head hlook ((advanceMany_strides choose turnsPerLook _).trans (ih _))

/-- A run is made of strides. -/
theorem run_strides (choose : Choice) (fuel : Nat) (m : Machine) (root : Nat) (supplied : List (String × Value)) :
    Strides root m (m.run choose fuel root supplied).2 := by
  unfold run
  split
  · exact .refl
  · next i hi =>
    split
    · exact .single (.giveUp root)
    · next values _ =>
      refine .head (.bind values hi) (.head .start (.tail ?_ (.giveUp root)))
      exact drive_strides choose _ _ fuel _

end StageGraph.Machine
