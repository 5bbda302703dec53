import StageGraph.Machine.Turn

/-! Running the machine until something comes about.

What is asked for is looked at first, before any task has its turn. Then tasks take turns, and whatever
they give cause to look at again joins the end of the queue. When no task can move, and the last look left no
fresh results behind, the clock jumps to the next moment at which one can. Which of the ready tasks comes next
is open; `inOrder` takes them as they came. -/
namespace StageGraph.Machine

/-- Which of the ready tasks has the next turn, by its place in the queue. -/
abbrev Choice := Machine → Nat

/-- First come, first served. -/
def inOrder : Choice := fun _ => 0

/-- Whether a task that was put aside should be looked at again. -/
def stirred (m : Machine) (k : Nat) : Bool :=
  match (m.tasks[k]?).map Task.phase with
  | some (.gathering _ args) => (Progress.awaitedOfAll args).any m.stirs
  | some (.resting due _) => due ≤ m.clock
  | some (.settling result) => result.awaited.any m.stirs
  | _ => true

/-- Moves the tasks that should be looked at again to the end of the queue. -/
def wake (m : Machine) : Machine :=
  let (moving, still) := m.blocked.partition m.stirred
  { m with ready := m.ready ++ moving, blocked := still }

/-- Looks at what is asked for, and at who has cause to look again. -/
def looked (m : Machine) (goal : Awaited) : Machine := (m.refreshed.read goal).wake

/-- Gives a ready task its turn. -/
def advance (choose : Choice) (m : Machine) : Machine :=
  let place := choose m % m.ready.length
  match m.ready[place]? with
  | none => m
  | some k => ({ m with ready := m.ready.eraseIdx place }.turn k).wake

/-- Gives ready tasks their turns, so many at most. -/
def advanceMany (choose : Choice) : Nat → Machine → Machine
  | 0, m => m
  | n + 1, m => if m.ready.isEmpty then m else advanceMany choose n (m.advance choose)

/-- How many turns there are between two looks at what is asked for. -/
def turnsPerLook : Nat := 61

/-- The next moment at which a task that was put aside, what is asked for or the deadline has its time. -/
def nextMoment? (m : Machine) (goal : Awaited) (deadline : Option Nat) : Option Nat :=
  let ofTasks := m.blocked.flatMap fun k => (m.tasks[k]?.map fun t => t.phase.moments).getD []
  ((ofTasks ++ goal.moments ++ deadline.toList).filter (m.clock < ·)).min?

/-- How waiting for something ends. -/
inductive Verdict where
  | outcome (o : Outcome)
  /-- The deadline came first. -/
  | late
  /-- Nothing is left that could bring it about. -/
  | stuck

/-- Runs the machine until `goal` has come about or the deadline is there. Without fuel there is no
verdict. -/
def drive (choose : Choice) (goal : Awaited) (deadline : Option Nat) :
    Nat → Machine → Option Verdict × Machine
  | 0, m => (none, m)
  | fuel + 1, m =>
    let m := m.looked goal
    match m.standing goal with
    | some o => (some (.outcome o), m)
    | none =>
      if deadline.any (· ≤ m.clock) then (some .late, m)
      else if m.ready.isEmpty then
        if m.room = 0 then drive choose goal deadline fuel m
        else
          match m.nextMoment? goal deadline with
          | some moment => drive choose goal deadline fuel { m with clock := moment }
          | none => (some .stuck, m)
      else drive choose goal deadline fuel (m.advanceMany choose turnsPerLook)

end StageGraph.Machine
