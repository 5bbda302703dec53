import StageGraph.Machine.Lifetime

/-! The turn of a task.

A task gathers its arguments, calls its function, carries out the reply and settles the result. It goes as
far as it can in one turn and is then put aside, unless it is over. Whatever ends it, its result goes into
its slot, a fault attributed to its stage unless it is attributed already; only a pending value that breaks
down takes the task with it, which then has nothing to tell. -/
namespace StageGraph.Machine

/-- Ends a task with its result; its children end with it. -/
def finish (m : Machine) (k : Nat) (t : Task) (o : Outcome) : Machine :=
  ((m.release k []).fill t.slot (o.mapError (Fault.blame · t.node))).setPhase k .finished

/-- What is missing when a task is gone, for one of a pipeline. -/
def loss? (m : Machine) (t : Task) : Option Cause := do
  let i ← m.instances[← t.pipeline]?
  List.lookup t.slot i.abandoned

/-- Ends a task that breaks down itself. Its slot is given up; one outside of all pipelines stays empty. -/
def collapse (m : Machine) (k : Nat) (t : Task) : Machine :=
  let rest := m.release k []
  (match m.loss? t with
    | some cause => rest.fill t.slot (.error ⟨cause, none⟩)
    | none => rest).setPhase k .finished

/-- The children whose outputs are awaited. -/
def awaitedChildren (l : List Awaited) : List Nat :=
  l.filterMap fun
    | .output p => some p
    | _ => none

/-- Whether a look at a result breaks down. -/
def breaksAt (m : Machine) (result : Progress Awaited) : Bool := (result.look (m := Option) m.sound?).isNone

/-- Checks a result that is there, or waits for it. A child ends when no part of the result is left that
awaits it. -/
def settled (m : Machine) (k : Nat) (t : Task) (result : Progress Awaited) : Machine :=
  match result.look (m := Id) m.standing with
  | .done (.ok v) => m.finish k t ((t.function.checkOutput v).mapError fun cause => ⟨cause, none⟩)
  | .done (.error f) => m.finish k t (.error f)
  | result => (m.release k (awaitedChildren result.awaited)).park k (.settling result)

/-- Asks for a result. -/
def settle (m : Machine) (k : Nat) (t : Task) (result : Progress Awaited) : Machine :=
  let m := result.awaited.foldl read m
  if m.breaksAt result then m.collapse k t else m.settled k t result

/-- What a breakdown is told as. -/
def breakdown (f : Function) (message : Option String) : Cause :=
  .execution ("func " ++ Cause.quoted f.name ++ " panicked: " ++ message.getD "unknown panic")

/-- The children among what a reply gives. -/
def givenChildren (r : Resolvable Promise) : List Nat :=
  r.awaited.filterMap fun
    | .held p => some p
    | _ => none

/-- Carries out a reply. -/
def perform (k : Nat) (t : Task) : Reply → Machine → Machine
  | .give r, m => (m.release k (givenChildren r)).settle k t (r.map m.promised).progress
  | .fail f, m => m.finish k t (.error f.toFault)
  | .panic message, m => m.finish k t (.error ⟨breakdown t.function message, none⟩)
  | .rest ms next, m =>
    if ms = 0 then perform k t next m else m.park k (.resting (m.clock + ms) next)
  | .hang, m => m.setPhase k .hanging
  | .start kept spec inputs next, m =>
    match m.spawnAll t.pipeline (if kept then none else some k) spec inputs with
    | (.error f, m) => m.finish k t (.error f)
    | (.ok children, m) => perform k t (next (children.map .held)) m

/-- The call of a function, with the context that it wants. -/
def callOf (m : Machine) (t : Task) (args : Fields) : Call where
  args := args
  stage := if t.function.wantsStage then some t.node else none
  owner := if t.function.wantsPipeline then t.pipeline.bind m.owner? else none

/-- Calls the function with the arguments that its declaration makes of the given ones. -/
def call (m : Machine) (k : Nat) (t : Task) (args : Fields) : Machine :=
  match t.function.bindArguments args with
  | .error cause => m.finish k t (.error ⟨cause, none⟩)
  | .ok args =>
    let received : Received := ⟨k, t.function.name, t.function.recorded, args⟩
    perform k t (t.function.handler (m.callOf t args)) { m with log := m.log.push received }

/-- Whether a look at arguments breaks down. -/
def breaksThrough (m : Machine) (args : List (Progress Awaited)) : Bool :=
  (Progress.lookThrough (m := Option) m.sound? args).isNone

/-- Calls the function once all arguments are there, or waits for them. -/
def collect (m : Machine) (k : Nat) (t : Task) (names : List String) (args : List (Progress Awaited)) :
    Machine :=
  let (args, m) := Progress.lookThrough ask args m
  match Progress.gathered args with
  | none => m.park k (.gathering names args)
  | some (.error f) => m.finish k t (.error f)
  | some (.ok values) => m.call k t (Fields.ofList (names.zip values))

/-- Asks for the arguments. -/
def gather (m : Machine) (k : Nat) (t : Task) (names : List String) (args : List (Progress Awaited)) :
    Machine :=
  if m.breaksThrough args then m.collapse k t else m.collect k t names args

/-- One turn. A task that is over, or has no end, does nothing. -/
def turn (m : Machine) (k : Nat) : Machine :=
  let m := m.refreshed
  match m.tasks[k]? with
  | none => m
  | some t =>
    match t.phase with
    | .unstarted args positional =>
      if positional then m.finish k t (.error ⟨.positionalArgs t.function.name, none⟩)
      else m.gather k t (args.map Prod.fst) (args.map fun a => (a.2.map (m.begin t)).progress)
    | .gathering names args => m.gather k t names args
    | .resting due next => if due ≤ m.clock then perform k t next m else m.park k (.resting due next)
    | .settling result => m.settle k t result
    | .hanging => m
    | .finished => m

end StageGraph.Machine
