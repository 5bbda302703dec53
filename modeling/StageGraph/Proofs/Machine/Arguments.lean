import StageGraph.Pipeline
import StageGraph.Proofs.Dataflow.Evaluation

/-! The arguments of a stage: those written down, which are there, and those that refer to others, which are looked
up when the stage starts. -/
namespace StageGraph.Machine

variable {m : Machine}

theorem values?_append {known : Awaited → Option Value} (fields : Fields) (rest : List (Progress Awaited)) :
    Progress.values? known ((fields.map fun p => .done (.ok p.2)) ++ rest) =
      (Progress.values? known rest).map fun values => fields.map Prod.snd ++ values := by
  induction fields with
  | nil =>
    show _ = (Progress.values? known rest).map fun values => values
    rw [Option.map_id']
    rfl
  | cons field fields ih =>
    rw [List.map_cons, List.cons_append, Progress.values?, ih]
    show Option.map _ (Option.map _ (Progress.values? known rest)) = _
    rw [Option.map_map]
    rfl

/-- The arguments of a stage, when it starts. -/
def argumentsOf (m : Machine) (t : Task) (s : Stage) : List (Progress Awaited) :=
  s.args.map fun a => (a.2.map (m.begin t)).progress

theorem argumentsOf_eq (t : Task) (s : Stage) : argumentsOf m t s =
    (s.written.map fun p => .done (.ok p.2)) ++ s.input.map fun i =>
      .pending (.link (m.link t.pipeline t.inputNode none i.2)) := by
  unfold argumentsOf Stage.args
  rw [List.map_append, List.map_map, List.map_map]
  rfl

/-- What a stage awaits when it starts: its references. -/
theorem argumentsOf_awaited (t : Task) (s : Stage) : Progress.awaitedOfAll (argumentsOf m t s) =
    s.input.map fun i => .link (m.link t.pipeline t.inputNode none i.2) := by
  rw [argumentsOf_eq]
  induction s.written with
  | nil =>
    induction s.input with
    | nil => rfl
    | cons entry rest ih =>
      rw [List.map_cons, List.map_cons]
      exact congrArg (_ :: ·) ih
  | cons field rest ih => exact ih

/-- The arguments as they are bound: those written down, then those that refer to others. -/
theorem zip_arguments {reference : String → Option Value} {s : Stage} {given : Fields}
    (h : referred? reference s.input = some given) :
    (s.args.map Prod.fst).zip (s.written.map Prod.snd ++ given.map Prod.snd) = s.written ++ given := by
  have hnames : s.args.map Prod.fst = s.written.map Prod.fst ++ given.map Prod.fst := by
    rw [referred?_keys h]
    unfold Stage.args
    rw [List.map_append, List.map_map, List.map_map]
    rfl
  rw [hnames, ← List.map_append, ← List.map_append]
  exact (List.zip_of_prod rfl rfl).symm

end StageGraph.Machine
