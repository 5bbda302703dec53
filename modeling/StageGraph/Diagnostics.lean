import StageGraph.Inspect
import StageGraph.Machine.State
import StageGraph.Machine.Scope

/-! Functions, registries and pipelines in the diagnostic notation. -/
namespace StageGraph

/-- A parameter with its type and its default. -/
def Param.inspect (p : Param) : String :=
  Inspect.record "Param"
    [("name", Inspect.text p.name), ("ty", Inspect.valueType p.type), ("default", Inspect.optional p.default)]
    false

def Function.inspect (f : Function) : String :=
  Inspect.record "FunctionDef"
    [("name", Inspect.text f.name),
     ("params", Inspect.list (f.params.map Param.inspect)),
     ("output", Inspect.valueType f.output),
     ("category", Inspect.list (f.category.map Inspect.text)),
     ("extra_args", Inspect.flag f.extraArgs),
     ("stage", Inspect.flag f.wantsStage),
     ("pipeline", Inspect.flag f.wantsPipeline)]
    true

/-- A registry shows the names of its functions. -/
def Registry.inspect (r : Registry) : String :=
  Inspect.record "FunctionRegistry" [("functions", Inspect.list (r.names.map Inspect.text))] false

/-- A pipeline shows how many stages it has, how many of its tasks have been started and are not over, how
many are still to be started, and the shape of its output. `id` stands for the run. -/
def Machine.inspectPipeline (m : Machine) (id : String) (p : Nat) : Option String :=
  (m.instances[p]?).map fun i =>
    let active := (m.tasks.filter fun t =>
      t.pipeline == some p &&
        match t.phase with
        | .finished => false
        | _ => true).size - i.jobs.length
    Inspect.record "Pipeline"
      [("inner",
          Inspect.record "PipelineInner"
            [("run_id", id),
             ("stages", Nat.repr i.stages.length),
             ("has_parent", Inspect.flag (1 < i.scope.length)),
             ("tasks", Inspect.record "StageTasks" [("active", Nat.repr active)] false)]
            true),
       ("output", Inspect.resolvable i.spec.output.tree),
       ("unstarted", Nat.repr i.jobs.length)]
      true

/-- A handle shows the run that it belongs to and whether that lives. -/
def Machine.inspectHandle (m : Machine) (id : String) (p : Nat) : String :=
  Inspect.record "PipelineHandle" [("run_id", id), ("alive", Inspect.flag (m.alive p))] false

end StageGraph
