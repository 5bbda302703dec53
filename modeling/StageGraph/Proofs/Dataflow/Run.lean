import StageGraph.Proofs.Dataflow.Result
import StageGraph.Proofs.Machine.Documents

/-! Runs of pure functions give what their spec evaluates to.

A document that is read and built makes a plan (`run_comesTo`): names of stages and of inputs are declared once, and
every stage has its function. Its run starts where runs can stand (`started_course`), every round keeps it there and
leaves less to do, and when the output comes about it is what the spec evaluates to. The main theorem is
`run_evaluates`. -/
namespace StageGraph

namespace Machine

/-! ### The start of a run -/

theorem numbered_snd {α : Type} (l : List α) : ∀ first : Nat, (numbered first l).map Prod.snd = List.range' first l.length := by
  induction l with
  | nil => exact fun _ => rfl
  | cons a rest ih =>
    intro first
    simp only [numbered, List.map_cons, ih, List.length_cons, List.range'_succ]

/-- The tasks of a new pipeline come after all others. -/
theorem instanceOf_jobs (m : Machine) (spec : Spec) (place : Placement) (stages : List (Stage × Function)) :
    (m.instanceOf spec place stages).jobs = List.range' m.tasks.size stages.length := by
  show (numbered m.tasks.size (m.stageTasks stages)).map Prod.snd = _
  unfold stageTasks
  rw [numbered_snd, List.length_map, numbered_length]

theorem foldl_fill_size (l : List (Nat × Value)) : ∀ m : Machine,
    (l.foldl (fun m (s, v) => m.fill s (.ok v)) m).slots.size = m.slots.size := by
  induction l with
  | nil => exact fun _ => rfl
  | cons entry rest ih => exact fun m => (ih _).trans Array.size_modify

theorem foldl_fill_slot {s : Nat} {o : Outcome} (l : List (Nat × Value)) : ∀ {m : Machine},
    (l.foldl (fun m (s, v) => m.fill s (.ok v)) m).slot s = some o →
      m.slot s = some o ∨ ∃ v, (s, v) ∈ l ∧ o = .ok v := by
  induction l with
  | nil => exact fun h => .inl h
  | cons entry rest ih =>
    intro m h
    rcases ih h with h | ⟨v, hv, rfl⟩
    · rcases slot_of_fill h with h | ⟨rfl, rfl⟩
      · exact .inl h
      · exact .inr ⟨entry.2, List.mem_cons_self, rfl⟩
    · exact .inr ⟨v, List.mem_cons_of_mem _ hv, rfl⟩

theorem mem_zip_numbered {names : List String} {first s : Nat} {values : List Value} {v : Value}
    (h : (s, v) ∈ ((numbered first names).map Prod.snd).zip values) : ∃ k, s = first + k ∧ values[k]? = some v := by
  obtain ⟨k, hk⟩ := List.mem_iff_getElem?.mp h
  obtain ⟨hs, hv⟩ := List.getElem?_zip_eq_some.mp hk
  rw [numbered_snd] at hs
  obtain ⟨hlt, hget⟩ := List.getElem?_eq_some_iff.mp hs
  rw [List.getElem_range', Nat.one_mul] at hget
  exact ⟨k, hget.symm, hv⟩

end Machine

namespace Plan

open Machine

variable (plan : Plan)

/-- The machine of a plan, before its inputs are bound. -/
def built : Machine := ({ registry := plan.registry } : Machine).assembled plan.spec { settings := plan.settings } plan.stages

/-- The jobs of a plan before its stages start. -/
def jobs : List Nat := List.range' 0 plan.stages.length

theorem instanceOf_eq : ({ registry := plan.registry } : Machine).instanceOf plan.spec { settings := plan.settings }
    plan.stages = plan.atWork plan.jobs .unread := by
  have hjobs : _ = plan.jobs :=
    instanceOf_jobs { registry := plan.registry } plan.spec { settings := plan.settings } plan.stages
  rw [← hjobs]
  unfold instanceOf atWork bindings Placement.names
  simp only [Option.isSome_none, Bool.false_eq_true, if_false]
  rw [show ({ registry := plan.registry } : Machine).slots.size + plan.stages.length = plan.stages.length from
    Nat.zero_add _]
  rfl

theorem built_instances : plan.built.instances = #[plan.atWork plan.jobs .unread] := by
  unfold built assembled
  rw [plan.instanceOf_eq]
  rfl

theorem built_tasks (k : Nat) : plan.built.tasks[k]? =
    (plan.stages[k]?).map fun sf => task k sf (.unstarted sf.1.args sf.1.positional) := by
  show ((#[] : Array Task) ++ (List.map _ (numbered 0 plan.stages)).toArray)[k]? = _
  rw [Array.empty_append, List.getElem?_toArray, List.getElem?_map, numbered_getElem?, Option.map_map]
  simp only [Nat.zero_add]
  rfl

theorem built_slot (s : Nat) : plan.built.slot s = none := by
  show ((#[] ++ Array.replicate _ Slot.empty)[s]?).bind Slot.outcome? = none
  rw [Array.empty_append, Array.getElem?_replicate]
  split <;> rfl

/-- The machine of a plan when its inputs are bound. -/
def filled : Machine := plan.built.bindInputs (plan.atWork plan.jobs .unread) plan.values

/-- The machine of a plan when its stages start. -/
def started : Machine := plan.filled.start 0

theorem started_eq : ∃ slots, plan.started = { plan.built with
    slots := slots, ready := plan.jobs, instances := #[plan.atWork [] .unread] } := by
  obtain ⟨slots, hbound⟩ : ∃ slots, plan.filled = { plan.built with slots := slots } := foldl_fill_eq _ plan.built
  refine ⟨slots, ?_⟩
  unfold started start
  rw [hbound]
  simp only [plan.built_instances]
  rfl

theorem started_clock : plan.started.clock = 0 := by
  obtain ⟨slots, hstarted⟩ := plan.started_eq
  rw [hstarted]
  rfl

theorem started_tasks (k : Nat) : plan.started.tasks[k]? =
    (plan.stages[k]?).map fun sf => task k sf (.unstarted sf.1.args sf.1.positional) := by
  obtain ⟨slots, hstarted⟩ := plan.started_eq
  rw [hstarted]
  exact plan.built_tasks k

theorem started_slots : plan.started.slots = plan.filled.slots := by
  unfold started start
  split <;> rfl

theorem started_size : plan.started.slots.size = plan.stages.length + plan.spec.input.length := by
  have hbuilt : plan.built.slots.size = plan.stages.length + plan.spec.input.length := by
    show (#[] ++ Array.replicate _ Slot.empty).size = _
    rw [Array.empty_append, Array.size_replicate]
    rfl
  rw [started_slots, ← hbuilt]
  exact foldl_fill_size _ plan.built

theorem started_slot (s : Nat) : plan.started.slot s = plan.filled.slot s := by
  unfold slot
  rw [started_slots]

/-- What is in a slot when the stages start is the value of an input. -/
theorem input_of_started {s : Nat} {o : Outcome} (h : plan.started.slot s = some o) :
    ∃ k v, s = plan.stages.length + k ∧ plan.values[k]? = some v ∧ o = .ok v := by
  rw [started_slot] at h
  rcases foldl_fill_slot _ h with h | ⟨v, hv, rfl⟩
  · rw [plan.built_slot] at h
    cases h
  · obtain ⟨k, rfl, hk⟩ := mem_zip_numbered hv
    exact ⟨k, v, rfl, hk, rfl⟩

/-- A run of a plan starts where runs of it can stand. -/
theorem started_course : plan.Course plan.started := by
  obtain ⟨slots, hstarted⟩ := plan.started_eq
  have hslot {s : Nat} {o : Outcome} (h : plan.started.slot s = some o) : o.toOption = plan.slotValue? s := by
    obtain ⟨k, v, rfl, hk, rfl⟩ := plan.input_of_started h
    rw [plan.slotValue?_input, hk]
    rfl
  have hmoving (k : Nat) (hk : k ∈ plan.jobs) :
      ∃ t, plan.built.tasks[k]? = some t ∧ t.phase.rank = 4 ∧ plan.started.stirred k = true := by
    obtain ⟨j, hj, rfl⟩ := List.mem_range'.mp hk
    have hget : plan.built.tasks[0 + 1 * j]? = some (task (0 + 1 * j) plan.stages[j]
        (.unstarted plan.stages[j].1.args plan.stages[j].1.positional)) := by
      rw [built_tasks, Nat.one_mul, Nat.zero_add, List.getElem?_eq_getElem hj]
      rfl
    refine ⟨_, hget, rfl, ?_⟩
    rw [hstarted]
    unfold stirred
    simp only [hget]
    rfl
  refine ⟨⟨⟨.unread, ?_, trivial⟩, fun s o h => ?_, fun k t ht => ?_⟩, ?_, fun k hk => ?_, fun k hk => ?_⟩
  · rw [hstarted]
  · exact hslot h
  · rw [started_tasks] at ht
    obtain ⟨sf, hsf, rfl⟩ := Option.map_eq_some_iff.mp ht
    exact ⟨sf, hsf, rfl, rfl, rfl⟩
  · rw [hstarted]
    show (plan.jobs ++ []).Nodup
    rw [List.append_nil]
    exact List.nodup_range'
  · rw [hstarted] at hk ⊢
    change k ∈ plan.jobs ++ [] at hk
    rw [List.append_nil] at hk
    obtain ⟨t, ht, hrank, -⟩ := hmoving k hk
    exact ⟨t, ht, by omega⟩
  · rw [hstarted] at hk
    obtain ⟨-, -, -, hstirred⟩ := hmoving k hk
    exact hstirred

/-- All stages are at work when a run starts, and none of them has started. -/
theorem started_manned {stands : Stage × Function → Phase → Prop}
    (h : ∀ sf, stands sf (.unstarted sf.1.args sf.1.positional)) : plan.Manned stands plan.started := by
  refine ⟨fun {k sf} hsf => ⟨_, ?_, h sf, nofun⟩, fun {k t} ht _ => ?_⟩
  · rw [plan.started_tasks, hsf]
    rfl
  · rw [plan.started_tasks] at ht
    obtain ⟨sf, hsf, -⟩ := Option.map_eq_some_iff.mp ht
    obtain ⟨hlt, -⟩ := List.getElem?_eq_some_iff.mp hsf
    obtain ⟨slots, hstarted⟩ := plan.started_eq
    rw [hstarted]
    refine List.mem_append_left _ (List.mem_range'.mpr ⟨k, hlt, ?_⟩)
    rw [Nat.zero_add, Nat.one_mul]

end Plan

namespace Machine

/-- A run comes to a value, or to none: with fuel enough it ends, and unless it ends late it ends with the value
if there is one, and with a fault otherwise. -/
def ComesTo (choose : Choice) (m : Machine) (p : Nat) (settings : Settings) (supplied : List (String × Value))
    (value : Option Value) : Prop :=
  ∃ enough, ∀ fuel, enough ≤ fuel → ∃ o, (m.run choose fuel p supplied).1 = some o ∧
    (o = .error ⟨.timeout settings.timeout, none⟩ ∨ ∀ v, o = .ok v ↔ value = some v)

variable {registry : Registry} {document : Value} {settings : Settings} {spec : Spec} {p : Nat} {m : Machine}
  {supplied : List (String × Value)} {values : List Value}

/-- A document that is read and built makes a plan, if the functions of its stages are pure. -/
theorem exists_plan (hpure : ∀ s ∈ spec.stages, ∀ f, registry.get? s.function = some f → f.Pure)
    (hparse : Spec.parse document = .ok spec) (hbuild : build { registry } document settings = .ok (p, m))
    (hinputs : matchInputs spec supplied = .ok values) : ∃ plan : Plan, registry = plan.registry ∧ spec = plan.spec ∧
      settings = plan.settings ∧ values = plan.values ∧ p = 0 ∧ m = plan.built := by
  obtain ⟨hinput, hnames⟩ := Spec.parse_nodup hparse
  obtain ⟨spec', stages, hspec, hstages, rfl, rfl⟩ := build_eq_ok hbuild
  cases hparse.symm.trans hspec
  obtain ⟨hstaged, hfunctions⟩ := functionsOf_eq hstages
  have hstage {sf : Stage × Function} (hsf : sf ∈ stages) : sf.1 ∈ spec.stages := by
    rw [← hstaged]
    exact List.mem_map_of_mem hsf
  exact ⟨{ registry, spec, settings, stages, values, staged := hstaged, functions := hfunctions
           pure := fun sf hsf => hpure sf.1 (hstage hsf) sf.2 (hfunctions sf hsf), names := hnames, inputs := hinput
           bound := matchInputs_length hinputs }, rfl, rfl, rfl, rfl, rfl, rfl⟩

/-- What a run gives that has come to a verdict. -/
def Verdict.given (settings : Settings) : Verdict → Option Outcome
  | outcome o => some o
  | late => some (.error ⟨.timeout settings.timeout, none⟩)
  | stuck => none

theorem run_eq (plan : Plan) (hinputs : matchInputs plan.spec supplied = .ok plan.values) (choose : Choice) (fuel : Nat) :
    (plan.built.run choose fuel 0 supplied).1 =
      (drive choose (.output 0) (some plan.settings.patience) fuel plan.started).1.bind (Verdict.given plan.settings) := by
  have hdeadline : plan.built.clock + plan.settings.patience = plan.settings.patience := Nat.zero_add _
  have hinstance : plan.built.instances[0]? = some (plan.atWork plan.jobs .unread) := by
    rw [plan.built_instances]
    rfl
  unfold run
  simp only [hinstance]
  rw [show (plan.atWork plan.jobs .unread).spec = plan.spec from rfl, hinputs]
  simp only [show (plan.atWork plan.jobs .unread).settings = plan.settings from rfl, hdeadline]
  rw [show (plan.built.bindInputs (plan.atWork plan.jobs .unread) plan.values).start 0 = plan.started from rfl]
  cases (drive choose (.output 0) (some plan.settings.patience) fuel plan.started).1 with
  | none => rfl
  | some verdict => cases verdict <;> rfl

theorem run_comesTo (hpure : registry.Pure) (hparse : Spec.parse document = .ok spec)
    (hbuild : build { registry } document settings = .ok (p, m))
    (hinputs : matchInputs spec supplied = .ok values) (choose : Choice) :
    ComesTo choose m p settings supplied (spec.evaluate? registry values) := by
  obtain ⟨plan, rfl, rfl, rfl, rfl, rfl, rfl⟩ := exists_plan (fun s _ f hf => hpure s.function f hf) hparse hbuild hinputs
  obtain ⟨enough, henough⟩ := Plan.drive_ends choose plan.settings.patience plan.started plan.started_course
  refine ⟨enough, fun fuel hfuel => ?_⟩
  rcases henough fuel hfuel with hlate | ⟨o, ho, hvalue⟩
  · rw [run_eq plan hinputs, hlate]
    exact ⟨_, rfl, .inl rfl⟩
  · rw [run_eq plan hinputs, ho]
    refine ⟨o, rfl, .inr fun v => ?_⟩
    have hresult : o.toOption = plan.spec.evaluate? plan.registry plan.values := hvalue
    rw [← hresult]
    cases o with
    | ok w => simp [Except.toOption]
    | error f => simp [Except.toOption]

/-- **A run of pure functions gives what its spec evaluates to**, whichever of its ready tasks comes first at any
time. With fuel enough it ends, and unless its time is over it ends with a value if and only if the output evaluates
to that value. A document that declares the same stages in another order comes to the same. -/
theorem run_evaluates (hpure : registry.Pure) (hparse : Spec.parse document = .ok spec)
    (hbuild : build { registry } document settings = .ok (p, m))
    (hinputs : matchInputs spec supplied = .ok values) :
    (∀ choose, ComesTo choose m p settings supplied (spec.evaluate? registry values)) ∧
      ∀ (document' : Value) (spec' : Spec) (settings' : Settings) (p' : Nat) (m' : Machine),
        Spec.parse document' = .ok spec' → build { registry } document' settings' = .ok (p', m') →
          spec'.stages.Perm spec.stages → spec'.input = spec.input → spec'.output = spec.output →
            ∀ choose, ComesTo choose m' p' settings' supplied (spec.evaluate? registry values) := by
  constructor
  · exact run_comesTo hpure hparse hbuild hinputs
  · intro document' spec' settings' p' m' hparse' hbuild' hperm hinput houtput choose
    have hsame : spec'.evaluate? registry values = spec.evaluate? registry values :=
      Spec.evaluate?_perm hperm (Spec.parse_nodup hparse).2 hinput houtput values
    rw [← hsame]
    exact run_comesTo hpure hparse' hbuild' (matchInputs_congr hinput hinputs) choose

/-- Gives its argument back after a while. -/
def relay : Function where
  name := "relay"
  params := [{ name := "v", type := .any }]
  handler := fun c => .rest 5 (.value (c.argOrNull "v"))

/-- A relay that is declared before the one that it refers to. -/
def relays : Value := .object
  [("input", .array [.string "x"]),
   ("stages", .array
     [.object [("name", .string "b"), ("func", .string "relay"), ("input", .object [("v", .string "a")])],
      .object [("name", .string "a"), ("func", .string "relay"), ("input", .object [("v", .string "input.x")])]]),
   ("output", .string "b")]

/-- The registry of the relay alone. -/
def relayRegistry : Registry := ⟨[("relay", relay)]⟩

theorem relay_pure : relayRegistry.Pure := by
  intro name f h
  unfold Registry.get? relayRegistry at h
  rw [List.lookup_cons] at h
  split at h
  · cases h
    exact ⟨rfl, fun c => nofun⟩
  · cases h

theorem relays_run : ∃ spec p m, Spec.parse relays = .ok spec ∧
    build { registry := relayRegistry } relays Settings.default = .ok (p, m) ∧
    matchInputs spec [("x", .integer 7)] = .ok [.integer 7] ∧
    spec.evaluate? relayRegistry [.integer 7] = some (.integer 7) ∧
    ∀ choose, ComesTo choose m p Settings.default [("x", .integer 7)] (spec.evaluate? relayRegistry [.integer 7]) :=
  ⟨_, _, _, rfl, rfl, rfl, rfl, (run_evaluates relay_pure (show Spec.parse relays = _ from rfl) rfl rfl).1⟩

end Machine
end StageGraph
