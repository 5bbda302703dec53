import StageGraph.ControlFlow
import StageGraph.Proofs.Attribution.Tracing
import StageGraph.Proofs.Machine.Blame

/-! Faults that stay inside the document.

With `map` and functions that know of no pipeline and attribute nothing themselves, every spec that a run works by is
read from a part of the root document, however deep its pipeline is nested, and every task carries out a stage that is
written there. No move changes that (`Move.within`). Wherever a fault arises, its node is then a part of the document,
with one exception: a stage that calls `map` without `params` is run on a null that is written nowhere, and it is that
null that is blamed. The main theorem is `faults_inside_document`. -/
namespace StageGraph

/-! ### Functions that stay inside -/

/-- A reply whose failures are not attributed to any node. -/
def Reply.Unattributed : Reply → Prop
  | give r => ∀ ms f, .later ms (.error f) ∈ r.awaited → f.node = none
  | fail failure => failure.toFault.node = none
  | rest _ next => next.Unattributed
  | _ => True

/-- A function that knows of no pipeline and attributes nothing. -/
structure Function.Modest (f : Function) : Prop where
  pure : f.Pure
  unattributed (c : Call) : (f.handler c).Unattributed

/-- A registry of `map` and modest functions. -/
def Registry.Confined (registry : Registry) : Prop :=
  ∀ name f, registry.get? name = some f → f = ControlFlow.map ∨ f.Modest

/-- What a stage of `map` has for a pipeline. -/
def Stage.mapped (node : Value) : Value := (node.field? "params").getD .null

/-- What there is to carry out of a reply of `map`, for the stage of a node. -/
inductive MapReply (node : Value) : Reply → Prop
  | unsuited (text : String) : MapReply node (.fail (.ofMessage text))
  | unread {f : Fault} : Spec.parse (Stage.mapped node) = .error f → MapReply node (.fail (.ofFault f))
  | fansOut {spec : Spec} {items : List Value} : Spec.parse (Stage.mapped node) = .ok spec →
    MapReply node (.spawn spec items fun children => .give (.sequence (children.map .pending)))
  | gathers (children : List Nat) : MapReply node (.give (.sequence ((children.map Promise.held).map .pending)))

theorem mapHandler_reply {c : Call} {node : Value} (hc : c.stage = some node) :
    MapReply node (ControlFlow.mapHandler c) := by
  unfold ControlFlow.mapHandler
  split
  · exact .unsuited _
  · exact .unsuited _
  · exact .unsuited _
  · next stage _ _ hstage _ =>
    rw [hc] at hstage
    cases hstage
    split
    · next f hf => exact .unread hf
    · next spec hspec => exact .fansOut hspec

/-- A part of a stage, or the null in place of it that is written nowhere. -/
theorem Stage.mapped_cases (node : Value) :
    node.Contains (mapped node) ∨ node.field? "params" = none ∧ mapped node = .null := by
  unfold mapped
  cases h : node.field? "params" with
  | none => exact .inr ⟨rfl, rfl⟩
  | some params => exact .inl (.field h)

namespace Machine

variable {m m' : Machine} {document : Value}

/-! ### Where a run works -/

/-- A spec that is read from a part of a document. -/
def ReadFrom (document : Value) (spec : Spec) : Prop :=
  ∃ part, document.Contains part ∧ Spec.parse part = .ok spec

/-- A task that carries out a stage written in a document. -/
def CarriesOut (registry : Registry) (document : Value) (t : Task) : Prop :=
  ∃ s, document.Contains s.node ∧ Spec.parseStage s.node = .ok s ∧ t.node = s.node ∧
    registry.get? s.function = some t.function

/-- Every pipeline, and every task, works by a part of a document. -/
structure Within (m : Machine) (document : Value) : Prop where
  confined : m.registry.Confined
  pipelines {p : Nat} {i : Instance} : m.IsInstance p i → ReadFrom document i.spec
  tasks {k : Nat} {t : Task} : m.IsTask k t → CarriesOut m.registry document t

theorem ReadFrom.inside {spec : Spec} (h : ReadFrom document spec) : spec.Inside document := by
  obtain ⟨part, hpart, hspec⟩ := h
  exact (Spec.parse_inside hspec).within hpart

/-- What there is to carry out of what a confined function replied. -/
theorem replied_cases {k : Nat} {t : Task} {reply : Reply} (hf : t.function = ControlFlow.map ∨ t.function.Modest)
    (hr : m.Replied k t reply) :
    t.function = ControlFlow.map ∧ MapReply t.node reply ∨ reply.Plain ∧ reply.Unattributed := by
  obtain ⟨c, ⟨args, -, -, hstage⟩, hcarries⟩ := hr
  rcases hf with hmap | hmodest
  · refine .inl ⟨hmap, ?_⟩
    have hc : c.stage = some t.node := by
      rw [hstage, hmap]
      rfl
    have hreply : MapReply t.node (t.function.handler c) := by
      rw [hmap]
      exact mapHandler_reply hc
    induction hcarries with
    | all => exact hreply
    | rested _ ih => cases ih
    | started _ hchildren ih =>
      cases ih
      exact .gathers _
  · have hreply : (t.function.handler c).Plain ∧ (t.function.handler c).Unattributed :=
      ⟨hmodest.pure.plain c, hmodest.unattributed c⟩
    refine .inr ?_
    induction hcarries with
    | all => exact hreply
    | rested _ ih => exact ih
    | started _ _ ih => exact ih.1.elim

/-- A confined function only starts pipelines that are read from its stage. -/
theorem Within.spawned (h : m.Within document) {k : Nat} {t : Task} {kept : Bool} {spec : Spec} {inputs : List Value}
    {next : List Promise → Reply} (ht : m.IsTask k t) (hr : m.Replied k t (.start kept spec inputs next)) :
    ReadFrom document spec := by
  obtain ⟨s, hin, -, hnode, hfunction⟩ := h.tasks ht
  rcases replied_cases (h.confined _ _ hfunction) hr with ⟨-, hreply⟩ | ⟨hplain, -⟩
  · cases hreply with
    | fansOut hspec =>
      rcases Stage.mapped_cases t.node with hpart | ⟨-, hnull⟩
      · exact ⟨_, (hnode ▸ hin).trans hpart, hspec⟩
      · rw [hnull] at hspec
        cases hspec
  · exact hplain.elim

/-- A new pipeline that is read from a part of the document works by it, and so do its tasks. -/
theorem Within.assembled (h : m.Within document) {spec : Spec} (hspec : ReadFrom document spec) (place : Placement)
    {stages : List (Stage × Function)} (hstages : m.functionsOf spec = .ok stages) :
    (m.assembled spec place stages).Within document := by
  refine ⟨h.confined, fun {p i} hi => ?_, fun {k t} ht => ?_⟩
  · obtain ⟨jobs, output, alive, hi⟩ := hi
    rw [assembled_instances] at hi
    split at hi
    · have hsame : spec = i.spec := congrArg Instance.spec (Option.some.inj hi)
      exact hsame ▸ hspec
    · exact h.pipelines ⟨jobs, output, alive, hi⟩
  · rcases assembled_isTask ht with hold | ⟨s, f, slot, phase, hmem, rfl⟩
    · exact h.tasks hold
    · obtain ⟨hdeclared, hfunctions⟩ := functionsOf_eq hstages
      have hpair : (s, f) ∈ stages := (of_mem_numbered hmem).1
      have hs : s ∈ spec.stages := hdeclared ▸ List.mem_map_of_mem hpair
      obtain ⟨part, hpart, hparse⟩ := hspec
      exact ⟨s, hpart.trans ((Spec.parse_inside hparse).stage s hs), Spec.parse_stage hparse hs, rfl,
        hfunctions _ hpair⟩

/-- **No move leaves the document.** -/
theorem Move.within (hmove : Move m m') (h : m.Within document) : m'.Within document := by
  cases hmove with
  | getOn he htasks hinstances _ =>
    refine ⟨he.registry ▸ h.confined, fun {p i} hi => ?_, fun {k t} ht => ?_⟩
    · rw [isInstance_iff, hinstances, ← isInstance_iff] at hi
      exact h.pipelines hi
    · rw [isTask_iff, htasks, ← isTask_iff] at ht
      rw [he.registry]
      exact h.tasks ht
  | call => exact ⟨h.confined, h.pipelines, h.tasks⟩
  | halt p =>
    refine ⟨h.confined, fun {q i} hi => ?_, fun {k t} ht => ?_⟩
    · obtain ⟨jobs, output, alive, hi⟩ := hi
      obtain ⟨i', hi', jobs', alive', rfl⟩ := halted_instances hi
      exact h.pipelines ⟨jobs', output, alive', hi'⟩
    · obtain ⟨phase, ht⟩ := ht
      obtain ⟨phase', ht'⟩ := (halted_tasks ht).1
      exact h.tasks (t := t) ⟨phase', ht'⟩
  | spawn ht hr _ _ _ hstages _ => exact h.assembled (h.spawned ht hr) _ hstages

theorem within_of_build {registry : Registry} (hregistry : registry.Confined) {settings : Settings} {p : Nat}
    (hbuild : build { registry } document settings = .ok (p, m)) : m.Within document := by
  obtain ⟨spec, stages, hspec, hstages, rfl, rfl⟩ := build_eq_ok hbuild
  have hempty : Within { registry } document := by
    refine ⟨hregistry, fun {p i} hi => ?_, fun {k t} ht => ?_⟩
    · obtain ⟨jobs, output, alive, hi⟩ := hi
      cases hi
    · obtain ⟨phase, ht⟩ := ht
      cases ht
  exact hempty.assembled ⟨document, .refl document, hspec⟩ _ hstages

/-! ### Where faults arise -/

/-- A stage of a document calls `map` without `params`, and the null that it is run on instead is blamed. -/
def BlamesNull (registry : Registry) (document : Value) (f : Fault) : Prop :=
  f = Spec.invalid "spec must be an object" .null ∧ ∃ s, document.Contains s.node ∧
    Spec.parseStage s.node = .ok s ∧ registry.get? s.function = some ControlFlow.map ∧ s.node.field? "params" = none

/-- What is not attributed yet is attributed to a node of the document. -/
theorem inside_of_none {f : Fault} {node : Value} (hf : f.node = none) (hnode : document.Contains node) :
    (f.blame node).Inside document := by
  refine ⟨node, ?_, hnode⟩
  unfold Fault.blame
  rw [hf]

theorem inside_blame {f : Fault} (h : f.Inside document) (node : Value) : (f.blame node).Inside document := by
  obtain ⟨node', hnode', hin⟩ := h
  rw [blame_of_node (by rw [hnode']; rfl)]
  exact ⟨node', hnode', hin⟩

theorem Within.task_node (h : m.Within document) {k : Nat} {t : Task} (ht : m.IsTask k t) :
    document.Contains t.node := by
  obtain ⟨s, hin, -, hnode, -⟩ := h.tasks ht
  exact hnode ▸ hin

/-- Who reads blames a node of the document. -/
theorem Within.reads (h : m.Within document) {text : String} {a : Station} {r : Reader} (hr : m.Reads text a r) :
    document.Contains r.node ∧ document.Contains r.headNode := by
  cases hr with
  | stage ht hw _ =>
    refine ⟨h.task_node ht, ?_⟩
    rw [hw.inputNode]
    exact (h.pipelines hw.isInstance).inside.references _ hw.declared
  | output hi _ => exact ⟨(h.pipelines hi).inside.output, (h.pipelines hi).inside.output⟩

/-- A failure of a confined function. -/
theorem Within.failed (h : m.Within document) {k : Nat} {t : Task} {failure : Failure} (ht : m.IsTask k t)
    (hr : m.Replied k t (.fail failure)) :
    (failure.toFault.blame t.node).Inside document ∨ BlamesNull m.registry document (failure.toFault.blame t.node) := by
  obtain ⟨s, hin, hread, hnode, hfunction⟩ := h.tasks ht
  rcases replied_cases (h.confined _ _ hfunction) hr with ⟨hmap, hreply⟩ | ⟨-, hnone⟩
  · cases hreply with
    | unsuited text => exact .inl (inside_of_none rfl (h.task_node ht))
    | @unread f hf =>
      change (f.blame t.node).Inside document ∨ BlamesNull m.registry document (f.blame t.node)
      rcases Stage.mapped_cases t.node with hpart | ⟨hbare, hnull⟩
      · obtain ⟨node, hblamed, hinside⟩ := Spec.parse_blames _ f hf
        exact .inl (inside_blame ⟨node, hblamed, (h.task_node ht).trans (hpart.trans hinside)⟩ _)
      · rw [hnull] at hf
        cases hf
        exact .inr ⟨rfl, s, hin, hread, hmap ▸ hfunction, hnode ▸ hbare⟩
  · exact .inl (inside_of_none hnone (h.task_node ht))

/-- A child that cannot be started. -/
theorem Within.unfit (h : m.Within document) {k : Nat} {t : Task} {kept : Bool} {spec : Spec} {inputs : List Value}
    {next : List Promise → Reply} {f : Fault} (ht : m.IsTask k t) (hr : m.Replied k t (.start kept spec inputs next))
    (hf : m.Unfit spec f) : (f.blame t.node).Inside document := by
  cases hf with
  | unknown hs _ => exact inside_blame ⟨_, rfl, (h.spawned ht hr).inside.stage _ hs⟩ _

/-- What is given and fails later is not attributed by who gives it. -/
theorem Within.promised (h : m.Within document) {k ms : Nat} {t : Task} {r : Resolvable Promise} {f : Fault}
    (ht : m.IsTask k t) (hr : m.Replied k t (.give r)) (hf : .later ms (.error f) ∈ r.awaited) :
    (f.blame t.node).Inside document := by
  obtain ⟨s, -, -, -, hfunction⟩ := h.tasks ht
  rcases replied_cases (h.confined _ _ hfunction) hr with ⟨-, hreply⟩ | ⟨-, hnone⟩
  · cases hreply with
    | gathers children =>
      -- all that `map` gives are children
      change _ ∈ Resolvable.awaitedItems _ at hf
      rw [Resolvable.awaitedItems_pending] at hf
      obtain ⟨c, -, hheld⟩ := List.mem_map.mp hf
      cases hheld
  · exact inside_of_none (hnone ms f hf) (h.task_node ht)

/-- Wherever a fault arises, a node of the document is blamed, or the null in place of `params`. -/
theorem Within.arises (h : m.Within document) {a : Station} {f : Fault} (ha : m.Arises a f) :
    f.Inside document ∨ BlamesNull m.registry document f := by
  cases ha with
  | missing hr _ _ => exact .inl ⟨_, rfl, (h.reads hr).2⟩
  | strayed hr _ _ => exact .inl ⟨_, rfl, (h.reads hr).1⟩
  | ended hr _ _ _ _ => exact .inl ⟨_, rfl, (h.reads hr).1⟩
  | positional ht _ _ => exact .inl ⟨_, rfl, h.task_node ht⟩
  | refused ht _ _ => exact .inl ⟨_, rfl, h.task_node ht⟩
  | failed ht hr => exact h.failed ht hr
  | brokeDown ht _ => exact .inl ⟨_, rfl, h.task_node ht⟩
  | unfit ht hr hf => exact .inl (h.unfit ht hr hf)
  | promised ht hr hf => exact .inl (h.promised ht hr hf)
  | unsuitable ht _ _ _ => exact .inl ⟨_, rfl, h.task_node ht⟩

/-- What is traced arose somewhere. -/
theorem Traced.arises {a : Station} {f : Fault} (h : m.Traced a f) : ∃ b, m.Arises b f := by
  induction h with
  | arose _ ha => exact ⟨_, ha⟩
  | heard _ _ _ ih => exact ih

/-! ### Runs -/

/-- Inputs that do not fit are blamed on the node of the input. -/
theorem matchInputs_node {spec : Spec} {supplied : List (String × Value)} {f : Fault}
    (h : matchInputs spec supplied = .error f) : f.node = some spec.inputNode := by
  unfold matchInputs at h
  simp only at h
  split at h
  · obtain ⟨name, -, hname⟩ := exists_of_mapM_error h
    split at hname
    · cases hname
    · cases hname
      rfl
  · cases h
    rfl

/-- **Faults stay inside the document.** With `map` and functions that know of no pipeline and attribute nothing, a
document that cannot be built has the node inside of it that is blamed, and so has one whose run fails, however deep
the pipeline is nested that fails, unless the time is over. There is one exception: a stage that calls `map` and has no
`params` is run on a null instead, and that null is blamed whether the document has one or not. -/
theorem faults_inside_document {registry : Registry} (hregistry : registry.Confined) (document : Value)
    (settings : Settings) : BlamesWithin document (build { registry } document settings) ∧
      ∀ p m, build { registry } document settings = .ok (p, m) → ∀ choose fuel supplied f,
        (m.run choose fuel p supplied).1 = some (.error f) →
          f = ⟨.timeout settings.timeout, none⟩ ∨ f.Inside document ∨ BlamesNull registry document f := by
  constructor
  · intro f hf
    rcases build_eq_error hf with hspec | ⟨spec, hspec, hstages⟩
    · exact Spec.parse_blames document f hspec
    · obtain ⟨s, hs, -, rfl⟩ := functionsOf_error hstages
      exact ⟨s.node, rfl, (Spec.parse_inside hspec).stage s hs⟩
  · intro p m hbuild choose fuel supplied f hf
    obtain ⟨hsound, i, hi, hparse, rfl⟩ := sound_of_build hbuild
    obtain ⟨hrun, hends⟩ := hsound.run hi choose fuel supplied
    have hbuilt : m.Within document := within_of_build hregistry hbuild
    have hwithin : (m.run choose fuel p supplied).2.Within document := hrun.moves.keeps Move.within hbuilt
    rcases hends f hf with hlate | hinputs | hfails
    · exact .inl hlate
    · exact .inr (.inl ⟨_, matchInputs_node hinputs, (Spec.parse_inside hparse).input⟩)
    · obtain ⟨a, ha⟩ := (hrun.sound.output_traced hfails).arises
      have hregistry' : (m.run choose fuel p supplied).2.registry = registry :=
        hrun.extends'.registry.trans (registry_of_build hbuild)
      exact .inr (hregistry' ▸ hwithin.arises ha)

/-- `map`, and a function that refuses every call. -/
def mapRegistry : Registry := ⟨[("map", ControlFlow.map), ("refuse", refuse)]⟩

theorem mapRegistry_confined : mapRegistry.Confined := by
  intro name f hf
  obtain ⟨front, back, heq, -⟩ := List.lookup_eq_some_iff.mp hf
  have hmem : (name, f) ∈ mapRegistry.functions := by
    rw [heq]
    exact List.mem_append_right front List.mem_cons_self
  rcases List.mem_cons.mp hmem with hmap | hmem
  · cases hmap
    exact .inl rfl
  · cases List.mem_singleton.mp hmem
    exact .inr ⟨⟨rfl, fun _ => trivial⟩, fun _ => rfl⟩

/-- A stage that calls `map`, with or without a pipeline to run. -/
def mapping (params : Fields) : Value := .object
  [("input", .array [.string "xs"]),
   ("stages", .array [.object ([("name", .string "outer"), ("func", .string "map"),
      ("input", .object [("items", .string "input.xs")])] ++ params)]),
   ("output", .string "outer")]

/-- A pipeline in which the only stage is refused. -/
def refusing : Fields := [("params", .object
  [("stages", .array [.object [("name", .string "inner"), ("func", .string "refuse")]]), ("output", .string "inner")])]

/-- One item for the stage to be called with. -/
def oneItem : List (String × Value) := [("xs", .array [.integer 1])]

/-- What the run of a built pipeline fails with. -/
def failureOf? (built : Except Fault (Nat × Machine)) : Option Fault :=
  match built with
  | .error _ => none
  | .ok (p, m) =>
    match (m.run inOrder 20 p oneItem).1 with
    | some (.error f) => some f
    | _ => none

theorem run_of_failureOf? {p : Nat} {f : Fault} (h : failureOf? (.ok (p, m)) = some f) :
    (m.run inOrder 20 p oneItem).1 = some (.error f) := by
  unfold failureOf? at h
  simp only at h
  split at h
  · next hrun =>
    cases h
    exact hrun
  · cases h

theorem refusing_fails : ∃ p m f, build { registry := mapRegistry } (mapping refusing) Settings.default = .ok (p, m) ∧
    (m.run inOrder 20 p oneItem).1 = some (.error f) ∧ f.cause = .execution "no" := by
  obtain ⟨p, m, hbuild⟩ : ∃ p m, build { registry := mapRegistry } (mapping refusing) Settings.default = .ok (p, m) :=
    ⟨_, _, rfl⟩
  have hcause : (failureOf? (build { registry := mapRegistry } (mapping refusing) Settings.default)).map Fault.cause =
      some (.execution "no") := by
    decide +kernel
  rw [hbuild] at hcause
  obtain ⟨f, hf, hcause⟩ := Option.map_eq_some_iff.mp hcause
  exact ⟨p, m, f, hbuild, run_of_failureOf? hf, hcause⟩

theorem nested_fault_inside : ∃ p m f,
    build { registry := mapRegistry } (mapping refusing) Settings.default = .ok (p, m) ∧
      (m.run inOrder 20 p oneItem).1 = some (.error f) ∧ f.cause = .execution "no" ∧
      mapRegistry.Confined ∧ f.Inside (mapping refusing) := by
  obtain ⟨p, m, f, hbuild, hrun, hcause⟩ := refusing_fails
  refine ⟨p, m, f, hbuild, hrun, hcause, mapRegistry_confined, ?_⟩
  obtain ⟨-, hends⟩ := faults_inside_document mapRegistry_confined (mapping refusing) Settings.default
  rcases hends p m hbuild inOrder 20 oneItem f hrun with hlate | hinside | ⟨hnull, -⟩
  · rw [hlate] at hcause
    cases hcause
  · exact hinside
  · rw [hnull] at hcause
    cases hcause

/-- Whether a null is blamed. -/
def blamesNull (f : Fault) : Bool :=
  match f.node with
  | some .null => true
  | _ => false

/-- Without `params` a null is blamed that is nowhere in the document. -/
theorem absent_params_blamed : ∃ p m f,
    build { registry := mapRegistry } (mapping []) Settings.default = .ok (p, m) ∧ mapRegistry.Confined ∧
      (m.run inOrder 20 p oneItem).1 = some (.error f) ∧ f.node = some .null ∧ ¬f.Inside (mapping []) := by
  obtain ⟨p, m, hbuild⟩ : ∃ p m, build { registry := mapRegistry } (mapping []) Settings.default = .ok (p, m) :=
    ⟨_, _, rfl⟩
  have hblamed : (failureOf? (build { registry := mapRegistry } (mapping []) Settings.default)).map blamesNull =
      some true := by
    decide +kernel
  rw [hbuild] at hblamed
  obtain ⟨f, hf, hnull⟩ := Option.map_eq_some_iff.mp hblamed
  have hnode : f.node = some .null := by
    unfold blamesNull at hnull
    split at hnull
    · assumption
    · cases hnull
  refine ⟨p, m, f, hbuild, mapRegistry_confined, run_of_failureOf? hf, hnode, fun ⟨node, hsome, hin⟩ => ?_⟩
  rw [hnode] at hsome
  cases hsome
  simp [mapping, Value.Contains.object_iff, Value.Contains.array_iff, Value.Contains.string_iff] at hin

end Machine
end StageGraph
