import StageGraph.Proofs.Dataflow.Plan

/-! Where faults arise, and who hears of them.

Outcomes come about at `Station`s: in slots, of which every stage has one, and at the outputs of instances. A fault
arises at one of them (`Arises`), and its node is set there. A station hears of what other stations come to: a
stage of the stages that it refers to and of the children whose outputs its function gives, an output of the
stages that it refers to (`Hears`). A fault is `Traced` if it can be followed back, over stations that all failed
with this very fault, to where it arose. What a pipeline leaves in its slots when it ends has no node (`Forsaken`), and
only readers that do not end with it come to see that.

A stage that refers to what has failed does not get to call its function, and a call is what everything else takes
that arises at a stage beside its references (`Given`). What all this takes does not change while a machine works
(`Extends`), so a fault that is traced once is traced for good. -/
namespace StageGraph

/-- Where outcomes come about. -/
inductive Station where
  | slot (s : Nat)
  /-- The output of an instance. -/
  | output (p : Nat)

/-- The paths of an output. -/
def OutputShape.paths : OutputShape → List String
  | single path => [path]
  | list paths => paths
  | named entries => entries.map Prod.snd

/-- An output has a value if all its paths lead to one. -/
theorem OutputShape.value?_isSome_iff {reference : String → Option Value} {shape : OutputShape} :
    (shape.value? reference).isSome ↔ ∀ text ∈ shape.paths, (reference text).isSome := by
  cases shape with
  | single path => simp only [value?, paths, List.forall_mem_singleton]
  | list paths =>
    unfold value?
    rw [Option.isSome_map, mapM_isSome_iff]
    rfl
  | named entries =>
    unfold value?
    rw [Option.isSome_map, referred?_isSome_iff, paths, List.forall_mem_map]

/-- The causes that only the end of a pipeline brings about. -/
def Cause.ofEnd : Cause → Bool
  | pipelineDropped | unboundInput _ | cancelled _ => true
  | _ => false

/-- The value of a promise, with those that are known for outputs. -/
def Promise.comesTo? (known : Station → Option Value) : Promise → Option Value
  | .later _ o => o.toOption
  | .broken _ => none
  | .held p => known (.output p)

/-- Who reads: an instance, for a stage or for its output. -/
structure Reader where
  number : Nat
  pipeline : Instance
  /-- The node of a reference whose head names nothing. -/
  headNode : Value
  /-- The node of everything else. -/
  node : Value

namespace Machine

variable (m : Machine)

/-! ### Who works for whom -/

/-- What does not change about a task. -/
def IsTask (k : Nat) (t : Task) : Prop :=
  ∃ phase, m.tasks[k]? = some { t with phase := phase }

/-- What does not change about an instance. -/
def IsInstance (p : Nat) (i : Instance) : Prop :=
  ∃ jobs output alive, m.instances[p]? = some { i with jobs := jobs, output := output, alive := alive }

/-- A pipeline that is over. -/
def Ended (p : Nat) : Prop := ∃ i, m.instances[p]? = some i ∧ i.alive = false

/-- A task that works for a stage of an instance. -/
structure WorksFor (t : Task) (p : Nat) (i : Instance) (s : Stage) : Prop where
  pipeline : t.pipeline = some p
  isInstance : m.IsInstance p i
  declared : s ∈ i.spec.stages
  slot : (s.name, t.slot) ∈ i.stages
  node : t.node = s.node
  inputNode : t.inputNode = s.inputNode

/-- A station reads by a text. -/
inductive Reads (text : String) : Station → Reader → Prop
  | stage {k p : Nat} {t : Task} {i : Instance} {s : Stage} {key : String} : m.IsTask k t → m.WorksFor t p i s →
    (key, text) ∈ s.input → Reads text (.slot t.slot) ⟨p, i, t.inputNode, t.node⟩
  | output {p : Nat} {i : Instance} : m.IsInstance p i → text ∈ i.spec.output.paths →
    Reads text (.output p) ⟨p, i, i.spec.outputNode, i.spec.outputNode⟩

/-! ### What has come about -/

/-- What a station has come to. -/
def outcome? : Station → Poll Value
  | .slot s => m.slot s
  | .output p => m.standing (.output p)

/-- The value that a station has come to. -/
def valueAt? (a : Station) : Option Value := (m.outcome? a).bind Except.toOption

/-- A station that came to a fault. -/
def Fails (a : Station) (f : Fault) : Prop := m.outcome? a = some (.error f)

/-- The slot of the innermost stage of a name, whether the pipelines of the scope live or not. -/
def named? (name : String) : List Nat → Option Nat
  | [] => none
  | p :: outer =>
    match m.instances[p]? with
    | none => none
    | some i =>
      match List.lookup name i.stages with
      | some s => some s
      | none => named? name outer

/-- A name that no stage has, out to where a pipeline is over that is not one of the `keepers`. -/
inductive Unnamed (name : String) (keepers : List Nat) : List Nat → Prop
  | nowhere : Unnamed name keepers []
  | ended {p : Nat} {outer : List Nat} : p ∉ keepers → m.Ended p → Unnamed name keepers (p :: outer)
  | outwards {p : Nat} {i : Instance} {outer : List Nat} : m.IsInstance p i → List.lookup name i.stages = none →
    Unnamed name keepers outer → Unnamed name keepers (p :: outer)

/-- The value that the head of a reference names. -/
def base? (i : Instance) (text : String) : Option (Resolvable Nat) :=
  if (Path.splitHead text).1 = Spec.inputHead then some i.input
  else (m.named? (Path.splitHead text).1 i.scope).map .pending

/-- The value that a reference leads to, with those that are known. -/
def reads? (known : Station → Option Value) (i : Instance) (text : String) : Option Value :=
  (m.base? i text).bind fun base => base.reached? (fun s => known (.slot s)) (Path.parse (Path.splitHead text).2)

/-- The arguments that a stage has for its function. All that it refers to has come about. -/
def Given (t : Task) (args : Fields) : Prop :=
  ∃ p i s given, m.WorksFor t p i s ∧ s.positional = false ∧
    referred? (m.reads? m.valueAt? i) s.input = some given ∧ args = Fields.ofList (s.written ++ given)

/-- A call that the function of a task receives. -/
def Called (t : Task) (c : Call) : Prop :=
  ∃ args, m.Given t args ∧ t.function.bindArguments args = .ok c.args ∧
    c.stage = if t.function.wantsStage then some t.node else none

/-- Children that were started from a spec, for a task or not. -/
def Children (starter : Option Nat) (spec : Spec) (children : List Nat) : Prop :=
  ∀ c ∈ children, ∃ i, m.IsInstance c i ∧ i.starter = starter ∧ i.spec = spec

/-- What a task has still to carry out of a reply, at some time or other. -/
inductive Carries (k : Nat) (reply : Reply) : Reply → Prop
  | all : Carries k reply reply
  | rested {ms : Nat} {next : Reply} : Carries k reply (.rest ms next) → Carries k reply next
  | started {kept : Bool} {spec : Spec} {inputs : List Value} {next : List Promise → Reply} {children : List Nat} :
    Carries k reply (.start kept spec inputs next) → m.Children (if kept then none else some k) spec children →
      Carries k reply (next (children.map .held))

/-- What the function of a task replied to its call, as far as it is still to be carried out. -/
def Replied (k : Nat) (t : Task) (reply : Reply) : Prop :=
  ∃ c, m.Called t c ∧ m.Carries k (t.function.handler c) reply

/-- How starting a child fails: one of its stages names no function. -/
inductive Unfit (spec : Spec) : Fault → Prop
  | unknown {s : Stage} : s ∈ spec.stages → m.registry.get? s.function = none →
    Unfit spec ⟨.unknownFunction s.function, some s.node⟩

/-- A fault is left in a slot: its pipeline ended before it was filled, and is not one of the `keepers`, or its task
went with something that its function gave. -/
inductive Forsaken (keepers : List Nat) (s : Nat) : Fault → Prop
  | ended {p : Nat} {i : Instance} {cause : Cause} : p ∉ keepers → m.IsInstance p i → m.Ended p →
    (s, cause) ∈ i.abandoned → Forsaken keepers s ⟨cause, none⟩
  | collapsed {k p ms : Nat} {t : Task} {i : Instance} {r : Resolvable Promise} {cause : Cause} : m.IsTask k t →
    m.Replied k t (.give r) → .broken ms ∈ r.awaited → t.slot = s → t.pipeline = some p → m.IsInstance p i →
      (s, cause) ∈ i.abandoned → Forsaken keepers s ⟨cause, none⟩

/-! ### Where faults arise -/

/-- The second station hears what the first comes to. -/
inductive Hears : Station → Station → Prop
  /-- By a reference. -/
  | reference {a : Station} {r : Reader} {text : String} {s : Nat} : m.Reads text a r →
    m.base? r.pipeline text = some (.pending s) → Hears (.slot s) a
  /-- A function gives the output of a pipeline. -/
  | child {k c : Nat} {t : Task} {r : Resolvable Promise} :
    m.IsTask k t → m.Replied k t (.give r) → .held c ∈ r.awaited → Hears (.output c) (.slot t.slot)

/-- A fault arises at a station, with the node that it has from then on. A name that a stage refers to in vain is
attributed to its input mapping, and anything else that fails in its invocation to its node, unless the fault has
a node already. All that fails in an output is attributed to its node. -/
inductive Arises : Station → Fault → Prop
  /-- A reference names no stage. -/
  | missing {a : Station} {r : Reader} {text : String} : m.Reads text a r → (Path.splitHead text).1 ≠ Spec.inputHead →
    m.Unnamed (Path.splitHead text).1 r.pipeline.keepers r.pipeline.scope →
      Arises a ⟨.missingStage (Path.splitHead text).1 text, some r.headNode⟩
  /-- The path of a reference leads nowhere. -/
  | strayed {a : Station} {r : Reader} {text : String} {base : Resolvable Nat} {cause : Cause} : m.Reads text a r →
    m.base? r.pipeline text = some base →
      base.astray? (fun s => m.valueAt? (.slot s)) (Path.parse (Path.splitHead text).2) = some cause →
        Arises a ⟨cause, some r.node⟩
  /-- What is referred to will not come any more. -/
  | ended {a : Station} {r : Reader} {text : String} {base : Resolvable Nat} {s : Nat} {cause : Cause} :
    m.Reads text a r → m.base? r.pipeline text = some base → s ∈ base.awaited → m.Fails (.slot s) ⟨cause, none⟩ →
      m.Forsaken r.pipeline.keepers s ⟨cause, none⟩ → Arises a ⟨cause, some r.node⟩
  /-- Arguments were written as a list. -/
  | positional {k p : Nat} {t : Task} {i : Instance} {s : Stage} : m.IsTask k t → m.WorksFor t p i s →
    s.positional = true → Arises (.slot t.slot) ⟨.positionalArgs t.function.name, some t.node⟩
  /-- The arguments do not conform to the declaration. -/
  | refused {k : Nat} {t : Task} {args : Fields} {cause : Cause} : m.IsTask k t → m.Given t args →
    t.function.bindArguments args = .error cause → Arises (.slot t.slot) ⟨cause, some t.node⟩
  /-- The function fails. -/
  | failed {k : Nat} {t : Task} {failure : Failure} : m.IsTask k t → m.Replied k t (.fail failure) →
    Arises (.slot t.slot) (failure.toFault.blame t.node)
  /-- The function breaks down. -/
  | brokeDown {k : Nat} {t : Task} {message : Option String} : m.IsTask k t → m.Replied k t (.panic message) →
    Arises (.slot t.slot) ⟨breakdown t.function message, some t.node⟩
  /-- The function starts a child that cannot be started. -/
  | unfit {k : Nat} {t : Task} {kept : Bool} {spec : Spec} {inputs : List Value} {next : List Promise → Reply}
      {f : Fault} : m.IsTask k t → m.Replied k t (.start kept spec inputs next) → m.Unfit spec f →
    Arises (.slot t.slot) (f.blame t.node)
  /-- Something that the function gives fails later. -/
  | promised {k ms : Nat} {t : Task} {r : Resolvable Promise} {f : Fault} : m.IsTask k t →
    m.Replied k t (.give r) → .later ms (.error f) ∈ r.awaited → Arises (.slot t.slot) (f.blame t.node)
  /-- The result does not conform to the declaration. -/
  | unsuitable {k : Nat} {t : Task} {r : Resolvable Promise} {v : Value} {cause : Cause} : m.IsTask k t →
    m.Replied k t (.give r) → r.value? (Promise.comesTo? m.valueAt?) = some v →
      t.function.checkOutput v = .error cause → Arises (.slot t.slot) ⟨cause, some t.node⟩

/-- A station failed with a fault that arose there, or that it heard of from a station that failed with the very
same fault. -/
inductive Traced : Station → Fault → Prop
  | arose {a : Station} {f : Fault} : m.Fails a f → m.Arises a f → Traced a f
  | heard {a b : Station} {f : Fault} : m.Fails b f → m.Hears a b → Traced a f → Traced b f

/-- A fault that a station has reason to fail with. -/
def Due (a : Station) (f : Fault) : Prop := m.Arises a f ∨ ∃ b, m.Hears b a ∧ m.Traced b f

/-! ### What does not change -/

/-- A machine that went on from another one. -/
structure Extends (m m' : Machine) : Prop where
  isTask {k : Nat} {t : Task} : m.IsTask k t → m'.IsTask k t
  isInstance {p : Nat} {i : Instance} : m.IsInstance p i → m'.IsInstance p i
  ended {p : Nat} : m.Ended p → m'.Ended p
  outcome {a : Station} {o : Outcome} : m.outcome? a = some o → m'.outcome? a = some o
  registry : m'.registry = m.registry

variable {m} {m' m'' : Machine}

theorem Extends.refl (m : Machine) : Extends m m := ⟨id, id, id, id, rfl⟩

theorem Extends.trans (h : Extends m m') (h' : Extends m' m'') : Extends m m'' where
  isTask ht := h'.isTask (h.isTask ht)
  isInstance hi := h'.isInstance (h.isInstance hi)
  ended hp := h'.ended (h.ended hp)
  outcome ho := h'.outcome (h.outcome ho)
  registry := h'.registry.trans h.registry

section

variable (h : Extends m m')
include h

theorem Extends.fails {a : Station} {f : Fault} (hf : m.Fails a f) : m'.Fails a f := h.outcome hf

theorem Extends.valueAt? : Within m.valueAt? m'.valueAt? := by
  intro a v hv
  obtain ⟨o, ho, hv⟩ := Option.bind_eq_some_iff.mp hv
  unfold Machine.valueAt?
  rw [h.outcome ho]
  exact hv

theorem Extends.worksFor {t : Task} {p : Nat} {i : Instance} {s : Stage} (hw : m.WorksFor t p i s) :
    m'.WorksFor t p i s :=
  { hw with isInstance := h.isInstance hw.isInstance }

theorem Extends.reads {text : String} {a : Station} {r : Reader} (hr : m.Reads text a r) : m'.Reads text a r := by
  cases hr with
  | stage ht hw hkey => exact .stage (h.isTask ht) (h.worksFor hw) hkey
  | output hi htext => exact .output (h.isInstance hi) htext

theorem Extends.named? {name : String} {scope : List Nat} {s : Nat} (hs : m.named? name scope = some s) :
    m'.named? name scope = some s := by
  induction scope with
  | nil => exact hs
  | cons p outer ih =>
    unfold Machine.named? at hs ⊢
    cases hp : m.instances[p]? with
    | none =>
      rw [hp] at hs
      cases hs
    | some i =>
      obtain ⟨jobs, output, alive, hp'⟩ := h.isInstance ⟨i.jobs, i.output, i.alive, hp⟩
      rw [hp] at hs
      rw [hp']
      simp only at hs ⊢
      cases hl : List.lookup name i.stages with
      | none =>
        rw [hl] at hs
        exact ih hs
      | some s' =>
        rw [hl] at hs
        exact hs

theorem Extends.unnamed {name : String} {keepers scope : List Nat} (hu : m.Unnamed name keepers scope) :
    m'.Unnamed name keepers scope := by
  induction hu with
  | nowhere => exact .nowhere
  | ended hout hp => exact .ended hout (h.ended hp)
  | outwards hi hl _ ih => exact .outwards (h.isInstance hi) hl ih

theorem Extends.base? {i : Instance} {text : String} {base : Resolvable Nat} (hb : m.base? i text = some base) :
    m'.base? i text = some base := by
  unfold Machine.base? at hb ⊢
  split
  · next hhead =>
    rw [if_pos hhead] at hb
    exact hb
  · next hhead =>
    rw [if_neg hhead] at hb
    obtain ⟨s, hs, rfl⟩ := Option.map_eq_some_iff.mp hb
    rw [h.named? hs]
    rfl

theorem Extends.reads? {known known' : Station → Option Value} (hknown : Within known known') (i : Instance) :
    Within (m.reads? known i) (m'.reads? known' i) := by
  intro text v hv
  obtain ⟨base, hbase, hv⟩ := Option.bind_eq_some_iff.mp hv
  unfold Machine.reads?
  rw [h.base? hbase, Option.bind_some]
  exact Resolvable.reached?_mono (fun s v hs => hknown (.slot s) v hs) _ hv

theorem Extends.given {t : Task} {args : Fields} (hg : m.Given t args) : m'.Given t args := by
  obtain ⟨p, i, s, given, hw, hpositional, hgiven, hargs⟩ := hg
  exact ⟨p, i, s, given, h.worksFor hw, hpositional, referred?_within (h.reads? h.valueAt? i) hgiven, hargs⟩

theorem Extends.called {t : Task} {c : Call} (hc : m.Called t c) : m'.Called t c := by
  obtain ⟨args, hgiven, hrest⟩ := hc
  exact ⟨args, h.given hgiven, hrest⟩

theorem Extends.children {starter : Option Nat} {spec : Spec} {children : List Nat}
    (hc : m.Children starter spec children) : m'.Children starter spec children := by
  intro c hmem
  obtain ⟨i, hi, hrest⟩ := hc c hmem
  exact ⟨i, h.isInstance hi, hrest⟩

theorem Extends.replied {k : Nat} {t : Task} {reply : Reply} (hr : m.Replied k t reply) : m'.Replied k t reply := by
  obtain ⟨c, hc, hcarries⟩ := hr
  refine ⟨c, h.called hc, ?_⟩
  induction hcarries with
  | all => exact .all
  | rested _ ih => exact .rested ih
  | started _ hchildren ih => exact .started ih (h.children hchildren)

theorem Extends.unfit {spec : Spec} {f : Fault} (hf : m.Unfit spec f) : m'.Unfit spec f := by
  cases hf with
  | unknown hs hnone => exact .unknown hs (by rw [h.registry]; exact hnone)

theorem Extends.forsaken {keepers : List Nat} {s : Nat} {f : Fault} (hf : m.Forsaken keepers s f) :
    m'.Forsaken keepers s f := by
  cases hf with
  | ended hout hi hp hmem => exact .ended hout (h.isInstance hi) (h.ended hp) hmem
  | collapsed ht hr hbroken hs hp hi hmem =>
    exact .collapsed (h.isTask ht) (h.replied hr) hbroken hs hp (h.isInstance hi) hmem

theorem Extends.hears {a b : Station} (hh : m.Hears a b) : m'.Hears a b := by
  cases hh with
  | reference hr hb => exact .reference (h.reads hr) (h.base? hb)
  | child ht hr hc => exact .child (h.isTask ht) (h.replied hr) hc

theorem Extends.arises {a : Station} {f : Fault} (ha : m.Arises a f) : m'.Arises a f := by
  cases ha with
  | missing hr hhead hu => exact .missing (h.reads hr) hhead (h.unnamed hu)
  | strayed hr hb hastray =>
    exact .strayed (h.reads hr) (h.base? hb) (Resolvable.astray?_mono (fun s => h.valueAt? (.slot s)) _ hastray)
  | ended hr hb hs hf hleft => exact .ended (h.reads hr) (h.base? hb) hs (h.fails hf) (h.forsaken hleft)
  | positional ht hw hs => exact .positional (h.isTask ht) (h.worksFor hw) hs
  | refused ht hg hb => exact .refused (h.isTask ht) (h.given hg) hb
  | failed ht hr => exact .failed (h.isTask ht) (h.replied hr)
  | brokeDown ht hr => exact .brokeDown (h.isTask ht) (h.replied hr)
  | unfit ht hr hf => exact .unfit (h.isTask ht) (h.replied hr) (h.unfit hf)
  | promised ht hr hp => exact .promised (h.isTask ht) (h.replied hr) hp
  | unsuitable ht hr hv hcheck =>
    refine .unsuitable (h.isTask ht) (h.replied hr) (Resolvable.value?_mono (fun p v hp => ?_) _ hv) hcheck
    cases p with
    | later ms o => exact hp
    | broken ms => exact hp
    | held c => exact h.valueAt? (.output c) v hp

theorem Extends.traced {a : Station} {f : Fault} (ht : m.Traced a f) : m'.Traced a f := by
  induction ht with
  | arose hf ha => exact .arose (h.fails hf) (h.arises ha)
  | heard hf hh _ ih => exact .heard (h.fails hf) (h.hears hh) ih

theorem Extends.due {a : Station} {f : Fault} (hd : m.Due a f) : m'.Due a f :=
  hd.imp h.arises fun ⟨b, hh, ht⟩ => ⟨b, h.hears hh, h.traced ht⟩

end

/-! ### Faults that have a node -/

theorem node_blame (f : Fault) (node : Value) : (f.blame node).node.isSome := by
  unfold Fault.blame
  split
  · next hn => rw [hn]; rfl
  · rfl

theorem Arises.node {a : Station} {f : Fault} (h : m.Arises a f) : f.node.isSome := by
  cases h with
  | failed ht hr => exact node_blame _ _
  | unfit ht hr hf => exact node_blame _ _
  | promised ht hr hp => exact node_blame _ _
  | _ => rfl

/-- A fault that is traced has a node. -/
theorem Traced.node {a : Station} {f : Fault} (h : m.Traced a f) : f.node.isSome := by
  induction h with
  | arose _ ha => exact ha.node
  | heard _ _ _ ih => exact ih

/-- What has a node keeps it. -/
theorem blame_of_node {f : Fault} (h : f.node.isSome) (node : Value) : f.blame node = f := by
  obtain ⟨v, hv⟩ := Option.isSome_iff_exists.mp h
  unfold Fault.blame
  rw [hv]

end Machine
end StageGraph
