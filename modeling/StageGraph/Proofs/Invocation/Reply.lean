import StageGraph.Proofs.FanOut.Children
import StageGraph.Proofs.Invocation.Others
import StageGraph.Proofs.Resolvable.Deciding

/-! What an invocation comes to.

An invocation gets through to the call of its function when its arguments are not written as a list, all resolve and
conform (`Admits`). Otherwise there is a fault that declines it (`Declines`), and never both (`Declines.not_admits`). The
function sees what it was bound to, and of its context what it wants (`seen`). Its reply is carried out, rest by rest and
child by child (`Performed`), and comes to one end at most (`Performed.unique`), with which the invocation concludes
(`Concludes`): with a value that conforms, or with a fault that has a node. -/
namespace StageGraph

/-- Nothing of a reply can be carried out any more: it ends, or the children that it starts cannot be. -/
def Reply.Last : Reply → Prop
  | .rest _ _ => False
  | .start _ _ inputs _ => inputs ≠ []
  | _ => True

/-- An end of a reply for which nothing is awaited. -/
def Reply.Prompt : Reply → Prop
  | .give r => r.awaited = []
  | .rest _ _ | .hang => False
  | _ => True

namespace Machine

variable {m m' : Machine} {k : Nat} {t : Task} {given : List (String × Resolvable Awaited)} {positional : Bool}

/-! ### Arguments -/

/-- The arguments of an invocation as they are when it starts: references are looked up, delays begin. -/
def begun (m : Machine) (t : Task) (args : List (String × Resolvable Source)) : List (String × Resolvable Awaited) :=
  args.map fun a => (a.1, a.2.map (m.begin t))

/-- Every argument resolves, and these are the values. -/
def Resolves (m : Machine) (given : List (String × Resolvable Awaited)) (values : List Value) : Prop :=
  List.Forall₂ (fun a v => a.2.value? (Awaited.comesTo? m.valueAt?) = some v) given values

/-- A look at something awaited tells a fault, when no more has come about than now. -/
def Told (m : Machine) (a : Awaited) (f : Fault) : Prop :=
  ∃ before, before.Extends m ∧ (ask a before).1 = some (.error f)

/-- A moment has come, when no more has come about than now. -/
def Past (m : Machine) (due : Nat) : Prop := ∃ before : Machine, before.Extends m ∧ due ≤ before.clock

/-- An invocation gets through to the call of its function, with these arguments. -/
structure Admits (m : Machine) (t : Task) (given : List (String × Resolvable Awaited)) (positional : Bool)
    (bound : Fields) : Prop where
  named : positional = false
  bound : ∃ values, m.Resolves given values ∧
    t.function.bindArguments (Fields.ofList ((given.map Prod.fst).zip values)) = .ok bound

/-- An invocation does not get through to the call. The fault of an argument keeps the node that it has. -/
inductive Declines (m : Machine) (t : Task) (given : List (String × Resolvable Awaited)) (positional : Bool) : Fault → Prop
  | listed : positional = true → Declines m t given positional ⟨.positionalArgs t.function.name, some t.node⟩
  | argument {e : String × Resolvable Awaited} {a : Awaited} {f : Fault} : positional = false → e ∈ given →
    a ∈ e.2.awaited → m.Told a f → Declines m t given positional (f.blame t.node)
  | refused {values : List Value} {cause : Cause} : positional = false → m.Resolves given values →
    t.function.bindArguments (Fields.ofList ((given.map Prod.fst).zip values)) = .error cause →
      Declines m t given positional ⟨cause, some t.node⟩

theorem Resolves.unique {values values' : List Value} (h : m.Resolves given values) (h' : m.Resolves given values') :
    values = values' := by
  have hright : Relator.RightUnique fun (a : String × Resolvable Awaited) v =>
      a.2.value? (Awaited.comesTo? m.valueAt?) = some v := by
    intro a v v' hv hv'
    exact Option.some.inj (hv.symm.trans hv')
  exact List.right_unique_forall₂' hright h h'

/-- The arguments resolve just if the tasks that wait for them come to values. -/
theorem resolves_iff {values : List Value} : m.Resolves given values ↔
    Progress.values? (Awaited.comesTo? m.valueAt?) (given.map fun a => a.2.progress) = some values := by
  induction given generalizing values with
  | nil =>
    rw [Resolves, List.forall₂_nil_left_iff, List.map_nil, Progress.values?, Option.some_inj]
    exact eq_comm
  | cons a rest ih =>
    rw [List.map_cons, Progress.values?, Resolvable.progress_value?]
    constructor
    · intro h
      cases h with
      | cons hfirst hrest => rw [hfirst, Option.bind_some, ih.mp hrest, Option.map_some]
    · intro h
      obtain ⟨v, hfirst, hmore⟩ := Option.bind_eq_some_iff.mp h
      obtain ⟨vs, hrest, rfl⟩ := Option.map_eq_some_iff.mp hmore
      exact .cons hfirst (ih.mpr hrest)

/-- Nobody is told a fault of what comes to a value. -/
theorem Told.comesTo_none {a : Awaited} {f : Fault} (h : m.Told a f) : Awaited.comesTo? m.valueAt? a = none := by
  obtain ⟨before, he, hask⟩ := h
  exact (((he.bears (bears_valueAt? m)).ask_agrees a before (Taken.refl before)).1 _ hask).symm

theorem Resolves.not_told {values : List Value} (h : m.Resolves given values) {e : String × Resolvable Awaited}
    (he : e ∈ given) {a : Awaited} (ha : a ∈ e.2.awaited) (f : Fault) : ¬m.Told a f := by
  intro htold
  obtain ⟨v, hv⟩ : ∃ v, e.2.value? (Awaited.comesTo? m.valueAt?) = some v := by
    induction h with
    | nil => cases he
    | @cons _ v _ _ hfirst _ ih =>
      rcases List.mem_cons.mp he with rfl | he
      · exact ⟨v, hfirst⟩
      · exact ih he
  have hsome := Resolvable.value?_awaited e.2 hv a ha
  rw [htold.comesTo_none] at hsome
  cases hsome

/-- **An invocation that is declined does not get through to the call.** -/
theorem Declines.not_admits {f : Fault} (h : m.Declines t given positional f) (bound : Fields) :
    ¬m.Admits t given positional bound := by
  intro hadmits
  obtain ⟨values, hvalues, hbound⟩ := hadmits.bound
  cases h with
  | listed hlisted => cases hadmits.named.symm.trans hlisted
  | argument _ he ha htold => exact hvalues.not_told he ha _ htold
  | refused _ hvalues' hrefused =>
    rw [hvalues'.unique hvalues, hbound] at hrefused
    cases hrefused

theorem Declines.node {f : Fault} (h : m.Declines t given positional f) : f.node.isSome := by
  cases h with
  | argument => exact node_blame _ _
  | _ => rfl

/-! ### Replies -/

/-- What the function of a task sees of its call: its arguments, its stage if it wants it, and its pipeline, which
lives, if it wants it. -/
def seen (m : Machine) (t : Task) (bound : Fields) : Call where
  args := bound
  stage := if t.function.wantsStage then some t.node else none
  owner :=
    if t.function.wantsPipeline then t.pipeline.bind fun p => (m.instances[p]?).map fun i => ⟨true, i.settings⟩ else none

/-- A child that was started for the pipeline of a task, from a spec whose functions are all there. -/
def StartedOf (m : Machine) (starter : Option Nat) (t : Task) (spec : Spec) (c : Nat) (input : Value) : Prop :=
  (∃ stages, m.functionsOf spec = .ok stages) ∧
    ∃ p parent, t.pipeline = some p ∧ m.IsInstance p parent ∧ m.StartedFor starter spec parent c input

/-- A child that a task started for its pipeline. -/
abbrev ChildOf (m : Machine) (k : Nat) (t : Task) (spec : Spec) (c : Nat) (input : Value) : Prop :=
  m.StartedOf (some k) t spec c input

/-- A reply was carried out up to another one. These are the children of the task that were started for that, and those
that are kept, both in order. -/
inductive Performed (m : Machine) (k : Nat) (t : Task) : Reply → List Nat → List Nat → Reply → Prop
  | here (reply : Reply) : Performed m k t reply [] [] reply
  | rest {ms : Nat} {next reply : Reply} {cs kept : List Nat} : Performed m k t next cs kept reply →
    Performed m k t (.rest ms next) cs kept reply
  | spawn {spec : Spec} {inputs : List Value} {next : List Promise → Reply} {children cs kept : List Nat} {reply : Reply} :
    List.Forall₂ (m.ChildOf k t spec) children inputs → Performed m k t (next (children.map .held)) cs kept reply →
      Performed m k t (.spawn spec inputs next) (children ++ cs) kept reply
  | keep {spec : Spec} {inputs : List Value} {next : List Promise → Reply} {children cs kept : List Nat} {reply : Reply} :
    List.Forall₂ (m.StartedOf none t spec) children inputs → Performed m k t (next (children.map .held)) cs kept reply →
      Performed m k t (.start true spec inputs next) cs (children ++ kept) reply

/-- A promise comes to a fault. What breaks down comes to nothing. -/
def Breaks (m : Machine) : Promise → Fault → Prop
  | .later _ o, f => o = .error f
  | .broken _, _ => False
  | .held c, f => m.standing (.output c) = some (.error f)

/-- A task cannot start children from a spec: it has no pipeline, or a function of the spec is missing. -/
inductive Misfit (m : Machine) (t : Task) (spec : Spec) : Fault → Prop
  | homeless : t.pipeline = none → Misfit m t spec ⟨.pipelineDropped, none⟩
  | unknown {p : Nat} {f : Fault} : t.pipeline = some p → m.functionsOf spec = .error f → Misfit m t spec f

/-- No more of a reply can be carried out in the same turn. -/
def Halts (m : Machine) (t : Task) : Reply → Prop
  | .start _ spec inputs _ => inputs ≠ [] ∧ ∃ f, m.Misfit t spec f
  | _ => True

/-- How an invocation ends, by what its function replies in the end. Only what was not attributed before is attributed to
the stage, and a failure of the function's own, or its breakdown, is one of execution. -/
inductive Concludes (m : Machine) (t : Task) : Reply → Outcome → Prop
  | returned {r : Resolvable Promise} {v : Value} : r.value? (Promise.comesTo? m.valueAt?) = some v →
    t.function.output.check v = true → Concludes m t (.give r) (.ok v)
  | unsuitable {r : Resolvable Promise} {v : Value} : r.value? (Promise.comesTo? m.valueAt?) = some v →
    t.function.output.check v = false → Concludes m t (.give r)
      (.error ⟨.returnType t.function.name t.function.output.describe v.kindName, some t.node⟩)
  | broken {r : Resolvable Promise} {p : Promise} {f : Fault} : p ∈ r.awaited → m.Breaks p f →
    Concludes m t (.give r) (.error (f.blame t.node))
  | fault {f : Fault} {contexts : List String} : Concludes m t (.fail ⟨.fault f, contexts⟩) (.error (f.blame t.node))
  | message {text : String} {contexts : List String} : Concludes m t (.fail ⟨.message text, contexts⟩)
      (.error ⟨.execution (contexts.getLast?.getD text), some t.node⟩)
  | panic {message : Option String} : Concludes m t (.panic message)
      (.error ⟨.execution ("func " ++ Cause.quoted t.function.name ++ " panicked: " ++
        message.getD "unknown panic"), some t.node⟩)
  | unfit {kept : Bool} {spec : Spec} {inputs : List Value} {next : List Promise → Reply} {f : Fault} : inputs ≠ [] →
    m.Misfit t spec f → Concludes m t (.start kept spec inputs next) (.error (f.blame t.node))

/-- With a pipeline it is a function that is missing. -/
theorem Misfit.missing {p : Nat} {spec : Spec} {f : Fault} (h : m.Misfit t spec f) (hp : t.pipeline = some p) :
    m.functionsOf spec = .error f := by
  cases h with
  | homeless hnone => cases hp.symm.trans hnone
  | unknown _ hf => exact hf

theorem Performed.trans {reply reply' reply'' : Reply} {cs cs' kept kept' : List Nat}
    (h : m.Performed k t reply cs kept reply') (h' : m.Performed k t reply' cs' kept' reply'') :
    m.Performed k t reply (cs ++ cs') (kept ++ kept') reply'' := by
  induction h with
  | here => exact h'
  | rest _ ih => exact .rest (ih h')
  | spawn hchildren _ ih =>
    rw [List.append_assoc]
    exact .spawn hchildren (ih h')
  | keep hchildren _ ih =>
    rw [List.append_assoc]
    exact .keep hchildren (ih h')

/-- **A reply comes to one end at most**, with the children that were started for it. -/
theorem Performed.unique {reply a b : Reply} {cs kept : List Nat} (ha : m.Performed k t reply cs kept a)
    (hb : m.Performed k t reply cs kept b) (hlast : a.Last) (hlast' : b.Last) : a = b := by
  -- where children are still to be started, some are
  have hnone {starter : Option Nat} {spec : Spec} {inputs : List Value} {children more : List Nat}
      (hchildren : List.Forall₂ (m.StartedOf starter t spec) children inputs) (hempty : [] = children ++ more) :
      inputs = [] := by
    obtain ⟨rfl, -⟩ := List.append_eq_nil_iff.mp hempty.symm
    exact List.forall₂_nil_left_iff.mp hchildren
  induction ha generalizing b with
  | here reply =>
    have hends {cs kept : List Nat} (hcs : [] = cs) (hkept : [] = kept) (hb : m.Performed k t reply cs kept b) :
        reply = b := by
      cases hb with
      | here => rfl
      | rest => exact hlast.elim
      | spawn hchildren => exact absurd (hnone hchildren hcs) hlast
      | keep hchildren => exact absurd (hnone hchildren hkept) hlast
    exact hends rfl rfl hb
  | rest _ ih =>
    cases hb with
    | here => exact hlast'.elim
    | rest hnext => exact ih hnext hlast hlast'
  | @spawn spec inputs next children cs kept reply hchildren _ ih =>
    generalize hcs : children ++ cs = all at hb
    cases hb with
    | here => exact absurd (hnone hchildren hcs.symm) hlast'
    | @spawn _ _ _ children' cs' _ _ hchildren' hnext =>
      obtain ⟨rfl, rfl⟩ := List.append_inj hcs (hchildren.length_eq.trans hchildren'.length_eq.symm)
      exact ih hnext hlast hlast'
  | @keep spec inputs next children cs kept reply hchildren _ ih =>
    generalize hkept : children ++ kept = all at hb
    cases hb with
    | here => exact absurd (hnone hchildren hkept.symm) hlast'
    | @keep _ _ _ children' _ kept' _ hchildren' hnext =>
      obtain ⟨rfl, rfl⟩ := List.append_inj hkept (hchildren.length_eq.trans hchildren'.length_eq.symm)
      exact ih hnext hlast hlast'

theorem Concludes.last {reply : Reply} {o : Outcome} (h : m.Concludes t reply o) : reply.Last := by
  cases h with
  | unfit hinputs => exact hinputs
  | _ => trivial

theorem Concludes.halts {reply : Reply} {o : Outcome} (h : m.Concludes t reply o) : m.Halts t reply := by
  cases h with
  | unfit hinputs hmisfit => exact ⟨hinputs, _, hmisfit⟩
  | _ => trivial

theorem Breaks.comesTo_none {p : Promise} {f : Fault} (h : m.Breaks p f) : p.comesTo? m.valueAt? = none := by
  cases p with
  | later ms o =>
    have ho : o = .error f := h
    rw [ho]
    rfl
  | broken ms => exact h.elim
  | held c => exact (bears_valueAt? m (.output c) _ h).symm

/-- **What a function gives is the result just if it resolves and conforms.** -/
theorem Concludes.value_iff {reply : Reply} {o : Outcome} (h : m.Concludes t reply o) (v : Value) : o = .ok v ↔
    ∃ r, reply = .give r ∧ r.value? (Promise.comesTo? m.valueAt?) = some v ∧ t.function.output.check v = true := by
  constructor
  · rintro rfl
    cases h with
    | returned hvalue hcheck => exact ⟨_, rfl, hvalue, hcheck⟩
  · rintro ⟨r, rfl, hvalue, hcheck⟩
    cases h with
    | returned hvalue' => rw [Option.some.inj (hvalue.symm.trans hvalue')]
    | unsuitable hvalue' hcheck' =>
      rw [Option.some.inj (hvalue'.symm.trans hvalue), hcheck] at hcheck'
      cases hcheck'
    | broken hp hbreaks =>
      have hsome := Resolvable.value?_awaited r hvalue _ hp
      rw [hbreaks.comesTo_none] at hsome
      cases hsome

theorem Concludes.node {reply : Reply} {f : Fault} (h : m.Concludes t reply (.error f)) : f.node.isSome := by
  cases h with
  | broken | fault | unfit => exact node_blame _ _
  | _ => rfl

/-- A task whose pipeline lives calls its function with what it sees. -/
theorem callOf_eq (h : m.Housed t) (bound : Fields) : m.callOf t bound = m.seen t bound := by
  have howner : t.pipeline.bind m.owner? =
      t.pipeline.bind fun p => (m.instances[p]?).map fun i => ⟨true, i.settings⟩ := by
    cases hp : t.pipeline with
    | none => rfl
    | some p =>
      obtain ⟨i, hi, halive⟩ := alive_iff.mp (h p hp)
      simp only [Option.bind_some, owner?, hi, Option.map_some, halive]
  rw [callOf, seen, howner]

/-! ### Going on -/

section

variable (he : m.Extends m')
include he

theorem Extends.comesTo : StageGraph.Within (Awaited.comesTo? m.valueAt?) (Awaited.comesTo? m'.valueAt?) := by
  intro a v hv
  cases a with
  | link l =>
    rcases l with ⟨base, path, blamed⟩
    cases base with
    | ok base => exact Resolvable.reached?_mono (fun s => he.valueAt? (.slot s)) path hv
    | error f => cases hv
  | timer due o => exact hv
  | broken due => exact hv
  | output p => exact he.valueAt? (.output p) v hv

theorem Extends.promises : StageGraph.Within (Promise.comesTo? m.valueAt?) (Promise.comesTo? m'.valueAt?) := by
  intro p v hv
  cases p with
  | later ms o => exact hv
  | broken ms => exact hv
  | held c => exact he.valueAt? (.output c) v hv

theorem Extends.resolves {values : List Value} (h : m.Resolves given values) : m'.Resolves given values :=
  List.Forall₂.imp (fun _ _ => Resolvable.value?_mono he.comesTo _) h

theorem Extends.told {a : Awaited} {f : Fault} (h : m.Told a f) : m'.Told a f :=
  h.imp fun _ hbefore => ⟨hbefore.1.trans he, hbefore.2⟩

theorem Extends.past {due : Nat} (h : m.Past due) : m'.Past due := h.imp fun _ hbefore => ⟨hbefore.1.trans he, hbefore.2⟩

theorem Extends.admits {bound : Fields} (h : m.Admits t given positional bound) : m'.Admits t given positional bound :=
  ⟨h.named, h.bound.imp fun _ hvalues => ⟨he.resolves hvalues.1, hvalues.2⟩⟩

theorem Extends.declines {f : Fault} (h : m.Declines t given positional f) : m'.Declines t given positional f := by
  cases h with
  | listed hlisted => exact .listed hlisted
  | argument hnamed hmem ha htold => exact .argument hnamed hmem ha (he.told htold)
  | refused hnamed hvalues hrefused => exact .refused hnamed (he.resolves hvalues) hrefused

/-- What a function saw stays what it was. -/
theorem Extends.seen (hplaced : ∀ p, t.pipeline = some p → ∃ i, m.IsInstance p i) (bound : Fields) :
    m'.seen t bound = m.seen t bound := by
  have howner : (t.pipeline.bind fun p => (m'.instances[p]?).map fun i => (⟨true, i.settings⟩ : Owner)) =
      t.pipeline.bind fun p => (m.instances[p]?).map fun i => ⟨true, i.settings⟩ := by
    cases hp : t.pipeline with
    | none => rfl
    | some p =>
      obtain ⟨i, hi⟩ := hplaced p hp
      obtain ⟨_, _, _, hget'⟩ := he.isInstance hi
      obtain ⟨_, _, _, hget⟩ := hi
      simp only [Option.bind_some, hget, hget', Option.map_some]
  rw [Machine.seen, Machine.seen, howner]

theorem Extends.startedOf {starter : Option Nat} {spec : Spec} {c : Nat} {input : Value}
    (h : m.StartedOf starter t spec c input) : m'.StartedOf starter t spec c input := by
  obtain ⟨hknown, p, parent, hp, hparent, hchild⟩ := h
  rw [← he.functionsOf] at hknown
  exact ⟨hknown, p, parent, hp, he.isInstance hparent, he.startedFor hchild⟩

theorem Extends.performed {reply reply' : Reply} {cs kept : List Nat} (h : m.Performed k t reply cs kept reply') :
    m'.Performed k t reply cs kept reply' := by
  induction h with
  | here => exact .here _
  | rest _ ih => exact .rest ih
  | spawn hchildren _ ih => exact .spawn (hchildren.imp fun _ _ => he.startedOf) ih
  | keep hchildren _ ih => exact .keep (hchildren.imp fun _ _ => he.startedOf) ih

theorem Extends.breaks {p : Promise} {f : Fault} (h : m.Breaks p f) : m'.Breaks p f := by
  cases p with
  | held c => exact he.outcome (a := .output c) h
  | _ => exact h

theorem Extends.misfit {spec : Spec} {f : Fault} (h : m.Misfit t spec f) : m'.Misfit t spec f := by
  cases h with
  | homeless hp => exact .homeless hp
  | unknown hp hf => exact .unknown hp ((he.functionsOf spec).trans hf)

theorem Extends.halts {reply : Reply} (h : m.Halts t reply) : m'.Halts t reply := by
  cases reply with
  | start kept spec inputs next => exact ⟨h.1, h.2.imp fun _ => he.misfit⟩
  | _ => trivial

theorem Extends.concludes {reply : Reply} {o : Outcome} (h : m.Concludes t reply o) : m'.Concludes t reply o := by
  cases h with
  | returned hvalue hcheck => exact .returned (Resolvable.value?_mono he.promises _ hvalue) hcheck
  | unsuitable hvalue hcheck => exact .unsuitable (Resolvable.value?_mono he.promises _ hvalue) hcheck
  | broken hp hbreaks => exact .broken hp (he.breaks hbreaks)
  | fault => exact .fault
  | message => exact .message
  | panic => exact .panic
  | unfit hinputs hmisfit => exact .unfit hinputs (he.misfit hmisfit)

end

end Machine
end StageGraph
