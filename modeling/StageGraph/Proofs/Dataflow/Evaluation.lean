import Mathlib.Data.List.Find
import Mathlib.Data.List.Nodup
import StageGraph.Registry
import StageGraph.Proofs.Resolvable.Following

/-! The value of a spec, without a machine.

`Stage.value?` gives a stage the result of its function on the written arguments, overridden by the values that
its references lead to, and so relates the values of the stages to each other. `Spec.stageValue?` starts with no
value for any stage and uses this relation time and again. A stage has its value as soon as those it refers to
have theirs, in whatever order they are declared, so after as many rounds as there are stages nothing changes any
more (`stageValue?_stable`). What depends on itself, or on something that fails, never gets a value. -/
namespace StageGraph

namespace Promise

/-- Whether a promise is kept by the clock alone. -/
def isLater : Promise → Bool
  | later _ _ => true
  | broken _ | held _ => false

/-- What a promise comes to, if it is kept by the clock. -/
def value? : Promise → Option Value
  | later _ o => o.toOption
  | broken _ | held _ => none

end Promise

namespace Reply

/-- A reply that involves no pipeline. -/
def Plain : Reply → Prop
  | give r => ∀ p ∈ r.awaited, p.isLater = true
  | rest _ next => next.Plain
  | start _ _ _ _ => False
  | _ => True

/-- The value that a plain reply comes to in the end. -/
def value? : Reply → Option Value
  | give r => r.value? Promise.value?
  | rest _ next => next.value?
  | _ => none

end Reply

namespace Function

/-- A function that has nothing to go by but the call, and does nothing but reply. -/
structure Pure (f : Function) : Prop where
  alone : f.wantsPipeline = false
  plain (c : Call) : (f.handler c).Plain

/-- The call of a function without a pipeline, for the stage of a node. -/
def callFor (f : Function) (node : Value) (args : Fields) : Call where
  args := args
  stage := if f.wantsStage then some node else none

/-- The value that a function has for arguments. -/
def result? (f : Function) (node : Value) (args : Fields) : Option Value :=
  match f.bindArguments args with
  | .error _ => none
  | .ok args => (f.handler (f.callFor node args)).value?.bind fun v => (f.checkOutput v).toOption

end Function

/-- All functions of a registry are pure. -/
def Registry.Pure (registry : Registry) : Prop :=
  ∀ name f, registry.get? name = some f → f.Pure

/-- The arguments that are written down and that no reference overrides. -/
def Stage.written (s : Stage) : Fields :=
  s.params.filter fun p => !s.input.any fun i => i.1 == p.1

/-- The values of referring entries, each with its key. -/
def referred? (reference : String → Option Value) (entries : List (String × String)) : Option Fields :=
  entries.mapM fun entry => (reference entry.2).map fun v => (entry.1, v)

/-- The value of a stage, with the values of its references. -/
def Stage.value? (registry : Registry) (reference : String → Option Value) (s : Stage) : Option Value :=
  if s.positional then none
  else
    (registry.get? s.function).bind fun f => (referred? reference s.input).bind fun given =>
      f.result? s.node (Fields.ofList (s.written ++ given))

namespace Spec

/-- The value that a reference leads to, with the input and the values of the stages. -/
def referenceValue? (input : Value) (stage : String → Option Value) (text : String) : Option Value :=
  let (head, rest) := Path.splitHead text
  (if head = inputHead then some input else stage head).bind fun v => v.descend (Path.parse rest)

/-- The stage of a name. -/
def stage? (spec : Spec) (name : String) : Option Stage := spec.stages.find? fun s => s.name == name

/-- The value that a stage has after so many rounds. -/
def stageValue? (registry : Registry) (spec : Spec) (input : Value) : Nat → String → Option Value
  | 0, _ => none
  | n + 1, name =>
    (spec.stage? name).bind fun s => s.value? registry (referenceValue? input (stageValue? registry spec input n))

/-- The input of a pipeline, made of a value for every declared name. -/
def inputValue (spec : Spec) (values : List Value) : Value :=
  .object (Fields.ofList (spec.input.zip values))

end Spec

/-- The value of an output, with the values of its references. -/
def OutputShape.value? (reference : String → Option Value) : OutputShape → Option Value
  | single path => reference path
  | list paths => (paths.mapM reference).map .array
  | named entries => (referred? reference entries).map fun fields => .object (Fields.ofList fields)

namespace Spec

/-- The values of all stages. -/
def meaning? (registry : Registry) (spec : Spec) (values : List Value) : String → Option Value :=
  stageValue? registry spec (spec.inputValue values) spec.stages.length

/-- The value of a spec: that of its output. -/
def evaluate? (registry : Registry) (spec : Spec) (values : List Value) : Option Value :=
  spec.output.value? (referenceValue? (spec.inputValue values) (spec.meaning? registry values))

end Spec

/-! ### More is known with every round -/

theorem referred?_cons (reference : String → Option Value) (entry : String × String)
    (rest : List (String × String)) :
    referred? reference (entry :: rest) =
      (reference entry.2).bind fun v => (referred? reference rest).map fun fields => (entry.1, v) :: fields := by
  unfold referred?
  rw [List.mapM_cons]
  cases reference entry.2 with
  | none => rfl
  | some v =>
    show Option.bind (List.mapM _ rest) _ = Option.map _ (List.mapM _ rest)
    cases List.mapM (fun entry => (reference entry.2).map fun v => (entry.1, v)) rest <;> rfl

theorem referred?_keys {reference : String → Option Value} {entries : List (String × String)} {fields : Fields}
    (h : referred? reference entries = some fields) : fields.map Prod.fst = entries.map Prod.fst := by
  induction entries generalizing fields with
  | nil =>
    cases h
    rfl
  | cons entry rest ih =>
    rw [referred?_cons] at h
    obtain ⟨v, -, h⟩ := Option.bind_eq_some_iff.mp h
    obtain ⟨more, hmore, rfl⟩ := Option.map_eq_some_iff.mp h
    rw [List.map_cons, List.map_cons, ih hmore]

theorem mapM_isSome_iff {α β : Type} {f : α → Option β} {l : List α} :
    (l.mapM f).isSome ↔ ∀ a ∈ l, (f a).isSome := by
  induction l with
  | nil => exact ⟨fun _ _ ha => (by cases ha), fun _ => rfl⟩
  | cons a rest ih =>
    have hcons : ((a :: rest).mapM f).isSome ↔ (f a).isSome ∧ (rest.mapM f).isSome := by
      rw [List.mapM_cons]
      show (Option.bind (f a) fun b => Option.bind (rest.mapM f) _).isSome ↔ _
      cases f a with
      | none => simp
      | some b => cases rest.mapM f <;> simp
    rw [hcons, ih, List.forall_mem_cons]

/-- Referring entries have values if all that they refer to has. -/
theorem referred?_isSome_iff {reference : String → Option Value} {entries : List (String × String)} :
    (referred? reference entries).isSome ↔ ∀ entry ∈ entries, (reference entry.2).isSome := by
  unfold referred?
  rw [mapM_isSome_iff]
  simp only [Option.isSome_map]

theorem referred?_congr {reference reference' : String → Option Value} {entries : List (String × String)}
    (h : ∀ entry ∈ entries, reference entry.2 = reference' entry.2) :
    referred? reference entries = referred? reference' entries := by
  induction entries with
  | nil => rfl
  | cons entry rest ih =>
    rw [referred?_cons, referred?_cons, h entry List.mem_cons_self, ih fun e he => h e (List.mem_cons_of_mem _ he)]

theorem referred?_within {known known' : String → Option Value} (h : Within known known')
    {entries : List (String × String)} {fields : Fields} (hf : referred? known entries = some fields) :
    referred? known' entries = some fields := by
  induction entries generalizing fields with
  | nil => exact hf
  | cons entry rest ih =>
    rw [referred?_cons] at hf ⊢
    obtain ⟨v, hv, hf⟩ := Option.bind_eq_some_iff.mp hf
    obtain ⟨more, hmore, rfl⟩ := Option.map_eq_some_iff.mp hf
    rw [h _ v hv, ih hmore]
    rfl

theorem Stage.value?_within {registry : Registry} {known known' : String → Option Value} (h : Within known known')
    {s : Stage} {v : Value} (hv : s.value? registry known = some v) : s.value? registry known' = some v := by
  unfold Stage.value? at hv ⊢
  split
  · next hp =>
    rw [if_pos hp] at hv
    exact hv
  · next hp =>
    rw [if_neg hp] at hv
    obtain ⟨f, hf, hv⟩ := Option.bind_eq_some_iff.mp hv
    obtain ⟨given, hgiven, hv⟩ := Option.bind_eq_some_iff.mp hv
    rw [hf, Option.bind_some, referred?_within h hgiven]
    exact hv

theorem countP_lt {α : Type} {p q : α → Bool} {l : List α} {a : α} (ha : a ∈ l) (hp : p a = false) (hq : q a = true)
    (h : ∀ b, p b = true → q b = true) : l.countP p < l.countP q := by
  induction l with
  | nil => cases ha
  | cons b rest ih =>
    have hrest : rest.countP p ≤ rest.countP q := List.countP_mono_left fun c _ => h c
    rcases List.mem_cons.mp ha with rfl | ha
    · rw [List.countP_cons_of_neg (by simp [hp]), List.countP_cons_of_pos hq]
      exact Nat.lt_succ_of_le hrest
    · have hlt := ih ha
      cases hb : p b with
      | false =>
        rw [List.countP_cons_of_neg (by simp [hb])]
        exact Nat.lt_of_lt_of_le hlt (List.sublist_cons_self b rest).countP_le
      | true =>
        rw [List.countP_cons_of_pos hb, List.countP_cons_of_pos (h b hb)]
        exact Nat.succ_lt_succ hlt

namespace Spec

variable {registry : Registry} {spec : Spec} {input : Value}

theorem referenceValue?_within {stage stage' : String → Option Value} (h : Within stage stage') :
    Within (referenceValue? input stage) (referenceValue? input stage') := by
  intro text v hv
  unfold referenceValue? at hv ⊢
  generalize Path.splitHead text = parts at hv ⊢
  obtain ⟨head, rest⟩ := parts
  simp only at hv ⊢
  split
  · next hh =>
    rw [if_pos hh] at hv
    exact hv
  · next hh =>
    rw [if_neg hh] at hv
    obtain ⟨w, hw, hv⟩ := Option.bind_eq_some_iff.mp hv
    rw [h _ w hw]
    exact hv

theorem stageValue?_within (registry : Registry) (spec : Spec) (input : Value) (n : Nat) :
    Within (stageValue? registry spec input n) (stageValue? registry spec input (n + 1)) := by
  induction n with
  | zero =>
    intro name v hv
    cases hv
  | succ n ih =>
    intro name v hv
    obtain ⟨s, hs, hv⟩ := Option.bind_eq_some_iff.mp hv
    rw [stageValue?, hs]
    exact Stage.value?_within (referenceValue?_within ih) hv

/-- The number of stages that have a value. -/
def known (registry : Registry) (spec : Spec) (input : Value) (n : Nat) : Nat :=
  spec.stages.countP fun s => (stageValue? registry spec input n s.name).isSome

theorem stage?_mem {name : String} {s : Stage} (h : spec.stage? name = some s) : s ∈ spec.stages ∧ s.name = name :=
  ⟨List.mem_of_find?_eq_some h, by simpa using List.find?_some h⟩

theorem stage?_none {name : String} (h : name ∉ spec.stages.map Stage.name) : spec.stage? name = none := by
  cases hs : spec.stage? name with
  | none => rfl
  | some s =>
    obtain ⟨hmem, rfl⟩ := stage?_mem hs
    exact absurd (List.mem_map_of_mem hmem) h

theorem stage?_eq (hnames : (spec.stages.map Stage.name).Nodup) {s : Stage} (hs : s ∈ spec.stages) :
    spec.stage? s.name = some s := by
  cases h : spec.stage? s.name with
  | none => exact absurd (List.find?_eq_none.mp h s hs) (by simp)
  | some t =>
    obtain ⟨ht, hname⟩ := stage?_mem h
    rw [List.inj_on_of_nodup_map hnames ht hs hname]

/-- A round that changes anything makes another stage known. -/
theorem known_lt {n : Nat}
    (h : stageValue? registry spec input (n + 1) ≠ stageValue? registry spec input n) :
    known registry spec input n < known registry spec input (n + 1) := by
  obtain ⟨name, hname⟩ := funext_iff.not.mp h |> not_forall.mp
  have hwithin := stageValue?_within registry spec input n
  have hold : stageValue? registry spec input n name = none := by
    cases hv : stageValue? registry spec input n name with
    | none => rfl
    | some v => exact absurd ((hwithin _ v hv).trans hv.symm) hname
  obtain ⟨v, hnew⟩ := Option.ne_none_iff_exists'.mp (fun hnone => hname (hnone.trans hold.symm))
  obtain ⟨s, hs, -⟩ := Option.bind_eq_some_iff.mp hnew
  obtain ⟨hmem, rfl⟩ := stage?_mem hs
  refine countP_lt hmem (by rw [hold]; rfl) (by rw [hnew]; rfl) fun t ht => ?_
  obtain ⟨w, hw⟩ := Option.isSome_iff_exists.mp ht
  rw [hwithin _ w hw]
  rfl

/-- Either the rounds have come to an end, or every one of them has made another stage known. -/
theorem known_of_unstable (registry : Registry) (spec : Spec) (input : Value) (n : Nat) :
    stageValue? registry spec input (n + 1) = stageValue? registry spec input n ∨
      n + 1 ≤ known registry spec input (n + 1) := by
  induction n with
  | zero =>
    by_cases h : stageValue? registry spec input 1 = stageValue? registry spec input 0
    · exact .inl h
    · exact .inr (Nat.lt_of_le_of_lt (Nat.zero_le _) (known_lt h))
  | succ n ih =>
    by_cases h : stageValue? registry spec input (n + 2) = stageValue? registry spec input (n + 1)
    · exact .inl h
    · refine .inr ?_
      rcases ih with hstable | hknown
      · refine absurd ?_ h
        funext name
        rw [stageValue?, stageValue?, hstable]
      · exact Nat.lt_of_le_of_lt hknown (known_lt h)

theorem stageValue?_stable :
    stageValue? registry spec input (spec.stages.length + 1) = stageValue? registry spec input spec.stages.length := by
  rcases known_of_unstable registry spec input spec.stages.length with h | h
  · exact h
  · exact absurd (List.countP_le_length) (Nat.not_le.mpr h)

/-- **The values of the stages are those that their functions give.** Every stage has the value of its function
on its arguments, with the values that the stages it refers to have. -/
theorem meaning?_eq (registry : Registry) (spec : Spec) (values : List Value) (name : String) :
    spec.meaning? registry values name = (spec.stage? name).bind fun s =>
      s.value? registry (referenceValue? (spec.inputValue values) (spec.meaning? registry values)) := by
  unfold meaning?
  exact congrFun stageValue?_stable.symm name

/-- What a stage has after so many rounds is its value. -/
theorem stageValue?_within_meaning (registry : Registry) (spec : Spec) (values : List Value) (n : Nat) :
    Within (stageValue? registry spec (spec.inputValue values) n) (spec.meaning? registry values) := by
  induction n with
  | zero => exact nofun
  | succ n ih =>
    intro name v hv
    obtain ⟨s, hs, hv⟩ := Option.bind_eq_some_iff.mp hv
    rw [meaning?_eq, hs]
    exact Stage.value?_within (referenceValue?_within ih) hv

/-! ### The order of the stages -/

theorem stage?_perm {spec other : Spec} (h : other.stages.Perm spec.stages)
    (hnames : (spec.stages.map Stage.name).Nodup) (name : String) : other.stage? name = spec.stage? name := by
  refine (List.find?_eq_find?_of_perm h.symm ?_).symm
  intro s hs t ht
  refine List.inj_on_of_nodup_map hnames hs.1 ht.1 ?_
  rw [eq_of_beq hs.2, eq_of_beq ht.2]

/-- The order in which stages are declared has no influence on values. -/
theorem evaluate?_perm {spec other : Spec} (h : other.stages.Perm spec.stages)
    (hnames : (spec.stages.map Stage.name).Nodup) (hinput : other.input = spec.input)
    (houtput : other.output = spec.output) (values : List Value) :
    other.evaluate? registry values = spec.evaluate? registry values := by
  have hvalue : other.inputValue values = spec.inputValue values := by
    unfold inputValue
    rw [hinput]
  have hrounds (n : Nat) : stageValue? registry other (spec.inputValue values) n =
      stageValue? registry spec (spec.inputValue values) n := by
    induction n with
    | zero => rfl
    | succ n ih =>
      funext name
      rw [stageValue?, stageValue?, ih, stage?_perm h hnames]
  unfold evaluate? meaning?
  rw [hvalue, houtput, h.length_eq, hrounds]

end Spec
end StageGraph
