import StageGraph.Proofs.Dataflow.Evaluation
import StageGraph.Proofs.Machine.Frame
import StageGraph.Proofs.Value.Fields

/-! Pipelines of pure functions, as the machine sees them.

A `Plan` is a pipeline together with the values of its declared inputs; it is the only one of its machine. Every
slot has a value that it is meant for (`slotValue?`): a stage's own, or an input. So has everything that may be
awaited, and if what is in the slots is what they are meant for, then what is told of anything awaited is what
that is meant for (`look_agrees`). -/
namespace StageGraph

/-! ### What slots know of links -/

/-- The value at the end of a link, with those that are known for the slots. -/
def Link.value? (known : Nat → Option Value) (l : Link) : Option Value :=
  match l.base with
  | .ok base => base.reached? known l.path
  | .error _ => none

/-- The value of something awaited, with those that are known for the slots. Outputs of children have none. -/
def Awaited.value? (known : Nat → Option Value) : Awaited → Option Value
  | .link l => l.value? known
  | .timer _ o => o.toOption
  | .broken _ | .output _ => none

/-- Whether something awaited is neither the output of a child nor going to break down. -/
def Awaited.Plain : Awaited → Prop
  | .broken _ | .output _ => False
  | _ => True

theorem Awaited.Plain.isBroken {a : Awaited} (h : a.Plain) : a.isBroken = false := by
  cases a with
  | broken due => exact h.elim
  | _ => rfl

/-- The slots that a link asks for. -/
def Link.slots (l : Link) : List Nat :=
  match l.base with
  | .ok base => base.awaited
  | .error _ => []

/-- The slots that something awaited asks for. -/
def Awaited.slots : Awaited → List Nat
  | .link l => l.slots
  | _ => []

/-- What is told of a link is what is known of the slots that it asks for. -/
theorem Link.look_agrees {m : Type → Type} [Monad m] (telling : Telling m) {slot : Nat → m (Poll Value)}
    {known : Nat → Option Value} (l : Link) (h : ∀ s ∈ l.slots, telling.holds (slot s) (Agrees known s)) :
    telling.holds (l.look slot) (Agrees (Link.value? known) l) := by
  rcases l with ⟨base, path, blamed⟩
  cases base with
  | ok base =>
    refine telling.bind (Resolvable.obtain?_reached? telling base path h) fun told ht =>
      telling.pure ?_
    intro o ho
    obtain ⟨o', rfl, rfl⟩ := Option.map_eq_some_iff.mp ho
    show _ = base.reached? known path
    rw [← ht o' rfl]
    cases o' <;> rfl
  | error f =>
    refine telling.bind (P := fun told => told = some (.error f)) (telling.pure rfl) fun told ht =>
      telling.pure ?_
    intro o ho
    rw [ht] at ho
    cases ho
    rfl

namespace Machine

variable {known : Nat → Option Value} {m : Machine}

theorem linked_agrees (l : Link) (h : ∀ s ∈ l.slots, Agrees known s (m.slot s)) :
    Agrees (Link.value? known) l (m.linked l) :=
  Link.look_agrees Telling.plain l h

theorem standing_agrees {a : Awaited} (ha : a.Plain) (h : ∀ s ∈ a.slots, Agrees known s (m.slot s)) :
    Agrees (Awaited.value? known) a (m.standing a) := by
  cases a with
  | link l => exact linked_agrees l h
  | timer due o =>
    intro o' ho
    simp only [standing] at ho
    split at ho
    · cases ho
      rfl
    · cases ho
  | _ => exact ha.elim

end Machine

/-! ### Numbers -/

namespace Machine

theorem numbered_map {α β : Type} (g : α → β) (l : List α) : ∀ first : Nat,
    numbered first (l.map g) = (numbered first l).map fun a => (g a.1, a.2) := by
  induction l with
  | nil => exact fun _ => rfl
  | cons a rest ih =>
    intro first
    simp only [List.map_cons, numbered, ih]

theorem numbered_length {α : Type} (l : List α) : ∀ first : Nat, (numbered first l).length = l.length := by
  induction l with
  | nil => exact fun _ => rfl
  | cons a rest ih =>
    intro first
    simp only [numbered, List.length_cons, ih]

theorem numbered_fst {α : Type} (l : List α) : ∀ first : Nat, (numbered first l).map Prod.fst = l := by
  induction l with
  | nil => exact fun _ => rfl
  | cons a rest ih =>
    intro first
    simp only [numbered, List.map_cons, ih]

theorem numbered_getElem? {α : Type} (l : List α) : ∀ first k : Nat,
    (numbered first l)[k]? = (l[k]?).map fun a => (a, first + k) := by
  induction l with
  | nil => exact fun _ _ => rfl
  | cons a rest ih =>
    intro first k
    cases k with
    | zero => rfl
    | succ k =>
      simp only [numbered, List.getElem?_cons_succ, ih, Nat.add_assoc, Nat.add_comm 1 k]

theorem lookup_numbered {name : String} {names : List String} {s : Nat} : ∀ {first : Nat},
    List.lookup name (numbered first names) = some s → first ≤ s ∧ names[s - first]? = some name := by
  induction names with
  | nil =>
    intro first h
    cases h
  | cons a rest ih =>
    intro first h
    rw [numbered, List.lookup_cons] at h
    split at h
    · next heq =>
      cases h
      rw [Nat.sub_self, eq_of_beq heq]
      exact ⟨Nat.le_refl _, rfl⟩
    · obtain ⟨hle, hget⟩ := ih h
      refine ⟨Nat.le_of_succ_le hle, ?_⟩
      have hsub : s - first = (s - (first + 1)) + 1 := by omega
      rw [hsub]
      exact hget

theorem lookup_numbered_none {name : String} {names : List String} : ∀ {first : Nat},
    List.lookup name (numbered first names) = none → name ∉ names := by
  induction names with
  | nil =>
    intro first _ h
    cases h
  | cons a rest ih =>
    intro first h hmem
    rw [numbered, List.lookup_cons] at h
    split at h
    · cases h
    · next hne =>
      rcases List.mem_cons.mp hmem with rfl | hmem
      · simp at hne
      · exact ih h hmem

end Machine

/-! ### The input -/

namespace Resolvable

variable {known : Nat → Option Value}

theorem known_tail {name : String} {rest : List String} {v : Value} {values : List Value} {first : Nat}
    (h : ∀ k, k < (name :: rest).length → known (first + k) = (v :: values)[k]?) :
    ∀ k, k < rest.length → known (first + 1 + k) = values[k]? := by
  intro k hk
  have hnext := h (k + 1) (Nat.succ_lt_succ hk)
  rw [List.getElem?_cons_succ] at hnext
  rw [← hnext]
  congr 1
  omega

theorem entryValues?_numbered {names : List String} {values : List Value} : ∀ {first : Nat},
    values.length = names.length → (∀ k, k < names.length → known (first + k) = values[k]?) →
      entryValues? known ((Machine.numbered first names).map fun b => (b.1, .pending b.2)) = some values := by
  induction names generalizing values with
  | nil =>
    intro first hlen _
    rw [List.length_eq_zero_iff.mp hlen]
    rfl
  | cons name rest ih =>
    intro first hlen hknown
    cases values with
    | nil => cases hlen
    | cons v values =>
      have hfirst : known first = some v := hknown 0 (Nat.zero_lt_succ _)
      have hrest : entryValues? known ((Machine.numbered (first + 1) rest).map fun b => (b.1, .pending b.2)) =
          some values := ih (Nat.succ.inj hlen) (known_tail hknown)
      simp only [Machine.numbered, List.map_cons, entryValues?, value?, hfirst, Option.bind_some, hrest]
      rfl

theorem lookup_numbered_pending (segment : String) (names : List String) : ∀ first : Nat,
    List.lookup segment ((Machine.numbered first names).map fun b => (b.1, (.pending b.2 : Resolvable Nat))) =
      (List.lookup segment (Machine.numbered first names)).map .pending := by
  induction names with
  | nil => exact fun _ => rfl
  | cons name rest ih =>
    intro first
    simp only [Machine.numbered, List.map_cons, List.lookup_cons, ih]
    cases segment == name <;> rfl

theorem lookup_numbered_known (segment : String) {names : List String} {values : List Value} : ∀ {first : Nat},
    values.length = names.length → (∀ k, k < names.length → known (first + k) = values[k]?) →
      (List.lookup segment (Machine.numbered first names)).bind known = List.lookup segment (names.zip values) := by
  induction names generalizing values with
  | nil => exact fun _ _ => rfl
  | cons name rest ih =>
    intro first hlen hknown
    cases values with
    | nil => cases hlen
    | cons v values =>
      simp only [Machine.numbered, List.zip_cons_cons, List.lookup_cons]
      cases segment == name with
      | true => exact hknown 0 (Nat.zero_lt_succ _)
      | false => exact ih (Nat.succ.inj hlen) (known_tail hknown)

/-- The declared inputs make up an object of their values, for every path. -/
theorem reached?_inputs {names : List String} {values : List Value} {first : Nat} (hnames : names.Nodup)
    (hlen : values.length = names.length) (hknown : ∀ k, k < names.length → known (first + k) = values[k]?)
    (path : Path) :
    (mapping ((Machine.numbered first names).map fun b => (b.1, .pending b.2))).reached? known path =
      (Value.object (Fields.ofList (names.zip values))).descend path := by
  cases path with
  | nil =>
    have hfst : ((Machine.numbered first names).map fun b => (b.1, (.pending b.2 : Resolvable Nat))).map Prod.fst =
        names := by
      rw [List.map_map]
      exact Machine.numbered_fst names first
    simp only [reached?, value?, entryValues?_numbered hlen hknown, hfst]
    rfl
  | cons segment rest =>
    have hfields : Fields.ofList (names.zip values) = names.zip values := Fields.ofList_zip hnames hlen
    simp only [reached?, settled?, Option.bind_some, step, lookup_numbered_pending, Value.descend, Value.step?,
      Fields.get?, hfields]
    rw [← lookup_numbered_known segment hlen hknown]
    cases List.lookup segment (Machine.numbered first names) with
    | none => rfl
    | some s => exact reached?_pending s rest

end Resolvable

/-! ### Plans -/

/-- A pipeline of pure functions, and a value for each of its declared inputs. -/
structure Plan where
  registry : Registry
  spec : Spec
  settings : Settings
  stages : List (Stage × Function)
  values : List Value
  staged : stages.map Prod.fst = spec.stages
  functions : ∀ sf ∈ stages, registry.get? sf.1.function = some sf.2
  pure : ∀ sf ∈ stages, sf.2.Pure
  names : (spec.stages.map Stage.name).Nodup
  inputs : spec.input.Nodup
  bound : values.length = spec.input.length

namespace Plan

variable (plan : Plan)

/-- The value of a stage. -/
def meaning? : String → Option Value := plan.spec.meaning? plan.registry plan.values

/-- The value of a reference. -/
def reference? : String → Option Value :=
  Spec.referenceValue? (plan.spec.inputValue plan.values) plan.meaning?

/-- The value of the output. -/
def result? : Option Value := plan.spec.evaluate? plan.registry plan.values

/-- What a slot is meant for. -/
def slotValue? (s : Nat) : Option Value :=
  if s < plan.stages.length then (plan.stages[s]?).bind fun sf => plan.meaning? sf.1.name
  else plan.values[s - plan.stages.length]?

/-- The slots of the declared inputs. -/
def bindings : List (String × Nat) := Machine.numbered plan.stages.length plan.spec.input

/-- The pipeline in the machine. -/
def atWork (jobs : List Nat) (output : Output) : Instance where
  spec := plan.spec
  settings := plan.settings
  scope := [0]
  keepers := [0]
  starter := none
  input := .mapping (plan.bindings.map fun b => (b.1, .pending b.2))
  bindings := plan.bindings
  stages := (Machine.numbered 0 plan.stages).map fun a => (a.1.1.name, a.2)
  jobs := jobs
  output := output

theorem stages_getElem? (k : Nat) : (plan.stages[k]?).map (fun sf => sf.1.name) = (plan.spec.stages.map Stage.name)[k]? := by
  rw [← plan.staged, List.map_map, List.getElem?_map]
  rfl


/-- The slot of a stage is meant for its value. -/
theorem slotValue?_stage {k : Nat} {sf : Stage × Function} (h : plan.stages[k]? = some sf) :
    plan.slotValue? k = plan.meaning? sf.1.name := by
  obtain ⟨hlt, -⟩ := List.getElem?_eq_some_iff.mp h
  rw [slotValue?, if_pos hlt, h]
  rfl

theorem slotValue?_input (k : Nat) : plan.slotValue? (plan.stages.length + k) = plan.values[k]? := by
  rw [slotValue?, if_neg (by omega), Nat.add_sub_cancel_left]

/-- The slots of the stages, by name. -/
def stageSlots : List (String × Nat) := (Machine.numbered 0 plan.stages).map fun a => (a.1.1.name, a.2)

/-- Names of stages lead to their slots, and other names nowhere. -/
theorem lookup_cases (name : String) :
    (List.lookup name plan.stageSlots = none ∧ name ∉ plan.spec.stages.map Stage.name) ∨
      ∃ k sf, List.lookup name plan.stageSlots = some k ∧ plan.stages[k]? = some sf ∧ sf.1.name = name := by
  have hnames : plan.stageSlots = Machine.numbered 0 (plan.spec.stages.map Stage.name) := by
    rw [stageSlots, ← plan.staged, List.map_map, Machine.numbered_map]
    rfl
  cases hs : List.lookup name plan.stageSlots with
  | none =>
    rw [hnames] at hs
    exact .inl ⟨rfl, Machine.lookup_numbered_none hs⟩
  | some k =>
    rw [hnames] at hs
    obtain ⟨-, hget⟩ := Machine.lookup_numbered hs
    rw [Nat.sub_zero, ← stages_getElem?] at hget
    obtain ⟨sf, hsf, hname⟩ := Option.map_eq_some_iff.mp hget
    exact .inr ⟨k, sf, rfl, hsf, hname⟩

theorem lookup_stage (name : String) :
    (List.lookup name plan.stageSlots).bind plan.slotValue? = plan.meaning? name := by
  rcases plan.lookup_cases name with ⟨hlookup, hmem⟩ | ⟨k, sf, hlookup, hsf, rfl⟩
  · rw [hlookup, meaning?, Spec.meaning?_eq, Spec.stage?_none hmem]
    rfl
  · rw [hlookup]
    exact plan.slotValue?_stage hsf

/-- A stage has the value of its function on its arguments. -/
theorem meaning?_stage {k : Nat} {sf : Stage × Function} (h : plan.stages[k]? = some sf) :
    plan.meaning? sf.1.name = sf.1.value? plan.registry plan.reference? := by
  have hmem : sf.1 ∈ plan.spec.stages := by
    rw [← plan.staged]
    exact List.mem_map_of_mem (List.mem_of_getElem? h)
  have hstage : plan.spec.stage? sf.1.name = some sf.1 := Spec.stage?_eq plan.names hmem
  rw [meaning?, Spec.meaning?_eq, hstage]
  rfl

/-- Names are looked up among the stages. -/
theorem stageSlot?_eq {m : Machine} {jobs : List Nat} {output : Output}
    (hm : m.instances = #[plan.atWork jobs output]) (name : String) :
    m.stageSlot? name [0] = List.lookup name plan.stageSlots := by
  have hget : m.instances[0]? = some (plan.atWork jobs output) := by
    rw [hm]
    rfl
  have hstages : (plan.atWork jobs output).stages = plan.stageSlots := rfl
  have halive : (plan.atWork jobs output).alive = true := rfl
  rw [Machine.stageSlot?, hget]
  simp only [halive, if_true, hstages]
  cases List.lookup name plan.stageSlots <;> rfl

/-- The input as it is awaited. -/
def pendingInput : Resolvable Nat := .mapping (plan.bindings.map fun b => (b.1, .pending b.2))

/-- References lead into the input, to stages, or nowhere. -/
theorem link_eq {m : Machine} {jobs : List Nat} {output : Output} (hm : m.instances = #[plan.atWork jobs output])
    (node : Value) (blamed : Option Value) (text : String) :
    m.link (some 0) node blamed text =
      match (if (Path.splitHead text).1 = Spec.inputHead then some plan.pendingInput
        else (List.lookup (Path.splitHead text).1 plan.stageSlots).map .pending) with
      | some base => { base := .ok base, path := Path.parse (Path.splitHead text).2, blamed }
      | none => { base := .error ⟨.missingStage (Path.splitHead text).1 text, some node⟩, blamed } := by
  have hget : m.instances[0]? = some (plan.atWork jobs output) := by
    rw [hm]
    rfl
  unfold Machine.link
  rw [Option.bind_some, hget, ← plan.stageSlot?_eq hm]
  rfl

/-- The value of a reference, as the machine looks it up. -/
theorem link_value? {m : Machine} {jobs : List Nat} {output : Output}
    (hm : m.instances = #[plan.atWork jobs output]) (node : Value) (blamed : Option Value) (text : String) :
    (m.link (some 0) node blamed text).value? plan.slotValue? = plan.reference? text := by
  have hinput (path : Path) : plan.pendingInput.reached? plan.slotValue? path =
      (plan.spec.inputValue plan.values).descend path :=
    Resolvable.reached?_inputs plan.inputs plan.bound (fun k _ => plan.slotValue?_input k) path
  rw [plan.link_eq hm]
  unfold reference? Spec.referenceValue?
  generalize Path.splitHead text = parts
  obtain ⟨head, rest⟩ := parts
  simp only
  by_cases hhead : head = Spec.inputHead
  · rw [if_pos hhead, if_pos hhead]
    exact hinput (Path.parse rest)
  · rw [if_neg hhead, if_neg hhead, ← plan.lookup_stage head]
    cases List.lookup head plan.stageSlots with
    | none => rfl
    | some s => exact Resolvable.reached?_pending s (Path.parse rest)

end Plan
end StageGraph
