import StageGraph.Proofs.Bystanders.Moments
import StageGraph.Proofs.Dataflow.Accord
import StageGraph.Proofs.Timing.Punctual

/-! What is told of a reference, and when.

In a run that has not got ahead of its moments (`Plan.Board`), a reference tells nothing before its stage is over, and
then the value that it leads to, or a cause that it can fail with (`Plan.Told`). It tells as soon as the slot of its
stage is filled (`Board.linked_isSome`). -/
namespace StageGraph

/-- A way to tell what computations give that tells of two things at once. -/
def Telling.Joins {m : Type → Type} [Monad m] (telling : Telling m) : Prop :=
  ∀ {α : Type} {x : m α} {P Q : α → Prop}, telling.holds x P → telling.holds x Q → telling.holds x fun a => P a ∧ Q a

theorem Telling.keeping_joins {σ : Type} (I : σ → Prop) : (Telling.keeping I).Joins :=
  fun hp hq s hs => ⟨⟨(hp s hs).1, (hq s hs).1⟩, (hp s hs).2⟩

theorem Fault.blame?_cause (f : Fault) (node : Option Value) : (f.blame? node).cause = f.cause := by
  cases node with
  | none => rfl
  | some node =>
    show (f.blame node).cause = f.cause
    unfold blame
    split <;> rfl

namespace Resolvable

variable {π ρ : Type}

/-- Through a finished value, a path goes wrong where its own steps do. -/
theorem astray?_ready (known : π → Option Value) (known' : ρ → Option Value) (path : Path) : ∀ v : Value,
    (ready v : Resolvable π).astray? known path = (ready v : Resolvable ρ).astray? known' path := by
  induction path with
  | nil => exact fun _ => rfl
  | cons segment rest ih =>
    intro v
    simp only [astray?, settled?, Option.bind_some]
    cases v with
    | array items =>
      simp only [step]
      cases select items segment "array" with
      | ok w => exact ih w
      | error cause => rfl
    | object fields =>
      simp only [step]
      cases Fields.get? fields segment with
      | none => rfl
      | some w => exact ih w
    | _ => rfl

theorem astray?_pending (known : π → Option Value) (p : π) {path : Path} {cause : Cause}
    (h : (pending p).astray? known path = some cause) :
    ∃ v, known p = some v ∧ (ready v : Resolvable π).astray? known path = some cause := by
  cases path with
  | nil => cases h
  | cons segment rest =>
    obtain ⟨found, hfound, h⟩ := Option.bind_eq_some_iff.mp h
    obtain ⟨v, hv, rfl⟩ := Option.map_eq_some_iff.mp hfound
    exact ⟨v, hv, h⟩

/-- Through the declared inputs, a path goes wrong where it does through the object of their values. -/
theorem astray?_inputs {known : Nat → Option Value} {names : List String} {values : List Value} {first : Nat}
    (hnames : names.Nodup) (hlen : values.length = names.length)
    (hknown : ∀ k, k < names.length → known (first + k) = values[k]?) (path : Path) :
    (mapping ((Machine.numbered first names).map fun b => (b.1, .pending b.2))).astray? known path =
      (ready (.object (Fields.ofList (names.zip values))) : Resolvable Nat).astray? known path := by
  cases path with
  | nil => rfl
  | cons segment rest =>
    have hfields : Fields.ofList (names.zip values) = names.zip values := Fields.ofList_zip hnames hlen
    have hlookup := lookup_numbered_known segment hlen hknown
    simp only [astray?, settled?, Option.bind_some, step, lookup_numbered_pending, Fields.get?, hfields]
    rw [← hlookup]
    cases hs : List.lookup segment (Machine.numbered first names) with
    | none => rfl
    | some s =>
      obtain ⟨hle, hget⟩ := Machine.lookup_numbered hs
      obtain ⟨hlt, -⟩ := List.getElem?_eq_some_iff.mp hget
      have hvalue : known s = some values[s - first] := by
        have h := hknown (s - first) hlt
        rw [Nat.add_sub_cancel' hle] at h
        rw [h, List.getElem?_eq_getElem (by rw [hlen]; exact hlt)]
      simp only [Option.map_some, Option.bind_some, hvalue]
      cases rest with
      | nil => rfl
      | cons segment rest =>
        simp only [astray?, settled?, hvalue, Option.map_some, Option.bind_some]

end Resolvable

namespace Plan

open Machine Progress

variable {plan : Plan} {m : Machine} {c : Nat} {text : String} {l : Link}

/-! ### Where references lead -/

/-- The link of a reference, as a pipeline at work looks it up. -/
inductive Leads (plan : Plan) (text : String) : Link → Prop
  | input {blamed : Option Value} : Path.stage? text = none →
    Leads plan text ⟨.ok plan.pendingInput, Path.parse (Path.splitHead text).2, blamed⟩
  | stage {k : Nat} {sf : Stage × Function} {blamed : Option Value} : Path.stage? text = some sf.1.name →
    plan.stages[k]? = some sf → Leads plan text ⟨.ok (.pending k), Path.parse (Path.splitHead text).2, blamed⟩
  | missing {name : String} {node : Value} {path : Path} {blamed : Option Value} : Path.stage? text = some name →
    plan.spec.stage? name = none → Leads plan text ⟨.error ⟨.missingStage name text, some node⟩, path, blamed⟩

theorem stage?_eq {k : Nat} {sf : Stage × Function} (hsf : plan.stages[k]? = some sf) :
    plan.spec.stage? sf.1.name = some sf.1 :=
  Spec.stage?_eq plan.names (mem_stages hsf)

theorem spec_pure (plan : Plan) : plan.spec.Pure plan.registry := by
  intro s hs f hf
  rw [← plan.staged] at hs
  obtain ⟨sf, hsf, rfl⟩ := List.mem_map.mp hs
  rw [plan.functions sf hsf] at hf
  exact Option.some.inj hf ▸ plan.pure sf hsf

theorem link_leads {jobs : List Nat} {output : Output} (hm : m.instances = #[plan.atWork jobs output]) (node : Value)
    (blamed : Option Value) (text : String) : plan.Leads text (m.link (some 0) node blamed text) := by
  rw [plan.link_eq hm]
  by_cases hhead : (Path.splitHead text).1 = Spec.inputHead
  · rw [if_pos hhead]
    exact .input (if_pos hhead)
  · rw [if_neg hhead]
    have hstage : Path.stage? text = some (Path.splitHead text).1 := if_neg hhead
    rcases plan.lookup_cases (Path.splitHead text).1 with ⟨hlookup, hmem⟩ | ⟨k, sf, hlookup, hsf, hname⟩
    · rw [hlookup]
      exact .missing hstage (Spec.stage?_none hmem)
    · rw [hlookup]
      exact .stage (hstage.trans (congrArg some hname.symm)) hsf

/-- A link leads where its reference does. -/
theorem Leads.value? (h : plan.Leads text l) : l.value? plan.slotValue? = plan.reference? text := by
  rw [show plan.reference? text = _ from Spec.reference?_eq text]
  cases h with
  | input hname =>
    rw [Spec.base?, hname]
    exact Resolvable.reached?_inputs plan.inputs plan.bound (fun k _ => plan.slotValue?_input k) _
  | @stage k sf blamed hname hsf =>
    rw [Spec.base?_stage hname]
    exact (Resolvable.reached?_pending k _).trans (by rw [plan.slotValue?_stage hsf]; rfl)
  | missing hname hnone =>
    rw [Spec.base?_stage hname, Spec.meaning?_eq, hnone]
    rfl

/-! ### What is told -/

/-- An outcome that a slot can have by some moment: that of a stage that is over by then, or an input. -/
def Settled (plan : Plan) (c s : Nat) (o : Outcome) : Prop :=
  o.toOption = plan.slotValue? s ∧ ∀ sf, plan.stages[s]? = some sf →
    plan.spec.Over plan.registry plan.values c sf.1.name ∧
      ∀ f, o = .error f → plan.spec.Fails plan.registry plan.values sf.1 f.cause

/-- What can be told by some moment of what is waited for. -/
def Told (plan : Plan) (c : Nat) : Option String → Outcome → Prop
  | none, o => ∃ v, o = .ok v
  | some text, o => o.toOption = plan.reference? text ∧
    plan.spec.There (plan.spec.Over plan.registry plan.values c) (some text) ∧
      ∀ f, o = .error f → plan.spec.Blames plan.registry plan.values text f.cause

theorem Told.later {c' : Nat} (hle : c ≤ c') {a : Option String} {o : Outcome} (h : plan.Told c a o) :
    plan.Told c' a o := by
  cases a with
  | none => exact h
  | some text => exact ⟨h.1, Spec.There.later hle h.2.1, h.2.2⟩

theorem Told.fine {a : Option String} {v : Value} (h : plan.Told c a (.ok v)) :
    plan.spec.Fine plan.registry plan.values a ∧ plan.spec.There (plan.spec.Over plan.registry plan.values c) a := by
  cases a with
  | none => exact ⟨trivial, trivial⟩
  | some text => exact ⟨Option.isSome_iff_exists.mpr ⟨v, h.1.symm⟩, h.2.1⟩

theorem Told.fails {a : Option String} {f : Fault} (h : plan.Told c a (.error f)) :
    (¬plan.spec.Fine plan.registry plan.values a ∧ plan.spec.There (plan.spec.Over plan.registry plan.values c) a) ∧
      ∃ text, a = some text ∧ plan.spec.Blames plan.registry plan.values text f.cause := by
  cases a with
  | none =>
    obtain ⟨v, hv⟩ := h
    cases hv
  | some text =>
    have hnone : plan.reference? text = none := h.1.symm
    refine ⟨⟨fun hfine => ?_, h.2.1⟩, text, rfl, h.2.2 f rfl⟩
    change (plan.reference? text).isSome at hfine
    rw [hnone] at hfine
    cases hfine

section

variable {n : Type → Type} [Monad n] (telling : Telling n) {slot : Nat → n (Poll Value)}
  (hslot : ∀ s, telling.holds (slot s) fun t => ∀ o, t = some o → plan.Settled c s o)
include hslot

theorem look_value (h : plan.Leads text l) :
    telling.holds (l.look slot) fun t => ∀ o, t = some o → o.toOption = plan.reference? text := by
  rw [← h.value?]
  exact Link.look_agrees telling l fun s _ => telling.mono (hslot s) fun _ ht o ho => (ht o ho).1

/-- What is told of a link comes after its stage. -/
theorem look_there [LawfulMonad n] (h : plan.Leads text l) : telling.holds (l.look slot) fun t =>
    t.isSome → plan.spec.There (plan.spec.Over plan.registry plan.values c) (some text) := by
  have hdone (hthere : plan.spec.There (plan.spec.Over plan.registry plan.values c) (some text)) :
      telling.holds (l.look slot) fun t =>
        t.isSome → plan.spec.There (plan.spec.Over plan.registry plan.values c) (some text) :=
    telling.mono (look_value telling hslot h) fun _ _ _ => hthere
  cases h with
  | input hname =>
    refine hdone fun name hname' => ?_
    cases hname.symm.trans hname'
  | missing hname hnone =>
    refine hdone fun name hname' hsome => ?_
    cases hname.symm.trans hname'
    rw [hnone] at hsome
    cases hsome
  | @stage k sf blamed hname hsf =>
    by_cases hover : plan.spec.Over plan.registry plan.values c sf.1.name
    · refine hdone fun name hname' _ => ?_
      cases hname.symm.trans hname'
      exact hover
    · -- a stage that is not over has nothing in its slot
      obtain ⟨next, heq⟩ := Resolvable.obtain?_pending slot k (Path.parse (Path.splitHead text).2)
      unfold Link.look
      simp only [heq]
      refine telling.bind (P := (· = none)) (telling.bind (P := (· = none)) (telling.mono (hslot k) fun t ht => ?_)
        fun t ht => ?_) fun t ht => ?_
      · exact Option.eq_none_iff_forall_ne_some.mpr fun o ho => hover ((ht o ho).2 sf hsf).1
      · subst ht
        exact telling.pure rfl
      · subst ht
        exact telling.pure fun hsome => by cases hsome

/-- What a link fails with. -/
theorem look_blames (h : plan.Leads text l) : telling.holds (l.look slot) fun t =>
    ∀ f, t = some (.error f) → plan.spec.Blames plan.registry plan.values text f.cause := by
  have hfinish {x : n (Poll Value)} {blamed : Option Value}
      (hx : telling.holds x (Progress.Tells fun f => plan.spec.Blames plan.registry plan.values text f.cause)) :
      telling.holds (x >>= fun found => Pure.pure (found.map (Except.mapError (Fault.blame? · blamed)))) fun t =>
        ∀ f, t = some (.error f) → plan.spec.Blames plan.registry plan.values text f.cause := by
    refine blamed_tells telling hx fun f₀ hf => ?_
    rw [Fault.blame?_cause]
    exact hf
  have hvalue (s : Nat) : telling.holds (slot s) fun t =>
      (∀ v, t = some (.ok v) → plan.slotValue? s = some v) ∧
        Progress.Tells (fun f => ∀ sf, plan.stages[s]? = some sf →
          plan.spec.Fails plan.registry plan.values sf.1 f.cause) t ∧
        ((plan.slotValue? s).isSome → Progress.Tells (fun _ => False) t) :=
    telling.mono (hslot s) fun t ht => ⟨fun v hv => (ht _ hv).1.symm, fun f hf sf hsf => (((ht _ hf).2 sf hsf).2 f rfl),
      fun hsome f hf => by rw [← (ht _ hf).1] at hsome; cases hsome⟩
  cases h with
  | missing hname hnone =>
    refine hfinish (x := Pure.pure (some (.error _))) (telling.pure fun f hf => ?_)
    cases hf
    exact .missing hname hnone
  | @stage k sf blamed hname hsf =>
    have hask (s : Nat) (hs : s = k) : telling.holds (slot s) fun t =>
        (∀ v, t = some (.ok v) → plan.slotValue? s = some v) ∧
          Progress.Tells (fun f => plan.spec.Fails plan.registry plan.values sf.1 f.cause) t := by
      subst hs
      exact telling.mono (hvalue s) fun t ht => ⟨ht.1, fun f hf => ht.2.1 f hf sf hsf⟩
    refine hfinish (telling.mono (Resolvable.obtain?_tells telling hask (.pending k) (Path.parse (Path.splitHead text).2)
      fun s hs => List.mem_singleton.mp hs) fun t ht f hf => ?_)
    rcases ht f hf with hfails | ⟨cause, rfl, hastray⟩
    · exact hfails.blames hname (stage?_eq hsf)
    · obtain ⟨v, hv, hastray⟩ := Resolvable.astray?_pending _ k hastray
      rw [plan.slotValue?_stage hsf] at hv
      exact .astray ((Spec.base?_stage hname).trans hv) ((Resolvable.astray?_ready _ _ _ v).symm.trans hastray)
  | input hname =>
    have hask (s : Nat) (hs : s ∈ plan.pendingInput.awaited) : telling.holds (slot s) fun t =>
        (∀ v, t = some (.ok v) → plan.slotValue? s = some v) ∧ Progress.Tells (fun _ => False) t := by
      refine telling.mono (hvalue s) fun t ht => ⟨ht.1, ht.2.2 ?_⟩
      obtain ⟨k, hk, rfl⟩ := mem_pendingInput hs
      rw [plan.slotValue?_input, List.getElem?_eq_getElem (plan.bound.symm ▸ hk)]
      rfl
    refine hfinish (telling.mono (Resolvable.obtain?_tells telling hask plan.pendingInput
      (Path.parse (Path.splitHead text).2) fun s hs => hs) fun t ht f hf => ?_)
    obtain ⟨cause, rfl, hastray⟩ := (ht f hf).resolve_left id
    rw [pendingInput, bindings, Resolvable.astray?_inputs plan.inputs plan.bound
      fun k _ => plan.slotValue?_input k] at hastray
    refine .astray ?_ ((Resolvable.astray?_ready _ _ _ _).symm.trans hastray)
    rw [Spec.base?, hname]
    rfl

/-- What is told of a link can be told of its reference. -/
theorem look_told [LawfulMonad n] (hjoins : telling.Joins) (h : plan.Leads text l) :
    telling.holds (l.look slot) fun t => ∀ o, t = some o → plan.Told c (some text) o := by
  refine telling.mono (hjoins (hjoins (look_value telling hslot h) (look_there telling hslot h))
    (look_blames telling hslot h)) fun t ⟨⟨hvalue, hthere⟩, hblames⟩ o ho => ⟨hvalue o ho, hthere ?_, fun f hf => ?_⟩
  · rw [ho]
    rfl
  · exact hblames f (by rw [ho, hf])

end

/-! ### The board -/

/-- The results so far are those of stages that are over, and the inputs are there. -/
structure Board (plan : Plan) (c : Nat) (m : Machine) : Prop where
  sized : plan.stages.length ≤ m.slots.size
  inputs {k : Nat} : k < plan.spec.input.length → (m.slot (plan.stages.length + k)).isSome
  settled {s : Nat} {o : Outcome} : m.slot s = some o → plan.Settled c s o

namespace Board

variable (h : plan.Board c m)
include h

theorem later {c' : Nat} (hle : c ≤ c') : plan.Board c' m where
  sized := h.sized
  inputs := h.inputs
  settled hs := ⟨(h.settled hs).1, fun sf hsf => ⟨((h.settled hs).2 sf hsf).1.mono hle, ((h.settled hs).2 sf hsf).2⟩⟩

theorem alike {m' : Machine} (ha : m.Alike m') : plan.Board c m' where
  sized := by
    rw [ha.size]
    exact h.sized
  inputs hk := by
    rw [ha.slot]
    exact h.inputs hk
  settled hs := by
    rw [ha.slot] at hs
    exact h.settled hs

theorem look_told (hl : plan.Leads text l) :
    (Telling.keeping (Taken m)).holds (l.look receive) fun t => ∀ o, t = some o → plan.Told c (some text) o := by
  refine Plan.look_told (Telling.keeping (Taken m)) (fun s m' hm' => ?_) (Telling.keeping_joins _) hl
  refine ⟨fun o ho => h.settled ?_, hm'.trans ((receive_sees s).taken m')⟩
  rw [← hm'.slot s]
  exact told_of_receive ho

/-- Something is told of a reference as soon as the slot of its stage is filled. -/
theorem linked_isSome (hl : plan.Leads text l)
    (hslot : ∀ k sf, plan.stages[k]? = some sf → Path.stage? text = some sf.1.name → (m.slot k).isSome) :
    (m.linked l).isSome := by
  cases hl with
  | input hname =>
    refine Machine.linked_isSome rfl fun s hs => ?_
    obtain ⟨k, hk, rfl⟩ := mem_pendingInput hs
    exact h.inputs hk
  | @stage k sf blamed hname hsf =>
    refine Machine.linked_isSome rfl fun s hs => ?_
    rw [List.mem_singleton.mp hs]
    exact hslot k sf hsf hname
  | missing hname hnone => rfl

end Board

end Plan
end StageGraph
