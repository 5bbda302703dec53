import StageGraph.Proofs.Attribution.Reading
import StageGraph.Proofs.Bystanders.Kindred
import StageGraph.Proofs.Bystanders.References
import StageGraph.Proofs.Dataflow.Run
import StageGraph.Proofs.Resolvable.Renaming

/-! The first look.

A run without any time looks at its output once, before any stage has its turn (`drive_at_once`). There is nothing to be
seen then but the inputs, and of many inputs a look takes in no more than there is room for. So what it sees depends on
the order in which it takes them in; but the runs of two specs that need the same stages look at the same places in the
same order, and they stay in step (`InStep`), whatever other stages there are (`firstLook_agrees`). -/
namespace StageGraph

/-- What is told, without the nodes that are blamed. -/
def Poll.bare (told : Poll Value) : Option (Except Cause Value) := told.map (Except.mapError Fault.cause)

namespace Machine

/-- What a reference tells does not depend on whom it blames. -/
theorem link_bare (m : Machine) (reader : Option Nat) (node node' : Value) (blamed blamed' : Option Value)
    (text : String) {n : Type → Type} [Monad n] [LawfulMonad n] (slot : Nat → n (Poll Value)) :
    Poll.bare <$> (m.link reader node blamed text).look slot =
      Poll.bare <$> (m.link reader node' blamed' text).look slot := by
  have hbare (blamed : Option Value) (told : Poll Value) :
      Poll.bare (told.map (Except.mapError (Fault.blame? · blamed))) = told.bare := by
    rcases told with - | f | v
    · rfl
    · exact congrArg (fun cause => some (Except.error cause)) (Fault.blame?_cause f blamed)
    · rfl
  unfold link
  cases reader.bind fun p => m.instances[p]? with
  | none => simp only [Link.look, pure_bind, map_pure, hbare]
  | some i =>
    by_cases halive : i.alive = true
    · simp only [if_pos halive]
      cases m.head? i (Path.splitHead text).1 with
      | some base => simp only [Link.look, map_bind, map_pure, hbare]
      | none =>
        simp only [Link.look, pure_bind, map_pure, hbare]
        rfl
    · simp only [if_neg halive, Link.look, pure_bind, map_pure, hbare]

end Machine

namespace Plan

open Machine Progress

variable {plan plan' : Plan} {m m' : Machine}

/-- Two machines in which nothing is there but the inputs of two plans, and of both as much is taken in. -/
structure InStep (plan plan' : Plan) (m m' : Machine) : Prop where
  room : m.room = m'.room
  inputs (k : Nat) : m.slots[plan.stages.length + k]? = m'.slots[plan'.stages.length + k]?
  stages {k : Nat} : k < plan.stages.length → m.slots[k]? = some .empty
  stages' {k : Nat} : k < plan'.stages.length → m'.slots[k]? = some .empty

namespace InStep

theorem fill (h : InStep plan plan' m m') (k : Nat) (o : Outcome) :
    InStep plan plan' (m.fill (plan.stages.length + k) o) (m'.fill (plan'.stages.length + k) o) where
  room := h.room
  inputs j := by
    simp only [Machine.fill, Array.getElem?_modify, h.inputs, Nat.add_left_cancel_iff]
  stages {j} hj := by
    have hother : plan.stages.length + k ≠ j := by omega
    simp only [Machine.fill, Array.getElem?_modify, if_neg hother, h.stages hj]
  stages' {j} hj := by
    have hother : plan'.stages.length + k ≠ j := by omega
    simp only [Machine.fill, Array.getElem?_modify, if_neg hother, h.stages' hj]

theorem foldl_fill (entries : List (Nat × Value)) : ∀ {m m' : Machine}, InStep plan plan' m m' →
    InStep plan plan' (entries.foldl (fun m e => m.fill (plan.stages.length + e.1) (.ok e.2)) m)
      (entries.foldl (fun m e => m.fill (plan'.stages.length + e.1) (.ok e.2)) m') := by
  induction entries with
  | nil => exact id
  | cons entry rest ih => exact fun h => ih (h.fill entry.1 (.ok entry.2))

theorem take (h : InStep plan plan' m m') {k : Nat} (hk : plan.stages.length + k < m.slots.size)
    (hk' : plan'.stages.length + k < m'.slots.size) (o : Outcome) : InStep plan plan'
      { m with slots := m.slots.setIfInBounds (plan.stages.length + k) (.known o), room := m.room - 1 }
      { m' with slots := m'.slots.setIfInBounds (plan'.stages.length + k) (.known o), room := m'.room - 1 } where
  room := congrArg (· - 1) h.room
  inputs j := by
    simp only [Array.getElem?_setIfInBounds, if_pos hk, if_pos hk', h.inputs, Nat.add_left_cancel_iff]
  stages {j} hj := by
    have hother : plan.stages.length + k ≠ j := by omega
    simp only [Array.getElem?_setIfInBounds, if_neg hother, h.stages hj]
  stages' {j} hj := by
    have hother : plan'.stages.length + k ≠ j := by omega
    simp only [Array.getElem?_setIfInBounds, if_neg hother, h.stages' hj]

/-- An input is taken in by both or by neither. -/
theorem receive_input (k : Nat) :
    Concur (InStep plan plan') (receive (plan.stages.length + k)) (receive (plan'.stages.length + k)) := by
  intro m m' h
  have hk := h.inputs k
  generalize hs : m.slots[plan.stages.length + k]? = slot at hk
  rcases slot with - | - | o | o
  · simp only [receive, hs, ← hk, true_and]
    exact h
  · simp only [receive, hs, ← hk, true_and]
    exact h
  · by_cases hroom : m.room = 0
    · simp only [receive, hs, ← hk, if_pos hroom, if_pos (h.room ▸ hroom), true_and]
      exact h
    · simp only [receive, hs, ← hk, if_neg hroom, if_neg (h.room ▸ hroom), true_and]
      exact h.take (Array.getElem?_eq_some_iff.mp hs).1 (Array.getElem?_eq_some_iff.mp hk.symm).1 o
  · simp only [receive, hs, ← hk, true_and]
    exact h

/-- The result of a stage is not there. -/
theorem receive_stage {k k' : Nat} (hk : k < plan.stages.length) (hk' : k' < plan'.stages.length) :
    Concur (InStep plan plan') (receive k) (receive k') := by
  intro m m' h
  simp only [receive, h.stages hk, h.stages' hk', true_and]
  exact h

end InStep

/-- The inputs, numbered from the first of them on. -/
def inputTree (plan : Plan) : Resolvable Nat :=
  .mapping ((Machine.numbered 0 plan.spec.input).map fun b => (b.1, .pending b.2))

theorem pendingInput_eq (plan : Plan) : plan.pendingInput = plan.inputTree.map (plan.stages.length + ·) := by
  have hnumbered (names : List String) : ∀ first, Resolvable.mapEntries (plan.stages.length + ·)
      ((Machine.numbered first names).map fun b => (b.1, .pending b.2)) =
        (Machine.numbered (plan.stages.length + first) names).map fun b => (b.1, .pending b.2) := by
    induction names with
    | nil => exact fun _ => rfl
    | cons name rest ih =>
      intro first
      simp only [Machine.numbered, List.map_cons, Resolvable.mapEntries, Resolvable.map, ih, Nat.add_assoc]
  unfold pendingInput bindings inputTree
  rw [Resolvable.map, hnumbered, Nat.add_zero]

theorem filled_eq (plan : Plan) : plan.filled = ((List.range plan.spec.input.length).zip plan.values).foldl
    (fun m e => m.fill (plan.stages.length + e.1) (.ok e.2)) plan.built := by
  show ((plan.bindings.map Prod.snd).zip plan.values).foldl (fun m (e : Nat × Value) => m.fill e.1 (.ok e.2)) plan.built = _
  rw [bindings, numbered_snd, List.range'_eq_map_range, List.zip_map_left, List.foldl_map]
  rfl

theorem built_inStep (hinput : plan'.spec.input = plan.spec.input) : InStep plan plan' plan.built plan'.built := by
  have hslots (plan : Plan) (k : Nat) : plan.built.slots[k]? =
      if k < plan.stages.length + plan.spec.input.length then some .empty else none := by
    show (#[] ++ Array.replicate _ Slot.empty)[k]? = _
    rw [Array.empty_append, Array.getElem?_replicate]
    rfl
  refine ⟨rfl, fun k => ?_, fun {k} hk => ?_, fun {k} hk => ?_⟩
  · simp only [hslots, hinput, Nat.add_lt_add_iff_left]
  · rw [hslots, if_pos (Nat.lt_add_right _ hk)]
  · rw [hslots, if_pos (Nat.lt_add_right _ hk)]

theorem started_inStep (hinput : plan'.spec.input = plan.spec.input) (hvalues : plan'.values = plan.values) :
    InStep plan plan' plan.started.refreshed plan'.started.refreshed := by
  have hfilled : InStep plan plan' plan.filled plan'.filled := by
    rw [filled_eq, filled_eq, hinput, hvalues]
    exact (built_inStep hinput).foldl_fill _
  refine ⟨rfl, ?_, ?_, ?_⟩
  · simpa only [refreshed, started_slots] using hfilled.inputs
  · simpa only [refreshed, started_slots] using @hfilled.stages
  · simpa only [refreshed, started_slots] using @hfilled.stages'

/-! ### The output -/

theorem link_concur {ι : Type} {R : Machine → Machine → Prop} {rename rename' : ι → Nat}
    (h : ∀ p, Concur R (receive (rename p)) (receive (rename' p))) (r : Resolvable ι) (path : Path)
    (blamed : Option Value) : Concur R (Link.look receive ⟨.ok (r.map rename), path, blamed⟩)
      (Link.look receive ⟨.ok (r.map rename'), path, blamed⟩) := by
  simp only [Link.look, Resolvable.obtain?_map]
  exact (Concur.obtain? h r path).bind fun _ => .pure _

/-- A reference of the output leads to the same place, wherever it is. -/
theorem output_concur (hkin : plan.spec.Kindred plan'.spec) {text : String} (hasked : plan.spec.Asked text)
    {jobs jobs' : List Nat} {output output' : Output} (hm : m.instances = #[plan.atWork jobs output])
    (hm' : m'.instances = #[plan'.atWork jobs' output']) (node : Value) (blamed : Option Value) :
    Concur (InStep plan plan') ((m.link (some 0) node blamed text).look receive)
      ((m'.link (some 0) node blamed text).look receive) := by
  rw [plan.link_eq hm, plan'.link_eq hm']
  by_cases hhead : (Path.splitHead text).1 = Spec.inputHead
  · rw [if_pos hhead, if_pos hhead, pendingInput_eq, pendingInput_eq]
    have htree : plan'.inputTree = plan.inputTree := by rw [inputTree, inputTree, hkin.input]
    rw [htree]
    exact link_concur InStep.receive_input plan.inputTree _ _
  · rw [if_neg hhead, if_neg hhead]
    have hsame := hkin.stage? (hasked _ (if_neg hhead))
    rcases plan.lookup_cases (Path.splitHead text).1 with ⟨hlookup, hmem⟩ | ⟨k, sf, hlookup, hsf, hname⟩ <;>
      rcases plan'.lookup_cases (Path.splitHead text).1 with ⟨hlookup', hmem'⟩ | ⟨k', sf', hlookup', hsf', hname'⟩
    · rw [hlookup, hlookup']
      exact fun _ _ h => ⟨rfl, h⟩
    · rw [← hname', stage?_eq hsf', hname', Spec.stage?_none hmem] at hsame
      cases hsame
    · rw [← hname, stage?_eq hsf, hname, Spec.stage?_none hmem'] at hsame
      cases hsame
    · rw [hlookup, hlookup']
      have hk := (List.getElem?_eq_some_iff.mp hsf).1
      have hk' := (List.getElem?_eq_some_iff.mp hsf').1
      exact link_concur (fun _ => InStep.receive_stage hk hk') (.pending ()) _ _

/-- What the first look at the output finds. -/
def firstLook (plan : Plan) : Poll Value :=
  ((plan.started.refreshed.outputLinks 0 (plan.atWork [] .unread)).look (Link.look receive)
    plan.started.refreshed).1.outcome?

theorem started_instances (plan : Plan) : plan.started.refreshed.instances = #[plan.atWork [] .unread] := by
  obtain ⟨slots, hstarted⟩ := plan.started_eq
  rw [hstarted]
  rfl

/-- A run without any time has the outcome that its first look finds, or it is late. -/
theorem drive_at_once (plan : Plan) (choose : Choice) (fuel : Nat) :
    (drive choose (.output 0) (some 0) (fuel + 1) plan.started).1 =
      some (match plan.firstLook with
        | some o => .outcome o
        | none => .late) := by
  have hm := plan.started_instances
  obtain ⟨r, hr, heq⟩ := looked_eq hm nofun
  obtain rfl := hr.resolve_left nofun
  rcases lookOutput_eq hm (plan.started.refreshed.outputLinks 0 (plan.atWork [] .unread)) with
    ⟨o, ho, hstanding⟩ | ⟨hnone, hlook⟩
  · have hfound : plan.firstLook = some o := by
      rw [firstLook, ho]
      rfl
    rw [drive_outcome (o := o) (by rw [heq, wake_eq]; exact hstanding), hfound]
  · have hnothing : plan.firstLook = none := hnone
    have hstanding : (plan.started.looked (.output 0)).standing (.output 0) = none := by
      have hinstances := ((look_sees linked_sees
        (plan.started.refreshed.outputLinks 0 (plan.atWork [] .unread))).taken plan.started.refreshed).instances
      rw [heq, hlook, wake_eq, standing_output, setOutput_instances (hinstances.trans hm)]
      rfl
    have hlate : (some 0).any (fun due => decide (due ≤ (plan.started.looked (.output 0)).clock)) = true := by
      rw [Option.any_some]
      exact decide_eq_true (Nat.zero_le _)
    rw [drive_late hstanding hlate, hnothing]

/-- A look at one thing alone tells what is told of it. -/
theorem look_alone {π σ : Type} (ask : π → StateM σ (Poll Value)) (p : π) (s : σ) :
    ((Progress.pending p).look ask s).1.outcome? = (ask p s).1 := by
  simp only [Progress.look]
  show ((match (ask p s).1 with
    | some o => Pure.pure (.done o)
    | none => Pure.pure (.pending p) : StateM σ (Progress π)) (ask p s).2).1.outcome? = (ask p s).1
  cases (ask p s).1 <;> rfl

theorem firstLook_eq (plan : Plan) : plan.firstLook = (plan.spec.output.tree.progress.look (fun text =>
    (plan.started.refreshed.link (some 0) plan.spec.outputNode (some plan.spec.outputNode) text).look receive)
      plan.started.refreshed).1.outcome? := by
  unfold firstLook outputLinks
  rw [Resolvable.map_progress, look_map]
  exact map_outcome? _ _

/-- **What there is of the output at first does not depend on stages that it does not need.** -/
theorem firstLook_agrees (hkin : plan.spec.Kindred plan'.spec) (hvalues : plan'.values = plan.values)
    (hnode : (∃ path, plan.spec.output = .single path) ∨ plan'.spec.outputNode = plan.spec.outputNode) :
    plan.firstLook.bare = plan'.firstLook.bare := by
  have hstep := started_inStep hkin.input hvalues
  have hconcur (node : Value) (blamed : Option Value) (text : String) (htext : some text ∈ plan.spec.output.wants) :=
    output_concur hkin (Spec.asked_of_output htext) plan.started_instances plan'.started_instances node blamed
  rcases hnode with ⟨path, hpath⟩ | hnode
  · have hone (plan : Plan) (h : plan.spec.output = .single path) : plan.firstLook = ((plan.started.refreshed.link (some 0)
        plan.spec.outputNode (some plan.spec.outputNode) path).look receive plan.started.refreshed).1 := by
      rw [firstLook_eq, h]
      exact look_alone _ _ _
    have hbare := congrArg Prod.fst (congrFun (link_bare plan'.started.refreshed (some 0) plan'.spec.outputNode
      plan.spec.outputNode (some plan'.spec.outputNode) (some plan.spec.outputNode) path receive) plan'.started.refreshed)
    rw [hone plan hpath, hone plan' (hkin.output.trans hpath)]
    have hmem : some path ∈ plan.spec.output.wants := by
      rw [hpath]
      exact List.mem_singleton_self _
    exact (congrArg Poll.bare (hconcur _ _ path hmem _ _ hstep).1).trans hbare.symm
  · have hwants {text : String} (htext : text ∈ plan.spec.output.tree.progress.awaited) :
        some text ∈ plan.spec.output.wants := by
      rw [Resolvable.progress_awaited, OutputShape.tree_awaited] at htext
      exact List.mem_map_of_mem htext
    rw [firstLook_eq, firstLook_eq, hnode, hkin.output]
    have hlook := Concur.look plan.spec.output.tree.progress fun text htext =>
      hconcur plan.spec.outputNode (some plan.spec.outputNode) text (hwants htext)
    rw [(hlook _ _ hstep).1]

end Plan
end StageGraph
