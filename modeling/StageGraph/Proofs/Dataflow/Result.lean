import StageGraph.Proofs.Dataflow.Course
import StageGraph.Proofs.Machine.Driving

/-! The result of a plan.

A look at the output gives what the spec evaluates to, or leaves the run where it can go on (`read_cases`). Every round
of the run ends in one of the ways that it may, or leaves less time or less to do (`drive_step`), so it ends
(`drive_ends`). -/
namespace StageGraph

/-! ### The shape of the output -/

theorem itemValues?_pending (reference : String → Option Value) (paths : List String) :
    Resolvable.itemValues? reference (paths.map .pending) = paths.mapM reference := by
  induction paths with
  | nil => rfl
  | cons path rest ih =>
    rw [List.map_cons, Resolvable.itemValues?, ih, List.mapM_cons]
    show Option.bind (reference path) _ = _
    cases reference path with
    | none => rfl
    | some v => cases rest.mapM reference <;> rfl

theorem entryValues?_pending (reference : String → Option Value) (entries : List (String × String)) :
    Resolvable.entryValues? reference (entries.map fun e => (e.1, .pending e.2)) =
      (referred? reference entries).map fun fields => fields.map Prod.snd := by
  induction entries with
  | nil => rfl
  | cons entry rest ih =>
    rw [List.map_cons, Resolvable.entryValues?, ih, referred?_cons]
    show Option.bind (reference entry.2) _ = _
    cases reference entry.2 with
    | none => rfl
    | some v => cases referred? reference rest <;> rfl

theorem OutputShape.tree_value? (reference : String → Option Value) (shape : OutputShape) :
    shape.tree.value? reference = shape.value? reference := by
  cases shape with
  | single path => rfl
  | list paths =>
    simp only [tree, Resolvable.value?, value?, itemValues?_pending]
  | named entries =>
    simp only [tree, Resolvable.value?, value?, entryValues?_pending, List.map_map]
    cases hfields : referred? reference entries with
    | none => rfl
    | some fields =>
      have hzip : ((entries.map Prod.fst).zip (fields.map Prod.snd)) = fields := by
        rw [← referred?_keys hfields]
        exact (List.zip_of_prod rfl rfl).symm
      show some (Value.object (Fields.ofList ((entries.map Prod.fst).zip (fields.map Prod.snd)))) = _
      rw [hzip]
      rfl

namespace Plan

open Machine

variable {plan : Plan} {m : Machine}

theorem setOutput_instances {jobs : List Nat} {output output' : Output} (h : m.instances = #[plan.atWork jobs output]) :
    (m.setOutput 0 output').instances = #[plan.atWork jobs output'] := by
  unfold setOutput
  simp only [h]
  rfl

theorem outputLinks_value? {jobs : List Nat} {output : Output} (hm : m.instances = #[plan.atWork jobs output]) :
    (m.outputLinks 0 (plan.atWork jobs output)).value? (Link.value? plan.slotValue?) = plan.result? := by
  unfold outputLinks
  rw [Resolvable.progress_value?, Resolvable.map_value?]
  have hlinks : (fun text => (m.link (some 0) plan.spec.outputNode (some plan.spec.outputNode) text).value?
      plan.slotValue?) = plan.reference? := by
    funext text
    exact plan.link_value? hm _ _ text
  exact (congrArg (fun known => plan.spec.output.tree.value? known) hlinks).trans (OutputShape.tree_value? _ _)

/-- A look at the output: it has come about, or what there is of it is kept. -/
theorem lookOutput_eq {output : Output} (hm : m.instances = #[plan.atWork [] output]) (r : Progress Link) :
    (∃ o, (r.look (Link.look receive) m).1 = .done o ∧ (m.lookOutput 0 r).standing (.output 0) = some o) ∨
      (r.look (Link.look receive) m).1.outcome? = none ∧ m.lookOutput 0 r =
        (r.look (Link.look receive) m).2.setOutput 0 (.linked (r.look (Link.look receive) m).1) := by
  have hinstances := ((look_sees linked_sees r).taken m).alike.instances
  unfold lookOutput
  generalize r.look (Link.look receive) m = looked at hinstances ⊢
  obtain ⟨r', m'⟩ := looked
  cases r' with
  | done o =>
    refine .inl ⟨o, rfl, ?_⟩
    have hset : (m'.setOutput 0 (.known o)).instances = #[plan.atWork [] (.known o)] :=
      setOutput_instances (hinstances.trans hm)
    rw [standing_output, retire_output, hset]
    rfl
  | pending l => exact .inr ⟨rfl, rfl⟩
  | parts whole items => exact .inr ⟨rfl, rfl⟩

/-- A look at what is asked for is a look at the output, which is looked up the first time. -/
theorem looked_eq {output : Output} (hm : m.refreshed.instances = #[plan.atWork [] output])
    (hopen : ∀ o, output ≠ .known o) :
    ∃ r, (output = .linked r ∨ r = m.refreshed.outputLinks 0 (plan.atWork [] output)) ∧
      m.looked (.output 0) = (m.refreshed.lookOutput 0 r).wake := by
  have hget : m.refreshed.instances[0]? = some (plan.atWork [] output) := by
    rw [hm]
    rfl
  simp only [looked, Machine.read, readOutput, hget]
  cases output with
  | unread => exact ⟨_, .inr rfl, rfl⟩
  | linked r => exact ⟨r, .inl rfl, rfl⟩
  | known o => exact absurd rfl (hopen o)

/-- What is known of the output fits, whether it has come about or not. -/
theorem lookOutput_cases (h : plan.Accord m) {r : Progress Link}
    (hr : r.value? (Link.value? plan.slotValue?) = plan.result?) :
    (∃ o, (m.lookOutput 0 r).standing (.output 0) = some o ∧ o.toOption = plan.result?) ∨
      ∃ m' r', Taken m m' ∧ m'.freshCount + m.room = m.freshCount + m'.room ∧ m'.room ≤ m.room ∧
        r'.value? (Link.value? plan.slotValue?) = plan.result? ∧
        m.lookOutput 0 r = m'.setOutput 0 (.linked r') := by
  have hsees := look_sees linked_sees r
  have hlook := (Progress.look_value? (Telling.keeping (Taken m)) r
    (fun l _ => Link.look_agrees (Telling.keeping (Taken m)) l fun s _ => receive_agrees (h.slots s)) m (Taken.refl m)).1
  rw [hr] at hlook
  obtain ⟨output, hm, -⟩ := h.pipeline
  rcases lookOutput_eq hm r with ⟨o, ho, hstanding⟩ | ⟨-, heq⟩
  · rw [ho] at hlook
    exact .inl ⟨o, hstanding, hlook⟩
  · exact .inr ⟨_, _, hsees.taken m, hsees.account m, hsees.used m, hlook, heq⟩

theorem Course.alike {m' : Machine} (h : plan.Course m) (ha : m.Alike m') : plan.Course m' := by
  refine ⟨h.accord.alike ha, ?_, fun k hk => ?_, fun k hk => ?_⟩
  · rw [ha.ready, ha.blocked]
    exact h.queue
  · rw [ha.ready, ha.blocked] at hk
    rw [ha.tasks]
    exact h.moving k hk
  · rw [ha.ready] at hk
    rw [ha.stirred]
    exact h.stirred k hk

/-- Time passes while nobody can move. -/
theorem Course.pass (h : plan.Course m) (hready : m.ready = []) (moment : Nat) :
    plan.Course { m with clock := moment } := by
  refine ⟨⟨h.accord.pipeline, h.accord.slots, h.accord.tasks⟩, h.queue, h.moving, fun k hk => ?_⟩
  have hnone : k ∈ m.ready := hk
  rw [hready] at hnone
  cases hnone

/-- What is known of the output, kept. -/
theorem Course.setOutput (h : plan.Course m) {r : Progress Link}
    (hr : r.value? (Link.value? plan.slotValue?) = plan.result?) : plan.Course (m.setOutput 0 (.linked r)) := by
  obtain ⟨output, hm, -⟩ := h.accord.pipeline
  refine ⟨⟨⟨.linked r, setOutput_instances hm, hr⟩, h.accord.slots, h.accord.tasks⟩, h.queue, h.moving, ?_⟩
  intro k hk
  have hslots : ∀ s o, m.slot s = some o → (m.setOutput 0 (.linked r)).slot s = some o := fun _ _ hs => hs
  exact stirred_mono (fun _ => h.accord.sober) hslots rfl rfl (h.stirred k hk)

/-- Where reading the output leads: it has come about, or the run goes on, with as many results less to be seen as
there is less room for them. -/
structure Unread (plan : Plan) (m m' : Machine) : Prop where
  course : plan.Course m'
  standing : m'.standing (.output 0) = none
  clock : m'.clock = m.clock
  total (measure : Phase → Nat) : total measure m' = total measure m
  account : m'.freshCount + intake = m.freshCount + m'.room
  room : m'.room ≤ intake

theorem read_cases (h : plan.Course m) :
    (∃ o, (m.looked (.output 0)).standing (.output 0) = some o ∧ o.toOption = plan.result?) ∨
      plan.Unread m (m.looked (.output 0)) := by
  have hthere : plan.Course m.refreshed := h.alike (refreshed_alike m)
  obtain ⟨output, hm, houtput⟩ := hthere.accord.pipeline
  obtain ⟨r, hr, heq⟩ := looked_eq hm fun o ho => by rw [ho] at houtput; exact houtput
  have hvalue : r.value? (Link.value? plan.slotValue?) = plan.result? := by
    rcases hr with rfl | rfl
    · exact houtput
    · exact outputLinks_value? hm
  rw [heq]
  rcases lookOutput_cases hthere.accord hvalue with ⟨o, ho, hvalue⟩ | ⟨m', r', htaken, haccount, hused, hr', hlook⟩
  · refine .inl ⟨o, ?_, hvalue⟩
    rw [wake_eq]
    exact ho
  · refine .inr ?_
    rw [hlook]
    have hinstances : (m'.setOutput 0 (.linked r')).instances = #[plan.atWork [] (.linked r')] :=
      setOutput_instances (htaken.alike.instances.trans hm)
    refine ⟨((hthere.alike htaken.alike).setOutput hr').wake, ?_, ?_, fun measure => ?_, ?_, ?_⟩
    · rw [wake_eq, standing_output, hinstances]
      rfl
    · rw [wake_eq]
      exact htaken.alike.clock
    · rw [wake_eq]
      show total measure m' = total measure m.refreshed
      exact total_alike measure htaken.alike
    · rw [wake_eq]
      exact haccount
    · rw [wake_eq]
      exact hused

/-! ### The run -/

theorem Course.advanceMany (choose : Choice) (n : Nat) (h : plan.Course m) (hready : m.ready ≠ []) :
    plan.Course (m.advanceMany choose (n + 1)) ∧ Less (m.advanceMany choose (n + 1)) m ∧
      (m.advanceMany choose (n + 1)).clock = m.clock := by
  refine advanceMany_steps (R := fun m' m => Less m' m ∧ m'.clock = m.clock) (fun h h' => ?_) (fun h hready => ?_) n h hready
  · exact ⟨h.1.trans h'.1, h.2.trans h'.2⟩
  · obtain ⟨hcourse, hless, hclock, -⟩ := h.advance choose hready
    exact ⟨hcourse, hless, hclock⟩

/-- How a run of a plan ends. -/
def Ends (plan : Plan) (verdict : Option Verdict) : Prop :=
  verdict = some .late ∨ ∃ o, verdict = some (.outcome o) ∧ o.toOption = plan.result?

/-- A machine with less time left, or with less left to do. -/
def Shorter (deadline : Nat) (m' m : Machine) : Prop :=
  deadline - m'.clock < deadline - m.clock ∨ m'.clock = m.clock ∧ Less m' m

theorem shorter_wf (deadline : Nat) : WellFounded (Shorter deadline) := by
  have hlex : WellFounded (Prod.Lex (· < · : Nat → Nat → Prop) (Prod.Lex (· < · : Nat → Nat → Prop) (· < ·))) :=
    (Prod.lex Nat.lt_wfRel (Prod.lex Nat.lt_wfRel Nat.lt_wfRel)).wf
  refine Subrelation.wf (fun {m' m} h => ?_) (InvImage.wf (fun m : Machine =>
    (deadline - m.clock, total Phase.rank m, m.freshCount + total Phase.toil m)) hlex)
  show Prod.Lex _ _ _ _
  rw [Prod.lex_def]
  rcases h with hclock | ⟨hclock, hless⟩
  · exact .inl hclock
  · refine .inr ⟨congrArg (deadline - ·) hclock, ?_⟩
    rw [Prod.lex_def]
    exact hless

/-- One round of a run: it ends, or it goes on with less before it. -/
theorem drive_step (choose : Choice) (deadline : Nat) (h : plan.Course m) :
    (∃ verdict, plan.Ends verdict ∧ ∀ fuel, (drive choose (.output 0) (some deadline) (fuel + 1) m).1 = verdict) ∨
      ∃ m', plan.Course m' ∧ Shorter deadline m' m ∧ ∀ fuel,
        drive choose (.output 0) (some deadline) (fuel + 1) m = drive choose (.output 0) (some deadline) fuel m' := by
  rcases read_cases h with ⟨o, ho, hvalue⟩ | hunread
  · exact .inl ⟨_, .inr ⟨o, rfl, hvalue⟩, fun fuel => by rw [drive_outcome ho]⟩
  have hstanding := hunread.standing
  have hclock := hunread.clock
  have hrank := hunread.total Phase.rank
  have htoil := hunread.total Phase.toil
  have haccount := hunread.account
  by_cases hlate : deadline ≤ (m.looked (.output 0)).clock
  · have htime : (some deadline).any (fun due => decide (due ≤ (m.looked (.output 0)).clock)) = true :=
      decide_eq_true hlate
    exact .inl ⟨_, .inl rfl, fun fuel => by rw [drive_late hstanding htime]⟩
  have htime : (some deadline).any (fun due => decide (due ≤ (m.looked (.output 0)).clock)) = false :=
    decide_eq_false hlate
  refine .inr ?_
  by_cases hready : (m.looked (.output 0)).ready = []
  · by_cases hroom : (m.looked (.output 0)).room = 0
    · -- as many results as there was room for have been taken in
      refine ⟨_, hunread.course, .inr ⟨hclock, .inr ⟨hrank, ?_⟩⟩, fun fuel => drive_crammed hstanding htime hready hroom⟩
      have hintake : 0 < intake := Nat.succ_pos 127
      omega
    · obtain ⟨moment, hmoment, hafter, hbefore⟩ := nextMoment?_eq_some (.output 0) (Nat.not_le.mp hlate)
      refine ⟨_, hunread.course.pass hready moment, .inl ?_, fun fuel => drive_idle hstanding htime hready hroom hmoment⟩
      show deadline - moment < deadline - m.clock
      omega
  · obtain ⟨hcourse, hless, hclock'⟩ := hunread.course.advanceMany choose 60 hready
    refine ⟨_, hcourse, .inr ⟨hclock'.trans hclock, ?_⟩, fun fuel => drive_ready hstanding htime hready⟩
    unfold Less at hless ⊢
    have hintake := hunread.room
    omega

/-- **Every run of a plan ends**, in time with the value that its spec has, or late. -/
theorem drive_ends (choose : Choice) (deadline : Nat) (m : Machine) : plan.Course m →
    ∃ enough, ∀ fuel, enough ≤ fuel → plan.Ends (drive choose (.output 0) (some deadline) fuel m).1 :=
  drive_comes_to (shorter_wf deadline) (drive_step choose deadline) m

end Plan
end StageGraph
