import StageGraph.Proofs.Dataflow.Tasks

/-! What a turn does to a run of a plan.

The task of a stage is about the value of that stage (`aim`), so what a turn comes to is that of any task of a pure
function (`turn_after`). -/
namespace StageGraph
namespace Plan

open Machine

variable {plan : Plan} {m : Machine}

/-- How a turn of a task ends: with its result, without end, or aside and with less to do. `toil` is
what it had to do before, with what others had left to be seen. -/
inductive After (plan : Plan) (k : Nat) (sf : Stage × Function) (rank toil : Nat) (m : Machine) : Machine → Prop
  | finished (o : Outcome) (value : o.toOption = plan.meaning? sf.1.name) :
    After plan k sf rank toil m ((m.fill k o).setPhase k .finished)
  | hanging : After plan k sf rank toil m (m.setPhase k .hanging)
  | parked (phase : Phase) (fits : plan.Fits sf phase) (moving : 0 < phase.rank)
    (less : phase.rank < rank ∨ phase.rank = rank ∧ m.freshCount + phase.toil < toil) :
    After plan k sf rank toil m (m.park k phase)

theorem After.stepped {k : Nat} {sf : Stage × Function} {rank toil : Nat} {m' : Machine}
    (h : After plan k sf rank toil m m') : Stepped k k rank toil m m' := by
  cases h with
  | finished o value => exact .finished o
  | hanging => exact .hanging
  | parked phase fits moving less => exact .parked phase moving less

theorem finish_eq (h : plan.Accord m) (k : Nat) (sf : Stage × Function) (phase : Phase) (o : Outcome) :
    m.finish k (task k sf phase) o = (m.fill k (o.mapError (Fault.blame · sf.1.node))).setPhase k .finished := by
  unfold finish
  rw [release_eq (h.starter k)]
  rfl

/-! ### Arguments -/

theorem references_values? {jobs : List Nat} {output : Output} (hm : m.instances = #[plan.atWork jobs output])
    (node : Value) (entries : List (String × String)) :
    Progress.values? (Awaited.value? plan.slotValue?)
        (entries.map fun i => .pending (.link (m.link (some 0) node none i.2))) =
      (referred? plan.reference? entries).map fun given => given.map Prod.snd := by
  induction entries with
  | nil => rfl
  | cons entry rest ih =>
    rw [List.map_cons, Progress.values?, ih, referred?_cons]
    show Option.bind (Link.value? plan.slotValue? _) _ = _
    rw [plan.link_value? hm node none entry.2]
    cases plan.reference? entry.2 with
    | none => rfl
    | some v => cases referred? plan.reference? rest <;> rfl

theorem argumentsOf_values? {jobs : List Nat} {output : Output} (hm : m.instances = #[plan.atWork jobs output])
    (k : Nat) (sf : Stage × Function) (phase : Phase) :
    Progress.values? (Awaited.value? plan.slotValue?) (argumentsOf m (task k sf phase) sf.1) =
      plan.arguments? sf.1 := by
  rw [argumentsOf_eq, values?_append]
  rw [show (task k sf phase).pipeline = some 0 from rfl, references_values? hm, Option.map_map]
  rfl

theorem argumentsOf_plain (t : Task) (s : Stage) :
    Progress.everyOfAll (fun _ => True) Awaited.Plain (argumentsOf m t s) := by
  refine Resolvable.everyOfAll_progress _ s.args fun a ha => ?_
  change a ∈ Progress.awaitedOfAll (argumentsOf m t s) at ha
  rw [argumentsOf_awaited] at ha
  obtain ⟨entry, -, rfl⟩ := List.mem_map.mp ha
  exact trivial

/-- A stage whose references have values has the value of its function on them. -/
theorem meaning?_given {k : Nat} {sf : Stage × Function} (hsf : plan.stages[k]? = some sf)
    (hpositional : sf.1.positional = false) {given : Fields} (hgiven : referred? plan.reference? sf.1.input = some given) :
    plan.meaning? sf.1.name = sf.2.result? sf.1.node (Fields.ofList (sf.1.written ++ given)) := by
  rw [plan.meaning?_stage hsf]
  unfold Stage.value?
  rw [hpositional, plan.functions sf (List.mem_of_getElem? hsf), Option.bind_some, hgiven]
  rfl

/-! ### Turns -/

/-- What the task of a stage is about. -/
def aim (plan : Plan) (sf : Stage × Function) : Aim where
  known := plan.slotValue?
  among := Awaited.Plain
  names := sf.1.args.map Prod.fst
  given := plan.arguments? sf.1
  value := plan.meaning? sf.1.name

theorem Accord.fair (h : plan.Accord m) (sf : Stage × Function) : (plan.aim sf).Fair m where
  plain ha := ha
  timer _ _ := trivial
  agrees _ s _ := h.slots s

theorem Accord.alone (h : plan.Accord m) (k : Nat) : Aim.Alone m k := h.starter k

/-- A stage whose arguments are not written as a list has the value of its call. -/
theorem calls_of_listed {k : Nat} {sf : Stage × Function} (hsf : plan.stages[k]? = some sf)
    (hpositional : sf.1.positional = false) (phase : Phase) : (plan.aim sf).Calls (task k sf phase) := by
  show ((plan.arguments? sf.1).bind fun values => sf.2.result? sf.1.node _) = plan.meaning? sf.1.name
  cases hgiven : referred? plan.reference? sf.1.input with
  | none =>
    rw [arguments?, hgiven, plan.meaning?_stage hsf, Stage.value?, hpositional,
      plan.functions sf (List.mem_of_getElem? hsf), Option.bind_some, hgiven]
    rfl
  | some given =>
    rw [meaning?_given hsf hpositional hgiven, ← zip_arguments hgiven, arguments?, hgiven]
    rfl

/-- A task on its way to the value of its stage pursues its aim. -/
theorem Fits.pursues {k : Nat} {sf : Stage × Function} {phase : Phase} {jobs : List Nat} {output : Output}
    (hm : m.instances = #[plan.atWork jobs output]) (hsf : plan.stages[k]? = some sf) (hfits : plan.Fits sf phase)
    (hmoving : 0 < phase.rank) : phase.Pursues (plan.aim sf) m (task k sf phase) := by
  cases phase with
  | unstarted args positional =>
    obtain ⟨rfl, rfl⟩ := hfits
    cases hpositional : sf.1.positional with
    | true =>
      show plan.meaning? sf.1.name = none
      rw [plan.meaning?_stage hsf, Stage.value?, if_pos hpositional]
    | false =>
      exact ⟨calls_of_listed hsf hpositional _, rfl, argumentsOf_values? hm k sf _, argumentsOf_plain _ _⟩
  | gathering names args =>
    obtain ⟨hpositional, hnames, hrest⟩ := hfits
    exact ⟨calls_of_listed hsf hpositional _, hnames, hrest⟩
  | resting due next => exact hfits
  | settling result => exact hfits
  | hanging => cases hmoving
  | finished => cases hmoving

/-- **A turn gets a task on.** The turn of a task that has cause to look ends it, or leaves it with less to do. -/
theorem turn_after (h : plan.Accord m) {k : Nat} {sf : Stage × Function} {phase : Phase}
    (hsf : plan.stages[k]? = some sf) (ht : m.tasks[k]? = some (task k sf phase)) (hfits : plan.Fits sf phase)
    (hmoving : 0 < phase.rank) (hstirred : m.stirred k = true) :
    ∃ base, m.Alike base ∧
      After plan k sf phase.rank (m.freshCount + phase.toil) base (m.turn k) := by
  obtain ⟨output, hm, -⟩ := h.pipeline
  by_cases hlist : ∃ args, phase = .unstarted args true
  · obtain ⟨args, rfl⟩ := hlist
    have hnone : none = plan.meaning? sf.1.name := by
      rw [plan.meaning?_stage hsf, Stage.value?, if_pos hfits.2.symm]
    have hget : m.refreshed.tasks[k]? = some (task k sf (.unstarted args true)) := ht
    refine ⟨_, refreshed_alike m, ?_⟩
    unfold turn
    simp only [hget, task, if_true]
    rw [← task, finish_eq (h.alike (refreshed_alike m))]
    exact .finished _ hnone
  have hlisted (hrank : 2 < phase.rank) : sf.1.positional = false := by
    cases phase with
    | unstarted args positional => exact hfits.2 ▸ Bool.eq_false_iff.mpr fun htrue => hlist ⟨args, by rw [htrue]⟩
    | gathering names args => exact hfits.1
    | resting due next => exact absurd hrank (Nat.lt_irrefl 2)
    | settling result => exact absurd hrank (show ¬2 < 1 by decide)
    | hanging => exact absurd hrank (Nat.not_lt_zero 2)
    | finished => exact absurd hrank (Nat.not_lt_zero 2)
  obtain ⟨base, hbase, hwent⟩ := Aim.turn_went (h.alone k) (h.fair sf) (plan.pure sf (List.mem_of_getElem? hsf)) ht
    (hfits.pursues hm hsf hmoving) hmoving hstirred
  refine ⟨base, hbase, ?_⟩
  generalize m.turn k = m' at hwent
  cases hwent with
  | finished o value => exact .finished o value
  | hanging never => exact .hanging
  | parked next comes waits moving less =>
    refine .parked next ?_ moving less
    cases next with
    | gathering names args =>
      have hrank : 2 < phase.rank := less.elim Nat.lt_of_succ_lt fun heq => Nat.lt_of_lt_of_eq (Nat.lt_succ_self 2) heq.1
      exact ⟨hlisted hrank, comes.2⟩
    | unstarted args positional => exact comes.elim
    | resting due next => exact comes
    | settling result => exact ⟨comes.1, comes.2⟩
    | hanging => trivial
    | finished => trivial

end Plan
end StageGraph
