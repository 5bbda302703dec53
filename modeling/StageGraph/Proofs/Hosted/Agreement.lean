import Mathlib.Data.Prod.Lex
import Mathlib.Algebra.Order.BigOperators.Group.List
import StageGraph.Proofs.Dataflow.Run
import StageGraph.Proofs.Hosted.Lodging
import StageGraph.Proofs.Lifetime.Steps

/-! A child gives what a run of its own gives.

A child whose references stay within it is a lodging (`lodges_of_spawn`), and each round of waiting for its output brings
it on until the output is there, or nobody can move any more (`drive_round`). What it comes to is what its spec evaluates
to with the object that it was given, so it agrees with a run of the same document with the fields of that object as
inputs (`child_agrees`). -/
namespace StageGraph

namespace Machine

variable {m m' m'' : Machine} {k : Nat}

/-! ### What is before a machine -/

/-- How many later moments the tasks wait for. -/
def later (m : Machine) : Nat := total (fun phase => (phase.moments.filter (m.clock < ·)).length) m

/-- What is left to be done: the phases before the tasks, what is to be seen within them, turns and moments. -/
def agenda (m : Machine) : ℕ ×ₗ ℕ ×ₗ ℕ ×ₗ ℕ :=
  toLex (total Phase.rank m, toLex (m.freshCount + total Phase.toil m, toLex (m.line.length, m.later)))

theorem agenda_lt_iff : m'.agenda < m.agenda ↔ total Phase.rank m' < total Phase.rank m ∨
    total Phase.rank m' = total Phase.rank m ∧ (m'.freshCount + total Phase.toil m' < m.freshCount + total Phase.toil m ∨
      m'.freshCount + total Phase.toil m' = m.freshCount + total Phase.toil m ∧
        (m'.line.length < m.line.length ∨ m'.line.length = m.line.length ∧ m'.later < m.later)) := by
  unfold agenda
  rw [Prod.Lex.toLex_lt_toLex, Prod.Lex.toLex_lt_toLex, Prod.Lex.toLex_lt_toLex]

theorem Less.agenda_lt (h : Less m' m) : m'.agenda < m.agenda :=
  agenda_lt_iff.mpr (h.imp_right fun ⟨hrank, htoil⟩ => ⟨hrank, .inl htoil⟩)

theorem agenda_wake (m : Machine) : m.wake.agenda = m.agenda := by
  have hline : m.wake.line.length = m.line.length := ((wake_queue m).append_right m.jobs).length_eq
  unfold agenda
  rw [hline, wake_eq]
  rfl

/-- Time that passes leaves fewer moments to come. -/
theorem agenda_pass {goal : Awaited} {moment : Nat} (hgoal : goal.moments = [])
    (hmoment : m.nextMoment? goal none = some moment) : agenda { m with clock := moment } < m.agenda := by
  obtain ⟨hmem, -⟩ := List.min?_eq_some_iff.mp hmoment
  obtain ⟨hmem, hlater⟩ := List.mem_filter.mp hmem
  rw [hgoal, List.append_nil, Option.toList_none, List.append_nil] at hmem
  obtain ⟨k, -, hk⟩ := List.mem_flatMap.mp hmem
  cases ht : m.tasks[k]? with
  | none =>
    rw [ht] at hk
    cases hk
  | some t =>
    rw [ht] at hk
    have hlater : m.clock < moment := of_decide_eq_true hlater
    refine agenda_lt_iff.mpr (.inr ⟨rfl, .inr ⟨rfl, .inr ⟨rfl, ?_⟩⟩⟩)
    have hfewer (l : List Nat) : (l.filter (moment < ·)).length ≤ (l.filter (m.clock < ·)).length :=
      (List.monotone_filter_right l fun due hdue =>
        decide_eq_true (Nat.lt_trans hlater (of_decide_eq_true hdue))).length_le
    change moment ∈ t.phase.moments at hk
    have hless : (t.phase.moments.filter (moment < ·)).length < (t.phase.moments.filter (m.clock < ·)).length := by
      rw [← List.countP_eq_length_filter, ← List.countP_eq_length_filter]
      refine countP_lt hk (decide_eq_false (Nat.lt_irrefl _)) (decide_eq_true hlater) fun due hdue => ?_
      exact decide_eq_true (Nat.lt_trans hlater (of_decide_eq_true hdue))
    exact List.sum_lt_sum _ _ (fun u _ => hfewer u.phase.moments)
      ⟨t, Array.mem_toList_iff.mpr (Array.mem_of_getElem? ht), hless⟩

/-- When there is no next moment, nobody waits for one. -/
theorem stuck_of_nextMoment? {goal : Awaited} {deadline : Option Nat} (hready : m.ready = [])
    (hstill : ∀ k ∈ m.blocked, m.stirred k = false) (hmoment : m.nextMoment? goal deadline = none) :
    Lodging.Stuck m where
  ready := hready
  still := hstill _
  never {k due t} hk ht hdue := by
    refine Nat.not_lt.mp fun hlater => ?_
    have hnone := List.min?_eq_none_iff.mp hmoment
    have hmem : due ∈ m.blocked.flatMap fun k => (m.tasks[k]?.map fun t => t.phase.moments).getD [] := by
      refine List.mem_flatMap.mpr ⟨k, hk, ?_⟩
      rw [ht]
      exact hdue
    refine absurd (List.mem_append_left deadline.toList (List.mem_append_left goal.moments hmem)) fun hin => ?_
    have hkept := List.filter_eq_nil_iff.mp hnone due hin
    exact hkept (decide_eq_true hlater)

end Machine

namespace Lodging

open Machine

variable {lodging : Lodging} {m m' : Machine} {choose : Choice}

/-! ### Turns -/

theorem Lodges.advance (hlocal : lodging.plan.spec.Local) (h : lodging.Lodges m) (choose : Choice)
    (hready : m.ready ≠ []) : lodging.Lodges (m.advance choose) ∧ (m.advance choose).agenda < m.agenda := by
  obtain ⟨k, t, rest, hperm, ht, -, heq⟩ := h.sober.next choose hready
  rw [heq]
  refine ⟨(h.turn hlocal hperm ht).wake, ?_⟩
  rw [agenda_wake]
  rcases Nat.eq_zero_or_pos t.phase.rank with hidle | hmoving
  · rw [turn_idle (m := { m with ready := rest }) ht hidle]
    refine agenda_lt_iff.mpr (.inr ⟨rfl, .inr ⟨rfl, .inl ?_⟩⟩)
    show (rest ++ m.blocked ++ m.jobs).length < (m.ready ++ m.blocked ++ m.jobs).length
    rw [← ((hperm.append_right m.blocked).append_right m.jobs).length_eq]
    exact Nat.lt_succ_self _
  · obtain ⟨aim, base, hbase, hwent, -⟩ := h.went hlocal hperm ht hmoving
    have hless : Less ({ m with ready := rest }.turn k) { m with ready := rest } :=
      hwent.stepped.less (m := { m with ready := rest }) hbase ht hmoving
    exact Less.agenda_lt (m := m) hless

/-! ### Looks -/

variable (lodging) in
/-- Where a look at an output that is not there leads: less is to be seen if anything was taken in, and if there was
room for all, a reference of the output is not decided. -/
structure Unread (m m' : Machine) : Prop where
  lodges : lodging.Lodges m'
  standing : m'.standing (.output lodging.number) = none
  total (measure : Phase → Nat) : total measure m' = total measure m
  line : m'.line.length = m.line.length
  clock : m'.clock = m.clock
  account : m'.freshCount + intake = m.freshCount + m'.room
  room : m'.room ≤ intake
  awaits : m'.room ≠ 0 → ∃ text ∈ lodging.plan.spec.output.paths, ∃ l, lodging.Leads text l ∧ m'.linked l = none

theorem Unread.agenda_le (h : lodging.Unread m m') : m'.agenda ≤ m.agenda := by
  have hlater : m'.later = m.later := by
    unfold later
    rw [h.total, h.clock]
  have haccount := h.account
  have hroom := h.room
  rcases Nat.lt_or_ge m'.freshCount m.freshCount with hlt | hge
  · refine le_of_lt (agenda_lt_iff.mpr (.inr ⟨h.total _, .inl ?_⟩))
    rw [h.total]
    omega
  · have hfresh : m'.freshCount = m.freshCount := by omega
    refine le_of_eq ?_
    unfold agenda
    rw [h.total, h.total, h.line, hfresh, hlater]

/-- A look that took in as much as there was room for leaves less to be seen. -/
theorem Unread.agenda_lt (h : lodging.Unread m m') (hroom : m'.room = 0) : m'.agenda < m.agenda := by
  refine agenda_lt_iff.mpr (.inr ⟨h.total _, .inl ?_⟩)
  have haccount := h.account
  have hintake : 0 < intake := Nat.succ_pos 127
  rw [h.total]
  omega

theorem outputLinks_value? (hlocal : lodging.plan.spec.Local) {output : Output}
    (hm : m.instances[lodging.number]? = some (lodging.atWork output)) :
    lodging.Knows (.linked (m.outputLinks lodging.number (lodging.atWork output))) := by
  have hleads (text : String) (htext : text ∈ lodging.plan.spec.output.paths) := link_leads hlocal hm
    lodging.plan.spec.outputNode (some lodging.plan.spec.outputNode) (List.mem_append_right _ htext)
  have hpaths : lodging.plan.spec.output.tree.awaited = lodging.plan.spec.output.paths := by
    cases lodging.plan.spec.output with
    | single path => rfl
    | list paths => exact Resolvable.awaitedItems_pending paths
    | named entries => exact Resolvable.awaitedEntries_pending entries
  unfold outputLinks
  constructor
  · rw [Resolvable.progress_value?, Resolvable.map_value?, Plan.result?, Spec.evaluate?]
    rw [← OutputShape.tree_value?]
    refine Resolvable.value?_congr _ fun text htext => ?_
    exact (hleads text (hpaths ▸ htext)).value?
  · refine Resolvable.progress_every _ fun l hl => ?_
    rw [Resolvable.map_awaited] at hl
    obtain ⟨text, htext, rfl⟩ := List.mem_map.mp hl
    rw [show (lodging.atWork output).spec = lodging.plan.spec from rfl, hpaths] at htext
    exact ⟨text, htext, hleads text htext⟩

theorem Lodges.setOutput (h : lodging.Lodges m) {r : Progress Link} (hr : lodging.Knows (.linked r)) :
    lodging.Lodges (m.setOutput lodging.number (.linked r)) := by
  refine ⟨h.sober.setOutput _ _, ⟨.linked r, ?_, hr⟩, h.slots, h.tasks⟩
  obtain ⟨output, hm, -⟩ := h.home
  rw [setOutput_getElem?, if_pos rfl, hm]
  rfl

/-- An output that is not decided awaits a reference that is not. -/
theorem Knows.awaits {r : Progress Link} (hr : lodging.Knows (.linked r))
    (hopen : (r.look (m := Id) m.linked).outcome? = none) :
    ∃ text ∈ lodging.plan.spec.output.paths, ∃ l, lodging.Leads text l ∧ m.linked l = none := by
  by_contra hnone
  have hdecided (l : Link) (hl : l ∈ r.awaited) : (m.linked l).isSome := by
    obtain ⟨text, htext, hleads⟩ := Progress.every_awaited r hr.2 l hl
    exact Option.isSome_iff_ne_none.mpr fun hundecided => hnone ⟨text, htext, l, hleads, hundecided⟩
  have hsome : (r.look (m := Id) m.linked).outcome?.isSome := Progress.look_isSome r hdecided
  rw [hopen] at hsome
  cases hsome

/-- A look at what is known of the output. -/
theorem Lodges.lookOutput (h : lodging.Lodges m) (hroom : m.room = intake) {r : Progress Link}
    (hr : lodging.Knows (.linked r)) :
    (∃ o, (m.lookOutput lodging.number r).standing (.output lodging.number) = some o ∧
      o.toOption = lodging.plan.result?) ∨ lodging.Unread m (m.lookOutput lodging.number r) := by
  have hsees := look_sees linked_sees r
  have htaken := hsees.taken m
  have hagrees (l : Link) (hl : l ∈ r.awaited) :
      (Telling.keeping (Taken m)).holds (l.look receive) (Agrees (Link.value? lodging.known) l) := by
    obtain ⟨text, -, hleads⟩ := Progress.every_awaited r hr.2 l hl
    refine Link.look_agrees _ l fun s hs => receive_agrees ?_
    obtain ⟨n, sf, hsf, rfl⟩ := hleads.slots hs
    exact h.slots hsf
  have hvalue := (Progress.look_value? (Telling.keeping (Taken m)) r hagrees m (Taken.refl m)).1
  have hevery := (Progress.look_every (Telling.keeping (Taken m))
    (fun l _ m' hm' => ⟨fun _ _ => trivial, hm'.trans ((linked_sees l).taken m')⟩) r hr.2 m (Taken.refl m)).1
  have haccount := hsees.account m
  have hused := hsees.used m
  have hample := hsees.ample m
  obtain ⟨output, hm, -⟩ := h.home
  rw [hr.1] at hvalue
  unfold Machine.lookOutput
  generalize r.look (Link.look receive) m = looked at htaken hvalue hevery haccount hused hample ⊢
  obtain ⟨r', m'⟩ := looked
  have hget : m'.instances[lodging.number]? = some (lodging.atWork output) := htaken.alike.instances ▸ hm
  have hunread (hopen : r'.outcome? = none) : lodging.Unread m (m'.setOutput lodging.number (.linked r')) := by
    refine ⟨(h.alike htaken.alike).setOutput ⟨hvalue, hevery⟩, ?_, fun measure => ?_, ?_,
      htaken.alike.clock, hroom ▸ haccount, hroom ▸ hused, fun hleft => ?_⟩
    · rw [standing_output, setOutput_getElem?, if_pos rfl, hget]
      rfl
    · exact show total measure m' = total measure m from total_alike measure htaken.alike
    · unfold line
      rw [show (m'.setOutput lodging.number (.linked r')).jobs = m'.jobs from jobs_modify fun _ => rfl]
      unfold jobs
      rw [← htaken.alike.instances, ← htaken.alike.ready, ← htaken.alike.blocked]
      rfl
    · -- all there is has been seen, and it is not enough
      have hseen : r' = r.look (m := Id) m.linked := hample hleft
      obtain ⟨text, htext, l, hleads, hnone⟩ := hr.awaits (m := m) (hseen ▸ hopen)
      refine ⟨text, htext, l, hleads, ?_⟩
      show m'.linked l = none
      rw [← hnone, linked, linked, htaken.alike.slot_eq]
  cases r' with
  | done o =>
    refine .inl ⟨o, ?_, hvalue⟩
    show Machine.standing (Machine.retire _ _) _ = _
    rw [retire_standing, standing_output, setOutput_getElem?, if_pos rfl, hget]
    rfl
  | pending l => exact .inr (hunread rfl)
  | parts whole items => exact .inr (hunread rfl)

/-- A look at the output: it is there, and as it should be, or the child goes on. -/
theorem Lodges.looked (hlocal : lodging.plan.spec.Local) (h : lodging.Lodges m) :
    (∃ o, (m.looked (.output lodging.number)).standing (.output lodging.number) = some o ∧
      o.toOption = lodging.plan.result?) ∨ lodging.Unread m (m.looked (.output lodging.number)) := by
  have hthere : lodging.Lodges m.refreshed := h.alike (refreshed_alike m)
  obtain ⟨output, hm, hknows⟩ := hthere.home
  have hlook {r : Progress Link} (hr : lodging.Knows (.linked r)) :
      (∃ o, (m.refreshed.lookOutput lodging.number r).wake.standing (.output lodging.number) = some o ∧
        o.toOption = lodging.plan.result?) ∨ lodging.Unread m (m.refreshed.lookOutput lodging.number r).wake := by
    rcases hthere.lookOutput rfl hr with ⟨o, ho, hvalue⟩ | hunread
    · refine .inl ⟨o, ?_, hvalue⟩
      rw [wake_eq]
      exact ho
    · have hlodges := hunread.lodges.wake
      have hline := ((wake_queue (m.refreshed.lookOutput lodging.number r)).append_right
        (m.refreshed.lookOutput lodging.number r).jobs).length_eq
      refine .inr ⟨hlodges, ?_, fun measure => ?_, hline.trans hunread.line, ?_, ?_, ?_, ?_⟩ <;> rw [wake_eq]
      · exact hunread.standing
      · exact hunread.total measure
      · exact hunread.clock
      · exact hunread.account
      · exact hunread.room
      · exact hunread.awaits
  unfold Machine.looked
  show (∃ o, (m.refreshed.readOutput lodging.number).wake.standing _ = some o ∧ _) ∨
    lodging.Unread m (m.refreshed.readOutput lodging.number).wake
  unfold readOutput
  simp only [hm]
  cases output with
  | unread => exact hlook (outputLinks_value? hlocal hm)
  | linked r => exact hlook hknows
  | known o => exact hknows.elim

/-! ### Waiting for the output -/

variable (lodging) in
/-- How waiting for the output ends. -/
def Ends (verdict : Option Verdict) : Prop :=
  (∃ o, verdict = some (.outcome o) ∧ o.toOption = lodging.plan.result?) ∨
    verdict = some .stuck ∧ lodging.plan.result? = none

/-- When nobody can move and the output is not there, it has no value. -/
theorem Lodges.result_none (h : lodging.Lodges m) (hstuck : Stuck m)
    (hawaits : ∃ text ∈ lodging.plan.spec.output.paths, ∃ l, lodging.Leads text l ∧ m.linked l = none) :
    lodging.plan.result? = none := by
  by_contra hsome
  obtain ⟨text, htext, l, hleads, hnone⟩ := hawaits
  have hreference := OutputShape.value?_isSome_iff.mp (Option.isSome_iff_ne_none.mpr hsome) _ htext
  have hdecided := hleads.decided (m := m) hreference fun n sf hsf hvalue => h.filled hstuck _ hsf hvalue
  rw [hnone] at hdecided
  cases hdecided

/-- One round of waiting: it ends, or it goes on with less before it. -/
theorem drive_round (hlocal : lodging.plan.spec.Local) (choose : Choice) (h : lodging.Lodges m) :
    (∃ verdict, lodging.Ends verdict ∧ ∀ fuel, (drive choose (.output lodging.number) none (fuel + 1) m).1 = verdict) ∨
      ∃ m', lodging.Lodges m' ∧ m'.agenda < m.agenda ∧ ∀ fuel, drive choose (.output lodging.number) none (fuel + 1) m =
        drive choose (.output lodging.number) none fuel m' := by
  rcases h.looked hlocal with ⟨o, ho, hvalue⟩ | hunread
  · exact .inl ⟨_, .inl ⟨o, rfl, hvalue⟩, fun fuel => by rw [drive_outcome ho]⟩
  have hstanding := hunread.standing
  have hle := hunread.agenda_le
  by_cases hready : (m.looked (.output lodging.number)).ready = []
  · by_cases hroom : (m.looked (.output lodging.number)).room = 0
    · exact .inr ⟨_, hunread.lodges, hunread.agenda_lt hroom, fun fuel => drive_crammed hstanding rfl hready hroom⟩
    · cases hmoment : (m.looked (.output lodging.number)).nextMoment? (.output lodging.number) none with
      | none =>
        have hstuck := stuck_of_nextMoment? hready (looked_idle hready).2 hmoment
        exact .inl ⟨_, .inr ⟨rfl, hunread.lodges.result_none hstuck (hunread.awaits hroom)⟩, fun fuel => by
          rw [drive_stuck hstanding rfl hready hroom hmoment]⟩
      | some moment =>
        exact .inr ⟨_, hunread.lodges.pass hready moment, lt_of_lt_of_le (agenda_pass rfl hmoment) hle, fun fuel =>
          drive_idle hstanding rfl hready hroom hmoment⟩
  · obtain ⟨hlodges, hless⟩ := advanceMany_steps (R := fun m' m => m'.agenda < m.agenda) lt_trans
      (fun h => h.advance hlocal choose) 60 hunread.lodges hready
    exact .inr ⟨_, hlodges, lt_of_lt_of_le hless hle, fun fuel => drive_ready hstanding rfl hready⟩

/-- **Waiting for the output of a child ends**, with the value that its spec has, or without any if it has none. -/
theorem drive_ends (hlocal : lodging.plan.spec.Local) (choose : Choice) (m : Machine) : lodging.Lodges m →
    ∃ enough, ∀ fuel, enough ≤ fuel → lodging.Ends (drive choose (.output lodging.number) none fuel m).1 :=
  drive_comes_to (InvImage.wf agenda wellFounded_lt) (drive_round hlocal choose) m

end Lodging

namespace Machine

variable {m m' : Machine}

/-! ### Children -/

/-- The fields of an object are its inputs, in the order in which they are declared. -/
theorem matchInputs_fields {spec : Spec} (hinput : spec.input.Nodup) {fields : Fields}
    (hkeys : fields.map Prod.fst = spec.input) : matchInputs spec fields = .ok (fields.map Prod.snd) := by
  rw [← hkeys] at hinput
  have hsame : Fields.ofList fields = fields := Fields.ofList_eq hinput
  have hcount : fields.length = spec.input.length := by rw [← hkeys, List.length_map]
  unfold matchInputs
  simp only [hsame, if_pos hcount]
  rw [← hkeys]
  refine mapM_of_forall₂ (List.forall₂_map_left_iff.mpr (List.forall₂_map_right_iff.mpr ?_))
  refine List.forall₂_same.mpr fun field hfield => ?_
  have hget : Fields.get? fields field.1 = some field.2 := by
    obtain ⟨front, back, rfl⟩ := List.append_of_mem hfield
    refine List.lookup_eq_some_iff.mpr ⟨front, back, rfl, fun other hother => ?_⟩
    rw [List.map_append, List.map_cons] at hinput
    have hne := (List.nodup_append.mp hinput).2.2 _ (List.mem_map_of_mem hother) _ List.mem_cons_self
    exact bne_iff_ne.mpr (Ne.symm hne)
  rw [hget]

/-- The object of the inputs is what its fields say. -/
theorem inputValue_fields {spec : Spec} (hinput : spec.input.Nodup) {fields : Fields}
    (hkeys : fields.map Prod.fst = spec.input) : spec.inputValue (fields.map Prod.snd) = .object fields := by
  have hzip : (fields.map Prod.fst).zip (fields.map Prod.snd) = fields := (List.zip_of_prod rfl rfl).symm
  unfold Spec.inputValue
  rw [← hkeys, hzip, Fields.ofList_eq (hkeys ▸ hinput)]

/-- The next place in a machine, for a plan within some scope. -/
def nextPlace (m : Machine) (plan : Plan) (outer : List Nat) : Lodging where
  plan := plan
  number := m.instances.size
  firstTask := m.tasks.size
  firstSlot := m.slots.size
  outer := outer

/-- A plan lodges where it is started with the object of its inputs. -/
theorem lodges_of_start (plan : Plan) {i : Instance} (hsettings : i.settings = plan.settings)
    (hsober : ((m.assembled plan.spec (.under i none (plan.spec.inputValue plan.values)) plan.stages).start
      m.instances.size).Sober) : (m.nextPlace plan i.scope).Lodges
        ((m.assembled plan.spec (.under i none (plan.spec.inputValue plan.values)) plan.stages).start
          m.instances.size) := by
  have hinstance : m.instanceOf plan.spec (.under i none (plan.spec.inputValue plan.values)) plan.stages =
      { (m.nextPlace plan i.scope).atWork .unread with jobs := List.range' m.tasks.size plan.stages.length } := by
    rw [← instanceOf_jobs m plan.spec (.under i none (plan.spec.inputValue plan.values)) plan.stages]
    unfold Lodging.atWork
    simp only [nextPlace, ← hsettings]
    rfl
  have hhome : (m.assembled plan.spec (.under i none (plan.spec.inputValue plan.values))
      plan.stages).instances[m.instances.size]? = some
        { (m.nextPlace plan i.scope).atWork .unread with jobs := List.range' m.tasks.size plan.stages.length } := by
    rw [assembled_instances, if_pos rfl, hinstance]
  refine ⟨hsober, ⟨.unread, ?_, trivial⟩, fun {n sf} hsf => ?_, fun {n sf} hsf => ?_⟩
  · unfold Machine.start
    rw [hhome]
    show (Array.modify _ _ _)[m.instances.size]? = _
    rw [Array.getElem?_modify, if_pos rfl, hhome]
    rfl
  · intro o ho
    rw [start_slot, assembled_slot] at ho
    have hnone : m.slots[m.slots.size + n]? = none := Array.getElem?_eq_none (Nat.le_add_right _ _)
    change m.slot (m.slots.size + n) = some o at ho
    rw [slot_eq, hnone] at ho
    cases ho
  · refine ⟨.unstarted sf.1.args sf.1.positional, ?_, ⟨rfl, rfl⟩, fun _ => ?_, nofun⟩
    · rw [start_tasks]
      exact assembled_staff hsf
    · unfold Machine.start
      rw [hhome]
      refine List.mem_append_left _ (List.mem_append_right _ (List.mem_range'.mpr ⟨n, ?_, ?_⟩))
      · exact (List.getElem?_eq_some_iff.mp hsf).1
      · rw [Nat.one_mul]
        rfl

/-- A child that is started by hand lodges in its machine. -/
theorem lodges_of_spawn (h : m.Sober) {p child : Nat} {spec : Spec} {fields : Fields} (hinput : spec.input.Nodup)
    (hnames : (spec.stages.map Stage.name).Nodup) (hkeys : fields.map Prod.fst = spec.input)
    (hspawn : m.spawn (some p) none spec (.object fields) = .ok (child, m')) :
    ∃ lodging : Lodging, lodging.Lodges m' ∧ lodging.number = child ∧ lodging.plan.registry = m.registry ∧
      lodging.plan.spec = spec ∧ lodging.plan.values = fields.map Prod.snd := by
  have hsober := h.spawn hspawn
  obtain ⟨i, stages, -, -, hstages, rfl, rfl⟩ := spawn_cases hspawn
  obtain ⟨hstaged, hfunctions⟩ := functionsOf_eq hstages
  rw [← inputValue_fields hinput hkeys] at hsober ⊢
  have hlodges := lodges_of_start
    { registry := m.registry, spec, settings := i.settings, stages, values := fields.map Prod.snd
      staged := hstaged, functions := hfunctions, names := hnames, inputs := hinput
      pure := fun sf hsf => h.registry _ _ (hfunctions sf hsf)
      bound := by rw [List.length_map, ← hkeys, List.length_map] } rfl hsober
  exact ⟨_, hlodges, rfl, rfl, rfl, rfl⟩

theorem await_ok_iff {lodging : Lodging} {choose : Choice} {fuel : Nat}
    (hends : lodging.Ends (drive choose (.output lodging.number) none fuel m).1) (v : Value) :
    (m.await choose fuel (.output lodging.number)).1 = some (.ok v) ↔ lodging.plan.result? = some v := by
  unfold await
  generalize drive choose (.output lodging.number) none fuel m = ended at hends
  obtain ⟨verdict, m'⟩ := ended
  rcases hends with ⟨o, rfl, hvalue⟩ | ⟨rfl, hnone⟩
  · rw [← hvalue]
    cases o with
    | ok w => simp [Except.toOption]
    | error f => simp [Except.toOption]
  · rw [hnone]
    constructor
    · intro h
      cases h
    · intro h
      cases h

/-- **A child agrees with a run of its own.** In a pipeline of pure functions, whatever it has done so far, a child is
started with an object whose keys are the declared inputs of its spec. If the references of the spec stay within it, the
output of the child succeeds if and only if a run of the document succeeds with the fields of the object as inputs, and
with the same value, unless the time of the run is over. -/
theorem child_agrees {registry : Registry} {document : Value} {spec : Spec} {fields : Fields} (hpure : registry.Pure)
    (hparse : Spec.parse document = .ok spec) (hlocal : spec.Local) (hkeys : fields.map Prod.fst = spec.input)
    {hostDocument : Value} {hostSettings : Settings} {root : Nat} {host : Machine}
    (hhost : build { registry } hostDocument hostSettings = .ok (root, host)) (hstrides : Strides root host m)
    {p child : Nat} (hspawn : m.spawn (some p) none spec (.object fields) = .ok (child, m'))
    {settings : Settings} {own : Nat} {alone : Machine} (hbuild : build { registry } document settings = .ok (own, alone))
    (choose choose' : Choice) : ∃ enough, ∀ fuel, enough ≤ fuel → ∃ o, (alone.run choose fuel own fields).1 = some o ∧
      (o = .error ⟨.timeout settings.timeout, none⟩ ∨
        ∀ v, o = .ok v ↔ (m'.await choose' fuel (.output child)).1 = some (.ok v)) := by
  obtain ⟨hinput, hnames⟩ := Spec.parse_nodup hparse
  have hsober := hstrides.sober (sober_of_build hpure hhost)
  have hsame : m.registry = registry :=
    (Reaches.extends' hstrides.reaches (orderly_of_build hhost)).registry.trans (registry_of_build hhost)
  obtain ⟨lodging, hlodges, rfl, hregistry, hspec, hvalues⟩ := lodges_of_spawn hsober hinput hnames hkeys hspawn
  obtain ⟨enough, henough⟩ := Lodging.drive_ends (hspec ▸ hlocal) choose' m' hlodges
  obtain ⟨enough', henough'⟩ := run_comesTo hpure hparse hbuild (matchInputs_fields hinput hkeys) choose
  refine ⟨max enough enough', fun fuel hfuel => ?_⟩
  obtain ⟨o, ho, hvalue⟩ := henough' fuel (Nat.le_trans (Nat.le_max_right _ _) hfuel)
  refine ⟨o, ho, hvalue.imp_right fun hiff v => ?_⟩
  rw [hiff v, await_ok_iff (henough fuel (Nat.le_trans (Nat.le_max_left _ _) hfuel)) v, Plan.result?, hspec, hvalues]
  rw [hregistry, hsame]

/-- The relays in a child that is started by hand before its pipeline runs, and in a run. -/
theorem relays_agree : ∃ spec m m', Spec.parse relays = .ok spec ∧ spec.Local ∧
    build { registry := relayRegistry } relays Settings.default = .ok (0, m) ∧
    m.spawn (some 0) none spec (.object [("x", .integer 7)]) = .ok (1, m') ∧
    ∃ enough, ∀ fuel, enough ≤ fuel → ∃ o, (m.run inOrder fuel 0 [("x", .integer 7)]).1 = some o ∧
      (o = .error ⟨.timeout Settings.default.timeout, none⟩ ∨
        ∀ v, o = .ok v ↔ (m'.await inOrder fuel (.output 1)).1 = some (.ok v)) := by
  obtain ⟨spec, hparse⟩ : ∃ spec, Spec.parse relays = .ok spec := ⟨_, rfl⟩
  obtain ⟨m, hbuild⟩ : ∃ m, build { registry := relayRegistry } relays Settings.default = .ok (0, m) := ⟨_, rfl⟩
  obtain ⟨m', hspawn⟩ : ∃ m', m.spawn (some 0) none spec (.object [("x", .integer 7)]) = .ok (1, m') := by
    cases hparse
    cases hbuild
    exact ⟨_, rfl⟩
  have hlocal : spec.Local := by
    cases hparse
    decide +kernel
  have hkeys : [("x", Value.integer 7)].map Prod.fst = spec.input := by
    cases hparse
    rfl
  exact ⟨spec, m, m', hparse, hlocal, hbuild, hspawn,
    child_agrees relay_pure hparse hlocal hkeys hbuild .refl hspawn hbuild inOrder inOrder⟩

end Machine
end StageGraph
