import StageGraph.Proofs.Dataflow.Result
import StageGraph.Proofs.Timing.Turning

/-! The run of a plan on time.

Turns keep a run on time (`Punctual.advance`). When nobody can move, every stage that is over in time and is not over
yet waits for a moment before that (`moment_le`): it is at work until such a moment, or it waits for another such
stage, and in the end for one that is at work. So the clock never passes the end of a stage that is not over, and time
may pass as well (`Punctual.pass`). -/
namespace StageGraph
namespace Plan

open Machine Progress

variable {plan : Plan} {d time : String → ℕ∞} {m m' base : Machine} {k : Nat} {sf : Stage × Function}

/-! ### Turns -/

theorem Turned.moved (h : plan.Turned time k sf base m') :
    Moved (fun _ => time sf.1.name ≤ base.clock) (plan.OnTime time base.clock sf) k base m' := by
  cases h with
  | finished o past => exact .finished o past
  | hanging never => exact .hanging never
  | parked phase moving onTime => exact .parked phase moving onTime

theorem Turned.prompt (h : plan.Turned time k sf base m') (hbase : plan.Prompt time base)
    (hsf : plan.stages[k]? = some sf) (hclock : m'.clock = base.clock) : plan.Prompt time m' := by
  refine ⟨?_, fun {s} hs => ?_, fun {j} hj => ?_⟩
  · rw [h.moved.size]
    exact hbase.sized
  · obtain ⟨o', ho'⟩ := Option.isSome_iff_exists.mp hs
    rw [hclock]
    rcases h.moved.slot ho' with hold | ⟨rfl, past⟩
    · exact hbase.filled (by rw [hold]; rfl)
    · rw [slotTime_stage time hsf]
      exact past
  · obtain ⟨o', ho'⟩ := Option.isSome_iff_exists.mp (hbase.inputs hj)
    rw [h.moved.slot_of_some ho']
    rfl

theorem Punctual.manned (h : plan.Punctual time m) : plan.Manned (plan.OnTime time m.clock) m := ⟨h.tasks, h.queued⟩

theorem Punctual.wake (h : plan.Punctual time m) : plan.Punctual time m.wake := by
  obtain ⟨htasks, hqueued⟩ := h.manned.wake
  rw [wake_eq] at htasks hqueued ⊢
  exact ⟨⟨h.prompt.sized, h.prompt.filled, h.prompt.inputs⟩, htasks, hqueued, h.output, h.soon⟩

theorem Punctual.turn (h : plan.Punctual time m) (hpaced : plan.Paced d time) {phase : Phase} {rest : List Nat}
    (hnext : plan.Next m k sf phase rest) : plan.Punctual time ({ m with ready := rest }.turn k) := by
  have hprompt : plan.Prompt time { m with ready := rest } := ⟨h.prompt.sized, h.prompt.filled, h.prompt.inputs⟩
  obtain ⟨before, ht, hontime, -⟩ := h.tasks hnext.stage
  obtain rfl : phase = before := congrArg Task.phase (Option.some.inj (hnext.task.symm.trans ht))
  obtain ⟨base, hbase, hturned⟩ := turn_turned hprompt hpaced hnext.accord hnext.stage hnext.task hnext.fits hontime
    hnext.moving hnext.stirred
  have hthere := hprompt.alike hbase
  have hget : base.tasks[k]? = some (task k sf phase) := by
    rw [hbase.tasks]
    exact ht
  have hleft := hturned.moved.left trivial ((List.getElem?_eq_some_iff.mp hnext.stage).1.trans_le hthere.sized) hget
  rw [hbase.clock] at hleft
  obtain ⟨hclock, hinstances⟩ := hnext.still
  obtain ⟨htasks, hqueued⟩ := h.manned.turn hnext hleft
  refine ⟨hturned.prompt hthere hnext.stage (hclock.trans hbase.clock.symm), ?_, hqueued, ?_, ?_⟩
  · rw [hclock]
    exact htasks
  · rw [hclock, hinstances]
    exact h.output
  · rw [hclock]
    exact h.soon

/-- **Turns keep a run on time.** -/
theorem Punctual.advance (h : plan.Punctual time m) (hpaced : plan.Paced d time) (hcourse : plan.Course m)
    (choose : Choice) (hready : m.ready ≠ []) : plan.Punctual time (m.advance choose) := by
  obtain ⟨k, sf, phase, rest, hnext, heq⟩ := hcourse.next choose hready
  rw [heq]
  exact (h.turn hpaced hnext).wake

/-! ### Time -/

/-- A stage that is not over is not late. -/
theorem OnTime.soon (hpaced : plan.Paced d time) (hsf : plan.stages[k]? = some sf) {now : Nat} {phase : Phase}
    (h : plan.OnTime time now sf phase) (hphase : phase ≠ .finished) : now ≤ time sf.1.name := by
  have hstarts : starts time sf.1 ≤ time sf.1.name := by
    rw [hpaced.time_eq (mem_stages hsf)]
    exact le_self_add
  cases phase with
  | unstarted args positional => exact le_trans h hstarts
  | gathering names args => exact (Pends.soon h).trans hstarts
  | resting due next =>
    rw [← h.2]
    exact (ENat.natCast_le_natCast.mpr h.1).trans le_self_add
  | settling result => exact Pends.soon h
  | hanging =>
    rw [show time sf.1.name = ⊤ from h]
    exact le_top
  | finished => exact absurd rfl hphase

/-- Nobody can move, and the next moment is known. -/
structure Idle (m : Machine) (moment : Nat) : Prop where
  ready : m.ready = []
  still {k : Nat} : k ∈ m.blocked → m.stirred k = false
  next {k due : Nat} {t : Task} : k ∈ m.blocked → m.tasks[k]? = some t → due ∈ t.phase.moments → m.clock < due →
    moment ≤ due
  later : m.clock ≤ moment

/-- A task that can move is put aside while nobody moves, and it has no cause to look again. -/
theorem Manned.still {stands : Stage × Function → Phase → Prop} (h : plan.Manned stands m) {moment : Nat}
    (hidle : Idle m moment) {t : Task} (ht : m.tasks[k]? = some t) (hrank : 0 < t.phase.rank) :
    k ∈ m.blocked ∧ m.stirred k = false := by
  have hqueued := h.queued ht hrank
  rw [hidle.ready, List.nil_append] at hqueued
  exact ⟨hqueued, hidle.still hqueued⟩

theorem Pends.pass {moment : Nat} {among : List String} {t : ℕ∞} {items : List (Progress Awaited)}
    (h : plan.Pends time m.clock among t items) (hprompt : plan.Prompt time m)
    (hstill : ∀ a ∈ awaitedOfAll items, m.stirs a = false) (hlater : m.clock ≤ moment)
    (hnext : ∀ due ∈ (awaitedOfAll items).flatMap Awaited.moments, m.clock < due → moment ≤ due)
    (hstages : ∀ k sf, plan.stages[k]? = some sf → sf.1.name ∈ among → m.slot k = none → moment ≤ time sf.1.name) :
    plan.Pends time moment among t items := by
  refine ⟨?_, h.timely, h.waits, h.lasting.later hlater⟩
  obtain ⟨a, ha⟩ := List.exists_mem_of_ne_nil _ h.waits
  have htimely := everyOfAll_awaited items h.timely a ha
  have hnone : m.standing a = none := by
    cases a with
    | broken due => exact htimely.elim
    | output p => exact htimely.elim
    | _ => exact Option.not_isSome_iff_eq_none.mp (Bool.eq_false_iff.mp (hstill _ ha))
  cases a with
  | link l =>
    obtain ⟨k, sf, hsf, hname, hslot, htime⟩ := hprompt.linked_none htimely.1 hnone
    exact (hstages k sf hsf hname hslot).trans (htime.trans htimely.2)
  | timer due o =>
    have hdue : ¬due ≤ m.clock := fun hdue => by simp [standing, hdue] at hnone
    refine (ENat.natCast_le_natCast.mpr (hnext due ?_ (Nat.lt_of_not_le hdue))).trans htimely.2
    exact List.mem_flatMap.mpr ⟨_, ha, List.mem_singleton_self due⟩
  | broken due => exact htimely.elim
  | output p => exact htimely.elim

/-- A task that cannot move is on time at the next moment as well, if those it waits for are not over before. -/
theorem Punctual.onTime_pass (h : plan.Punctual time m) {moment : Nat} (hidle : Idle m moment) {phase : Phase}
    (ht : m.tasks[k]? = some (task k sf phase)) (hontime : plan.OnTime time m.clock sf phase)
    (hstages : ∀ j sg, plan.stages[j]? = some sg → sg.1.name ∈ sf.1.needs → m.slot j = none → moment ≤ time sg.1.name) :
    plan.OnTime time moment sf phase := by
  have hblocked (hrank : 0 < phase.rank) : k ∈ m.blocked := (h.manned.still hidle ht hrank).1
  have hstill (hrank : 0 < phase.rank) : m.stirred k = false := (h.manned.still hidle ht hrank).2
  unfold stirred at hstill
  rw [ht] at hstill
  cases phase with
  | unstarted args positional => exact absurd (hstill (Nat.succ_pos 3)).symm Bool.false_ne_true
  | gathering names args =>
    have hblocked := hblocked (Nat.succ_pos 2)
    have hstill := List.any_eq_false.mp (hstill (Nat.succ_pos 2))
    exact Pends.pass hontime h.prompt (fun a ha => Bool.eq_false_iff.mpr (hstill a ha)) hidle.later
      (fun due hdue => hidle.next hblocked ht hdue) hstages
  | resting due next =>
    have hdue : m.clock < due := Nat.lt_of_not_le (of_decide_eq_false (hstill Nat.two_pos))
    exact ⟨hidle.next (hblocked Nat.two_pos) ht (List.mem_singleton_self due) hdue, hontime.2⟩
  | settling result =>
    have hblocked := hblocked Nat.one_pos
    have hstill := List.any_eq_false.mp (hstill Nat.one_pos)
    refine Pends.pass hontime h.prompt (fun a ha => ?_) hidle.later (fun due hdue => ?_) fun _ _ _ hname => ?_
    · rw [awaitedOfAll_singleton] at ha
      exact Bool.eq_false_iff.mpr (hstill a ha)
    · rw [awaitedOfAll_singleton] at hdue
      exact hidle.next hblocked ht hdue
    · cases hname
  | hanging => exact hontime
  | finished => exact trivial

/-- **No moment comes after the end of a stage that is not over.** Such a stage is at work until some moment, or it
waits for another one. -/
theorem Punctual.moment_le (h : plan.Punctual time m) (hpaced : plan.Paced d time) {moment : Nat}
    (hidle : Idle m moment) (hsf : plan.stages[k]? = some sf) (hslot : m.slot k = none) : moment ≤ time sf.1.name := by
  by_cases hfinite : time sf.1.name = ⊤
  · rw [hfinite]
    exact le_top
  have hacc := hpaced.path.acc hfinite
  clear hfinite
  generalize hname : sf.1.name = name at hacc ⊢
  induction hacc generalizing k sf with
  | intro name _ ih =>
    obtain ⟨phase, ht, hontime, hfinished⟩ := h.tasks hsf
    have hunfinished : phase ≠ .finished := by
      intro hover
      have hsome := hfinished hover
      rw [hslot] at hsome
      cases hsome
    have hpass := h.onTime_pass hidle ht hontime fun j sg hsg hmem hslot' =>
      ih sg.1.name ⟨sf.1, mem_stages hsf, hname, hmem⟩ hsg hslot' rfl
    rw [← hname]
    exact hpass.soon hpaced hsf hunfinished

/-- **Time passes on time.** -/
theorem Punctual.pass (h : plan.Punctual time m) (hpaced : plan.Paced d time) {moment : Nat} (hidle : Idle m moment)
    (hsoon : moment ≤ plan.ends time) : plan.Punctual time { m with clock := moment } := by
  obtain ⟨output, hm, houtput⟩ := h.output
  refine ⟨⟨h.prompt.sized, fun hs => ?_, h.prompt.inputs⟩, fun {k sf} hsf => ?_, h.queued, ⟨output, hm, ?_⟩, hsoon⟩
  · exact (h.prompt.filled hs).trans (ENat.natCast_le_natCast.mpr hidle.later)
  · obtain ⟨phase, ht, hontime, hfinished⟩ := h.tasks hsf
    exact ⟨phase, ht, h.onTime_pass hidle ht hontime fun j sg hsg _ hslot => h.moment_le hpaced hidle hsg hslot,
      hfinished⟩
  · cases output with
    | unread => exact trivial
    | linked r => exact ⟨houtput.1, houtput.2.later hidle.later⟩
    | known o => exact houtput

/-! ### Rounds -/

/-- **What holds of a run round by round.** `P` is what holds between rounds, `Q` what a look at the output
leaves that does not find it. A run that ends has found the output, or it is late. -/
theorem drive_rounds {P Q : Machine → Prop} {late : Prop} {done : Outcome → Prop} (choose : Choice)
    (deadline : Nat)
    (hdone : ∀ {m o}, plan.Course m → P m → (m.looked (.output 0)).standing (.output 0) = some o → done o)
    (hopens : ∀ {m}, plan.Course m → P m → plan.Unread m (m.looked (.output 0)) → Q (m.looked (.output 0)))
    (hstands : ∀ {m}, Q m → P m) (hlate : ∀ {m}, Q m → deadline ≤ m.clock → late)
    (hturn : ∀ {m}, plan.Course m → P m → m.clock < deadline → m.ready ≠ [] → P (m.advance choose))
    (hpass : ∀ {m moment}, Q m → m.clock < deadline → m.room ≠ 0 → Idle m moment → moment ≤ deadline →
      P { m with clock := moment }) (fuel : Nat) :
    ∀ {m : Machine}, plan.Course m → P m →
      ((drive choose (.output 0) (some deadline) fuel m).1 = some .late → late) ∧
        ∀ o, (drive choose (.output 0) (some deadline) fuel m).1 = some (.outcome o) → done o := by
  induction fuel with
  | zero => exact fun _ _ => ⟨nofun, nofun⟩
  | succ fuel ih =>
    intro m hcourse h
    rcases read_cases hcourse with ⟨o, ho, -⟩ | hunread
    · rw [drive_outcome ho]
      refine ⟨nofun, fun o' ho' => ?_⟩
      cases ho'
      exact hdone hcourse h ho
    have hstanding := hunread.standing
    have hopen := hopens hcourse h hunread
    by_cases hover : deadline ≤ (m.looked (.output 0)).clock
    · have htime : (some deadline).any (fun due => decide (due ≤ (m.looked (.output 0)).clock)) = true :=
        decide_eq_true hover
      rw [drive_late hstanding htime]
      exact ⟨fun _ => hlate hopen hover, nofun⟩
    have htime : (some deadline).any (fun due => decide (due ≤ (m.looked (.output 0)).clock)) = false :=
      decide_eq_false hover
    have hclock := Nat.not_le.mp hover
    by_cases hready : (m.looked (.output 0)).ready = []
    · by_cases hroom : (m.looked (.output 0)).room = 0
      · rw [drive_crammed hstanding htime hready hroom]
        exact ih hunread.course (hstands hopen)
      · obtain ⟨moment, hmoment, hafter, hbefore⟩ := nextMoment?_eq_some (.output 0) hclock
        have hidle : Idle (m.looked (.output 0)) moment :=
          ⟨hready, wake_still, fun hk ht hdue => nextMoment?_le hmoment hk ht hdue, hafter.le⟩
        rw [drive_idle hstanding htime hready hroom hmoment]
        exact ih (hunread.course.pass hready moment) (hpass hopen hclock hroom hidle hbefore)
    · have hkept : plan.Course ((m.looked (.output 0)).advanceMany choose turnsPerLook) ∧
          P ((m.looked (.output 0)).advanceMany choose turnsPerLook) ∧
          ((m.looked (.output 0)).advanceMany choose turnsPerLook).clock < deadline := by
        refine advanceMany_keeps (P := fun m => plan.Course m ∧ P m ∧ m.clock < deadline) (fun {m} hm => ?_)
          turnsPerLook ⟨hunread.course, hstands hopen, hclock⟩
        by_cases hnobody : m.ready = []
        · rw [advance_idle hnobody]
          exact hm
        · obtain ⟨hcourse', -, hclock', -⟩ := hm.1.advance choose hnobody
          exact ⟨hcourse', hturn hm.1 hm.2.1 hm.2.2 hnobody, hclock' ▸ hm.2.2⟩
      rw [drive_ready hstanding htime hready]
      exact ih hkept.1 hkept.2.1

end Plan
end StageGraph
