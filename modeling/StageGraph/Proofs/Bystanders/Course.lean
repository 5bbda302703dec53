import StageGraph.Proofs.Attribution.Reading
import StageGraph.Proofs.Bystanders.Turning
import StageGraph.Proofs.Timing.Course

/-! The run of a plan, and its moments.

Whatever a run has so far is over by now (`Plan.Board`), its tasks stand where they can (`Plan.Tracks`), and so does its
output (`Plan.Collects`). When nobody can move, every stage has its result that is over before the next moment
(`Abides.filled`): that is an induction on how it came to be over, where whoever waits for nobody else has a moment of
his own to wait for. So a run finds the output at the moment at which it is first decided, or it is late and the output
was not decided in time (`drive_judged`). -/
namespace StageGraph

namespace Resolvable

/-- A list of what is pending, by other names and before anything of it is asked for. -/
theorem progressOfItems_pending {π ρ : Type} (rename : π → ρ) (l : List π) :
    progressOfItems (mapItems rename (l.map .pending)) = l.map fun p => .pending (rename p) := by
  induction l with
  | nil => rfl
  | cons p rest ih => simp only [List.map_cons, mapItems, map, progressOfItems, progress, ih]

theorem progressOfEntries_pending {π ρ : Type} (rename : π → ρ) (l : List (String × π)) :
    progressOfEntries (mapEntries rename (l.map fun e => (e.1, .pending e.2))) =
      l.map fun e => .pending (rename e.2) := by
  induction l with
  | nil => rfl
  | cons e rest ih => simp only [List.map_cons, mapEntries, map, progressOfEntries, progress, ih]

end Resolvable

namespace Plan

open Machine Progress

variable {plan : Plan} {m : Machine} {c g e k moment : Nat} {sf : Stage × Function}

/-! ### What is decided -/

/-- Where all that is awaited is still to come, nothing is decided yet, even if all is over whose slot is filled. -/
theorem Board.undecided (h : plan.Board c m) {π : Type} {part : Option String → π → Prop} {wants : List (Option String)}
    {items : List (Progress π)} (hstands : List.Forall₂ (Stands (plan.Told c) part) wants items)
    (hnone : gathered items = none)
    (hwaits : ∀ a p, part a p → p ∈ awaitedOfAll items →
      ∃ text l, a = some text ∧ plan.Leads text l ∧ m.linked l = none)
    {ended : String → Prop} (hfilled : ∀ k sf, plan.stages[k]? = some sf → ended sf.1.name → (m.slot k).isSome) :
    ¬Decided (30 < wants.length) (plan.spec.Fine plan.registry plan.values) (plan.spec.There ended) wants := by
  rw [gathered_eq, crowded, ← hstands.length_eq] at hnone
  refine gather_none_open (fun _ _ hv => hv.fine.1) (fun _ _ hf => hf.fails.1.1) hstands (fun a p hpart hp hthere => ?_) hnone
  obtain ⟨text, l, rfl, hleads, hnone⟩ := hwaits a p hpart hp
  have hsome := h.linked_isSome hleads fun k sf hsf hname =>
    hfilled k sf hsf (hthere sf.1.name hname (by rw [stage?_eq hsf]; rfl))
  rw [hnone] at hsome
  cases hsome

/-- A stage that was called is over only as long after as its function takes. -/
theorem Called.told (h : plan.Called g sf.1) {ended : Nat → String → Prop}
    (hover : ∀ c name, ended c name → plan.spec.Over plan.registry plan.values c name)
    (he : plan.spec.Ends plan.registry plan.values ended c sf.1) :
    g ≤ c ∧ (sf.1.told plan.registry plan.reference? (c - g)).isSome := by
  rcases he.mono hover with ⟨a, hdecides⟩ | ⟨g', hle, hall, htold⟩
  · exact absurd (h.fine a hdecides.mem) hdecides.not_fine
  · have hgg' : g ≤ g' := Nat.not_lt.mp fun hlt => h.first g' hlt (.inl fun a ha => ⟨h.fine a ha, hall a ha⟩)
    obtain ⟨o, ho⟩ := Option.isSome_iff_exists.mp htold
    exact ⟨hgg'.trans hle, Option.isSome_iff_exists.mpr ⟨o, Stage.told_mono ho (Nat.sub_le_sub_left hgg' c)⟩⟩

/-- Of a stage nothing is told as long as nothing is told of what is left of its work. -/
theorem Goes.told_none {reply : Reply} (h : plan.Goes sf e reply) {i : Nat}
    (hnone : ∀ k, i = e + k → reply.told sf.2 k = none) : sf.1.told plan.registry plan.reference? i = none := by
  by_cases hearly : i < e
  · exact h.silent i hearly
  · obtain ⟨k, rfl⟩ := Nat.exists_eq_add_of_le (Nat.not_lt.mp hearly)
    exact (h.told k).trans (hnone k rfl)

/-- Nothing comes of a result before the next of what is awaited of it. -/
theorem Ripens.undecided_before {now b j i : Nat} {r : Progress Promise} {result : Progress Awaited}
    (h : Ripens now b j r result) (hlater : r.every (fun _ => True) fun p => p.isLater = true)
    (hbefore : ∀ ms o, .later ms o ∈ (r.ripe j).awaited → i < ms) : (r.ripe i).outcome? = none := by
  rcases Nat.le_total i j with hle | hle
  · refine Option.eq_none_iff_forall_ne_some.mpr fun o ho => ?_
    have hdone := ripe_done ho hle
    rw [h.undecided] at hdone
    cases hdone
  · rw [ripe_eq hle fun p hp => ?_]
    · exact h.undecided
    · have hp' := every_awaited _ (ripe_value? hlater j).2 p hp
      cases p with
      | later ms o => exact if_neg (Nat.not_le.mpr (hbefore ms o hp))
      | broken ms => cases hp'
      | held q => cases hp'

/-! ### Where a run stands -/

/-- An output and what is looked at for it. -/
def Sought (plan : Plan) : Option String → Link → Prop
  | some text, l => plan.Leads text l
  | none, _ => False

/-- What there is of an output by some moment. -/
inductive Collects (plan : Plan) (c : Nat) : List (Option String) → Progress Link → Prop
  | one {a : Option String} {r : Progress Link} : Stands (plan.Told c) plan.Sought a r → Collects plan c [a] r
  | many {wants : List (Option String)} {whole : List Value → Value} {items : List (Progress Link)} :
    List.Forall₂ (Stands (plan.Told c) plan.Sought) wants items → Collects plan c wants (.parts whole items)

def OutputTracks (plan : Plan) (c : Nat) : Output → Prop
  | .unread => True
  | .linked r => plan.Collects c plan.spec.output.wants r
  | .known _ => False

/-- A run that has what is over by some moment, and whose output was not decided so far. -/
structure Abides (plan : Plan) (c : Nat) (m : Machine) : Prop where
  board : plan.Board c m
  manned : plan.Manned (plan.Tracks c) m
  output : ∃ output, m.instances = #[plan.atWork [] output] ∧ plan.OutputTracks c output
  first : ∀ c < m.clock, ¬plan.spec.Known plan.registry plan.values c plan.spec.output.wants

/-! ### Turns -/

theorem Board.wake (h : plan.Board c m) : plan.Board c m.wake := by
  rw [wake_eq]
  exact ⟨h.sized, h.inputs, h.settled⟩

theorem Abides.wake (h : plan.Abides c m) : plan.Abides c m.wake := by
  have hmanned := h.manned.wake
  have hboard := h.board.wake
  rw [wake_eq] at hmanned hboard ⊢
  exact ⟨hboard, hmanned, h.output, h.first⟩

theorem Board.tracked {base m' : Machine} (h : plan.Board base.clock base) (htracked : plan.Tracked k sf base m') :
    plan.Board base.clock m' where
  sized := by
    rw [htracked.size]
    exact h.sized
  inputs hj := by
    obtain ⟨o, ho⟩ := Option.isSome_iff_exists.mp (h.inputs hj)
    rw [htracked.slot_of_some ho]
    rfl
  settled hs := by
    rcases htracked.slot hs with hold | ⟨rfl, hsettled⟩
    · exact h.settled hold
    · exact hsettled

theorem Abides.turn (h : plan.Abides m.clock m) {phase : Phase} {rest : List Nat}
    (hnext : plan.Next m k sf phase rest) : plan.Abides m.clock ({ m with ready := rest }.turn k) := by
  have hboard : plan.Board m.clock { m with ready := rest } := ⟨h.board.sized, h.board.inputs, h.board.settled⟩
  obtain ⟨before, ht, htracks, -⟩ := h.manned.tasks hnext.stage
  obtain rfl : phase = before := congrArg Task.phase (Option.some.inj (hnext.task.symm.trans ht))
  obtain ⟨base, hbase, htracked⟩ := turn_tracked hboard hnext.accord hnext.stage hnext.task hnext.fits htracks
    hnext.moving hnext.stirred
  have hclock : base.clock = m.clock := hbase.clock
  have hthere : plan.Board base.clock base := hclock ▸ hboard.alike hbase
  have hget : base.tasks[k]? = some (task k sf phase) := by
    rw [hbase.tasks]
    exact ht
  have hleft := htracked.left trivial ((List.getElem?_eq_some_iff.mp hnext.stage).1.trans_le hthere.sized) hget
  rw [hclock] at hleft
  have hboard' := hthere.tracked htracked
  rw [hclock] at hboard'
  obtain ⟨hclock', hinstances⟩ := hnext.still
  refine ⟨hboard', h.manned.turn hnext hleft, ?_, ?_⟩
  · rw [hinstances]
    exact h.output
  · rw [hclock']
    exact h.first

/-- **Turns keep a run to its moments.** -/
theorem Abides.advance (h : plan.Abides m.clock m) (hcourse : plan.Course m)
    (choose : Choice) (hready : m.ready ≠ []) : plan.Abides m.clock (m.advance choose) := by
  obtain ⟨k, sf, phase, rest, hnext, heq⟩ := hcourse.next choose hready
  rw [heq]
  exact (h.turn hnext).wake

/-! ### Time -/

section

variable (h : plan.Abides m.clock m) (hidle : Idle m moment)
include h hidle

/-- Nobody who cannot move is still to be started. -/
theorem Abides.all_started {args : List (String × Resolvable Source)} {positional : Bool} :
    m.tasks[k]? ≠ some (task k sf (.unstarted args positional)) := by
  intro ht
  have hstill := (h.manned.still hidle ht (Nat.succ_pos 3)).2
  unfold stirred at hstill
  rw [ht] at hstill
  cases hstill

/-- What a task in the queue awaits has not come. -/
theorem Abides.gathering_waits {names : List String} {args : List (Progress Awaited)}
    (ht : m.tasks[k]? = some (task k sf (.gathering names args))) :
    ∀ a p, plan.Part a p → p ∈ awaitedOfAll args → ∃ text l, a = some text ∧ plan.Leads text l ∧ m.linked l = none := by
  have hstill := (h.manned.still hidle ht (Nat.succ_pos 2)).2
  unfold stirred at hstill
  rw [ht] at hstill
  intro a p hpart hp
  have hstirs : m.stirs p = false := Bool.eq_false_iff.mpr (List.any_eq_false.mp hstill p hp)
  cases a with
  | none => exact hpart.elim
  | some text =>
    cases p with
    | link l => exact ⟨text, l, rfl, hpart, Option.not_isSome_iff_eq_none.mp (Bool.eq_false_iff.mp hstirs)⟩
    | _ => exact hpart.elim

/-- The next moment is no later than the end of a rest. -/
theorem Abides.resting_waits {due : Nat} {next : Reply} (ht : m.tasks[k]? = some (task k sf (.resting due next))) :
    moment ≤ due := by
  obtain ⟨hblocked, hstill⟩ := h.manned.still hidle ht Nat.two_pos
  unfold stirred at hstill
  rw [ht] at hstill
  exact hidle.next hblocked ht (List.mem_singleton_self due) (Nat.lt_of_not_le (of_decide_eq_false hstill))

/-- The next moment is no later than anything that is awaited of a result. -/
theorem Abides.settling_waits {b j : Nat} {r : Progress Promise} {result : Progress Awaited}
    (ht : m.tasks[k]? = some (task k sf (.settling result))) (hripens : Ripens m.clock b j r result) {ms : Nat}
    {o : Outcome} (hp : .later ms o ∈ (r.ripe j).awaited) : moment ≤ b + ms := by
  obtain ⟨hblocked, hstill⟩ := h.manned.still hidle ht Nat.one_pos
  unfold stirred at hstill
  rw [ht] at hstill
  have hmem : .timer (b + ms) o ∈ result.awaited := by
    rw [hripens.same, Progress.map_awaited]
    exact List.mem_map_of_mem hp
  have hlate : ¬b + ms ≤ m.clock := by
    have hnone := Bool.eq_false_iff.mpr (List.any_eq_false.mp hstill _ hmem)
    intro hdue
    simp only [stirs, standing, if_pos hdue] at hnone
    cases hnone
  exact hidle.next hblocked ht (List.mem_flatMap.mpr ⟨_, hmem, List.mem_singleton_self _⟩) (Nat.lt_of_not_le hlate)

/-- A stage that ends before the next moment has its result, if those have theirs that end before it. -/
theorem Abides.ends_filled (hsf : plan.stages[k]? = some sf) (hbefore : c < moment) {ended : Nat → String → Prop}
    (hover : ∀ c name, ended c name → plan.spec.Over plan.registry plan.values c name)
    (hfilled : ∀ c < moment, ∀ k sf, plan.stages[k]? = some sf → ended c sf.1.name → (m.slot k).isSome)
    (he : plan.spec.Ends plan.registry plan.values ended c sf.1) : (m.slot k).isSome := by
  obtain ⟨phase, ht, htracks, hfinished⟩ := h.manned.tasks hsf
  by_contra hempty
  -- a stage at work has told something by the moment at which it ends
  have hwork {g e : Nat} {reply : Reply} (hcalled : plan.Called g sf.1) (hgoes : plan.Goes sf e reply)
      (hnone : ∀ k, c - g = e + k → reply.told sf.2 k = none) : False := by
    have hsome := (hcalled.told hover he).2
    rw [hgoes.told_none hnone] at hsome
    cases hsome
  cases phase with
  | unstarted args positional => exact absurd ht (h.all_started hidle)
  | gathering names args =>
    obtain ⟨-, hstands, hnone⟩ := htracks
    have hundecided (c : Nat) (hc : c < moment) :=
      h.board.undecided hstands hnone (h.gathering_waits hidle ht) (hfilled c hc)
    rcases he with ⟨a, hdecides⟩ | ⟨g, hle, hall, htold⟩
    · exact hundecided c hbefore (.inr ⟨a, hdecides⟩)
    · obtain ⟨o, ho⟩ := Option.isSome_iff_exists.mp htold
      refine hundecided g (hle.trans_lt hbefore) (.inl fun a ha => ⟨?_, hall a ha⟩)
      cases a with
      | none => exact trivial
      | some text => exact Stage.told_fine ho text ha
  | resting due next =>
    obtain ⟨g, e, hcalled, hgoes, rfl, -⟩ := htracks
    have hsoon := h.resting_waits hidle ht
    have hle := (hcalled.told hover he).1
    exact hwork hcalled hgoes fun k heq => by omega
  | settling result =>
    obtain ⟨g, e, r, j, hcalled, hgoes, hripens⟩ := htracks
    have hle := (hcalled.told hover he).1
    refine hwork hcalled hgoes fun i heq => ?_
    have hundecided : (r.progress.ripe i).outcome? = none := by
      refine hripens.undecided_before (Resolvable.progress_every r hgoes.plain) fun ms o hp => ?_
      have hsoon := h.settling_waits hidle ht hripens hp
      omega
    rw [Reply.told, hundecided]
    rfl
  | hanging =>
    obtain ⟨g, e, hcalled, hgoes⟩ := htracks
    exact hwork hcalled hgoes fun _ _ => rfl
  | finished => exact hempty (hfinished rfl)

/-- **When nobody can move, every stage has its result that is over before the next moment.** -/
theorem Abides.filled (hbefore : c < moment) (hsf : plan.stages[k]? = some sf)
    (hover : plan.spec.Over plan.registry plan.values c sf.1.name) : (m.slot k).isSome := by
  refine Spec.Over.induct (P := fun c name => c < moment → ∀ k sf, plan.stages[k]? = some sf → sf.1.name = name →
    (m.slot k).isSome) (fun c name s hs he hbefore k sf hsf hname => ?_) hover hbefore k sf hsf rfl
  subst hname
  obtain rfl : sf.1 = s := Option.some.inj ((stage?_eq hsf).symm.trans hs)
  refine h.ends_filled hidle hsf hbefore (fun _ _ => And.left) ?_ he
  exact fun c hc k sf hsf hover => hover.2 hc k sf hsf rfl

/-- A task that cannot move stands where it can at the next moment as well. -/
theorem Abides.tracks_pass {phase : Phase} (ht : m.tasks[k]? = some (task k sf phase))
    (htracks : plan.Tracks m.clock sf phase) : plan.Tracks moment sf phase := by
  cases phase with
  | unstarted args positional => exact absurd ht (h.all_started hidle)
  | gathering names args =>
    obtain ⟨-, hstands, hnone⟩ := htracks
    refine ⟨fun c hc => ?_, stands_mono (fun _ _ => Told.later hidle.later) hstands, hnone⟩
    exact h.board.undecided hstands hnone (h.gathering_waits hidle ht) fun k sf hsf hover => h.filled hidle hc hsf hover
  | resting due next =>
    obtain ⟨g, e, hcalled, hgoes, hdue, -⟩ := htracks
    exact ⟨g, e, hcalled, hgoes, hdue, h.resting_waits hidle ht⟩
  | settling result =>
    obtain ⟨g, e, r, j, hcalled, hgoes, hripens⟩ := htracks
    exact ⟨g, e, r, j, hcalled, hgoes, hripens.given.trans hidle.later, hripens.same, hripens.undecided,
      fun hp => h.settling_waits hidle ht hripens hp⟩
  | hanging => exact htracks
  | finished => exact trivial

end

end Plan
end StageGraph
