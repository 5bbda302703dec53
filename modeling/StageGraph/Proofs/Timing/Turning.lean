import StageGraph.Proofs.Dataflow.Course
import StageGraph.Proofs.Timing.Punctual

/-! Turns on time.

What a task awaits has all come by the time until which it awaits it, and not before (`gather_looked`,
`settle_looked`). So a function is called when its stage starts, its result is there when the stage is over, and a
turn keeps its task on time (`turn_turned`). -/
namespace StageGraph
namespace Plan

open Machine Progress

variable {plan : Plan} {d time : String → ℕ∞} {m m' : Machine} {among : List String} {t : ℕ∞} {k : Nat}
  {sf : Stage × Function}

/-- How a turn of a task on time ends: with its result when the stage is over, without end if it never is, or
aside and on time. -/
inductive Turned (plan : Plan) (time : String → ℕ∞) (k : Nat) (sf : Stage × Function) (m : Machine) : Machine → Prop
  | finished (o : Outcome) (past : time sf.1.name ≤ m.clock) : Turned plan time k sf m ((m.fill k o).setPhase k .finished)
  | hanging (never : time sf.1.name = ⊤) : Turned plan time k sf m (m.setPhase k .hanging)
  | parked (phase : Phase) (moving : 0 < phase.rank) (onTime : plan.OnTime time m.clock sf phase) :
    Turned plan time k sf m (m.park k phase)

/-! ### What has come -/

/-- Arguments are all there when a stage starts, or some of them are awaited until then. -/
theorem gather_looked (h : plan.Prompt time m) (hpaced : plan.Paced d time) (haccord : plan.Accord m)
    {args : List (Progress Awaited)} (hsoon : m.clock ≤ t)
    (htimely : everyOfAll (fun _ => False) (plan.Timely time among t) args)
    (hlasting : Lasting (Awaited.time (plan.slotTime time)) m.clock t (awaitedOfAll args)) :
    (∃ values, gathered (lookThrough ask args m).1 = some (.ok values)) ∧ t ≤ m.clock ∨
      gathered (lookThrough ask args m).1 = none ∧ plan.Pends time m.clock among t (lookThrough ask args m).1 := by
  have hleaves := (lookThrough_leaves (Telling.keeping (Taken m)) (fun a ha => h.ask_tells hpaced haccord ha) htimely
    m (Taken.refl m)).1
  rcases hleaves.gathered with ⟨hvalues, hcame⟩ | ⟨hnone, hwaits⟩
  · exact .inl ⟨hvalues, hlasting.passed hcame⟩
  · exact .inr ⟨hnone, hsoon, hleaves.rest, hwaits, hlasting.left hleaves.come⟩

/-- A result is there when a stage is over, or it is awaited until then. -/
theorem settle_looked (h : plan.Prompt time m) (hpaced : plan.Paced d time) (haccord : plan.Accord m)
    {result : Progress Awaited} (hsoon : m.clock ≤ t) (htimely : result.every (fun _ => False) (plan.Timely time among t))
    (hlasting : Lasting (Awaited.time (plan.slotTime time)) m.clock t result.awaited) :
    (∃ v, result.look (m := Id) m.standing = .done (.ok v)) ∧ t ≤ m.clock ∨
      (result.look (m := Id) m.standing).outcome? = none ∧
        plan.Pends time m.clock among t [result.look (m := Id) m.standing] := by
  have hleaves := look_leaves Telling.plain (fun a ha => h.standing_tells hpaced haccord ha) result htimely
  change Leaves _ _ _ (result.look (m := Id) m.standing) at hleaves
  generalize result.look (m := Id) m.standing = after at hleaves ⊢
  by_cases hnil : after.awaited = []
  · refine .inl ⟨?_, hlasting.passed fun a ha => (hleaves.come a ha).resolve_right ?_⟩
    · have hsucceeded := hleaves.waits hnil
      cases after with
      | done o =>
        cases o with
        | ok v => exact ⟨v, rfl⟩
        | error f => cases hsucceeded
      | _ => cases hsucceeded
    · rw [hnil]
      exact List.not_mem_nil
  · refine .inr ⟨?_, hsoon, ⟨hleaves.rest, trivial⟩, ?_, ?_⟩
    · cases after with
      | done o => exact absurd rfl hnil
      | _ => rfl
    · rw [awaitedOfAll_singleton]
      exact hnil
    · rw [awaitedOfAll_singleton]
      exact hlasting.left hleaves.come

/-! ### Replies -/

/-- A stage that is over in time has a value. -/
theorem Paced.value (h : plan.Paced d time) (hsf : plan.stages[k]? = some sf) (hfinite : time sf.1.name ≠ ⊤) :
    plan.meaning? sf.1.name ≠ none :=
  Option.isSome_iff_ne_none.mp (h.meaning_isSome hfinite (List.mem_map_of_mem (mem_stages hsf)))

theorem settle_turned (h : plan.Prompt time m) (hpaced : plan.Paced d time) (haccord : plan.Accord m) {phase : Phase}
    {result : Progress Awaited} (hsoon : m.clock ≤ time sf.1.name)
    (htimely : result.every (fun _ => False) (plan.Timely time [] (time sf.1.name)))
    (hlasting : Lasting (Awaited.time (plan.slotTime time)) m.clock (time sf.1.name) result.awaited) :
    plan.Turned time k sf m (m.settle k (task k sf phase) result) := by
  have hplain : ∀ a ∈ result.awaited, a.Plain := fun a ha => (every_awaited result htimely a ha).plain
  rw [settle_plain k _ hplain, settled_eq]
  rcases settle_looked h hpaced haccord hsoon htimely hlasting with ⟨⟨v, hv⟩, hover⟩ | ⟨hnone, hpends⟩
  · rw [hv]
    simp only [finish_eq haccord]
    exact .finished _ hover
  · cases hr : result.look (m := Id) m.standing with
    | done o =>
      rw [hr] at hnone
      cases hnone
    | _ =>
      rw [hr] at hpends
      simp only [release_eq (haccord.starter k)]
      exact .parked _ Nat.one_pos hpends

/-- What a reply gives comes by itself, and all of it by the time at which the stage is over. -/
theorem give_turned (h : plan.Prompt time m) (hpaced : plan.Paced d time) (haccord : plan.Accord m)
    (hsf : plan.stages[k]? = some sf) {phase : Phase} {r : Resolvable Promise}
    (hfits : plan.Fits sf (.resting 0 (.give r))) (htime : m.clock + latest Promise.delay r.awaited = time sf.1.name) :
    plan.Turned time k sf m (perform k (task k sf phase) (.give r) m) := by
  have hfinite : time sf.1.name ≠ ⊤ := by
    rw [← htime, ne_eq, ENat.add_eq_top, not_or]
    refine ⟨ENat.natCast_ne_top _, latest_ne_top fun p _ => ?_⟩
    cases p with
    | later ms o => exact ENat.natCast_ne_top ms
    | broken ms => exact ENat.zero_ne_top
    | held q => exact ENat.zero_ne_top
  have hmade (p : Promise) (hp : p ∈ r.awaited) : ∃ ms v, p = .later ms (.ok v) := by
    obtain ⟨v, hv⟩ := Option.ne_none_iff_exists'.mp (hpaced.value hsf hfinite)
    have hvalue := hfits.2
    rw [hv] at hvalue
    obtain ⟨w, hw, -⟩ := Option.bind_eq_some_iff.mp hvalue
    have hknown := Resolvable.value?_awaited r hw p hp
    cases p with
    | later ms o =>
      cases o with
      | ok v => exact ⟨ms, v, rfl⟩
      | error f => cases hknown
    | broken ms => cases hknown
    | held q => cases hknown
  unfold perform
  rw [release_eq (haccord.starter k)]
  refine settle_turned h hpaced haccord ?_ (Resolvable.progress_every _ fun a ha => ?_) ?_
  · rw [← htime]
    exact le_self_add
  · rw [Resolvable.map_awaited] at ha
    obtain ⟨p, hp, rfl⟩ := List.mem_map.mp ha
    obtain ⟨ms, v, rfl⟩ := hmade p hp
    refine ⟨⟨v, rfl⟩, ?_⟩
    rw [← htime, Nat.cast_add]
    exact add_le_add_right (le_latest hp) _
  · rw [Resolvable.progress_awaited, Resolvable.map_awaited, ← htime]
    rcases latest_eq Promise.delay r.awaited with hzero | ⟨p, hp, heq⟩
    · rw [hzero, add_zero]
      exact .inl (le_refl _)
    · refine .inr ⟨_, List.mem_map_of_mem hp, ?_⟩
      obtain ⟨ms, v, rfl⟩ := hmade p hp
      rw [heq]
      exact le_of_eq (Nat.cast_add _ _).symm

/-- A reply is carried out on time, if it takes as long as there is until its stage is over. -/
theorem perform_turned (hpaced : plan.Paced d time) (hsf : plan.stages[k]? = some sf) {phase : Phase} :
    ∀ (reply : Reply) {m : Machine}, plan.Prompt time m → plan.Accord m → plan.Fits sf (.resting 0 reply) →
      m.clock + reply.duration = time sf.1.name →
        plan.Turned time k sf m (perform k (task k sf phase) reply m)
  | .give r, m, h, haccord, hfits, htime => give_turned h hpaced haccord hsf hfits htime
  | .fail f, m, h, haccord, hfits, htime => by
    refine absurd hfits.2.symm (hpaced.value hsf ?_)
    rw [← htime]
    exact ENat.natCast_ne_top _
  | .panic message, m, h, haccord, hfits, htime => by
    refine absurd hfits.2.symm (hpaced.value hsf ?_)
    rw [← htime]
    exact ENat.natCast_ne_top _
  | .rest ms next, m, h, haccord, hfits, htime => by
    have hduration : (Reply.rest ms next).duration = ms + next.duration := rfl
    rw [hduration, ← add_assoc] at htime
    unfold perform
    split
    · next hzero =>
      rw [hzero, Nat.cast_zero, add_zero] at htime
      exact perform_turned hpaced hsf next h haccord hfits htime
    · refine .parked _ Nat.two_pos ⟨Nat.le_add_right _ _, ?_⟩
      rw [Nat.cast_add]
      exact htime
  | .hang, m, _, _, _, htime => by
    unfold perform
    refine .hanging ?_
    rw [← htime]
    exact add_top _
  | .start kept spec inputs next, m, _, _, hfits, _ => hfits.1.elim

/-- The function of a stage is called when the stage starts. -/
theorem call_turned (h : plan.Prompt time m) (hpaced : plan.Paced d time) (haccord : plan.Accord m)
    (hsf : plan.stages[k]? = some sf) (phase : Phase) {values : List Value}
    (hvalues : plan.arguments? sf.1 = some values) (hnow : m.clock = starts time sf.1) :
    ∃ base, m.Alike base ∧ plan.Turned time k sf base
      (m.call k (task k sf phase) (Fields.ofList ((sf.1.args.map Prod.fst).zip values))) := by
  have hwaits := hpaced.waits (mem_stages hsf)
  have hfunction := plan.functions sf (List.mem_of_getElem? hsf)
  obtain ⟨given, hgiven, rfl⟩ := Option.map_eq_some_iff.mp hvalues
  obtain ⟨bound, hbind, hduration, -⟩ := hwaits.waits hfunction hgiven
  have hmeaning := meaning?_given hsf hwaits.named hgiven
  unfold Function.result? at hmeaning
  rw [hbind] at hmeaning
  rw [zip_arguments hgiven, call_eq (t := task k sf phase) (hwaits.pure hfunction).alone hbind]
  have halike := logged_alike m ⟨k, sf.2.name, sf.2.recorded, bound⟩
  refine ⟨_, halike, perform_turned hpaced hsf _ (h.alike halike) (haccord.alike halike)
    ⟨(hwaits.pure hfunction).plain _, hmeaning.symm⟩ ?_⟩
  show m.clock + (sf.2.handler (sf.2.callFor sf.1.node bound)).duration = time sf.1.name
  rw [hduration, hpaced.time_eq (mem_stages hsf), ← hnow]

/-- A task that looks at its arguments calls its function when the stage starts, or goes on waiting until then. -/
theorem gather_turned (h : plan.Prompt time m) (hpaced : plan.Paced d time) (haccord : plan.Accord m)
    (hsf : plan.stages[k]? = some sf) (phase : Phase) {names : List String} {args : List (Progress Awaited)}
    (hfits : plan.Fits sf (.gathering names args)) (hsoon : m.clock ≤ starts time sf.1)
    (htimely : everyOfAll (fun _ => False) (plan.Timely time sf.1.needs (starts time sf.1)) args)
    (hlasting : Lasting (Awaited.time (plan.slotTime time)) m.clock (starts time sf.1) (awaitedOfAll args)) :
    ∃ base, m.Alike base ∧ plan.Turned time k sf base (m.gather k (task k sf phase) names args) := by
  obtain ⟨-, rfl, hvalues, hplain⟩ := hfits
  obtain ⟨hlook, htaken⟩ := lookThrough_values? (Telling.keeping (Taken m)) args
    (fun a ha => ask_agrees (everyOfAll_awaited args hplain a ha) fun s _ => haccord.slots s) m (Taken.refl m)
  have hbase : m.Alike (lookThrough ask args m).2 := htaken.alike
  have hlooked := gather_looked h hpaced haccord hsoon htimely hlasting
  rw [hvalues] at hlook
  rw [gather_plain k _ _ (everyOfAll_awaited args hplain), collect_eq]
  generalize lookThrough ask args m = looked at hlook hbase hlooked ⊢
  rcases hlooked with ⟨⟨values, hg⟩, hover⟩ | ⟨hg, hpends⟩
  · rw [hg]
    have hgathered : some values = plan.arguments? sf.1 := (gathered_values? hg).trans hlook
    obtain ⟨base, halike, hturned⟩ := call_turned (h.alike hbase) hpaced (haccord.alike hbase) hsf phase
      hgathered.symm (by rw [hbase.clock]; exact le_antisymm hsoon hover)
    exact ⟨base, hbase.trans halike, hturned⟩
  · rw [hg]
    refine ⟨_, hbase, .parked _ (Nat.succ_pos 2) ?_⟩
    show plan.Pends time looked.2.clock sf.1.needs (starts time sf.1) looked.1
    rw [hbase.clock]
    exact hpends

/-! ### Arguments -/

/-- The last of the arguments of a stage is there when the stage starts. -/
theorem argumentsOf_time (hpaced : plan.Paced d time) {output : Output} (hm : m.instances = #[plan.atWork [] output])
    (hsf : plan.stages[k]? = some sf) (phase : Phase) :
    latest (Awaited.time (plan.slotTime time)) (awaitedOfAll (argumentsOf m (task k sf phase) sf.1)) =
      starts time sf.1 := by
  rw [argumentsOf_awaited, latest_map, starts, Stage.needs, latest_stages, latest_map]
  refine latest_congr fun entry hentry => ?_
  have hmem : entry.2 ∈ sf.1.input.map Prod.snd := List.mem_map_of_mem hentry
  exact (link_fair time hm _ none hmem (hpaced.inputs (mem_stages hsf) entry.2 hmem)).2

theorem argumentsOf_timely (hpaced : plan.Paced d time) {output : Output} (hm : m.instances = #[plan.atWork [] output])
    (hsf : plan.stages[k]? = some sf) (phase : Phase) :
    everyOfAll (fun _ => False) (plan.Timely time sf.1.needs (starts time sf.1))
      (argumentsOf m (task k sf phase) sf.1) := by
  refine Resolvable.everyOfAll_progress _ sf.1.args fun a ha => ?_
  change a ∈ awaitedOfAll (argumentsOf m (task k sf phase) sf.1) at ha
  have hle : a.time (plan.slotTime time) ≤ starts time sf.1 := by
    rw [← argumentsOf_time hpaced hm hsf phase]
    exact le_latest ha
  rw [argumentsOf_awaited] at ha
  obtain ⟨entry, hentry, rfl⟩ := List.mem_map.mp ha
  have hmem : entry.2 ∈ sf.1.input.map Prod.snd := List.mem_map_of_mem hentry
  exact ⟨(link_fair time hm _ none hmem (hpaced.inputs (mem_stages hsf) entry.2 hmem)).1, hle⟩

/-! ### Any phase -/

/-- **A turn keeps its task on time.** -/
theorem turn_turned (h : plan.Prompt time m) (hpaced : plan.Paced d time) (haccord : plan.Accord m)
    (hsf : plan.stages[k]? = some sf) {phase : Phase} (ht : m.tasks[k]? = some (task k sf phase))
    (hfits : plan.Fits sf phase) (hontime : plan.OnTime time m.clock sf phase) (hmoving : 0 < phase.rank)
    (hstirred : m.stirred k = true) : ∃ base, m.Alike base ∧ plan.Turned time k sf base (m.turn k) := by
  have halike : m.Alike m.refreshed := refreshed_alike m
  have hthere : plan.Accord m.refreshed := haccord.alike halike
  have hprompt : plan.Prompt time m.refreshed := h.alike halike
  have hget : m.refreshed.tasks[k]? = some (task k sf phase) := ht
  obtain ⟨output, hm, -⟩ := hthere.pipeline
  unfold turn
  simp only [hget]
  cases phase with
  | unstarted args positional =>
    obtain ⟨rfl, rfl⟩ := hfits
    have hpositional := (hpaced.waits (mem_stages hsf)).named
    simp only [task, hpositional, Bool.false_eq_true, if_false]
    have hlasting : Lasting (Awaited.time (plan.slotTime time)) m.refreshed.clock (starts time sf.1)
        (awaitedOfAll (argumentsOf m.refreshed (task k sf (.unstarted sf.1.args false)) sf.1)) := by
      rw [← argumentsOf_time hpaced hm hsf (.unstarted sf.1.args false)]
      exact lasting_latest _ _ _
    obtain ⟨base, hbase, hturned⟩ := gather_turned hprompt hpaced hthere hsf (.unstarted sf.1.args false)
      ⟨hpositional, rfl, argumentsOf_values? hm k sf _, argumentsOf_plain _ _⟩ hontime
      (argumentsOf_timely hpaced hm hsf (.unstarted sf.1.args false)) hlasting
    exact ⟨base, halike.trans hbase, hturned⟩
  | gathering names args =>
    obtain ⟨hsoon, htimely, -, hlasting⟩ := hontime
    obtain ⟨base, hbase, hturned⟩ := gather_turned hprompt hpaced hthere hsf (.gathering names args) hfits hsoon
      htimely hlasting
    exact ⟨base, halike.trans hbase, hturned⟩
  | resting due next =>
    unfold stirred at hstirred
    simp only [ht, Option.map_some] at hstirred
    have hdue : due ≤ m.refreshed.clock := of_decide_eq_true hstirred
    have hnow : m.refreshed.clock = due := le_antisymm hontime.1 hdue
    simp only [task, if_pos hdue]
    refine ⟨_, halike, perform_turned hpaced hsf next hprompt hthere hfits ?_⟩
    rw [hnow]
    exact hontime.2
  | settling result =>
    obtain ⟨hsoon, htimely, -, hlasting⟩ := hontime
    rw [awaitedOfAll_singleton] at hlasting
    exact ⟨_, halike, settle_turned hprompt hpaced hthere hsoon htimely.1 hlasting⟩
  | hanging => cases hmoving
  | finished => cases hmoving

end Plan
end StageGraph
