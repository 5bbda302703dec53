import StageGraph.Proofs.Bystanders.References
import StageGraph.Proofs.Dataflow.Course

/-! Turns, and the moments of their stages.

The task of a stage waits until it is decided what comes of its references, it calls its function at the moment at which
they have all come (`Plan.Called`), and what its function does from then on is what is told of the stage (`Plan.Goes`).
Every turn keeps a task there (`turn_tracked`): no stage is over before its moment, and who has his turn at some moment
does not miss it. -/
namespace StageGraph

/-- A promise that was made at some time. -/
def Promise.begun (b : Nat) : Promise → Awaited
  | later ms o => .timer (b + ms) o
  | broken ms => .broken (b + ms)
  | held p => .output p

namespace Plan

open Machine Progress

variable {plan : Plan} {m : Machine} {g e k : Nat} {sf : Stage × Function}

/-- A reference and what is looked at for it. What is written down is not looked at. -/
def Part (plan : Plan) : Option String → Awaited → Prop
  | some text, .link l => plan.Leads text l
  | _, _ => False

/-- All that a stage waits for is fine and has come by some moment, and it was not decided before. So its function is
called at this moment. -/
structure Called (plan : Plan) (g : Nat) (s : Stage) : Prop where
  fine : ∀ a ∈ s.wants, plan.spec.Fine plan.registry plan.values a
  there : ∀ a ∈ s.wants, plan.spec.There (plan.spec.Over plan.registry plan.values g) a
  first : ∀ c < g, ¬plan.spec.Known plan.registry plan.values c s.wants

/-- What is left of the work of a stage after so many milliseconds: nothing was told before, and from then on it is told
what a reply tells from its start. -/
structure Goes (plan : Plan) (sf : Stage × Function) (e : Nat) (reply : Reply) : Prop where
  plain : reply.Plain
  told (k : Nat) : sf.1.told plan.registry plan.reference? (e + k) = reply.told sf.2 k
  silent : ∀ k < e, sf.1.told plan.registry plan.reference? k = none

/-- A result that was given at some time, and what is still awaited of it now. None of that has been missed. -/
structure Ripens (now b j : Nat) (r : Progress Promise) (result : Progress Awaited) : Prop where
  given : b + j ≤ now
  same : result = (r.ripe j).map (Promise.begun b)
  undecided : (r.ripe j).outcome? = none
  soon {ms : Nat} {o : Outcome} : .later ms o ∈ (r.ripe j).awaited → now ≤ b + ms

/-- Where the task of a stage can stand at some moment. -/
def Tracks (plan : Plan) (now : Nat) (sf : Stage × Function) : Phase → Prop
  | .unstarted _ _ => ∀ c < now, ¬plan.spec.Known plan.registry plan.values c sf.1.wants
  | .gathering _ args => (∀ c < now, ¬plan.spec.Known plan.registry plan.values c sf.1.wants) ∧
    List.Forall₂ (Stands (plan.Told now) plan.Part) sf.1.wants args ∧ gathered args = none
  | .resting due next => ∃ g e, plan.Called g sf.1 ∧ plan.Goes sf e next ∧ due = g + e ∧ now ≤ due
  | .settling result => ∃ g e r j, plan.Called g sf.1 ∧ plan.Goes sf e (.give r) ∧
    Ripens now (g + e) j r.progress result
  | .hanging => ∃ g e, plan.Called g sf.1 ∧ plan.Goes sf e .hang
  | .finished => True

/-- A turn that ends its task with an outcome that its stage can have by now, or leaves it where it can stand. -/
abbrev Tracked (plan : Plan) (k : Nat) (sf : Stage × Function) (m : Machine) : Machine → Prop :=
  Moved (plan.Settled m.clock k) (plan.Tracks m.clock sf) k m

/-! ### The end of a task -/

theorem finish_tracked (haccord : plan.Accord m) (hsf : plan.stages[k]? = some sf) (phase : Phase) {o : Outcome}
    (hvalue : o.toOption = plan.meaning? sf.1.name)
    (hover : plan.spec.Over plan.registry plan.values m.clock sf.1.name)
    (hfails : ∀ f, o = .error f → plan.spec.Fails plan.registry plan.values sf.1 f.cause) :
    plan.Tracked k sf m (m.finish k (task k sf phase) o) := by
  rw [finish_eq haccord]
  refine .finished _ ⟨?_, fun sg hsg => ?_⟩
  · rw [plan.slotValue?_stage hsf, ← hvalue]
    cases o <;> rfl
  · obtain rfl : sf = sg := Option.some.inj (hsf.symm.trans hsg)
    refine ⟨hover, fun f hf => ?_⟩
    cases o with
    | ok v => cases hf
    | error f₀ =>
      cases hf
      have hcause : (f₀.blame sf.1.node).cause = f₀.cause := Fault.blame?_cause f₀ (some sf.1.node)
      rw [hcause]
      exact hfails f₀ rfl

/-- A stage that was called ends with what is told of it by now. -/
theorem finish_told (haccord : plan.Accord m) (hsf : plan.stages[k]? = some sf) (phase : Phase)
    (hcalled : plan.Called g sf.1) (hle : g ≤ m.clock) {o : Outcome}
    (htold : sf.1.told plan.registry plan.reference? (m.clock - g) = some o) :
    plan.Tracked k sf m (m.finish k (task k sf phase) o) := by
  refine finish_tracked haccord hsf phase ?_ ?_ fun f hf => .inl ⟨_, f, hf ▸ htold, rfl⟩
  · rw [plan.meaning?_stage hsf]
    exact Stage.told_value (plan.spec_pure sf.1 (mem_stages hsf)) htold
  · refine (Spec.over_iff (stage?_eq hsf)).mpr (.inr ⟨g, hle, hcalled.there, ?_⟩)
    exact Option.isSome_iff_exists.mpr ⟨o, htold⟩

/-- A stage fails with a reference that decides. -/
theorem finish_heard (haccord : plan.Accord m) (hsf : plan.stages[k]? = some sf) (phase : Phase)
    (hfirst : ∀ c < m.clock, ¬plan.spec.Known plan.registry plan.values c sf.1.wants) {text : String}
    (hdecides : plan.spec.Decides plan.registry plan.values m.clock sf.1.wants (some text)) {f : Fault}
    (hblames : plan.spec.Blames plan.registry plan.values text f.cause) :
    plan.Tracked k sf m (m.finish k (task k sf phase) (.error f)) := by
  have hfails : plan.spec.Fails plan.registry plan.values sf.1 f.cause :=
    .inr ⟨m.clock, text, ⟨.inr ⟨_, hdecides⟩, hfirst⟩, hdecides, hblames⟩
  refine finish_tracked haccord hsf phase (hfails.meaning plan.spec_pure (stage?_eq hsf)).symm ?_ fun g hg => ?_
  · exact (Spec.over_iff (stage?_eq hsf)).mpr (.inl ⟨_, hdecides⟩)
  · cases hg
    exact hfails

/-! ### Replies -/

/-- What is awaited of a result is there when its time has come. -/
theorem standing_begun {b : Nat} (hle : b ≤ m.clock) {p : Promise} (hlater : p.isLater = true) :
    m.standing (p.begun b) = p.after (m.clock - b) := by
  cases p with
  | later ms o =>
    have hdue : b + ms ≤ m.clock ↔ ms ≤ m.clock - b := by omega
    simp only [Promise.begun, standing, Promise.after, hdue]
  | broken ms => cases hlater
  | held q => cases hlater

/-- What a look leaves of a result is still to come. -/
theorem Ripens.looked {now b : Nat} {r : Progress Promise} (hle : b ≤ now)
    (hnone : (r.ripe (now - b)).outcome? = none) :
    Ripens now b (now - b) r ((r.ripe (now - b)).map (Promise.begun b)) := by
  refine ⟨Nat.le_of_eq (Nat.add_sub_cancel' hle), rfl, hnone, fun {ms o} hp => ?_⟩
  have hlate : ¬ms ≤ now - b := by
    intro hms
    have hnot := ripe_rest _ hp
    simp only [Promise.after, if_pos hms] at hnot
    cases hnot
  omega

/-- A task that looks at its result sees what has become of it by now. -/
theorem settle_tracked (haccord : plan.Accord m) (hsf : plan.stages[k]? = some sf) (phase : Phase)
    (hcalled : plan.Called g sf.1) {r : Resolvable Promise} (hgoes : plan.Goes sf e (.give r)) (hle : g + e ≤ m.clock)
    {q : Progress Promise} (hlater : ∀ p ∈ q.awaited, p.isLater = true)
    (hlook : q.look (m := Id) (Promise.after (m.clock - (g + e))) = r.progress.ripe (m.clock - (g + e))) :
    plan.Tracked k sf m (m.settle k (task k sf phase) (q.map (Promise.begun (g + e)))) := by
  have hplain : ∀ a ∈ (q.map (Promise.begun (g + e))).awaited, a.Plain := by
    intro a ha
    rw [map_awaited] at ha
    obtain ⟨p, hp, rfl⟩ := List.mem_map.mp ha
    have hp := hlater p hp
    cases p with
    | later ms o => exact trivial
    | broken ms => cases hp
    | held q => cases hp
  have hlooked : (q.map (Promise.begun (g + e))).look (m := Id) m.standing =
      (r.progress.ripe (m.clock - (g + e))).map (Promise.begun (g + e)) := by
    rw [look_map_id, ← hlook]
    exact congrArg _ (look_congr q fun p hp => standing_begun hle (hlater p hp))
  have htold : sf.1.told plan.registry plan.reference? (m.clock - g) =
      (r.progress.ripe (m.clock - (g + e))).outcome?.map sf.2.conclude := by
    have h := hgoes.told (m.clock - (g + e))
    rw [show e + (m.clock - (g + e)) = m.clock - g by omega] at h
    exact h
  have hparked (hnone : (r.progress.ripe (m.clock - (g + e))).outcome? = none) :
      plan.Tracked k sf m (m.park k (.settling ((r.progress.ripe (m.clock - (g + e))).map (Promise.begun (g + e))))) :=
    .parked _ Nat.one_pos ⟨g, e, r, _, hcalled, hgoes, .looked hle hnone⟩
  rw [settle_plain k _ hplain, settled_eq, hlooked]
  generalize r.progress.ripe (m.clock - (g + e)) = ripened at htold hparked ⊢
  cases ripened with
  | done o =>
    have hdone := finish_told haccord hsf phase hcalled (Nat.le_trans (Nat.le_add_right g e) hle) htold
    cases o with
    | ok v => exact hdone
    | error f => exact hdone
  | _ =>
    simp only [Progress.map, release_eq (haccord.starter k)]
    exact hparked rfl

/-- A task that has looked at its result before looks again. What the earlier looks left is what would be left of the
whole result by now. -/
theorem resettle_tracked (haccord : plan.Accord m) (hsf : plan.stages[k]? = some sf) {result : Progress Awaited}
    (htracks : plan.Tracks m.clock sf (.settling result)) :
    plan.Tracked k sf m (m.settle k (task k sf (.settling result)) result) := by
  obtain ⟨g, e, r, j, hcalled, hgoes, ⟨hgiven, rfl, -, hsoon⟩⟩ := htracks
  refine settle_tracked haccord hsf _ hcalled hgoes (Nat.le_trans (Nat.le_add_right _ j) hgiven) (fun p hp => ?_) ?_
  · exact every_awaited _ (ripe_value? (Resolvable.progress_every r hgoes.plain) j).2 p hp
  · rcases Nat.eq_or_lt_of_le (Nat.le_sub_of_add_le' hgiven) with heq | hlt
    · rw [← heq]
      exact look_sifted_eq _ ripe_sifted ripe_rest
    · refine (ripe_skip hlt fun p hp => ?_).symm
      cases p with
      | later ms o =>
        have hsoon : m.clock ≤ g + e + ms := hsoon hp
        exact if_neg (by omega)
      | broken ms => rfl
      | held q => rfl

/-- A reply is carried out from its moment on. -/
theorem perform_tracked (haccord : plan.Accord m) (hsf : plan.stages[k]? = some sf) (phase : Phase)
    (hcalled : plan.Called g sf.1) : ∀ (reply : Reply) {e : Nat}, plan.Goes sf e reply → m.clock = g + e →
      plan.Tracked k sf m (perform k (task k sf phase) reply m) := by
  have hfinish {e : Nat} {reply : Reply} {o : Outcome} (hgoes : plan.Goes sf e reply) (hnow : m.clock = g + e)
      (ho : reply.told sf.2 0 = some o) : plan.Tracked k sf m (m.finish k (task k sf phase) o) := by
    refine finish_told haccord hsf phase hcalled (hnow ▸ Nat.le_add_right g e) ?_
    rw [hnow, Nat.add_sub_cancel_left, ← ho, ← hgoes.told 0, Nat.add_zero]
  intro reply
  induction reply with
  | give r =>
    intro e hgoes hnow
    unfold perform
    rw [release_eq (haccord.starter k), Resolvable.map_progress]
    have hpromised : m.promised = Promise.begun (g + e) := by
      funext p
      cases p <;> simp only [promised, Promise.begun, hnow]
    rw [hpromised]
    refine settle_tracked haccord hsf phase hcalled hgoes (Nat.le_of_eq hnow.symm) (fun p hp => ?_) ?_
    · rw [Resolvable.progress_awaited] at hp
      exact hgoes.plain p hp
    · rw [hnow, Nat.sub_self]
      rfl
  | fail f =>
    intro e hgoes hnow
    exact hfinish hgoes hnow rfl
  | panic message =>
    intro e hgoes hnow
    exact hfinish hgoes hnow rfl
  | rest ms next ih =>
    intro e hgoes hnow
    unfold perform
    have hnext : plan.Goes sf (e + ms) next := by
      refine ⟨hgoes.plain, fun i => ?_, fun i hi => ?_⟩
      · rw [Nat.add_assoc, hgoes.told, Reply.told, if_pos (Nat.le_add_right ms i), Nat.add_sub_cancel_left]
      · by_cases hearly : i < e
        · exact hgoes.silent i hearly
        · obtain ⟨j, rfl⟩ := Nat.exists_eq_add_of_le (Nat.not_lt.mp hearly)
          rw [hgoes.told, Reply.told, if_neg (Nat.not_le.mpr (Nat.lt_of_add_lt_add_left hi))]
    split
    · next hzero =>
      subst hzero
      exact ih hnext hnow
    · refine .parked _ Nat.two_pos ⟨g, e + ms, hcalled, hnext, ?_, Nat.le_add_right _ _⟩
      rw [hnow, Nat.add_assoc]
  | hang =>
    intro e hgoes hnow
    exact .hanging ⟨g, e, hcalled, hgoes⟩
  | start kept spec inputs next ih =>
    intro e hgoes hnow
    exact hgoes.plain.elim

/-! ### Arguments -/

/-- What is told of a stage that has values for all that it refers to. -/
theorem told_given (hsf : plan.stages[k]? = some sf) (hpositional : sf.1.positional = false) {given : Fields}
    (hgiven : referred? plan.reference? sf.1.input = some given) (i : Nat) :
    sf.1.told plan.registry plan.reference? i =
      match sf.2.bindArguments (Fields.ofList (sf.1.written ++ given)) with
      | .error cause => some (.error ⟨cause, none⟩)
      | .ok args => (sf.2.handler (sf.2.callFor sf.1.node args)).told sf.2 i := by
  rw [Stage.told, plan.functions sf (List.mem_of_getElem? hsf), Option.bind_some, hpositional, hgiven, if_neg nofun]
  rfl

/-- The function of a stage is called when all that the stage waits for has come. -/
theorem call_tracked (haccord : plan.Accord m) (hsf : plan.stages[k]? = some sf) (phase : Phase)
    (hpositional : sf.1.positional = false) {values : List Value} (hvalues : plan.arguments? sf.1 = some values)
    (hcalled : plan.Called m.clock sf.1) : ∃ base, m.Alike base ∧ plan.Tracked k sf base
      (m.call k (task k sf phase) (Fields.ofList ((sf.1.args.map Prod.fst).zip values))) := by
  obtain ⟨given, hgiven, rfl⟩ := Option.map_eq_some_iff.mp hvalues
  rw [zip_arguments hgiven]
  have htold := told_given hsf hpositional hgiven
  cases hbind : sf.2.bindArguments (Fields.ofList (sf.1.written ++ given)) with
  | error cause =>
    rw [hbind] at htold
    refine ⟨m, Alike.refl m, ?_⟩
    unfold Machine.call
    simp only [task, hbind]
    exact finish_told haccord hsf phase hcalled (Nat.le_refl _) (htold _)
  | ok bound =>
    rw [hbind] at htold
    have hpure := plan.pure sf (List.mem_of_getElem? hsf)
    rw [call_eq (t := task k sf phase) hpure.alone hbind]
    have halike := logged_alike m ⟨k, sf.2.name, sf.2.recorded, bound⟩
    have hgoes : plan.Goes sf 0 (sf.2.handler (sf.2.callFor sf.1.node bound)) := by
      refine ⟨hpure.plain _, fun i => ?_, fun i hi => absurd hi (Nat.not_lt_zero i)⟩
      rw [Nat.zero_add]
      exact htold i
    exact ⟨_, halike, perform_tracked (haccord.alike halike) hsf phase hcalled _ hgoes rfl⟩

theorem Board.ask_told (h : plan.Board m.clock m) {a : Option String} {p : Awaited} (hpart : plan.Part a p) :
    (Telling.keeping (Taken m)).holds (ask p) fun t => ∀ o, t = some o → plan.Told m.clock a o := by
  cases a with
  | none => exact hpart.elim
  | some text =>
    cases p with
    | link l => exact h.look_told hpart
    | _ => exact hpart.elim

/-- A task that looks at its arguments calls its function when they have all come, fails when one of them decides, or
goes on waiting. -/
theorem gather_tracked (h : plan.Board m.clock m) (haccord : plan.Accord m)
    (hsf : plan.stages[k]? = some sf) (phase : Phase) {names : List String} {args : List (Progress Awaited)}
    (hfits : plan.Fits sf (.gathering names args))
    (hfirst : ∀ c < m.clock, ¬plan.spec.Known plan.registry plan.values c sf.1.wants)
    (hstands : List.Forall₂ (Stands (plan.Told m.clock) plan.Part) sf.1.wants args) :
    ∃ base, m.Alike base ∧ plan.Tracked k sf base (m.gather k (task k sf phase) names args) := by
  obtain ⟨hpositional, rfl, hvalues, hplain⟩ := hfits
  obtain ⟨hlook, htaken⟩ := lookThrough_values? (Telling.keeping (Taken m)) args
    (fun a ha => ask_agrees (everyOfAll_awaited args hplain a ha) fun s _ => haccord.slots s) m (Taken.refl m)
  have hlooked := (lookAll_stands (Telling.keeping (Taken m)) (fun a p hpart => h.ask_told hpart) (crowded args) hstands true m
    (Taken.refl m)).1
  change List.Forall₂ _ _ (lookThrough ask args m).1 at hlooked
  have hbase : m.Alike (lookThrough ask args m).2 := htaken.alike
  rw [hvalues] at hlook
  rw [gather_plain k _ _ (everyOfAll_awaited args hplain), collect_eq]
  generalize lookThrough ask args m = looked at hlook hbase hlooked ⊢
  have hcrowd : crowded looked.1 = decide (30 < sf.1.wants.length) := by rw [crowded, hlooked.length_eq]
  rw [← hbase.clock] at hfirst hlooked
  cases hg : gathered looked.1 with
  | none => exact ⟨_, hbase, .parked _ (Nat.succ_pos 2) ⟨hfirst, hlooked, hg⟩⟩
  | some o =>
    have hgathered : o.toOption = plan.arguments? sf.1 := (gathered_values? hg).trans hlook
    rw [gathered_eq, hcrowd] at hg
    cases o with
    | error f =>
      obtain ⟨a, ha, hdecides⟩ := gather_error_decides (fun _ _ => Told.fine) (fun _ _ hf => hf.fails.1) hlooked hg
      obtain ⟨-, text, rfl, hblames⟩ := ha.fails
      exact ⟨_, hbase, finish_heard (haccord.alike hbase) hsf phase hfirst hdecides hblames⟩
    | ok values =>
      have hcame := gather_ok_decides (fun _ _ => Told.fine) hlooked hg
      obtain ⟨base, halike, htracked⟩ := call_tracked (haccord.alike hbase) hsf phase hpositional hgathered.symm
        ⟨fun a ha => (hcame a ha).1, fun a ha => (hcame a ha).2, hfirst⟩
      exact ⟨base, hbase.trans halike, htracked⟩

/-- What a stage waits for when it starts. -/
theorem argumentsOf_stands {jobs : List Nat} {output : Output} (hm : m.instances = #[plan.atWork jobs output])
    (hpositional : sf.1.positional = false) (phase : Phase) (c : Nat) :
    List.Forall₂ (Stands (plan.Told c) plan.Part) sf.1.wants (argumentsOf m (task k sf phase) sf.1) := by
  rw [argumentsOf_eq, Stage.wants, if_neg (by rw [hpositional]; decide)]
  refine List.rel_append ?_ ?_
  · rw [List.forall₂_map_left_iff, List.forall₂_map_right_iff, List.forall₂_same]
    exact fun p _ => .done ⟨p.2, rfl⟩
  · rw [List.forall₂_map_left_iff, List.forall₂_map_right_iff, List.forall₂_same]
    exact fun i _ => .pending (link_leads hm _ none i.2)

/-! ### Any phase -/

/-- **A turn keeps its task to its moments.** -/
theorem turn_tracked (h : plan.Board m.clock m) (haccord : plan.Accord m)
    (hsf : plan.stages[k]? = some sf) {phase : Phase} (ht : m.tasks[k]? = some (task k sf phase))
    (hfits : plan.Fits sf phase) (htracks : plan.Tracks m.clock sf phase) (hmoving : 0 < phase.rank)
    (hstirred : m.stirred k = true) : ∃ base, m.Alike base ∧ plan.Tracked k sf base (m.turn k) := by
  have halike : m.Alike m.refreshed := refreshed_alike m
  have hthere : plan.Accord m.refreshed := haccord.alike halike
  have hboard : plan.Board m.refreshed.clock m.refreshed := h.alike halike
  have hget : m.refreshed.tasks[k]? = some (task k sf phase) := ht
  obtain ⟨output, hm, -⟩ := hthere.pipeline
  unfold turn
  simp only [hget]
  cases phase with
  | unstarted args positional =>
    obtain ⟨rfl, rfl⟩ := hfits
    cases hpositional : sf.1.positional with
    | true =>
      simp only [task, if_true]
      have hnothing : sf.1.wants = [] := if_pos hpositional
      refine ⟨_, halike, finish_told hthere hsf (.unstarted sf.1.args true) (g := 0) ⟨?_, ?_, ?_⟩ (Nat.zero_le _) ?_⟩
      · rw [hnothing]
        exact fun _ ha => absurd ha List.not_mem_nil
      · rw [hnothing]
        exact fun _ ha => absurd ha List.not_mem_nil
      · exact fun c hc => absurd hc (Nat.not_lt_zero c)
      · rw [Stage.told, plan.functions sf (List.mem_of_getElem? hsf), Option.bind_some, if_pos hpositional]
    | false =>
      simp only [task, Bool.false_eq_true, if_false]
      obtain ⟨base, hbase, htracked⟩ := gather_tracked hboard hthere hsf (.unstarted sf.1.args false)
        ⟨hpositional, rfl, argumentsOf_values? hm k sf _, argumentsOf_plain _ _⟩ htracks
        (argumentsOf_stands hm hpositional _ _)
      exact ⟨base, halike.trans hbase, htracked⟩
  | gathering names args =>
    obtain ⟨base, hbase, htracked⟩ := gather_tracked hboard hthere hsf (.gathering names args) hfits htracks.1
      htracks.2.1
    exact ⟨base, halike.trans hbase, htracked⟩
  | resting due next =>
    unfold stirred at hstirred
    simp only [ht, Option.map_some] at hstirred
    have hdue : due ≤ m.refreshed.clock := of_decide_eq_true hstirred
    obtain ⟨g, e, hcalled, hgoes, rfl, hnow⟩ := htracks
    simp only [task, if_pos hdue]
    exact ⟨_, halike, perform_tracked hthere hsf (.resting (g + e) next) hcalled next hgoes (le_antisymm hnow hdue)⟩
  | settling result =>
    exact ⟨_, halike, resettle_tracked hthere hsf htracks⟩
  | hanging => cases hmoving
  | finished => cases hmoving

end Plan
end StageGraph
