import StageGraph.Proofs.Lifetime.Owned
import StageGraph.Proofs.Attribution.Turning
import StageGraph.Proofs.Machine.Driving

/-! A turn, taken apart.

Before its call a task prepares its arguments. A turn leaves it there, or it calls its function, or its function is not
called in it (`Turned`). What follows is work: some deeds, after which the task is put aside or is over, and minds its
children (`Worked`). So a turn leaves everybody in order (`Turned.owned`). -/
namespace StageGraph

/-- Whether the function of a task is still to be called. -/
def Phase.preparing : Phase → Bool
  | .unstarted _ _ => true
  | .gathering _ _ => true
  | _ => false

namespace Machine

variable {m m' : Machine} {k : Nat} {t : Task}

/-- A task is put aside, or it is over or has no end. -/
inductive Closed (k : Nat) (m : Machine) : Phase → Machine → Prop
  | park (phase : Phase) : Closed k m phase (m.park k phase)
  | hanging : Closed k m .hanging (m.setPhase k .hanging)
  | finished : Closed k m .finished (m.setPhase k .finished)

/-- A task works, and in the end minds its children. -/
def Worked (k : Nat) (t : Task) (m m' : Machine) : Prop :=
  ∃ m₁ phase, Deeds (some k) m m₁ ∧ phase.preparing = false ∧ m₁.Minds k t phase ∧ Closed k m₁ phase m'

theorem Worked.head (hdeeds : Deeds (some k) m m') {m'' : Machine} (h : Worked k t m' m'') : Worked k t m m'' := by
  obtain ⟨m₁, phase, hrest, hclosed⟩ := h
  exact ⟨m₁, phase, hdeeds.trans hrest, hclosed⟩

/-! ### The end of a turn -/

/-- Whoever outlives some pipelines has none of them among its keepers. -/
theorem foldl_retire_alive (l : List Nat) : ∀ {m : Machine} {c : Nat} {i : Instance},
    (l.foldl retire m).instances[c]? = some i → i.alive = true →
      ∃ j, m.instances[c]? = some j ∧ j.alive = true ∧ ∀ p ∈ l, p ∉ j.keepers := by
  induction l with
  | nil => exact fun hi halive => ⟨_, hi, halive, nofun⟩
  | cons p rest ih =>
    intro m c i hi halive
    obtain ⟨j, hj, hjlives, hrest⟩ := ih hi halive
    rw [retire_instances] at hj
    obtain ⟨j₀, hj₀, hlives, hp⟩ := halted_alive.mp (alive_iff.mpr ⟨j, hj, hjlives⟩)
    have hkeepers : j.keepers = j₀.keepers := (halted_isInstance (isInstance_of_get hj)).keepers_eq (isInstance_of_get hj₀)
    refine ⟨j₀, hj₀, hlives, fun q hq => ?_⟩
    rcases List.mem_cons.mp hq with rfl | hq
    · exact hp
    · exact hkeepers ▸ hrest q hq

/-- The children that a task has after it let its children go are those that it keeps. -/
theorem release_kept (h : m.Kept) {kept : List Nat} {c : Nat} {i : Instance}
    (hi : (m.release k kept).instances[c]? = some i) (halive : i.alive = true) (hstarter : i.starter = some k) :
    c ∈ kept := by
  obtain ⟨j, hj, hlives, hgone⟩ := foldl_retire_alive _ hi halive
  have hself := h.self (isInstance_of_get hj)
  have hjstarter : j.starter = some k := by
    have hreleased : Deeds none m (m.release k kept) := release_deeds k kept
    obtain ⟨_, _, _, hi'⟩ := hreleased.extends'.isInstance (isInstance_of_get hj)
    rw [hi] at hi'
    have hsame := congrArg Instance.starter (Option.some.inj hi')
    exact hsame.symm.trans hstarter
  refine Classical.byContradiction fun hnot => hgone c (List.mem_filter.mpr ⟨?_, ?_⟩) hself
  · exact List.mem_range.mpr (Array.getElem?_eq_some_iff.mp hj).1
  · simp only [hj, hlives, hjstarter, beq_self_eq_true, Bool.and_self, Bool.true_and, Bool.not_eq_true']
    simpa using hnot

theorem Owned.finish (h : m.Owned (some k)) (ht : m.IsTask k t) (o : Outcome) : Worked k t m (m.finish k t o) := by
  have hreleased : Deeds (some k) m (m.release k []) := release_deeds k []
  refine ⟨_, .finished, hreleased.tail (.fill (.result rfl (hreleased.extends'.isTask ht))), rfl, ?_, .finished⟩
  refine ⟨fun _ _ => rfl, fun hi halive hstarter => ?_⟩
  cases release_kept h.kept hi halive hstarter

/-- A task that breaks down lets its children go, its slot may be given up, and then it is over. -/
theorem collapse_deeds (ht : m.IsTask k t) : ∃ m₁, Deeds (some k) m m₁ ∧
    m₁.instances = (m.release k []).instances ∧ m.collapse k t = m₁.setPhase k .finished := by
  have hreleased : Deeds (some k) m (m.release k []) := release_deeds k []
  unfold Machine.collapse
  cases m.loss? t with
  | none => exact ⟨_, hreleased, rfl, rfl⟩
  | some cause => exact ⟨_, hreleased.tail (.fill (.result rfl (hreleased.extends'.isTask ht))), rfl, rfl⟩

theorem Owned.collapse (h : m.Owned (some k)) (ht : m.IsTask k t) : Worked k t m (m.collapse k t) := by
  obtain ⟨m₁, hdeeds, hinstances, heq⟩ := collapse_deeds ht
  rw [heq]
  refine ⟨m₁, .finished, hdeeds, rfl, ⟨fun _ _ => rfl, fun hi halive hstarter => ?_⟩, .finished⟩
  rw [hinstances] at hi
  cases release_kept h.kept hi halive hstarter

theorem Owned.settle (h : m.Owned (some k)) (ht : m.IsTask k t) (result : Progress Awaited) :
    Worked k t m (m.settle k t result) := by
  have hread : Deeds (some k) m (result.awaited.foldl read m) := foldl_read_deeds _
  rw [settle_cases]
  generalize result.awaited.foldl read m = m₁ at hread ⊢
  have hread' := h.deeds hread
  have ht' := hread.extends'.isTask ht
  refine .head hread ?_
  split
  · exact hread'.collapse ht'
  rw [settled_eq]
  have hpark (result : Progress Awaited) :
      Worked k t m₁ ((m₁.release k (awaitedChildren result.awaited)).park k (.settling result)) := by
    refine ⟨_, _, release_deeds k _, rfl, ⟨fun _ _ => rfl, fun hi halive hstarter => ?_⟩, .park _⟩
    exact release_kept hread'.kept hi halive hstarter
  split
  · exact hread'.finish ht' _
  · exact hread'.finish ht' _
  · exact hpark _

/-! ### Replies -/

theorem spawnAll_alive {parent starter : Option Nat} {spec : Spec} {q : Nat} (inputs : List Value) :
    ∀ {m : Machine}, m.alive q = true → (m.spawnAll parent starter spec inputs).2.alive q = true := by
  induction inputs with
  | nil => exact id
  | cons v rest ih =>
    intro m hq
    unfold spawnAll
    cases hv : m.spawn parent starter spec v with
    | error f => exact hq
    | ok made =>
      obtain ⟨child, m'⟩ := made
      refine ih ?_
      cases parent with
      | none => cases hv
      | some p =>
        obtain ⟨i, stages, -, -, -, -, rfl⟩ := spawn_cases hv
        rw [start_alive]
        exact assembled_alive hq

/-- A task at work, whose function goes on, holds all its children. -/
theorem minds_of_alive {p : Nat} (hp : t.pipeline = some p) (halive : m.alive p = true) {phase : Phase}
    (hholds : ∀ c, phase.Holds c) : m.Minds k t phase := by
  refine ⟨fun {q} hq hover => ?_, fun _ _ _ => hholds _⟩
  obtain rfl := Option.some.inj (hp.symm.trans hq)
  rw [not_alive_of_ended hover] at halive
  cases halive

/-- A reply is carried out, for a task whose pipeline lives. -/
theorem Owned.perform {p : Nat} (hp : t.pipeline = some p) : ∀ (reply : Reply) {m : Machine}, m.Owned (some k) →
    m.IsTask k t → m.alive p = true → Worked k t m (Machine.perform k t reply m)
  | .give r, m, h, ht, _ => by
    have hreleased : Deeds (some k) m (m.release k (givenChildren r)) := release_deeds k _
    exact .head hreleased ((h.deeds hreleased).settle (hreleased.extends'.isTask ht) _)
  | .fail f, m, h, ht, _ => h.finish ht _
  | .panic message, m, h, ht, _ => h.finish ht _
  | .rest ms next, m, h, ht, halive => by
    unfold Machine.perform
    split
    · exact Owned.perform hp next h ht halive
    · exact ⟨m, .resting (m.clock + ms) next, .refl, rfl, minds_of_alive hp halive fun _ => trivial, .park _⟩
  | .hang, m, h, ht, halive => ⟨m, .hanging, .refl, rfl, minds_of_alive hp halive fun _ => trivial, .hanging⟩
  | .start kept spec inputs next, m, h, ht, halive => by
    have hspawned : Deeds (some k) m (m.spawnAll t.pipeline (if kept then none else some k) spec inputs).2 :=
      spawnAll_deeds kept hp inputs ht
    have halive' : (m.spawnAll t.pipeline (if kept then none else some k) spec inputs).2.alive p = true :=
      spawnAll_alive inputs halive
    unfold Machine.perform
    generalize m.spawnAll t.pipeline (if kept then none else some k) spec inputs = made at hspawned halive' ⊢
    obtain ⟨result, m'⟩ := made
    have ht' := hspawned.extends'.isTask ht
    cases result with
    | error f => exact .head hspawned ((h.deeds hspawned).finish ht' _)
    | ok children => exact .head hspawned (Owned.perform hp (next (children.map .held)) (h.deeds hspawned) ht' halive')

/-! ### Turns -/

/-- The arguments that a task prepares, with their names. -/
def prepared? (m : Machine) (t : Task) : Option (List String × List (Progress Awaited)) :=
  match t.phase with
  | .unstarted args false => some (args.map Prod.fst, args.map fun a => (a.2.map (m.begin t)).progress)
  | .gathering names args => some (names, args)
  | _ => none

/-- The call of a function is recorded. -/
def noted (m : Machine) (k : Nat) (t : Task) (args : Fields) : Machine :=
  { m with log := m.log.push ⟨k, t.function.name, t.function.recorded, args⟩ }

theorem noted_extends (k : Nat) (t : Task) (args : Fields) : m.Extends (m.noted k t args) :=
  extends_same (fun _ => rfl) rfl rfl rfl

/-- How a task goes on without a call: a result on its way is settled, and what is over does not go on. -/
def Resumes (k : Nat) (t : Task) (m m' : Machine) : Phase → Prop
  | .settling result => m' = m.settle k t result
  | .hanging => False
  | .finished => False
  | _ => True

theorem resumes_of_preparing {phase : Phase} (h : phase.preparing = true) : Resumes k t m m' phase := by
  cases phase with
  | unstarted => trivial
  | gathering => trivial
  | _ => cases h

/-- What a turn of a task comes to. -/
inductive Turned (k : Nat) (m : Machine) : Machine → Prop
  /-- The task is over, or its function never ends. -/
  | idle : (∀ t, m.tasks[k]? = some t → t.phase = .hanging ∨ t.phase = .finished) → Turned k m m
  /-- Some arguments are not there. -/
  | waits {t : Task} {names : List String} {args args' : List (Progress Awaited)} {m' : Machine} :
    m.tasks[k]? = some t → m.prepared? t = some (names, args) → Progress.lookThrough ask args m = (args', m') →
      Progress.gathered args' = none → m'.Minds k t (.gathering names args') →
        Turned k m (m'.park k (.gathering names args'))
  /-- The function is not called. -/
  | works {t : Task} {m' : Machine} : m.tasks[k]? = some t → Resumes k t m m' t.phase → Worked k t m m' → Turned k m m'
  /-- All arguments are there, and they conform to the declaration. -/
  | calls {t : Task} {p : Nat} {names : List String} {args args' : List (Progress Awaited)} {values : List Value}
    {bound : Fields} {m' m'' : Machine} : m.tasks[k]? = some t → t.pipeline = some p → m.alive p = true →
      m.prepared? t = some (names, args) → Progress.lookThrough ask args m = (args', m') →
        Progress.gathered args' = some (.ok values) → t.function.bindArguments (Fields.ofList (names.zip values)) = .ok bound →
          m'' = perform k t (t.function.handler (m'.callOf t bound)) (m'.noted k t bound) →
            Worked k t (m'.noted k t bound) m'' → Turned k m m''

/-- A look at arguments only takes results in. -/
theorem taken_of_look {args args' : List (Progress Awaited)} (h : Progress.lookThrough ask args m = (args', m')) :
    Taken m m' := by
  have htaken := (lookThrough_sees ask_sees args).taken m
  rwa [h] at htaken

theorem Owned.busy (h : m.Owned none) (k : Nat) : m.Owned (some k) :=
  ⟨h.kept, h.resolved, fun ht _ => h.minds ht nofun⟩

/-- While its function is still to be called, a task has no children. -/
theorem Minds.preparing {phase : Phase} (h : m.Minds k t phase) (hp : phase.preparing = true) (phase' : Phase) :
    m.Minds k t phase' := by
  have hnot (phase : Phase) (hp : phase.preparing = true) : phase.quiet = false ∧ ∀ c, ¬phase.Holds c := by
    cases phase with
    | unstarted => exact ⟨rfl, fun _ => id⟩
    | gathering => exact ⟨rfl, fun _ => id⟩
    | _ => cases hp
  refine ⟨fun hq hover => ?_, fun hi halive hstarter => absurd (h.holds hi halive hstarter) ((hnot phase hp).2 _)⟩
  have hquiet := h.quiet hq hover
  rw [(hnot phase hp).1] at hquiet
  cases hquiet

/-- Who prepares arguments is still to call. -/
theorem preparing_of_prepared? {names : List String} {args : List (Progress Awaited)}
    (h : m.prepared? t = some (names, args)) : t.phase.preparing = true := by
  unfold prepared? at h
  cases hphase : t.phase with
  | unstarted => rfl
  | gathering => rfl
  | _ =>
    rw [hphase] at h
    cases h

/-- A task looks at its arguments. -/
theorem Owned.gather (h : m.Owned none) {p : Nat} (ht : m.tasks[k]? = some t) (hp : t.pipeline = some p)
    (halive : m.alive p = true) {names : List String}
    {args : List (Progress Awaited)} (hprepared : m.prepared? t = some (names, args)) :
    Turned k m (m.gather k t names args) := by
  have hpreparing : t.phase.preparing = true := preparing_of_prepared? hprepared
  unfold Machine.gather
  split
  · exact .works ht (resumes_of_preparing hpreparing) ((h.busy k).collapse (isTask_of_get ht))
  rw [collect_eq]
  cases hlook : Progress.lookThrough ask args m with
  | mk args' m' =>
    have htaken := taken_of_look hlook
    have htake : Deeds (some k) m m' := .single (.take htaken)
    have ht' : m'.IsTask k t := htake.extends'.isTask (isTask_of_get ht)
    have hbusy : m'.Owned (some k) := (h.busy k).deeds htake
    have hsame : SameInstances m m' := fun q => by rw [htaken.instances]
    simp only
    cases hg : Progress.gathered args' with
    | none =>
      exact .waits ht hprepared hlook hg (((h.minds ht nofun).same hsame).preparing hpreparing _)
    | some o =>
      cases o with
      | error f => exact .works ht (resumes_of_preparing hpreparing) (.head htake (hbusy.finish ht' _))
      | ok values =>
        simp only
        unfold Machine.call
        cases hbind : t.function.bindArguments (Fields.ofList (names.zip values)) with
        | error cause => exact .works ht (resumes_of_preparing hpreparing) (.head htake (hbusy.finish ht' _))
        | ok bound =>
          have hnoted : (m'.noted k t bound).Owned (some k) := hbusy.alike rfl rfl
          have halive' : (m'.noted k t bound).alive p = true := by
            rw [alive_eq] at halive ⊢
            exact (hsame p).symm ▸ halive
          exact .calls ht hp halive hprepared hlook hg hbind rfl (hnoted.perform hp _ ht' halive')

/-- **What a turn comes to.** -/
theorem Owned.turn (h : m.Owned none) (hsound : m.Sound) (k : Nat) : Turned k m.refreshed (m.turn k) := by
  have h : m.refreshed.Owned none := h.alike rfl rfl
  have hplaced {t : Task} (ht : m.refreshed.tasks[k]? = some t) :
      ∃ p i, t.pipeline = some p ∧ m.refreshed.instances[p]? = some i := by
    obtain ⟨p, i, s, hw⟩ := hsound.placed (isTask_of_get (m := m) ht)
    obtain ⟨_, _, _, hi⟩ := hw.isInstance
    exact ⟨p, _, hw.pipeline, hi⟩
  unfold Machine.turn
  generalize m.refreshed = m at h hplaced ⊢
  simp only
  cases ht : m.tasks[k]? with
  | none => exact .idle fun t ht' => nomatch ht.symm.trans ht'
  | some t =>
    obtain ⟨p, i, hp, hi⟩ := hplaced ht
    have hbusy := h.busy k
    have htask : m.IsTask k t := isTask_of_get ht
    have hminds := h.minds ht nofun
    have hlives (hphase : t.phase.quiet = false) : m.alive p = true := by
      refine alive_iff.mpr ⟨i, hi, Bool.of_not_eq_false fun hover => ?_⟩
      have hquiet := hminds.quiet hp ⟨i, hi, hover⟩
      rw [hphase] at hquiet
      cases hquiet
    simp only
    cases hphase : t.phase with
    | unstarted args positional =>
      simp only
      split
      · exact .works ht (by rw [hphase]; trivial) (hbusy.finish htask _)
      · next hnot =>
        refine h.gather ht hp (hlives (by rw [hphase]; rfl)) ?_
        unfold prepared?
        rw [hphase, Bool.eq_false_iff.mpr hnot]
    | gathering names args =>
      refine h.gather ht hp (hlives (by rw [hphase]; rfl)) ?_
      unfold prepared?
      rw [hphase]
    | resting due next =>
      simp only
      split
      · exact .works ht (by rw [hphase]; trivial) (hbusy.perform hp next htask (hlives (by rw [hphase]; rfl)))
      · exact .works ht (by rw [hphase]; trivial) ⟨m, _, .refl, rfl, hphase ▸ hminds, .park _⟩
    | settling result => exact .works ht (by rw [hphase]; rfl) (hbusy.settle htask result)
    | hanging => exact .idle fun t' ht' => .inl (Option.some.inj (ht.symm.trans ht') ▸ hphase)
    | finished => exact .idle fun t' ht' => .inr (Option.some.inj (ht.symm.trans ht') ▸ hphase)

/-- A task that is ready has its turn, and then those wake that have cause to. -/
theorem Owned.advance (h : m.Owned none) (hsound : m.Sound) (choose : Choice) : m.advance choose = m ∨
    ∃ k rest m', (k :: rest).Perm m.ready ∧ Turned k { m with ready := rest, room := intake } m' ∧
      m.advance choose = m'.wake := by
  by_cases hready : m.ready = []
  · exact .inl (advance_idle hready choose)
  · obtain ⟨k, rest, hperm, heq⟩ := advance_ready hready choose
    have howned : Machine.Owned none { m with ready := rest } := h.alike rfl rfl
    have hfresh : Onward m { m with ready := rest } := hsound.same (fun _ => rfl) rfl rfl rfl rfl rfl
    exact .inr ⟨k, rest, _, hperm, howned.turn hfresh.sound k, heq⟩

/-! ### Everybody in order -/

theorem Closed.instances {phase : Phase} (h : Closed k m phase m') : m'.instances = m.instances := by
  cases h <;> rfl

theorem Closed.tasks {phase : Phase} (h : Closed k m phase m') : m'.tasks = (m.setPhase k phase).tasks := by
  cases h <;> rfl

/-- A task that minds its children is put in order. -/
theorem Owned.setPhase (h : m.Owned (some k)) (ht : m.IsTask k t) {phase : Phase} (hminds : m.Minds k t phase) :
    (m.setPhase k phase).Owned none := by
  refine ⟨h.kept.same (m.setPhase_extends k phase).isTask fun _ => rfl, h.resolved, fun {j t'} hj _ => ?_⟩
  rcases setPhase_cases hj with ⟨rfl, before, hbefore, rfl⟩ | ⟨hkj, hold⟩
  · obtain ⟨phase', rfl⟩ := ht.eq (isTask_of_get hbefore)
    exact ⟨hminds.quiet, hminds.holds⟩
  · have hother := h.minds hold fun heq => hkj (Option.some.inj heq)
    exact ⟨hother.quiet, hother.holds⟩

theorem Worked.owned (h : Worked k t m m') (hm : m.Owned (some k)) (ht : m.IsTask k t) : m'.Owned none := by
  obtain ⟨m₁, phase, hdeeds, -, hminds, hclosed⟩ := h
  exact ((hm.deeds hdeeds).setPhase (hdeeds.extends'.isTask ht) hminds).alike hclosed.tasks hclosed.instances

/-- **A turn leaves everybody in order.** -/
theorem Turned.owned (h : Turned k m m') (hm : m.Owned none) : m'.Owned none := by
  cases h with
  | idle => exact hm
  | waits ht _ hlook _ hminds =>
    have htake : Deeds (some k) m _ := .single (.take (taken_of_look hlook))
    exact (((hm.busy k).deeds htake).setPhase (htake.extends'.isTask (isTask_of_get ht)) hminds).alike rfl rfl
  | works ht _ hworked => exact hworked.owned (hm.busy k) (isTask_of_get ht)
  | calls ht _ _ _ hlook _ _ _ hworked =>
    have htake : Deeds (some k) m _ := .single (.take (taken_of_look hlook))
    exact hworked.owned (((hm.busy k).deeds htake).alike rfl rfl) (htake.extends'.isTask (isTask_of_get ht))

end Machine
end StageGraph
