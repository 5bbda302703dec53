import Mathlib.Data.List.Perm.Basic
import StageGraph.Proofs.Calls.Once

/-! Who waits, and for what.

Strides are made of deeds or of a turn (`Stride.parts`). Who waits for a result is in a queue (`Queued`), and until its
function is called a task finds nothing in its slot, unless its pipeline is over (`Blank`); for a slot is filled by its
task or by the end of its pipeline (`Deed.slot_cases`). An output that is looked for has all that was decided taken out
of it (`Tidy`), so one that a task waits for has not come when nobody can move (`Idle.no_output`). -/
namespace StageGraph.Machine

variable {m m' m₀ : Machine} {root k : Nat} {who : Option Nat}

/-! ### Queues -/

/-- A task is in a queue. -/
def Waiting (m : Machine) (k : Nat) : Prop := k ∈ m.ready ∨ k ∈ m.blocked

/-- Binding the inputs of a pipeline is filling slots of declared inputs. -/
theorem bindInputs_deeds {p : Nat} {i : Instance} (hi : m.instances[p]? = some i) (values : List Value) :
    Deeds none m (m.bindInputs i values) := by
  have hbound : ∀ e ∈ (i.bindings.map Prod.snd).zip values, ∃ name, (name, e.1) ∈ i.bindings := by
    intro e he
    obtain ⟨b, hb, hs⟩ := List.mem_map.mp (List.of_mem_zip he).1
    exact ⟨b.1, hs ▸ hb⟩
  unfold bindInputs
  generalize (i.bindings.map Prod.snd).zip values = entries at hbound ⊢
  induction entries generalizing m with
  | nil => exact .refl
  | cons entry rest ih =>
    obtain ⟨name, hname⟩ := hbound entry List.mem_cons_self
    have hslot : m.Bound entry.1 := ⟨p, i, name, isInstance_of_get hi, hname⟩
    refine .head (.fill (.bound hslot)) (ih (m := m.fill entry.1 (.ok entry.2)) hi fun e he => ?_)
    exact hbound e (List.mem_cons_of_mem _ he)

theorem wake_waiting (hk : m.Waiting k) : m.wake.Waiting k :=
  List.mem_append.mp ((wake_queue m).mem_iff.mpr (List.mem_append.mpr hk))

/-- A stride changes queues or the clock, and between that some deeds are done or a task has its turn. Nobody is lost
from the queues but the task whose turn it is. -/
theorem Stride.split (h : Stride root m m') : ∃ m₁ m₂, m.Still m₁ ∧ m₂.Still m' ∧
    (∀ j, m₂.Waiting j → m'.Waiting j) ∧ ((∀ j, m.Waiting j → m₁.Waiting j) ∧ Deeds none m₁ m₂ ∨
      ∃ k, m₁.clock = m.clock ∧ (∀ j, j ≠ k → m.Waiting j → m₁.Waiting j) ∧ m₂ = m₁.turn k) := by
  have hdeeds {m'' : Machine} (hdeeds : Deeds none m m'') : ∃ m₁ m₂, m.Still m₁ ∧ m₂.Still m'' ∧
      (∀ j, m₂.Waiting j → m''.Waiting j) ∧ ((∀ j, m.Waiting j → m₁.Waiting j) ∧ Deeds none m₁ m₂ ∨
        ∃ k, m₁.clock = m.clock ∧ (∀ j, j ≠ k → m.Waiting j → m₁.Waiting j) ∧ m₂ = m₁.turn k) :=
    ⟨m, m'', .refl m, .refl m'', fun _ => id, .inl ⟨fun _ => id, hdeeds⟩⟩
  cases h with
  | bind values hi => exact hdeeds (bindInputs_deeds hi values)
  | start => exact hdeeds (.single (.start root))
  | look goal =>
    have hfresh := refreshed_still m
    have hwakes : (m.refreshed.read goal).Still (m.looked goal) := ⟨rfl, rfl, rfl, rfl, rfl⟩
    exact ⟨m.refreshed, _, hfresh, hwakes, fun _ => wake_waiting, .inl ⟨fun _ => id, read_deeds goal⟩⟩
  | turn choose =>
    by_cases hready : m.ready = []
    · rw [advance_idle hready]
      exact hdeeds .refl
    · obtain ⟨k, rest, hperm, heq⟩ := advance_ready hready choose
      rw [heq]
      let m₁ : Machine := { m with ready := rest }
      refine ⟨m₁, m₁.turn k, ⟨rfl, rfl, rfl, rfl, rfl⟩, ⟨rfl, rfl, rfl, rfl, rfl⟩, fun _ => wake_waiting,
        .inr ⟨k, rfl, fun j hj hwaiting => ?_, rfl⟩⟩
      exact hwaiting.imp_left fun hready => (List.mem_cons.mp (hperm.symm.subset hready)).resolve_left hj
  | pass moment => exact ⟨m, m, .refl m, ⟨rfl, rfl, rfl, rfl, rfl⟩, fun _ => id, .inl ⟨fun _ => id, .refl⟩⟩
  | giveUp p => exact hdeeds (retire_deeds p)
  | spawn hspawn => exact hdeeds (spawn_deeds hspawn nofun)

/-- Where everybody is in order, a turn comes to what turns come to. -/
theorem Stride.parts (h : Stride root m m') (hsound : m.Sound) (howned : m.Owned none) : ∃ who m₁ m₂, m.Still m₁ ∧
    (∀ j, who ≠ some j → m.Waiting j → m₁.Waiting j) ∧
    (who = none ∧ Deeds none m₁ m₂ ∨ ∃ k, who = some k ∧ Turned k m₁ m₂) ∧ m₂.Still m' ∧
    ∀ j, m₂.Waiting j → m'.Waiting j := by
  obtain ⟨m₁, m₂, hbefore, hafter, hkept', ⟨hkept, hdeeds⟩ | ⟨k, -, hkept, rfl⟩⟩ := h.split
  · exact ⟨none, m₁, m₂, hbefore, fun j _ => hkept j, .inl ⟨rfl, hdeeds⟩, hafter, hkept'⟩
  · have howned₁ : m₁.Owned none := howned.alike hbefore.tasks hbefore.instances
    have hsound₁ : m₁.Sound :=
      (hsound.same hbefore.slot (by rw [hbefore.slots]) hbefore.tasks hbefore.instances hbefore.registry hbefore.log).sound
    have hfresh : m₁.Still m₁.refreshed := ⟨rfl, rfl, rfl, rfl, rfl⟩
    exact ⟨some k, m₁.refreshed, _, hbefore.trans hfresh, fun j hj => hkept j fun heq => hj (heq ▸ rfl),
      .inr ⟨k, rfl, howned₁.turn hsound₁ k⟩, hafter, hkept'⟩

/-! ### Slots -/

/-- What the end of a pipeline leaves behind in a slot. -/
def Left (m : Machine) (p : Nat) (o : Outcome) : Prop := (∃ f, o = .error f ∧ Lost f) ∧ m.Ended p

theorem Extends.left (he : m.Extends m') {p : Nat} {o : Outcome} (h : m.Left p o) : m'.Left p o := ⟨h.1, he.ended h.2⟩

theorem Deed.slot (h : Deed who m m') : (∀ s, m'.slot s = m.slot s) ∨ ∃ s o, m.Fills who s o ∧ m' = m.fill s o := by
  cases h with
  | take ht => exact .inl ht.slot
  | fill hfills => exact .inr ⟨_, _, hfills, rfl⟩
  | make => exact .inl (assembled_slot _ _ _)
  | start p => exact .inl (start_slot p)
  | _ => exact .inl fun _ => rfl

/-- The slot of a task holds what the end of its pipeline left behind. -/
def LeftIn (m : Machine) (t : Task) (o : Outcome) : Prop := ∃ p, t.pipeline = some p ∧ m.Left p o

/-- A task whose turn it is not has nothing new in its slot, unless its pipeline is over. -/
theorem Deed.slot_left (h : Deed who m m') (hstaffed : m.Staffed) {t : Task} (ht : m.IsTask k t) (hk : who ≠ some k)
    {o : Outcome} (ho : m'.slot t.slot = some o) : m.slot t.slot = some o ∨ m'.LeftIn t o := by
  rcases h.slot with hsame | ⟨s, o', hfills, rfl⟩
  · exact .inl ((hsame _).symm.trans ho)
  · rcases slot_of_fill ho with hold | ⟨rfl, rfl⟩
    · exact .inl hold
    · right
      generalize hs : t.slot = s at hfills
      cases hfills with
      | result hwho ht' => exact absurd (hstaffed.alone ht ht' hs ▸ hwho) hk
      | bound hbound => exact absurd (hs ▸ hbound) (hstaffed.unbound ht)
      | @lost q _ i cause hi hover hmem =>
        have hlost : Lost ⟨cause, none⟩ := ⟨rfl, abandoned_ofEnd hmem⟩
        unfold Instance.abandoned at hmem
        rcases List.mem_append.mp hmem with hstage | hinput
        · obtain ⟨⟨name, s'⟩, hname, heq⟩ := List.mem_map.mp hstage
          cases heq
          obtain ⟨k', t', ht', hp', hs'⟩ := hstaffed.stage (isInstance_of_get hi) hname
          obtain rfl := hstaffed.alone ht ht' (hs.trans hs'.symm)
          obtain ⟨phase, rfl⟩ := ht.eq ht'
          exact ⟨q, hp', ⟨_, rfl, hlost⟩, i, hi, hover⟩
        · obtain ⟨⟨name, s'⟩, hname, heq⟩ := List.mem_map.mp hinput
          cases heq
          exact absurd ⟨q, i, name, isInstance_of_get hi, hs ▸ hname⟩ (hstaffed.unbound ht)

theorem Deed.slot_cases (h : Deed who m m') (hstaffed : m.Staffed) {t : Task} {p : Nat} (ht : m.IsTask k t)
    (hp : t.pipeline = some p) (hk : who ≠ some k) {o : Outcome} (ho : m'.slot t.slot = some o) :
    m.slot t.slot = some o ∨ m'.Left p o := by
  refine (h.slot_left hstaffed ht hk ho).imp id fun ⟨q, hq, hleft⟩ => ?_
  obtain rfl := Option.some.inj (hp.symm.trans hq)
  exact hleft

/-! ### Tasks -/

theorem Deed.waiting (h : Deed who m m') (hk : m.Waiting k) : m'.Waiting k := by
  cases h with
  | take ht =>
    obtain ⟨slots, room, rfl, -⟩ := ht.rest
    exact hk
  | start p =>
    unfold Machine.start
    split
    · exact hk
    · exact hk.imp_left (List.mem_append_left _)
  | _ => exact hk

/-- A task after a deed: as it was, over with its pipeline, or new. -/
theorem Deed.task (h : Deed who m m') {t : Task} (ht : m'.tasks[k]? = some t) : m.tasks[k]? = some t ∨
    (m.IsTask k t ∧ t.phase = .finished ∧ ∃ p, t.pipeline = some p ∧ m'.Ended p) ∨
      m.tasks[k]? = none ∧ m'.slot t.slot = none ∧ ∃ args positional, t.phase = .unstarted args positional := by
  cases h.outline with
  | same htasks =>
    rw [htasks] at ht
    exact .inl ht
  | ends p htasks hsame =>
    rw [htasks, halted_tasks_getElem?] at ht
    obtain ⟨before, hbefore, rfl⟩ := Option.map_eq_some_iff.mp ht
    split
    · next hover =>
      obtain ⟨q, hq, hends⟩ := (Option.any_eq_true ..).mp hover
      obtain ⟨i, hi, hp⟩ := endsWith_iff.mp hends
      exact .inr (.inl ⟨⟨before.phase, hbefore⟩, rfl, q, hq, (hsame.ended q).mpr ⟨_, halted_over hi hp, rfl⟩⟩)
    · exact .inl hbefore
  | makes _ _ _ _ heq =>
    subst heq
    rcases assembled_tasks_getElem? ht with hold | ⟨n, s, f, rfl, -, rfl⟩
    · exact .inl hold
    · refine .inr (.inr ⟨Array.getElem?_eq_none (Nat.le_add_right _ _), ?_, _, _, rfl⟩)
      have hnone : m.slots[m.slots.size + n]? = none := Array.getElem?_eq_none (Nat.le_add_right _ _)
      rw [assembled_slot, slot_eq]
      show (m.slots[m.slots.size + n]?).bind _ = none
      rw [hnone]
      rfl

/-- Who waits for a result is in a queue, but for a task that is at work. -/
structure Queued (who : Option Nat) (m : Machine) : Prop where
  waits {k : Nat} {t : Task} {result : Progress Awaited} : m.tasks[k]? = some t → who ≠ some k →
    t.phase = .settling result → m.Waiting k

/-- Whose function is still to be called finds nothing in its slot unless its pipeline is over, but for a task that is
at work. -/
structure Blank (who : Option Nat) (m : Machine) : Prop where
  left {k p : Nat} {t : Task} {o : Outcome} : m.tasks[k]? = some t → who ≠ some k → t.phase.preparing = true →
    t.pipeline = some p → m.slot t.slot = some o → m.Left p o

theorem Queued.deeds (h : m.Queued who) (hdeeds : Deeds who m m') : m'.Queued who := by
  refine hdeeds.keeps (P := Queued who) (fun hdeed hm => ⟨fun ht hk hphase => ?_⟩) h
  rcases hdeed.task ht with hold | ⟨-, hover, -⟩ | ⟨-, -, _, _, hnew⟩
  · exact hdeed.waiting (hm.waits hold hk hphase)
  · cases hover.symm.trans hphase
  · cases hnew.symm.trans hphase

theorem Blank.still (h : m.Blank who) (hstill : m.Still m') : m'.Blank who := by
  refine ⟨fun ht hk hphase hp ho => hstill.extends'.left ?_⟩
  rw [hstill.tasks] at ht
  rw [hstill.slot] at ho
  exact h.left ht hk hphase hp ho

theorem Blank.deed (h : m.Blank who) (hstaffed : m.Staffed) (hdeed : Deed who m m') : m'.Blank who := by
  refine ⟨fun ht hk hphase hp ho => ?_⟩
  rcases hdeed.task ht with hold | ⟨-, hover, -⟩ | ⟨-, hempty, -⟩
  · rcases hdeed.slot_cases hstaffed (isTask_of_get hold) hp hk ho with hbefore | hleft
    · exact hdeed.extends'.left (h.left hold hk hphase hp hbefore)
    · exact hleft
  · rw [hover] at hphase
    cases hphase
  · cases hempty.symm.trans ho

theorem Blank.deeds (h : m.Blank who) (hstaffed : m.Staffed) (hdeeds : Deeds who m m') : m'.Blank who :=
  (hdeeds.keeps (P := fun m => m.Staffed ∧ m.Blank who) (fun hdeed hm => ⟨hm.1.deed hdeed, hm.2.deed hm.1 hdeed⟩)
    ⟨hstaffed, h⟩).2

/-! ### Turns -/

/-- Who is put aside to wait is in a queue. -/
theorem Queued.closed {phase : Phase} (h : m.Queued (some k)) (hclosed : Closed k m phase m') : m'.Queued none := by
  have hkeeps {j : Nat} (hj : m.Waiting j) : m'.Waiting j := by
    cases hclosed with
    | park => exact hj.imp_right (List.mem_append_left _)
    | _ => exact hj
  refine ⟨fun {j t result} ht _ hphase => ?_⟩
  rw [hclosed.tasks] at ht
  rcases setPhase_cases ht with ⟨rfl, before, -, rfl⟩ | ⟨hkj, hold⟩
  · cases hclosed with
    | park => exact .inr (List.mem_append_right _ (List.mem_singleton_self _))
    | _ => cases hphase
  · exact hkeeps (h.waits hold (fun heq => hkj (Option.some.inj heq)) hphase)

theorem Blank.closed {phase : Phase} (h : m.Blank (some k)) (hclosed : Closed k m phase m')
    (hk : ∀ {t : Task} {p : Nat} {o : Outcome}, m.IsTask k t → phase.preparing = true → t.pipeline = some p →
      m.slot t.slot = some o → m.Left p o) : m'.Blank none := by
  refine ⟨fun {j p t o} ht _ hphase hp ho => ?_⟩
  rw [hclosed.still.slot, setPhase_slot] at ho
  refine hclosed.extends'.left ?_
  rw [hclosed.tasks] at ht
  rcases setPhase_cases ht with ⟨rfl, before, hbefore, rfl⟩ | ⟨hkj, hold⟩
  · exact hk ⟨before.phase, hbefore⟩ hphase hp ho
  · exact h.left hold (fun heq => hkj (Option.some.inj heq)) hphase hp ho

/-- **A turn leaves nobody out who waits.** -/
theorem Turned.queued (h : Turned k m m') (hm : m.Queued (some k)) : m'.Queued none := by
  have hworked {m₁ m₂ : Machine} {t : Task} (hm₁ : m₁.Queued (some k)) : Worked k t m₁ m₂ → m₂.Queued none
    | ⟨_, _, hdeeds, _, _, hclosed⟩ => (hm₁.deeds hdeeds).closed hclosed
  have htake {m₁ : Machine} (htaken : Taken m m₁) : m₁.Queued (some k) := hm.deeds (.single (.take htaken))
  cases h with
  | idle hover =>
    refine ⟨fun {j t result} ht _ hphase => ?_⟩
    by_cases hkj : k = j
    · subst hkj
      rcases hover t ht with hhanging | hfinished
      · cases hhanging.symm.trans hphase
      · cases hfinished.symm.trans hphase
    · exact hm.waits ht (fun heq => hkj (Option.some.inj heq)) hphase
  | waits _ _ hlook => exact (htake (taken_of_look hlook)).closed (.park _)
  | works _ _ hwork => exact hworked hm hwork
  | @calls t _ _ _ _ _ bound m₁ _ _ _ _ _ hlook _ _ _ hwork =>
    have hnoted : (m₁.noted k t bound).Queued (some k) := ⟨(htake (taken_of_look hlook)).waits⟩
    exact hworked hnoted hwork

/-- **A turn fills no slot before the call**, but one whose pipeline is over. -/
theorem Turned.blank (h : Turned k m m') (hstaffed : m.Staffed) (hm : m.Blank none) : m'.Blank none := by
  have hbusy : m.Blank (some k) := ⟨fun ht _ => hm.left ht nofun⟩
  have hworked {m₁ m₂ : Machine} {t : Task} (hstaffed : m₁.Staffed) (hm₁ : m₁.Blank (some k)) :
      Worked k t m₁ m₂ → m₂.Blank none
    | ⟨_, _, hdeeds, hcalled, _, hclosed⟩ => by
      refine (hm₁.deeds hstaffed hdeeds).closed hclosed fun _ hphase => ?_
      rw [hcalled] at hphase
      cases hphase
  cases h with
  | idle => exact hm
  | @waits t names args args' m₁ ht hprepared hlook =>
    have htaken := taken_of_look hlook
    have htake : Deed (some k) m m₁ := .take htaken
    refine (hbusy.deed hstaffed htake).closed (.park _) fun {t' p o} ht' _ hp ho => ?_
    obtain ⟨phase, rfl⟩ := (htake.extends'.isTask (isTask_of_get ht)).eq ht'
    rw [htaken.slot] at ho
    exact htake.extends'.left (hm.left ht nofun (preparing_of_prepared? hprepared) hp ho)
  | works _ _ hwork => exact hworked hstaffed hbusy hwork
  | @calls t p names args args' values bound m₁ _ _ _ _ _ hlook _ _ _ hwork =>
    have htake : Deed (some k) m m₁ := .take (taken_of_look hlook)
    refine hworked ((hstaffed.deed htake).noted k t bound) ⟨fun hj hk hphase hp ho => ?_⟩ hwork
    exact (m₁.noted_extends k t bound).left ((hbusy.deed hstaffed htake).left hj hk hphase hp ho)

/-! ### Outputs -/

/-- What the output of an instance comes to, by what is there. -/
def outputNow? (m : Machine) (p : Nat) : Poll Value :=
  (m.instances[p]?).bind fun i =>
    match i.output with
    | .known o => some o
    | .linked r => (r.look (m := Id) m.linked).outcome?
    | .unread => ((m.outputLinks p i).look (m := Id) m.linked).outcome?

theorem outputNow?_of_standing {p : Nat} {o : Outcome} (h : m.standing (.output p) = some o) :
    m.outputNow? p = some o := by
  unfold outputNow?
  cases hi : m.instances[p]? with
  | none => simp [standing, hi] at h
  | some i =>
    cases ho : i.output with
    | known o' =>
      simp only [standing, hi, Option.map_some, ho] at h
      rw [Option.bind_some, ho]
      exact h
    | _ => simp [standing, hi, ho] at h

/-- In an output that is looked for nothing is left standing that is decided. -/
def Tidy (m : Machine) : Prop :=
  ∀ (p : Nat) (r : Progress Link), (m.instances[p]?).map Instance.output = some (.linked r) →
    r.Sifted ∧ r.outcome? = none

/-- What is new of an output after a deed. -/
inductive Renews (m : Machine) (p : Nat) : Output → Prop
  | unread : Renews m p .unread
  | linked {r : Progress Link} : (m.Attributes p → Output.Attributed (.linked r)) → r.Sifted → r.outcome? = none →
    Renews m p (.linked r)
  | known {o : Outcome} : (m.Attributes p → Output.Attributed (.known o)) → Renews m p (.known o)

theorem assembled_output {spec : Spec} {place : Placement} {stages : List (Stage × Function)} {p : Nat} {output : Output}
    (h : ((m.assembled spec place stages).instances[p]?).map Instance.output = some output) :
    (m.instances[p]?).map Instance.output = some output ∨ output = .unread := by
  rw [assembled_instances] at h
  split at h
  · exact .inr (Option.some.inj h).symm
  · exact .inl h

theorem Deed.output_cases (h : Deed who m m') {p : Nat} {output : Output}
    (ho : (m'.instances[p]?).map Instance.output = some output) :
    (m.instances[p]?).map Instance.output = some output ∨ m.Renews p output := by
  have hset {q : Nat} {new : Output} (hnew : q = p → m.Renews p new)
      (hset : ((m.setOutput q new).instances[p]?).map Instance.output = some output) :
      (m.instances[p]?).map Instance.output = some output ∨ m.Renews p output := by
    rw [setOutput_getElem?] at hset
    split at hset
    · next hq =>
      rw [Option.map_map] at hset
      obtain ⟨i, -, rfl⟩ := Option.map_eq_some_iff.mp hset
      exact .inr (hnew hq)
    · exact .inl hset
  cases h with
  | take ht =>
    rw [ht.instances] at ho
    exact .inl ho
  | link _ hattributed hsifted hopen =>
    refine hset (fun hq => ?_) ho
    subst hq
    exact .linked hattributed hsifted hopen
  | resolve o _ hattributed =>
    rw [halted_outputs] at ho
    refine hset (fun hq => ?_) ho
    subst hq
    exact .known hattributed
  | halt q =>
    rw [halted_outputs] at ho
    exact .inl ho
  | fill => exact .inl ho
  | make =>
    refine (assembled_output ho).imp_right fun hunread => ?_
    rw [hunread]
    exact .unread
  | start q =>
    rw [start_output] at ho
    exact .inl ho

theorem Tidy.assembled (h : m.Tidy) (spec : Spec) (place : Placement) (stages : List (Stage × Function)) :
    (m.assembled spec place stages).Tidy := by
  intro p r hr
  rcases assembled_output hr with hsame | hunread
  · exact h p r hsame
  · cases hunread

theorem Tidy.deed (hdeed : Deed who m m') (h : m.Tidy) : m'.Tidy := by
  intro p r hr
  rcases hdeed.output_cases hr with hsame | hnew
  · exact h p r hsame
  · cases hnew with
    | linked _ hsifted hopen => exact ⟨hsifted, hopen⟩

/-- Whatever outputs fail with stays attributed. -/
theorem Attributes.deed (hdeed : Deed who m m') {p : Nat} (h : m.Attributes p) : m'.Attributes p := by
  intro output ho
  rcases hdeed.output_cases ho with hsame | hnew
  · exact h output hsame
  · cases hnew with
    | unread => exact trivial
    | linked hattributed => exact hattributed h
    | known hattributed => exact hattributed h

theorem Attributes.assembled {spec : Spec} {place : Placement} {stages : List (Stage × Function)} {p : Nat}
    (h : m.Attributes p) : (m.assembled spec place stages).Attributes p := by
  intro output ho
  rcases assembled_output ho with hsame | hunread
  · exact h output hsame
  · rw [hunread]
    exact trivial

/-- When nobody can move, whoever waits has no cause to look. -/
theorem Idle.unstirred (h : m.Idle) (hwaiting : m.Waiting k) : m.stirred k = false := by
  refine h.2 k (hwaiting.resolve_left fun hready => ?_)
  rw [h.1] at hready
  cases hready

/-- An output that gives no cause to look has not come. -/
theorem Tidy.no_output (htidy : m.Tidy) {c : Nat} (hstill : m.stirs (.output c) = false) : m.outputNow? c = none := by
  simp only [stirs] at hstill
  split at hstill
  · next r hr =>
    obtain ⟨i, hi, ho⟩ := Option.map_eq_some_iff.mp hr
    obtain ⟨hsifted, hopen⟩ := htidy c r hr
    have hnone : ∀ l ∈ r.awaited, m.linked l = none := fun l hl =>
      Option.not_isSome_iff_eq_none.mp (List.any_eq_false.mp hstill l hl)
    unfold outputNow?
    rw [hi, Option.bind_some, ho]
    show (r.look (m := Id) m.linked).outcome? = none
    rw [Progress.look_sifted_eq r hsifted hnone, hopen]
  · cases hstill

/-- **When nobody can move, an output that is waited for has not come.** -/
theorem Idle.no_output (h : m.Idle) (hqueued : m.Queued none) (htidy : m.Tidy) {t : Task} {result : Progress Awaited}
    (ht : m.tasks[k]? = some t) (hphase : t.phase = .settling result) {c : Nat} (hc : .output c ∈ result.awaited) :
    m.outputNow? c = none := by
  have hnot := h.unstirred (hqueued.waits ht nofun hphase)
  unfold stirred at hnot
  rw [ht, Option.map_some, hphase] at hnot
  exact htidy.no_output (Bool.eq_false_iff.mpr (List.any_eq_false.mp hnot _ hc))

end StageGraph.Machine
