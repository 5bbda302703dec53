import StageGraph.Proofs.Invocation.Acts

/-! What a task notices of what others do.

While it is somebody else's turn, or nobody's, a task is left as it is unless its pipeline ends: its function is not
called, it starts no children, and nothing comes into its slot (`Beside`). So it is with every deed (`Deed.beside`) and
with every turn of another task (`turn_beside`); and whoever is to have a turn stays in the queue (`Deed.lined`). -/
namespace StageGraph.Machine

variable {m m' m'' : Machine} {j k : Nat} {t : Task} {who : Option Nat}

/-! ### Calls and children -/

/-- The calls of the function of a task, in order. -/
def callsOf (m : Machine) (k : Nat) : List Received := m.log.toList.filter fun call => call.task == k

/-- Who started the instances, in order. -/
def starters (m : Machine) : List (Option Nat) := m.instances.toList.map Instance.starter

/-- The children that a task has started, in order. -/
def started (m : Machine) (k : Nat) : List Nat :=
  (List.range m.starters.length).filter fun c => m.starters[c]? == some (some k)

theorem starters_getElem? (m : Machine) (c : Nat) : m.starters[c]? = (m.instances[c]?).map Instance.starter := by
  simp [starters]

theorem mem_started {c : Nat} : c ∈ m.started k ↔ ∃ i, m.instances[c]? = some i ∧ i.starter = some k := by
  have hlt : m.starters[c]? = some (some k) → c < m.starters.length := fun h => (List.getElem?_eq_some_iff.mp h).1
  have hmem : c ∈ m.started k ↔ m.starters[c]? = some (some k) := by simpa [started] using hlt
  rw [hmem, starters_getElem?, Option.map_eq_some_iff]

theorem started_eq (h : m'.starters = m.starters) : m'.started k = m.started k := by
  unfold started
  rw [h]

/-- One more instance. -/
theorem started_push {starter : Option Nat} (h : m'.starters = m.starters ++ [starter]) :
    m'.started k = m.started k ++ if starter = some k then [m.instances.size] else [] := by
  have hsize : m.starters.length = m.instances.size := by simp [starters]
  have hbefore : (List.range m.starters.length).filter (fun c => (m.starters ++ [starter])[c]? == some (some k)) =
      m.started k :=
    List.filter_congr fun c hc => by rw [List.getElem?_append_left (List.mem_range.mp hc)]
  unfold started at hbefore ⊢
  rw [h, List.length_append, List.length_singleton, List.range_succ, List.filter_append, hbefore]
  by_cases hk : starter = some k <;> simp [hk, hsize]

theorem SameInstances.starters (h : SameInstances m m') : m'.starters = m.starters := by
  refine List.ext_getElem? fun c => ?_
  have hstarter (i : Option Instance) : i.map Instance.starter = (i.map Instance.lasting).map Instance.starter := by
    cases i <;> rfl
  rw [starters_getElem?, starters_getElem?, hstarter, hstarter (m.instances[c]?), h c]

theorem halted_starters (p : Nat) : (m.halted p).starters = m.starters := by
  refine List.ext_getElem? fun c => ?_
  rw [starters_getElem?, starters_getElem?, halted_getElem?, Option.map_map]
  congr 1
  funext i
  simp only [Function.comp_apply]
  split <;> rfl

theorem assembled_starters (spec : Spec) (place : Placement) (stages : List (Stage × Function)) :
    (m.assembled spec place stages).starters = m.starters ++ [place.starter] := by
  simp [starters, assembled, instanceOf]

theorem noted_callsOf (t : Task) (args : Fields) : (m.noted j t args).callsOf k =
    m.callsOf k ++ if j = k then [⟨k, t.function.name, t.function.recorded, args⟩] else [] := by
  by_cases hjk : j = k <;> simp [callsOf, noted, List.filter_append, hjk]

/-! ### Pipelines -/

/-- The pipeline of a task, if it has one, lives. -/
def Housed (m : Machine) (t : Task) : Prop := ∀ p, t.pipeline = some p → m.alive p = true

/-- The pipeline of a task is over. -/
def Orphaned (m : Machine) (t : Task) : Prop := ∃ p, t.pipeline = some p ∧ m.Ended p

theorem Housed.not_orphaned (h : m.Housed t) : ¬m.Orphaned t := by
  rintro ⟨p, hp, hover⟩
  have halive := h p hp
  simp [not_alive_of_ended hover] at halive

theorem Extends.orphaned (he : m.Extends m') (h : m.Orphaned t) : m'.Orphaned t := h.imp fun _ hp => ⟨hp.1, he.ended hp.2⟩

theorem Extends.leftIn (he : m.Extends m') {o : Outcome} (h : m.LeftIn t o) : m'.LeftIn t o :=
  h.imp fun _ hp => ⟨hp.1, he.left hp.2⟩

theorem LeftIn.orphaned {o : Outcome} (h : m.LeftIn t o) : m.Orphaned t := h.imp fun _ hp => ⟨hp.1, hp.2.2⟩

/-! ### What others do -/

/-- A task goes on as it was, or it is over with its pipeline. -/
def Unmoved (k : Nat) (t : Task) (m m' : Machine) : Prop :=
  (m'.tasks[k]? = some t ∧ (m.Housed t → m'.Housed t)) ∨
    (m'.tasks[k]? = some { t with phase := .finished } ∧ m'.Orphaned t)

/-- Nothing is done for a task: its function is not called, it starts no child, and nothing comes into its slot but what
the end of its pipeline leaves there. -/
structure Spared (k : Nat) (t : Task) (m m' : Machine) : Prop where
  extends' : m.Extends m'
  slot {o : Outcome} : m'.slot t.slot = some o → m.slot t.slot = some o ∨ m'.LeftIn t o
  calls : m'.callsOf k = m.callsOf k
  children : m'.started k = m.started k

/-- What a task notices while others are at work. -/
structure Beside (k : Nat) (t : Task) (m m' : Machine) : Prop extends Spared k t m m' where
  unmoved {t' : Task} : m.tasks[k]? = some t' → Unmoved k t' m m'

theorem Spared.trans (h : Spared k t m m') (h' : Spared k t m' m'') : Spared k t m m'' := by
  refine ⟨h.extends'.trans h'.extends', fun ho => ?_, h'.calls.trans h.calls, h'.children.trans h.children⟩
  rcases h'.slot ho with hold | hleft
  · exact (h.slot hold).imp id h'.extends'.leftIn
  · exact .inr hleft

theorem Beside.refl (k : Nat) (t : Task) (m : Machine) : Beside k t m m :=
  ⟨⟨Extends.refl m, .inl, rfl, rfl⟩, fun ht => .inl ⟨ht, id⟩⟩

theorem Beside.trans (h : Beside k t m m') (h' : Beside k t m' m'') : Beside k t m m'' := by
  refine ⟨h.toSpared.trans h'.toSpared, fun ht => ?_⟩
  rcases h.unmoved ht with ⟨hsame, hhoused⟩ | ⟨hfinished, hover⟩
  · exact (h'.unmoved hsame).imp (fun ⟨hget, hhoused'⟩ => ⟨hget, hhoused' ∘ hhoused⟩) id
  · rcases h'.unmoved hfinished with ⟨hsame, -⟩ | ⟨hsame, -⟩
    · exact .inr ⟨hsame, h'.extends'.orphaned hover⟩
    · exact .inr ⟨hsame, h'.extends'.orphaned hover⟩

theorem Still.housed (h : m.Still m') (ht : m.Housed t) : m'.Housed t := by
  intro p hp
  unfold alive
  rw [h.instances]
  exact ht p hp

/-- Nothing is different that a task could notice. -/
theorem Spared.still (h : m.Still m') : Spared k t m m' := by
  refine ⟨h.extends', fun ho => .inl (h.slot _ ▸ ho), ?_, started_eq ?_⟩
  · unfold callsOf
    rw [h.log]
  · unfold starters
    rw [h.instances]

theorem Beside.still (h : m.Still m') : Beside k t m m' := ⟨.still h, fun ht => .inl ⟨h.tasks ▸ ht, h.housed⟩⟩

/-- A deed leaves a task as it is, or ends it with its pipeline. -/
theorem Deed.unmoved (h : Deed who m m') (ht : m.tasks[k]? = some t) : Unmoved k t m m' := by
  cases h.outline with
  | same htasks hsame => exact .inl ⟨htasks ▸ ht, fun hhoused p hp => (hsame.alive p).trans (hhoused p hp)⟩
  | ends p htasks hsame =>
    have hget := halted_tasks_getElem? (m := m) p k
    rw [ht, Option.map_some, ← htasks] at hget
    split at hget
    · next hends =>
      obtain ⟨q, hq, hends⟩ := (Option.any_eq_true ..).mp hends
      obtain ⟨i, hi, hp⟩ := endsWith_iff.mp hends
      exact .inr ⟨hget, q, hq, (hsame.ended q).mpr ⟨_, halted_over hi hp, rfl⟩⟩
    · next hends =>
      refine .inl ⟨hget, fun hhoused q hq => ?_⟩
      obtain ⟨i, hi, halive⟩ := alive_iff.mp (hhoused q hq)
      have hkept : p ∉ i.keepers := fun hmem => hends (by simpa [hq] using endsWith_iff.mpr ⟨i, hi, hmem⟩)
      exact (hsame.alive q).trans (halted_alive.mpr ⟨i, hi, halive, hkept⟩)
  | makes _ _ _ _ heq =>
    subst heq
    refine .inl ⟨?_, fun hhoused q hq => assembled_alive (hhoused q hq)⟩
    show (m.tasks ++ _)[k]? = some t
    rw [Array.getElem?_append_left (Array.getElem?_eq_some_iff.mp ht).1, ht]

theorem Deed.children (h : Deed who m m') (hk : who ≠ some k) : m'.started k = m.started k := by
  cases h.outline with
  | same _ hsame => exact started_eq hsame.starters
  | ends p _ hsame => exact started_eq (hsame.starters.trans (halted_starters p))
  | @makes p i starter spec v stages _ _ _ hstarter heq =>
    subst heq
    have hother : starter ≠ some k := fun hs => hk (hstarter k hs).1
    have hpush := started_push (k := k) (assembled_starters (m := m) spec (.under i starter v) stages)
    simpa [Placement.under, hother] using hpush

/-- **Deeds of others go by.** -/
theorem Deed.beside (h : Deed who m m') (hstaffed : m.Staffed) (ht : m.IsTask k t) (hk : who ≠ some k) :
    Beside k t m m' :=
  ⟨⟨h.extends', h.slot_left hstaffed ht hk, by unfold callsOf; rw [h.log], h.children hk⟩, h.unmoved⟩

theorem Deeds.beside (h : Deeds who m m') (hstaffed : m.Staffed) (ht : m.IsTask k t) (hk : who ≠ some k) :
    Beside k t m m' := by
  have hkeeps : m'.Staffed ∧ Beside k t m m' :=
    h.keeps (P := fun m₁ => m₁.Staffed ∧ Beside k t m m₁)
      (fun hdeed hm => ⟨hm.1.deed hdeed, hm.2.trans (hdeed.beside hm.1 (hm.2.extends'.isTask ht) hk)⟩)
      ⟨hstaffed, Beside.refl k t m⟩
  exact hkeeps.2

theorem Act.staffed (h : Act j m m') (hstaffed : m.Staffed) : m'.Staffed := by
  cases h with
  | deed hdeed => exact hstaffed.deed hdeed
  | call args _ => exact hstaffed.noted j _ args

theorem Acts.staffed (h : Acts j m m') (hstaffed : m.Staffed) : m'.Staffed := by
  induction h with
  | refl => exact hstaffed
  | tail _ hlast ih => exact hlast.staffed ih

theorem Act.beside (h : Act j m m') (hstaffed : m.Staffed) (ht : m.IsTask k t) (hj : j ≠ k) : Beside k t m m' := by
  cases h with
  | deed hdeed => exact hdeed.beside hstaffed ht fun heq => hj (Option.some.inj heq)
  | @call t' args _ =>
    refine ⟨⟨m.noted_extends j t' args, .inl, ?_, rfl⟩, fun ht => .inl ⟨ht, id⟩⟩
    simp [noted_callsOf, hj]

theorem Acts.beside (h : Acts j m m') (hstaffed : m.Staffed) (ht : m.IsTask k t) (hj : j ≠ k) : Beside k t m m' := by
  induction h with
  | refl => exact Beside.refl k t m
  | tail hacts hlast ih => exact ih.trans (hlast.beside (Acts.staffed hacts hstaffed) (ih.extends'.isTask ht) hj)

theorem Closed.staffed {phase : Phase} (h : Closed j m phase m') (hstaffed : m.Staffed) : m'.Staffed :=
  (hstaffed.setPhase j phase).still h.still

/-- Setting a phase, one's own as well, is nothing that is done for a task. -/
theorem Closed.spared {phase : Phase} (h : Closed j m phase m') : Spared k t m m' := by
  have hset : Spared k t m (m.setPhase j phase) := ⟨m.setPhase_extends j phase, .inl, rfl, rfl⟩
  exact hset.trans (.still h.still)

theorem Closed.housed {phase : Phase} (h : Closed j m phase m') (ht : m.Housed t) : m'.Housed t :=
  h.still.housed (m := m.setPhase j phase) ht

theorem Closed.beside {phase : Phase} (h : Closed j m phase m') (hj : j ≠ k) : Beside k t m m' := by
  refine ⟨h.spared, fun ht => .inl ⟨?_, h.housed⟩⟩
  rw [h.tasks, setPhase_getElem?, if_neg hj, ht]

/-- **Turns of others go by.** -/
theorem turn_beside (hstaffed : m.Staffed) (ht : m.IsTask k t) (hj : j ≠ k) : Beside k t m (m.turn j) := by
  have hfresh := refreshed_still m
  refine (Beside.still hfresh).trans ?_
  rcases turn_ends m j with ⟨m₁, phase, hacts, -, hclosed⟩ | ⟨heq, -⟩
  · exact (hacts.beside (hstaffed.still hfresh) ht hj).trans (hclosed.beside hj)
  · rw [heq]
    exact Beside.refl k t _

/-! ### Queues -/

/-- A task of a pipeline that has not been started. -/
def ToStart (m : Machine) (k : Nat) (t : Task) : Prop :=
  ∃ p i, t.pipeline = some p ∧ m.instances[p]? = some i ∧ k ∈ i.jobs

/-- A task is in a queue, or it will be when its pipeline is started. -/
def Lined (m : Machine) (k : Nat) (t : Task) : Prop := m.Waiting k ∨ m.ToStart k t

theorem start_lined (p : Nat) (h : m.ToStart k t) : (m.start p).Lined k t := by
  obtain ⟨q, i, hq, hi, hk⟩ := h
  by_cases hpq : p = q
  · subst hpq
    refine .inl (.inl ?_)
    simp [start, hi, hk]
  · refine .inr ⟨q, i, hq, ?_, hk⟩
    unfold start
    split
    · exact hi
    · simp [Array.getElem?_modify, hpq, hi]

/-- Who is to have a turn stays in the queue, unless it is over. -/
theorem Deed.lined (h : Deed who m m') {phase : Phase} (ht : m'.tasks[k]? = some { t with phase := phase })
    (hphase : phase ≠ .finished) (hlined : m.Lined k t) : m'.Lined k t := by
  rcases hlined with hwaiting | htostart
  · exact .inl (h.waiting hwaiting)
  · have hkeeps {m₁ : Machine} (q : Nat) (ht₁ : (m₁.halted q).tasks[k]? = some { t with phase := phase })
        (hto : m₁.ToStart k t) : (m₁.halted q).ToStart k t := by
      obtain ⟨p, i, hp, hi, hk⟩ := hto
      refine ⟨p, i, hp, ?_, hk⟩
      rw [halted_getElem?, hi, Option.map_some, if_neg]
      intro hmem
      rw [halted_tasks_getElem?] at ht₁
      obtain ⟨before, -, hbefore⟩ := Option.map_eq_some_iff.mp ht₁
      have hends : m₁.endsWith q p = true := endsWith_iff.mpr ⟨i, hi, List.contains_iff_mem.mp hmem⟩
      split at hbefore
      · exact hphase (congrArg Task.phase hbefore).symm
      · next hnot =>
        subst hbefore
        exact hnot (by simpa [hp] using hends)
    have hset {m₁ : Machine} (q : Nat) (output : Output) (hto : m₁.ToStart k t) :
        (m₁.setOutput q output).ToStart k t := by
      obtain ⟨p, i, hp, hi, hk⟩ := hto
      refine ⟨p, if q = p then { i with output := output } else i, hp, ?_, by split <;> exact hk⟩
      rw [setOutput_getElem?, hi]
      split <;> rfl
    cases h with
    | take htaken =>
      obtain ⟨p, i, hp, hi, hk⟩ := htostart
      exact .inr ⟨p, i, hp, htaken.instances ▸ hi, hk⟩
    | link => exact .inr (hset _ _ htostart)
    | resolve o => exact .inr (hkeeps _ ht (hset _ _ htostart))
    | halt q => exact .inr (hkeeps q ht htostart)
    | fill => exact .inr htostart
    | make =>
      obtain ⟨p, i, hp, hi, hk⟩ := htostart
      refine .inr ⟨p, i, hp, ?_, hk⟩
      rw [assembled_instances, if_neg (Nat.ne_of_lt (Array.getElem?_eq_some_iff.mp hi).1), hi]
    | start q => exact start_lined q htostart

end StageGraph.Machine
