import StageGraph.Proofs.Lifetime.Turns
import StageGraph.Proofs.Scoping.Lexical

/-! What can be done with a pipeline, in parts.

Whatever is done with a pipeline that is built, is done by deeds or in the turn of a task (`Step.parts`); what comes
before and after only concerns queues and the clock (`Still`), or slots are filled from outside (`Supplied`). So what deeds and turns
keep holds in all that can be reached, and everybody is left in order (`Step.owned`). -/
namespace StageGraph.Machine

variable {m m' m₀ : Machine} {root : Nat}

/-- Nothing is different but queues, the clock and how much room there is. -/
structure Still (m m' : Machine) : Prop where
  slots : m'.slots = m.slots
  tasks : m'.tasks = m.tasks
  instances : m'.instances = m.instances
  log : m'.log = m.log
  registry : m'.registry = m.registry

/-- Nothing is different but that slots are filled, by whom does not matter. -/
structure Supplied (m m' : Machine) : Prop where
  extends' : m.Extends m'
  size : m'.slots.size = m.slots.size
  tasks : m'.tasks = m.tasks
  instances : m'.instances = m.instances
  log : m'.log = m.log

theorem Still.refl (m : Machine) : m.Still m := ⟨rfl, rfl, rfl, rfl, rfl⟩

theorem refreshed_still (m : Machine) : m.Still m.refreshed := ⟨rfl, rfl, rfl, rfl, rfl⟩

theorem Still.trans {m'' : Machine} (h : m.Still m') (h' : m'.Still m'') : m.Still m'' :=
  ⟨h'.slots.trans h.slots, h'.tasks.trans h.tasks, h'.instances.trans h.instances, h'.log.trans h.log,
    h'.registry.trans h.registry⟩

theorem Still.slot (h : m.Still m') (s : Nat) : m'.slot s = m.slot s := by
  unfold Machine.slot
  rw [h.slots]

theorem Still.extends' (h : m.Still m') : m.Extends m' := extends_same h.slot h.tasks h.instances h.registry

theorem Still.supplied (h : m.Still m') : m.Supplied m' := ⟨h.extends', by rw [h.slots], h.tasks, h.instances, h.log⟩

theorem Sound.supplied (h : m.Sound) (i : Instance) (values : List Value) : m.Supplied (m.bindInputs i values) := by
  have he := (h.bindInputs i values).extends'
  have hsize := m.bindInputs_size i values
  obtain ⟨slots, hbound⟩ := m.bindInputs_eq i values
  rw [hbound] at he hsize ⊢
  exact ⟨he, hsize, rfl, rfl, rfl⟩

/-- **What is done is done by deeds or in a turn**, but for slots that are filled from outside. -/
theorem Step.parts (hstep : Step root m m') (hsound : m.Sound) (howned : m.Owned none) : ∃ m₁ m₂, m.Still m₁ ∧
    (m₁.Supplied m₂ ∨ Deeds none m₁ m₂ ∨ ∃ k, Turned k m₁ m₂) ∧ m₂.Still m' := by
  cases hstep with
  | bind i values => exact ⟨_, _, .refl m, .inl (hsound.supplied i values), .refl _⟩
  | start => exact ⟨_, _, .refl m, .inr (.inl (.single (.start root))), .refl _⟩
  | look goal =>
    exact ⟨_, _, refreshed_still m, .inr (.inl (read_deeds goal)), ⟨rfl, rfl, rfl, rfl, rfl⟩⟩
  | turn choose =>
    rcases howned.advance hsound choose with heq | ⟨k, rest, m₁, -, hturned, heq⟩
    · rw [heq]
      exact ⟨_, _, .refl m, .inr (.inl .refl), .refl m⟩
    · rw [heq]
      have htakes : m.Still { m with ready := rest, room := intake } := ⟨rfl, rfl, rfl, rfl, rfl⟩
      exact ⟨_, _, htakes, .inr (.inr ⟨k, hturned⟩), ⟨rfl, rfl, rfl, rfl, rfl⟩⟩
  | pass moment => exact ⟨m, m, .refl m, .inr (.inl .refl), ⟨rfl, rfl, rfl, rfl, rfl⟩⟩
  | giveUp p => exact ⟨_, _, .refl m, .inr (.inl (retire_deeds p)), .refl _⟩
  | spawn hspawn => exact ⟨_, _, .refl m, .inr (.inl (spawn_deeds hspawn nofun)), .refl _⟩

/-! ### What is kept, step by step -/

section

variable {P : Machine → Prop} (hdeed : ∀ {who m m'}, Deed who m m' → P m → P m')
  (hsame : ∀ m m' : Machine, m'.instances = m.instances → P m → P m')
include hdeed hsame

theorem Worked.keeps {k : Nat} {t : Task} (h : Worked k t m m') (hm : P m) : P m' := by
  obtain ⟨m₁, phase, hdeeds, -, -, hclosed⟩ := h
  exact hsame m₁ m' hclosed.instances (hdeeds.keeps hdeed hm)

/-- What deeds keep of the pipelines is kept by turns. -/
theorem Turned.keeps {k : Nat} (h : Turned k m m') (hm : P m) : P m' := by
  have htake {m₁ : Machine} (htaken : Taken m m₁) : P m₁ := hdeed (.take htaken : Deed none m m₁) hm
  cases h with
  | idle => exact hm
  | @waits _ _ _ _ m₁ _ _ hlook => exact hsame m₁ _ rfl (htake (taken_of_look hlook))
  | works _ _ hworked => exact hworked.keeps hdeed hsame hm
  | @calls _ _ _ _ _ _ _ m₁ _ _ _ _ _ hlook _ _ _ hworked =>
    exact hworked.keeps hdeed hsame (hsame m₁ _ rfl (htake (taken_of_look hlook)))

/-- And so by whatever is done. -/
theorem Step.keeps (hstep : Step root m m') (hsound : m.Sound) (howned : m.Owned none) (hm : P m) : P m' := by
  obtain ⟨m₁, m₂, hbefore, hdone, hafter⟩ := hstep.parts hsound howned
  have hm₁ := hsame m m₁ hbefore.instances hm
  refine hsame m₂ m' hafter.instances ?_
  rcases hdone with hsupplied | hdeeds | ⟨k, hturned⟩
  · exact hsame m₁ m₂ hsupplied.instances hm₁
  · exact hdeeds.keeps hdeed hm₁
  · exact hturned.keeps hdeed hsame hm₁

end

/-! ### Everybody in order -/

/-- **Whatever is done, everybody is left in order.** -/
theorem Step.owned (hstep : Step root m m') (hsound : m.Sound) (h : m.Owned none) : m'.Owned none := by
  obtain ⟨m₁, m₂, hbefore, hdone, hafter⟩ := hstep.parts hsound h
  have hm₁ : m₁.Owned none := h.alike hbefore.tasks hbefore.instances
  have hm₂ : m₂.Owned none := by
    rcases hdone with hsupplied | hdeeds | ⟨k, hturned⟩
    · exact hm₁.alike hsupplied.tasks hsupplied.instances
    · exact hm₁.deeds hdeeds
    · exact hturned.owned hm₁
  exact hm₂.alike hafter.tasks hafter.instances

/-- A task that is put aside is set to its phase, and may wait in a queue. -/
theorem Closed.still {k : Nat} {phase : Phase} (h : Closed k m phase m') : (m.setPhase k phase).Still m' := by
  cases h <;> exact ⟨rfl, rfl, rfl, rfl, rfl⟩

theorem Closed.extends' {k : Nat} {phase : Phase} (h : Closed k m phase m') : m.Extends m' :=
  (m.setPhase_extends k phase).trans h.still.extends'

theorem Worked.extends' {k : Nat} {t : Task} (h : Worked k t m m') : m.Extends m' := by
  obtain ⟨m₁, phase, hdeeds, -, -, hclosed⟩ := h
  exact hdeeds.extends'.trans hclosed.extends'

theorem Turned.extends' {k : Nat} (h : Turned k m m') : m.Extends m' := by
  cases h with
  | idle => exact Extends.refl m
  | waits _ _ hlook => exact (taken_of_look hlook).extends'.trans (park_extends _ _)
  | works _ _ hworked => exact hworked.extends'
  | @calls t _ _ _ _ _ bound m₁ _ _ _ _ _ hlook _ _ _ hworked =>
    exact (taken_of_look hlook).extends'.trans ((m₁.noted_extends k t bound).trans hworked.extends')

theorem Step.extends' (hstep : Step root m m') (hsound : m.Sound) (h : m.Owned none) : m.Extends m' := by
  obtain ⟨m₁, m₂, hbefore, hdone, hafter⟩ := hstep.parts hsound h
  have hm₂ : m₁.Extends m₂ := hdone.elim Supplied.extends' fun hdone => hdone.elim Deeds.extends' fun ⟨_, hturned⟩ =>
    hturned.extends'
  exact hbefore.extends'.trans (hm₂.trans hafter.extends')

/-! ### Calls -/

theorem Worked.log {k : Nat} {t : Task} (h : Worked k t m m') : m'.log = m.log := by
  obtain ⟨m₁, phase, hdeeds, -, -, hclosed⟩ := h
  exact hclosed.still.log.trans hdeeds.log

theorem Taken.log (h : Taken m m') : m'.log = m.log := by
  obtain ⟨slots, room, rfl, -⟩ := h.rest
  rfl

theorem Taken.noted_log (h : Taken m m') (k : Nat) (t : Task) (args : Fields) :
    (m'.noted k t args).log = m.log.push ⟨k, t.function.name, t.function.recorded, args⟩ :=
  congrArg (Array.push · _) h.log

/-- A turn makes no call, or one, for a task whose pipeline lives. -/
theorem Turned.log {k : Nat} (h : Turned k m m') : m'.log = m.log ∨ ∃ t q args, m.tasks[k]? = some t ∧
    t.pipeline = some q ∧ m.alive q = true ∧
      m'.log = m.log.push ⟨k, t.function.name, t.function.recorded, args⟩ := by
  cases h with
  | idle => exact .inl rfl
  | waits _ _ hlook => exact .inl (taken_of_look hlook).log
  | works _ _ hworked => exact .inl hworked.log
  | @calls t q _ _ _ _ bound m₁ _ ht hq halive _ hlook _ _ _ hworked =>
    exact .inr ⟨t, q, bound, ht, hq, halive, hworked.log.trans ((taken_of_look hlook).noted_log k t bound)⟩

/-- So does a step. -/
theorem Step.log (hstep : Step root m m') (hsound : m.Sound) (howned : m.Owned none) : m'.log = m.log ∨
    ∃ t q call, m.IsTask call.task t ∧ t.pipeline = some q ∧ m.alive q = true ∧ m'.log = m.log.push call := by
  obtain ⟨m₁, m₂, hbefore, hdone, hafter⟩ := hstep.parts hsound howned
  rw [hafter.log, ← hbefore.log]
  rcases hdone with hsupplied | hdeeds | ⟨k, hturned⟩
  · exact .inl hsupplied.log
  · exact .inl hdeeds.log
  · refine hturned.log.imp id fun ⟨t, q, args, ht, hq, halive, hlog⟩ => ⟨t, q, _, ?_, hq, ?_, hlog⟩
    · rw [hbefore.tasks] at ht
      exact isTask_of_get ht
    · unfold alive at halive ⊢
      rwa [hbefore.instances] at halive

/-! ### From the start -/

/-- In a pipeline that is built nobody has started anything. -/
theorem owned_of_build {registry : Registry} {document : Value} {settings : Settings}
    (hbuild : build { registry } document settings = .ok (root, m)) : m.Owned none := by
  obtain ⟨spec, stages, -, -, rfl, rfl⟩ := build_eq_ok hbuild
  have honly {q : Nat} {i : Instance}
      (hi : (Machine.assembled { registry } spec { settings } stages).instances[q]? = some i) :
      q = 0 ∧ i.keepers = [0] ∧ i.starter = none ∧ i.output = .unread ∧ i.alive = true := by
    rw [assembled_instances] at hi
    split at hi
    · next hq =>
      cases hi
      exact ⟨hq, rfl, rfl, rfl, rfl⟩
    · cases hi
  have hroot {q : Nat} {i : Instance} (hi : (Machine.assembled { registry } spec { settings } stages).IsInstance q i) :
      q = 0 ∧ i.keepers = [0] ∧ i.starter = none := by
    obtain ⟨_, _, _, hget⟩ := hi
    obtain ⟨hq, hkeepers, hstarter, -⟩ := honly hget
    exact ⟨hq, hkeepers, hstarter⟩
  refine ⟨⟨fun {q i} hi => ?_, fun {q i} hi r hr => ?_, fun {q r i j} hi _ hj => ?_, fun {q i} hi halive r hr => ?_,
    fun {q k i} hi hstarter => ?_⟩, fun {q o} ho => ?_, fun {k t} ht _ => ⟨fun {q} _ hover => ?_, fun {c i} hi _ hstarter => ?_⟩⟩
  · obtain ⟨rfl, hkeepers, -⟩ := hroot hi
    exact hkeepers ▸ List.mem_singleton_self 0
  · obtain ⟨rfl, hkeepers, -⟩ := hroot hi
    exact Nat.le_of_eq (List.mem_singleton.mp (hkeepers ▸ hr))
  · rw [(hroot hi).2.1, (hroot hj).2.1]
    exact List.Subset.refl _
  · obtain ⟨rfl, hkeepers, -⟩ := honly hi
    obtain rfl := List.mem_singleton.mp (hkeepers ▸ hr)
    exact alive_iff.mpr ⟨i, hi, halive⟩
  · rw [(hroot hi).2.2] at hstarter
    cases hstarter
  · cases hi : (Machine.assembled { registry } spec { settings } stages).instances[q]? with
    | none => simp [standing, hi] at ho
    | some i => simp [standing, hi, (honly hi).2.2.2.1] at ho
  · obtain ⟨i, hi, hdead⟩ := hover
    rw [(honly hi).2.2.2.2] at hdead
    cases hdead
  · rw [(honly hi).2.2.1] at hstarter
    cases hstarter

/-- And nobody was called. -/
theorem log_of_build {registry : Registry} {document : Value} {settings : Settings}
    (hbuild : build { registry } document settings = .ok (root, m)) : m.log = #[] := by
  obtain ⟨spec, stages, -, -, rfl, rfl⟩ := build_eq_ok hbuild
  rfl

/-- How things stand in whatever can be reached. -/
structure Orderly (m : Machine) (root : Nat) : Prop where
  lexical : m.Scoped root
  owned : m.Owned none

theorem orderly_of_build {registry : Registry} {document : Value} {settings : Settings}
    (hbuild : build { registry } document settings = .ok (root, m)) : m.Orderly root :=
  ⟨scoped_of_build hbuild, owned_of_build hbuild⟩

theorem Reaches.orderly (hreach : Reaches root m m') (h : m.Orderly root) : m'.Orderly root := by
  induction hreach with
  | refl => exact h
  | tail _ hstep ih => exact ⟨hstep.scoped ih.lexical, hstep.owned ih.lexical.sound ih.owned⟩

theorem Reaches.extends' (hreach : Reaches root m m') (h : m.Orderly root) : m.Extends m' := by
  induction hreach with
  | refl => exact Extends.refl m
  | tail hfirst hstep ih =>
    have horderly := Reaches.orderly hfirst h
    exact ih.trans (hstep.extends' horderly.lexical.sound horderly.owned)

end StageGraph.Machine
