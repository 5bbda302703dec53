import StageGraph.Proofs.Attribution.Sound

/-! The small steps of a machine keep every failure accounted for. -/
namespace StageGraph.Machine

variable {m m' : Machine}

/-- A move after which tasks, instances and what is in slots are the same. -/
theorem Sound.moved (h : m.Sound) (hmove : Move m m') (hslot : ∀ s, m'.slot s = m.slot s)
    (hsize : m'.slots.size = m.slots.size) (htasks : m'.tasks = m.tasks) (hinstances : m'.instances = m.instances) :
    Onward m m' := by
  have he := hmove.extends'
  refine h.onward hmove hsize (fun ht => ?_) (fun hi => ?_) (fun ht => ?_) (fun hs => ?_) (fun hi => ?_)
    (h.kept.same he.isTask fun _ => by rw [hinstances]) (fun ht hp hover => ?_)
  · rw [htasks] at ht
    exact isTask_of_get ht
  · rw [hinstances] at hi
    exact isInstance_of_get hi
  · rw [htasks] at ht
    exact .inl ht
  · rw [hslot] at hs
    exact .inl hs
  · rw [hinstances] at hi
    exact .inl ⟨_, hi, rfl, rfl⟩
  · rw [htasks] at ht
    unfold Ended at hover
    rw [hinstances] at hover
    exact h.quiet ht hp hover

/-- Nothing that matters is different. -/
theorem Sound.same (h : m.Sound) (hslot : ∀ s, m'.slot s = m.slot s) (hsize : m'.slots.size = m.slots.size)
    (htasks : m'.tasks = m.tasks) (hinstances : m'.instances = m.instances) (hregistry : m'.registry = m.registry)
    (hlog : m'.log = m.log) : Onward m m' :=
  h.moved (.getOn (extends_same hslot htasks hinstances hregistry) (fun k => by rw [htasks])
    (fun p => by rw [hinstances]) hlog) hslot hsize htasks hinstances

theorem Sound.taken (h : m.Sound) (ht : Taken m m') : Onward m m' := by
  obtain ⟨slots, room, rfl, hsize⟩ := ht.rest
  exact h.same ht.slot hsize rfl rfl rfl rfl

/-- A slot is filled. -/
theorem Sound.fill (h : m.Sound) {s : Nat} {o : Outcome}
    (ho : ∀ f, o = .error f → m.Forsaken [] s f ∨ ¬m.Bound s ∧ m.Due (.slot s) f) : Onward m (m.fill s o) := by
  have he := m.fill_extends s o
  refine h.onward (.getOn he (fun _ => rfl) (fun _ => rfl) rfl) (Array.size_modify ..) isTask_of_get
    isInstance_of_get .inl (fun hs => ?_) (fun hi => .inl ⟨_, hi, rfl, rfl⟩) (h.kept.same he.isTask fun _ => rfl)
    h.quiet
  rcases slot_of_fill hs with hold | ⟨rfl, rfl⟩
  · exact .inl hold
  · exact .inr ((ho _ rfl).imp he.forsaken fun ⟨hfree, hdue⟩ => ⟨hfree, he.due hdue⟩)

/-- A task goes on to another phase, one in which its function does nothing any more if its pipeline is over. -/
theorem Sound.setPhase (h : m.Sound) {k : Nat} {t : Task} (ht : m.IsTask k t) {phase : Phase}
    (hphase : m.PhaseSound k t phase) (hbusy : ∀ p, t.pipeline = some p → m.Ended p → phase.quiet = true) :
    Onward m (m.setPhase k phase) := by
  have htask {j : Nat} {t : Task} (ht : (m.setPhase k phase).tasks[j]? = some t) :
      m.IsTask j t ∧ (m.tasks[j]? = some t ∨ j = k ∧ t.phase = phase) := by
    rcases setPhase_cases ht with ⟨rfl, before, hbefore, rfl⟩ | ⟨-, hold⟩
    · exact ⟨⟨before.phase, hbefore⟩, .inr ⟨rfl, rfl⟩⟩
    · exact ⟨isTask_of_get hold, .inl hold⟩
  have he := m.setPhase_extends k phase
  have hlasting (j : Nat) :
      ((m.setPhase k phase).tasks[j]?).map Task.lasting = (m.tasks[j]?).map Task.lasting := by
    rw [setPhase_getElem?]
    split
    · rw [Option.map_map]
      rfl
    · rfl
  refine h.onward (.getOn he hlasting (fun _ => rfl) rfl) rfl (fun ht => (htask ht).1) isInstance_of_get
    (fun {j t'} ht' => ?_) .inl (fun hi => .inl ⟨_, hi, rfl, rfl⟩) (h.kept.same he.isTask fun _ => rfl)
    (fun {j p t'} ht' hp hover => ?_)
  · obtain ⟨hj, hold | ⟨rfl, rfl⟩⟩ := htask ht'
    · exact .inl hold
    · obtain ⟨phase', rfl⟩ := ht.eq hj
      exact .inr (he.phaseSound (hphase.same phase'))
  · obtain ⟨hj, hold | ⟨rfl, rfl⟩⟩ := htask ht'
    · exact h.quiet hold hp hover
    · obtain ⟨phase', rfl⟩ := ht.eq hj
      exact hbusy p hp hover

/-- A task is put aside. -/
theorem Sound.park (h : m.Sound) {k : Nat} {t : Task} (ht : m.IsTask k t) {phase : Phase}
    (hphase : m.PhaseSound k t phase) (hbusy : ∀ p, t.pipeline = some p → m.Ended p → phase.quiet = true) :
    Onward m (m.park k phase) :=
  (h.setPhase ht hphase hbusy).trans ((h.setPhase ht hphase hbusy).sound.same (fun _ => rfl) rfl rfl rfl rfl rfl)

/-- More is known of an output that had not come about. -/
theorem Sound.setOutput (h : m.Sound) {p : Nat} {output : Output} (hnot : m.standing (.output p) = none)
    (houtput : ∀ i, m.instances[p]? = some i → m.OutputSound p i.spec.outputNode output) :
    Onward m (m.setOutput p output) := by
  have hinstance {q : Nat} {i : Instance} (hi : (m.setOutput p output).instances[q]? = some i) :
      m.instances[q]? = some i ∨ ∃ i', m.instances[p]? = some i' ∧ q = p ∧ i = { i' with output := output } := by
    rw [setOutput_getElem?] at hi
    split at hi
    · next hq =>
      subst hq
      obtain ⟨i', hi', rfl⟩ := Option.map_eq_some_iff.mp hi
      exact .inr ⟨i', hi', rfl, rfl⟩
    · exact .inl hi
  have he := setOutput_extends output hnot
  have hlasting : SameInstances m (m.setOutput p output) := setOutput_lasting p output
  refine h.onward (.getOn he (fun _ => rfl) hlasting rfl) rfl isTask_of_get (fun {q i} hi => ?_) .inl .inl
    (fun {q i} hi => ?_) (h.kept.same he.isTask hlasting) fun ht hq hover => h.quiet ht hq ((hlasting.ended _).mp hover)
  · rcases hinstance hi with hold | ⟨i', hi', rfl, rfl⟩
    · exact isInstance_of_get hold
    · exact ⟨i'.jobs, i'.output, i'.alive, hi'⟩
  · rcases hinstance hi with hold | ⟨i', hi', rfl, rfl⟩
    · exact .inl ⟨i, hold, rfl, rfl⟩
    · exact .inr (he.outputSound (houtput i' hi'))

/-! ### The end of pipelines -/

theorem Sound.halted (h : m.Sound) (p : Nat) : Onward m (m.halted p) := by
  have he := m.halted_extends p
  refine h.onward (.halt p he) rfl (fun ht => (halted_tasks ht).1) (fun {q i} hi => ?_) (fun {k t} ht => ?_) .inl
    (fun {q i} hi => ?_) (h.kept.halted p) (fun ht hq hover => halted_quiet h.quiet ht hq hover)
  · obtain ⟨i', hi', jobs, alive, rfl⟩ := halted_instances hi
    exact ⟨jobs, i.output, alive, hi'⟩
  · rcases (halted_tasks ht).2 with hold | hfinished
    · exact .inl hold
    · rw [hfinished]
      exact .inr trivial
  · obtain ⟨i', hi', jobs, alive, rfl⟩ := halted_instances hi
    exact .inl ⟨_, hi', rfl, rfl⟩

/-- The slots of pipelines that are over are given up. -/
theorem Sound.giveUp (l : List (Nat × Cause)) : ∀ {m : Machine}, m.Sound →
    (∀ e ∈ l, ∃ (p : Nat) (i : Instance), m.instances[p]? = some i ∧ i.alive = false ∧ e ∈ i.abandoned) →
      Onward m (l.foldl (fun m (s, cause) => m.fill s (.error ⟨cause, none⟩)) m) := by
  induction l with
  | nil => exact fun h _ => Onward.refl h
  | cons entry rest ih =>
    intro m h hall
    have hfill : Onward m (m.fill entry.1 (.error ⟨entry.2, none⟩)) := by
      refine h.fill fun f hf => ?_
      cases hf
      obtain ⟨p, i, hi, hover, hmem⟩ := hall entry List.mem_cons_self
      exact .inl (.ended (List.not_mem_nil) (isInstance_of_get hi) ⟨i, hi, hover⟩ hmem)
    exact hfill.trans (ih hfill.sound fun e he => hall e (List.mem_cons_of_mem _ he))

/-- A pipeline ends. -/
theorem Sound.retire (h : m.Sound) (p : Nat) : Onward m (m.retire p) := by
  unfold Machine.retire
  exact (h.halted p).trans ((h.halted p).sound.giveUp _ fun _ he => mem_abandoned_of_halted he)

/-- The children of a task end, but for those it keeps. -/
theorem Sound.release (h : m.Sound) (k : Nat) (kept : List Nat) : Onward m (m.release k kept) := by
  unfold Machine.release
  generalize m.children k kept = children
  induction children generalizing m with
  | nil => exact Onward.refl h
  | cons p rest ih => exact (h.retire p).trans (ih (h.retire p).sound)

end StageGraph.Machine
