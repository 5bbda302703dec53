import StageGraph.Proofs.Lifetime.Steps

/-! Stages, tasks and slots.

Every stage of a pipeline has a task, which has a slot that no other task fills and that is no slot of a declared input
(`Staffed`). So it is from when a pipeline is made (`Staffed.assembled`), whatever deeds follow (`Staffed.deed`). -/
namespace StageGraph.Machine

variable {m m' : Machine} {who : Option Nat}

/-- Tasks and stages go together, by their slots. -/
structure Staffed (m : Machine) : Prop where
  stage {p s : Nat} {i : Instance} {name : String} : m.IsInstance p i → (name, s) ∈ i.stages →
    ∃ k t, m.IsTask k t ∧ t.pipeline = some p ∧ t.slot = s
  alone {k k' : Nat} {t t' : Task} : m.IsTask k t → m.IsTask k' t' → t.slot = t'.slot → k = k'
  within {k : Nat} {t : Task} : m.IsTask k t → t.slot < m.slots.size
  bounded {s : Nat} : m.Bound s → s < m.slots.size
  unbound {k : Nat} {t : Task} : m.IsTask k t → ¬m.Bound t.slot

/-- No task and no instance is new. -/
theorem Staffed.keeps (h : m.Staffed) (he : m.Extends m') (hsize : m.slots.size ≤ m'.slots.size)
    (htask : ∀ {k t}, m'.IsTask k t → m.IsTask k t) (hinstance : ∀ {p i}, m'.IsInstance p i → m.IsInstance p i) :
    m'.Staffed := by
  have hbound {s : Nat} (hs : m'.Bound s) : m.Bound s := by
    obtain ⟨p, i, name, hi, hname⟩ := hs
    exact ⟨p, i, name, hinstance hi, hname⟩
  refine ⟨fun hi hname => ?_, fun ht ht' => h.alone (htask ht) (htask ht'), fun ht => ?_, fun hs => ?_,
    fun ht hs => h.unbound (htask ht) (hbound hs)⟩
  · obtain ⟨k, t, ht, hrest⟩ := h.stage (hinstance hi) hname
    exact ⟨k, t, he.isTask ht, hrest⟩
  · exact Nat.lt_of_lt_of_le (h.within (htask ht)) hsize
  · exact Nat.lt_of_lt_of_le (h.bounded (hbound hs)) hsize

theorem Staffed.supplied (h : m.Staffed) (hsupplied : m.Supplied m') : m'.Staffed := by
  refine h.keeps hsupplied.extends' (Nat.le_of_eq hsupplied.size.symm) (fun ht => ?_) fun hi => ?_
  · rw [isTask_iff, hsupplied.tasks, ← isTask_iff] at ht
    exact ht
  · rw [isInstance_iff, hsupplied.instances, ← isInstance_iff] at hi
    exact hi

theorem Staffed.still (h : m.Staffed) (hstill : m.Still m') : m'.Staffed := h.supplied hstill.supplied

theorem Staffed.noted (h : m.Staffed) (k : Nat) (t : Task) (args : Fields) : (m.noted k t args).Staffed :=
  h.keeps (m.noted_extends k t args) (Nat.le_refl _) id id

theorem staffed_empty (registry : Registry) : Staffed { registry } := by
  have htask {k : Nat} {t : Task} (ht : ({ registry } : Machine).IsTask k t) : False := by
    obtain ⟨_, ht⟩ := ht
    cases ht
  have hinstance {p : Nat} {i : Instance} (hi : ({ registry } : Machine).IsInstance p i) : False := by
    obtain ⟨_, _, _, hi⟩ := hi
    cases hi
  refine ⟨fun hi => (hinstance hi).elim, fun ht => (htask ht).elim, fun ht => (htask ht).elim, fun hs => ?_,
    fun ht => (htask ht).elim⟩
  obtain ⟨_, _, _, hi, -⟩ := hs
  exact (hinstance hi).elim

/-! ### New tasks -/

section

variable {spec : Spec} {place : Placement} {stages : List (Stage × Function)}

theorem assembled_tasks_getElem? {k : Nat} {t : Task} (h : (m.assembled spec place stages).tasks[k]? = some t) :
    m.tasks[k]? = some t ∨ ∃ n s f, k = m.tasks.size + n ∧ stages[n]? = some (s, f) ∧
      t = m.taskOf s f (m.slots.size + n) (.unstarted s.args s.positional) := by
  unfold assembled at h
  simp only [Array.getElem?_append] at h
  split at h
  · exact .inl h
  · next hle =>
    right
    rw [List.getElem?_toArray] at h
    unfold stageTasks at h
    rw [List.getElem?_map, numbered_getElem?, Option.map_map] at h
    obtain ⟨⟨s, f⟩, hn, rfl⟩ := Option.map_eq_some_iff.mp h
    exact ⟨k - m.tasks.size, s, f, by omega, hn, rfl⟩

/-- The task of a stage of the new instance. -/
theorem assembled_staff {n : Nat} {s : Stage} {f : Function} (hn : stages[n]? = some (s, f)) :
    (m.assembled spec place stages).tasks[m.tasks.size + n]? =
      some (m.taskOf s f (m.slots.size + n) (.unstarted s.args s.positional)) := by
  show (m.tasks ++ (m.stageTasks stages).toArray)[m.tasks.size + n]? = _
  rw [Array.getElem?_append_right (Nat.le_add_right _ _), Nat.add_sub_cancel_left, List.getElem?_toArray]
  unfold stageTasks
  rw [List.getElem?_map, numbered_getElem?, hn]
  rfl

/-- The slot of a new task comes after all others. -/
theorem assembled_fresh {k : Nat} {t : Task} (h : (m.assembled spec place stages).IsTask k t) :
    m.IsTask k t ∨ ∃ n, n < stages.length ∧ k = m.tasks.size + n ∧ t.slot = m.slots.size + n := by
  obtain ⟨phase, h⟩ := h
  rcases assembled_tasks_getElem? h with hold | ⟨n, s, f, hk, hn, heq⟩
  · exact .inl ⟨phase, hold⟩
  · exact .inr ⟨n, (List.getElem?_eq_some_iff.mp hn).1, hk, congrArg Task.slot heq⟩

theorem Staffed.assembled (h : m.Staffed) : (m.assembled spec place stages).Staffed := by
  have he := m.assembled_extends spec place stages
  have hgrown := assembled_size (m := m) spec place stages
  refine ⟨fun {p s i name} hi hname => ?_, fun {k k' t t'} ht ht' hslot => ?_, fun {k t} ht => ?_, fun {s} hs => ?_,
    fun {k t} ht hs => ?_⟩
  · rcases assembled_isInstance hi with hold | ⟨rfl, _, _, _, rfl⟩
    · obtain ⟨k, t, ht, hrest⟩ := h.stage hold hname
      exact ⟨k, t, he.isTask ht, hrest⟩
    · obtain ⟨⟨⟨s', f⟩, slot⟩, hmem, heq⟩ := List.mem_map.mp hname
      obtain ⟨n, hn⟩ := List.mem_iff_getElem?.mp hmem
      rw [numbered_getElem?] at hn
      obtain ⟨sf, hsf, heq'⟩ := Option.map_eq_some_iff.mp hn
      cases heq'
      cases heq
      exact ⟨_, _, isTask_of_get (assembled_staff hsf), rfl, rfl⟩
  · rcases assembled_fresh ht with hold | ⟨n, -, hk, hn⟩
    · rcases assembled_fresh ht' with hold' | ⟨n', -, hk', hn'⟩
      · exact h.alone hold hold' hslot
      · have hlt := h.within hold
        omega
    · rcases assembled_fresh ht' with hold' | ⟨n', -, hk', hn'⟩
      · have hlt := h.within hold'
        omega
      · omega
  · rcases assembled_fresh ht with hold | ⟨n, hlt, -, hn⟩
    · have hlt := h.within hold
      omega
    · omega
  · rcases assembled_bound hs with hold | hnew
    · have hlt := h.bounded hold
      omega
    · exact hnew.2
  · rcases assembled_fresh ht with hold | ⟨n, hlt, -, hn⟩
    · refine (assembled_bound hs).elim (h.unbound hold) fun hnew => ?_
      have hlt := h.within hold
      omega
    · rcases assembled_bound hs with hold | hnew
      · have hbound := h.bounded hold
        omega
      · omega

end

/-! ### Deeds -/

theorem Deed.size_le (h : Deed who m m') : m.slots.size ≤ m'.slots.size := by
  cases h with
  | take ht =>
    obtain ⟨slots, room, rfl, hsize⟩ := ht.rest
    exact Nat.le_of_eq hsize.symm
  | fill => exact Nat.le_of_eq (fill_size _ _).symm
  | make =>
    rw [assembled_size]
    exact Nat.le_add_right _ _
  | start p =>
    unfold Machine.start
    split <;> exact Nat.le_refl _
  | _ => exact Nat.le_refl _

theorem Staffed.deed (h : m.Staffed) (hdeed : Deed who m m') : m'.Staffed := by
  have he := hdeed.extends'
  cases hdeed.outline with
  | same htasks hsame =>
    refine h.keeps he hdeed.size_le (fun ht => ?_) hsame.isInstance.mp
    rw [isTask_iff, htasks, ← isTask_iff] at ht
    exact ht
  | ends p htasks hsame =>
    refine h.keeps he hdeed.size_le (fun {k t} ht => ?_) fun hi => halted_isInstance (hsame.isInstance.mp hi)
    rw [isTask_iff, htasks, ← isTask_iff] at ht
    obtain ⟨phase, ht⟩ := ht
    obtain ⟨⟨phase', hbefore⟩, -⟩ := halted_tasks ht
    exact ⟨phase', hbefore⟩
  | makes _ _ _ _ heq =>
    subst heq
    exact h.assembled

theorem Staffed.deeds (h : m.Staffed) (hdeeds : Deeds who m m') : m'.Staffed :=
  hdeeds.keeps (fun hdeed hm => hm.deed hdeed) h

theorem Staffed.setPhase (h : m.Staffed) (k : Nat) (phase : Phase) : (m.setPhase k phase).Staffed := by
  refine h.keeps (m.setPhase_extends k phase) (Nat.le_refl _) (fun {j t} ht => ?_) id
  obtain ⟨phase', ht⟩ := ht
  rcases setPhase_cases ht with ⟨rfl, before, hbefore, heq⟩ | ⟨-, hold⟩
  · refine ⟨before.phase, hbefore.trans ?_⟩
    cases before
    cases t
    cases heq
    rfl
  · exact ⟨phase', hold⟩

theorem Staffed.park (h : m.Staffed) (k : Nat) (phase : Phase) : (m.park k phase).Staffed :=
  (h.setPhase k phase).still ⟨rfl, rfl, rfl, rfl, rfl⟩

end StageGraph.Machine
