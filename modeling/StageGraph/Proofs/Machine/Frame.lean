import StageGraph.Proofs.Machine.Looks
import StageGraph.Pipeline

/-! What the small steps of the machine leave as it is.

Most of what is awaited cannot break down. Where nothing of it can, settling a result and gathering arguments come down
to what looking tells (`settle_eq`, `gather_eq`). -/
namespace StageGraph

/-- Whether something awaited breaks down in the end. -/
def Awaited.isBroken : Awaited → Bool
  | .broken _ => true
  | _ => false

namespace Progress

variable {π : Type} {ask : π → Option (Poll Value)}

mutual

/-- A look goes through if none of what it asks for breaks down. -/
theorem look_goes : ∀ r : Progress π, (∀ p ∈ r.awaited, (ask p).isSome) → (r.look ask).isSome
  | done o, _ => rfl
  | pending p, h => by
    obtain ⟨told, htold⟩ := Option.isSome_iff_exists.mp (h p (List.mem_singleton_self p))
    rw [look, htold]
    cases told <;> rfl
  | parts whole items, h => by
    obtain ⟨items', hitems⟩ := Option.isSome_iff_exists.mp (lookAll_goes (crowded items) true items h)
    rw [look, hitems]
    show Option.isSome (match gathered items' with | some o => _ | none => _)
    split <;> rfl

theorem lookAll_goes (crowd counts : Bool) : ∀ items : List (Progress π),
    (∀ p ∈ awaitedOfAll items, (ask p).isSome) → (lookAll ask crowd counts items).isSome
  | [], _ => rfl
  | r :: rest, h => by
    obtain ⟨first, hfirst⟩ :=
      Option.isSome_iff_exists.mp (look_goes r fun p hp => h p (List.mem_append_left _ hp))
    rw [lookAll, hfirst]
    show Option.isSome (if counts && first.failed then _ else _)
    split
    · rfl
    · obtain ⟨others, hothers⟩ := Option.isSome_iff_exists.mp (lookAll_goes crowd
        (!crowd || counts && first.succeeded) rest fun p hp => h p (List.mem_append_right _ hp))
      show Option.isSome (Option.bind (lookAll ask crowd _ rest) _)
      rw [hothers]
      rfl

end

end Progress

namespace Machine

variable {m : Machine}

/-! ### Slots -/

@[simp] theorem fill_instances (s : Nat) (o : Outcome) : (m.fill s o).instances = m.instances := rfl
@[simp] theorem fill_tasks (s : Nat) (o : Outcome) : (m.fill s o).tasks = m.tasks := rfl
@[simp] theorem setPhase_instances (k : Nat) (phase : Phase) : (m.setPhase k phase).instances = m.instances := rfl
@[simp] theorem setPhase_slot (k : Nat) (phase : Phase) (s : Nat) : (m.setPhase k phase).slot s = m.slot s := rfl
@[simp] theorem park_instances (k : Nat) (phase : Phase) : (m.park k phase).instances = m.instances := rfl
@[simp] theorem park_slot (k : Nat) (phase : Phase) (s : Nat) : (m.park k phase).slot s = m.slot s := rfl
@[simp] theorem park_tasks (k : Nat) (phase : Phase) : (m.park k phase).tasks = (m.setPhase k phase).tasks := rfl

theorem fill_size (s : Nat) (o : Outcome) : (m.fill s o).slots.size = m.slots.size := Array.size_modify ..

/-- A slot is filled once. -/
theorem fill_slot (s : Nat) (o : Outcome) (t : Nat) :
    (m.fill s o).slot t = if s = t ∧ t < m.slots.size then (m.slot t).or (some o) else m.slot t := by
  unfold slot fill
  simp only [Array.getElem?_modify]
  by_cases hs : s = t
  · subst hs
    cases hget : m.slots[s]? with
    | none =>
      have hlt := Array.getElem?_eq_none_iff.mp hget
      simp [Nat.not_lt.mpr hlt]
    | some slot =>
      obtain ⟨hlt, -⟩ := Array.getElem?_eq_some_iff.mp hget
      cases slot <;> simp [hlt, Slot.fill, Slot.outcome?]
  · simp [hs]

theorem fill_slot_of_some {s t : Nat} {o o' : Outcome} (h : m.slot t = some o') : (m.fill s o).slot t = some o' := by
  rw [fill_slot, h]
  split <;> rfl

theorem slot_of_fill {s t : Nat} {o o' : Outcome} (h : (m.fill s o).slot t = some o') :
    m.slot t = some o' ∨ s = t ∧ o = o' := by
  rw [fill_slot] at h
  split at h
  · next hs =>
    cases hslot : m.slot t with
    | none =>
      rw [hslot] at h
      exact .inr ⟨hs.1, Option.some.inj h⟩
    | some o'' =>
      rw [hslot] at h
      exact .inl h
  · exact .inl h

/-! ### Tasks -/

theorem setPhase_getElem? (k : Nat) (phase : Phase) (j : Nat) :
    (m.setPhase k phase).tasks[j]? =
      if k = j then (m.tasks[j]?).map fun t => { t with phase := phase } else m.tasks[j]? := by
  unfold setPhase
  simp only [Array.getElem?_modify]

/-- A task after another phase was set: the one it was set for, or as it was. -/
theorem setPhase_cases {k j : Nat} {phase : Phase} {t : Task} (h : (m.setPhase k phase).tasks[j]? = some t) :
    (k = j ∧ ∃ before, m.tasks[k]? = some before ∧ t = { before with phase := phase }) ∨
      k ≠ j ∧ m.tasks[j]? = some t := by
  rw [setPhase_getElem?] at h
  split at h
  · next hkj =>
    subst hkj
    obtain ⟨before, hbefore, rfl⟩ := Option.map_eq_some_iff.mp h
    exact .inl ⟨rfl, before, hbefore, rfl⟩
  · next hkj => exact .inr ⟨hkj, h⟩

theorem mem_children {k : Nat} {kept : List Nat} {p : Nat} (h : p ∈ m.children k kept) :
    ∃ i, m.instances[p]? = some i ∧ i.alive = true ∧ i.starter = some k := by
  unfold children at h
  obtain ⟨-, hp⟩ := List.mem_filter.mp h
  cases hi : m.instances[p]? with
  | none => simp [hi] at hp
  | some i =>
    simp only [hi, Bool.and_eq_true, beq_iff_eq] at hp
    exact ⟨i, rfl, hp.1.1, hp.1.2⟩

/-- A task without children has nothing to release. -/
theorem release_eq {k : Nat} {kept : List Nat} (h : ∀ i ∈ m.instances, i.starter ≠ some k) :
    m.release k kept = m := by
  have hnone : m.children k kept = [] := by
    refine List.eq_nil_iff_forall_not_mem.mpr fun p hp => ?_
    obtain ⟨i, hi, -, hstarter⟩ := mem_children hp
    exact h i (Array.mem_of_getElem? hi) hstarter
  unfold release
  rw [hnone]
  rfl

/-! ### Turns -/

/-- What cannot break down has not. -/
theorem sound?_eq {a : Awaited} (h : a.isBroken = false) : m.sound? a = some (m.standing a) := by
  cases a with
  | broken due => cases h
  | _ => rfl

theorem breaksAt_eq_false {result : Progress Awaited} (h : ∀ a ∈ result.awaited, a.isBroken = false) :
    m.breaksAt result = false := by
  refine Option.isNone_eq_false_iff.mpr (Progress.look_goes result fun a ha => ?_)
  rw [sound?_eq (h a ha)]
  rfl

theorem breaksThrough_eq_false {args : List (Progress Awaited)}
    (h : ∀ a ∈ Progress.awaitedOfAll args, a.isBroken = false) : m.breaksThrough args = false := by
  refine Option.isNone_eq_false_iff.mpr (Progress.lookAll_goes _ _ args fun a ha => ?_)
  rw [sound?_eq (h a ha)]
  rfl

/-- What does not go through breaks down by something that it asks for, at its time. -/
theorem exists_due {α : Type} {found : Option α} {l : List Awaited}
    (hgoes : (∀ a ∈ l, (m.sound? a).isSome) → found.isSome) (h : found.isNone = true) :
    ∃ due, .broken due ∈ l ∧ due ≤ m.clock := by
  refine Classical.byContradiction fun hnone => ?_
  have hfound := hgoes fun a ha => by
    cases a with
    | broken due =>
      have hstill : ¬due ≤ m.clock := fun hdue => hnone ⟨due, ha, hdue⟩
      simp [sound?, hstill]
    | _ => rfl
  rw [Option.isNone_iff_eq_none.mp h] at hfound
  cases hfound

theorem exists_broken {result : Progress Awaited} (h : m.breaksAt result = true) :
    ∃ due, .broken due ∈ result.awaited ∧ due ≤ m.clock :=
  exists_due (Progress.look_goes result) h

theorem exists_brokenThrough {args : List (Progress Awaited)} (h : m.breaksThrough args = true) :
    ∃ due, .broken due ∈ Progress.awaitedOfAll args ∧ due ≤ m.clock :=
  exists_due (Progress.lookAll_goes _ _ args) h

/-- What is missing of a stage is what its pipeline gives up with its slot. -/
theorem mem_abandoned_of_loss? {t : Task} {cause : Cause} (h : m.loss? t = some cause) :
    ∃ p i, t.pipeline = some p ∧ m.instances[p]? = some i ∧ (t.slot, cause) ∈ i.abandoned := by
  obtain ⟨p, hp, h⟩ := Option.bind_eq_some_iff.mp h
  obtain ⟨i, hi, h⟩ := Option.bind_eq_some_iff.mp h
  obtain ⟨front, back, habandoned, -⟩ := List.lookup_eq_some_iff.mp h
  exact ⟨p, i, hp, hi, habandoned ▸ List.mem_append_right _ List.mem_cons_self⟩

theorem settle_cases (m : Machine) (k : Nat) (t : Task) (result : Progress Awaited) : m.settle k t result =
    if (result.awaited.foldl read m).breaksAt result then (result.awaited.foldl read m).collapse k t
    else (result.awaited.foldl read m).settled k t result := rfl

theorem settled_eq (m : Machine) (k : Nat) (t : Task) (result : Progress Awaited) : m.settled k t result =
    match result.look (m := Id) m.standing with
    | .done (.ok v) => m.finish k t ((t.function.checkOutput v).mapError fun cause => ⟨cause, none⟩)
    | .done (.error f) => m.finish k t (.error f)
    | looked => (m.release k (awaitedChildren looked.awaited)).park k (.settling looked) := rfl

theorem collect_eq (m : Machine) (k : Nat) (t : Task) (names : List String) (args : List (Progress Awaited)) :
    m.collect k t names args =
      match Progress.gathered (Progress.lookThrough ask args m).1 with
      | none => (Progress.lookThrough ask args m).2.park k (.gathering names (Progress.lookThrough ask args m).1)
      | some (.error f) => (Progress.lookThrough ask args m).2.finish k t (.error f)
      | some (.ok values) => (Progress.lookThrough ask args m).2.call k t (Fields.ofList (names.zip values)) := rfl

/-- A result that cannot break down is settled by what is told. -/
theorem settle_eq (k : Nat) (t : Task) {result : Progress Awaited} (h : ∀ a ∈ result.awaited, a.isBroken = false) :
    m.settle k t result = (result.awaited.foldl read m).settled k t result := by
  rw [settle_cases, breaksAt_eq_false h]
  rfl

/-- Arguments that cannot break down are collected. -/
theorem gather_eq (k : Nat) (t : Task) (names : List String) {args : List (Progress Awaited)}
    (h : ∀ a ∈ Progress.awaitedOfAll args, a.isBroken = false) : m.gather k t names args = m.collect k t names args := by
  unfold gather
  rw [breaksThrough_eq_false h]
  rfl

/-! ### Inputs and outputs -/

theorem foldl_fill_eq (l : List (Nat × Value)) : ∀ m : Machine,
    ∃ slots, l.foldl (fun m (s, v) => m.fill s (.ok v)) m = { m with slots := slots } := by
  induction l with
  | nil => exact fun m => ⟨m.slots, rfl⟩
  | cons entry rest ih =>
    intro m
    obtain ⟨slots, heq⟩ := ih (m.fill entry.1 (.ok entry.2))
    exact ⟨slots, heq⟩

/-- Binding inputs fills slots and does nothing else. -/
theorem bindInputs_eq (i : Instance) (values : List Value) : ∃ slots, m.bindInputs i values = { m with slots := slots } :=
  foldl_fill_eq _ _

theorem bindInputs_size (i : Instance) (values : List Value) : (m.bindInputs i values).slots.size = m.slots.size := by
  unfold bindInputs
  generalize (i.bindings.map Prod.snd).zip values = bound
  induction bound generalizing m with
  | nil => rfl
  | cons entry rest ih => exact ih.trans (fill_size _ _)

/-! ### Pipelines -/

theorem halted_outputs (p q : Nat) :
    ((m.halted p).instances[q]?).map Instance.output = (m.instances[q]?).map Instance.output := by
  unfold halted
  simp only [Array.getElem?_map, Option.map_map]
  congr 1
  funext i
  simp only [Function.comp_apply]
  split <;> rfl

/-- Giving slots up fills slots and does nothing else. -/
theorem foldl_lost_eq (l : List (Nat × Cause)) : ∀ m : Machine,
    ∃ slots, l.foldl (fun m (s, cause) => m.fill s (.error ⟨cause, none⟩)) m = { m with slots := slots } := by
  induction l with
  | nil => exact fun m => ⟨m.slots, rfl⟩
  | cons entry rest ih =>
    intro m
    obtain ⟨slots, heq⟩ := ih (m.fill entry.1 (.error ⟨entry.2, none⟩))
    exact ⟨slots, heq⟩

theorem retire_eq (p : Nat) : ∃ slots, m.retire p = { m.halted p with slots := slots } := foldl_lost_eq _ _

theorem retire_instances (p : Nat) : (m.retire p).instances = (m.halted p).instances := by
  obtain ⟨slots, heq⟩ := m.retire_eq p
  rw [heq]

theorem retire_output (m : Machine) (p q : Nat) :
    ((m.retire p).instances[q]?).map Instance.output = (m.instances[q]?).map Instance.output := by
  rw [retire_instances, halted_outputs]

theorem standing_output (p : Nat) : m.standing (.output p) =
    match (m.instances[p]?).map Instance.output with
    | some (.known o) => some o
    | _ => none := rfl

/-- What has become of an output does not change with the end of a pipeline. -/
theorem retire_standing (p q : Nat) : (m.retire p).standing (.output q) = m.standing (.output q) := by
  rw [standing_output, standing_output, retire_output]

theorem retire_clock (p : Nat) : (m.retire p).clock = m.clock := by
  obtain ⟨slots, heq⟩ := m.retire_eq p
  rw [heq]
  rfl

theorem retire_log (p : Nat) : (m.retire p).log = m.log := by
  obtain ⟨slots, heq⟩ := m.retire_eq p
  rw [heq]
  rfl

theorem start_slot (p s : Nat) : (m.start p).slot s = m.slot s := by
  unfold start
  split <;> rfl

theorem start_tasks (p : Nat) : (m.start p).tasks = m.tasks := by
  unfold start
  split <;> rfl

theorem start_log (p : Nat) : (m.start p).log = m.log := by
  unfold start
  split <;> rfl

end Machine
end StageGraph
