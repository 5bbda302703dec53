import Mathlib.Algebra.GroupWithZero.Nat
import Mathlib.Data.List.Perm.Basic
import StageGraph.Proofs.Dataflow.Turns
import StageGraph.Proofs.Machine.Driving

/-! The run of a plan, turn by turn.

Between turns every task that is not over is in a queue once, and those that are ready have cause to look (`Course`). A
turn is that of one of them (`Course.next`), it leaves the others where they were (`Course.turned`), and less is left to
do after it (`Course.advance`). What is known of all tasks beyond that (`Manned`) is kept likewise, if the task whose
turn it was is left where it may stand. -/
namespace StageGraph

namespace Machine

variable {m m' : Machine}

/-! ### What stirs goes on stirring -/

theorem linked_isSome_mono (h : ∀ s o, m.slot s = some o → m'.slot s = some o) {l : Link}
    (hl : (m.linked l).isSome) : (m'.linked l).isSome := by
  rcases l with ⟨base, path, blamed⟩
  cases base with
  | error f => exact hl
  | ok base =>
    have hview : (base.obtain? (m := Id) m.slot path).isSome := by
      rw [← Option.isSome_map]
      exact hl
    have hmore := Resolvable.obtain?_isSome_mono h hview
    rw [← Option.isSome_map] at hmore
    exact hmore

theorem stirs_mono (h : ∀ s o, m.slot s = some o → m'.slot s = some o) (hclock : m'.clock = m.clock)
    {a : Awaited} (hplain : a.Plain) (ha : m.stirs a = true) : m'.stirs a = true := by
  cases a with
  | link l => exact linked_isSome_mono h ha
  | timer due o =>
    simp only [stirs, standing, hclock] at ha ⊢
    exact ha
  | _ => exact hplain.elim

/-- Who has cause to look again has it still when more has come. -/
theorem stirred_mono {j : Nat} (hsober : ∀ t, m.tasks[j]? = some t → t.phase.Sober)
    (hslots : ∀ s o, m.slot s = some o → m'.slot s = some o) (hclock : m'.clock = m.clock)
    (htask : m'.tasks[j]? = m.tasks[j]?) (hs : m.stirred j = true) : m'.stirred j = true := by
  unfold stirred at hs ⊢
  rw [htask]
  cases ht : m.tasks[j]? with
  | none => rfl
  | some t =>
    rw [ht] at hs
    have hsober := hsober t ht
    simp only [Option.map_some] at hs ⊢
    cases hphase : t.phase with
    | gathering names args =>
      rw [hphase] at hs hsober
      obtain ⟨a, ha, hstirs⟩ := List.any_eq_true.mp hs
      exact List.any_eq_true.mpr ⟨a, ha, stirs_mono hslots hclock (Progress.everyOfAll_awaited args hsober a ha) hstirs⟩
    | settling result =>
      rw [hphase] at hs hsober
      obtain ⟨a, ha, hstirs⟩ := List.any_eq_true.mp hs
      exact List.any_eq_true.mpr ⟨a, ha, stirs_mono hslots hclock (Progress.every_awaited result hsober a ha) hstirs⟩
    | resting due next =>
      rw [hphase] at hs
      simp only [hclock]
      exact hs
    | _ => rfl

end Machine
namespace Plan

open Machine

variable {plan : Plan} {m m' : Machine}

/-! ### What a turn leaves as it is -/

variable {k : Nat} {sf : Stage × Function} {phase : Phase} {base : Machine}

theorem After.accord {rank toil : Nat} (h : After plan k sf rank toil base m') (hbase : plan.Accord base)
    (hsf : plan.stages[k]? = some sf) (ht : base.tasks[k]? = some (task k sf phase)) : plan.Accord m' where
  pipeline := by
    rw [h.stepped.instances]
    exact hbase.pipeline
  slots s o ho := by
    cases h with
    | finished o' value =>
      rcases slot_of_fill ho with hs | ⟨rfl, rfl⟩
      · exact hbase.slots s o hs
      · rw [plan.slotValue?_stage hsf]
        exact value
    | _ => exact hbase.slots s o ho
  tasks j t hj := by
    by_cases hkj : k = j
    · subst hkj
      have hnew (phase' : Phase) (hfits : plan.Fits sf phase')
          (hget : (base.tasks[k]?).map (fun t => { t with phase := phase' }) = some t) :
          ∃ sf, plan.stages[k]? = some sf ∧ t = task k sf t.phase ∧ plan.Fits sf t.phase := by
        rw [ht] at hget
        cases hget
        exact ⟨sf, hsf, rfl, hfits⟩
      have hset (m : Machine) (phase' : Phase) : (m.setPhase k phase').tasks[k]? =
          (m.tasks[k]?).map (fun t => { t with phase := phase' }) := (setPhase_getElem? ..).trans (if_pos rfl)
      cases h with
      | finished o value => exact hnew .finished trivial ((hset _ _).symm.trans hj)
      | hanging => exact hnew .hanging trivial ((hset _ _).symm.trans hj)
      | parked phase' fits moving less => exact hnew phase' fits ((hset _ _).symm.trans hj)
    · rw [h.stepped.tasks hkj] at hj
      exact hbase.tasks j t hj

theorem Accord.sober (h : plan.Accord m) {j : Nat} {t : Task} (ht : m.tasks[j]? = some t) : t.phase.Sober := by
  obtain ⟨sf, -, -, hfits⟩ := h.tasks j t ht
  cases hphase : t.phase with
  | unstarted args positional =>
    rw [hphase] at hfits
    obtain ⟨rfl, -⟩ := hfits
    exact sf.1.args_plain
  | gathering names args =>
    rw [hphase] at hfits
    exact hfits.2.2.2
  | resting due next =>
    rw [hphase] at hfits
    exact hfits.1
  | settling result =>
    rw [hphase] at hfits
    exact hfits.2
  | _ => trivial

/-! ### Between turns -/

/-- Where a run stands between turns: the tasks that are not over wait once each, and those whose turn is to come
have cause to look. -/
structure Course (plan : Plan) (m : Machine) : Prop where
  accord : plan.Accord m
  queue : (m.ready ++ m.blocked).Nodup
  moving : ∀ k ∈ m.ready ++ m.blocked, ∃ t, m.tasks[k]? = some t ∧ 0 < t.phase.rank
  stirred : ∀ k ∈ m.ready, m.stirred k = true

theorem Course.wake (h : plan.Course m) : plan.Course m.wake := by
  have hall := wake_queue m
  refine ⟨?_, hall.nodup_iff.mpr h.queue, fun k hk => ?_, fun k hk => ?_⟩
  · rw [wake_eq]
    exact ⟨h.accord.pipeline, h.accord.slots, h.accord.tasks⟩
  · rw [wake_eq]
    exact h.moving k (hall.subset hk)
  · have hsame : m.wake.stirred k = m.stirred k := by
      rw [wake_eq]
      rfl
    rw [hsame]
    rw [wake_eq] at hk
    rcases List.mem_append.mp hk with hk | hk
    · exact h.stirred k hk
    · exact (List.mem_filter.mp hk).2

/-- Whose turn is next: a task that is ready, with the rest of those that are. -/
structure Next (plan : Plan) (m : Machine) (k : Nat) (sf : Stage × Function) (phase : Phase) (rest : List Nat) :
    Prop where
  queue : (k :: rest).Perm m.ready
  stage : plan.stages[k]? = some sf
  task : m.tasks[k]? = some (task k sf phase)
  fits : plan.Fits sf phase
  moving : 0 < phase.rank
  stirred : m.stirred k = true
  accord : plan.Accord { m with ready := rest }

theorem Course.next (h : plan.Course m) (choose : Choice) (hready : m.ready ≠ []) : ∃ k sf phase rest,
    plan.Next m k sf phase rest ∧ m.advance choose = ({ m with ready := rest }.turn k).wake := by
  obtain ⟨k, rest, hperm, heq⟩ := advance_ready hready choose
  have hmem : k ∈ m.ready := hperm.subset List.mem_cons_self
  obtain ⟨t, ht, hmoving⟩ := h.moving k (List.mem_append_left _ hmem)
  obtain ⟨sf, hsf, htask, hfits⟩ := h.accord.tasks k t ht
  rw [htask] at ht
  exact ⟨k, sf, t.phase, rest, ⟨hperm, hsf, ht, hfits, hmoving, h.stirred k hmem,
    ⟨h.accord.pipeline, h.accord.slots, h.accord.tasks⟩⟩, heq⟩

/-- Whoever had the turn waits once more at most, and the others as they did before. -/
theorem Course.turned (h : plan.Course m) {rest : List Nat} (hnext : plan.Next m k sf phase rest)
    (hbase : Machine.Alike { m with ready := rest } base) {rank toil : Nat} (hafter : After plan k sf rank toil base m') :
    plan.Course m' := by
  have hstepped := hafter.stepped
  have hget : base.tasks[k]? = some (task k sf phase) := by
    rw [hbase.tasks]
    exact hnext.task
  have hqueue : (k :: (rest ++ m.blocked)).Nodup := (hnext.queue.append_right m.blocked).nodup_iff.mpr h.queue
  obtain ⟨hnew, hold⟩ := List.nodup_cons.mp hqueue
  -- what is left in the queue is as it was before the turn
  have hothers (j : Nat) (hj : j ∈ rest ++ m.blocked) : k ≠ j ∧ ∃ t, m'.tasks[j]? = some t ∧ 0 < t.phase.rank := by
    have hne : k ≠ j := fun hkj => hnew (hkj ▸ hj)
    refine ⟨hne, ?_⟩
    rw [hstepped.tasks hne, hbase.tasks]
    exact h.moving j ((hnext.queue.append_right m.blocked).subset (List.mem_cons_of_mem _ hj))
  have hready : m'.ready = rest := hstepped.ready.trans hbase.ready
  refine ⟨hafter.accord (hnext.accord.alike hbase) hnext.stage hget, ?_, ?_, fun j hj => ?_⟩
  · rw [hready]
    rcases hstepped.blocked hget with hb | ⟨hb, -⟩
    · rw [hb, hbase.blocked]
      exact hold
    · rw [hb, hbase.blocked, ← List.append_assoc]
      exact (List.perm_append_singleton k _).nodup_iff.mpr hqueue
  · rw [hready]
    rcases hstepped.blocked hget with hb | ⟨hb, hparked⟩
    · rw [hb, hbase.blocked]
      exact fun j hj => (hothers j hj).2
    · rw [hb, hbase.blocked, ← List.append_assoc]
      intro j hj
      rcases List.mem_append.mp hj with hj | hj
      · exact (hothers j hj).2
      · rw [List.mem_singleton.mp hj]
        exact hparked
  · rw [hready] at hj
    have hne := (hothers j (List.mem_append_left _ hj)).1
    refine stirred_mono (fun _ => hnext.accord.sober) (fun s o hs => hstepped.slot s o ((hbase.slot s).trans hs)) ?_ ?_
      (h.stirred j (hnext.queue.subset (List.mem_cons_of_mem _ hj)))
    · exact hstepped.clock.trans hbase.clock
    · rw [hstepped.tasks hne, hbase.tasks]

/-- A ready task gets its turn, and less is left to do. -/
theorem Course.advance (h : plan.Course m) (choose : Choice) (hready : m.ready ≠ []) :
    plan.Course (m.advance choose) ∧ Less (m.advance choose) m ∧ (m.advance choose).clock = m.clock ∧
      (m.advance choose).instances = m.instances := by
  obtain ⟨k, sf, phase, rest, hnext, heq⟩ := h.next choose hready
  rw [heq]
  obtain ⟨base, hbase, hafter⟩ := turn_after hnext.accord hnext.stage hnext.task hnext.fits hnext.moving hnext.stirred
  have hless : Less ({ m with ready := rest }.turn k) { m with ready := rest } :=
    hafter.stepped.less hbase hnext.task hnext.moving
  refine ⟨(h.turned hnext hbase hafter).wake, less_wake hless, ?_, ?_⟩
  · rw [wake_eq]
    exact hafter.stepped.clock.trans hbase.clock
  · rw [wake_eq]
    exact hafter.stepped.instances.trans hbase.instances

/-! ### Who is at work -/

/-- How the turn of a task ends: with an outcome, without end, or aside. `ends` tells of the outcome, `stands` of the
phase in which the task is left. -/
inductive Moved (ends : Outcome → Prop) (stands : Phase → Prop) (k : Nat) (m : Machine) : Machine → Prop
  | finished (o : Outcome) : ends o → Moved ends stands k m ((m.fill k o).setPhase k .finished)
  | hanging : stands .hanging → Moved ends stands k m (m.setPhase k .hanging)
  | parked (phase : Phase) : 0 < phase.rank → stands phase → Moved ends stands k m (m.park k phase)

section

variable {ends : Outcome → Prop} {stands : Phase → Prop}

theorem Moved.slot (h : Moved ends stands k m m') {s : Nat} {o : Outcome} (hs : m'.slot s = some o) :
    m.slot s = some o ∨ k = s ∧ ends o := by
  cases h with
  | finished o' ho =>
    rcases slot_of_fill hs with hold | ⟨rfl, rfl⟩
    · exact .inl hold
    · exact .inr ⟨rfl, ho⟩
  | _ => exact .inl hs

theorem Moved.slot_of_some (h : Moved ends stands k m m') {s : Nat} {o : Outcome} (hs : m.slot s = some o) :
    m'.slot s = some o := by
  cases h with
  | finished o' ho => exact fill_slot_of_some hs
  | _ => exact hs

theorem Moved.size (h : Moved ends stands k m m') : m'.slots.size = m.slots.size := by
  cases h with
  | finished o ho => exact fill_size k o
  | _ => rfl

/-- Where the task of a turn is left. -/
theorem Moved.left (h : Moved ends stands k m m') (hfinished : stands .finished) (hlt : k < m.slots.size)
    (ht : m.tasks[k]? = some (task k sf phase)) : ∃ phase', m'.tasks[k]? = some (task k sf phase') ∧ stands phase' ∧
      (phase' = .finished → (m'.slot k).isSome) ∧ (0 < phase'.rank → k ∈ m'.blocked) := by
  have hset (base : Machine) (hbase : base.tasks = m.tasks) (phase' : Phase) :
      (base.setPhase k phase').tasks[k]? = some (task k sf phase') := by
    rw [setPhase_getElem?, if_pos rfl, hbase, ht]
    rfl
  cases h with
  | finished o ho =>
    refine ⟨.finished, hset _ rfl _, hfinished, fun _ => ?_, fun hrank => absurd hrank (Nat.lt_irrefl 0)⟩
    show ((m.fill k o).slot k).isSome
    rw [fill_slot, if_pos ⟨rfl, hlt⟩]
    cases m.slot k <;> rfl
  | hanging hstands => exact ⟨.hanging, hset _ rfl _, hstands, nofun, fun hrank => absurd hrank (Nat.lt_irrefl 0)⟩
  | parked phase' moving hstands =>
    refine ⟨phase', hset _ rfl _, hstands, fun hover => ?_, fun _ => ?_⟩
    · rw [hover] at moving
      cases moving
    · exact List.mem_append_right _ (List.mem_singleton_self k)

end

/-- Every stage has its task, which is in the queue as long as it can move, and something holds of its phase. When it is
over, its result is there. -/
structure Manned (plan : Plan) (stands : Stage × Function → Phase → Prop) (m : Machine) : Prop where
  tasks {k : Nat} {sf : Stage × Function} : plan.stages[k]? = some sf →
    ∃ phase, m.tasks[k]? = some (task k sf phase) ∧ stands sf phase ∧ (phase = .finished → (m.slot k).isSome)
  queued {k : Nat} {t : Task} : m.tasks[k]? = some t → 0 < t.phase.rank → k ∈ m.ready ++ m.blocked

namespace Manned

variable {stands : Stage × Function → Phase → Prop} (h : plan.Manned stands m)
include h

theorem alike (ha : m.Alike m') : plan.Manned stands m' := by
  refine ⟨fun {k sf} hsf => ?_, fun {k t} ht => ?_⟩
  · rw [ha.tasks, ha.slot]
    exact h.tasks hsf
  · rw [ha.tasks] at ht
    rw [ha.ready, ha.blocked]
    exact h.queued ht

theorem wake : plan.Manned stands m.wake := by
  have hqueue {k : Nat} {t : Task} (ht : m.tasks[k]? = some t) (hrank : 0 < t.phase.rank) :
      k ∈ m.wake.ready ++ m.wake.blocked := (wake_queue m).symm.subset (h.queued ht hrank)
  rw [wake_eq] at hqueue ⊢
  exact ⟨h.tasks, hqueue⟩

/-- A turn leaves the other tasks as they are. -/
theorem turn {rest : List Nat} (hnext : plan.Next m k sf phase rest)
    (hleft : ∃ phase', ({ m with ready := rest }.turn k).tasks[k]? = some (task k sf phase') ∧ stands sf phase' ∧
      (phase' = .finished → (({ m with ready := rest }.turn k).slot k).isSome) ∧
        (0 < phase'.rank → k ∈ ({ m with ready := rest }.turn k).blocked)) :
    plan.Manned stands ({ m with ready := rest }.turn k) := by
  obtain ⟨base, hbase, hafter⟩ := turn_after hnext.accord hnext.stage hnext.task hnext.fits hnext.moving hnext.stirred
  generalize { m with ready := rest }.turn k = m' at hleft hafter ⊢
  obtain ⟨phase', hleft, hstands, hfinished, hparked⟩ := hleft
  have hothers {j : Nat} (hj : k ≠ j) : m'.tasks[j]? = m.tasks[j]? := by
    rw [hafter.stepped.tasks hj, hbase.tasks]
  refine ⟨fun {j sg} hsg => ?_, fun {j u} hu hrank => ?_⟩
  · by_cases hj : k = j
    · subst hj
      obtain rfl : sf = sg := Option.some.inj (hnext.stage.symm.trans hsg)
      exact ⟨phase', hleft, hstands, hfinished⟩
    · obtain ⟨other, hother, hstands', hfinished'⟩ := h.tasks hsg
      refine ⟨other, (hothers hj).trans hother, hstands', fun hover => ?_⟩
      obtain ⟨o, ho⟩ := Option.isSome_iff_exists.mp (hfinished' hover)
      rw [hafter.stepped.slot j o ((hbase.slot j).trans ho)]
      rfl
  · by_cases hj : k = j
    · subst hj
      obtain rfl : u = task k sf phase' := Option.some.inj (hu.symm.trans hleft)
      exact List.mem_append_right _ (hparked hrank)
    · rw [hothers hj] at hu
      rw [hafter.stepped.ready, hbase.ready]
      rcases List.mem_append.mp (h.queued hu hrank) with hin | hin
      · exact List.mem_append_left _ ((List.mem_cons.mp (hnext.queue.symm.subset hin)).resolve_left (Ne.symm hj))
      · refine List.mem_append_right _ (hafter.stepped.blocked_subset ?_)
        rw [hbase.blocked]
        exact hin

end Manned

/-- A turn takes no time, and it leaves the pipelines as they are. -/
theorem Next.still {rest : List Nat} (hnext : plan.Next m k sf phase rest) :
    ({ m with ready := rest }.turn k).clock = m.clock ∧ ({ m with ready := rest }.turn k).instances = m.instances := by
  obtain ⟨base, hbase, hafter⟩ := turn_after hnext.accord hnext.stage hnext.task hnext.fits hnext.moving hnext.stirred
  exact ⟨hafter.stepped.clock.trans hbase.clock, hafter.stepped.instances.trans hbase.instances⟩

end Plan
end StageGraph
