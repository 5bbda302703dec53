import Mathlib.Algebra.GroupWithZero.Nat
import StageGraph.Proofs.Dataflow.Accord
import StageGraph.Proofs.Machine.Arguments
import StageGraph.Proofs.Machine.Driving
import StageGraph.Proofs.Resolvable.Deciding
import StageGraph.Proofs.Resolvable.Sifting

/-! Tasks of pure functions.

A pure function has nothing to go by but its arguments, so its task is about one value from the start. An `Aim` tells
which, and what the task may wait for on its way (`Phase.Comes`). What others do meanwhile does not matter, as long as
the slots that the task asks for hold what the aim knows of them (`Aim.Fair`). A turn that has cause ends the task with
its value, or leaves it aside with less to do (`turn_went`). -/
namespace StageGraph

/-- Whether the source of an argument is not going to break down. -/
def Source.Plain : Source → Prop
  | .broken _ => False
  | _ => True

/-- Arguments are written down or refer to others. -/
theorem Stage.args_plain (s : Stage) : ∀ arg ∈ s.args, ∀ source ∈ arg.2.awaited, source.Plain := by
  intro arg harg source hsource
  rcases List.mem_append.mp harg with h | h
  · obtain ⟨entry, -, rfl⟩ := List.mem_map.mp h
    cases hsource
  · obtain ⟨entry, -, rfl⟩ := List.mem_map.mp h
    rw [List.mem_singleton.mp hsource]
    trivial

/-- A phase in which nothing awaits a child or breaks down, and from which no child is started. -/
def Phase.Sober : Phase → Prop
  | .unstarted args _ => ∀ arg ∈ args, ∀ source ∈ arg.2.awaited, source.Plain
  | .gathering _ args => Progress.everyOfAll (fun _ => True) Awaited.Plain args
  | .resting _ next => next.Plain
  | .settling result => result.every (fun _ => True) Awaited.Plain
  | _ => True

/-- What a task is about: what it may wait for, with the values that are known for slots, the names of its arguments
and their values, and the value that it comes to. -/
structure Aim where
  known : Nat → Option Value
  among : Awaited → Prop
  names : List String
  given : Option (List Value)
  value : Option Value

/-- The call of a task, with the arguments that it is about, comes to the value that it is about. -/
def Aim.Calls (aim : Aim) (t : Task) : Prop :=
  (aim.given.bind fun values => t.function.result? t.node (Fields.ofList (aim.names.zip values))) = aim.value

/-- A phase of a task that has started, on the way to the value of an aim. -/
def Phase.Comes (aim : Aim) (t : Task) : Phase → Prop
  | .unstarted _ _ => False
  | .gathering names args => aim.Calls t ∧ names = aim.names ∧
    Progress.values? (Awaited.value? aim.known) args = aim.given ∧ Progress.everyOfAll (fun _ => True) aim.among args
  | .resting _ next => next.Plain ∧ (next.value?.bind fun v => (t.function.checkOutput v).toOption) = aim.value
  | .settling result =>
    ((result.value? (Awaited.value? aim.known)).bind fun v => (t.function.checkOutput v).toOption) = aim.value ∧
      result.every (fun _ => True) aim.among
  | .hanging => aim.value = none
  | .finished => True

/-- A phase of a task on the way to the value of an aim, with the references of the task looked up now if it is still
to start. It has no value if its arguments are written as a list. -/
def Phase.Pursues (aim : Aim) (m : Machine) (t : Task) : Phase → Prop
  | .unstarted args positional =>
    if positional then aim.value = none
    else Comes aim t (.gathering (args.map Prod.fst) (args.map fun a => (a.2.map (m.begin t)).progress))
  | phase => phase.Comes aim t

theorem Phase.Comes.sober {aim : Aim} {t : Task} (hamong : ∀ a, aim.among a → a.Plain) {phase : Phase}
    (h : phase.Comes aim t) : phase.Sober := by
  cases phase with
  | gathering names args => exact Progress.everyOfAll_mono (fun _ _ => trivial) hamong args h.2.2.2
  | resting due next => exact h.1
  | settling result => exact Progress.every_mono (fun _ _ => trivial) hamong result h.2
  | _ => trivial

/-- Nothing that a phase looked at has decided it. -/
def Phase.Open : Phase → Prop
  | .gathering _ args => Progress.SiftedAll args ∧ Progress.gathered args = none
  | .settling result => result.Sifted ∧ result.outcome? = none
  | _ => True

/-- A machine that tells a task nothing but what it is about. -/
structure Aim.Fair (aim : Aim) (m : Machine) : Prop where
  plain {a : Awaited} : aim.among a → a.Plain
  timer (due : Nat) (o : Outcome) : aim.among (.timer due o)
  agrees {a : Awaited} : aim.among a → ∀ s ∈ a.slots, Agrees aim.known s (m.slot s)

/-! ### What a turn leaves as it is -/

namespace Machine

variable {m m' : Machine} {k : Nat} {t : Task}

theorem sum_map_modify {α : Type} (f : α → Nat) (g : α → α) {l : List α} {k : Nat} {a : α} (h : l[k]? = some a) :
    ((l.modify k g).map f).sum + f a = (l.map f).sum + f (g a) := by
  induction l generalizing k with
  | nil => cases h
  | cons b rest ih =>
    cases k with
    | zero =>
      cases h
      simp only [List.modify_zero_cons, List.map_cons, List.sum_cons]
      omega
    | succ k =>
      have hrest := ih h
      simp only [List.modify_succ_cons, List.map_cons, List.sum_cons]
      omega

/-- The sum of a measure over all tasks. -/
def total (measure : Phase → Nat) (m : Machine) : Nat := (m.tasks.toList.map fun t => measure t.phase).sum

theorem total_setPhase (measure : Phase → Nat) (ht : m.tasks[k]? = some t) (phase : Phase) :
    total measure (m.setPhase k phase) + measure t.phase = total measure m + measure phase := by
  unfold total setPhase
  simp only [Array.toList_modify]
  exact sum_map_modify (fun t : Task => measure t.phase) _ (by rw [Array.getElem?_toList]; exact ht)

theorem total_alike (measure : Phase → Nat) (h : m.Alike m') : total measure m' = total measure m := by
  unfold total
  rw [h.tasks]

/-- There is less left to do: a phase is over, or less is to be seen within the phases. -/
def Less (m' m : Machine) : Prop :=
  total Phase.rank m' < total Phase.rank m ∨
    total Phase.rank m' = total Phase.rank m ∧
      m'.freshCount + total Phase.toil m' < m.freshCount + total Phase.toil m

theorem Less.trans {m'' : Machine} (h : Less m'' m') (h' : Less m' m) : Less m'' m := by
  unfold Less at h h' ⊢
  omega

theorem less_wake (h : Less m' m) : Less m'.wake m := by
  rw [wake_eq]
  exact h

/-- How a turn of a task that fills a slot can end: the task is over, has no end, or is put aside with less to do.
`toil` is what it had to do before, with what others had left to be seen. -/
inductive Stepped (k s rank toil : Nat) (m : Machine) : Machine → Prop
  | finished (o : Outcome) : Stepped k s rank toil m ((m.fill s o).setPhase k .finished)
  | hanging : Stepped k s rank toil m (m.setPhase k .hanging)
  | parked (phase : Phase) (moving : 0 < phase.rank)
    (less : phase.rank < rank ∨ phase.rank = rank ∧ m.freshCount + phase.toil < toil) :
    Stepped k s rank toil m (m.park k phase)

namespace Stepped

variable {s rank toil : Nat} {base : Machine}

theorem clock (h : Stepped k s rank toil m m') : m'.clock = m.clock := by
  cases h <;> rfl

theorem instances (h : Stepped k s rank toil m m') : m'.instances = m.instances := by
  cases h <;> rfl

theorem registry (h : Stepped k s rank toil m m') : m'.registry = m.registry := by
  cases h <;> rfl

theorem ready (h : Stepped k s rank toil m m') : m'.ready = m.ready := by
  cases h <;> rfl

theorem size (h : Stepped k s rank toil m m') : m'.slots.size = m.slots.size := by
  cases h with
  | finished o => exact fill_size s o
  | _ => rfl

theorem slot (h : Stepped k s rank toil m m') (j : Nat) (o : Outcome) (hj : m.slot j = some o) :
    m'.slot j = some o := by
  cases h with
  | finished o' => exact fill_slot_of_some hj
  | _ => exact hj

theorem count (h : Stepped k s rank toil m m') : m'.tasks.size = m.tasks.size := by
  cases h <;> exact Array.size_modify

/-- No other slot is filled. -/
theorem others (h : Stepped k s rank toil m m') {j : Nat} (hj : s ≠ j) : m'.slot j = m.slot j := by
  cases h with
  | finished o => exact (fill_slot s o j).trans (if_neg fun hs => hj hs.1)
  | _ => rfl

/-- No other task is touched. -/
theorem tasks (h : Stepped k s rank toil m m') {j : Nat} (hj : k ≠ j) : m'.tasks[j]? = m.tasks[j]? := by
  cases h <;> exact (setPhase_getElem? ..).trans (if_neg hj)

theorem blocked (h : Stepped k s rank toil m m') (ht : m.tasks[k]? = some t) :
    m'.blocked = m.blocked ∨
      m'.blocked = m.blocked ++ [k] ∧ ∃ t, m'.tasks[k]? = some t ∧ 0 < t.phase.rank := by
  cases h with
  | parked phase moving less =>
    refine .inr ⟨rfl, { t with phase := phase }, ?_, moving⟩
    rw [park_tasks, setPhase_getElem?, if_pos rfl, ht]
    rfl
  | _ => exact .inl rfl

theorem blocked_subset (h : Stepped k s rank toil m m') : m.blocked ⊆ m'.blocked := by
  cases h with
  | parked phase moving less => exact List.subset_append_left _ _
  | _ => exact List.Subset.refl _

/-- Less is left to do. -/
theorem less (h : Stepped k s t.phase.rank (m.freshCount + t.phase.toil) base m') (hbase : m.Alike base)
    (ht : m.tasks[k]? = some t) (hmoving : 0 < t.phase.rank) : Less m' m := by
  have hget : base.tasks[k]? = some t := by
    rw [hbase.tasks]
    exact ht
  have hranks := total_alike Phase.rank hbase
  have htoils := total_alike Phase.toil hbase
  cases h with
  | finished o =>
    have hsum := total_setPhase (m := base.fill s o) Phase.rank hget .finished
    have hsame : total Phase.rank (base.fill s o) = total Phase.rank base := rfl
    have hzero : Phase.finished.rank = 0 := rfl
    exact .inl (by omega)
  | hanging =>
    have hsum := total_setPhase Phase.rank hget .hanging
    have hzero : Phase.hanging.rank = 0 := rfl
    exact .inl (by omega)
  | parked phase moving less =>
    have hrank := total_setPhase Phase.rank hget phase
    have htoil := total_setPhase Phase.toil hget phase
    have hparked (measure : Phase → Nat) : total measure (base.park k phase) = total measure (base.setPhase k phase) :=
      rfl
    have hfresh : (base.park k phase).freshCount = base.freshCount := rfl
    unfold Less
    rw [hparked, hparked, hfresh]
    omega

end Stepped
end Machine

namespace Aim

open Machine Progress

variable {aim : Aim} {m m' : Machine} {k : Nat} {t : Task}

theorem Fair.alike (h : aim.Fair m) (ha : m.Alike m') : aim.Fair m' where
  plain := h.plain
  timer := h.timer
  agrees hb s hs := by
    rw [ha.slot s]
    exact h.agrees hb s hs

theorem Fair.stands (h : aim.Fair m) {a : Awaited} (ha : aim.among a) :
    Agrees (Awaited.value? aim.known) a (m.standing a) :=
  standing_agrees (h.plain ha) (h.agrees ha)

theorem Fair.told (h : aim.Fair m) {a : Awaited} (ha : aim.among a) :
    (Telling.keeping (Taken m)).holds (ask a) (Agrees (Awaited.value? aim.known) a) :=
  ask_agrees (h.plain ha) (h.agrees ha)

/-! ### Turns -/

/-- How a turn of a task ends: with its value, without end if it has none, or aside and with less to do. `toil` is
what it had to do before, with what others had left to be seen. -/
inductive Went (aim : Aim) (k : Nat) (t : Task) (rank toil : Nat) (m : Machine) : Machine → Prop
  | finished (o : Outcome) (value : o.toOption = aim.value) :
    Went aim k t rank toil m ((m.fill t.slot o).setPhase k .finished)
  | hanging (never : aim.value = none) : Went aim k t rank toil m (m.setPhase k .hanging)
  | parked (phase : Phase) (comes : phase.Comes aim t) (waits : phase.Open) (moving : 0 < phase.rank)
    (less : phase.rank < rank ∨ phase.rank = rank ∧ m.freshCount + phase.toil < toil) :
    Went aim k t rank toil m (m.park k phase)

theorem Went.stepped {rank toil : Nat} (h : aim.Went k t rank toil m m') : Stepped k t.slot rank toil m m' := by
  cases h with
  | finished o value => exact .finished o
  | hanging never => exact .hanging
  | parked phase comes waits moving less => exact .parked phase moving less

theorem Went.of_le {rank toil rank' toil' : Nat} (h : aim.Went k t rank toil m m')
    (hle : rank < rank' ∨ rank = rank' ∧ toil ≤ toil') : aim.Went k t rank' toil' m m' := by
  cases h with
  | finished o value => exact .finished o value
  | hanging never => exact .hanging never
  | parked phase comes waits moving less => exact .parked phase comes waits moving (by omega)

/-- A task has no children. -/
def Alone (m : Machine) (k : Nat) : Prop := ∀ i ∈ m.instances, i.starter ≠ some k

theorem Alone.alike (h : Alone m k) (ha : m.Alike m') : Alone m' k := by
  unfold Alone
  rw [ha.instances]
  exact h

/-- The end of a task. -/
theorem finish_went (halone : Alone m k) {o : Outcome} (ho : o.toOption = aim.value) (rank toil : Nat) :
    aim.Went k t rank toil m (m.finish k t o) := by
  unfold finish
  rw [release_eq halone]
  refine .finished _ ?_
  rw [← ho]
  cases o <;> rfl

/-- A failure is the end of a task that has no value. -/
theorem fail_went (halone : Alone m k) (f : Fault) (hnone : none = aim.value) (rank toil : Nat) :
    aim.Went k t rank toil m (m.finish k t (.error f)) :=
  finish_went halone (o := .error f) hnone rank toil

end Aim

namespace Machine

variable {m : Machine}

theorem read_plain {a : Awaited} (ha : a.Plain) : m.read a = m := by
  cases a with
  | output p => exact ha.elim
  | _ => rfl

theorem foldl_read_plain {l : List Awaited} (hl : ∀ a ∈ l, a.Plain) : l.foldl read m = m := by
  induction l with
  | nil => rfl
  | cons a rest ih =>
    rw [List.foldl_cons, read_plain (hl a List.mem_cons_self)]
    exact ih fun b hb => hl b (List.mem_cons_of_mem _ hb)

/-- A result that is plain is settled as it is. -/
theorem settle_plain (k : Nat) (t : Task) {result : Progress Awaited} (h : ∀ a ∈ result.awaited, a.Plain) :
    m.settle k t result = m.settled k t result := by
  rw [settle_eq k t fun a ha => (h a ha).isBroken, foldl_read_plain h]

/-- Arguments that are plain are collected as they are. -/
theorem gather_plain (k : Nat) (t : Task) (names : List String) {args : List (Progress Awaited)}
    (h : ∀ a ∈ Progress.awaitedOfAll args, a.Plain) : m.gather k t names args = m.collect k t names args :=
  gather_eq k t names fun a ha => (h a ha).isBroken

theorem stirs_plain {a : Awaited} (ha : a.Plain) (h : m.stirs a = true) : (m.standing a).isSome := by
  cases a with
  | output p => exact ha.elim
  | broken due => exact ha.elim
  | _ => exact h

/-- A link is decided when the slots that it asks for are filled. -/
theorem linked_isSome {l : Link} {base : Resolvable Nat} (hbase : l.base = .ok base)
    (h : ∀ s ∈ base.awaited, (m.slot s).isSome) : (m.linked l).isSome := by
  have hview : (base.obtain? (m := Id) m.slot l.path).isSome := Resolvable.obtain?_isSome h l.path
  unfold linked Link.look
  rw [hbase]
  show (Option.map _ (base.obtain? (m := Id) m.slot l.path)).isSome
  rw [Option.isSome_map]
  exact hview

/-- References are looked up among the pipelines. -/
theorem link_congr {m' : Machine} (h : m'.instances = m.instances) : m'.link = m.link := by
  have hstage (name : String) (scope : List Nat) : m'.stageSlot? name scope = m.stageSlot? name scope := by
    induction scope with
    | nil => rfl
    | cons p outer ih => rw [stageSlot?, stageSlot?, h, ih]
  have hhead (i : Instance) (name : String) : m'.head? i name = m.head? i name := by
    unfold head?
    rw [hstage]
  funext reader node blamed text
  simp only [link, h, hhead]

theorem Alike.begin {m' : Machine} (h : m.Alike m') (t : Task) : m'.begin t = m.begin t := by
  funext source
  cases source with
  | reference text => simp only [Machine.begin, link_congr h.instances]
  | _ => simp only [Machine.begin, h.clock]

theorem logged_alike (m : Machine) (call : Received) : m.Alike { m with log := m.log.push call } :=
  ⟨fun _ => rfl, rfl, rfl, rfl, rfl, rfl, rfl, rfl⟩

/-- A function that wants no pipeline is called without one. -/
theorem call_eq {k : Nat} {t : Task} (halone : t.function.wantsPipeline = false) {args bound : Fields}
    (hbind : t.function.bindArguments args = .ok bound) :
    m.call k t args = perform k t (t.function.handler (t.function.callFor t.node bound))
      { m with log := m.log.push ⟨k, t.function.name, t.function.recorded, bound⟩ } := by
  have hcall : m.callOf t bound = t.function.callFor t.node bound := by
    unfold Machine.callOf Function.callFor
    rw [halone]
    rfl
  unfold Machine.call
  rw [hbind, ← hcall]

end Machine

namespace Aim

open Machine Progress

variable {aim : Aim} {m m' : Machine} {k : Nat} {t : Task}

/-- A task that looks at its result has it, or has less of it left to come if anything has come. -/
theorem settle_went (halone : Alone m k) (h : aim.Fair m) {result : Progress Awaited}
    (hcomes : Phase.Comes aim t (.settling result)) (rank toil : Nat)
    (hless : 1 < rank ∨ 1 = rank ∧ m.freshCount + result.awaited.length ≤ toil ∧
      ∃ a ∈ result.awaited, m.stirs a = true) :
    aim.Went k t rank toil m (m.settle k t result) := by
  obtain ⟨hvalue, hevery⟩ := hcomes
  have hamong (a : Awaited) (ha : a ∈ result.awaited) : aim.among a := every_awaited result hevery a ha
  have hplain (a : Awaited) (ha : a ∈ result.awaited) : a.Plain := h.plain (hamong a ha)
  have hlook : (result.look (m := Id) m.standing).value? (Awaited.value? aim.known) =
      result.value? (Awaited.value? aim.known) :=
    look_value? Telling.plain result fun a ha => h.stands (hamong a ha)
  have hevery' : (result.look (m := Id) m.standing).every (fun _ => True) aim.among :=
    look_every Telling.plain (fun _ _ _ _ => trivial) result hevery
  have hsifted : (result.look (m := Id) m.standing).Sifted :=
    look_sifted Telling.plain (fun _ => trivial) result
  rw [← hlook] at hvalue
  have hparked : ∀ r : Progress Awaited, result.look (m := Id) m.standing = r → r.outcome? = none →
      aim.Went k t rank toil m ((m.release k (awaitedChildren r.awaited)).park k (.settling r)) := by
    intro r hr hopen
    rw [hr] at hvalue hevery' hsifted
    rw [release_eq halone]
    refine .parked _ ⟨hvalue, hevery'⟩ ⟨hsifted, hopen⟩ Nat.one_pos ?_
    rcases hless with hrank | ⟨hrank, htoil, a, ha, hstirs⟩
    · exact .inl hrank
    · refine .inr ⟨hrank, ?_⟩
      have hlt := look_awaited_lt result ⟨a, ha, stirs_plain (hplain a ha) hstirs⟩
      rw [hr] at hlt
      show m.freshCount + r.awaited.length < toil
      omega
  rw [settle_plain k t hplain, settled_eq]
  cases hr : result.look (m := Id) m.standing with
  | done o =>
    rw [hr] at hvalue
    cases o with
    | ok v =>
      refine finish_went halone ?_ rank toil
      rw [← hvalue]
      show _ = (t.function.checkOutput v).toOption
      cases t.function.checkOutput v <;> rfl
    | error f => exact fail_went halone f hvalue rank toil
  | pending p => exact hparked _ hr rfl
  | parts whole items => exact hparked _ hr rfl

/-- A reply comes to its value, now or later. -/
theorem perform_went (halone : Alone m k) (h : aim.Fair m) (toil : Nat) : ∀ reply : Reply,
    Phase.Comes aim t (.resting 0 reply) → m.freshCount + reply.rests ≤ toil →
      aim.Went k t 2 toil m (perform k t reply m)
  | .give r, hcomes, _ => by
    obtain ⟨hplain, hvalue⟩ := hcomes
    unfold perform
    rw [release_eq halone]
    refine settle_went halone h ⟨?_, ?_⟩ 2 toil (.inl (by decide))
    · rw [Resolvable.progress_value?, Resolvable.map_value?, ← hvalue]
      have hsame : (fun p => Awaited.value? aim.known (m.promised p)) = Promise.value? := by
        funext p
        cases p <;> rfl
      rw [hsame]
      rfl
    · refine Resolvable.progress_every _ fun a ha => ?_
      rw [Resolvable.map_awaited] at ha
      obtain ⟨p, hp, rfl⟩ := List.mem_map.mp ha
      have hlater := hplain p hp
      cases p with
      | later ms o => exact h.timer _ _
      | _ => cases hlater
  | .fail f, hcomes, _ => fail_went halone f.toFault hcomes.2 2 toil
  | .panic message, hcomes, _ => fail_went halone _ hcomes.2 2 toil
  | .rest ms next, hcomes, hle => by
    unfold perform
    have hrests : next.rests + 1 = (Reply.rest ms next).rests := rfl
    split
    · exact perform_went halone h toil next hcomes (by omega)
    · refine .parked _ hcomes trivial Nat.two_pos (.inr ⟨rfl, ?_⟩)
      show m.freshCount + next.rests < toil
      omega
  | .hang, hcomes, _ => .hanging hcomes.2.symm
  | .start kept spec inputs next, hcomes, _ => hcomes.1.elim

/-- The call of a pure function comes to its value. -/
theorem call_went (halone : Alone m k) (h : aim.Fair m) (hpure : t.function.Pure) {values : List Value}
    (hvalue : t.function.result? t.node (Fields.ofList (aim.names.zip values)) = aim.value) (toil : Nat) :
    ∃ base, m.Alike base ∧ aim.Went k t 3 toil base (m.call k t (Fields.ofList (aim.names.zip values))) := by
  unfold Function.result? at hvalue
  cases hbind : t.function.bindArguments (Fields.ofList (aim.names.zip values)) with
  | error cause =>
    rw [hbind] at hvalue
    refine ⟨m, Alike.refl m, ?_⟩
    unfold Machine.call
    rw [hbind]
    exact fail_went halone _ hvalue 3 toil
  | ok args =>
    rw [hbind] at hvalue
    rw [call_eq hpure.alone hbind]
    have halike := logged_alike m ⟨k, t.function.name, t.function.recorded, args⟩
    refine ⟨_, halike, (perform_went (halone.alike halike) (h.alike halike) _ _ ⟨hpure.plain _, hvalue⟩
      (Nat.le_refl _)).of_le (.inl (by decide))⟩

/-- A task that looks at its arguments calls its function, or has less of them left to come if anything has
come. -/
theorem gather_went (halone : Alone m k) (h : aim.Fair m) (hroom : 0 < m.room) (hpure : t.function.Pure)
    {args : List (Progress Awaited)} (hcomes : Phase.Comes aim t (.gathering aim.names args))
    (rank toil : Nat) (hless : 3 < rank ∨ 3 = rank ∧ m.freshCount + (awaitedOfAll args).length ≤ toil ∧
      ∃ a ∈ awaitedOfAll args, m.stirs a = true) :
    ∃ base, m.Alike base ∧ aim.Went k t rank toil base (m.gather k t aim.names args) := by
  obtain ⟨hvalue, -, hgiven, hevery⟩ := hcomes
  have hamong (a : Awaited) (ha : a ∈ awaitedOfAll args) : aim.among a := everyOfAll_awaited args hevery a ha
  have hkeeps (a : Awaited) : (Telling.keeping (Taken m)).holds (ask a) fun _ => True :=
    fun m' hm' => ⟨trivial, hm'.trans ((ask_sees a).taken m')⟩
  have hlook := (lookThrough_values? (Telling.keeping (Taken m)) args (fun a ha => h.told (hamong a ha)) m
    (Taken.refl m)).1
  have hevery' := (lookThrough_every (Telling.keeping (Taken m))
    (fun a _ => (Telling.keeping (Taken m)).mono (hkeeps a) fun _ _ _ _ => trivial) hevery m (Taken.refl m)).1
  have hsifted := (lookAll_sifted (Telling.keeping (Taken m)) hkeeps (crowded args) true args m (Taken.refl m)).1
  have hle := (lookAll_awaited_le (Telling.keeping (Taken m)) hkeeps (crowded args) true args m (Taken.refl m)).1
  have hsees := lookThrough_sees ask_sees args
  have haccount := hsees.account m
  have hidle := hsees.idle m hroom
  have hused := hsees.used m
  have hbase : m.Alike (lookThrough ask args m).2 := (hsees.taken m).alike
  rw [gather_plain k t aim.names fun a ha => h.plain (hamong a ha), collect_eq]
  rw [hgiven] at hlook
  cases hg : gathered (lookThrough ask args m).1 with
  | none =>
    have hopen : SiftedAll (lookThrough ask args m).1 := by
      refine hsifted.2.resolve_right fun ⟨_, f, hf⟩ => ?_
      have hcrowded : crowded (lookThrough ask args m).1 = crowded args := congrArg (decide <| 30 < ·) hsifted.1
      rw [gathered_eq, hcrowded, show gather (crowded args) (lookThrough ask args m).1 = _ from hf] at hg
      cases hg
    refine ⟨_, hbase, .parked _ ⟨hvalue, rfl, hlook, hevery'⟩ ⟨hopen, hg⟩ (Nat.succ_pos 2) ?_⟩
    rcases hless with hrank | ⟨hrank, htoil, a, ha, hstirs⟩
    · exact .inl hrank
    · refine .inr ⟨hrank, ?_⟩
      show (lookThrough ask args m).2.freshCount + (awaitedOfAll (lookThrough ask args m).1).length < toil
      by_cases hsame : (lookThrough ask args m).2.room = m.room
      · -- nothing was taken in, so all that has come is known by now
        rw [hidle hsame] at hg ⊢
        rw [lookThrough_undecided hg]
        have hlt := map_look_awaited_lt args ⟨a, ha, stirs_plain (h.plain (hamong a ha)) hstirs⟩
        exact Nat.lt_of_lt_of_le (Nat.add_lt_add_left hlt _) htoil
      · have hle' : (awaitedOfAll (lookThrough ask args m).1).length ≤ (awaitedOfAll args).length := hle
        omega
  | some o =>
    have ho : o.toOption = aim.given := (gathered_values? hg).trans hlook
    unfold Calls at hvalue
    rw [← ho] at hvalue
    cases o with
    | error f => exact ⟨_, hbase, fail_went (halone.alike hbase) f hvalue rank toil⟩
    | ok values =>
      obtain ⟨base, halike, hwent⟩ := call_went (halone.alike hbase) (h.alike hbase) hpure hvalue toil
      exact ⟨base, hbase.trans halike, hwent.of_le (by omega)⟩

/-- **A turn gets a task on.** The turn of a task that has cause to look ends it, or leaves it with less to do. -/
theorem turn_went (halone : Alone m k) (h : aim.Fair m) (hpure : t.function.Pure) (ht : m.tasks[k]? = some t)
    (hpursues : t.phase.Pursues aim m t) (hmoving : 0 < t.phase.rank) (hstirred : m.stirred k = true) :
    ∃ base, m.Alike base ∧ aim.Went k t t.phase.rank (m.freshCount + t.phase.toil) base (m.turn k) := by
  have halike : m.Alike m.refreshed := refreshed_alike m
  have hroom : 0 < m.refreshed.room := Nat.succ_pos 127
  have halone' := halone.alike halike
  have hfair := h.alike halike
  have hget : m.refreshed.tasks[k]? = some t := ht
  unfold stirred at hstirred
  simp only [ht, Option.map_some] at hstirred
  unfold turn
  simp only [hget]
  cases hphase : t.phase with
  | unstarted args positional =>
    rw [hphase] at hpursues
    cases positional with
    | true => exact ⟨_, halike, fail_went halone' _ (Eq.symm hpursues) _ _⟩
    | false =>
      have hnames : args.map Prod.fst = aim.names := hpursues.2.1
      have hpursues : Phase.Comes aim t (.gathering aim.names (args.map fun a =>
          (a.2.map (m.refreshed.begin t)).progress)) := by
        rw [halike.begin, ← hnames]
        exact hpursues
      obtain ⟨base, hbase, hwent⟩ := gather_went halone' hfair hroom hpure hpursues 4 (m.freshCount + 0)
        (.inl (by decide))
      simp only [Bool.false_eq_true, if_false, hnames]
      exact ⟨base, halike.trans hbase, hwent⟩
  | gathering names args =>
    rw [hphase] at hpursues hstirred
    obtain ⟨a, ha, hstirs⟩ := List.any_eq_true.mp hstirred
    obtain ⟨hcalls, rfl, hrest⟩ := hpursues
    obtain ⟨base, hbase, hwent⟩ := gather_went halone' hfair hroom hpure
      (show Phase.Comes aim t (.gathering aim.names args) from ⟨hcalls, rfl, hrest⟩) 3 (m.freshCount + (awaitedOfAll args).length)
      (.inr ⟨rfl, Nat.le_refl _, a, ha, (halike.stirs a).trans hstirs⟩)
    exact ⟨base, halike.trans hbase, hwent⟩
  | resting due next =>
    rw [hphase] at hpursues hstirred
    have hdue : due ≤ m.refreshed.clock := of_decide_eq_true hstirred
    simp only [if_pos hdue]
    exact ⟨_, halike, perform_went halone' hfair _ next hpursues (Nat.le_refl _)⟩
  | settling result =>
    rw [hphase] at hpursues hstirred
    obtain ⟨a, ha, hstirs⟩ := List.any_eq_true.mp hstirred
    exact ⟨_, halike, settle_went halone' hfair hpursues 1 _
      (.inr ⟨rfl, Nat.le_refl _, a, ha, (halike.stirs a).trans hstirs⟩)⟩
  | hanging =>
    rw [hphase] at hmoving
    cases hmoving
  | finished =>
    rw [hphase] at hmoving
    cases hmoving

end Aim
end StageGraph
