import StageGraph.Proofs.Dataflow.Tasks
import StageGraph.Proofs.Timing.Paced

/-! Where a run on time can stand.

No result is there before its time (`Prompt`), so neither is anything told of what is awaited (`Prompt.ask_tells`).
And nothing that waits is late (`Punctual`): with every phase comes a bound on the clock, which is the start of the
stage as long as it gathers its arguments, and its end from then on. What a phase awaits, it awaits until that bound
is there (`Lasting`). -/
namespace StageGraph

/-- Something is awaited until a time: the time is there, or something takes so long. -/
def Lasting {π : Type} (time : π → ℕ∞) (now : Nat) (t : ℕ∞) (awaited : List π) : Prop :=
  t ≤ now ∨ ∃ p ∈ awaited, t ≤ time p

section

variable {π : Type} {time : π → ℕ∞} {now now' : Nat} {t : ℕ∞} {before after : List π}

/-- What takes a time at most, and takes it if there is anything to wait for. -/
theorem lasting_latest (time : π → ℕ∞) (now : Nat) (l : List π) : Lasting time now (latest time l) l := by
  rcases latest_eq time l with hzero | ⟨p, hp, heq⟩
  · rw [hzero]
    exact .inl zero_le
  · exact .inr ⟨p, hp, le_of_eq heq⟩

theorem Lasting.later (h : Lasting time now t before) (hnow : now ≤ now') : Lasting time now' t before :=
  h.imp_left fun ht => ht.trans (ENat.natCast_le_natCast.mpr hnow)

theorem Lasting.left (h : Lasting time now t before) (hcome : ∀ p ∈ before, time p ≤ now ∨ p ∈ after) :
    Lasting time now t after := by
  rcases h with ht | ⟨p, hp, ht⟩
  · exact .inl ht
  · exact (hcome p hp).imp ht.trans fun hmem => ⟨p, hmem, ht⟩

theorem Lasting.passed (h : Lasting time now t before) (hcome : ∀ p ∈ before, time p ≤ now) : t ≤ now := by
  rcases h with ht | ⟨p, hp, ht⟩
  · exact ht
  · exact ht.trans (hcome p hp)

end

namespace Plan

open Machine Progress

variable {plan : Plan} {d time : String → ℕ∞} {m m' : Machine} {among : List String} {t : ℕ∞}

/-! ### What is there -/

/-- No result is there before its time, and the inputs are there. -/
structure Prompt (plan : Plan) (time : String → ℕ∞) (m : Machine) : Prop where
  sized : plan.stages.length ≤ m.slots.size
  filled {s : Nat} : (m.slot s).isSome → plan.slotTime time s ≤ m.clock
  inputs {k : Nat} : k < plan.spec.input.length → (m.slot (plan.stages.length + k)).isSome

theorem Prompt.alike (h : plan.Prompt time m) (ha : m.Alike m') : plan.Prompt time m' where
  sized := by
    rw [ha.size]
    exact h.sized
  filled {s} hs := by
    rw [ha.slot] at hs
    rw [ha.clock]
    exact h.filled hs
  inputs hk := by
    rw [ha.slot]
    exact h.inputs hk

/-- What is told of a reference that resolves is a value, and it is told in time. -/
theorem Prompt.fair_told (h : plan.Prompt time m) (hpaced : plan.Paced d time) {l : Link} (hl : plan.Fair among l)
    {o : Outcome} (hagrees : o.toOption = l.value? plan.slotValue?)
    (hslot : ∀ s, l.base = .ok (.pending s) → (m.slot s).isSome) :
    (∃ v, o = .ok v) ∧ l.time (plan.slotTime time) ≤ m.clock := by
  have hok (hsome : (l.value? plan.slotValue?).isSome) : ∃ v, o = .ok v := by
    rw [← hagrees] at hsome
    cases o with
    | ok v => exact ⟨v, rfl⟩
    | error f => cases hsome
  cases hl with
  | input hpath =>
    refine ⟨hok ?_, latest_le fun s hs => ?_⟩
    · show (plan.pendingInput.reached? plan.slotValue? _).isSome
      rw [pendingInput, bindings, Resolvable.reached?_inputs plan.inputs plan.bound fun k _ => plan.slotValue?_input k]
      exact hpath
    · obtain ⟨k, -, rfl⟩ := mem_pendingInput hs
      rw [slotTime_input]
      exact zero_le
  | @stage k sf path blamed hsf hname hpath =>
    have htime := h.filled (hslot k rfl)
    refine ⟨hok ?_, latest_le fun s hs => ?_⟩
    · have hfinite : time sf.1.name ≠ ⊤ := by
        rw [slotTime_stage time hsf] at htime
        exact ne_top_of_le_ne_top (ENat.natCast_ne_top _) htime
      obtain ⟨v, hv⟩ := Option.isSome_iff_exists.mp
        (hpaced.meaning_isSome hfinite (List.mem_map_of_mem (mem_stages hsf)))
      show ((Resolvable.pending k).reached? plan.slotValue? path).isSome
      rw [Resolvable.reached?_pending, plan.slotValue?_stage hsf, hv]
      exact hpath v hv
    · rw [List.mem_singleton.mp hs]
      exact htime

/-- Nothing is told of a link to a stage that is not over. -/
theorem look_pending_none {s : Nat} {path : Path} {blamed : Option Value} (h : (receive s m).1 = none) :
    (Link.look receive ⟨.ok (.pending s), path, blamed⟩ m).1 = none := by
  obtain ⟨next, heq⟩ := Resolvable.obtain?_pending receive s path
  show ((((Resolvable.pending s).obtain? receive path) >>= fun found =>
    Pure.pure (found.map (Except.mapError (Fault.blame? · blamed)))) m).1 = none
  rw [heq]
  cases hr : receive s m with
  | mk told m' =>
    rw [hr] at h
    obtain rfl : told = none := h
    simp only [bind, StateT.bind, hr]
    rfl

theorem linked_pending_none {s : Nat} {path : Path} {blamed : Option Value} (h : m.slot s = none) :
    m.linked ⟨.ok (.pending s), path, blamed⟩ = none := by
  obtain ⟨next, heq⟩ := Resolvable.obtain?_pending (m := Id) m.slot s path
  show ((Resolvable.pending s).obtain? (m := Id) m.slot path).map _ = none
  rw [heq, h]
  rfl

/-! ### What is told -/

/-- What a run on time awaits up to some time: references that resolve, to the input or to one of several stages, and
values that come by themselves. -/
def Timely (plan : Plan) (time : String → ℕ∞) (among : List String) (t : ℕ∞) : Awaited → Prop
  | .link l => plan.Fair among l ∧ l.time (plan.slotTime time) ≤ t
  | .timer due o => (∃ v, o = .ok v) ∧ due ≤ t
  | .broken _ | .output _ => False

theorem Timely.plain {a : Awaited} (ha : plan.Timely time among t a) : a.Plain := by
  cases a with
  | broken due => exact ha
  | output p => exact ha
  | _ => exact trivial

theorem Prompt.linked_tells (h : plan.Prompt time m) (hpaced : plan.Paced d time) (haccord : plan.Accord m)
    {l : Link} (hl : plan.Fair among l) :
    TellsWell (fun l => m.linked l = none) (fun l : Link => l.time (plan.slotTime time) ≤ (m.clock : ℕ∞)) l
      (m.linked l) := by
  refine ⟨id, fun o ho => h.fair_told hpaced hl (linked_agrees l (fun s _ => haccord.slots s) o ho) fun s hs => ?_⟩
  rcases l with ⟨base, path, blamed⟩
  obtain rfl : base = .ok (.pending s) := hs
  refine Option.isSome_iff_ne_none.mpr fun hnone => ?_
  rw [linked_pending_none hnone] at ho
  cases ho

theorem Prompt.look_tells (h : plan.Prompt time m) (hpaced : plan.Paced d time) (haccord : plan.Accord m)
    {l : Link} (hl : plan.Fair among l) : (Telling.keeping (Taken m)).holds (l.look receive)
      (TellsWell (fun _ => True) (fun l : Link => l.time (plan.slotTime time) ≤ (m.clock : ℕ∞)) l) := by
  intro m' hm'
  obtain ⟨hagrees, hkept⟩ := Link.look_agrees (Telling.keeping (Taken m)) l (fun s _ => receive_agrees (haccord.slots s)) m' hm'
  refine ⟨⟨fun _ => trivial, fun o ho => h.fair_told hpaced hl (hagrees o ho) fun s hs => ?_⟩, hkept⟩
  rcases l with ⟨base, path, blamed⟩
  obtain rfl : base = .ok (.pending s) := hs
  refine Option.isSome_iff_ne_none.mpr fun hnone => ?_
  have hreceive : (receive s m').1 = none := by
    refine Option.eq_none_iff_forall_ne_some.mpr fun o' ho' => ?_
    have hslot := told_of_receive ho'
    rw [hm'.slot, hnone] at hslot
    cases hslot
  rw [look_pending_none hreceive] at ho
  cases ho

theorem Prompt.standing_tells (h : plan.Prompt time m) (hpaced : plan.Paced d time) (haccord : plan.Accord m)
    {a : Awaited} (ha : plan.Timely time among t a) :
    TellsWell (plan.Timely time among t) (fun a : Awaited => a.time (plan.slotTime time) ≤ (m.clock : ℕ∞)) a
      (m.standing a) := by
  refine ⟨fun _ => ha, fun o ho => ?_⟩
  cases a with
  | link l => exact (h.linked_tells hpaced haccord ha.1).2 o ho
  | timer due o' =>
    simp only [standing] at ho
    split at ho
    · next hdue =>
      cases ho
      exact ⟨ha.1, ENat.natCast_le_natCast.mpr hdue⟩
    · cases ho
  | broken due => exact ha.elim
  | output p => exact ha.elim

theorem Prompt.ask_tells (h : plan.Prompt time m) (hpaced : plan.Paced d time) (haccord : plan.Accord m)
    {a : Awaited} (ha : plan.Timely time among t a) : (Telling.keeping (Taken m)).holds (ask a)
      (TellsWell (plan.Timely time among t) (fun a : Awaited => a.time (plan.slotTime time) ≤ (m.clock : ℕ∞)) a) := by
  cases a with
  | link l =>
    exact (Telling.keeping (Taken m)).mono (h.look_tells hpaced haccord ha.1) fun told ht => ⟨fun _ => ha, ht.2⟩
  | timer due o =>
    intro m' hm'
    refine ⟨?_, hm'⟩
    show TellsWell _ _ _ (m'.standing (.timer due o))
    rw [hm'.alike.standing]
    exact h.standing_tells hpaced haccord ha
  | broken due => exact ha.elim
  | output p => exact ha.elim

/-! ### What is not told -/

/-- A link of which nothing is told waits for a stage that is not over. -/
theorem Prompt.linked_none (h : plan.Prompt time m) {l : Link} (hl : plan.Fair among l) (hnone : m.linked l = none) :
    ∃ k sf, plan.stages[k]? = some sf ∧ sf.1.name ∈ among ∧ m.slot k = none ∧
      time sf.1.name ≤ l.time (plan.slotTime time) := by
  have hsome {base : Resolvable Nat} {path : Path} {blamed : Option Value}
      (hall : ∀ s ∈ base.awaited, (m.slot s).isSome) : m.linked ⟨.ok base, path, blamed⟩ ≠ none :=
    Option.isSome_iff_ne_none.mp (linked_isSome rfl hall)
  cases hl with
  | input hpath =>
    refine absurd hnone (hsome fun s hs => ?_)
    obtain ⟨k, hk, rfl⟩ := mem_pendingInput hs
    exact h.inputs hk
  | @stage k sf path blamed hsf hname hpath =>
    refine ⟨k, sf, hsf, hname, Option.eq_none_iff_forall_ne_some.mpr fun o ho => hsome ?_ hnone, ?_⟩
    · intro s hs
      rw [List.mem_singleton.mp hs, ho]
      rfl
    · rw [← slotTime_stage time hsf]
      exact le_latest (List.mem_singleton_self k)

/-! ### Phases -/

/-- What a task awaits until a time: it is not late, nothing of it has failed, and it goes on waiting until then. -/
structure Pends (plan : Plan) (time : String → ℕ∞) (now : Nat) (among : List String) (t : ℕ∞)
    (items : List (Progress Awaited)) : Prop where
  soon : now ≤ t
  timely : everyOfAll (fun _ => False) (plan.Timely time among t) items
  waits : awaitedOfAll items ≠ []
  lasting : Lasting (Awaited.time (plan.slotTime time)) now t (awaitedOfAll items)

/-- A phase on time: a stage gathers its arguments until it starts, and is at work until it is over. -/
def OnTime (plan : Plan) (time : String → ℕ∞) (now : Nat) (sf : Stage × Function) : Phase → Prop
  | .unstarted _ _ => now ≤ starts time sf.1
  | .gathering _ args => plan.Pends time now sf.1.needs (starts time sf.1) args
  | .resting due next => now ≤ due ∧ due + next.duration = time sf.1.name
  | .settling result => plan.Pends time now [] (time sf.1.name) [result]
  | .hanging => time sf.1.name = ⊤
  | .finished => True

/-- When the output has all of its stages. -/
noncomputable def ends (plan : Plan) (time : String → ℕ∞) : ℕ∞ := latest time plan.spec.output.needs

/-- An output on time: it is awaited until it has all of its stages. -/
def OutputOnTime (plan : Plan) (time : String → ℕ∞) (now : Nat) : Output → Prop
  | .unread => True
  | .linked r => r.every (fun _ => False) (fun l => plan.Fair plan.spec.output.needs l ∧
      l.time (plan.slotTime time) ≤ plan.ends time) ∧
    Lasting (Link.time (plan.slotTime time)) now (plan.ends time) r.awaited
  | .known _ => False

/-- Nothing is early and nothing is late: results, the tasks of the stages, which are in the queue as long as they can
move, and the output. -/
structure Punctual (plan : Plan) (time : String → ℕ∞) (m : Machine) : Prop where
  prompt : plan.Prompt time m
  tasks {k : Nat} {sf : Stage × Function} : plan.stages[k]? = some sf →
    ∃ phase, m.tasks[k]? = some (task k sf phase) ∧ plan.OnTime time m.clock sf phase ∧
      (phase = .finished → (m.slot k).isSome)
  queued {k : Nat} {t : Task} : m.tasks[k]? = some t → 0 < t.phase.rank → k ∈ m.ready ++ m.blocked
  output : ∃ output, m.instances = #[plan.atWork [] output] ∧ plan.OutputOnTime time m.clock output
  soon : m.clock ≤ plan.ends time

end Plan
end StageGraph
