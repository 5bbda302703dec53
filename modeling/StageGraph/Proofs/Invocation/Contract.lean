import StageGraph.Proofs.Invocation.Events
import StageGraph.Rehearsal

/-! The contract of an invocation.

An invocation is a task for a function: of a stage, or without a pipeline. Whatever happens, it has not started and
nothing was done for it, or from its start on it keeps the contract (`Contract`): its function is called once at most, and
just if the arguments resolve and conform; there is a value just if what the function gives resolves to it and conforms;
anything else is a fault that has a node; and where nothing comes about, something has not come that is waited for, or it
has broken down. A function that breaks down itself fails with that; a pending value that breaks down takes the invocation
with it, and then there is no result (`BrokenDown`). The main theorem is `invocation_contract`. -/
namespace StageGraph.Machine

variable {m m' : Machine} {k : Nat} {t : Task} {given : List (String × Resolvable Awaited)} {positional : Bool}
  {kept : List Nat}

/-- What the function of a task replied to its call is carried out up to this, with all the children that the task has
started, and those that it keeps. -/
def Reached (m : Machine) (k : Nat) (t : Task) (kept : List Nat) (reply : Reply) : Prop :=
  ∃ call ∈ m.callsOf k, m.Performed k t (t.function.handler (m.seen t call.args)) (m.started k) kept reply

/-- How far an invocation got: it was not called, or the reply is carried out up to this. -/
def Got (m : Machine) (k : Nat) (t : Task) (kept : List Nat) : Option Reply → Prop
  | none => m.callsOf k = []
  | some reply => m.Reached k t kept reply

/-- An invocation has broken down over an argument, or it does over what its function gives. -/
def BrokenDown (m : Machine) (k : Nat) (t : Task) (given : List (String × Resolvable Awaited)) (kept : List Nat) : Prop :=
  ∃ reply?, m.Got k t kept reply? ∧ m.BreaksDown given reply?

/-- What is in the slot of an invocation is no result of it: the end of its pipeline left it there, or the slot was given
up because the invocation broke down. -/
def Forgone (m : Machine) (k : Nat) (t : Task) (given : List (String × Resolvable Awaited)) (kept : List Nat)
    (o : Outcome) : Prop := m.LeftIn t o ∨ m.BrokenDown k t given kept ∧ GivenUp t o

/-- A reply is not carried out any further for now: it has no end, it rests, or a delay or the output of a child is still to
come. -/
inductive Pauses (m : Machine) (k : Nat) (t : Task) : Reply → Prop
  | hangs : Pauses m k t .hang
  | rests {ms due : Nat} {next : Reply} : m.tasks[k]? = some { t with phase := .resting due next } → m.clock < due →
    Pauses m k t (.rest ms next)
  | delays {r : Resolvable Promise} {ms : Nat} {o : Outcome} {phase : Phase} {due : Nat} : .later ms o ∈ r.awaited →
    m.tasks[k]? = some { t with phase := phase } → due ∈ phase.moments → m.clock < due → Pauses m k t (.give r)
  | breaksLater {r : Resolvable Promise} {ms : Nat} {phase : Phase} {due : Nat} : .broken ms ∈ r.awaited →
    m.tasks[k]? = some { t with phase := phase } → due ∈ phase.moments → m.clock < due → Pauses m k t (.give r)
  | awaits {r : Resolvable Promise} {c : Nat} : .held c ∈ r.awaited → m.outputNow? c = none → Pauses m k t (.give r)

/-- What an invocation keeps to from its start on, when these are the children that its function keeps. What the end of
its pipeline leaves in its slot is no result of it, nor is what is left there when it breaks down. -/
structure Contract (m : Machine) (k : Nat) (t : Task) (given : List (String × Resolvable Awaited)) (positional : Bool)
    (kept : List Nat) : Prop where
  /-- The function is called once at most, with arguments that the invocation gets through with. -/
  once : m.callsOf k = [] ∨ ∃ bound, m.Admits t given positional bound ∧
    m.callsOf k = [⟨k, t.function.name, t.function.recorded, bound⟩]
  /-- Once there is a result, the function was called just if the invocation gets through to the call. -/
  called {o : Outcome} : m.slot t.slot = some o → ¬m.Forgone k t given kept o →
    (m.callsOf k ≠ [] ↔ ∃ bound, m.Admits t given positional bound)
  /-- What is done is what the function replied to what it saw. It is done as far as it goes, and if nothing is awaited for
  the result there is one, unless the pipeline is over. -/
  replied : m.callsOf k ≠ [] → ∃ reply, m.Reached k t kept reply ∧ m.Halts t reply ∧
    (reply.Prompt → (m.slot t.slot).isSome ∨ m.Orphaned t)
  /-- The result is a value just if what the function gives resolves to it, and it conforms. -/
  returns {o : Outcome} (v : Value) : m.slot t.slot = some o → ¬m.Forgone k t given kept o → (o = .ok v ↔
    ∃ r, m.Reached k t kept (.give r) ∧ r.value? (Promise.comesTo? m.valueAt?) = some v ∧
      t.function.output.check v = true)
  /-- Any other result is why there was no call, or what the reply ended with. -/
  fails {f : Fault} : m.slot t.slot = some (.error f) → ¬m.Forgone k t given kept (.error f) →
    m.callsOf k = [] ∧ m.Declines t given positional f ∨
      ∃ reply, m.Reached k t kept reply ∧ m.Concludes t reply (.error f)
  attributed {f : Fault} : m.slot t.slot = some (.error f) → ¬m.Forgone k t given kept (.error f) → f.node.isSome
  conforms {v : Value} : m.slot t.slot = some (.ok v) → t.function.output.check v = true
  /-- When nobody can move and there is nothing in the slot, an argument has not come, the reply pauses, or the invocation
  has broken down. -/
  silence : m.Idle → m.Housed t → m.slot t.slot = none →
    m.callsOf k = [] ∧ (∃ e ∈ given, ∃ a ∈ e.2.awaited, m.standing a = none) ∨
      (∃ reply, m.Reached k t kept reply ∧ m.Pauses k t reply) ∨ m.BrokenDown k t given kept

/-! ### What an account says -/

theorem Stands.reached {reply : Reply} (h : m.Stands k t given positional kept (some reply)) :
    m.Reached k t kept reply := by
  cases h with
  | called hcalls _ _ hperformed => exact ⟨_, hcalls ▸ List.mem_singleton_self _, hperformed⟩

theorem Stands.uncalled_iff {reply? : Option Reply} (h : m.Stands k t given positional kept reply?) :
    m.callsOf k = [] ↔ reply? = none := by
  cases h with
  | uncalled hcalls => exact iff_of_true hcalls rfl
  | called hcalls => exact iff_of_false (by rw [hcalls]; exact List.cons_ne_nil _ _) nofun

theorem Stands.got {reply? : Option Reply} (h : m.Stands k t given positional kept reply?) : m.Got k t kept reply? := by
  cases reply? with
  | none => exact h.uncalled_iff.mpr rfl
  | some reply => exact h.reached

theorem Stands.not_reached (h : m.Stands k t given positional kept none) (reply : Reply) : ¬m.Reached k t kept reply := by
  rintro ⟨call, hcall, -⟩
  rw [h.uncalled_iff.mpr rfl] at hcall
  cases hcall

/-- The reply comes to one end at most. -/
theorem Stands.unique {reply? : Option Reply} {a b : Reply} (h : m.Stands k t given positional kept reply?)
    (ha : m.Reached k t kept a) (hb : m.Reached k t kept b) (hlast : a.Last) (hlast' : b.Last) : a = b := by
  cases h with
  | uncalled hcalls =>
    obtain ⟨call, hcall, -⟩ := ha
    rw [hcalls] at hcall
    cases hcall
  | called hcalls =>
    obtain ⟨call, hcall, ha⟩ := ha
    obtain ⟨call', hcall', hb⟩ := hb
    rw [hcalls] at hcall hcall'
    obtain rfl := (List.mem_singleton.mp hcall).trans (List.mem_singleton.mp hcall').symm
    exact ha.unique hb hlast hlast'

/-- What is no result is a failure. -/
theorem Forgone.error {o : Outcome} (h : m.Forgone k t given kept o) : ∃ f, o = .error f := by
  rcases h with ⟨_, -, ⟨f, hf, -⟩, -⟩ | ⟨-, -, f, hf, -⟩
  · exact ⟨f, hf⟩
  · exact ⟨f, hf⟩

/-- An invocation that was called breaks down only over what its function gives. -/
theorem not_brokenDown (hcalled : m.callsOf k ≠ [])
    (hsound : ∀ {reply : Reply}, m.Reached k t kept reply → ¬m.BreaksDown given (some reply)) :
    ¬m.BrokenDown k t given kept := by
  rintro ⟨reply?, hgot, hbreaks⟩
  cases reply? with
  | none => exact hcalled hgot
  | some reply => exact hsound hgot hbreaks

/-- What gives no cause to look has not come. -/
theorem standing_none {a : Awaited} (h : m.stirs a = false) : m.standing a = none := by
  cases a with
  | output p =>
    simp only [stirs] at h
    split at h
    · next r hr => simp only [standing, hr]
    · cases h
  | broken due => rfl
  | _ => exact Option.isSome_eq_false_iff.mp h |> Option.isNone_iff_eq_none.mp

/-- When nobody can move, an invocation without a result waits for something that has not come, or it has broken down. -/
theorem Accounts.silence {phase : Phase} (h : m.Accounts k t given positional kept phase) (hm : m.Grounded none)
    (ht : m.tasks[k]? = some { t with phase := phase }) (hidle : m.Idle) (hlives : m.Housed t)
    (hempty : m.slot t.slot = none) :
    m.callsOf k = [] ∧ (∃ e ∈ given, ∃ a ∈ e.2.awaited, m.standing a = none) ∨
      (∃ reply, m.Reached k t kept reply ∧ m.Pauses k t reply) ∨ m.BrokenDown k t given kept := by
  have hattended := hm.attended ht nofun
  have hstill (hwaiting : m.Waiting k) : m.stirred k = false := hidle.unstirred hwaiting
  unfold stirred at hstill
  rw [ht] at hstill
  cases h with
  | gathering hstands _ _ _ hcollects hsifted hopen =>
    obtain ⟨a, ha⟩ := Progress.exists_awaitedOfAll hsifted hopen
    obtain ⟨e, he, hmem⟩ := Progress.everyOfAll_awaited _ hcollects.parts a ha
    have hnot : m.stirs a = false := Bool.eq_false_iff.mpr (List.any_eq_false.mp (hstill hattended) a ha)
    exact .inl ⟨hstands.uncalled_iff.mpr rfl, e, he, a, hmem, standing_none hnot⟩
  | @resting ms due next hstands =>
    have hnot : m.clock < due := Nat.lt_of_not_le (of_decide_eq_false (hstill hattended))
    exact .inr (.inl ⟨_, hstands.reached, .rests ht hnot⟩)
  | hanging hstands => exact .inr (.inl ⟨_, hstands.reached, .hangs⟩)
  | @settling r result hstands _ hexpects hsifted hopen =>
    obtain ⟨a, ha⟩ := Progress.exists_awaited hsifted hopen
    have hnot : m.stirs a = false := Bool.eq_false_iff.mpr (List.any_eq_false.mp (hstill hattended) a ha)
    refine .inr (.inl ⟨_, hstands.reached, ?_⟩)
    cases Progress.every_awaited _ hexpects.parts a ha with
    | timer due hlater =>
      have hnone := standing_none hnot
      simp only [standing, ite_eq_right_iff, reduceCtorEq, imp_false] at hnone
      exact .delays hlater ht (List.mem_flatMap.mpr ⟨_, ha, List.mem_singleton_self _⟩) (Nat.lt_of_not_le hnone)
    | broken due hbroken =>
      have hstill : ¬due ≤ m.clock := of_decide_eq_false hnot
      exact .breaksLater hbroken ht (List.mem_flatMap.mpr ⟨_, ha, List.mem_singleton_self _⟩) (Nat.lt_of_not_le hstill)
    | output hheld => exact .awaits hheld (hm.tidy.no_output hnot)
  | finished _ _ ho => cases hempty.symm.trans ho
  | lapsed _ _ hover => exact absurd hover hlives.not_orphaned
  | broken hstands _ hbreaks => exact .inr (.inr ⟨_, hstands.got, hbreaks⟩)

/-- **An invocation that is accounted for keeps the contract.** -/
theorem Accounted.contract (h : m.Accounted k t given positional) (hm : m.Grounded none) :
    ∃ kept, m.Contract k t given positional kept := by
  obtain ⟨phase, kept, ht, haccounts⟩ := h
  obtain ⟨reply?, hstands, hgoes, htold⟩ := haccounts.told
  have hends {o : Outcome} (ho : m.slot t.slot = some o) (hnot : ¬m.Forgone k t given kept o) :
      m.Fulfils t given positional reply? o := by
    refine (htold o ho).resolve_left fun hforgone => hnot (hforgone.imp_right fun ⟨hbreaks, hgivenUp⟩ => ?_)
    exact ⟨⟨reply?, hstands.got, hbreaks⟩, hgivenUp⟩
  have hsilence := haccounts.silence hm ht
  refine ⟨kept, ?_⟩
  cases reply? with
  | none =>
    have hcalls := hstands.uncalled_iff.mpr rfl
    refine ⟨.inl hcalls, fun ho hnot => ?_, fun hcalled => absurd hcalls hcalled, fun v ho hnot => ?_, fun ho hnot => ?_,
      fun ho hnot => ?_, fun ho => ?_, hsilence⟩
    · obtain ⟨f, -, hdeclines⟩ := hends ho hnot
      exact iff_of_false (fun hcalled => hcalled hcalls) fun ⟨bound, hadmits⟩ => hdeclines.not_admits bound hadmits
    · obtain ⟨f, rfl, -⟩ := hends ho hnot
      exact iff_of_false nofun fun ⟨r, hreached, _⟩ => hstands.not_reached _ hreached
    · obtain ⟨f, hf, hdeclines⟩ := hends ho hnot
      cases hf
      exact .inl ⟨hcalls, hdeclines⟩
    · obtain ⟨f, hf, hdeclines⟩ := hends ho hnot
      cases hf
      exact hdeclines.node
    · obtain ⟨f, hf, -⟩ := hends ho fun hforgone => nomatch hforgone.error
      cases hf
  | some reply =>
    have hreached := hstands.reached
    have hcalled : m.callsOf k ≠ [] := fun hcalls => nomatch hstands.uncalled_iff.mp hcalls
    obtain ⟨bound, hadmits, hcalls⟩ : ∃ bound, m.Admits t given positional bound ∧
        m.callsOf k = [⟨k, t.function.name, t.function.recorded, bound⟩] := by
      cases hstands with
      | called hcalls hadmits => exact ⟨_, hadmits, hcalls⟩
    refine ⟨.inr ⟨bound, hadmits, hcalls⟩, fun _ _ => iff_of_true hcalled ⟨bound, hadmits⟩,
      fun _ => ⟨reply, hreached, hgoes reply rfl⟩,
      fun v ho hnot => ?_, fun ho hnot => .inr ⟨reply, hreached, hends ho hnot⟩,
      fun ho hnot => Concludes.node (hends ho hnot), fun ho => ?_, hsilence⟩
    · have hconcludes : m.Concludes t reply _ := hends ho hnot
      rw [hconcludes.value_iff]
      refine exists_congr fun r => and_congr_left fun _ => ⟨fun heq => heq ▸ hreached, fun hgives => ?_⟩
      exact hstands.unique hreached hgives hconcludes.last trivial
    · have hconcludes : m.Concludes t reply _ := hends ho fun hforgone => nomatch hforgone.error
      obtain ⟨_, -, -, hcheck⟩ := (hconcludes.value_iff _).mp rfl
      exact hcheck

/-- What an invocation that was called ends with is what its reply ends with. -/
theorem Contract.concludes (h : m.Contract k t given positional kept) (hcalled : m.callsOf k ≠ []) {o : Outcome}
    (ho : m.slot t.slot = some o) (hnot : ¬m.Forgone k t given kept o) :
    ∃ reply, m.Reached k t kept reply ∧ m.Concludes t reply o := by
  cases o with
  | ok v =>
    obtain ⟨r, hreached, hvalue, hcheck⟩ := (h.returns v ho hnot).mp rfl
    exact ⟨_, hreached, .returned hvalue hcheck⟩
  | error f => exact (h.fails ho hnot).resolve_left fun hdeclined => hcalled hdeclined.1

/-- As there is one call at most, it is the one that was replied to. -/
theorem Contract.reached_iff (h : m.Contract k t given positional kept) {call : Received} (hcall : call ∈ m.callsOf k)
    (reply : Reply) : m.Reached k t kept reply ↔
      m.Performed k t (t.function.handler (m.seen t call.args)) (m.started k) kept reply := by
  refine ⟨fun ⟨call', hcall', hperformed⟩ => ?_, fun hperformed => ⟨call, hcall, hperformed⟩⟩
  rcases h.once with hnone | ⟨bound, -, hone⟩
  · rw [hnone] at hcall
    cases hcall
  · rw [hone] at hcall hcall'
    obtain rfl := (List.mem_singleton.mp hcall).trans (List.mem_singleton.mp hcall').symm
    exact hperformed

/-- The pipeline of a task that was called is there. -/
theorem Accounted.placed (h : m.Accounted k t given positional) (hcalled : m.callsOf k ≠ []) {p : Nat}
    (hp : t.pipeline = some p) : ∃ i, m.IsInstance p i := by
  obtain ⟨phase, kept, -, haccounts⟩ := h
  obtain ⟨reply?, hstands, -⟩ := haccounts.told
  cases hstands with
  | uncalled hnone => exact absurd hnone hcalled
  | called _ _ hplaced => exact hplaced p hp

/-! ### The contract -/

end StageGraph.Machine
