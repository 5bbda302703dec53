import StageGraph.Proofs.Invocation.Reply
import StageGraph.Proofs.Resolvable.Sifting

/-! How an invocation stands.

At any time after its start, an invocation was not called, or it was called once with the arguments that it was admitted
with, and what was carried out of the reply accounts for all its children (`Stands`). The phase of its task goes with
that, and its slot (`Accounts`): as long as it is at work there is nothing in the slot but what the end of its pipeline
may leave there, and what is awaited are the arguments or promises of the reply. If one of these breaks down, so does the
invocation, which then has no result (`BreaksDown`). While others are at work it stays so (`Beside.accounted`). -/
namespace StageGraph.Machine

open Progress

variable {m m' : Machine} {k : Nat} {t : Task} {given : List (String × Resolvable Awaited)} {positional : Bool}
  {kept : List Nat} {reply? : Option Reply} {o : Outcome}

/-! ### Parts of an account -/

/-- There is nothing in the slot of a task but what the end of its pipeline left there. -/
def Silent (m : Machine) (t : Task) : Prop := ∀ o, m.slot t.slot = some o → m.LeftIn t o

/-- Whether the function was called, and how far its reply is carried out, with the children that it keeps. -/
inductive Stands (m : Machine) (k : Nat) (t : Task) (given : List (String × Resolvable Awaited)) (positional : Bool)
    (kept : List Nat) : Option Reply → Prop
  | uncalled : m.callsOf k = [] → m.started k = [] → Stands m k t given positional kept none
  | called {bound : Fields} {reply : Reply} : m.callsOf k = [⟨k, t.function.name, t.function.recorded, bound⟩] →
    m.Admits t given positional bound → (∀ p, t.pipeline = some p → ∃ i, m.IsInstance p i) →
      m.Performed k t (t.function.handler (m.seen t bound)) (m.started k) kept reply →
        Stands m k t given positional kept (some reply)

/-- What is known of the arguments so far, and what is still awaited. -/
structure Collects (m : Machine) (given : List (String × Resolvable Awaited)) (items : List (Progress Awaited)) :
    Prop where
  values (known : Station → Option Value) : m.Bears known → values? (Awaited.comesTo? known) items =
    values? (Awaited.comesTo? known) (given.map fun a => a.2.progress)
  parts : everyOfAll (fun f => ∃ e ∈ given, ∃ a ∈ e.2.awaited, m.Told a f) (fun a => ∃ e ∈ given, a ∈ e.2.awaited) items

/-- What awaits the coming of a promise. -/
inductive Stead (r : Resolvable Promise) : Awaited → Prop
  | timer {ms : Nat} (due : Nat) {o : Outcome} : .later ms o ∈ r.awaited → Stead r (.timer due o)
  | broken {ms : Nat} (due : Nat) : .broken ms ∈ r.awaited → Stead r (.broken due)
  | output {c : Nat} : .held c ∈ r.awaited → Stead r (.output c)

/-- What is known of a result so far, and what is still awaited. -/
structure Expects (m : Machine) (r : Resolvable Promise) (result : Progress Awaited) : Prop where
  value (known : Station → Option Value) : m.Bears known →
    result.value? (Awaited.comesTo? known) = r.value? (Promise.comesTo? known)
  parts : result.every (fun f => ∃ p ∈ r.awaited, m.Breaks p f) (Stead r)

/-- What an invocation ends with, when it is not called or when that is what its function replies. -/
def Fulfils (m : Machine) (t : Task) (given : List (String × Resolvable Awaited)) (positional : Bool) :
    Option Reply → Outcome → Prop
  | none, o => ∃ f, o = .error f ∧ m.Declines t given positional f
  | some reply, o => m.Concludes t reply o

/-- An invocation breaks down: an argument does, before the call, or something that its function gives. -/
def BreaksDown (m : Machine) (given : List (String × Resolvable Awaited)) : Option Reply → Prop
  | none => ∃ e ∈ given, ∃ due, .broken due ∈ e.2.awaited ∧ m.Past due
  | some reply => ∃ r ms, reply = .give r ∧ .broken ms ∈ r.awaited

/-- The slot of a stage is given up, as it is when a pipeline ends. -/
def GivenUp (t : Task) (o : Outcome) : Prop := (∃ p, t.pipeline = some p) ∧ ∃ f, o = .error f ∧ Lost f

theorem Fulfils.halts (h : m.Fulfils t given positional reply? o) :
    ∀ reply ∈ reply?, m.Halts t reply := by
  intro reply hreply
  cases hreply
  exact Concludes.halts h

/-- How an invocation stands, by the phase of its task. -/
inductive Accounts (m : Machine) (k : Nat) (t : Task) (given : List (String × Resolvable Awaited)) (positional : Bool)
    (kept : List Nat) : Phase → Prop
  | gathering {items : List (Progress Awaited)} : m.Stands k t given positional kept none → positional = false →
    m.Silent t → m.Housed t → m.Collects given items → SiftedAll items → gathered items = none →
      Accounts m k t given positional kept (.gathering (given.map Prod.fst) items)
  | resting {ms due : Nat} {next : Reply} : m.Stands k t given positional kept (some (.rest ms next)) → m.Silent t →
    m.Housed t → Accounts m k t given positional kept (.resting due next)
  | hanging : m.Stands k t given positional kept (some .hang) → m.Silent t →
    Accounts m k t given positional kept .hanging
  | settling {r : Resolvable Promise} {result : Progress Awaited} : m.Stands k t given positional kept (some (.give r)) →
    m.Silent t → m.Expects r result → result.Sifted → result.outcome? = none →
      Accounts m k t given positional kept (.settling result)
  | finished {reply? : Option Reply} {o : Outcome} : m.Stands k t given positional kept reply? →
    (∀ reply ∈ reply?, m.Halts t reply) → m.slot t.slot = some o →
      m.LeftIn t o ∨ m.Fulfils t given positional reply? o → Accounts m k t given positional kept .finished
  /-- The pipeline ended first. -/
  | lapsed {reply? : Option Reply} : m.Stands k t given positional kept reply? → (∀ reply ∈ reply?, m.Halts t reply) →
    m.Orphaned t → m.Silent t → Accounts m k t given positional kept .finished
  /-- What it waited for broke down. -/
  | broken {reply? : Option Reply} : m.Stands k t given positional kept reply? → (∀ reply ∈ reply?, m.Halts t reply) →
    m.BreaksDown given reply? → (∀ o, m.slot t.slot = some o → m.LeftIn t o ∨ GivenUp t o) →
      Accounts m k t given positional kept .finished

/-- An invocation that has started. -/
def Accounted (m : Machine) (k : Nat) (t : Task) (given : List (String × Resolvable Awaited)) (positional : Bool) : Prop :=
  ∃ phase kept, m.tasks[k]? = some { t with phase := phase } ∧ m.Accounts k t given positional kept phase

theorem Accounted.isTask (h : m.Accounted k t given positional) : m.IsTask k t := by
  obtain ⟨phase, -, ht, -⟩ := h
  exact ⟨phase, ht⟩

theorem Stands.promoted {reply reply' : Reply} (h : m.Stands k t given positional kept (some reply))
    (hnext : m.Performed k t reply [] [] reply') : m.Stands k t given positional kept (some reply') := by
  cases h with
  | called hcalls hadmits hplaced hperformed =>
    have hall := hperformed.trans hnext
    rw [List.append_nil, List.append_nil] at hall
    exact .called hcalls hadmits hplaced hall

theorem Stands.goes (h : m.Stands k t given positional kept reply?) (he : m.Extends m')
    (hcalls : m'.callsOf k = m.callsOf k) (hchildren : m'.started k = m.started k) :
    m'.Stands k t given positional kept reply? := by
  cases h with
  | uncalled hnone hstarted => exact .uncalled (hcalls.trans hnone) (hchildren.trans hstarted)
  | called hcall hadmits hplaced hperformed =>
    refine .called (hcalls.trans hcall) (he.admits hadmits) (fun p hp => (hplaced p hp).imp fun _ => he.isInstance) ?_
    rw [he.seen hplaced, hchildren]
    exact he.performed hperformed

/-! ### While others are at work -/

section

variable (he : m.Extends m')
include he

theorem Extends.collects {items : List (Progress Awaited)} (h : m.Collects given items) : m'.Collects given items := by
  refine ⟨fun known hk => h.values known (he.bears hk), everyOfAll_mono (fun f hf => ?_) (fun _ => id) items h.parts⟩
  obtain ⟨e, hmem, a, ha, htold⟩ := hf
  exact ⟨e, hmem, a, ha, he.told htold⟩

theorem Extends.expects {r : Resolvable Promise} {result : Progress Awaited} (h : m.Expects r result) :
    m'.Expects r result := by
  refine ⟨fun known hk => h.value known (he.bears hk), every_mono (fun f hf => ?_) (fun _ => id) result h.parts⟩
  exact hf.imp fun p hp => ⟨hp.1, he.breaks hp.2⟩

theorem Extends.breaksDown (h : m.BreaksDown given reply?) : m'.BreaksDown given reply? := by
  cases reply? with
  | none =>
    obtain ⟨e, hmem, due, hdue, hpast⟩ := h
    exact ⟨e, hmem, due, hdue, he.past hpast⟩
  | some reply => exact h

theorem Extends.fulfils (h : m.Fulfils t given positional reply? o) :
    m'.Fulfils t given positional reply? o := by
  cases reply? with
  | none => exact h.imp fun _ hf => ⟨hf.1, he.declines hf.2⟩
  | some reply => exact he.concludes h

end

section

variable (h : Spared k t m m')
include h

theorem Spared.silent (hsilent : m.Silent t) : m'.Silent t := by
  intro o ho
  rcases h.slot ho with hold | hleft
  · exact h.extends'.leftIn (hsilent o hold)
  · exact hleft

theorem Spared.stands (hstands : m.Stands k t given positional kept reply?) :
    m'.Stands k t given positional kept reply? := hstands.goes h.extends' h.calls h.children

theorem Spared.accounts {phase : Phase} (hhoused : m.Housed t → m'.Housed t)
    (haccounts : m.Accounts k t given positional kept phase) : m'.Accounts k t given positional kept phase := by
  have he := h.extends'
  cases haccounts with
  | gathering hstands hnamed hsilent hlives hcollects hsifted hopen =>
    exact .gathering (h.stands hstands) hnamed (h.silent hsilent) (hhoused hlives) (he.collects hcollects) hsifted hopen
  | resting hstands hsilent hlives => exact .resting (h.stands hstands) (h.silent hsilent) (hhoused hlives)
  | hanging hstands hsilent => exact .hanging (h.stands hstands) (h.silent hsilent)
  | settling hstands hsilent hexpects hsifted hopen =>
    exact .settling (h.stands hstands) (h.silent hsilent) (he.expects hexpects) hsifted hopen
  | finished hstands hhalts ho hends =>
    exact .finished (h.stands hstands) (fun reply hreply => he.halts (hhalts reply hreply)) (he.outcome (a := .slot _) ho)
      (hends.imp he.leftIn he.fulfils)
  | lapsed hstands hhalts hover hsilent =>
    exact .lapsed (h.stands hstands) (fun reply hreply => he.halts (hhalts reply hreply)) (he.orphaned hover) (h.silent hsilent)
  | broken hstands hhalts hbreaks hlost =>
    refine .broken (h.stands hstands) (fun reply hreply => he.halts (hhalts reply hreply)) (he.breaksDown hbreaks)
      fun o ho => ?_
    rcases h.slot ho with hold | hleft
    · exact (hlost o hold).imp_left he.leftIn
    · exact .inl hleft

end

/-- Nothing is expected of what is ready. -/
theorem Expects.ready {r : Resolvable Promise} {result : Progress Awaited} (h : m.Expects r result)
    (hsifted : result.Sifted) (hready : r.awaited = []) : result.outcome? ≠ none := by
  intro hopen
  obtain ⟨a, ha⟩ := exists_awaited hsifted hopen
  have hnone {p : Promise} (hp : p ∈ r.awaited) : False := by
    rw [hready] at hp
    cases hp
  cases every_awaited _ h.parts a ha with
  | timer due hp => exact hnone hp
  | broken due hp => exact hnone hp
  | output hp => exact hnone hp

/-- What breaks down is no prompt reply. -/
theorem BreaksDown.not_prompt {reply : Reply} (h : m.BreaksDown given (some reply)) : ¬reply.Prompt := by
  obtain ⟨r, ms, rfl, hmem⟩ := h
  intro hready
  rw [show r.awaited = [] from hready] at hmem
  cases hmem

/-- Whatever the phase of a task, it stands, its reply is carried out as far as it goes, with a result if nothing is
awaited for that, and its slot says nothing or what it is to say. -/
theorem Accounts.told {phase : Phase} (h : m.Accounts k t given positional kept phase) : ∃ reply?,
    m.Stands k t given positional kept reply? ∧
      (∀ reply ∈ reply?, m.Halts t reply ∧ (reply.Prompt → (m.slot t.slot).isSome ∨ m.Orphaned t)) ∧
        ∀ o, m.slot t.slot = some o → (m.LeftIn t o ∨ m.BreaksDown given reply? ∧ GivenUp t o) ∨
          m.Fulfils t given positional reply? o := by
  cases h with
  | gathering hstands _ hsilent => exact ⟨_, hstands, nofun, fun o ho => .inl (.inl (hsilent o ho))⟩
  | resting hstands hsilent | hanging hstands hsilent =>
    refine ⟨_, hstands, fun reply hreply => ?_, fun o ho => .inl (.inl (hsilent o ho))⟩
    cases hreply
    exact ⟨trivial, False.elim⟩
  | settling hstands hsilent hexpects hsifted hopen =>
    refine ⟨_, hstands, fun reply hreply => ?_, fun o ho => .inl (.inl (hsilent o ho))⟩
    cases hreply
    exact ⟨trivial, fun hready => absurd hopen (hexpects.ready hsifted hready)⟩
  | @finished _ o hstands hhalts ho hends =>
    refine ⟨_, hstands, fun reply hreply => ⟨hhalts reply hreply, fun _ => .inl (ho ▸ rfl)⟩, fun o' ho' => ?_⟩
    cases ho.symm.trans ho'
    exact hends.imp_left .inl
  | lapsed hstands hhalts hover hsilent =>
    exact ⟨_, hstands, fun reply hreply => ⟨hhalts reply hreply, fun _ => .inr hover⟩,
      fun o ho => .inl (.inl (hsilent o ho))⟩
  | broken hstands hhalts hbreaks hlost =>
    refine ⟨_, hstands, fun reply hreply => ⟨hhalts reply hreply, fun hprompt => ?_⟩,
      fun o ho => .inl ((hlost o ho).imp_right fun hgivenUp => ⟨hbreaks, hgivenUp⟩)⟩
    cases hreply
    exact absurd hprompt hbreaks.not_prompt

/-- **An invocation stays accounted for while others are at work.** -/
theorem Beside.accounted (h : Beside k t m m') (haccounted : m.Accounted k t given positional) :
    m'.Accounted k t given positional := by
  obtain ⟨phase, kept, ht, haccounts⟩ := haccounted
  rcases h.unmoved ht with ⟨hsame, hhoused⟩ | ⟨hfinished, hover⟩
  · exact ⟨phase, kept, hsame, h.toSpared.accounts hhoused haccounts⟩
  · refine ⟨.finished, kept, hfinished, ?_⟩
    obtain ⟨reply?, hstands, hgoes, htold⟩ := haccounts.told
    have hstands' := h.stands hstands
    have hhalts (reply : Reply) (hreply : reply ∈ reply?) : m'.Halts t reply := h.extends'.halts (hgoes reply hreply).1
    cases ho : m'.slot t.slot with
    | none => exact .lapsed hstands' hhalts hover fun o ho' => nomatch ho.symm.trans ho'
    | some o =>
      rcases h.slot ho with hold | hleft
      · rcases htold o hold with (hleft | ⟨hbreaks, hgivenUp⟩) | hfulfils
        · exact .finished hstands' hhalts ho (.inl (h.extends'.leftIn hleft))
        · refine .broken hstands' hhalts (h.extends'.breaksDown hbreaks) fun o' ho' => ?_
          cases ho.symm.trans ho'
          exact .inr hgivenUp
        · exact .finished hstands' hhalts ho (.inr (h.extends'.fulfils hfulfils))
      · exact .finished hstands' hhalts ho (.inl hleft)

end StageGraph.Machine
