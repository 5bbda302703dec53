import StageGraph.Proofs.Dataflow.Tasks
import StageGraph.Proofs.Invocation.Account

/-! The turn of an invocation.

Whatever a task does in its own turn, its invocation is accounted for afterwards. Starting children succeeds for all inputs
or changes nothing (`spawnAll_cases`). A task that ends, that waits for its result, that carries out its reply, that calls
its function or looks at its arguments ends up as it should (`finish_accounted` to `gather_accounted`), and so does its
turn, the first one (`turn_begins`) as well as later ones (`turn_accounted`). -/
namespace StageGraph.Machine

open Progress

variable {m m' : Machine} {k : Nat} {t : Task} {given : List (String × Resolvable Awaited)} {positional : Bool}
  {kept : List Nat} {reply? : Option Reply}

/-! ### The phase of a task does not matter for what it does -/

section

variable (phase : Phase)

theorem settle_phase (result : Progress Awaited) : m.settle k { t with phase := phase } result = m.settle k t result := rfl

theorem perform_phase : ∀ (reply : Reply) (m : Machine), perform k { t with phase := phase } reply m = perform k t reply m
  | .give _, _ => rfl
  | .fail _, _ => rfl
  | .panic _, _ => rfl
  | .hang, _ => rfl
  | .rest ms next, m => by
    unfold perform
    rw [perform_phase next]
  | .start kept spec inputs next, m => by
    unfold perform
    simp only
    split
    · rfl
    · exact perform_phase (next _) _

theorem call_phase (args : Fields) : m.call k { t with phase := phase } args = m.call k t args := by
  unfold call
  simp only
  split
  · rfl
  · exact perform_phase phase _ _

theorem gather_phase (names : List String) (args : List (Progress Awaited)) :
    m.gather k { t with phase := phase } names args = m.gather k t names args := by
  unfold gather
  split
  · rfl
  rw [collect_eq, collect_eq]
  split
  · rfl
  · rfl
  · exact call_phase phase _

end

/-! ### Starting children -/

section

variable {p : Nat} {starter : Option Nat} {spec : Spec}

theorem spawn_started {child : Nat} {v : Value} (h : m.spawn (some p) starter spec v = .ok (child, m')) :
    m'.started k = m.started k ++ if starter = some k then [child] else [] := by
  obtain ⟨i, stages, -, -, -, rfl, rfl⟩ := spawn_cases h
  have hsame : SameInstances (m.assembled spec (.under i starter v) stages)
      ((m.assembled spec (.under i starter v) stages).start m.instances.size) := fun q => start_lasting _ q
  exact started_push (hsame.starters.trans (assembled_starters spec (.under i starter v) stages))

theorem spawnAll_started (inputs : List Value) : ∀ {m m' : Machine} {cs : List Nat},
    m.spawnAll (some p) starter spec inputs = (.ok cs, m') →
      m'.started k = m.started k ++ if starter = some k then cs else [] := by
  induction inputs with
  | nil =>
    intro m m' cs h
    cases h
    simp
  | cons v rest ih =>
    intro m m' cs h
    unfold spawnAll at h
    cases hv : m.spawn (some p) starter spec v with
    | error f =>
      rw [hv] at h
      cases h
    | ok made =>
      obtain ⟨child, m₁⟩ := made
      rw [hv] at h
      cases hmore : m₁.spawnAll (some p) starter spec rest with
      | mk result m₂ =>
        simp only [hmore] at h
        cases result with
        | error f => cases h
        | ok more =>
          cases h
          rw [ih hmore, spawn_started hv, List.append_assoc]
          split <;> rfl

end

/-- **A task starts a child for every input, or none**, if its pipeline lives. Children that are kept are not its own. -/
theorem spawnAll_cases (ht : m.IsTask k t) (hlives : m.Housed t) (keeps : Bool) (spec : Spec) (inputs : List Value) :
    (∃ f, inputs ≠ [] ∧ m.Misfit t spec f ∧
      m.spawnAll t.pipeline (if keeps then none else some k) spec inputs = (.error f, m)) ∨
      ∃ cs m', m.spawnAll t.pipeline (if keeps then none else some k) spec inputs = (.ok cs, m') ∧ Deeds (some k) m m' ∧
        (∀ s, m'.slot s = m.slot s) ∧ m'.started k = m.started k ++ (if keeps then [] else cs) ∧
          List.Forall₂ (m'.StartedOf (if keeps then none else some k) t spec) cs inputs ∧ m'.Housed t := by
  have hworks := spawnAll_works ht keeps spec inputs
  cases inputs with
  | nil => exact .inr ⟨[], m, rfl, .refl, fun _ => rfl, by simp, .nil, hlives⟩
  | cons v rest =>
    cases hp : t.pipeline with
    | none => exact .inl ⟨_, List.cons_ne_nil _ _, .homeless hp, rfl⟩
    | some p =>
      rw [hp] at hworks
      have halive := hlives p hp
      obtain ⟨i, hi, hilives⟩ := alive_iff.mp halive
      cases hstages : m.functionsOf spec with
      | error f =>
        refine .inl ⟨f, List.cons_ne_nil _ _, .unknown hp hstages, ?_⟩
        have hspawn : m.spawn (some p) (if keeps then none else some k) spec v = .error f := by
          rw [spawn_alive hi hilives, hstages]
          rfl
        simp only [spawnAll, hspawn]
      | ok stages =>
        have hparent := isInstance_of_get hi
        have hkeeps : (m.spawnAll (some p) (if keeps then none else some k) spec (v :: rest)).2.alive p = true :=
          spawnAll_alive _ halive
        obtain ⟨cs, m', hall, he, hchildren, hslot, -, -⟩ :=
          spawnAll_children (if keeps then none else some k) (v :: rest) hparent halive hstages
        have hstarted := spawnAll_started (k := k) _ hall
        rw [hall] at hworks hkeeps
        refine .inr ⟨cs, m', hall, hworks, hslot, ?_, hchildren.imp fun c input hchild => ?_, fun q hq => ?_⟩
        · rw [hstarted]
          cases keeps <;> simp
        · exact ⟨⟨stages, (he.functionsOf spec).trans hstages⟩, p, i, hp, he.isInstance hparent, hchild⟩
        · obtain rfl := Option.some.inj (hp.symm.trans hq)
          exact hkeeps

/-! ### The end -/

theorem Closed.accounted {phase : Phase} (kept : List Nat) (h : Closed k m phase m') (ht : m.IsTask k t)
    (haccounts : m.Accounts k t given positional kept phase) : m'.Accounted k t given positional := by
  obtain ⟨before, ht⟩ := ht
  refine ⟨phase, kept, ?_, h.spared.accounts h.housed haccounts⟩
  rw [h.tasks, setPhase_getElem?, if_pos rfl, ht]
  rfl

/-- A task ends as it should. -/
theorem finish_accounted {o : Outcome} (hstaffed : m.Staffed) (ht : m.IsTask k t)
    (hstands : m.Stands k t given positional kept reply?) (hsilent : m.Silent t)
    (hends : m.Fulfils t given positional reply? (o.mapError (Fault.blame · t.node))) :
    (m.finish k t o).Accounted k t given positional := by
  have hdeeds : Deeds none m (m.release k []) := release_deeds k []
  have hreleased := hdeeds.beside hstaffed ht nofun
  have hstands := hreleased.stands hstands
  have hsilent := hreleased.silent hsilent
  have hends := hreleased.extends'.fulfils hends
  have ht := hreleased.extends'.isTask ht
  have hwithin : t.slot < (m.release k []).slots.size := (hstaffed.deeds hdeeds).within ht
  unfold finish
  generalize m.release k [] = m at hstands hsilent hends ht hwithin ⊢
  generalize o.mapError (Fault.blame · t.node) = o at hends ⊢
  have he : m.Extends (m.fill t.slot o) := fill_extends t.slot o
  refine Closed.accounted (m := m.fill t.slot o) kept .finished (he.isTask ht) ?_
  have hstands' : (m.fill t.slot o).Stands k t given positional kept reply? := hstands.goes he rfl rfl
  have hhalts := (he.fulfils hends).halts
  cases hbefore : m.slot t.slot with
  | some o' =>
    exact .finished hstands' hhalts (fill_slot_of_some hbefore) (.inl (he.leftIn (hsilent o' hbefore)))
  | none =>
    have hfilled : (m.fill t.slot o).slot t.slot = some o := by rw [fill_slot, if_pos ⟨rfl, hwithin⟩, hbefore]; rfl
    exact .finished hstands' hhalts hfilled (.inr (he.fulfils hends))

/-- A task ends with what its function replies. -/
theorem conclude_accounted {reply : Reply} {o : Outcome} (hstaffed : m.Staffed) (ht : m.IsTask k t)
    (hstands : m.Stands k t given positional kept (some reply)) (hsilent : m.Silent t)
    (hends : m.Concludes t reply (o.mapError (Fault.blame · t.node))) : (m.finish k t o).Accounted k t given positional :=
  finish_accounted hstaffed ht hstands hsilent hends

/-- A task ends without a call. -/
theorem decline_accounted {f : Fault} (hstaffed : m.Staffed) (ht : m.IsTask k t)
    (hstands : m.Stands k t given positional kept none) (hsilent : m.Silent t)
    (hdeclines : m.Declines t given positional (f.blame t.node)) :
    (m.finish k t (.error f)).Accounted k t given positional :=
  finish_accounted hstaffed ht hstands hsilent ⟨_, rfl, hdeclines⟩

/-- A task breaks down over what it waits for. -/
theorem collapse_accounted (hstaffed : m.Staffed) (ht : m.IsTask k t) (hstands : m.Stands k t given positional kept reply?)
    (hsilent : m.Silent t) (hhalts : ∀ reply ∈ reply?, m.Halts t reply) (hbreaks : m.BreaksDown given reply?) :
    (m.collapse k t).Accounted k t given positional := by
  have hdeeds : Deeds none m (m.release k []) := release_deeds k []
  have hreleased := hdeeds.beside hstaffed ht nofun
  have hstands := hreleased.stands hstands
  have hsilent := hreleased.silent hsilent
  have hhalts (reply : Reply) (hreply : reply ∈ reply?) := hreleased.extends'.halts (hhalts reply hreply)
  have hbreaks := hreleased.extends'.breaksDown hbreaks
  have ht := hreleased.extends'.isTask ht
  unfold collapse
  simp only
  generalize m.release k [] = rest at hstands hsilent hhalts hbreaks ht ⊢
  cases hloss : m.loss? t with
  | none =>
    exact Closed.accounted kept .finished ht (.broken hstands hhalts hbreaks fun o ho => .inl (hsilent o ho))
  | some cause =>
    obtain ⟨p, _, hp, -, hmem⟩ := mem_abandoned_of_loss? hloss
    have he : rest.Extends (rest.fill t.slot (.error ⟨cause, none⟩)) := fill_extends t.slot _
    refine Closed.accounted (m := rest.fill t.slot (.error ⟨cause, none⟩)) kept .finished (he.isTask ht) ?_
    refine .broken (hstands.goes he rfl rfl) (fun reply hreply => he.halts (hhalts reply hreply)) (he.breaksDown hbreaks)
      fun o ho => ?_
    rcases slot_of_fill ho with hold | ⟨-, rfl⟩
    · exact .inl (he.leftIn (hsilent o hold))
    · exact .inr ⟨⟨p, hp⟩, _, rfl, rfl, abandoned_ofEnd hmem⟩

/-! ### Results -/

theorem Stead.tells {r : Resolvable Promise} {a : Awaited} (h : Stead r a) :
    Progress.Tells (fun f => ∃ p ∈ r.awaited, m.Breaks p f) (m.standing a) := by
  intro f hf
  cases h with
  | @timer ms due o hp =>
    simp only [standing] at hf
    split at hf
    · exact ⟨_, hp, Option.some.inj hf⟩
    · cases hf
  | broken due hp => cases hf
  | output hp => exact ⟨_, hp, hf⟩

/-- What is asked of a result leaves it what is expected. -/
theorem Expects.look {r : Resolvable Promise} {result : Progress Awaited} (h : m.Expects r result) :
    m.Expects r (result.look (m := Id) m.standing) := by
  refine ⟨fun known hk => ?_, look_every Telling.plain (fun _ => Stead.tells) result h.parts⟩
  rw [← h.value known hk]
  exact look_value? Telling.plain result fun a _ => hk.standing_agrees a

/-- A task waits for its result. -/
theorem settle_accounted {r : Resolvable Promise} {result : Progress Awaited} (hstaffed : m.Staffed) (ht : m.IsTask k t)
    (hstands : m.Stands k t given positional kept (some (.give r))) (hsilent : m.Silent t) (hexpects : m.Expects r result) :
    (m.settle k t result).Accounted k t given positional := by
  have hdeeds : Deeds none m (result.awaited.foldl read m) := foldl_read_deeds _
  have hread := hdeeds.beside hstaffed ht nofun
  have hstands := hread.stands hstands
  have hsilent := hread.silent hsilent
  have hexpects := hread.extends'.expects hexpects
  have ht := hread.extends'.isTask ht
  have hstaffed := hstaffed.deeds hdeeds
  rw [settle_cases]
  generalize result.awaited.foldl read m = m at hstands hsilent hexpects ht hstaffed ⊢
  split
  · next hbreaks =>
    obtain ⟨due, hdue, -⟩ := exists_broken hbreaks
    have hgives : m.BreaksDown given (some (.give r)) := by
      cases every_awaited _ hexpects.parts _ hdue with
      | broken _ hmem => exact ⟨r, _, rfl, hmem⟩
    refine collapse_accounted hstaffed ht hstands hsilent (fun reply hreply => ?_) hgives
    cases hreply
    trivial
  rw [settled_eq]
  have hlook := hexpects.look
  have hsifted : (result.look (m := Id) m.standing).Sifted := look_sifted Telling.plain (fun _ => trivial) result
  generalize result.look (m := Id) m.standing = looked at hlook hsifted ⊢
  have hpark (hopen : looked.outcome? = none) :
      ((m.release k (awaitedChildren looked.awaited)).park k (.settling looked)).Accounted k t given positional := by
    have hdeeds : Deeds none m (m.release k (awaitedChildren looked.awaited)) := release_deeds k _
    have hreleased := hdeeds.beside hstaffed ht nofun
    have hstands := hreleased.stands hstands
    refine Closed.accounted kept (.park _) (hreleased.extends'.isTask ht) ?_
    exact .settling hstands (hreleased.silent hsilent) (hreleased.extends'.expects hlook) hsifted hopen
  cases looked with
  | done o =>
    cases o with
    | error f =>
      obtain ⟨p, hp, hbreaks⟩ := hlook.parts
      exact conclude_accounted hstaffed ht hstands hsilent (.broken hp hbreaks)
    | ok v =>
      have hvalue : r.value? (Promise.comesTo? m.valueAt?) = some v := (hlook.value _ (bears_valueAt? m)).symm
      refine conclude_accounted hstaffed ht hstands hsilent ?_
      unfold Function.checkOutput
      split
      · next hcheck => exact .returned hvalue hcheck
      · next hcheck => exact .unsuitable hvalue (Bool.eq_false_iff.mpr hcheck)
  | pending a => exact hpark rfl
  | parts whole items => exact hpark rfl

/-! ### Replies -/

/-- What a function gives is expected from then on. -/
theorem expects_given (r : Resolvable Promise) : m.Expects r (r.map m'.promised).progress := by
  refine ⟨fun known _ => ?_, Resolvable.progress_every _ fun a ha => ?_⟩
  · have hsame : (fun p => Awaited.comesTo? known (m'.promised p)) = Promise.comesTo? known := by
      funext p
      cases p <;> rfl
    rw [Resolvable.progress_value?, Resolvable.map_value?, hsame]
  · rw [Resolvable.map_awaited] at ha
    obtain ⟨p, hp, rfl⟩ := List.mem_map.mp ha
    cases p with
    | later ms o => exact .timer _ hp
    | broken ms => exact .broken _ hp
    | held c => exact .output hp

/-- Children are started for a reply, which keeps them or not. -/
theorem Stands.starts {keeps : Bool} {spec : Spec} {inputs : List Value} {cs : List Nat} {n : List Promise → Reply}
    (h : m.Stands k t given positional kept (some (.start keeps spec inputs n))) (hdeeds : Deeds (some k) m m')
    (hstarted : m'.started k = m.started k ++ if keeps then [] else cs)
    (hchildren : List.Forall₂ (m'.StartedOf (if keeps then none else some k) t spec) cs inputs) :
    ∃ kept', m'.Stands k t given positional kept' (some (n (cs.map .held))) := by
  have he := hdeeds.extends'
  cases h with
  | @called bound _ hcalls hadmits hplaced hperformed =>
    have hcalls' : m'.callsOf k = m.callsOf k := by
      unfold callsOf
      rw [hdeeds.log]
    have hcalled {kept' : List Nat} (hall : m'.Performed k t (t.function.handler (m.seen t bound))
        (m.started k ++ if keeps then [] else cs) kept' (n (cs.map .held))) :
        m'.Stands k t given positional kept' (some (n (cs.map .held))) := by
      refine .called (hcalls'.trans hcalls) (he.admits hadmits) (fun p hp => (hplaced p hp).imp fun _ => he.isInstance) ?_
      rw [he.seen hplaced, hstarted]
      exact hall
    have hbefore := he.performed hperformed
    cases keeps with
    | false =>
      have hall := hbefore.trans (.spawn hchildren (.here (n (cs.map .held))))
      rw [List.append_nil] at hall
      exact ⟨_, hcalled hall⟩
    | true => exact ⟨_, hcalled (hbefore.trans (.keep hchildren (.here (n (cs.map .held)))))⟩

/-- A reply is carried out. -/
theorem perform_accounted : ∀ (reply : Reply) {m : Machine}, m.Staffed → m.IsTask k t →
    ∀ {kept : List Nat}, m.Stands k t given positional kept (some reply) → m.Silent t → m.Housed t →
      (perform k t reply m).Accounted k t given positional
  | .give r, m, hstaffed, ht, kept, hstands, hsilent, _ => by
    have hdeeds : Deeds none m (m.release k (givenChildren r)) := release_deeds k _
    have hreleased := hdeeds.beside hstaffed ht nofun
    have hstands := hreleased.stands hstands
    exact settle_accounted (hstaffed.deeds hdeeds) (hreleased.extends'.isTask ht) hstands (hreleased.silent hsilent)
      (expects_given r)
  | .fail ⟨root, contexts⟩, m, hstaffed, ht, kept, hstands, hsilent, _ => by
    refine conclude_accounted hstaffed ht hstands hsilent ?_
    cases root with
    | message text => exact .message
    | fault f => exact .fault
  | .panic message, m, hstaffed, ht, kept, hstands, hsilent, _ => conclude_accounted hstaffed ht hstands hsilent .panic
  | .rest ms next, m, hstaffed, ht, kept, hstands, hsilent, hlives => by
    unfold perform
    split
    · exact perform_accounted next hstaffed ht (hstands.promoted (.rest (.here next))) hsilent hlives
    · exact Closed.accounted kept (.park _) ht (.resting hstands hsilent hlives)
  | .hang, m, _, ht, kept, hstands, hsilent, _ => Closed.accounted kept .hanging ht (.hanging hstands hsilent)
  | .start keeps spec inputs next, m, hstaffed, ht, kept, hstands, hsilent, hlives => by
    unfold perform
    rcases spawnAll_cases ht hlives keeps spec inputs with
      ⟨f, hinputs, hmisfit, hspawn⟩ | ⟨cs, m', hspawn, hdeeds, hslot, hstarted, hchildren, hlives'⟩
    · rw [hspawn]
      exact conclude_accounted hstaffed ht hstands hsilent (.unfit hinputs hmisfit)
    · have hsilent' : m'.Silent t := fun o ho => hdeeds.extends'.leftIn (hsilent o ((hslot _).symm.trans ho))
      obtain ⟨kept', hstands'⟩ := hstands.starts hdeeds hstarted hchildren
      rw [hspawn]
      exact perform_accounted (next (cs.map .held)) (hstaffed.deeds hdeeds) (hdeeds.extends'.isTask ht) hstands' hsilent'
        hlives'

/-! ### Arguments -/

/-- A call is recorded. Nothing is carried out of the reply so far. -/
theorem Stands.noted {bound : Fields} (h : m.Stands k t given positional kept none) (hlives : m.Housed t)
    (hadmits : m.Admits t given positional bound) :
    (m.noted k t bound).Stands k t given positional [] (some (t.function.handler (m.callOf t bound))) := by
  cases h with
  | uncalled hcalls hstarted =>
    refine .called ?_ ((m.noted_extends k t bound).admits hadmits) (fun p hp => ?_) ?_
    · rw [noted_callsOf, hcalls, if_pos rfl]
      rfl
    · obtain ⟨i, hi, -⟩ := alive_iff.mp (hlives p hp)
      exact ⟨i, isInstance_of_get hi⟩
    · have hnone : (m.noted k t bound).started k = [] := hstarted
      have hsees : (m.noted k t bound).seen t bound = m.callOf t bound := (callOf_eq hlives bound).symm
      rw [hnone, hsees]
      exact .here _

/-- A function is called if its declaration accepts the arguments. -/
theorem call_accounted {values : List Value} (hstaffed : m.Staffed) (ht : m.IsTask k t)
    (hstands : m.Stands k t given positional kept none) (hnamed : positional = false) (hsilent : m.Silent t)
    (hlives : m.Housed t) (hvalues : m.Resolves given values) :
    (m.call k t (Fields.ofList ((given.map Prod.fst).zip values))).Accounted k t given positional := by
  unfold call
  cases hbind : t.function.bindArguments (Fields.ofList ((given.map Prod.fst).zip values)) with
  | error cause => exact decline_accounted hstaffed ht hstands hsilent (.refused hnamed hvalues hbind)
  | ok bound =>
    have he := m.noted_extends k t bound
    have hnoted := hstands.noted hlives ⟨hnamed, values, hvalues, hbind⟩
    exact perform_accounted _ (hstaffed.noted k t bound) (he.isTask ht) hnoted (fun o ho => he.leftIn (hsilent o ho)) hlives

theorem Taken.back (h : Taken m m') : m'.Extends m := by
  obtain ⟨slots, room, rfl, -⟩ := h.rest
  exact extends_same (fun s => (h.slot s).symm) rfl rfl rfl

/-- What is asked of the arguments leaves them what is collected. -/
theorem Collects.look {items : List (Progress Awaited)} (h : m.Collects given items) :
    m.Collects given (lookThrough ask items m).1 := by
  have hasks (a : Awaited) (ha : ∃ e ∈ given, a ∈ e.2.awaited) : (Telling.keeping (Taken m)).holds (ask a)
      (Progress.Tells fun f => ∃ e ∈ given, ∃ a ∈ e.2.awaited, m.Told a f) := by
    intro m' htaken
    obtain ⟨e, he, hmem⟩ := ha
    refine ⟨fun f hf => ⟨e, he, a, hmem, m', htaken.back, hf⟩, htaken.trans ((ask_sees a).taken m')⟩
  refine ⟨fun known hk => ?_, (lookThrough_every (Telling.keeping (Taken m)) hasks h.parts m (Taken.refl m)).1⟩
  rw [← h.values known hk]
  exact (lookThrough_values? (Telling.keeping (Taken m)) items (fun a _ => hk.ask_agrees a) m (Taken.refl m)).1

/-- A look at several parts that decides nothing leaves nothing standing that is decided. -/
theorem look_siftedAll (items : List (Progress Awaited)) (h : gathered (lookThrough ask items m).1 = none) :
    SiftedAll (lookThrough ask items m).1 := by
  have hkeeps (a : Awaited) : (Telling.keeping (Taken m)).holds (ask a) fun _ => True :=
    fun m' hm' => ⟨trivial, hm'.trans ((ask_sees a).taken m')⟩
  obtain ⟨hlength, hsifted⟩ :=
    (lookAll_sifted (Telling.keeping (Taken m)) hkeeps (crowded items) true items m (Taken.refl m)).1
  refine hsifted.resolve_right fun ⟨_, f, hf⟩ => ?_
  have hcrowded : crowded (lookThrough ask items m).1 = crowded items := congrArg (decide <| 30 < ·) hlength
  rw [gathered_eq, hcrowded, show Progress.gather (crowded items) (lookThrough ask items m).1 = _ from hf] at h
  cases h

/-- A task waits for its arguments. -/
theorem gather_accounted {items : List (Progress Awaited)} (hstaffed : m.Staffed) (ht : m.IsTask k t)
    (hstands : m.Stands k t given positional kept none) (hnamed : positional = false) (hsilent : m.Silent t)
    (hlives : m.Housed t) (hcollects : m.Collects given items) :
    (m.gather k t (given.map Prod.fst) items).Accounted k t given positional := by
  unfold gather
  split
  · next hbreaks =>
    obtain ⟨due, hdue, hcome⟩ := exists_brokenThrough hbreaks
    obtain ⟨e, he, hmem⟩ := everyOfAll_awaited _ hcollects.parts _ hdue
    exact collapse_accounted hstaffed ht hstands hsilent nofun ⟨e, he, due, hmem, m, Extends.refl m, hcome⟩
  have htaken : Taken m (lookThrough ask items m).2 := (lookThrough_sees ask_sees items).taken m
  have htake : Deed none m (lookThrough ask items m).2 := .take htaken
  have hlooked := htake.beside hstaffed ht nofun
  have hstands := hlooked.stands hstands
  have hsilent := hlooked.silent hsilent
  have hcollects := hlooked.extends'.collects hcollects.look
  have hlives : (lookThrough ask items m).2.Housed t := by
    intro p hp
    unfold alive
    rw [htaken.instances]
    exact hlives p hp
  have ht := hlooked.extends'.isTask ht
  have hstaffed := hstaffed.deed htake
  have hsifted := look_siftedAll (m := m) items
  rw [collect_eq]
  generalize (lookThrough ask items m).2 = m at hstands hsilent hcollects hlives ht hstaffed ⊢
  generalize (lookThrough ask items _).1 = items at hcollects hsifted ⊢
  cases hall : gathered items with
  | none =>
    exact Closed.accounted kept (.park _) ht (.gathering hstands hnamed hsilent hlives hcollects (hsifted hall) hall)
  | some o =>
    cases o with
    | error f =>
      obtain ⟨e, he, a, ha, htold⟩ := gathered_every hcollects.parts hall
      exact decline_accounted hstaffed ht hstands hsilent (.argument hnamed he ha htold)
    | ok values =>
      refine call_accounted hstaffed ht hstands hnamed hsilent hlives (resolves_iff.mpr ?_)
      rw [← hcollects.values _ (bears_valueAt? m)]
      exact (gathered_values? hall).symm

/-! ### Turns -/

theorem mem_awaitedOfAll_given {a : Awaited} (h : a ∈ awaitedOfAll (given.map fun e => e.2.progress)) :
    ∃ e ∈ given, a ∈ e.2.awaited := by
  induction given with
  | nil => cases h
  | cons e rest ih =>
    rcases List.mem_append.mp h with hfirst | hrest
    · rw [Resolvable.progress_awaited] at hfirst
      exact ⟨e, List.mem_cons_self, hfirst⟩
    · exact (ih hrest).imp fun _ hmem => ⟨List.mem_cons_of_mem _ hmem.1, hmem.2⟩

/-- Before anything is asked of the arguments, they are collected. -/
theorem collects_given (m : Machine) (given : List (String × Resolvable Awaited)) :
    m.Collects given (given.map fun e => e.2.progress) :=
  ⟨fun _ _ => rfl, Resolvable.everyOfAll_progress Prod.snd given fun _ => mem_awaitedOfAll_given⟩

/-- **The first turn of an invocation.** Its references are looked up and its delays begin. -/
theorem turn_begins {args : List (String × Resolvable Source)} (hstaffed : m.Staffed) (ht : m.tasks[k]? = some t)
    (hphase : t.phase = .unstarted args positional) (hcalls : m.callsOf k = []) (hstarted : m.started k = [])
    (hsilent : m.Silent t) (hlives : m.Housed t) : (m.turn k).Accounted k t (m.begun t args) positional := by
  have hfresh : Beside k t m m.refreshed := .still (refreshed_still m)
  have hstands : m.refreshed.Stands k t (m.begun t args) positional [] none := .uncalled hcalls hstarted
  have htask : m.refreshed.IsTask k t := isTask_of_get (m := m) ht
  unfold turn
  simp only [show m.refreshed.tasks[k]? = some t from ht, hphase]
  cases positional with
  | true => exact decline_accounted (hstaffed.still (refreshed_still m)) htask hstands (hfresh.silent hsilent) (.listed rfl)
  | false =>
    have hgather := gather_accounted (hstaffed.still (refreshed_still m)) htask hstands rfl (hfresh.silent hsilent) hlives
      (collects_given _ _)
    have hnames : (m.begun t args).map Prod.fst = args.map Prod.fst := by
      rw [begun, List.map_map]
      rfl
    have hitems : (m.begun t args).map (fun e => e.2.progress) =
        args.map fun a => (a.2.map (m.refreshed.begin t)).progress := by
      rw [(refreshed_alike m).begin t, begun, List.map_map]
      rfl
    rw [hnames, hitems] at hgather
    exact hgather

/-- **A later turn of an invocation.** -/
theorem turn_accounted (hstaffed : m.Staffed) (h : m.Accounted k t given positional) :
    (m.turn k).Accounted k t given positional := by
  have hfresh : Beside k t m m.refreshed := .still (refreshed_still m)
  have hstaffed := hstaffed.still (refreshed_still m)
  have h := hfresh.accounted h
  unfold turn
  generalize m.refreshed = m at hstaffed h ⊢
  have htask := h.isTask
  obtain ⟨phase, kept, ht, haccounts⟩ := h
  simp only [ht]
  cases haccounts with
  | gathering hstands hnamed hsilent hlives hcollects =>
    simp only [gather_phase]
    exact gather_accounted hstaffed htask hstands hnamed hsilent hlives hcollects
  | resting hstands hsilent hlives =>
    simp only [perform_phase]
    split
    · exact perform_accounted _ hstaffed htask (hstands.promoted (.rest (.here _))) hsilent hlives
    · exact Closed.accounted kept (.park _) htask (.resting hstands hsilent hlives)
  | settling hstands hsilent hexpects =>
    simp only [settle_phase]
    exact settle_accounted hstaffed htask hstands hsilent hexpects
  | hanging hstands hsilent => exact ⟨_, _, ht, .hanging hstands hsilent⟩
  | finished hstands hhalts ho hends => exact ⟨_, _, ht, .finished hstands hhalts ho hends⟩
  | lapsed hstands hhalts hover hsilent => exact ⟨_, _, ht, .lapsed hstands hhalts hover hsilent⟩
  | broken hstands hhalts hbreaks hlost => exact ⟨_, _, ht, .broken hstands hhalts hbreaks hlost⟩

end StageGraph.Machine
