import StageGraph.Proofs.Calls.Once
import StageGraph.Proofs.Teardown.Unspoiled

/-! A turn of a task spoils nothing.

Who lives is told nothing by a link that the end of a pipeline has left (`Unspoiled.link_tells`). An output is read while
its pipeline lives, and then stands (`Unspoiled.readOutput`). While a task is at work its own pipeline lives and none of
the children that it goes on awaiting ends before its output has come about, whatever the task lets go. So a task fails
only with what is genuine, if its function is honest, and so it is with all that a turn leaves behind
(`Unspoiled.turn`). -/
namespace StageGraph.Machine

variable {m m' : Machine} {who : Option Nat} {k p : Nat} {t : Task}

/-! ### Links -/

/-- A name leads to a slot of a pipeline in whose scope it is looked up. -/
theorem houses_of_stageSlot? {name : String} {scope : List Nat} {s : Nat} (h : m.stageSlot? name scope = some s) :
    ∃ q ∈ scope, m.Houses q s := by
  induction scope with
  | nil => cases h
  | cons q outer ih =>
    unfold stageSlot? at h
    cases hq : m.instances[q]? with
    | none =>
      rw [hq] at h
      cases h
    | some i =>
      rw [hq] at h
      simp only at h
      split at h
      · cases hl : List.lookup name i.stages with
        | none =>
          rw [hl] at h
          obtain ⟨q', hq', hs⟩ := ih h
          exact ⟨q', List.mem_cons_of_mem _ hq', hs⟩
        | some s' =>
          rw [hl] at h
          cases h
          obtain ⟨front, back, heq, -⟩ := List.lookup_eq_some_iff.mp hl
          have hmem : (name, s) ∈ i.stages := heq ▸ List.mem_append_right _ List.mem_cons_self
          exact ⟨q, List.mem_cons_self, i, .cancelled name, isInstance_of_get hq,
            List.mem_append_left _ (List.mem_map_of_mem hmem)⟩
      · cases h

/-- Who lives looks its references up near it. -/
theorem Unspoiled.link (h : m.Unspoiled who) (hlives : m.alive p = true) (node : Value) (blamed : Option Value)
    (text : String) : m.Leads p (m.link (some p) node blamed text) := by
  obtain ⟨i, hi, hilives⟩ := alive_iff.mp hlives
  obtain ⟨hnamed, hunnamed⟩ := link_of_alive hi hilives node blamed text
  have hinstance := isInstance_of_get hi
  cases hhead : m.head? i (Path.splitHead text).1 with
  | none =>
    rw [hunnamed hhead]
    rfl
  | some base =>
    rw [hnamed base hhead]
    intro s hs
    unfold Machine.head? at hhead
    split at hhead
    · cases hhead
      exact ⟨i, p, hinstance, h.laid.self hinstance, h.laid.inputs hinstance s hs⟩
    · obtain ⟨s', hs', rfl⟩ := Option.map_eq_some_iff.mp hhead
      rw [List.mem_singleton.mp hs]
      obtain ⟨q, hq, hhouses⟩ := houses_of_stageSlot? hs'
      exact ⟨i, q, hinstance, hq, hhouses⟩

/-- Who lives and is sheltered has living ones around, who are sheltered as well. -/
theorem Unspoiled.around (h : m.Unspoiled who) (hlives : m.alive p = true) (hsheltered : m.Sheltered p) {i : Instance}
    (hi : m.IsInstance p i) {q : Nat} (hq : q ∈ i.scope) : m.alive q = true ∧ m.Sheltered q := by
  have hnot {r : Nat} (hr : r ∈ i.scope) : ¬m.Ended r := by
    intro hover
    by_cases hrp : r = p
    · subst hrp
      cases hlives.symm.trans (not_alive_of_ended hover)
    · exact hsheltered i hi r hr hrp hover
  obtain ⟨j, hj, hscope⟩ := h.laid.around hi hq
  refine ⟨?_, fun j' hj' r hr _ => hnot (hscope (hj.scope_eq hj' ▸ hr))⟩
  obtain ⟨_, _, _, hget⟩ := hj
  exact alive_iff.mpr ⟨_, hget, Bool.of_not_eq_false fun hover => hnot hq ⟨_, hget, hover⟩⟩

/-- What is near somebody who lives is not spoiled. -/
theorem Unspoiled.near (h : m.Unspoiled who) (hlives : m.alive p = true) {s : Nat} (hs : m.Near p s) {f : Fault}
    (hf : m.slot s = some (.error f)) : m.Fair p f := by
  obtain ⟨i, q, hi, hq, hhouses⟩ := hs
  intro _ hsheltered
  obtain ⟨hqlives, hqsheltered⟩ := h.around hlives hsheltered hi hq
  refine h.slots hqlives hhouses hf (fun hover => ?_) hqsheltered
  cases hqlives.symm.trans (not_alive_of_ended hover)

/-- **What a link tells somebody who lives is not spoiled.** -/
theorem Unspoiled.link_tells (h : m.Unspoiled who) (hlives : m.alive p = true) {l : Link} (hl : m.Leads p l)
    {M : Type → Type} [Monad M] (telling : Telling M) {slot : Nat → M (Poll Value)}
    (hslot : ∀ s, telling.holds (slot s) fun told => ∀ o, told = some o → m.slot s = some o) :
    telling.holds (l.look slot) (Progress.Tells (m.Fair p)) := by
  have hfound {x : M (Poll Value)} (hx : telling.holds x (Progress.Tells (m.Fair p))) :
      telling.holds (x >>= fun found => pure (found.map (Except.mapError (Fault.blame? · l.blamed))))
        (Progress.Tells (m.Fair p)) :=
    blamed_tells telling hx fun _ hf hgoesOn hsheltered => (Fault.genuine_blame? _).mpr (hf hgoesOn hsheltered)
  unfold Link.look
  unfold Leads at hl
  cases hbase : l.base with
  | error f =>
    rw [hbase] at hl
    refine hfound (telling.pure fun f' hf' => ?_)
    cases hf'
    exact fun _ _ => hl
  | ok base =>
    rw [hbase] at hl
    have hask (s : Nat) (hs : s ∈ base.awaited) : telling.holds (slot s) fun told =>
        (∀ v, told = some (.ok v) → m.valueAt? (.slot s) = some v) ∧ Progress.Tells (m.Fair p) told := by
      refine telling.mono (hslot s) fun told ht => ⟨fun v hv => ?_, fun f hf => h.near hlives (hl s hs) (ht _ hf)⟩
      show (m.slot s).bind Except.toOption = some v
      rw [ht _ hv]
      rfl
    refine hfound (telling.mono (Resolvable.obtain?_tells telling hask base l.path fun s hs => hs) fun told ht f hf => ?_)
    rcases ht f hf with hfair | ⟨cause, rfl, hastray⟩
    · exact hfair
    · exact fun _ _ => Resolvable.astray?_genuine l.path hastray

/-! ### Outputs -/

/-- An output that is read for the first time, while its pipeline lives. -/
theorem Unspoiled.outputLinks (h : m.Unspoiled who) (hlives : m.alive p = true) (i : Instance) :
    (m.outputLinks p i).every (m.Fair p) (m.Leads p) := by
  refine Resolvable.progress_every _ fun l hl => ?_
  rw [Resolvable.map_awaited] at hl
  obtain ⟨text, -, rfl⟩ := List.mem_map.mp hl
  exact h.link hlives _ _ text

/-- A look at the output of a pipeline that lives. A task that is at work goes on tending its children. -/
theorem Unspoiled.lookOutput (h : m.Unspoiled who) (hlives : m.alive p = true) (hnot : m.standing (.output p) = none)
    {r : Progress Link} (hr : r.every (m.Fair p) (m.Leads p)) :
    (m.lookOutput p r).Unspoiled who ∧ ∀ e, m.Raised k e p → ∀ c, m.Tends k e c → (m.lookOutput p r).Tends k e c := by
  have hlooked := Progress.look_every (Telling.keeping (Taken m))
    (fun l hl => h.link_tells hlives hl (Telling.keeping (Taken m)) (receive_tells m)) r hr m (Taken.refl m)
  unfold Machine.lookOutput
  generalize r.look (Link.look receive) m = looked at hlooked ⊢
  obtain ⟨r', m'⟩ := looked
  obtain ⟨hevery, htaken⟩ := hlooked
  have htook : m'.Unspoiled who := h.taken htaken
  have hnot' : m'.standing (.output p) = none := by
    rw [standing_output, htaken.instances, ← standing_output]
    exact hnot
  have hset (output : Output) (hsincere : m.Sincere p output) : (m'.setOutput p output).Unspoiled who ∧
      ∀ e c, m.Tends k e c → (m'.setOutput p output).Tends k e c := by
    have hmore := htaken.extends'.trans (setOutput_extends output hnot')
    refine ⟨htook.setOutput hnot' (htaken.extends'.sincere hsincere), fun e c hc => hmore.tends hc fun hclives => ?_⟩
    rw [(setOutput_lasting p output).alive, alive_eq, htaken.instances, ← alive_eq]
    exact hclives
  have hlinked {r : Progress Link} (hr : r.every (m.Fair p) (m.Leads p)) :
      (m'.setOutput p (.linked r)).Unspoiled who ∧
        ∀ e, m.Raised k e p → ∀ c, m.Tends k e c → (m'.setOutput p (.linked r)).Tends k e c :=
    ⟨(hset (.linked r) hr).1, fun e _ => (hset (.linked r) hr).2 e⟩
  cases r' with
  | done o =>
    have hsincere : m.Sincere p (.known o) := fun f hf hsheltered => by
      subst hf
      refine hevery (fun hover => ?_) hsheltered
      cases hlives.symm.trans (not_alive_of_ended hover)
    obtain ⟨hresolved, htends⟩ := hset (.known o) hsincere
    have hknown : ((m'.setOutput p (.known o)).standing (.output p)).isSome := by
      obtain ⟨i, hi, -⟩ := alive_iff.mp hlives
      rw [standing_output, setOutput_getElem?, if_pos rfl, htaken.instances, hi]
      rfl
    have hmore := htaken.extends'.trans (setOutput_extends (.known o) hnot')
    refine ⟨hresolved.retire (.inl hknown), fun e hp c hc =>
      (htends e c hc).retire hresolved.laid (fun _ => ?_) fun hpc => hpc ▸ hknown⟩
    exact hresolved.laid.not_mem_of_raised hresolved.kept (hmore.raised hp)
  | pending l => exact hlinked hevery
  | parts whole items => exact hlinked hevery

/-- An output is read that can be read. -/
theorem Unspoiled.readOutput (h : m.Unspoiled who) (hp : m.Readable p) :
    (m.readOutput p).Unspoiled who ∧ ∀ e, m.Raised k e p → ∀ c, m.Tends k e c → (m.readOutput p).Tends k e c := by
  unfold Machine.readOutput
  cases hi : m.instances[p]? with
  | none => exact ⟨h, fun _ _ _ => id⟩
  | some i =>
    simp only
    have hsincere := h.outputs hi
    have hlives (hnot : m.standing (.output p) = none) : m.alive p = true := by
      refine hp.resolve_right fun hknown => ?_
      rw [hnot] at hknown
      cases hknown
    split
    · cases ho : i.output with
      | unread =>
        have hnot : m.standing (.output p) = none := standing_unknown hi fun o => by simp [ho]
        exact h.lookOutput (hlives hnot) hnot (h.outputLinks (hlives hnot) i)
      | linked r =>
        rw [ho] at hsincere
        have hnot : m.standing (.output p) = none := standing_unknown hi fun o => by simp [ho]
        exact h.lookOutput (hlives hnot) hnot hsincere
      | known o => exact ⟨h, fun _ _ _ => id⟩
    · exact ⟨h, fun _ _ _ => id⟩

/-- A task reads what it is owed. -/
theorem Unspoiled.foldl_read (l : List Awaited) : ∀ {m : Machine}, m.Unspoiled (some k) →
    (∀ a ∈ l, m.Owed k p a) →
      (l.foldl read m).Unspoiled (some k) ∧ ∀ c, m.Tends k p c → (l.foldl read m).Tends k p c := by
  induction l with
  | nil => exact fun h _ => ⟨h, fun _ => id⟩
  | cons a rest ih =>
    intro m h hall
    have hread : (m.read a).Unspoiled (some k) ∧ ∀ c, m.Tends k p c → (m.read a).Tends k p c := by
      have ha := hall a List.mem_cons_self
      cases a with
      | output c =>
        obtain ⟨hread, htends⟩ := h.readOutput ha.2
        exact ⟨hread, htends p ha.1⟩
      | _ => exact ⟨h, fun _ => id⟩
    obtain ⟨hfirst, htends⟩ := hread
    have hrest (a' : Awaited) (ha' : a' ∈ rest) : (m.read a).Owed k p a' := by
      have howed := hall a' (List.mem_cons_of_mem _ ha')
      cases a' with
      | output c => exact htends c howed
      | _ => exact howed
    obtain ⟨hlast, hmore⟩ := ih hfirst hrest
    exact ⟨hlast, fun c hc => hmore c (htends c hc)⟩

/-! ### The end of a task -/

/-- A task ends, with no failure or one that its pipeline may come to. -/
theorem Unspoiled.finish (h : m.Unspoiled (some k)) (ht : m.Employs p k t) {o : Outcome}
    (ho : FailsOnly (m.Fair p) o) : (m.finish k t o).Unspoiled none := by
  have hreleased := (h.release ht []).1
  have he : m.Extends (m.release k []) := (release_deeds k [] : Deeds none m _).extends'
  have ht' := he.employs ht
  have hfilled := hreleased.fill (s := t.slot) (o := o.mapError (Fault.blame · t.node)) fun q _ hq f hf => by
    obtain rfl := hreleased.laid.single hq ht'.slot
    cases o with
    | ok v => cases hf
    | error f₀ =>
      cases hf
      exact he.fair fun hgoesOn hsheltered => (Fault.genuine_blame t.node).mpr (ho f₀ rfl hgoesOn hsheltered)
  exact hfilled.setPhase ((fill_extends _ _).employs ht') trivial

theorem Unspoiled.finish_error (h : m.Unspoiled (some k)) (ht : m.Employs p k t) {f : Fault} (hf : m.Fair p f) :
    (m.finish k t (.error f)).Unspoiled none :=
  h.finish ht (.error hf)

/-- Who has not ended and is sheltered shelters its children. -/
theorem Raised.sheltered {c : Nat} (h : m.Raised k p c) (hgoesOn : ¬m.Ended p) (hsheltered : m.Sheltered p) :
    m.Sheltered c := by
  obtain ⟨parent, i, hparent, hi, hscope, -⟩ := h
  intro i' hi' q hq hqc hover
  rw [hi'.scope_eq hi, hscope] at hq
  have hq := (List.mem_cons.mp hq).resolve_left hqc
  by_cases hqp : q = p
  · exact hgoesOn (hqp ▸ hover)
  · exact hsheltered parent hparent q hq hqp hover

/-- What an output has come to is not spoiled. -/
theorem Unspoiled.output (h : m.Unspoiled who) {o : Outcome} (ho : m.standing (.output p) = some o) :
    FailsOnly (fun f => m.Sheltered p → f.Genuine) o := by
  rw [standing_output] at ho
  cases hi : m.instances[p]? with
  | none => simp [hi] at ho
  | some i =>
    have hsincere := h.outputs hi
    cases hknown : i.output with
    | known o' =>
      simp only [hi, Option.map_some, hknown] at ho
      rw [hknown] at hsincere
      exact Option.some.inj ho ▸ hsincere
    | _ => simp [hi, hknown] at ho

/-- What a task is owed tells nothing that is spoiled. -/
theorem Unspoiled.owed_tells (h : m.Unspoiled who) {a : Awaited} (ha : m.Owed k p a) :
    Progress.Tells (m.Fair p) (m.standing a) := by
  cases a with
  | link l => exact ha.elim
  | timer due o =>
    intro f hf
    simp only [standing] at hf
    split at hf
    · exact fun _ _ => ha f (Option.some.inj hf)
    · cases hf
  | broken due => exact ha.elim
  | output c => exact fun f hf hgoesOn hsheltered => h.output hf f rfl (ha.1.sheltered hgoesOn hsheltered)

/-- What a task is owed does not break down. -/
theorem Owed.isBroken {a : Awaited} (ha : m.Owed k p a) : a.isBroken = false := by
  cases a with
  | broken due => exact ha.elim
  | _ => rfl

theorem mem_awaitedChildren {c : Nat} {l : List Awaited} : c ∈ awaitedChildren l ↔ .output c ∈ l := by
  unfold awaitedChildren
  rw [List.mem_filterMap]
  constructor
  · rintro ⟨a, ha, hc⟩
    cases a with
    | output c' =>
      cases hc
      exact ha
    | _ => cases hc
  · exact fun hc => ⟨_, hc, rfl⟩

/-- A task waits for a result of which nothing is spoiled. -/
theorem Unspoiled.settle (h : m.Unspoiled (some k)) (ht : m.Employs p k t) {result : Progress Awaited}
    (hresult : result.every (m.Fair p) (m.Owed k p)) : (m.settle k t result).Unspoiled none := by
  have howed := Progress.every_awaited result hresult
  obtain ⟨hread, htends⟩ := h.foldl_read result.awaited howed
  have he : m.Extends (result.awaited.foldl read m) := (foldl_read_deeds result.awaited : Deeds none m _).extends'
  rw [settle_eq k t fun a ha => (howed a ha).isBroken]
  generalize result.awaited.foldl read m = m' at hread htends he ⊢
  have ht' := he.employs ht
  have hevery : result.every (m'.Fair p) (m'.Owed k p) := by
    refine Progress.every_mono (fun _ => he.fair) (fun a ha => ?_) result hresult
    cases a with
    | output c => exact htends c ha
    | _ => exact ha
  have hlook := Progress.look_every Telling.plain (fun _ ha => hread.owed_tells ha) result hevery
  have hpark {result : Progress Awaited} (hresult : result.every (m'.Fair p) (m'.Owed k p)) :
      ((m'.release k (awaitedChildren result.awaited)).park k (.settling result)).Unspoiled none := by
    obtain ⟨hreleased, hkeeps⟩ := hread.release ht' (awaitedChildren result.awaited)
    have he' : m'.Extends (m'.release k (awaitedChildren result.awaited)) := (release_deeds k _ : Deeds none m' _).extends'
    refine hreleased.park (he'.employs ht') (Progress.every_imp (fun _ => he'.fair) result hresult fun a hmem ha => ?_)
    cases a with
    | output c => exact hkeeps c (mem_awaitedChildren.mpr hmem) ha
    | _ => exact ha
  rw [settled_eq]
  generalize result.look (m := Id) m'.standing = looked at hlook ⊢
  cases looked with
  | done o =>
    cases o with
    | ok v =>
      have hchecked := Outcome.genuine_of_cause (t.function.checkOutput_genuine v)
      exact hread.finish ht' fun f hf _ _ => hchecked f hf
    | error f => exact hread.finish_error ht' hlook
  | pending a => exact hpark hlook
  | parts whole items => exact hpark hlook

/-! ### Replies -/

/-- A child of a pipeline that lives has nothing in it that is spoiled, whether its task keeps it or not. -/
theorem Unspoiled.under (h : m.Unspoiled (some k)) (ht : m.Employs p k t) {i : Instance} (hi : m.instances[p]? = some i)
    (hlives : i.alive = true) (kept : Bool) (spec : Spec) (v : Value) (stages : List (Stage × Function)) :
    (m.assembled spec (.under i (if kept then none else some k) v) stages).Unspoiled (some k) ∧
      (m.assembled spec (.under i (if kept then none else some k) v) stages).Raised k p m.instances.size := by
  have hparent := isInstance_of_get hi
  have hin (place : Placement) := (m.assembled_extends spec place stages).isInstance hparent
  cases kept with
  | false =>
    have hkept : (m.assembled spec (.under i (some k) v) stages).Kept :=
      h.kept.made hi hlives (fun k' hk => ⟨t, Option.some.inj hk ▸ ht.task, ht.pipeline⟩) spec v stages
    exact ⟨h.assembled hkept (fun q hq => h.laid.around hparent hq) nofun, i, _, hin _,
      assembled_new spec _ stages, rfl, .inl ⟨rfl, rfl⟩⟩
  | true =>
    have hkept : (m.assembled spec (.under i none v) stages).Kept :=
      h.kept.made hi hlives (fun _ hk => by cases hk) spec v stages
    exact ⟨h.assembled hkept (fun q hq => h.laid.around hparent hq) fun _ => rfl, i, _, hin _,
      assembled_new spec _ stages, rfl, .inr rfl⟩

/-- A child is started in a pipeline that lives, and is tended. -/
theorem Unspoiled.spawn (h : m.Unspoiled (some k)) (ht : m.Employs p k t) (hlives : m.alive p = true) (kept : Bool)
    (spec : Spec) (v : Value) :
    match m.spawn t.pipeline (if kept then none else some k) spec v with
    | .error f => f.Genuine
    | .ok (child, m') => m.Extends m' ∧ m'.Unspoiled (some k) ∧ m'.alive p = true ∧ m'.Tends k p child ∧
        ∀ c, m.Tends k p c → m'.Tends k p c := by
  obtain ⟨i, hi, hilives⟩ := alive_iff.mp hlives
  have hfunctions := m.functionsOf_genuine spec
  rw [ht.pipeline, spawn_alive hi hilives]
  cases hstages : m.functionsOf spec with
  | error f => exact hfunctions f hstages
  | ok stages =>
    obtain ⟨hassembled, hraised⟩ := h.under ht hi hilives kept spec v stages
    show m.Extends ((m.assembled spec (.under i (if kept then none else some k) v) stages).start m.instances.size) ∧ _
    generalize Placement.under i (if kept then none else some k) v = place at hassembled hraised ⊢
    have he := m.assembled_extends spec place stages
    have hstart := start_extends (m := m.assembled spec place stages) m.instances.size
    have halive {q : Nat} (hq : m.alive q = true) :
        ((m.assembled spec place stages).start m.instances.size).alive q = true := by
      rw [start_alive]
      exact assembled_alive hq
    refine ⟨he.trans hstart, hassembled.start _, halive hlives, ⟨hstart.raised hraised, .inl ?_⟩,
      fun c hc => (he.trans hstart).tends hc halive⟩
    rw [start_alive]
    exact alive_iff.mpr ⟨_, (assembled_instances spec place stages _).trans (if_pos rfl), rfl⟩

/-- Children for several inputs, all of them tended. -/
theorem Unspoiled.spawnAll (kept : Bool) (spec : Spec) (inputs : List Value) : ∀ {m : Machine},
    m.Unspoiled (some k) → m.Employs p k t → m.alive p = true →
      (m.spawnAll t.pipeline (if kept then none else some k) spec inputs).2.Unspoiled (some k) ∧
      (∀ c, m.Tends k p c → (m.spawnAll t.pipeline (if kept then none else some k) spec inputs).2.Tends k p c) ∧
      match (m.spawnAll t.pipeline (if kept then none else some k) spec inputs).1 with
      | .error f => f.Genuine
      | .ok children => children.length = inputs.length ∧
          ∀ c ∈ children, (m.spawnAll t.pipeline (if kept then none else some k) spec inputs).2.Tends k p c := by
  induction inputs with
  | nil => exact fun h _ _ => ⟨h, fun _ => id, rfl, nofun⟩
  | cons v rest ih =>
    intro m h ht hlives
    have hspawn := h.spawn ht hlives kept spec v
    unfold Machine.spawnAll
    cases hv : m.spawn t.pipeline (if kept then none else some k) spec v with
    | error f =>
      rw [hv] at hspawn
      exact ⟨h, fun _ => id, hspawn⟩
    | ok made =>
      obtain ⟨child, m'⟩ := made
      rw [hv] at hspawn
      obtain ⟨he, hfirst, hlives', hchild, htends⟩ := hspawn
      obtain ⟨hmore, hkeeps, hall⟩ := ih hfirst (he.employs ht) hlives'
      simp only
      generalize m'.spawnAll t.pipeline (if kept then none else some k) spec rest = made at hmore hkeeps hall ⊢
      obtain ⟨more, m''⟩ := made
      refine ⟨hmore, fun c hc => hkeeps c (htends c hc), ?_⟩
      cases more with
      | error f => exact hall
      | ok children =>
        refine ⟨congrArg (· + 1) hall.1, fun c hc => ?_⟩
        rcases List.mem_cons.mp hc with rfl | hc
        · exact hkeeps c hchild
        · exact hall.2 c hc

/-- What an honest function gives is owed to its task. -/
theorem owed_promised {given : List Nat} {r : Resolvable Promise} (hr : (Reply.give r).Honest given)
    (hgiven : ∀ c ∈ given, m.Tends k p c) :
    (r.map m.promised).progress.every (m.Fair p) (m.Owed k p) := by
  refine Resolvable.progress_every _ fun a ha => ?_
  rw [Resolvable.map_awaited] at ha
  obtain ⟨promise, hpromise, rfl⟩ := List.mem_map.mp ha
  have hhonest := hr promise hpromise
  cases promise with
  | later ms o => exact hhonest
  | broken ms => exact hhonest.elim
  | held c => exact hgiven c hhonest

/-- The children that a function gives are kept. -/
theorem mem_givenChildren {r : Resolvable Promise} {c : Nat} (h : .held c ∈ r.awaited) : c ∈ givenChildren r :=
  List.mem_filterMap.mpr ⟨_, h, rfl⟩

/-- **An honest reply is carried out without spoiling anything**, for a task whose pipeline lives. -/
theorem Unspoiled.perform : ∀ (reply : Reply) {m : Machine} {given : List Nat}, m.Unspoiled (some k) →
    m.Employs p k t → m.alive p = true → reply.Honest given → (∀ c ∈ given, m.Tends k p c) →
      (Machine.perform k t reply m).Unspoiled none
  | .give r, m, given, h, ht, _, hhonest, hgiven => by
    obtain ⟨hreleased, hkeeps⟩ := h.release ht (givenChildren r)
    have he : m.Extends (m.release k (givenChildren r)) := (release_deeds k _ : Deeds none m _).extends'
    have hpromised := owed_promised hhonest hgiven
    refine hreleased.settle (he.employs ht) ?_
    refine Progress.every_imp (fun _ => he.fair) _ hpromised fun a hmem ha => ?_
    cases a with
    | output c =>
      rw [Resolvable.progress_awaited, Resolvable.map_awaited] at hmem
      obtain ⟨promise, hpromise, heq⟩ := List.mem_map.mp hmem
      cases promise with
      | held c' =>
        cases heq
        exact hkeeps c (mem_givenChildren hpromise) ha
      | _ => cases heq
    | _ => exact ha
  | .fail f, m, given, h, ht, _, hhonest, _ => h.finish_error ht fun _ _ => hhonest
  | .panic message, m, given, h, ht, _, _, _ => h.finish_error ht fun _ _ => rfl
  | .rest ms next, m, given, h, ht, hlives, hhonest, hgiven => by
    unfold Machine.perform
    split
    · exact Unspoiled.perform next h ht hlives hhonest hgiven
    · exact h.park ht ⟨given, hhonest, hgiven⟩
  | .hang, m, given, h, ht, _, _, _ => h.setPhase ht trivial
  | .start kept spec inputs next, m, given, h, ht, hlives, hhonest, hgiven => by
    obtain ⟨hspawned, hkeeps, hmade⟩ := Unspoiled.spawnAll kept spec inputs h ht hlives
    have he : m.Extends (m.spawnAll t.pipeline (if kept then none else some k) spec inputs).2 :=
      (spawnAll_deeds kept ht.pipeline inputs ht.task).extends'
    have hlives' : (m.spawnAll t.pipeline (if kept then none else some k) spec inputs).2.alive p = true :=
      spawnAll_alive inputs hlives
    unfold Machine.perform
    generalize m.spawnAll t.pipeline (if kept then none else some k) spec inputs = made
      at hspawned hkeeps hmade he hlives' ⊢
    obtain ⟨result, m'⟩ := made
    cases result with
    | error f => exact hspawned.finish_error (he.employs ht) fun _ _ => hmade
    | ok children =>
      refine Unspoiled.perform (next (children.map .held)) hspawned (he.employs ht) hlives' (hhonest children hmade.1)
        fun c hc => ?_
      rcases List.mem_append.mp hc with hold | hnew
      · exact hkeeps c (hgiven c hold)
      · exact hmade.2 c hnew

/-! ### Turns -/

/-- An honest function is called. -/
theorem Unspoiled.call (h : m.Unspoiled (some k)) (ht : m.Employs p k t) (hlives : m.alive p = true)
    (hhonest : t.function.Honest) (args : Fields) :
    (m.call k t args).Unspoiled none := by
  unfold Machine.call
  cases hbind : t.function.bindArguments args with
  | error cause => exact h.finish_error ht fun _ _ => t.function.bindArguments_genuine args cause hbind
  | ok bound =>
    have hnoted : (m.noted k t bound).Unspoiled (some k) := h.same (fun _ => rfl) rfl rfl rfl rfl
    exact Unspoiled.perform _ hnoted ((noted_extends k t bound).employs ht) hlives (hhonest _) nofun

/-- A task of a pipeline that lives looks at its arguments. -/
theorem Unspoiled.gather (h : m.Unspoiled (some k)) (ht : m.Employs p k t) (hlives : m.alive p = true)
    (hhonest : t.function.Honest) {names : List String} {args : List (Progress Awaited)}
    (hargs : Progress.everyOfAll (m.Fair p) (m.Asked p) args) : (m.gather k t names args).Unspoiled none := by
  have hask (a : Awaited) (ha : m.Asked p a) :
      (Telling.keeping (Taken m)).holds (ask a) (Progress.Tells (m.Fair p)) := by
    cases a with
    | link l => exact h.link_tells hlives ha (Telling.keeping (Taken m)) (receive_tells m)
    | _ => exact ha.elim
  have hlook := Progress.lookThrough_every (Telling.keeping (Taken m)) hask hargs m (Taken.refl m)
  have hsound (a : Awaited) (ha : a ∈ Progress.awaitedOfAll args) : a.isBroken = false := by
    have hasked := Progress.everyOfAll_awaited args hargs a ha
    cases a with
    | link l => rfl
    | _ => exact hasked.elim
  rw [gather_eq k t names hsound, collect_eq]
  generalize Progress.lookThrough ask args m = looked at hlook ⊢
  obtain ⟨args', m'⟩ := looked
  obtain ⟨hevery, htaken⟩ := hlook
  have htook := h.taken htaken
  have ht' := htaken.extends'.employs ht
  simp only
  cases hall : Progress.gathered args' with
  | none =>
    refine htook.park ht' (Progress.everyOfAll_mono (fun _ => htaken.extends'.fair) (fun a ha => ?_) args' hevery)
    cases a with
    | link l => exact htaken.extends'.leads ha
    | _ => exact ha
  | some o =>
    cases o with
    | error f => exact htook.finish_error ht' (htaken.extends'.fair (Progress.gathered_every hevery hall))
    | ok values =>
      refine htook.call ht' ?_ hhonest _
      rw [alive_eq, htaken.instances, ← alive_eq]
      exact hlives

/-- The arguments of a stage, when it starts. -/
theorem Unspoiled.arguments (h : m.Unspoiled who) (hp : t.pipeline = some p) (hlives : m.alive p = true) (s : Stage) :
    Progress.everyOfAll (m.Fair p) (m.Asked p) (m.argumentsOf t s) := by
  refine Resolvable.everyOfAll_progress _ _ fun a ha => ?_
  change a ∈ Progress.awaitedOfAll (m.argumentsOf t s) at ha
  rw [argumentsOf_awaited] at ha
  obtain ⟨entry, -, rfl⟩ := List.mem_map.mp ha
  rw [hp]
  exact h.link hlives _ none entry.2

/-- **A turn spoils nothing**, where all functions are honest. -/
theorem Unspoiled.turn (h : m.Unspoiled none) (howned : m.Owned none) (hposted : m.Posted none)
    (hregistry : m.registry.Honest) (k : Nat) : (m.turn k).Unspoiled none := by
  have h : m.refreshed.Unspoiled none := h.same (fun _ => rfl) rfl rfl rfl rfl
  have howned : m.refreshed.Owned none := howned.alike rfl rfl
  have hposted : m.refreshed.Posted none := hposted.still ⟨rfl, rfl, rfl, rfl, rfl⟩
  have hregistry : m.refreshed.registry.Honest := hregistry
  unfold Machine.turn
  generalize m.refreshed = m at h howned hposted hregistry ⊢
  simp only
  cases hget : m.tasks[k]? with
  | none => exact h
  | some t =>
    obtain ⟨p, i, n, s, hserves, hprepares⟩ := hposted.serves hget
    have hp := hserves.pipeline
    have ht : m.Employs p k t := ⟨isTask_of_get hget, hp, i, .cancelled s.name, hserves.isInstance,
      List.mem_append_left _ (List.mem_map_of_mem (List.mem_of_getElem? hserves.slot))⟩
    have hbusy := h.busy k
    have hhonest : t.function.Honest := hregistry _ _ hserves.function
    have hunharmed := h.tasks hget nofun hp
    have hlives (hquiet : t.phase.quiet = false) : m.alive p = true := by
      obtain ⟨_, _, _, hi⟩ := hserves.isInstance
      refine alive_iff.mpr ⟨_, hi, Bool.of_not_eq_false fun hover => ?_⟩
      cases hquiet.symm.trans ((howned.minds hget nofun).quiet hp ⟨_, hi, hover⟩)
    simp only
    cases hphase : t.phase with
    | unstarted args positional =>
      rw [hphase] at hprepares
      obtain ⟨rfl, rfl⟩ := hprepares
      have hlives := hlives (by rw [hphase]; rfl)
      simp only
      split
      · exact hbusy.finish_error ht fun _ _ => rfl
      · exact hbusy.gather ht hlives hhonest (h.arguments hp hlives s)
    | gathering names args =>
      rw [hphase] at hunharmed
      exact hbusy.gather ht (hlives (by rw [hphase]; rfl)) hhonest hunharmed
    | resting due next =>
      rw [hphase] at hunharmed
      obtain ⟨given, hnext, hgiven⟩ := hunharmed
      simp only
      split
      · exact Unspoiled.perform next hbusy ht (hlives (by rw [hphase]; rfl)) hnext hgiven
      · exact hbusy.park ht ⟨given, hnext, hgiven⟩
    | settling result =>
      rw [hphase] at hunharmed
      exact hbusy.settle ht hunharmed
    | hanging => exact h
    | finished => exact h

end StageGraph.Machine
