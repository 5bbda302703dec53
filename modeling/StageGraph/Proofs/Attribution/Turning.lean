import StageGraph.Proofs.Attribution.Coming
import StageGraph.Proofs.Attribution.Reading
import StageGraph.Proofs.Machine.Arguments

/-! A turn of a task keeps every failure accounted for.

Whatever a task fails with, its stage has reason to: it was told it, or it arises in the phase that the task is in. So
with its arguments (`Sound.gather`), its call (`Sound.call`), what its function replies (`Sound.perform`) and the
result (`Sound.settle`). -/
namespace StageGraph.Machine

variable {m : Machine}

/-! ### The end of a task -/

/-- A task ends with a failure that its stage has reason to fail with, or with a value. -/
theorem Sound.finish (h : m.Sound) {k : Nat} {t : Task} (ht : m.IsTask k t) {o : Outcome}
    (ho : ∀ f, o = .error f → m.FaultSound t f) : Onward m (m.finish k t o) := by
  have hreleased := h.release k []
  have hfilled : Onward (m.release k []) ((m.release k []).fill t.slot (o.mapError (Fault.blame · t.node))) := by
    refine hreleased.sound.fill fun f hf => ?_
    cases o with
    | ok v => cases hf
    | error f₀ =>
      cases hf
      refine .inr ⟨?_, hreleased.extends'.due (ho f₀ rfl)⟩
      exact (hreleased.sound.apart (hreleased.extends'.isTask ht)).2
  have hall := hreleased.trans hfilled
  exact hall.trans (hall.sound.setPhase (hall.extends'.isTask ht) trivial fun _ _ _ => rfl)

/-- A task goes with something that its function gave. -/
theorem Sound.collapse (h : m.Sound) {k ms : Nat} {t : Task} (ht : m.IsTask k t) {r : Resolvable Promise}
    (hr : m.Replied k t (.give r)) (hbroken : .broken ms ∈ r.awaited) : Onward m (m.collapse k t) := by
  have hreleased := h.release k []
  have hover {m' : Machine} (hall : Onward m m') : Onward m (m'.setPhase k .finished) :=
    hall.trans (hall.sound.setPhase (hall.extends'.isTask ht) trivial fun _ _ _ => rfl)
  unfold Machine.collapse
  cases hloss : m.loss? t with
  | none => exact hover hreleased
  | some cause =>
    obtain ⟨p, i, hp, hi, hmem⟩ := mem_abandoned_of_loss? hloss
    refine hover (hreleased.trans (hreleased.sound.fill fun f hf => ?_))
    cases hf
    exact .inl (hreleased.extends'.forsaken (.collapsed ht hr hbroken rfl hp (isInstance_of_get hi) hmem))

/-- A task fails with what arises at its stage. -/
theorem Sound.finish_of_arises (h : m.Sound) {k : Nat} {t : Task} (ht : m.IsTask k t) {f : Fault}
    (hf : m.Arises (.slot t.slot) (f.blame t.node)) : Onward m (m.finish k t (.error f)) := by
  refine h.finish ht fun f' hf' => ?_
  cases hf'
  exact .inl hf

/-! ### Results -/

theorem bears_valueAt? (m : Machine) : m.Bears m.valueAt? := by
  intro a o ho
  unfold valueAt?
  rw [ho]
  rfl

/-- A task waits for its result. -/
theorem Sound.settle (h : m.Sound) {k : Nat} {t : Task} (ht : m.IsTask k t) {result : Progress Awaited}
    (hresult : m.PhaseSound k t (.settling result)) : Onward m (m.settle k t result) := by
  have hread := h.foldl_read result.awaited
  rw [settle_cases]
  generalize result.awaited.foldl Machine.read m = m' at hread ⊢
  have ht' : m'.IsTask k t := hread.extends'.isTask ht
  obtain ⟨⟨r, hr, hvalue⟩, hevery⟩ := hread.extends'.phaseSound hresult
  split
  · next hbreaks =>
    obtain ⟨due, hdue, -⟩ := exists_broken hbreaks
    obtain ⟨r', ms, hr', hmem⟩ := Progress.every_awaited result hevery _ hdue
    exact hread.trans (hread.sound.collapse ht' hr' hmem)
  rw [settled_eq]
  have hlook := Progress.look_every Telling.plain (fun a ha => hread.sound.standing_tells ha) result hevery
  have hsettles (known : Station → Option Value) (hk : m'.Bears known) :
      (result.look (m := Id) m'.standing).value? (Awaited.comesTo? known) = r.value? (Promise.comesTo? known) := by
    rw [← hvalue known hk]
    exact Progress.look_value? Telling.plain result fun a _ => hk.standing_agrees a
  have hpark {result : Progress Awaited} (hresult : m'.PhaseSound k t (.settling result)) :
      Onward m' ((m'.release k (awaitedChildren result.awaited)).park k (.settling result)) := by
    have hreleased := hread.sound.release k (awaitedChildren result.awaited)
    exact hreleased.trans (hreleased.sound.park (hreleased.extends'.isTask ht') (hreleased.extends'.phaseSound hresult)
      fun _ _ _ => rfl)
  refine hread.trans ?_
  generalize result.look (m := Id) m'.standing = looked at hlook hsettles ⊢
  cases looked with
  | done o =>
    cases o with
    | error f =>
      refine hread.sound.finish ht' fun f' hf' => ?_
      cases hf'
      exact hlook
    | ok v =>
      have hv : r.value? (Promise.comesTo? m'.valueAt?) = some v := (hsettles _ (bears_valueAt? m')).symm
      refine hread.sound.finish ht' fun f hf => ?_
      cases hcheck : t.function.checkOutput v with
      | ok w =>
        rw [hcheck] at hf
        cases hf
      | error cause =>
        rw [hcheck] at hf
        cases hf
        exact .inl (.unsuitable ht' hr hv hcheck)
  | pending a => exact hpark ⟨⟨r, hr, hsettles⟩, hlook⟩
  | parts whole items => exact hpark ⟨⟨r, hr, hsettles⟩, hlook⟩

/-! ### Replies -/

/-- What a function gives, when it gives it. -/
theorem settling_promised {k : Nat} {t : Task} (ht : m.IsTask k t) {r : Resolvable Promise}
    (hr : m.Replied k t (.give r)) : m.PhaseSound k t (.settling (r.map m.promised).progress) := by
  refine ⟨⟨r, hr, fun known _ => ?_⟩, ?_⟩
  · rw [Resolvable.progress_value?, Resolvable.map_value?]
    congr 1
    funext p
    cases p <;> rfl
  · refine Resolvable.progress_every _ fun a ha => ?_
    rw [Resolvable.map_awaited] at ha
    obtain ⟨p, hp, rfl⟩ := List.mem_map.mp ha
    cases p with
    | later ms o =>
      intro f hf
      subst hf
      exact .inl (.promised ht hr hp)
    | broken ms => exact ⟨r, ms, hr, hp⟩
    | held c => exact .child ht hr hp

/-- In a pipeline that lives a task may do whatever it does. -/
theorem busy_of_alive {p : Nat} {t : Task} (hp : t.pipeline = some p) (hlives : m.alive p = true) (phase : Phase) :
    ∀ q, t.pipeline = some q → m.Ended q → phase.quiet = true := by
  intro q hq hover
  obtain rfl := Option.some.inj (hp.symm.trans hq)
  rw [not_alive_of_ended hover] at hlives
  cases hlives

/-- A reply is carried out in a pipeline that lives. -/
theorem Sound.perform {k p : Nat} {t : Task} (hp : t.pipeline = some p) : ∀ (reply : Reply) {m : Machine}, m.Sound →
    m.IsTask k t → m.Replied k t reply → m.alive p = true → Onward m (Machine.perform k t reply m)
  | .give r, m, h, ht, hr, _ => by
    have hreleased := h.release k (givenChildren r)
    refine hreleased.trans (hreleased.sound.settle (hreleased.extends'.isTask ht) ?_)
    exact hreleased.extends'.phaseSound (settling_promised ht hr)
  | .fail f, m, h, ht, hr, _ => h.finish_of_arises ht (.failed ht hr)
  | .panic message, m, h, ht, hr, _ => h.finish_of_arises ht (.brokeDown ht hr)
  | .rest ms next, m, h, ht, hr, hlives => by
    have hnext : m.Replied k t next := by
      obtain ⟨c, hc, hcarries⟩ := hr
      exact ⟨c, hc, .rested hcarries⟩
    unfold Machine.perform
    split
    · exact Sound.perform hp next h ht hnext hlives
    · exact h.park ht hnext (busy_of_alive hp hlives _)
  | .hang, m, h, ht, _, hlives => h.setPhase ht trivial (busy_of_alive hp hlives _)
  | .start kept spec inputs next, m, h, ht, hr, hlives => by
    obtain ⟨hspawned, hlives', hmade⟩ := Sound.spawnAll hp inputs h ht hr hlives
    unfold Machine.perform
    generalize m.spawnAll t.pipeline (if kept then none else some k) spec inputs = made at hspawned hlives' hmade ⊢
    obtain ⟨result, m'⟩ := made
    have ht' : m'.IsTask k t := hspawned.extends'.isTask ht
    have hr' : m'.Replied k t (.start kept spec inputs next) := hspawned.extends'.replied hr
    cases result with
    | error f => exact hspawned.trans (hspawned.sound.finish_of_arises ht' (.unfit ht' hr' hmade))
    | ok children =>
      obtain ⟨c, hc, hcarries⟩ := hr'
      exact hspawned.trans
        (Sound.perform hp (next (children.map .held)) hspawned.sound ht' ⟨c, hc, .started hcarries hmade⟩ hlives')

/-! ### Arguments -/

/-- A function is called with the arguments that its stage has for it. -/
theorem Sound.call (h : m.Sound) {k p : Nat} {t : Task} (ht : m.IsTask k t) (hp : t.pipeline = some p)
    (hlives : m.alive p = true) {args : Fields} (hargs : m.Given t args) : Onward m (m.call k t args) := by
  unfold Machine.call
  cases hbind : t.function.bindArguments args with
  | error cause => exact h.finish_of_arises ht (.refused ht hargs hbind)
  | ok bound =>
    have hlogged : Onward m { m with log := m.log.push ⟨k, t.function.name, t.function.recorded, bound⟩ } :=
      h.moved (.call ht hargs hbind) (fun _ => rfl) rfl rfl rfl
    have hreplied : m.Replied k t (t.function.handler (m.callOf t bound)) :=
      ⟨m.callOf t bound, ⟨args, hargs, hbind, rfl⟩, .all⟩
    exact hlogged.trans
      (Sound.perform hp _ hlogged.sound (hlogged.extends'.isTask ht) (hlogged.extends'.replied hreplied) hlives)

/-- A task looks at its arguments, and calls its function when they are there. -/
theorem Sound.gather (h : m.Sound) {k p : Nat} {t : Task} (ht : m.IsTask k t) (hp : t.pipeline = some p)
    (hlives : m.alive p = true) {names : List String} {args : List (Progress Awaited)}
    (hargs : m.PhaseSound k t (.gathering names args)) : Onward m (m.gather k t names args) := by
  obtain ⟨hgathers, hevery⟩ := hargs
  have hreader (q : Nat) (hq : t.pipeline = some q) : m.alive q = true := Option.some.inj (hp.symm.trans hq) ▸ hlives
  have hlook := Progress.lookThrough_every (Telling.keeping (Taken m)) (fun a ha => h.ask_tells ha hreader) hevery m
    (Taken.refl m)
  have hlinks (a : Awaited) (ha : a ∈ Progress.awaitedOfAll args) : a.isBroken = false := by
    have hsound := Progress.everyOfAll_awaited args hevery a ha
    cases a with
    | broken due => exact hsound.elim
    | _ => rfl
  have hvalues (known : Station → Option Value) (hk : m.Bears known) :
      Progress.values? (Awaited.comesTo? known) (Progress.lookThrough ask args m).1 =
        Progress.values? (Awaited.comesTo? known) args :=
    (Progress.lookThrough_values? (Telling.keeping (Taken m)) args (fun a _ => hk.ask_agrees a) m (Taken.refl m)).1
  rw [gather_eq k t names hlinks, collect_eq]
  generalize Progress.lookThrough ask args m = looked at hlook hvalues ⊢
  obtain ⟨args', m'⟩ := looked
  have hnext : Onward m m' := h.taken hlook.2
  have ht' : m'.IsTask k t := hnext.extends'.isTask ht
  have hlives' : m'.alive p = true := by
    unfold Machine.alive at hlives ⊢
    rwa [hlook.2.instances]
  obtain ⟨p', i, s, hw, hpositional, hnames, hgiven⟩ := hnext.extends'.gathers hgathers
  have hgiven' (known : Station → Option Value) (hk : m'.Bears known) (values : List Value)
      (hv : Progress.values? (Awaited.comesTo? known) args' = some values) :
      ∃ given, referred? (m'.reads? known i) s.input = some given ∧
        values = s.written.map Prod.snd ++ given.map Prod.snd :=
    hgiven known hk values ((hvalues known (hnext.extends'.bears hk)).symm.trans hv)
  have hevery' : Progress.everyOfAll (m'.FaultSound t) (m'.ArgumentSound t) args' :=
    Progress.everyOfAll_mono (fun _ hf => hnext.extends'.due hf) (fun _ ha => hnext.extends'.argumentSound ha) args'
      hlook.1
  have hsound : m'.PhaseSound k t (.gathering names args') :=
    ⟨⟨p', i, s, hw, hpositional, hnames, hgiven'⟩, hevery'⟩
  refine hnext.trans ?_
  cases hall : Progress.gathered args' with
  | none => exact hnext.sound.park ht' hsound (busy_of_alive hp hlives' _)
  | some o =>
    cases o with
    | error f =>
      refine hnext.sound.finish ht' fun f' hf' => ?_
      cases hf'
      exact Progress.gathered_every hsound.2 hall
    | ok values =>
      obtain ⟨given, hreferred, rfl⟩ := hgiven' _ (bears_valueAt? m') values (Progress.gathered_values? hall).symm
      refine hnext.sound.call ht' hp hlives' ⟨p', i, s, given, hw, hpositional, hreferred, ?_⟩
      rw [hnames, zip_arguments hreferred]

/-! ### Turns -/

/-- A link that leads to a value leads where its reference leads. -/
theorem link_reads {p : Nat} {i : Instance} (hi : m.IsInstance p i) {known : Station → Option Value} {node v : Value}
    {blamed : Option Value} {text : String}
    (hv : (m.link (some p) node blamed text).value? (fun s => known (.slot s)) = some v) :
    m.reads? known i text = some v := by
  obtain ⟨jobs, output, alive, hi⟩ := hi
  unfold Machine.link at hv
  rw [Option.bind_some, hi] at hv
  simp only at hv
  unfold reads? base?
  split at hv
  · unfold Machine.head? at hv
    by_cases hhead : (Path.splitHead text).1 = Spec.inputHead
    · rw [if_pos hhead] at hv ⊢
      exact hv
    · rw [if_neg hhead] at hv ⊢
      cases hs : m.stageSlot? (Path.splitHead text).1 i.scope with
      | none =>
        rw [hs] at hv
        cases hv
      | some s =>
        rw [hs] at hv
        rw [named?_of_stageSlot? hs]
        exact hv
  · cases hv

/-- The references of a stage, as they are looked up. -/
theorem references_given {p : Nat} {i : Instance} (hi : m.IsInstance p i) (known : Station → Option Value)
    (node : Value) (entries : List (String × String)) : ∀ {values : List Value},
      Progress.values? (Awaited.comesTo? known)
        (entries.map fun e => .pending (.link (m.link (some p) node none e.2))) = some values →
          ∃ given, referred? (m.reads? known i) entries = some given ∧ values = given.map Prod.snd := by
  induction entries with
  | nil =>
    intro values h
    cases h
    exact ⟨[], rfl, rfl⟩
  | cons entry rest ih =>
    intro values h
    rw [List.map_cons, Progress.values?] at h
    obtain ⟨v, hv, h⟩ := Option.bind_eq_some_iff.mp h
    obtain ⟨more, hmore, rfl⟩ := Option.map_eq_some_iff.mp h
    obtain ⟨given, hgiven, rfl⟩ := ih hmore
    refine ⟨(entry.1, v) :: given, ?_, rfl⟩
    rw [referred?_cons, link_reads hi hv, hgiven]
    rfl

/-- The arguments of a stage, when it starts. -/
theorem Sound.arguments (h : m.Sound) {k p : Nat} {t : Task} {i : Instance} {s : Stage} (ht : m.IsTask k t)
    (hw : m.WorksFor t p i s) (hlives : m.alive p = true) (hpositional : s.positional = false) :
    m.PhaseSound k t (.gathering (s.args.map Prod.fst) (m.argumentsOf t s)) := by
  refine ⟨⟨p, i, s, hw, hpositional, rfl, fun known _ values hv => ?_⟩, ?_⟩
  · rw [argumentsOf_eq, values?_append, hw.pipeline] at hv
    obtain ⟨more, hmore, rfl⟩ := Option.map_eq_some_iff.mp hv
    obtain ⟨given, hgiven, rfl⟩ := references_given hw.isInstance known t.inputNode s.input hmore
    exact ⟨given, hgiven, rfl⟩
  · have hlinks (entries : List (String × String)) (hin : ∀ e ∈ entries, e ∈ s.input) :
        Progress.everyOfAll (m.FaultSound t) (m.ArgumentSound t)
          (entries.map fun e => .pending (.link (m.link t.pipeline t.inputNode none e.2))) := by
      induction entries with
      | nil => exact trivial
      | cons entry rest ih =>
        refine ⟨?_, ih fun e he => hin e (List.mem_cons_of_mem _ he)⟩
        rw [hw.pipeline]
        exact ⟨p, hw.pipeline, h.link (.stage ht hw (hin entry List.mem_cons_self)) hlives none⟩
    rw [argumentsOf_eq]
    induction s.written with
    | nil => exact hlinks s.input fun _ he => he
    | cons field rest ih => exact ⟨trivial, ih⟩

/-- **A turn keeps every failure accounted for.** -/
theorem Sound.turn (h : m.Sound) (k : Nat) : Onward m (m.turn k) := by
  have hfresh : Onward m m.refreshed := h.same (fun _ => rfl) rfl rfl rfl rfl rfl
  refine hfresh.trans ?_
  have h := hfresh.sound
  unfold Machine.turn
  generalize m.refreshed = m' at h ⊢
  simp only
  cases hget : m'.tasks[k]? with
  | none => exact Onward.refl h
  | some t =>
    have ht : m'.IsTask k t := isTask_of_get hget
    have hphase := h.phases hget
    obtain ⟨p, i, s, hw⟩ := h.placed ht
    have hlives (hbusy : t.phase.quiet = false) : m'.alive p = true := by
      obtain ⟨_, _, _, hi⟩ := hw.isInstance
      refine alive_iff.mpr ⟨_, hi, Bool.of_not_eq_false fun hover => ?_⟩
      have hquiet := h.quiet hget hw.pipeline ⟨_, hi, hover⟩
      rw [hbusy] at hquiet
      cases hquiet
    simp only
    cases hp : t.phase with
    | unstarted args positional =>
      rw [hp] at hphase
      obtain ⟨p', i', s', hw', rfl, rfl⟩ := hphase
      simp only
      split
      · next hpositional => exact h.finish_of_arises ht (f := ⟨_, none⟩) (.positional ht hw' hpositional)
      · next hpositional =>
        obtain rfl := Option.some.inj (hw.pipeline.symm.trans hw'.pipeline)
        have hlives := hlives (by rw [hp]; rfl)
        exact h.gather ht hw.pipeline hlives (h.arguments ht hw' hlives (Bool.eq_false_iff.mpr hpositional))
    | gathering names args =>
      rw [hp] at hphase
      exact h.gather ht hw.pipeline (hlives (by rw [hp]; rfl)) hphase
    | resting due next =>
      rw [hp] at hphase
      have hlives := hlives (by rw [hp]; rfl)
      simp only
      split
      · exact Sound.perform hw.pipeline next h ht hphase hlives
      · exact h.park ht hphase (busy_of_alive hw.pipeline hlives _)
    | settling result =>
      rw [hp] at hphase
      exact h.settle ht hphase
    | hanging => exact Onward.refl h
    | finished => exact Onward.refl h

end StageGraph.Machine
