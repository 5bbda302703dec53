import StageGraph.Proofs.Calls.Staff

/-! Who serves which stage.

A task serves one stage of one pipeline (`Serves`) from when the pipeline is made. Until its function is called it
prepares the arguments of just that stage (`Prepares`). Once it was called it prepares nothing any more, so it is not
called again (`Posted`). Deeds leave it so (`Posted.deed`), and so do turns (`Turned.posted`). -/
namespace StageGraph.Machine

variable {m m' : Machine} {who : Option Nat}

/-- A task serves a stage of an instance, by the place of the stage in the spec. -/
structure Serves (m : Machine) (t : Task) (p : Nat) (i : Instance) (n : Nat) (s : Stage) : Prop where
  pipeline : t.pipeline = some p
  isInstance : m.IsInstance p i
  stage : i.spec.stages[n]? = some s
  slot : i.stages[n]? = some (s.name, t.slot)
  node : t.node = s.node
  inputNode : t.inputNode = s.inputNode
  function : m.registry.get? s.function = some t.function

/-- What is prepared for a call are the arguments of a stage: once they are all there, those that are written down and
those that the references of the stage lead to. -/
def Prepares (m : Machine) (i : Instance) (s : Stage) : Phase → Prop
  | .unstarted args positional => args = s.args ∧ positional = s.positional
  | .gathering names args => s.positional = false ∧ names = s.args.map Prod.fst ∧
    ∀ known, m.Bears known → ∀ values, Progress.values? (Awaited.comesTo? known) args = some values →
      ∃ given, referred? (m.reads? known i) s.input = some given ∧ values = s.written.map Prod.snd ++ given.map Prod.snd
  | _ => True

/-- How tasks and calls stand, but for a task that is at work. -/
structure Posted (who : Option Nat) (m : Machine) : Prop where
  staffed : m.Staffed
  serves {k : Nat} {t : Task} : m.tasks[k]? = some t → ∃ p i n s, m.Serves t p i n s ∧ m.Prepares i s t.phase
  called {call : Received} : call ∈ m.log →
    ∃ t, m.tasks[call.task]? = some t ∧ (t.phase.preparing = true → who = some call.task)
  once {a b : Nat} {call call' : Received} : m.log[a]? = some call → m.log[b]? = some call' → call.task = call'.task → a = b

/-! ### Going on -/

theorem Extends.serves (he : m.Extends m') {t : Task} {p n : Nat} {i : Instance} {s : Stage} (h : m.Serves t p i n s) :
    m'.Serves t p i n s :=
  ⟨h.pipeline, he.isInstance h.isInstance, h.stage, h.slot, h.node, h.inputNode, by rw [he.registry]; exact h.function⟩

theorem Serves.same {t : Task} {p n : Nat} {i : Instance} {s : Stage} (h : m.Serves t p i n s) (phase : Phase) :
    m.Serves { t with phase := phase } p i n s :=
  ⟨h.pipeline, h.isInstance, h.stage, h.slot, h.node, h.inputNode, h.function⟩

theorem Extends.prepares (he : m.Extends m') {i : Instance} {s : Stage} {phase : Phase} (h : m.Prepares i s phase) :
    m'.Prepares i s phase := by
  cases phase with
  | gathering names args =>
    obtain ⟨hpositional, hnames, hvalues⟩ := h
    refine ⟨hpositional, hnames, fun known hk values hv => ?_⟩
    obtain ⟨given, hgiven, heq⟩ := hvalues known (he.bears hk) values hv
    exact ⟨given, referred?_within (he.reads? (fun _ _ hs => hs) i) hgiven, heq⟩
  | _ => exact h

theorem prepares_of_called {i : Instance} {s : Stage} {phase : Phase} (h : phase.preparing = false) :
    m.Prepares i s phase := by
  cases phase with
  | unstarted => cases h
  | gathering => cases h
  | _ => trivial

/-- A task as it goes on: only its phase is another one, and it prepares nothing that was not prepared before. -/
def Continues (m m' : Machine) (before after : Task) : Prop :=
  (∃ phase, after = { before with phase := phase }) ∧ (after.phase.preparing = true →
    before.phase.preparing = true ∧
      ∀ p i n s, m.Serves before p i n s → m.Prepares i s before.phase → m'.Prepares i s after.phase)

theorem continues_same (he : m.Extends m') (t : Task) : Continues m m' t t :=
  ⟨⟨t.phase, rfl⟩, fun hp => ⟨hp, fun _ _ _ _ _ => he.prepares⟩⟩

theorem continues_called (t : Task) {phase : Phase} (h : phase.preparing = false) :
    Continues m m' t { t with phase := phase } :=
  ⟨⟨phase, rfl⟩, fun hp => absurd (h.symm.trans hp) Bool.false_ne_true⟩

/-- All tasks go on, and there are no new ones. -/
theorem Posted.continues (h : m.Posted who) (he : m.Extends m') (hstaffed : m'.Staffed) (hlog : m'.log = m.log)
    (htask : ∀ {k : Nat} {t : Task}, m'.tasks[k]? = some t →
      ∃ before : Task, m.tasks[k]? = some before ∧ Continues m m' before t) : m'.Posted who := by
  refine ⟨hstaffed, fun {k t} ht => ?_, fun {call} hcall => ?_, fun ha hb => ?_⟩
  · obtain ⟨before, hbefore, ⟨phase, rfl⟩, hprepares⟩ := htask ht
    obtain ⟨p, i, n, s, hserves, hprepared⟩ := h.serves hbefore
    refine ⟨p, i, n, s, (he.serves hserves).same phase, ?_⟩
    cases hp : phase.preparing with
    | true => exact (hprepares hp).2 p i n s hserves hprepared
    | false => exact prepares_of_called hp
  · rw [hlog] at hcall
    obtain ⟨before, hbefore, hbusy⟩ := h.called hcall
    obtain ⟨phase, ht⟩ := he.isTask (isTask_of_get hbefore)
    obtain ⟨before', hbefore', -, hprepares⟩ := htask ht
    cases hbefore.symm.trans hbefore'
    exact ⟨_, ht, fun hp => hbusy (hprepares hp).1⟩
  · rw [hlog] at ha hb
    exact h.once ha hb

theorem Posted.supplied (h : m.Posted who) (hsupplied : m.Supplied m') : m'.Posted who := by
  refine h.continues hsupplied.extends' (h.staffed.supplied hsupplied) hsupplied.log fun {k t} ht => ?_
  rw [hsupplied.tasks] at ht
  exact ⟨t, ht, continues_same hsupplied.extends' t⟩

theorem Posted.still (h : m.Posted who) (hstill : m.Still m') : m'.Posted who := h.supplied hstill.supplied

/-! ### New tasks -/

section

variable {spec : Spec} {place : Placement} {stages : List (Stage × Function)}

/-- A new task serves a stage of the new instance. -/
theorem assembled_serves (hstages : m.functionsOf spec = .ok stages) {n : Nat} {s : Stage} {f : Function}
    (hn : stages[n]? = some (s, f)) (phase : Phase) :
    (m.assembled spec place stages).Serves (m.taskOf s f (m.slots.size + n) phase) m.instances.size
      (m.instanceOf spec place stages) n s := by
  obtain ⟨hspec, hfunctions⟩ := functionsOf_eq hstages
  refine ⟨rfl, assembled_new spec place stages, ?_, ?_, rfl, rfl, hfunctions (s, f) (List.mem_of_getElem? hn)⟩
  · show spec.stages[n]? = some s
    rw [← hspec, List.getElem?_map, hn]
    rfl
  · show ((numbered m.slots.size stages).map _)[n]? = _
    rw [List.getElem?_map, numbered_getElem?, hn]
    rfl

theorem Posted.assembled (h : m.Posted who) (hstages : m.functionsOf spec = .ok stages) :
    (m.assembled spec place stages).Posted who := by
  have he := m.assembled_extends spec place stages
  refine ⟨h.staffed.assembled, fun {k t} ht => ?_, fun {call} hcall => ?_, fun ha hb => h.once ha hb⟩
  · rcases assembled_tasks_getElem? ht with hold | ⟨n, s, f, -, hn, rfl⟩
    · obtain ⟨p, i, n, s, hserves, hprepares⟩ := h.serves hold
      exact ⟨p, i, n, s, he.serves hserves, he.prepares hprepares⟩
    · exact ⟨_, _, n, s, assembled_serves hstages hn _, rfl, rfl⟩
  · obtain ⟨t, ht, hbusy⟩ := h.called hcall
    refine ⟨t, ?_, hbusy⟩
    show (m.tasks ++ _)[call.task]? = some t
    rw [Array.getElem?_append_left (Array.getElem?_eq_some_iff.mp ht).1]
    exact ht

end

/-! ### Deeds -/

/-- **Deeds neither call nor prepare.** -/
theorem Posted.deed (h : m.Posted who) {turn : Option Nat} (hdeed : Deed turn m m') : m'.Posted who := by
  have he := hdeed.extends'
  cases hdeed.outline with
  | same htasks =>
    refine h.continues he (h.staffed.deed hdeed) hdeed.log fun {k t} ht => ?_
    rw [htasks] at ht
    exact ⟨t, ht, continues_same he t⟩
  | ends p htasks =>
    refine h.continues he (h.staffed.deed hdeed) hdeed.log fun {k t} ht => ?_
    rw [htasks, halted_tasks_getElem?] at ht
    obtain ⟨before, hbefore, rfl⟩ := Option.map_eq_some_iff.mp ht
    refine ⟨before, hbefore, ?_⟩
    split
    · exact continues_called before rfl
    · exact continues_same he before
  | makes _ _ hstages _ heq =>
    subst heq
    exact h.assembled hstages

theorem Posted.deeds (h : m.Posted who) {turn : Option Nat} (hdeeds : Deeds turn m m') : m'.Posted who :=
  hdeeds.keeps (fun hdeed hm => hm.deed hdeed) h

/-! ### Turns -/

/-- A task whose function was called is put aside. -/
theorem Posted.setPhase {k : Nat} (h : m.Posted (some k)) {phase : Phase} (hcalled : phase.preparing = false) :
    (m.setPhase k phase).Posted none := by
  have he := m.setPhase_extends k phase
  have hbusy : (m.setPhase k phase).Posted (some k) := by
    refine h.continues he (h.staffed.setPhase k phase) rfl fun {j t} ht => ?_
    rcases setPhase_cases ht with ⟨rfl, before, hbefore, rfl⟩ | ⟨-, hold⟩
    · exact ⟨before, hbefore, continues_called before hcalled⟩
    · exact ⟨t, hold, continues_same he t⟩
  refine ⟨hbusy.staffed, hbusy.serves, fun {call} hcall => ?_, hbusy.once⟩
  obtain ⟨t, ht, hwho⟩ := hbusy.called hcall
  refine ⟨t, ht, fun hp => ?_⟩
  obtain rfl := Option.some.inj (hwho hp)
  rcases setPhase_cases ht with ⟨-, before, -, rfl⟩ | ⟨hother, -⟩
  · rw [hcalled] at hp
    cases hp
  · exact absurd rfl hother

theorem Worked.posted {k : Nat} {t : Task} (h : Worked k t m m') (hm : m.Posted (some k)) : m'.Posted none := by
  obtain ⟨m₁, phase, hdeeds, hcalled, -, hclosed⟩ := h
  exact ((hm.deeds hdeeds).setPhase hcalled).still hclosed.still

theorem Posted.busy (h : m.Posted none) (k : Nat) : m.Posted (some k) := by
  refine ⟨h.staffed, h.serves, fun {call} hcall => ?_, h.once⟩
  obtain ⟨t, ht, hwho⟩ := h.called hcall
  exact ⟨t, ht, fun hp => nomatch hwho hp⟩

/-- What a task prepares in its turn are the arguments of its stage. -/
theorem Serves.prepared {t : Task} {p n : Nat} {i : Instance} {s : Stage} (hserves : m.Serves t p i n s)
    (hprepares : m.Prepares i s t.phase) {names : List String} {args : List (Progress Awaited)}
    (h : m.prepared? t = some (names, args)) :
    t.phase.preparing = true ∧ m.Prepares i s (.gathering names args) := by
  unfold prepared? at h
  cases hphase : t.phase with
  | unstarted written positional =>
    rw [hphase] at h hprepares
    obtain ⟨rfl, rfl⟩ := hprepares
    cases hpositional : s.positional with
    | true =>
      rw [hpositional] at h
      cases h
    | false =>
      rw [hpositional] at h
      cases h
      refine ⟨rfl, hpositional, rfl, fun known _ values hv => ?_⟩
      change Progress.values? _ (m.argumentsOf t s) = _ at hv
      rw [argumentsOf_eq, values?_append, hserves.pipeline] at hv
      obtain ⟨more, hmore, rfl⟩ := Option.map_eq_some_iff.mp hv
      obtain ⟨given, hgiven, rfl⟩ := references_given hserves.isInstance known t.inputNode s.input hmore
      exact ⟨given, hgiven, rfl⟩
  | gathering names' args' =>
    rw [hphase] at h hprepares
    cases h
    exact ⟨rfl, hprepares⟩
  | _ =>
    rw [hphase] at h
    cases h

/-- A look at arguments leaves them what they stand for. -/
theorem look_arguments {args args' : List (Progress Awaited)} (hlook : Progress.lookThrough ask args m = (args', m'))
    {known : Station → Option Value} (hk : m.Bears known) :
    Progress.values? (Awaited.comesTo? known) args' = Progress.values? (Awaited.comesTo? known) args := by
  have hvalues := (Progress.lookThrough_values? (Telling.keeping (Taken m)) args (fun a _ => hk.ask_agrees a) m
    (Taken.refl m)).1
  rwa [hlook] at hvalues

theorem Prepares.look {i : Instance} {s : Stage} {names : List String} {args args' : List (Progress Awaited)}
    (h : m.Prepares i s (.gathering names args)) (hlook : Progress.lookThrough ask args m = (args', m')) :
    m'.Prepares i s (.gathering names args') := by
  have he := (taken_of_look hlook).extends'
  obtain ⟨hpositional, hnames, hvalues⟩ := he.prepares h
  refine ⟨hpositional, hnames, fun known hk values hv => hvalues known hk values ?_⟩
  rwa [look_arguments hlook (he.bears hk)] at hv

/-- A call is recorded of a task whose function was not called before. -/
theorem Posted.noted {k : Nat} {t : Task} (h : m.Posted none) (ht : m.tasks[k]? = some t)
    (hpreparing : t.phase.preparing = true) (args : Fields) : (m.noted k t args).Posted (some k) := by
  have he := m.noted_extends k t args
  have hnever {call : Received} (hcall : call ∈ m.log) : call.task ≠ k := by
    rintro rfl
    obtain ⟨t', ht', hwho⟩ := h.called hcall
    cases ht.symm.trans ht'
    cases hwho hpreparing
  have hlog {a : Nat} {call : Received} (ha : (m.noted k t args).log[a]? = some call) :
      m.log[a]? = some call ∧ call.task ≠ k ∨ a = m.log.size ∧ call.task = k := by
    unfold Machine.noted at ha
    rw [Array.getElem?_push] at ha
    split at ha
    · next hsize =>
      cases ha
      exact .inr ⟨hsize, rfl⟩
    · exact .inl ⟨ha, hnever (Array.mem_of_getElem? ha)⟩
  refine ⟨h.staffed.noted k t args, fun hj => ?_, fun {call} hcall => ?_, fun {a b call call'} ha hb htask => ?_⟩
  · obtain ⟨p, i, n, s, hserves, hprepares⟩ := h.serves hj
    exact ⟨p, i, n, s, he.serves hserves, he.prepares hprepares⟩
  · rcases Array.mem_push.mp hcall with hold | rfl
    · obtain ⟨t', ht', hwho⟩ := h.called hold
      exact ⟨t', ht', fun hp => nomatch hwho hp⟩
    · exact ⟨t, ht, fun _ => rfl⟩
  · rcases hlog ha with ⟨ha, hother⟩ | ⟨rfl, hk⟩
    · rcases hlog hb with ⟨hb, -⟩ | ⟨-, hk⟩
      · exact h.once ha hb htask
      · exact absurd (htask.trans hk) hother
    · rcases hlog hb with ⟨-, hother⟩ | ⟨rfl, -⟩
      · exact absurd (htask.symm.trans hk) hother
      · rfl

/-- **A turn calls a function once.** -/
theorem Turned.posted {k : Nat} (h : Turned k m m') (hm : m.Posted none) : m'.Posted none := by
  cases h with
  | idle => exact hm
  | @waits t names args args' m₁ ht hprepared hlook =>
    have htaken := taken_of_look hlook
    have he : m.Extends (m₁.park k (.gathering names args')) := htaken.extends'.trans (m₁.park_extends k _)
    have hstaffed := (hm.staffed.deed (.take htaken : Deed none m m₁)).park k (.gathering names args')
    obtain ⟨slots, room, rfl, -⟩ := htaken.rest
    refine hm.continues he hstaffed rfl fun {j t'} hj => ?_
    rcases setPhase_cases hj with ⟨rfl, before, hbefore, rfl⟩ | ⟨-, hold⟩
    · obtain rfl : before = t := Option.some.inj (hbefore.symm.trans ht)
      refine ⟨before, ht, ⟨_, rfl⟩, fun _ => ?_⟩
      obtain ⟨p, i, n, s, hserves, hprepares⟩ := hm.serves ht
      refine ⟨(hserves.prepared hprepares hprepared).1, fun p i n s hserves hprepares => ?_⟩
      have hlooked := (hserves.prepared hprepares hprepared).2.look hlook
      exact (park_extends k _).prepares hlooked
    · exact ⟨t', hold, continues_same he t'⟩
  | works _ _ hworked => exact hworked.posted (hm.busy k)
  | @calls t p names args args' values bound m₁ _ ht _ _ hprepared hlook _ _ _ hworked =>
    have hm₁ : m₁.Posted none := hm.deed (.take (taken_of_look hlook) : Deed none m m₁)
    have htasks : m₁.tasks = m.tasks := by
      obtain ⟨slots, room, rfl, -⟩ := (taken_of_look hlook).rest
      rfl
    obtain ⟨p, i, n, s, hserves, hprepares⟩ := hm.serves ht
    rw [← htasks] at ht
    exact hworked.posted (hm₁.noted ht (hserves.prepared hprepares hprepared).1 bound)

end StageGraph.Machine
