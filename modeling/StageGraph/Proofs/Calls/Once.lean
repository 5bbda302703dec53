import StageGraph.Proofs.Calls.Posts

/-! Functions are called once, and only after their producers.

The turn that calls the function of a task finds all that its stage refers to in slots that are filled
(`Turned.called`). No task is called twice, and no two tasks serve the same stage of the same pipeline. So whatever is
done with a pipeline that is built, the function of each stage is called at most once, after everything that the stage
refers to has come about, with the arguments that this gives it. The main theorem is `called_once_after_producers`. -/
namespace StageGraph.Machine

variable {m m' m₀ : Machine} {root : Nat}

/-- A call was made for a stage of an instance, by the place of the stage in the spec. -/
def CalledFor (m : Machine) (call : Received) (p n : Nat) : Prop :=
  ∃ t i s, m.IsTask call.task t ∧ m.Serves t p i n s

/-- A call with the arguments of a stage, when all that it refers to has come about: those that are written down and
not overridden, then those that refer to others, in the order of the document, with what the references lead to. -/
structure Informed (m : Machine) (call : Received) (t : Task) (i : Instance) (s : Stage) (given : Fields) : Prop where
  listed : s.positional = false
  resolved : referred? (m.reads? m.valueAt? i) s.input = some given
  bound : t.function.bindArguments (Fields.ofList (s.written ++ given)) = .ok call.args

/-! ### Turns -/

/-- A turn makes no call, or one that has all it needs. -/
theorem Turned.called {k : Nat} (h : Turned k m m') (hm : m.Posted none) : m'.log = m.log ∨
    ∃ call t p i n s given, m.IsTask call.task t ∧ m.Serves t p i n s ∧ m.Informed call t i s given ∧
      m'.log = m.log.push call := by
  cases h with
  | idle => exact .inl rfl
  | waits _ _ hlook => exact .inl (taken_of_look hlook).log
  | works _ _ hworked => exact .inl hworked.log
  | @calls t p names args args' values bound m₁ _ ht _ _ hprepared hlook hall hbound _ hworked =>
    obtain ⟨p, i, n, s, hserves, hprepares⟩ := hm.serves ht
    obtain ⟨hpositional, rfl, hvalues⟩ := (hserves.prepared hprepares hprepared).2
    have hknown := bears_valueAt? m
    have hthere : Progress.values? (Awaited.comesTo? m.valueAt?) args = some values :=
      (look_arguments hlook hknown).symm.trans (Progress.gathered_values? hall).symm
    obtain ⟨given, hgiven, rfl⟩ := hvalues _ hknown values hthere
    rw [zip_arguments hgiven] at hbound
    have hnoted := (taken_of_look hlook).noted_log k t bound
    exact .inr ⟨_, t, p, i, n, s, given, isTask_of_get ht, hserves, ⟨hpositional, hgiven, hbound⟩,
      hworked.log.trans hnoted⟩

/-! ### Whatever is done -/

theorem Step.posted (hstep : Step root m m') (hsound : m.Sound) (howned : m.Owned none) (h : m.Posted none) :
    m'.Posted none := by
  obtain ⟨m₁, m₂, hbefore, hdone, hafter⟩ := hstep.parts hsound howned
  have hm₁ := h.still hbefore
  refine Posted.still ?_ hafter
  rcases hdone with hsupplied | hdeeds | ⟨k, hturned⟩
  · exact hm₁.supplied hsupplied
  · exact hm₁.deeds hdeeds
  · exact hturned.posted hm₁

/-- What is done makes no call, or one that has all it needs. -/
theorem Step.called (hstep : Step root m m') (hsound : m.Sound) (howned : m.Owned none) (h : m.Posted none) :
    m'.log = m.log ∨ ∃ call t p i n s given, m.IsTask call.task t ∧ m.Serves t p i n s ∧ m.Informed call t i s given ∧
      m'.log = m.log.push call := by
  obtain ⟨m₁, m₂, hbefore, hdone, hafter⟩ := hstep.parts hsound howned
  rw [hafter.log, ← hbefore.log]
  rcases hdone with hsupplied | hdeeds | ⟨k, hturned⟩
  · exact .inl hsupplied.log
  · exact .inl hdeeds.log
  · refine (hturned.called (h.still hbefore)).imp id fun ⟨call, t, p, i, n, s, given, ht, hserves, hinformed, hlog⟩ => ?_
    have hback : m₁.Extends m := extends_same (fun s => (hbefore.slot s).symm) hbefore.tasks.symm
      hbefore.instances.symm hbefore.registry.symm
    have hresolved := referred?_within (hback.reads? hback.valueAt? i) hinformed.resolved
    exact ⟨call, t, p, i, n, s, given, hback.isTask ht, hback.serves hserves,
      ⟨hinformed.listed, hresolved, hinformed.bound⟩, hlog⟩

theorem posted_of_build {registry : Registry} {document : Value} {settings : Settings}
    (hbuild : build { registry } document settings = .ok (root, m)) : m.Posted none := by
  obtain ⟨spec, stages, -, hstages, rfl, rfl⟩ := build_eq_ok hbuild
  have hempty : Posted none { registry } := by
    refine ⟨staffed_empty registry, fun ht => ?_, fun hcall => ?_, fun ha => ?_⟩
    · cases ht
    · exact absurd hcall (Array.not_mem_empty _)
    · cases ha
  exact hempty.assembled hstages

theorem Reaches.posted (hreach : Reaches root m m') (horderly : m.Orderly root) (h : m.Posted none) : m'.Posted none := by
  induction hreach with
  | refl => exact h
  | tail hfirst hstep ih =>
    have horderly' := Reaches.orderly hfirst horderly
    exact hstep.posted horderly'.lexical.sound horderly'.owned ih

/-- Every call had all it needs when it was made. -/
theorem Reaches.informed (hreach : Reaches root m₀ m) (horderly : m₀.Orderly root) (h : m₀.Posted none)
    (hnone : m₀.log = #[]) : ∀ (j : Nat) (call : Received), m.log[j]? = some call → ∃ before t p i n s given, Reaches root m₀ before ∧
      Reaches root before m ∧ before.log.size = j ∧ m.IsTask call.task t ∧ m.Serves t p i n s ∧
        before.Informed call t i s given := by
  induction hreach with
  | refl =>
    intro j call hj
    rw [hnone] at hj
    cases hj
  | @tail m m' hfirst hstep ih =>
    have horderly' := Reaches.orderly hfirst horderly
    have hsound := horderly'.lexical.sound
    have he := hstep.extends' hsound horderly'.owned
    have hold {j : Nat} {call : Received} (hj : m.log[j]? = some call) : ∃ before t p i n s given,
        Reaches root m₀ before ∧ Reaches root before m' ∧ before.log.size = j ∧ m'.IsTask call.task t ∧
          m'.Serves t p i n s ∧ before.Informed call t i s given := by
      obtain ⟨before, t, p, i, n, s, given, hreach, hrest, hsize, ht, hserves, hinformed⟩ := ih j call hj
      exact ⟨before, t, p, i, n, s, given, hreach, hrest.tail hstep, hsize, he.isTask ht, he.serves hserves, hinformed⟩
    intro j call hj
    rcases hstep.called hsound horderly'.owned (Reaches.posted hfirst horderly h) with hsame |
      ⟨call', t, p, i, n, s, given, ht, hserves, hinformed, hpush⟩
    · rw [hsame] at hj
      exact hold hj
    · rw [hpush, Array.getElem?_push] at hj
      split at hj
      · next hsize =>
        cases hj
        exact ⟨m, t, p, i, n, s, given, hfirst, .single hstep, hsize.symm, he.isTask ht, he.serves hserves, hinformed⟩
      · exact hold hj

/-- Tasks that serve the same stage of the same pipeline are the same. -/
theorem Posted.sole (h : m.Posted none) {k k' p n : Nat} {t t' : Task} {i i' : Instance} {s s' : Stage}
    (ht : m.IsTask k t) (ht' : m.IsTask k' t') (hserves : m.Serves t p i n s) (hserves' : m.Serves t' p i' n s') :
    k = k' := by
  obtain ⟨_, _, _, rfl⟩ := hserves.isInstance.eq hserves'.isInstance
  have hslot := hserves.slot.symm.trans hserves'.slot
  exact h.staffed.alone ht ht' (congrArg Prod.snd (Option.some.inj hslot))

/-- **Functions are called once, and only after their producers.** Whatever was done with a pipeline that is built, the
function of each stage of each pipeline, of the children as well, was called at most once, whoever refers to the stage.
Every call that was made is for a stage whose arguments are not written as a list. It was made when all that the stage
refers to had come about, and with the arguments that the declaration makes of those of the stage. -/
theorem called_once_after_producers {registry : Registry} {document : Value} {settings : Settings}
    (hbuild : build { registry } document settings = .ok (root, m₀)) (hreach : Reaches root m₀ m) :
    (∀ (p n a b : Nat) (call call' : Received), m.log[a]? = some call → m.log[b]? = some call' →
      m.CalledFor call p n → m.CalledFor call' p n → a = b) ∧
    ∀ (j : Nat) (call : Received), m.log[j]? = some call → ∃ before t p i n s given, Reaches root m₀ before ∧ Reaches root before m ∧
      before.log.size = j ∧ m.IsTask call.task t ∧ m.Serves t p i n s ∧ before.Informed call t i s given := by
  have horderly := orderly_of_build hbuild
  have hposted : m.Posted none := Reaches.posted hreach horderly (posted_of_build hbuild)
  refine ⟨fun p n a b call call' ha hb hcalled hcalled' => ?_, ?_⟩
  · obtain ⟨t, i, s, ht, hserves⟩ := hcalled
    obtain ⟨t', i', s', ht', hserves'⟩ := hcalled'
    exact hposted.once ha hb (hposted.sole ht ht' hserves hserves')
  · exact Reaches.informed hreach horderly (posted_of_build hbuild) (log_of_build hbuild)

/-- A function that gives what it is given. -/
def handOn : Function where
  name := "hand_on"
  extraArgs := true
  handler c := .value (c.argOrNull "v")

/-- A stage that takes what another one gives. -/
def handing : Value := .object
  [("stages", .array
     [.object [("name", .string "second"), ("func", .string "hand_on"), ("input", .object [("v", .string "first")])],
      .object [("name", .string "first"), ("func", .string "hand_on"), ("params", .object [("v", .boolean true)])]]),
   ("output", .string "second")]

theorem handed_on_in_turn : ∃ m₀ call before t p i n s given,
    build { registry := ⟨[("hand_on", handOn)]⟩ } handing Settings.default = .ok (0, m₀) ∧
      (m₀.run inOrder 20 0 []).2.log.size = 2 ∧ (m₀.run inOrder 20 0 []).2.log[1]? = some call ∧
      Reaches 0 m₀ before ∧ before.log.size = 1 ∧ (m₀.run inOrder 20 0 []).2.Serves t p i n s ∧
      before.Informed call t i s given := by
  obtain ⟨m₀, hbuild⟩ : ∃ m₀, build { registry := ⟨[("hand_on", handOn)]⟩ } handing Settings.default = .ok (0, m₀) :=
    ⟨_, rfl⟩
  have hsize : (m₀.run inOrder 20 0 []).2.log.size = 2 := by
    cases hbuild
    decide +kernel
  obtain ⟨call, hcall⟩ : ∃ call, (m₀.run inOrder 20 0 []).2.log[1]? = some call :=
    ⟨_, Array.getElem?_eq_getElem (by omega)⟩
  obtain ⟨before, t, p, i, n, s, given, hbefore, -, hone, -, hserves, hinformed⟩ :=
    (called_once_after_producers hbuild (run_reaches inOrder 20 m₀ 0 [])).2 1 call hcall
  exact ⟨m₀, call, before, t, p, i, n, s, given, hbuild, hsize, hcall, hbefore, hone, hserves, hinformed⟩

end StageGraph.Machine
