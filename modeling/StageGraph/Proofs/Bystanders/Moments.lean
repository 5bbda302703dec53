import StageGraph.Proofs.Bystanders.Replies
import StageGraph.Proofs.Resolvable.Decisive
import StageGraph.Proofs.Timing.CriticalPath

/-! When stages are over, and what they fail with.

A stage waits for its references. It is over when one of them decides by its failure, or when all of them have come and
its function has taken its time (`Spec.Ends`), and `Spec.Over` is the least that goes with this: what depends on itself
is never over. Times count from the start of a run. What a reference fails with, if it fails, can be followed back to
where it arose (`Spec.Blames`), over those that decided first; and unless two of these tie (`Spec.Tied`), there is only one
cause that it can fail with (`Blames.unique`). -/
namespace StageGraph

/-! ### What is waited for -/

/-- What a stage waits for, in the order of its arguments. What is written down is there. A stage whose arguments are
written as a list waits for nothing. -/
def Stage.wants (s : Stage) : List (Option String) :=
  if s.positional then [] else s.written.map (fun _ => none) ++ s.input.map fun i => some i.2

/-- What an output waits for. -/
def OutputShape.wants (shape : OutputShape) : List (Option String) := shape.paths.map some

/-- What a stage has come to so many milliseconds after all that it waits for has come. -/
def Stage.told (registry : Registry) (reference : String → Option Value) (s : Stage) (k : Nat) : Poll Value :=
  (registry.get? s.function).bind fun f =>
    if s.positional then some (.error ⟨.positionalArgs f.name, none⟩)
    else (referred? reference s.input).bind fun given =>
      match f.bindArguments (Fields.ofList (s.written ++ given)) with
      | .error cause => some (.error ⟨cause, none⟩)
      | .ok args => (f.handler (f.callFor s.node args)).told f k

namespace Stage

variable {registry : Registry} {reference reference' : String → Option Value} {s : Stage} {k : Nat}

theorem mem_wants {text : String} : some text ∈ s.wants ↔ s.positional = false ∧ text ∈ s.input.map Prod.snd := by
  unfold wants
  cases s.positional <;> simp

/-- What a stage waits for are references to stages that it needs. -/
theorem needs_of_mem_wants {text name : String} (h : some text ∈ s.wants) (hname : Path.stage? text = some name) :
    name ∈ s.needs :=
  List.mem_filterMap.mpr ⟨text, (mem_wants.mp h).2, hname⟩

/-- A stage that is called has values for all that it waits for. -/
theorem fine_of_referred {given : Fields} (h : referred? reference s.input = some given) :
    ∀ text, some text ∈ s.wants → (reference text).isSome := by
  intro text htext
  obtain ⟨entry, hentry, rfl⟩ := List.mem_map.mp (mem_wants.mp htext).2
  exact referred?_isSome_iff.mp (by rw [h]; rfl) entry hentry

theorem told_fine {o : Outcome} (h : s.told registry reference k = some o) :
    ∀ text, some text ∈ s.wants → (reference text).isSome := by
  obtain ⟨f, -, h⟩ := Option.bind_eq_some_iff.mp h
  split at h
  · next hpositional =>
    intro text htext
    rw [(mem_wants.mp htext).1] at hpositional
    cases hpositional
  · obtain ⟨given, hgiven, -⟩ := Option.bind_eq_some_iff.mp h
    exact fine_of_referred hgiven

theorem value_fine {v : Value} (h : s.value? registry reference = some v) :
    ∀ text, some text ∈ s.wants → (reference text).isSome := by
  unfold value? at h
  split at h
  · cases h
  · obtain ⟨f, -, h⟩ := Option.bind_eq_some_iff.mp h
    obtain ⟨given, hgiven, -⟩ := Option.bind_eq_some_iff.mp h
    exact fine_of_referred hgiven

/-- What has come about stays. -/
theorem told_mono {j : Nat} {o : Outcome} (h : s.told registry reference j = some o) (hle : j ≤ k) :
    s.told registry reference k = some o := by
  unfold told at h ⊢
  obtain ⟨f, hf, h⟩ := Option.bind_eq_some_iff.mp h
  rw [hf, Option.bind_some]
  split
  · next hpositional =>
    rw [if_pos hpositional] at h
    exact h
  · next hpositional =>
    rw [if_neg hpositional] at h
    obtain ⟨given, hgiven, h⟩ := Option.bind_eq_some_iff.mp h
    rw [hgiven, Option.bind_some]
    split at h
    · exact h
    · exact Reply.told_mono _ h hle

theorem told_unique {j : Nat} {o o' : Outcome} (h : s.told registry reference j = some o)
    (h' : s.told registry reference k = some o') : o = o' := by
  rcases le_total j k with hle | hle
  · exact Option.some.inj ((told_mono h hle).symm.trans h')
  · exact Option.some.inj (h.symm.trans (told_mono h' hle))

/-- A stage comes to its value. -/
theorem told_value (hpure : ∀ f, registry.get? s.function = some f → f.Pure) {o : Outcome}
    (h : s.told registry reference k = some o) : o.toOption = s.value? registry reference := by
  obtain ⟨f, hf, h⟩ := Option.bind_eq_some_iff.mp h
  unfold value?
  split at h
  · next hpositional =>
    cases h
    rw [if_pos hpositional]
    rfl
  · next hpositional =>
    obtain ⟨given, hgiven, h⟩ := Option.bind_eq_some_iff.mp h
    rw [if_neg hpositional, hf, Option.bind_some, hgiven, Option.bind_some]
    unfold Function.result?
    cases hbind : f.bindArguments (Fields.ofList (s.written ++ given)) with
    | error cause =>
      rw [hbind] at h
      cases h
      rfl
    | ok args =>
      rw [hbind] at h
      exact Reply.told_value _ ((hpure f hf).plain _) h

/-- What a stage comes to depends on what it waits for alone. -/
theorem told_congr (h : ∀ text, some text ∈ s.wants → reference text = reference' text) :
    s.told registry reference = s.told registry reference' := by
  funext k
  unfold told
  cases hpositional : s.positional with
  | true => rfl
  | false =>
    rw [referred?_congr fun entry hentry => h entry.2 (mem_wants.mpr ⟨hpositional, List.mem_map_of_mem hentry⟩)]

end Stage

namespace Spec

/-! ### When it is over -/

section

variable (registry : Registry) (spec : Spec) (values : List Value)

/-- What is waited for leads to a value. -/
def Fine : Option String → Prop
  | none => True
  | some text => (spec.reference? registry values text).isSome

/-- What is waited for has come, with the stages that are over: that of a reference is, if there is one. -/
def There (ended : String → Prop) : Option String → Prop
  | none => True
  | some text => ∀ name, Path.stage? text = some name → (spec.stage? name).isSome → ended name

/-- A stage is over by some moment, with those that are over by any moment: one that it waits for decides, or all of
them have come, and its function has taken its time since. -/
def Ends (ended : Nat → String → Prop) (c : Nat) (s : Stage) : Prop :=
  (∃ a, Decisive (30 < s.wants.length) (spec.Fine registry values) (spec.There (ended c)) s.wants a) ∨
    ∃ g ≤ c, (∀ a ∈ s.wants, spec.There (ended g) a) ∧
      (s.told registry (spec.reference? registry values) (c - g)).isSome

variable {registry spec values} in
theorem There.mono {ended ended' : String → Prop} (h : ∀ name, ended name → ended' name) {a : Option String}
    (ha : spec.There ended a) : spec.There ended' a := by
  cases a with
  | none => exact trivial
  | some text => exact fun name hname hstage => h name (ha name hname hstage)

variable {registry spec values} in
theorem Ends.mono {ended ended' : Nat → String → Prop} (h : ∀ c name, ended c name → ended' c name) {c : Nat} {s : Stage}
    (he : spec.Ends registry values ended c s) : spec.Ends registry values ended' c s := by
  refine he.imp (fun ⟨a, ha⟩ => ⟨a, ha.imp (fun _ _ => Iff.rfl) fun _ _ => There.mono (h c)⟩) ?_
  rintro ⟨g, hle, hall, htold⟩
  exact ⟨g, hle, fun a ha => (hall a ha).mono (h g), htold⟩

/-- The stages that are over by any moment, a step further. -/
def overStep : (Nat → String → Prop) →o (Nat → String → Prop) where
  toFun ended c name := ∃ s, spec.stage? name = some s ∧ spec.Ends registry values ended c s
  monotone' _ _ hle _ _ := fun ⟨s, hs, he⟩ => ⟨s, hs, he.mono hle⟩

/-- A stage is over by some moment. -/
def Over : Nat → String → Prop := (overStep registry spec values).lfp

/-- One that is waited for decides at some moment. -/
def Decides (c : Nat) (wants : List (Option String)) (a : Option String) : Prop :=
  Decisive (30 < wants.length) (spec.Fine registry values) (spec.There (spec.Over registry values c)) wants a

/-- It is decided by some moment what comes of those that are waited for. -/
def Known (c : Nat) (wants : List (Option String)) : Prop :=
  Decided (30 < wants.length) (spec.Fine registry values) (spec.There (spec.Over registry values c)) wants

/-- It is decided at this moment, and not before. -/
def First (c : Nat) (wants : List (Option String)) : Prop :=
  spec.Known registry values c wants ∧ ∀ c' < c, ¬spec.Known registry values c' wants

/-- The value that a reference leads into. -/
def base? (text : String) : Option Value :=
  match Path.stage? text with
  | none => some (spec.inputValue values)
  | some name => spec.meaning? registry values name

/-- What a reference can fail with. -/
inductive Blames : String → Cause → Prop
  /-- It names no stage. -/
  | missing {text name : String} : Path.stage? text = some name → spec.stage? name = none →
    Blames text (.missingStage name text)
  /-- Its path leads nowhere. -/
  | astray {text : String} {v : Value} {cause : Cause} : spec.base? registry values text = some v →
    (Resolvable.ready v : Resolvable Nat).astray? (fun _ => none) (Path.parse (Path.splitHead text).2) = some cause →
      Blames text cause
  /-- The function of its stage fails. -/
  | called {text name : String} {s : Stage} {k : Nat} {f : Fault} : Path.stage? text = some name →
    spec.stage? name = some s → s.told registry (spec.reference? registry values) k = some (.error f) →
      Blames text f.cause
  /-- Its stage waits for a reference that decides. -/
  | heard {text name other : String} {s : Stage} {c : Nat} {cause : Cause} : Path.stage? text = some name →
    spec.stage? name = some s → spec.First registry values c s.wants →
      spec.Decides registry values c s.wants (some other) → Blames other cause → Blames text cause

/-- The functions that the stages call are pure. -/
def Pure : Prop := ∀ s ∈ spec.stages, ∀ f, registry.get? s.function = some f → f.Pure

/-- What a stage can fail with. -/
def Fails (s : Stage) (cause : Cause) : Prop :=
  (∃ k f, s.told registry (spec.reference? registry values) k = some (.error f) ∧ cause = f.cause) ∨
    ∃ c other, spec.First registry values c s.wants ∧ spec.Decides registry values c s.wants (some other) ∧
      spec.Blames registry values other cause

/-- The output, or a stage that it needs, waits for two references that decide at the same moment and can fail with
different causes. -/
def Tied : Prop :=
  ∃ wants, (wants = spec.output.wants ∨ ∃ name s, spec.Needed name ∧ spec.stage? name = some s ∧ wants = s.wants) ∧
    ∃ c a b x y, spec.First registry values c wants ∧ a ≠ b ∧ x ≠ y ∧
      spec.Decides registry values c wants (some a) ∧ spec.Blames registry values a x ∧
      spec.Decides registry values c wants (some b) ∧ spec.Blames registry values b y

end

variable {registry : Registry} {spec : Spec} {values : List Value} {c : Nat} {name : String} {s : Stage}

theorem over_iff (hs : spec.stage? name = some s) :
    spec.Over registry values c name ↔ spec.Ends registry values (spec.Over registry values) c s := by
  have hstep : spec.Over registry values c name ↔
      ∃ s, spec.stage? name = some s ∧ spec.Ends registry values (spec.Over registry values) c s :=
    Iff.of_eq (congrFun (congrFun (overStep registry spec values).map_lfp.symm c) name)
  rw [hstep]
  constructor
  · rintro ⟨s', hs', he⟩
    obtain rfl : s' = s := Option.some.inj (hs'.symm.trans hs)
    exact he
  · exact fun he => ⟨s, hs, he⟩

/-- Whatever holds of a stage that ends, as long as it holds of those that are over before it, holds of all that are
over. -/
theorem Over.induct {P : Nat → String → Prop}
    (h : ∀ c name s, spec.stage? name = some s →
      spec.Ends registry values (fun c name => spec.Over registry values c name ∧ P c name) c s → P c name)
    (hover : spec.Over registry values c name) : P c name := by
  have hle : (overStep registry spec values).lfp ≤ fun c name => spec.Over registry values c name ∧ P c name := by
    refine (overStep registry spec values).lfp_le fun c name => ?_
    rintro ⟨s, hs, he⟩
    exact ⟨(over_iff hs).mpr (he.mono fun _ _ => And.left), h c name s hs he⟩
  exact (hle c name hover).2

/-- What is over stays over. -/
theorem Over.mono {c' : Nat} (h : spec.Over registry values c name) (hle : c ≤ c') :
    spec.Over registry values c' name := by
  refine Over.induct (P := fun c name => ∀ c', c ≤ c' → spec.Over registry values c' name)
    (fun c name s hs he c' hle => (over_iff hs).mpr ?_) h c' hle
  refine he.imp (fun ⟨a, ha⟩ => ⟨a, ha.imp (fun _ _ => Iff.rfl) fun _ _ => There.mono fun n hn => hn.2 c' hle⟩) ?_
  rintro ⟨g, hg, hall, htold⟩
  obtain ⟨o, ho⟩ := Option.isSome_iff_exists.mp htold
  exact ⟨g, hg.trans hle, fun a ha => (hall a ha).mono fun _ => And.left,
    Option.isSome_iff_exists.mpr ⟨o, Stage.told_mono ho (Nat.sub_le_sub_right hle g)⟩⟩

theorem There.later {c' : Nat} (hle : c ≤ c') {a : Option String} (h : spec.There (spec.Over registry values c) a) :
    spec.There (spec.Over registry values c') a :=
  h.mono fun _ hn => hn.mono hle

theorem First.unique {c' : Nat} {wants : List (Option String)} (h : spec.First registry values c wants)
    (h' : spec.First registry values c' wants) : c = c' := by
  rcases Nat.lt_trichotomy c c' with hlt | heq | hlt
  · exact absurd h.1 (h'.2 c hlt)
  · exact heq
  · exact absurd h'.1 (h.2 c' hlt)

/-! ### One cause -/

theorem reference?_eq (text : String) : spec.reference? registry values text =
    (spec.base? registry values text).bind fun v => v.descend (Path.parse (Path.splitHead text).2) := by
  unfold reference? referenceValue? base? Path.stage?
  generalize Path.splitHead text = parts
  obtain ⟨head, rest⟩ := parts
  simp only
  by_cases hhead : head = inputHead
  · simp only [if_pos hhead]
  · simp only [if_neg hhead]

theorem Fails.blames {text : String} {cause : Cause} (hname : Path.stage? text = some name)
    (hs : spec.stage? name = some s) (h : spec.Fails registry values s cause) : spec.Blames registry values text cause := by
  rcases h with ⟨k, f, hf, rfl⟩ | ⟨c, other, hfirst, hdecides, hblames⟩
  · exact .called hname hs hf
  · exact .heard hname hs hfirst hdecides hblames

/-- A stage that fails has no value. -/
theorem Fails.meaning (hpure : spec.Pure registry) (hs : spec.stage? name = some s) {cause : Cause}
    (h : spec.Fails registry values s cause) : spec.meaning? registry values name = none := by
  rw [meaning?_eq, hs, Option.bind_some]
  rcases h with ⟨k, f, hf, -⟩ | ⟨c, other, -, hdecides, -⟩
  · exact (Stage.told_value (hpure s (stage?_mem hs).1) hf).symm
  · refine Option.eq_none_iff_forall_ne_some.mpr fun v hv => hdecides.not_fine ?_
    exact Stage.value_fine hv other hdecides.mem

/-- A reference is one of the output, or of a stage that it needs. -/
def Asked (spec : Spec) (text : String) : Prop := ∀ name, Path.stage? text = some name → spec.Needed name

theorem asked_of_output {text : String} (h : some text ∈ spec.output.wants) : spec.Asked text := by
  obtain ⟨path, hpath, heq⟩ := List.mem_map.mp h
  cases heq
  exact fun name hname => ⟨name, List.mem_filterMap.mpr ⟨_, hpath, hname⟩, .refl⟩

theorem Needed.asked (hneeded : spec.Needed name) (hs : spec.stage? name = some s) {text : String}
    (h : some text ∈ s.wants) : spec.Asked text := by
  obtain ⟨out, hout, hreach⟩ := hneeded
  obtain ⟨hmem, hname⟩ := stage?_mem hs
  exact fun other hother => ⟨out, hout, hreach.tail ⟨s, hmem, hname, Stage.needs_of_mem_wants h hother⟩⟩

/-! #### By where a reference leads -/

section

variable {text : String} {y : Cause}

theorem base?_stage (hname : Path.stage? text = some name) :
    spec.base? registry values text = spec.meaning? registry values name := by
  rw [base?, hname]

theorem Blames.of_missing (hname : Path.stage? text = some name) (hnone : spec.stage? name = none)
    (h : spec.Blames registry values text y) : y = .missingStage name text := by
  cases h with
  | missing hname' _ =>
    cases hname.symm.trans hname'
    rfl
  | astray hbase _ =>
    rw [base?_stage hname, meaning?_eq, hnone] at hbase
    cases hbase
  | called hname' hs =>
    cases hname.symm.trans hname'
    cases hnone.symm.trans hs
  | heard hname' hs =>
    cases hname.symm.trans hname'
    cases hnone.symm.trans hs

theorem Blames.of_stage (hname : Path.stage? text = some name) (hs : spec.stage? name = some s)
    (hnone : spec.meaning? registry values name = none) (h : spec.Blames registry values text y) :
    spec.Fails registry values s y := by
  cases h with
  | missing hname' hnone' =>
    cases hname.symm.trans hname'
    cases hnone'.symm.trans hs
  | astray hbase _ =>
    rw [base?_stage hname, hnone] at hbase
    cases hbase
  | called hname' hs' hf =>
    cases hname.symm.trans hname'
    cases hs.symm.trans hs'
    exact .inl ⟨_, _, hf, rfl⟩
  | heard hname' hs' hfirst hdecides hblames =>
    cases hname.symm.trans hname'
    cases hs.symm.trans hs'
    exact .inr ⟨_, _, hfirst, hdecides, hblames⟩

theorem Blames.of_base (hpure : spec.Pure registry) {v : Value} (hbase : spec.base? registry values text = some v)
    (h : spec.Blames registry values text y) :
    (Resolvable.ready v : Resolvable Nat).astray? (fun _ => none) (Path.parse (Path.splitHead text).2) = some y := by
  cases h with
  | missing hname hnone =>
    rw [base?_stage hname, meaning?_eq, hnone] at hbase
    cases hbase
  | astray hbase' hastray =>
    cases hbase.symm.trans hbase'
    exact hastray
  | called hname hs hf =>
    rw [base?_stage hname, Fails.meaning hpure hs (.inl ⟨_, _, hf, rfl⟩)] at hbase
    cases hbase
  | heard hname hs hfirst hdecides hblames =>
    rw [base?_stage hname, Fails.meaning hpure hs (.inr ⟨_, _, hfirst, hdecides, hblames⟩)] at hbase
    cases hbase

end

/-- **Without a tie, there is one cause that a reference can fail with.** -/
theorem Blames.unique (hpure : spec.Pure registry) (htied : ¬spec.Tied registry values) {text : String} {x y : Cause}
    (hasked : spec.Asked text) (hx : spec.Blames registry values text x) (hy : spec.Blames registry values text y) :
    x = y := by
  induction hx generalizing y with
  | missing hname hnone => exact (hy.of_missing hname hnone).symm
  | astray hbase hastray => exact Option.some.inj (hastray.symm.trans (hy.of_base hpure hbase))
  | @called text name s k f hname hs hf =>
    rcases hy.of_stage hname hs (Fails.meaning hpure hs (.inl ⟨k, f, hf, rfl⟩)) with
      ⟨k', f', hf', rfl⟩ | ⟨c, other, -, hdecides, -⟩
    · cases Stage.told_unique hf hf'
      rfl
    · exact absurd (Stage.told_fine hf _ hdecides.mem) hdecides.not_fine
  | @heard text name other s c x hname hs hfirst hdecides hblames ih =>
    have hneeded := hasked name hname
    rcases hy.of_stage hname hs (Fails.meaning hpure hs (.inr ⟨c, other, hfirst, hdecides, hblames⟩)) with
      ⟨k, f, hf, rfl⟩ | ⟨c', other', hfirst', hdecides', hblames'⟩
    · exact absurd (Stage.told_fine hf _ hdecides.mem) hdecides.not_fine
    · cases hfirst.unique hfirst'
      by_cases hother : other = other'
      · subst hother
        exact ih (hneeded.asked hs hdecides.mem) hblames'
      · by_contra hne
        exact htied ⟨s.wants, .inr ⟨name, s, hneeded, hs, rfl⟩, c, other, other', x, y, hfirst, hother, hne, hdecides,
          hblames, hdecides', hblames'⟩

end Spec
end StageGraph
