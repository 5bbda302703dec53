import StageGraph.Proofs.Calls.Once
import StageGraph.Proofs.Scoping.Segments

/-! Which stages can be referred to.

The name of a stage has no dot and is declared once, so the head of a reference that the name begins is the name, and
the slot that it is looked up in is that of the stage itself (`Listed.lookup`), which one task fills and no other. With
one exception: a stage may be named `input`, and that head always leads to the input of the pipeline. The main theorem
is `leads_to_stage_iff`. -/
namespace StageGraph.Machine

variable {m m' m₀ : Machine} {root p : Nat}

/-! ### Slots by name -/

/-- The stages of every instance have slots one after another, in the order of its spec. -/
def Listed (m : Machine) : Prop :=
  ∀ p i, m.IsInstance p i → ∃ first, i.stages = numbered first (i.spec.stages.map Stage.name)

theorem Listed.assembled (h : m.Listed) {spec : Spec} {place : Placement} {stages : List (Stage × Function)}
    (hstages : m.functionsOf spec = .ok stages) : (m.assembled spec place stages).Listed := by
  intro p i hi
  rcases assembled_isInstance hi with hold | ⟨-, _, _, _, rfl⟩
  · exact h p i hold
  · refine ⟨m.slots.size, ?_⟩
    show (numbered m.slots.size stages).map _ = numbered _ (spec.stages.map Stage.name)
    rw [← (functionsOf_eq hstages).1, List.map_map]
    exact (numbered_map (Stage.name ∘ Prod.fst) stages m.slots.size).symm

theorem Listed.deed {who : Option Nat} (hdeed : Deed who m m') (h : m.Listed) : m'.Listed := by
  cases hdeed.outline with
  | same _ hsame => exact fun p i hi => h p i (hsame.isInstance.mp hi)
  | ends _ _ hsame => exact fun p i hi => h p i (halted_isInstance (hsame.isInstance.mp hi))
  | makes _ _ hstages _ heq =>
    subst heq
    exact h.assembled hstages

theorem Listed.same (hsame : m'.instances = m.instances) (h : m.Listed) : m'.Listed := by
  unfold Listed IsInstance at h ⊢
  rw [hsame]
  exact h

theorem listed_of_build {registry : Registry} {document : Value} {settings : Settings}
    (hbuild : build { registry } document settings = .ok (root, m)) : m.Listed := by
  obtain ⟨spec, stages, -, hstages, rfl, rfl⟩ := build_eq_ok hbuild
  have hempty : Listed { registry } := by
    rintro p i ⟨_, _, _, hi⟩
    cases hi
  exact hempty.assembled hstages

theorem Reaches.listed (hreach : Reaches root m m') (horderly : m.Orderly root) (h : m.Listed) : m'.Listed := by
  induction hreach with
  | refl => exact h
  | tail hfirst hstep ih =>
    have horderly' := Reaches.orderly hfirst horderly
    exact hstep.keeps (P := Listed) Listed.deed (fun _ _ => Listed.same) horderly'.lexical.sound horderly'.owned ih

/-- A name that is declared once leads to the slot of its stage. -/
theorem Listed.lookup (h : m.Listed) {i : Instance} (hi : m.IsInstance p i)
    (hnames : (i.spec.stages.map Stage.name).Nodup) {n : Nat} {s : Stage} (hs : i.spec.stages[n]? = some s) :
    ∃ slot, i.stages[n]? = some (s.name, slot) ∧ List.lookup s.name i.stages = some slot ∧
      ∀ k name, i.stages[k]? = some (name, slot) → k = n := by
  obtain ⟨first, hlisted⟩ := h p i hi
  have hname : (i.spec.stages.map Stage.name)[n]? = some s.name := by
    rw [List.getElem?_map, hs]
    rfl
  refine ⟨first + n, ?_, ?_, fun k name hk => ?_⟩
  · rw [hlisted, numbered_getElem?, hname]
    rfl
  · rw [hlisted]
    cases hlookup : List.lookup s.name (numbered first (i.spec.stages.map Stage.name)) with
    | none => exact absurd (List.mem_of_getElem? hname) (lookup_numbered_none hlookup)
    | some slot =>
      obtain ⟨hle, hget⟩ := lookup_numbered hlookup
      have hsame : slot - first = n := by
        apply (List.getElem?_inj _ hnames).mp (hget.trans hname.symm)
        exact (List.getElem?_eq_some_iff.mp hget).1
      congr 1
      omega
  · rw [hlisted, numbered_getElem?] at hk
    obtain ⟨_, -, heq⟩ := Option.map_eq_some_iff.mp hk
    have hslot := congrArg Prod.snd heq
    simp only at hslot
    omega

/-- Every stage of an instance has a task that serves it. -/
theorem Listed.served (h : m.Listed) (hposted : m.Posted none) {i : Instance} (hi : m.IsInstance p i)
    (hnames : (i.spec.stages.map Stage.name).Nodup) {n : Nat} {s : Stage} (hs : i.spec.stages[n]? = some s) :
    ∃ k t, m.IsTask k t ∧ m.Serves t p i n s ∧ List.lookup s.name i.stages = some t.slot := by
  obtain ⟨slot, hget, hlookup, honly⟩ := h.lookup hi hnames hs
  obtain ⟨k, t, ⟨phase, ht⟩, hp, rfl⟩ := hposted.staffed.stage hi (List.mem_of_getElem? hget)
  obtain ⟨q, j, n', s', hserves, -⟩ := hposted.serves ht
  obtain rfl : p = q := Option.some.inj (hp.symm.trans hserves.pipeline)
  obtain ⟨_, _, _, rfl⟩ := hi.eq hserves.isInstance
  obtain rfl : n' = n := honly n' s'.name hserves.slot
  obtain rfl : s = s' := Option.some.inj (hs.symm.trans hserves.stage)
  exact ⟨k, t, ⟨phase, ht⟩, ⟨hp, hi, hs, hget, hserves.node, hserves.inputNode, hserves.function⟩, hlookup⟩

/-! ### References to stages -/

/-- A reference leads to what a task comes to: it is looked up in the slot of the task, and what it tells is where one
step for each of its further segments leads to from there. -/
structure LeadsTo (m : Machine) (t : Task) (rest : String) (blamed : Option Value) (l : Link) : Prop where
  slot : l = ⟨.ok (.pending t.slot), Path.parse rest, blamed⟩
  told : m.linked l = ((Resolvable.pending t.slot).stepwise m.slot (Path.parse rest)).map
    (Except.mapError (Fault.blame? · blamed))

/-- A text that a name begins: the name alone, or with a dot and more behind it. -/
inductive Begun (name : String) : String → String → Prop
  | alone : Begun name name ""
  | further (rest : String) : Begun name (name ++ "." ++ rest) rest

theorem Begun.splitHead {name text rest : String} (h : Begun name text rest) (hname : '.' ∉ name.toList) :
    Path.splitHead text = (name, rest) := by
  cases h with
  | alone => exact (Path.splitHead_of_name "" hname).1
  | further rest => exact (Path.splitHead_of_name rest hname).2

/-- In the pipeline that declares it, a name other than `input` leads to the slot of its stage. -/
theorem Nested.head_stage (h : m.Nested root) {i : Instance} (hi : m.instances[p]? = some i) (hlives : i.alive = true)
    {name : String} (hname : name ≠ Spec.inputHead) {s : Nat} (hlookup : List.lookup name i.stages = some s) :
    m.head? i name = some (.pending s) := by
  obtain ⟨outer, hscope⟩ := (h.descends (isInstance_of_get hi)).scope_head
  unfold head?
  rw [if_neg hname, hscope, stageSlot?, hi]
  simp only [hlives, hlookup, if_true]
  rfl

/-- **A declared stage is addressable, and by its name alone, just if it is not named `input`.** Whatever was done with a
pipeline that is built, every stage of a pipeline that lives, however deep below, has a task whose slot no other task
fills. A reference that is read in the pipeline and is the name of the stage, or begins with the name and a dot, leads to
what this task comes to, and from there on by its further segments, if and only if the name is not `input`. If it is,
the reference leads to the input of the pipeline. -/
theorem leads_to_stage_iff {registry : Registry} {document part : Value} {settings : Settings}
    (hbuild : build { registry } document settings = .ok (root, m₀)) (hreach : Reaches root m₀ m) {i : Instance}
    (hi : m.instances[p]? = some i) (hlives : i.alive = true) (hparse : Spec.parse part = .ok i.spec) {n : Nat} {s : Stage}
    (hs : i.spec.stages[n]? = some s) : ∃ k t, m.IsTask k t ∧ m.Serves t p i n s ∧
      (∀ k' t', m.IsTask k' t' → t'.slot = t.slot → k' = k) ∧
      ∀ text rest, Begun s.name text rest → ∀ node blamed,
        (m.LeadsTo t rest blamed (m.link (some p) node blamed text) ↔ s.name ≠ Spec.inputHead) ∧
          (s.name = Spec.inputHead → m.link (some p) node blamed text = ⟨.ok i.input, Path.parse rest, blamed⟩) := by
  have horderly := Reaches.orderly hreach (orderly_of_build hbuild)
  have hposted : m.Posted none := Reaches.posted hreach (orderly_of_build hbuild) (posted_of_build hbuild)
  have hlisted := Reaches.listed hreach (orderly_of_build hbuild) (listed_of_build hbuild)
  have hsound := horderly.lexical.sound
  have hinstance := isInstance_of_get hi
  obtain ⟨k, t, ht, hserves, hlookup⟩ := hlisted.served hposted hinstance (Spec.parse_nodup hparse).2 hs
  refine ⟨k, t, ht, hserves, fun k' t' ht' hslot => hposted.staffed.alone ht' ht hslot, fun text rest hbegun node blamed => ?_⟩
  have hsplit := hbegun.splitHead (Spec.stage_undotted hparse (List.mem_of_getElem? hs))
  have hlink := (link_of_alive hi hlives node blamed text).1
  rw [hsplit] at hlink
  have hown (hname : s.name = Spec.inputHead) :
      m.link (some p) node blamed text = ⟨.ok i.input, Path.parse rest, blamed⟩ := hlink _ (if_pos hname)
  refine ⟨⟨fun hleads hname => ?_, fun hname => ?_⟩, hown⟩
  · -- no slot of an input is filled by a task
    have hsame := congrArg Link.base ((hown hname).symm.trans hleads.slot)
    obtain ⟨name, hbound⟩ := hsound.inputs hinstance t.slot (by
      rw [Except.ok.inj hsame]
      exact List.mem_singleton_self _)
    exact (hsound.apart ht).2 ⟨p, i, name, hinstance, hbound⟩
  · have hstage := hlink _ (horderly.lexical.nested.head_stage hi hlives hname hlookup)
    refine ⟨hstage, ?_⟩
    rw [hstage, ← Resolvable.obtain?_eq_stepwise]
    rfl

/-- A pipeline with a stage of the name `input`, beside one of another name. -/
def overshadowed : Value := .object
  [("stages", .array
     [.object [("name", .string "a"), ("func", .string "refuse")],
      .object [("name", .string "input"), ("func", .string "refuse")]]),
   ("output", .string "input.x")]

/-- What refers to the one leads there, what refers to the other does not. -/
theorem overshadowed_leads : ∃ m i a b s s', build { registry := nestRegistry } overshadowed Settings.default = .ok (0, m) ∧
    m.Serves a 0 i 0 s ∧ s.name = "a" ∧ m.LeadsTo a "x" none (m.link (some 0) .null none "a.x") ∧
      m.Serves b 0 i 1 s' ∧ s'.name = "input" ∧ ¬m.LeadsTo b "x" none (m.link (some 0) .null none "input.x") := by
  obtain ⟨m, hbuild⟩ : ∃ m, build { registry := nestRegistry } overshadowed Settings.default = .ok (0, m) := ⟨_, rfl⟩
  obtain ⟨i, s, s', hi, hlives, hparse, hs, hname, hs', hname'⟩ : ∃ i s s', m.instances[0]? = some i ∧ i.alive = true ∧
      Spec.parse overshadowed = .ok i.spec ∧ i.spec.stages[0]? = some s ∧ s.name = "a" ∧ i.spec.stages[1]? = some s' ∧
        s'.name = "input" := by
    cases hbuild
    exact ⟨_, _, _, rfl, rfl, rfl, rfl, rfl, rfl, rfl⟩
  obtain ⟨-, a, -, ha, -, hleads⟩ := leads_to_stage_iff hbuild .refl hi hlives hparse hs
  obtain ⟨-, b, -, hb, -, hstrays⟩ := leads_to_stage_iff hbuild .refl hi hlives hparse hs'
  have hbegun : Begun s.name "a.x" "x" := by
    rw [hname]
    exact .further "x"
  have hbegun' : Begun s'.name "input.x" "x" := by
    rw [hname']
    exact .further "x"
  refine ⟨m, i, a, b, s, s', hbuild, ha, hname, ?_, hb, hname', fun hnot => ?_⟩
  · apply (hleads _ _ hbegun .null none).1.mpr
    rw [hname]
    decide
  · exact (hstrays _ _ hbegun' .null none).1.mp hnot hname'

end StageGraph.Machine
