import StageGraph.Proofs.Lifetime.Steps
import StageGraph.Proofs.Machine.Binding
import StageGraph.Proofs.Scoping.Segments

/-! Which declared inputs can be referred to.

Documents may declare any text as the name of an input, whereas a reference is cut at its dots. So what stands behind
`input.` is read as segments, and each of them is a step into the input (`read_input`). That leads to the value of a name
which is a single segment. A name with a dot is several segments, and the name without a character is none. The main
theorem is `addressable_iff`. -/
namespace StageGraph

namespace Resolvable

variable {π : Type} {view : π → Poll Value}

/-- A step into an object takes nothing that is on its way. -/
theorem stepwise_mapping (entries : List (String × Resolvable π)) (segment : String) (rest : Path) :
    (mapping entries).stepwise view (segment :: rest) =
      match (mapping entries).step segment with
      | .ok next => next.stepwise view rest
      | .error cause => some (.error ⟨cause, none⟩) := by
  have hthere : (mapping entries).await (m := Id) view = some (.ok (mapping entries)) := rfl
  rw [stepwise_cons]
  simp only [stride, hthere]
  cases (mapping entries).step segment <;> rfl

theorem stepwise_pending (p : π) : (pending p).stepwise view [] = view p := by
  show ((Progress.pending p).look (m := Id) view).outcome? = view p
  rw [Progress.look_pending]
  cases view p <;> rfl

/-- Nothing is behind a null. -/
theorem stepwise_null {p : π} (h : view p = some (.ok .null)) (segment : String) (rest : Path) :
    (pending p).stepwise view (segment :: rest) = some (.error ⟨.notNavigable segment Value.null.kindName, none⟩) := by
  have hthere : (pending p).await (m := Id) view = some (.ok (ready .null)) := by
    show (view p).map (Except.map ready) = _
    rw [h]
    rfl
  rw [stepwise_cons]
  simp only [stride, hthere]
  rfl

/-- An object with values on their way is no null. -/
theorem stepwise_mapping_ne_null (entries : List (String × Resolvable π)) :
    (mapping entries).stepwise view [] ≠ some (.ok .null) := by
  intro h
  change ((Progress.parts _ (progressOfEntries entries)).look (m := Id) view).outcome? = _ at h
  rw [Progress.look_parts] at h
  split at h
  · next o _ => cases o <;> cases h
  · cases h

end Resolvable

namespace Machine

variable {m : Machine} {p : Nat}

/-- The reference to a declared input. -/
def inputReference (name : String) : String := Spec.inputHead ++ "." ++ name

/-- A declared input is addressable: whatever values are supplied, and whenever the reference to it is read in the
pipeline while that lives, for a stage or for the output, it leads to the value that was supplied last under its name. -/
def Addressable (m : Machine) (p : Nat) (i : Instance) (name : String) : Prop :=
  ∀ supplied values, matchInputs i.spec supplied = .ok values →
    ∀ m', Reaches p ((m.bindInputs i values).start p) m' → m'.alive p = true →
      ∃ v, List.lookup name supplied.reverse = some v ∧
        ∀ node blamed, m'.linked (m'.link (some p) node blamed (inputReference name)) = some (.ok v)

/-- Who lives and refers to an input takes a step into its own input for each segment of the name. -/
theorem read_input {i : Instance} (hi : m.instances[p]? = some i) (hlives : i.alive = true) (name : String)
    (node : Value) (blamed : Option Value) : m.linked (m.link (some p) node blamed (inputReference name)) =
      (i.input.stepwise m.slot (Path.parse name)).map (Except.mapError (Fault.blame? · blamed)) := by
  have hsplit : Path.splitHead (inputReference name) = (Spec.inputHead, name) :=
    (Path.splitHead_of_name _ (by decide)).2
  have hhead : m.head? i (Path.splitHead (inputReference name)).1 = some i.input := by
    rw [hsplit]
    exact if_pos rfl
  rw [(link_of_alive hi hlives node blamed (inputReference name)).1 _ hhead, hsplit,
    ← Resolvable.obtain?_eq_stepwise]
  rfl

/-! ### Values that are supplied -/

/-- Inputs that are taken are bound to the values that were supplied last. -/
theorem matchInputs_last {spec : Spec} {supplied : List (String × Value)} {values : List Value}
    (h : matchInputs spec supplied = .ok values) :
    List.Forall₂ (fun name v => List.lookup name supplied.reverse = some v) spec.input values := by
  unfold matchInputs at h
  simp only at h
  split at h
  · apply (forall₂_of_mapM h).imp
    intro name v hv
    rw [← Fields.get?_ofList]
    split at hv
    · next w hw =>
      cases hv
      exact hw
    · cases hv
  · cases h

/-- A null for every name. -/
def nulls (names : List String) : List (String × Value) := names.map fun name => (name, .null)

theorem nulls_lookup {names : List String} {name : String} {v : Value}
    (h : List.lookup name (nulls names).reverse = some v) : v = .null := by
  obtain ⟨front, back, heq, -⟩ := List.lookup_eq_some_iff.mp h
  have hmem : (name, v) ∈ nulls names := by
    rw [← List.mem_reverse, heq]
    simp
  obtain ⟨_, -, hpair⟩ := List.mem_map.mp hmem
  cases hpair
  rfl

theorem nulls_matched (spec : Spec) : Matched spec (nulls spec.input) := by
  intro name
  simp [nulls]

/-- A declared input is a key of the input of an instance, and nothing else is. -/
structure Keyed (i : Instance) : Prop where
  mapping : ∃ entries, i.input = .mapping entries
  missing {key : String} : key ∉ i.spec.input → i.input.step key = .error (.missingKey key)

/-- How a run begins of a pipeline that is built. -/
theorem begins_of_build {registry : Registry} {document : Value} {settings : Settings}
    (hbuild : build { registry } document settings = .ok (p, m)) : ∃ i, m.instances[p]? = some i ∧
      Spec.parse document = .ok i.spec ∧ i.alive = true ∧ Keyed i ∧ ∀ supplied values,
        List.Forall₂ (fun name v => List.lookup name supplied.reverse = some v) i.spec.input values →
          ((m.bindInputs i values).start p).Begins i supplied := by
  obtain ⟨spec, stages, hspec, -, rfl, rfl⟩ := build_eq_ok hbuild
  refine ⟨_, (assembled_instances spec { settings } stages 0).trans (if_pos rfl), hspec, rfl, ⟨⟨_, rfl⟩, fun {key} hkey => ?_⟩,
    fun supplied values hlast => begins_of_matched registry stages settings hlast 0⟩
  show (Resolvable.mapping ((numbered (0 + stages.length) spec.input).map _)).step key = _
  simp only [Resolvable.step, Resolvable.lookup_numbered_pending]
  cases hlookup : List.lookup key (numbered (0 + stages.length) spec.input) with
  | none => rfl
  | some s => exact absurd (List.mem_of_getElem? (lookup_numbered hlookup).2) hkey

/-- If nulls are supplied, a name that is no single segment leads to anything but a null. -/
theorem Begins.not_null {i : Instance} (h : m.Begins i (nulls i.spec.input)) (hkeyed : Keyed i) {name : String}
    (hname : name = "" ∨ '.' ∈ name.toList) : i.input.stepwise m.slot (Path.parse name) ≠ some (.ok .null) := by
  obtain ⟨entries, hinput⟩ := hkeyed.mapping
  rcases hname with rfl | hdot
  · rw [hinput]
    exact Resolvable.stepwise_mapping_ne_null entries
  · obtain ⟨first, second, more, hsegments⟩ := Path.parse_of_dot hdot
    by_cases hfirst : first ∈ i.spec.input
    · obtain ⟨s, v, hstep, hlast, hslot⟩ := h.bound hfirst
      obtain rfl := nulls_lookup hlast
      rw [hinput] at hstep ⊢
      rw [hsegments, Resolvable.stepwise_mapping, hstep]
      simp only
      rw [Resolvable.stepwise_null hslot]
      simp
    · have hmissing := hkeyed.missing hfirst
      rw [hinput] at hmissing ⊢
      rw [hsegments, Resolvable.stepwise_mapping, hmissing]
      simp

/-! ### Names that can be referred to -/

/-- What is told once it is attributed is what was told, if it is a value. -/
theorem ok_of_blamed {told : Poll Value} {blamed : Option Value} {v : Value}
    (h : told.map (Except.mapError (Fault.blame? · blamed)) = some (.ok v)) : told = some (.ok v) := by
  rcases told with - | f | w
  · cases h
  · cases h
  · exact h

/-- **Just the declared inputs whose names are single segments are addressable.** Of a pipeline that is built, the value
that is supplied for a declared input is what `input.` and its name leads to, in every run and at any time, if and only
if the name has a character and has no dot. -/
theorem addressable_iff {registry : Registry} {document : Value} {settings : Settings}
    (hbuild : build { registry } document settings = .ok (p, m)) : ∃ i, m.instances[p]? = some i ∧
      Spec.parse document = .ok i.spec ∧
        ∀ name ∈ i.spec.input, m.Addressable p i name ↔ name ≠ "" ∧ '.' ∉ name.toList := by
  have horderly := orderly_of_build hbuild
  obtain ⟨i, hi, hspec, halive, hkeyed, hbegins⟩ := begins_of_build hbuild
  have hbegun (values : List Value) : Reaches p m ((m.bindInputs i values).start p) :=
    .head (.bind i values) (.single .start)
  have hread {values : List Value} {m' : Machine} (hreach : Reaches p ((m.bindInputs i values).start p) m')
      (hlives : m'.alive p = true) (name : String) (node : Value) (blamed : Option Value) :
      m'.linked (m'.link (some p) node blamed (inputReference name)) =
        (i.input.stepwise m'.slot (Path.parse name)).map (Except.mapError (Fault.blame? · blamed)) := by
    have he := Reaches.extends' ((hbegun values).trans hreach) horderly
    obtain ⟨i', hi', hlives'⟩ := alive_iff.mp hlives
    obtain ⟨_, _, _, rfl⟩ := (he.isInstance (isInstance_of_get hi)).eq (isInstance_of_get hi')
    exact read_input hi' hlives' name node blamed
  refine ⟨i, hi, hspec, fun name hname => ⟨fun haddressable => ?_, fun ⟨hsome, hdot⟩ => ?_⟩⟩
  · -- all inputs are null, and the reference is read at once
    obtain ⟨values, hvalues, hlast⟩ := matchInputs_of_matched (Spec.parse_nodup hspec).1 (nulls_matched i.spec)
    have hlives : ((m.bindInputs i values).start p).alive p = true := by
      obtain ⟨slots, hbound⟩ := bindInputs_eq (m := m) i values
      rw [start_alive, hbound]
      exact alive_iff.mpr ⟨i, hi, halive⟩
    obtain ⟨v, hv, htold⟩ := haddressable _ values hvalues _ .refl hlives
    obtain rfl := nulls_lookup hv
    have hnull := ok_of_blamed ((hread .refl hlives name .null none).symm.trans (htold .null none))
    constructor
    · exact fun hempty => (hbegins _ _ hlast).not_null hkeyed (.inl hempty) hnull
    · exact fun hdot => (hbegins _ _ hlast).not_null hkeyed (.inr hdot) hnull
  · intro supplied values hvalues m' hreach hlives
    obtain ⟨s, v, hstep, hlast, hslot⟩ := (hbegins _ _ (matchInputs_last hvalues)).bound hname
    have hslot' : m'.slot s = some (.ok v) :=
      (Reaches.extends' hreach (Reaches.orderly (hbegun values) horderly)).outcome (a := .slot s) hslot
    obtain ⟨entries, hinput⟩ := hkeyed.mapping
    rw [hinput] at hstep
    refine ⟨v, hlast, fun node blamed => ?_⟩
    rw [hread hreach hlives, Path.parse_of_name hsome hdot, hinput, Resolvable.stepwise_mapping, hstep]
    simp only
    rw [Resolvable.stepwise_pending, hslot']
    rfl

/-- A pipeline with an input whose name has a dot, beside one whose name has none. -/
def dotted : Value := .object
  [("input", .array [.string "a.b", .string "x"]), ("output", .string (inputReference "a.b"))]

/-- The one is addressable, the other one is not. -/
theorem dotted_addressable : ∃ p m i, build { registry := .empty } dotted Settings.default = .ok (p, m) ∧
    m.instances[p]? = some i ∧ i.spec.input = ["a.b", "x"] ∧ m.Addressable p i "x" ∧ ¬m.Addressable p i "a.b" := by
  obtain ⟨p, m, hbuild⟩ : ∃ p m, build { registry := .empty } dotted Settings.default = .ok (p, m) := ⟨_, _, rfl⟩
  obtain ⟨i, hi, hspec, hiff⟩ := addressable_iff hbuild
  have hnames : i.spec.input = ["a.b", "x"] := by
    generalize i.spec = spec at hspec
    cases hspec
    decide
  refine ⟨p, m, i, hbuild, hi, hnames, ?_, ?_⟩
  · exact (hiff "x" (by simp [hnames])).mpr (by decide)
  · exact fun haddressable => absurd ((hiff "a.b" (by simp [hnames])).mp haddressable) (by decide)

end Machine
end StageGraph
