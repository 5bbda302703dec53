import StageGraph.Proofs.Grammar.Faithful
import StageGraph.Proofs.Scoping.Inputs
import StageGraph.Proofs.Value.Taking

/-! Inputs go by their names.

The values of the declared inputs are found under their names, and it makes no difference whether each is taken out of
what was supplied before the next one is looked for (`matchInputs_taken`). So nothing depends on the order in which
values are supplied, if no name is supplied twice: neither what a run comes to nor what it is refused for
(`run_perm`). What is bound are the supplied values under the declared names in their order (`bound_perm`), and that is
what the whole input is in every state of the run (`whole_input`). The main theorem is `inputs_go_by_name`. -/
namespace StageGraph

namespace Resolvable

/-- Declared inputs whose slots are filled make up the object of their values, at the end of every path into it. -/
theorem obtain?_inputs {names : List String} {values : List Value} {first : Nat} {view : Nat → Poll Value}
    (hnames : names.Nodup) (hlength : values.length = names.length)
    (hslots : ∀ k v, values[k]? = some v → view (first + k) = some (.ok v)) {path : Path} {v : Value}
    (hv : (Value.object (Fields.ofList (names.zip values))).descend path = some v) :
    (mapping ((Machine.numbered first names).map fun b => (b.1, .pending b.2))).obtain? (m := Id) view path =
      some (.ok v) := by
  let known (s : Nat) : Option Value := (view s).bind Except.toOption
  let inputs : Resolvable Nat := mapping ((Machine.numbered first names).map fun b => (b.1, .pending b.2))
  have hfilled : ∀ k < names.length, ∃ w, values[k]? = some w ∧ view (first + k) = some (.ok w) := by
    intro k hk
    have hget : values[k]? = some values[k] := List.getElem?_eq_getElem (hlength ▸ hk)
    exact ⟨_, hget, hslots k _ hget⟩
  have htold : (inputs.obtain? (m := Id) view path).isSome := by
    apply obtain?_isSome
    intro s hs
    change s ∈ awaitedEntries _ at hs
    rw [awaitedEntries_pending, Machine.numbered_snd] at hs
    obtain ⟨k, hk, rfl⟩ := List.mem_range'.mp hs
    obtain ⟨w, -, hw⟩ := hfilled k hk
    rw [Nat.one_mul, hw]
    rfl
  obtain ⟨o, ho⟩ := Option.isSome_iff_exists.mp htold
  have hagrees : ∀ s ∈ inputs.awaited, Agrees known s (view s) := by
    intro s _ o' ho'
    simp [known, ho']
  have hknown : ∀ k, k < names.length → known (first + k) = values[k]? := by
    intro k hk
    obtain ⟨w, hget, hw⟩ := hfilled k hk
    simp only [known, hw, hget]
    rfl
  have hreached : o.toOption = inputs.reached? known path := obtain?_reached? Telling.plain inputs path hagrees o ho
  rw [reached?_inputs hnames hlength hknown, hv] at hreached
  refine ho.trans (congrArg some ?_)
  cases o with
  | error f => cases hreached
  | ok w =>
    cases hreached
    rfl

end Resolvable

namespace Machine

variable {m : Machine} {p : Nat} {spec : Spec} {supplied supplied' : List (String × Value)}

/-! ### Whatever the order -/

/-- The values of the declared names, each taken out of what was supplied before the next one is looked for. -/
def takeInputs (spec : Spec) (supplied : List (String × Value)) : Except Fault (List Value) :=
  let fields := Fields.ofList supplied
  if fields.length = spec.input.length then
    Fields.takeEach (fun name => ⟨.missingInput name, some spec.inputNode⟩) spec.input fields
  else .error ⟨.inputCount spec.input.length fields.length, some spec.inputNode⟩

theorem matchInputs_taken (hinput : spec.input.Nodup) (supplied : List (String × Value)) :
    matchInputs spec supplied = takeInputs spec supplied := by
  simp only [takeInputs, Fields.takeEach_eq _ hinput (Fields.ofList_nodup supplied)]
  rfl

theorem matchInputs_perm (hd : (supplied.map Prod.fst).Nodup) (hperm : supplied.Perm supplied') :
    matchInputs spec supplied = matchInputs spec supplied' := by
  have hd' : (supplied'.map Prod.fst).Nodup := (hperm.map Prod.fst).nodup_iff.mp hd
  have hget : Fields.get? supplied = Fields.get? supplied' := funext (Table.lookup_perm hd hperm)
  simp only [matchInputs, Fields.ofList_eq hd, Fields.ofList_eq hd', hperm.length_eq, hget]

/-- A run comes to the same, whatever the order of what is supplied. -/
theorem run_perm (hd : (supplied.map Prod.fst).Nodup) (hperm : supplied.Perm supplied') (choose : Choice) (fuel : Nat) :
    m.run choose fuel p supplied = m.run choose fuel p supplied' := by
  unfold run
  cases m.instances[p]? with
  | none => rfl
  | some i => simp only [matchInputs_perm hd hperm]

/-! ### What is bound -/

/-- The values of the declared names are the supplied ones, in another order. -/
theorem bound_perm {values : List Value} (hinput : spec.input.Nodup) (hd : (supplied.map Prod.fst).Nodup)
    (hmatched : Matched spec supplied)
    (hlast : List.Forall₂ (fun name v => List.lookup name supplied.reverse = some v) spec.input values) :
    (spec.input.zip values).Perm supplied := by
  have hkeys : ((spec.input.zip values).map Prod.fst) = spec.input := List.map_fst_zip hlast.length_eq.le
  have hnames : spec.input.Perm (supplied.map Prod.fst) := (List.perm_ext_iff_of_nodup hinput hd).mpr hmatched
  have hsub : spec.input.zip values ⊆ supplied := by
    intro entry hentry
    have hfound := (List.forall₂_iff_zip.mp hlast).2 hentry
    exact List.mem_reverse.mp (Fields.mem_of_get? hfound)
  have hnodup : (spec.input.zip values).Nodup := by
    apply List.Nodup.of_map Prod.fst
    rwa [hkeys]
  apply (hnodup.subperm hsub).perm_of_length_le
  rw [← List.length_map Prod.fst, ← hnames.length_eq, List.length_zip, ← hlast.length_eq, Nat.min_self]

/-- A run that begins has the input bound to the fields, each under its own name, whatever is done. -/
structure BindsByName (m : Machine) (p : Nat) (i : Instance) (bound : Fields) : Prop where
  lives : m.alive p = true
  /-- The slot of a name holds the value of that name. -/
  slot {m' : Machine} (hreach : Reaches p m m') {name : String} {v : Value} (hv : (name, v) ∈ bound) :
    ∃ s, i.input.step name = .ok (.pending s) ∧ m'.slot s = some (.ok v)
  /-- Who refers to the whole input while the pipeline lives, for a stage or for the output, has all of the fields. -/
  whole {m' : Machine} (hreach : Reaches p m m') (hlives : m'.alive p = true) (node : Value) (blamed : Option Value) :
    m'.linked (m'.link (some p) node blamed Spec.inputHead) = some (.ok (.object bound))

/-- Who lives and refers to the whole input looks at its own. -/
theorem read_whole {i : Instance} (hi : m.instances[p]? = some i) (hlives : i.alive = true) (node : Value)
    (blamed : Option Value) : m.linked (m.link (some p) node blamed Spec.inputHead) =
      (i.input.obtain? (m := Id) m.slot []).map (Except.mapError (Fault.blame? · blamed)) := by
  have hsplit : Path.splitHead Spec.inputHead = (Spec.inputHead, "") := (Path.splitHead_of_name "" (by decide)).1
  have hhead : m.head? i (Path.splitHead Spec.inputHead).1 = some i.input := by
    rw [hsplit]
    exact if_pos rfl
  rw [(link_of_alive hi hlives node blamed Spec.inputHead).1 _ hhead, hsplit]
  rfl

/-- Whose declared inputs are all bound has the object of their values. -/
theorem linked_whole {i : Instance} {names : List String} {values : List Value} {first : Nat}
    (hi : m.instances[p]? = some i) (hlives : i.alive = true)
    (hmapping : i.input = .mapping ((numbered first names).map fun b => (b.1, .pending b.2))) (hnames : names.Nodup)
    (hlength : values.length = names.length) (hfilled : ∀ k v, values[k]? = some v → m.slot (first + k) = some (.ok v))
    (node : Value) (blamed : Option Value) :
    m.linked (m.link (some p) node blamed Spec.inputHead) = some (.ok (.object (names.zip values))) := by
  have hobject : (Value.object (Fields.ofList (names.zip values))).descend [] = some (.object (names.zip values)) := by
    rw [Fields.ofList_zip hnames hlength]
    rfl
  rw [read_whole hi hlives, hmapping, Resolvable.obtain?_inputs hnames hlength hfilled hobject]
  rfl

/-- The slots of the declared inputs stand in the order of the names, and are filled before a run starts. -/
theorem inputs_of_build {registry : Registry} {document : Value} {settings : Settings}
    (hbuild : build { registry } document settings = .ok (p, m)) : ∃ i first, m.instances[p]? = some i ∧
      i.input = .mapping ((numbered first i.spec.input).map fun b => (b.1, .pending b.2)) ∧
      ∀ values, values.length = i.spec.input.length → ∀ k v, values[k]? = some v →
        ((m.bindInputs i values).start p).slot (first + k) = some (.ok v) := by
  obtain ⟨spec, stages, hspec, -, rfl, rfl⟩ := build_eq_ok hbuild
  refine ⟨_, 0 + stages.length, (assembled_instances spec { settings } stages 0).trans (if_pos rfl), rfl,
    fun values hlength k v hv => ?_⟩
  rw [start_slot, Nat.zero_add]
  exact bindInputs_slot registry stages settings hlength hv

/-- What was there once a run began is there in whatever it reaches: the input that is bound is the fields. -/
theorem bindsByName_of_build {registry : Registry} {document : Value} {settings : Settings}
    (hbuild : build { registry } document settings = .ok (p, m)) {i : Instance} (hi : m.instances[p]? = some i)
    (hinput : i.spec.input.Nodup) {values : List Value}
    (hlast : List.Forall₂ (fun name v => List.lookup name supplied.reverse = some v) i.spec.input values) :
    ((m.bindInputs i values).start p).BindsByName p i (i.spec.input.zip values) := by
  have horderly := orderly_of_build hbuild
  have hbegun : Reaches p m ((m.bindInputs i values).start p) := .head (.bind i values) (.single .start)
  have hextends {m' : Machine} (hreach : Reaches p ((m.bindInputs i values).start p) m') :=
    Reaches.extends' hreach (Reaches.orderly hbegun horderly)
  obtain ⟨j, hj, -, halive, -, hbegins⟩ := begins_of_build hbuild
  obtain rfl := Option.some.inj (hi.symm.trans hj)
  constructor
  · obtain ⟨slots, hbound⟩ := bindInputs_eq (m := m) i values
    rw [start_alive, hbound]
    exact alive_iff.mpr ⟨i, hi, halive⟩
  · intro m' hreach name v hv
    obtain ⟨s, w, hstep, hfound, hslot⟩ := (hbegins supplied values hlast).bound (List.of_mem_zip hv).1
    obtain rfl := Option.some.inj (((List.forall₂_iff_zip.mp hlast).2 hv).symm.trans hfound)
    have hslot' : m'.slot s = some (.ok v) := (hextends hreach).outcome (a := .slot s) hslot
    exact ⟨s, hstep, hslot'⟩
  · intro m' hreach hlives node blamed
    obtain ⟨j, first, hj, hmapping, hslots⟩ := inputs_of_build hbuild
    obtain rfl := Option.some.inj (hi.symm.trans hj)
    obtain ⟨i', hi', hlives'⟩ := alive_iff.mp hlives
    have he := Reaches.extends' (hbegun.trans hreach) horderly
    obtain ⟨_, _, _, rfl⟩ := (he.isInstance (isInstance_of_get hi)).eq (isInstance_of_get hi')
    have hfilled : ∀ k v, values[k]? = some v → m'.slot (first + k) = some (.ok v) := fun k v hv =>
      (hextends hreach).outcome (a := .slot (first + k)) (hslots values hlast.length_eq.symm k v hv)
    exact linked_whole hi' hlives' hmapping hinput hlast.length_eq.symm hfilled node blamed

/-- How a run begins whose inputs match. -/
theorem run_of_matched {i : Instance} (hi : m.instances[p]? = some i) {values : List Value}
    (hvalues : matchInputs i.spec supplied = .ok values) (choose : Choice) (fuel : Nat) :
    (m.run choose fuel p supplied).2 = (drive choose (.output p) (some (m.clock + i.settings.patience)) fuel
      ((m.bindInputs i values).start p)).2.retire p := by
  unfold run
  simp only [hi, hvalues]

/-- **Inputs go by their names.** If no name is supplied twice, a run comes to the same in whatever order the values are
supplied, with the same fault if it is refused, and the values that match are those that are found if each is taken out
before the next one is looked for. If the supplied names are the declared ones, the run begins with each of them bound
to the value that was supplied under it; and as long as the pipeline lives, whoever refers to the whole input has the
object of these values, with the declared names in the order in which the document has them first. -/
theorem inputs_go_by_name {registry : Registry} {document : Value} {settings : Settings}
    (hbuild : build { registry } document settings = .ok (p, m)) : ∃ i, m.instances[p]? = some i ∧
      Spec.parse document = .ok i.spec ∧
      ((∃ names, document.field? "input" = some (.ofTexts names) ∧ Spec.FirstOf names i.spec.input) ∨
        document.field? "input" = none ∧ i.spec.input = []) ∧
      (∀ supplied, matchInputs i.spec supplied = takeInputs i.spec supplied) ∧
      ∀ supplied : List (String × Value), (supplied.map Prod.fst).Nodup →
        (∀ supplied', supplied.Perm supplied' → ∀ choose fuel,
          m.run choose fuel p supplied = m.run choose fuel p supplied') ∧
        (Matched i.spec supplied → ∃ (bound : Fields) (begun : Machine),
          bound.Perm supplied ∧ bound.map Prod.fst = i.spec.input ∧ begun.BindsByName p i bound ∧
            ∀ choose fuel, (m.run choose fuel p supplied).2 =
              (drive choose (.output p) (some (m.clock + i.settings.patience)) fuel begun).2.retire p) := by
  obtain ⟨i, hi, hspec, -⟩ := begins_of_build hbuild
  have hinput := (Spec.parse_nodup hspec).1
  refine ⟨i, hi, hspec, (Spec.parse_eq_ok_iff.mp hspec).input, matchInputs_taken hinput, fun supplied hd =>
    ⟨fun supplied' => run_perm hd, fun hmatched => ?_⟩⟩
  obtain ⟨values, hvalues, hlast⟩ := matchInputs_of_matched hinput hmatched
  exact ⟨i.spec.input.zip values, _, bound_perm hinput hd hmatched hlast, List.map_fst_zip hlast.length_eq.le,
    bindsByName_of_build hbuild hi hinput hlast, run_of_matched hi hvalues⟩

/-- A pipeline that gives its whole input back, with a name that is declared twice. -/
def repeater : Value := .object
  [("input", .array [.string "b", .string "a", .string "b"]), ("output", .string Spec.inputHead)]

/-- The names in the object that a run of a built pipeline gives. -/
def namesOf? (built : Except Fault (Nat × Machine)) (supplied : List (String × Value)) : Option (List String) :=
  match built with
  | .error _ => none
  | .ok (p, m) =>
    ((m.run inOrder 1 p supplied).1.bind Except.toOption).bind fun v => v.object?.map fun fields => fields.map Prod.fst

example : namesOf? (build { registry := .empty } repeater Settings.default) [("a", .integer 1), ("b", .integer 2)] =
    some ["b", "a"] := by decide +kernel

/-- Supplied the other way round, the inputs are bound as they are declared. -/
theorem repeater_goes_by_name : ∃ p m i, build { registry := .empty } repeater Settings.default = .ok (p, m) ∧
    m.instances[p]? = some i ∧ i.spec.input = ["b", "a"] ∧
    (∀ choose fuel, m.run choose fuel p [("a", .integer 1), ("b", .integer 2)] =
      m.run choose fuel p [("b", .integer 2), ("a", .integer 1)]) ∧
    ∃ (bound : Fields) (begun : Machine), bound.Perm [("a", .integer 1), ("b", .integer 2)] ∧
      bound.map Prod.fst = ["b", "a"] ∧ begun.BindsByName p i bound := by
  obtain ⟨p, m, hbuild⟩ : ∃ p m, build { registry := .empty } repeater Settings.default = .ok (p, m) := ⟨_, _, rfl⟩
  obtain ⟨i, hi, hspec, -, -, hruns⟩ := inputs_go_by_name hbuild
  have hnames : i.spec.input = ["b", "a"] := by
    generalize i.spec = spec at hspec
    cases hspec
    decide
  obtain ⟨hperm, hbinds⟩ := hruns [("a", .integer 1), ("b", .integer 2)] (by decide)
  obtain ⟨bound, begun, hbound, hkeys, hbegun, -⟩ := hbinds (by intro name; simp [hnames, or_comm])
  exact ⟨p, m, i, hbuild, hi, hnames, hperm _ (.swap _ _ _), bound, begun, hbound, hkeys.trans hnames, hbegun⟩

end Machine
end StageGraph
