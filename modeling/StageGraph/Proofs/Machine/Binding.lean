import Mathlib.Data.List.Perm.Subperm
import StageGraph.Proofs.Attribution.Coming
import StageGraph.Proofs.Dataflow.Run
import StageGraph.Proofs.Value.Fields

/-! What a run takes for its inputs.

Values that are supplied under one name count once, and the last of them is the one that counts (`get?_ofList`). There
are then as many names as are declared, each of them declared, just if the supplied names are the declared ones
(`matched_iff`). If they are not, the run is refused before anything is called; if they are, the slots of the inputs
are filled before any stage starts. The main theorem is `run_binds_inputs`. -/
namespace StageGraph

namespace Machine

/-! ### Names that match -/

/-- The supplied names are the declared ones. -/
def Matched (spec : Spec) (supplied : List (String × Value)) : Prop :=
  ∀ name, name ∈ spec.input ↔ name ∈ supplied.map Prod.fst

variable {spec : Spec} {supplied : List (String × Value)}

/-- As many names as are declared, with all declared ones among them, are the declared names. -/
theorem matched_iff (hinput : spec.input.Nodup) : Matched spec supplied ↔
    (Fields.ofList supplied).length = spec.input.length ∧
      ∀ name ∈ spec.input, (Fields.get? (Fields.ofList supplied) name).isSome := by
  have hkeys := Fields.ofList_nodup supplied
  have hlength : ((Fields.ofList supplied).map Prod.fst).length = (Fields.ofList supplied).length := List.length_map _
  constructor
  · intro h
    have hperm : ((Fields.ofList supplied).map Prod.fst).Perm spec.input :=
      (List.perm_ext_iff_of_nodup hkeys hinput).mpr fun name => Fields.mem_ofList.trans (h name).symm
    refine ⟨hlength.symm.trans hperm.length_eq, fun name hname => ?_⟩
    exact Fields.get?_isSome.mpr (hperm.mem_iff.mpr hname)
  · intro ⟨hcount, hall⟩ name
    have hsub : spec.input ⊆ (Fields.ofList supplied).map Prod.fst :=
      fun name hname => Fields.get?_isSome.mp (hall name hname)
    have hperm := (List.subperm_of_subset hinput hsub).perm_of_length_le (by rw [hlength, hcount])
    exact hperm.mem_iff.trans Fields.mem_ofList

/-- Inputs that match are bound to the values that were supplied last. -/
theorem matchInputs_of_matched (hinput : spec.input.Nodup) (h : Matched spec supplied) :
    ∃ values, matchInputs spec supplied = .ok values ∧
      List.Forall₂ (fun name v => List.lookup name supplied.reverse = some v) spec.input values := by
  obtain ⟨hcount, hall⟩ := (matched_iff hinput).mp h
  unfold matchInputs
  simp only [if_pos hcount]
  generalize spec.input = names at hall
  induction names with
  | nil => exact ⟨[], rfl, .nil⟩
  | cons name rest ih =>
    obtain ⟨values, hvalues, hlast⟩ := ih fun name hname => hall name (List.mem_cons_of_mem _ hname)
    obtain ⟨v, hv⟩ := Option.isSome_iff_exists.mp (hall name List.mem_cons_self)
    refine ⟨v :: values, ?_, .cons ((Fields.get?_ofList supplied name).symm.trans hv) hlast⟩
    rw [List.mapM_cons, hv, hvalues]
    rfl

/-- Inputs that do not match are refused, and the node of the input is blamed. -/
theorem matchInputs_of_not_matched (hinput : spec.input.Nodup) (h : ¬Matched spec supplied) :
    ∃ f : Fault, matchInputs spec supplied = .error f ∧ f.category = .structural ∧ f.node = some spec.inputNode := by
  unfold matchInputs
  simp only
  split
  · next hcount =>
    generalize hresult : List.mapM (m := Except Fault) _ _ = result
    cases result with
    | error f =>
      obtain ⟨name, -, hname⟩ := exists_of_mapM_error hresult
      split at hname
      · cases hname
      · cases hname
        exact ⟨_, rfl, rfl, rfl⟩
    | ok values =>
      refine absurd ((matched_iff hinput).mpr ⟨hcount, fun name hname => ?_⟩) h
      obtain ⟨v, -, hv⟩ := exists_matching (forall₂_of_mapM hresult) hname
      split at hv
      · next hget => rw [hget]; rfl
      · cases hv
  · exact ⟨_, rfl, rfl, rfl⟩

/-! ### Slots that are bound -/

variable {m : Machine}

theorem foldl_fill_keeps {s : Nat} {o : Outcome} (l : List (Nat × Value)) : ∀ {m : Machine}, m.slot s = some o →
    (l.foldl (fun m (s, v) => m.fill s (.ok v)) m).slot s = some o := by
  induction l with
  | nil => exact id
  | cons entry rest ih => exact fun h => ih (fill_slot_of_some h)

/-- Empty slots hold the values that they are filled with. -/
theorem foldl_fill_fills (l : List (Nat × Value)) : ∀ {m : Machine}, (l.map Prod.fst).Nodup →
    (∀ e ∈ l, e.1 < m.slots.size ∧ m.slot e.1 = none) →
      ∀ e ∈ l, (l.foldl (fun m (s, v) => m.fill s (.ok v)) m).slot e.1 = some (.ok e.2) := by
  induction l with
  | nil => exact fun _ _ => nofun
  | cons entry rest ih =>
    intro m hnodup hempty e he
    obtain ⟨hnew, hrest⟩ := List.nodup_cons.mp hnodup
    rcases List.mem_cons.mp he with rfl | he
    · obtain ⟨hlt, hnone⟩ := hempty e List.mem_cons_self
      refine foldl_fill_keeps rest ?_
      rw [fill_slot, if_pos ⟨rfl, hlt⟩, hnone]
      rfl
    · refine ih hrest (fun e' he' => ?_) e he
      obtain ⟨hlt, hnone⟩ := hempty e' (List.mem_cons_of_mem _ he')
      have hother : entry.1 ≠ e'.1 := fun heq => hnew (heq ▸ List.mem_map_of_mem he')
      refine ⟨(Array.size_modify ..).symm ▸ hlt, ?_⟩
      rw [fill_slot, if_neg fun h => hother h.1, hnone]

/-! ### Runs -/

/-- Where a run begins: nothing was called, no task has begun, and what an input's name leads to is there, the value
that was supplied last under that name. -/
structure Begins (m : Machine) (i : Instance) (supplied : List (String × Value)) : Prop where
  uncalled : m.log = #[]
  unstarted {k : Nat} {t : Task} : m.tasks[k]? = some t → ∃ args positional, t.phase = .unstarted args positional
  bound {name : String} : name ∈ i.spec.input → ∃ s v, i.input.step name = .ok (.pending s) ∧
    List.lookup name supplied.reverse = some v ∧ m.slot s = some (.ok v)

section

variable (registry : Registry) (stages : List (Stage × Function)) (settings : Settings)

/-- The slots of the inputs of a new pipeline are filled with the values that they are bound to. -/
theorem bindInputs_slot {values : List Value} (hlength : values.length = spec.input.length) {k : Nat} {v : Value}
    (hv : values[k]? = some v) :
    ((({ registry } : Machine).assembled spec { settings } stages).bindInputs
      (({ registry } : Machine).instanceOf spec { settings } stages) values).slot (stages.length + k) = some (.ok v) := by
  have hslots : ((({ registry } : Machine).instanceOf spec { settings } stages).bindings).map Prod.snd =
      List.range' (0 + stages.length) spec.input.length := numbered_snd spec.input _
  have hsize := assembled_size (m := { registry }) spec { settings } stages
  have hnames : ({ settings } : Placement).names spec = spec.input := rfl
  unfold bindInputs
  rw [hslots]
  obtain ⟨hlt, -⟩ := List.getElem?_eq_some_iff.mp hv
  refine foldl_fill_fills _ ?_ (fun e he => ?_) (stages.length + k, v) ?_
  · rw [List.map_fst_zip (by rw [List.length_range', hlength])]
    exact List.nodup_range'
  · obtain ⟨j, hj, heq⟩ := List.mem_range'.mp (List.of_mem_zip he).1
    constructor
    · rw [hsize, hnames, heq]
      show 0 + stages.length + 1 * j < 0 + (stages.length + spec.input.length)
      omega
    · rw [assembled_slot]
      rfl
  · refine List.mem_of_getElem? (i := k) (List.getElem?_zip_eq_some.mpr ⟨?_, hv⟩)
    rw [List.getElem?_range' (hlength ▸ hlt)]
    simp

/-- Inputs that match are bound before the stages start. -/
theorem begins_of_matched {values : List Value}
    (hvalues : List.Forall₂ (fun name v => List.lookup name supplied.reverse = some v) spec.input values) (p : Nat) :
    (((({ registry } : Machine).assembled spec { settings } stages).bindInputs
      (({ registry } : Machine).instanceOf spec { settings } stages) values).start p).Begins
        (({ registry } : Machine).instanceOf spec { settings } stages) supplied := by
  obtain ⟨slots, hbound⟩ : ∃ slots, (({ registry } : Machine).assembled spec { settings } stages).bindInputs
      (({ registry } : Machine).instanceOf spec { settings } stages) values =
        { ({ registry } : Machine).assembled spec { settings } stages with slots := slots } := foldl_fill_eq _ _
  refine ⟨?_, fun {k t} ht => ?_, fun {name} hname => ?_⟩
  · rw [start_log, hbound]
    rfl
  · rw [start_tasks, hbound] at ht
    change (({ registry } : Machine).assembled spec { settings } stages).tasks[k]? = some t at ht
    rcases assembled_tasks ht with hold | ⟨s, f, slot, -, rfl⟩
    · cases hold
    · exact ⟨_, _, rfl⟩
  · cases hs : List.lookup name (numbered (0 + stages.length) spec.input) with
    | none => exact absurd hname (lookup_numbered_none hs)
    | some s =>
      obtain ⟨hle, hget⟩ := lookup_numbered hs
      obtain ⟨hlt, hget⟩ := List.getElem?_eq_some_iff.mp hget
      have hlt' : s - (0 + stages.length) < values.length := hvalues.length_eq ▸ hlt
      have hv : values[s - (0 + stages.length)]? = some values[s - (0 + stages.length)] := List.getElem?_eq_getElem hlt'
      refine ⟨s, values[s - (0 + stages.length)], ?_, ?_, ?_⟩
      · have hmapping : (({ registry } : Machine).instanceOf spec { settings } stages).input =
            .mapping ((numbered (0 + stages.length) spec.input).map fun b => (b.1, .pending b.2)) := rfl
        simp only [hmapping, Resolvable.step, Resolvable.lookup_numbered_pending, hs, Option.map_some]
      · have hlast := hvalues.get hlt hlt'
        rw [List.get_eq_getElem, List.get_eq_getElem, hget] at hlast
        exact hlast
      · have hslot := bindInputs_slot registry stages settings hvalues.length_eq.symm hv
        rw [show stages.length + (s - (0 + stages.length)) = s by omega] at hslot
        rw [start_slot]
        exact hslot

end

/-- **Every declared input is bound to one value before any stage starts, or nothing runs.** If the supplied names
are not the declared ones, in whatever number, the run fails for a structural reason, blames the node of the input and
calls nothing. If they are, it begins with every declared name bound to the value that was supplied last under it,
which is the one that was supplied if there is one. -/
theorem run_binds_inputs {registry : Registry} {document : Value} {settings : Settings} {p : Nat}
    (hbuild : build { registry } document settings = .ok (p, m)) (supplied : List (String × Value)) :
    ∃ i, m.instances[p]? = some i ∧ Spec.parse document = .ok i.spec ∧
      (¬Matched i.spec supplied → ∃ f : Fault, f.category = .structural ∧ f.node = some i.spec.inputNode ∧
        ∀ choose fuel, (m.run choose fuel p supplied).1 = some (.error f) ∧
          (m.run choose fuel p supplied).2.log = #[]) ∧
      (Matched i.spec supplied → ∃ begun : Machine, begun.Begins i supplied ∧
        ∀ choose fuel, (m.run choose fuel p supplied).2 =
          (drive choose (.output p) (some (m.clock + settings.patience)) fuel begun).2.retire p) := by
  obtain ⟨spec, stages, hspec, hstages, rfl, rfl⟩ := build_eq_ok hbuild
  have hinput := (Spec.parse_nodup hspec).1
  have hinstance : (({ registry } : Machine).assembled spec { settings } stages).instances[0]? =
      some (({ registry } : Machine).instanceOf spec { settings } stages) :=
    (assembled_instances spec { settings } stages 0).trans (if_pos rfl)
  refine ⟨_, hinstance, hspec, fun hnot => ?_, fun hmatched => ?_⟩
  · obtain ⟨f, hf, hcategory, hnode⟩ := matchInputs_of_not_matched hinput hnot
    refine ⟨f, hcategory, hnode, fun choose fuel => ?_⟩
    have hrun : (({ registry } : Machine).assembled spec { settings } stages).run choose fuel 0 supplied =
        (some (.error f), (({ registry } : Machine).assembled spec { settings } stages).retire 0) := by
      unfold run
      rw [hinstance]
      simp only
      rw [show (({ registry } : Machine).instanceOf spec { settings } stages).spec = spec from rfl, hf]
    show (Machine.run choose fuel _ 0 supplied).1 = _ ∧ (Machine.run choose fuel _ 0 supplied).2.log = #[]
    rw [hrun]
    exact ⟨rfl, retire_log 0⟩
  · obtain ⟨values, hvalues, hlast⟩ := matchInputs_of_matched hinput hmatched
    refine ⟨_, begins_of_matched registry stages settings hlast 0, fun choose fuel => ?_⟩
    show (Machine.run choose fuel _ 0 supplied).2 = _
    unfold run
    rw [hinstance]
    simp only
    rw [show (({ registry } : Machine).instanceOf spec { settings } stages).spec = spec from rfl, hvalues]
    rfl

/-- A pipeline that gives its input back. -/
def echo : Value := .object [("input", .array [.string "x"]), ("output", .string "input.x")]

theorem echo_binds_last : ∃ p m i, build { registry := .empty } echo Settings.default = .ok (p, m) ∧
    m.instances[p]? = some i ∧ Matched i.spec [("x", .integer 1), ("x", .integer 2)] ∧
    ∃ begun : Machine, begun.Begins i [("x", .integer 1), ("x", .integer 2)] ∧
      ∀ choose fuel, (m.run choose fuel p [("x", .integer 1), ("x", .integer 2)]).2 =
        (drive choose (.output p) (some (m.clock + Settings.default.patience)) fuel begun).2.retire p := by
  obtain ⟨i, hi, hspec, -, hbegins⟩ := run_binds_inputs
    (show build { registry := .empty } echo Settings.default = _ from rfl) [("x", .integer 1), ("x", .integer 2)]
  have hmatched : Matched i.spec [("x", .integer 1), ("x", .integer 2)] := by
    generalize i.spec = spec at hspec
    cases hspec
    intro name
    simp [Spec.firstOccurrences]
  exact ⟨_, _, i, rfl, hi, hmatched, hbegins hmatched⟩

/-- The number that a run of a built pipeline gives. -/
def numberOf? (built : Except Fault (Nat × Machine)) (supplied : List (String × Value)) : Option Int :=
  match built with
  | .error _ => none
  | .ok (p, m) => ((m.run inOrder 1 p supplied).1.bind Except.toOption).bind Value.int64?

/-- A name that is supplied twice is not refused. -/
theorem repeated_name_accepted : ∃ p m, build { registry := .empty } echo Settings.default = .ok (p, m) ∧
    ∃ v, (m.run inOrder 1 p [("x", .integer 1), ("x", .integer 2)]).1 = some (.ok v) ∧ v.int64? = some 2 := by
  have hnumber : numberOf? (build { registry := .empty } echo Settings.default)
      [("x", .integer 1), ("x", .integer 2)] = some 2 := by
    decide +kernel
  obtain ⟨p, m, hbuild⟩ : ∃ p m, build { registry := .empty } echo Settings.default = .ok (p, m) := ⟨_, _, rfl⟩
  rw [hbuild] at hnumber
  obtain ⟨v, hv, hnumber⟩ := Option.bind_eq_some_iff.mp hnumber
  obtain ⟨o, ho, hv⟩ := Option.bind_eq_some_iff.mp hv
  cases o with
  | error f => cases hv
  | ok w =>
    cases hv
    exact ⟨p, m, hbuild, v, ho, hnumber⟩

end Machine

/-- The inputs of a plan are there when its stages start. -/
theorem Plan.started_inputs (plan : Plan) {k : Nat} (hk : k < plan.spec.input.length) :
    (plan.started.slot (plan.stages.length + k)).isSome := by
  rw [← plan.bound] at hk
  have hslot := Machine.bindInputs_slot plan.registry plan.stages plan.settings plan.bound (List.getElem?_eq_getElem hk)
  rw [plan.instanceOf_eq] at hslot
  rw [plan.started_slot]
  exact Option.isSome_iff_exists.mpr ⟨_, hslot⟩

end StageGraph
