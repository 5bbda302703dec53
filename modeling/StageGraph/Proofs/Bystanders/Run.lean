import StageGraph.Proofs.Bystanders.FirstLook
import StageGraph.Proofs.Bystanders.Judging
import StageGraph.Proofs.Grammar.Faithful
import StageGraph.Rehearsal

/-! Stages that nobody needs do not interfere.

Two specs with the same inputs and the same output that need the same stages come to the same: to the same value, or to
faults with the same cause, in whatever order tasks have their turns, and whatever other stages do (`run_ignores_bystanders`).
The moment at which the output is decided is the same (`Kindred.first`), and so are the causes that it can fail with
(`Kindred.blames`). Only where two references of the output, or of a stage that it needs, fail at the same moment does it
depend on turns which of their causes is told (`Spec.Tied`), and other stages can change that (`tie_is_told_apart`). -/
namespace StageGraph

/-- Two outcomes are the same value, or faults with the same cause. Where it is excused, the causes may differ. -/
inductive Outcome.Matches (excused : Prop) : Outcome → Outcome → Prop
  | value (v : Value) : Outcome.Matches excused (.ok v) (.ok v)
  | fault {f f' : Fault} : f.cause = f'.cause ∨ excused → Outcome.Matches excused (.error f) (.error f')

theorem Outcome.Matches.of_bare {excused : Prop} {o o' : Outcome}
    (h : o.mapError Fault.cause = o'.mapError Fault.cause) : Outcome.Matches excused o o' := by
  cases o with
  | ok v =>
    cases o' with
    | ok v' =>
      cases h
      exact .value v
    | error f' => cases h
  | error f =>
    cases o' with
    | ok v' => cases h
    | error f' => exact .fault (.inl (Except.error.inj h))

namespace Plan

open Machine

variable {plan plan' : Plan} {c c' : Nat} {o o' : Outcome}

/-- A run that ends had fuel. -/
theorem Ends.exists_fuel {choose : Choice} {deadline fuel : Nat} {m : Machine}
    (h : plan.Ends (drive choose (.output 0) (some deadline) fuel m).1) : ∃ rest, fuel = rest + 1 := by
  cases fuel with
  | zero => rcases h with h | ⟨o, h, -⟩ <;> cases h
  | succ rest => exact ⟨rest, rfl⟩

section

variable (hkin : plan.spec.Kindred plan'.spec) (hregistry : plan'.registry = plan.registry)
  (hvalues : plan'.values = plan.values)
include hkin hregistry hvalues

theorem result?_eq : plan'.result? = plan.result? := by
  unfold result?
  rw [hregistry, hvalues]
  exact hkin.evaluate?

/-- Outcomes that are judged at their moments match. -/
theorem Judged.matches (h : plan.Judged c o) (h' : plan'.Judged c' o')
    (hfirst : plan.spec.First plan.registry plan.values c plan.spec.output.wants)
    (hfirst' : plan'.spec.First plan'.registry plan'.values c' plan'.spec.output.wants)
    (hvalue : o.toOption = plan.result?) (hvalue' : o'.toOption = plan'.result?) :
    Outcome.Matches (plan.spec.Tied plan.registry plan.values) o o' := by
  rw [result?_eq hkin hregistry hvalues, ← hvalue] at hvalue'
  cases o with
  | ok v =>
    cases o' with
    | ok v' =>
      cases hvalue'
      exact .value v
    | error f' => cases hvalue'
  | error f =>
    cases o' with
    | ok v' => cases hvalue'
    | error f' =>
      obtain ⟨text, hdecides, hblames⟩ := h.blames rfl
      obtain ⟨text', hdecides', hblames'⟩ := h'.blames rfl
      have hasked (text : String) (htext : some text ∈ plan'.spec.output.wants) : plan'.spec.Asked text :=
        Spec.asked_of_output htext
      rw [hregistry, hvalues] at hfirst' hdecides' hblames'
      -- what is decided in the other run is decided in this one
      have hfirst' := hkin.symm.first hasked hfirst'
      have hblames' := hkin.symm.blames (hasked text' hdecides'.mem) hblames'
      have hdecides' := hkin.symm.decides hasked hdecides'
      rw [hkin.output] at hfirst' hdecides'
      cases hfirst.unique hfirst'
      refine .fault ?_
      by_cases htied : plan.spec.Tied plan.registry plan.values
      · exact .inr htied
      refine .inl ?_
      by_cases htext : text = text'
      · subst htext
        exact Spec.Blames.unique plan.spec_pure htied (Spec.asked_of_output hdecides.mem) hblames hblames'
      · by_contra hcause
        exact htied ⟨_, .inl rfl, c, text, text', _, _, hfirst, htext, hcause, hdecides, hblames, hdecides', hblames'⟩

/-- Runs of two plans that end match. -/
theorem verdicts_match (hsettings : plan'.settings = plan.settings)
    (hnode : (∃ path, plan.spec.output = .single path) ∨ plan'.spec.outputNode = plan.spec.outputNode)
    (choose choose' : Choice) {fuel fuel' : Nat}
    (hends : plan.Ends (drive choose (.output 0) (some plan.settings.patience) fuel plan.started).1)
    (hends' : plan'.Ends (drive choose' (.output 0) (some plan'.settings.patience) fuel' plan'.started).1) :
    ∃ o o', (drive choose (.output 0) (some plan.settings.patience) fuel plan.started).1.bind
        (Verdict.given plan.settings) = some o ∧
      (drive choose' (.output 0) (some plan'.settings.patience) fuel' plan'.started).1.bind
        (Verdict.given plan'.settings) = some o' ∧
      Outcome.Matches (plan.spec.Tied plan.registry plan.values) o o' := by
  rw [hsettings] at hends' ⊢
  have hasked (text : String) (htext : some text ∈ plan.spec.output.wants) : plan.spec.Asked text :=
    Spec.asked_of_output htext
  have hlate : Outcome.Matches (plan.spec.Tied plan.registry plan.values)
      (.error ⟨.timeout plan.settings.timeout, none⟩) (.error ⟨.timeout plan.settings.timeout, none⟩) := .fault (.inl rfl)
  have hknown (c : Nat) : plan.spec.Known plan.registry plan.values c plan.spec.output.wants ↔
      plan'.spec.Known plan'.registry plan'.values c plan'.spec.output.wants := by
    rw [hregistry, hvalues, hkin.output]
    exact ⟨hkin.known hasked, hkin.symm.known (hkin.asked hasked)⟩
  rcases Nat.eq_zero_or_pos plan.settings.patience with hzero | hpos
  · -- without any time, both look once
    rw [hzero] at hends hends' ⊢
    obtain ⟨fuel, rfl⟩ := hends.exists_fuel
    obtain ⟨fuel', rfl⟩ := hends'.exists_fuel
    have hsame := firstLook_agrees hkin hvalues hnode
    rw [drive_at_once, drive_at_once]
    generalize plan.firstLook = told at hsame
    generalize plan'.firstLook = told' at hsame
    rcases told with - | o <;> rcases told' with - | o'
    · exact ⟨_, _, rfl, rfl, hlate⟩
    · cases hsame
    · cases hsame
    · exact ⟨o, o', rfl, rfl, .of_bare (Option.some.inj hsame)⟩
  · -- what is decided in time in one run is decided in time in the other one
    obtain ⟨hnever, hjudged⟩ := plan.drive_judged choose hpos fuel
    obtain ⟨hnever', hjudged'⟩ := plan'.drive_judged choose' hpos fuel'
    rcases hends with hover | ⟨o, ho, hvalue⟩ <;> rcases hends' with hover' | ⟨o', ho', hvalue'⟩
    · rw [hover, hover']
      exact ⟨_, _, rfl, rfl, hlate⟩
    · obtain ⟨c, hc, hfirst, -⟩ := hjudged' o' ho'
      exact absurd ((hknown c).mpr hfirst.1) (hnever hover c hc)
    · obtain ⟨c, hc, hfirst, -⟩ := hjudged o ho
      exact absurd ((hknown c).mp hfirst.1) (hnever' hover' c hc)
    · obtain ⟨c, -, hfirst, hj⟩ := hjudged o ho
      obtain ⟨c', -, hfirst', hj'⟩ := hjudged' o' ho'
      rw [ho, ho']
      exact ⟨o, o', rfl, rfl, hj.matches hkin hregistry hvalues hj' hfirst hfirst' hvalue hvalue'⟩

end

end Plan

namespace Machine

variable {registry : Registry} {document document' : Value} {settings : Settings} {spec spec' : Spec} {p p' : Nat}
  {m m' : Machine} {supplied : List (String × Value)}

/-! ### Inputs -/

theorem mapM_mapError {α β ε ε' : Type} (f : α → Except ε β) (g : ε → ε') (l : List α) :
    (l.mapM f).mapError g = l.mapM fun a => (f a).mapError g := by
  induction l with
  | nil => rfl
  | cons a rest ih =>
    rw [List.mapM_cons, List.mapM_cons, ← ih]
    cases f a with
    | error e => rfl
    | ok b => cases rest.mapM f <;> rfl

/-- Why inputs are refused depends on the declared names alone. -/
theorem matchInputs_cause (hinput : spec'.input = spec.input) (supplied : List (String × Value)) :
    (matchInputs spec' supplied).mapError Fault.cause = (matchInputs spec supplied).mapError Fault.cause := by
  unfold matchInputs
  simp only [hinput]
  split
  · rw [mapM_mapError, mapM_mapError]
    refine congrArg (List.mapM · spec.input) (funext fun name => ?_)
    cases Fields.get? (Fields.ofList supplied) name <;> rfl
  · rfl

/-- Where the inputs are refused, nothing runs. -/
theorem run_refused (hparse : Spec.parse document = .ok spec) (hbuild : build { registry } document settings = .ok (p, m))
    {f : Fault} (hinputs : matchInputs spec supplied = .error f) (choose : Choice) (fuel : Nat) :
    (m.run choose fuel p supplied).1 = some (.error f) := by
  obtain ⟨spec', stages, hspec, -, rfl, rfl⟩ := build_eq_ok hbuild
  cases hparse.symm.trans hspec
  have hinstance : (({ registry } : Machine).assembled spec { settings } stages).instances[0]? =
      some (({ registry } : Machine).instanceOf spec { settings } stages) :=
    (assembled_instances spec { settings } stages 0).trans (if_pos rfl)
  show (Machine.run choose fuel _ 0 supplied).1 = _
  unfold run
  rw [hinstance]
  simp only
  rw [show (({ registry } : Machine).instanceOf spec { settings } stages).spec = spec from rfl, hinputs]

/-! ### Runs -/

/-- The node of an output that is not a single path does not depend on the rest of the document. -/
theorem outputNode_eq (hparse : Spec.parse document = .ok spec) (hparse' : Spec.parse document' = .ok spec')
    (houtput : spec'.output = spec.output) :
    (∃ path, spec.output = .single path) ∨ spec'.outputNode = spec.outputNode := by
  rw [(Spec.parse_eq_ok_iff.mp hparse).outputNode, (Spec.parse_eq_ok_iff.mp hparse').outputNode, houtput]
  cases spec.output with
  | single path => exact .inl ⟨path, rfl⟩
  | _ => exact .inr rfl

/-- **Stages that nobody needs do not interfere.** Of two specs with the same inputs and the same output that need the
same stages, runs with the same inputs and settings end with the same value, or with faults that have the same cause. So
it is for every order in which ready tasks have their turns, in either run, and whatever the other stages do, as long as
the functions that are called are pure. Only if the output, or a stage that it needs, waits for two references that decide
at the same moment and can fail with different causes, the faults may have different causes. -/
theorem run_ignores_bystanders (hpure : spec.Pure registry) (hpure' : spec'.Pure registry)
    (hparse : Spec.parse document = .ok spec) (hparse' : Spec.parse document' = .ok spec')
    (hbuild : build { registry } document settings = .ok (p, m))
    (hbuild' : build { registry } document' settings = .ok (p', m')) (hinput : spec'.input = spec.input)
    (houtput : spec'.output = spec.output)
    (hstages : ∀ s, s ∈ spec.stages ∧ spec.Needed s.name ↔ s ∈ spec'.stages ∧ spec'.Needed s.name)
    (choose choose' : Choice) :
    ∃ enough, ∀ fuel fuel', enough ≤ fuel → enough ≤ fuel' → ∃ o o',
      (m.run choose fuel p supplied).1 = some o ∧ (m'.run choose' fuel' p' supplied).1 = some o' ∧
        Outcome.Matches (∃ values, matchInputs spec supplied = .ok values ∧ spec.Tied registry values) o o' := by
  have hkin : spec.Kindred spec' :=
    ⟨(Spec.parse_nodup hparse).2, (Spec.parse_nodup hparse').2, hinput, houtput, hstages⟩
  have hcause := matchInputs_cause hinput supplied
  cases hinputs : matchInputs spec supplied with
  | error f =>
    rw [hinputs] at hcause
    cases hinputs' : matchInputs spec' supplied with
    | ok values => rw [hinputs'] at hcause; cases hcause
    | error f' =>
      rw [hinputs'] at hcause
      exact ⟨0, fun fuel fuel' _ _ => ⟨_, _, run_refused hparse hbuild hinputs choose fuel,
        run_refused hparse' hbuild' hinputs' choose' fuel', .fault (.inl (Except.error.inj hcause).symm)⟩⟩
  | ok values =>
    obtain ⟨plan, hregistry, rfl, rfl, rfl, rfl, rfl⟩ := exists_plan hpure hparse hbuild hinputs
    obtain ⟨plan', hregistry', rfl, hsettings', hvalues', rfl, rfl⟩ :=
      exists_plan hpure' hparse' hbuild' (matchInputs_congr hinput hinputs)
    subst hregistry
    obtain ⟨enough, henough⟩ := Plan.drive_ends choose plan.settings.patience plan.started plan.started_course
    obtain ⟨enough', henough'⟩ := Plan.drive_ends choose' plan'.settings.patience plan'.started plan'.started_course
    refine ⟨max enough enough', fun fuel fuel' hfuel hfuel' => ?_⟩
    obtain ⟨o, o', ho, ho', hmatches⟩ := Plan.verdicts_match hkin hregistry'.symm hvalues'.symm hsettings'.symm
      (outputNode_eq hparse hparse' houtput) choose choose' (henough fuel (le_of_max_le_left hfuel))
      (henough' fuel' (le_of_max_le_right hfuel'))
    have hinputs' : matchInputs plan'.spec supplied = .ok plan'.values :=
      hvalues' ▸ matchInputs_congr hinput hinputs
    refine ⟨o, o', (run_eq plan hinputs choose fuel).trans ho, (run_eq plan' hinputs' choose' fuel').trans ho', ?_⟩
    cases hmatches with
    | value v => exact .value v
    | fault h => exact .fault (h.imp_right fun htied => ⟨_, rfl, htied⟩)

/-- What a run has given does not change with more fuel. -/
theorem run_more {choose : Choice} {fuel : Nat} {o : Outcome} (h : (m.run choose fuel p supplied).1 = some o)
    (more : Nat) : (m.run choose (fuel + more) p supplied).1 = some o := by
  unfold run at h ⊢
  split
  · next hnone =>
    rw [hnone] at h
    cases h
  · next i hinstance =>
    rw [hinstance] at h
    simp only at h ⊢
    split
    · next f hrefused =>
      rw [hrefused] at h
      exact h
    · next values hvalues =>
      rw [hvalues] at h
      simp only at h ⊢
      cases hverdict : (drive choose (.output p) (some (m.clock + i.settings.patience)) fuel
          ((m.bindInputs i values).start p)).1 with
      | none =>
        rw [hverdict] at h
        cases h
      | some verdict =>
        rw [drive_more more hverdict]
        exact h

/-- A stage that fails with its name. -/
def failing (name : String) : Stage where
  name := name
  function := "fail"
  params := [("message", .string name)]
  input := []
  positional := false
  node := .object [("name", .string name), ("func", .string "fail"), ("params", .object [("message", .string name)])]
  inputNode := .object [("name", .string name), ("func", .string "fail"), ("params", .object [("message", .string name)])]

/-- A stage that never ends. -/
def idling (name : String) : Stage where
  name := name
  function := "never"
  params := []
  input := []
  positional := false
  node := .object [("name", .string name), ("func", .string "never")]
  inputNode := .object [("name", .string name), ("func", .string "never")]

/-- Two stages that fail, with stages between them that never end. -/
def attended (idle : List String) : List Stage := failing "b" :: idle.map idling ++ [failing "a"]

/-- The document of stages and an output. -/
def Spec.documentOf (stages : List Stage) (output : OutputShape) : Value :=
  .object [("stages", .array (stages.map Stage.node)), ("output", output.written)]

def attendedSpec (idle : List String) (output : OutputShape) : Spec where
  document := Spec.documentOf (attended idle) output
  input := []
  inputNode := Spec.documentOf (attended idle) output
  stages := attended idle
  output := output
  outputNode := Spec.blamedFor (Spec.documentOf (attended idle) output) output.written output

/-- The registry of what fails and what never ends. -/
def idleRegistry : Registry := ⟨[("fail", Rehearsal.fail), ("never", Rehearsal.never)]⟩

theorem idleRegistry_pure : idleRegistry.Pure := by
  intro name f h
  unfold Registry.get? idleRegistry at h
  rw [List.lookup_cons] at h
  split at h
  · cases h
    refine ⟨rfl, fun c => ?_⟩
    unfold Rehearsal.fail
    simp only
    split <;> trivial
  · rw [List.lookup_cons] at h
    split at h
    · cases h
      exact ⟨rfl, fun c => trivial⟩
    · cases h

theorem attended_kinds {idle : List String} {s : Stage} (h : s ∈ attended idle) : s = failing s.name ∨ s = idling s.name := by
  simp only [attended, List.mem_append, List.mem_cons, List.mem_map, List.not_mem_nil, or_false] at h
  rcases h with (rfl | ⟨k, -, rfl⟩) | rfl
  · exact .inl rfl
  · exact .inr rfl
  · exact .inl rfl

theorem attended_parse (idle : List String) (output : OutputShape) (hnames : ((attended idle).map Stage.name).Nodup)
    (hundotted : ∀ s ∈ attended idle, '.' ∉ s.name.toList) :
    Spec.parse (Spec.documentOf (attended idle) output) = .ok (attendedSpec idle output) := by
  refine Spec.parse_eq_ok_iff.mpr ⟨⟨_, rfl⟩, rfl, .inr ⟨rfl, rfl⟩, rfl, .inl ⟨_, rfl, ?_⟩, hnames, rfl, rfl⟩
  rw [List.forall₂_map_left_iff, show (attendedSpec idle output).stages = attended idle from rfl, List.forall₂_same]
  intro s hs
  have hundotted := hundotted s hs
  rcases attended_kinds hs with heq | heq
  · rw [heq]
    refine ⟨rfl, rfl, hundotted, rfl, .inl rfl, .inr ⟨rfl, .inl rfl⟩, ⟨nofun, ?_⟩, rfl⟩
    rintro (⟨_, h⟩ | ⟨_, h⟩) <;> cases h
  · rw [heq]
    refine ⟨rfl, rfl, hundotted, rfl, .inr ⟨rfl, .inl rfl⟩, .inr ⟨rfl, .inl rfl⟩, ⟨nofun, ?_⟩, rfl⟩
    rintro (⟨_, h⟩ | ⟨_, h⟩) <;> cases h

theorem attended_input {idle : List String} {s : Stage} (h : s ∈ attended idle) : s.input = [] := by
  rcases attended_kinds h with heq | heq <;> rw [heq] <;> rfl

/-- What the output refers to is needed, and nothing else. -/
theorem attended_needed {idle : List String} {output : OutputShape} {name : String} :
    (attendedSpec idle output).Needed name ↔ name ∈ output.needs := by
  constructor
  · rintro ⟨out, hout, hreach⟩
    cases hreach with
    | refl => exact hout
    | tail _ hrefers =>
      obtain ⟨s, hs, -, hneeds⟩ := hrefers
      rw [Stage.needs, attended_input hs] at hneeds
      cases hneeds
  · exact fun h => ⟨name, h, .refl⟩

theorem attended_stages {idle : List String} {output : OutputShape} (hidle : ∀ name ∈ idle, name ∉ output.needs)
    (s : Stage) : s ∈ (attendedSpec [] output).stages ∧ (attendedSpec [] output).Needed s.name ↔
      s ∈ (attendedSpec idle output).stages ∧ (attendedSpec idle output).Needed s.name := by
  rw [attended_needed, attended_needed]
  refine and_congr_left fun hneeded => ?_
  have hmem (idle : List String) : s ∈ (attendedSpec idle output).stages ↔
      s = failing "b" ∨ (∃ name ∈ idle, idling name = s) ∨ s = failing "a" := by
    simp only [attendedSpec, attended, List.mem_append, List.mem_cons, List.mem_map, List.not_mem_nil, or_false,
      or_assoc]
  rw [hmem, hmem]
  refine or_congr_right (or_congr_left ⟨fun ⟨name, hname, _⟩ => absurd hname List.not_mem_nil, ?_⟩)
  rintro ⟨name, hname, rfl⟩
  exact absurd hneeded (hidle name hname)

/-- An output that is a single path waits for one reference, and nothing is tied. -/
theorem attended_untied {idle : List String} {path : String} {registry : Registry} {values : List Value} :
    ¬(attendedSpec idle (.single path)).Tied registry values := by
  rintro ⟨wants, hwants, c, a, b, x, y, -, hother, -, ha, -, hb, -⟩
  rcases hwants with rfl | ⟨name, s, -, hs, rfl⟩
  · cases List.mem_singleton.mp ha.mem
    cases List.mem_singleton.mp hb.mem
    exact hother rfl
  · have htext := (Stage.mem_wants.mp ha.mem).2
    rw [attended_input (Spec.stage?_mem hs).1] at htext
    cases htext

/-- What the run of a built pipeline without inputs fails with. -/
def causeOf? (fuel : Nat) (built : Except Fault (Nat × Machine)) : Option Cause :=
  match built with
  | .error _ => none
  | .ok (p, m) =>
    match (m.run inOrder fuel p []).1 with
    | some (.error f) => some f.cause
    | _ => none

theorem lone_failure_unmoved : ∃ spec spec' p p' m m',
    Spec.parse (Spec.documentOf (attended []) (.single "a")) = .ok spec ∧
      Spec.parse (Spec.documentOf (attended ["x"]) (.single "a")) = .ok spec' ∧
      build { registry := idleRegistry } (Spec.documentOf (attended []) (.single "a")) Settings.default = .ok (p, m) ∧
      build { registry := idleRegistry } (Spec.documentOf (attended ["x"]) (.single "a")) Settings.default = .ok (p', m') ∧
      ¬spec.Tied idleRegistry [] ∧ ∀ choose choose' : Choice, ∃ enough, ∀ fuel fuel', enough ≤ fuel → enough ≤ fuel' →
        ∃ o o', (m.run choose fuel p []).1 = some o ∧ (m'.run choose' fuel' p' []).1 = some o' ∧
          Outcome.Matches (∃ values, matchInputs spec [] = .ok values ∧ spec.Tied idleRegistry values) o o' := by
  have hparse := attended_parse [] (.single "a") (by decide +kernel) (by decide +kernel)
  have hparse' := attended_parse ["x"] (.single "a") (by decide +kernel) (by decide +kernel)
  obtain ⟨p, m, hbuild⟩ : ∃ p m, build { registry := idleRegistry } (Spec.documentOf (attended []) (.single "a"))
    Settings.default = .ok (p, m) := ⟨_, _, rfl⟩
  obtain ⟨p', m', hbuild'⟩ : ∃ p m, build { registry := idleRegistry } (Spec.documentOf (attended ["x"]) (.single "a"))
    Settings.default = .ok (p, m) := ⟨_, _, rfl⟩
  have hpure {spec : Spec} : spec.Pure idleRegistry := fun _ _ f hf => idleRegistry_pure _ f hf
  refine ⟨_, _, p, p', m, m', hparse, hparse', hbuild, hbuild', attended_untied, fun choose choose' => ?_⟩
  exact run_ignores_bystanders hpure hpure hparse hparse' hbuild hbuild' rfl rfl
    (attended_stages (by decide +kernel)) choose choose'

/-- Sixty names. -/
def sixty : List String := (List.range 60).map fun k => "x" ++ Nat.repr k

theorem tie_is_told_apart : ∃ spec spec' p p' m m',
    Spec.parse (Spec.documentOf (attended []) (.list ["a", "b"])) = .ok spec ∧
      Spec.parse (Spec.documentOf (attended sixty) (.list ["a", "b"])) = .ok spec' ∧
      build { registry := idleRegistry } (Spec.documentOf (attended []) (.list ["a", "b"])) Settings.default = .ok (p, m) ∧
      build { registry := idleRegistry } (Spec.documentOf (attended sixty) (.list ["a", "b"])) Settings.default =
        .ok (p', m') ∧
      idleRegistry.Pure ∧ spec'.input = spec.input ∧ spec'.output = spec.output ∧ spec.stages.Sublist spec'.stages ∧
      (∀ s, s ∈ spec.stages ∧ spec.Needed s.name ↔ s ∈ spec'.stages ∧ spec'.Needed s.name) ∧
      ∃ f f', (∀ more, (m.run inOrder (2 + more) p []).1 = some (.error f)) ∧
        (∀ more, (m'.run inOrder (2 + more) p' []).1 = some (.error f')) ∧ f.message = "a" ∧ f'.message = "b" := by
  have hparse := attended_parse [] (.list ["a", "b"]) (by decide +kernel) (by decide +kernel)
  have hparse' := attended_parse sixty (.list ["a", "b"]) (by decide +kernel) (by decide +kernel)
  have hcause (idle : List String) (cause : Cause) (h : causeOf? 2 (build { registry := idleRegistry }
      (Spec.documentOf (attended idle) (.list ["a", "b"])) Settings.default) = some cause) :
      ∃ p m f, build { registry := idleRegistry } (Spec.documentOf (attended idle) (.list ["a", "b"])) Settings.default =
        .ok (p, m) ∧ (m.run inOrder 2 p []).1 = some (.error f) ∧ f.cause = cause := by
    unfold causeOf? at h
    split at h
    · cases h
    · next p m hbuild =>
      split at h
      · next f hrun =>
        cases h
        exact ⟨p, m, f, hbuild, hrun, rfl⟩
      · cases h
  obtain ⟨p, m, f, hbuild, hrun, hf⟩ := hcause [] (.execution "a") (by decide +kernel)
  obtain ⟨p', m', f', hbuild', hrun', hf'⟩ := hcause sixty (.execution "b") (by decide +kernel)
  refine ⟨_, _, p, p', m, m', hparse, hparse', hbuild, hbuild', idleRegistry_pure, rfl, rfl, ?_,
    attended_stages (by decide +kernel), f, f', run_more hrun, run_more hrun', ?_, ?_⟩
  · exact (List.nil_sublist _).append (.refl _) |>.cons_cons _
  · rw [Fault.message, hf]
    rfl
  · rw [Fault.message, hf']
    rfl

end Machine
end StageGraph
