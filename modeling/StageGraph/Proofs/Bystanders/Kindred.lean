import StageGraph.Proofs.Attribution.Reading
import StageGraph.Proofs.Bystanders.Moments
import StageGraph.Proofs.Dataflow.Result

/-! Specs that need the same stages.

What an output comes to, and when, depends on the stages that it needs alone. Of two specs with the same output and the
same needed stages, a needed stage has the same value (`Kindred.meaning?`), it is over at the same moment
(`Kindred.over_iff`), and it can fail with the same causes (`Kindred.blames`), whatever other stages there are. -/
namespace StageGraph.Spec

/-- Two specs with the same inputs and the same output, and with the same stages among those that the output needs. -/
structure Kindred (spec spec' : Spec) : Prop where
  names : (spec.stages.map Stage.name).Nodup
  names' : (spec'.stages.map Stage.name).Nodup
  input : spec'.input = spec.input
  output : spec'.output = spec.output
  stages (s : Stage) : s ∈ spec.stages ∧ spec.Needed s.name ↔ s ∈ spec'.stages ∧ spec'.Needed s.name

namespace Kindred

variable {registry : Registry} {spec spec' : Spec} {values : List Value} {name text : String} {s : Stage} {c : Nat}
  {wants : List (Option String)}

theorem symm (h : Kindred spec spec') : Kindred spec' spec :=
  ⟨h.names', h.names, h.input.symm, h.output.symm, fun s => (h.stages s).symm⟩

variable (h : Kindred spec spec')
include h

theorem needed (hneeded : spec.Needed name) : spec'.Needed name := by
  obtain ⟨out, hout, hreach⟩ := hneeded
  have hout' : out ∈ spec'.output.needs := by
    rw [h.output]
    exact hout
  induction hreach with
  | refl => exact ⟨out, hout', .refl⟩
  | @tail a b hreach hrefers ih =>
    obtain ⟨out', hout', hreach'⟩ := ih
    obtain ⟨s, hs, rfl, hb⟩ := hrefers
    obtain ⟨hs', -⟩ := (h.stages s).mp ⟨hs, out, hout, hreach⟩
    exact ⟨out', hout', hreach'.tail ⟨s, hs', rfl, hb⟩⟩

theorem stage?_some (hneeded : spec.Needed name) (hs : spec.stage? name = some s) : spec'.stage? name = some s := by
  obtain ⟨hmem, rfl⟩ := stage?_mem hs
  exact stage?_eq h.names' ((h.stages s).mp ⟨hmem, hneeded⟩).1

theorem stage? (hneeded : spec.Needed name) : spec'.stage? name = spec.stage? name := by
  cases hs : spec.stage? name with
  | some s => exact h.stage?_some hneeded hs
  | none =>
    cases hs' : spec'.stage? name with
    | none => rfl
    | some s => exact absurd (h.symm.stage?_some (h.needed hneeded) hs') (by rw [hs]; exact nofun)

/-! ### Values -/

theorem inputValue : spec'.inputValue values = spec.inputValue values := by
  unfold Spec.inputValue
  rw [h.input]

theorem referenceValue?_eq {stage stage' : String → Option Value} (hasked : spec.Asked text)
    (hstage : ∀ name, spec.Needed name → stage' name = stage name) :
    referenceValue? (spec'.inputValue values) stage' text = referenceValue? (spec.inputValue values) stage text := by
  unfold referenceValue?
  unfold Asked Path.stage? at hasked
  rw [h.inputValue]
  generalize Path.splitHead text = parts at hasked
  obtain ⟨head, rest⟩ := parts
  simp only at hasked ⊢
  by_cases hhead : head = inputHead
  · rw [if_pos hhead, if_pos hhead]
  · rw [if_neg hhead, if_neg hhead, hstage head (hasked head (if_neg hhead))]

theorem stageValue?_eq (n : Nat) (hneeded : spec.Needed name) :
    stageValue? registry spec' (spec'.inputValue values) n name =
      stageValue? registry spec (spec.inputValue values) n name := by
  induction n generalizing name with
  | zero => rfl
  | succ n ih =>
    rw [stageValue?, stageValue?, h.stage? hneeded]
    cases hs : spec.stage? name with
    | none => rw [Option.bind_none, Option.bind_none]
    | some s =>
      have hreferred (entry : String × String) (hpositional : s.positional = false) (hentry : entry ∈ s.input) :
          referenceValue? (spec'.inputValue values) (stageValue? registry spec' (spec'.inputValue values) n) entry.2 =
            referenceValue? (spec.inputValue values) (stageValue? registry spec (spec.inputValue values) n) entry.2 :=
        h.referenceValue?_eq
          (hneeded.asked hs (Stage.mem_wants.mpr ⟨hpositional, List.mem_map_of_mem hentry⟩)) fun name hname => ih hname
      rw [Option.bind_some, Option.bind_some]
      unfold Stage.value?
      cases hpositional : s.positional with
      | true => rw [if_pos rfl, if_pos rfl]
      | false => rw [referred?_congr fun entry hentry => hreferred entry hpositional hentry]

/-- A needed stage has the same value. -/
theorem meaning? (hneeded : spec.Needed name) :
    spec'.meaning? registry values name = spec.meaning? registry values name := by
  refine Option.ext fun v => ⟨fun hv => ?_, fun hv => ?_⟩
  · refine stageValue?_within_meaning registry spec values spec'.stages.length name v ?_
    rw [← h.stageValue?_eq _ hneeded]
    exact hv
  · refine stageValue?_within_meaning registry spec' values spec.stages.length name v ?_
    rw [h.stageValue?_eq _ hneeded]
    exact hv

theorem reference? (hasked : spec.Asked text) :
    spec'.reference? registry values text = spec.reference? registry values text :=
  h.referenceValue?_eq hasked fun _ hname => h.meaning? hname

/-- The output has the same value. -/
theorem evaluate? : spec'.evaluate? registry values = spec.evaluate? registry values := by
  unfold Spec.evaluate?
  rw [h.output, ← OutputShape.tree_value?, ← OutputShape.tree_value?]
  refine Resolvable.value?_congr _ fun text htext => h.reference? (asked_of_output ?_)
  rw [OutputShape.tree_awaited] at htext
  exact List.mem_map_of_mem htext

theorem base? (hasked : spec.Asked text) : spec'.base? registry values text = spec.base? registry values text := by
  unfold Spec.base?
  cases hname : Path.stage? text with
  | none => exact congrArg some h.inputValue
  | some name => exact h.meaning? (hasked name hname)

theorem told (hneeded : spec.Needed name) (hs : spec.stage? name = some s) :
    s.told registry (spec'.reference? registry values) = s.told registry (spec.reference? registry values) :=
  Stage.told_congr fun _ htext => h.reference? (hneeded.asked hs htext)

/-! ### Moments -/

theorem there {ended ended' : String → Prop} (hover : ∀ name, spec.Needed name → ended name → ended' name)
    {a : Option String} (hasked : ∀ text, a = some text → spec.Asked text) (ha : spec.There ended a) :
    spec'.There ended' a := by
  cases a with
  | none => exact trivial
  | some text =>
    intro name hname hstage
    have hneeded := hasked text rfl name hname
    rw [h.stage? hneeded] at hstage
    exact hover name hneeded (ha name hname hstage)

theorem fine {a : Option String} (hasked : ∀ text, a = some text → spec.Asked text) :
    spec.Fine registry values a ↔ spec'.Fine registry values a := by
  cases a with
  | none => exact Iff.rfl
  | some text =>
    show (spec.reference? registry values text).isSome ↔ (spec'.reference? registry values text).isSome
    rw [h.reference? (hasked text rfl)]

/-- A needed stage is over by the same moments. -/
theorem stage_over (hneeded : spec.Needed name) (hover : spec.Over registry values c name) :
    spec'.Over registry values c name := by
  refine Over.induct (P := fun c name => spec.Needed name → spec'.Over registry values c name)
    (fun c name s hs he hneeded => ?_) hover hneeded
  have hasked {a : Option String} (ha : a ∈ s.wants) (text : String) (htext : a = some text) : spec.Asked text :=
    hneeded.asked hs (htext ▸ ha)
  have hthere {c : Nat} {a : Option String} (ha : a ∈ s.wants) (hcame : spec.There
      (fun name => spec.Over registry values c name ∧ (spec.Needed name → spec'.Over registry values c name)) a) :
      spec'.There (spec'.Over registry values c) a :=
    h.there (fun name hname hover => hover.2 hname) (hasked ha) hcame
  rw [Spec.over_iff ((h.stage? hneeded).trans hs)]
  refine he.imp (fun ⟨a, ha⟩ => ⟨a, ha.imp (fun b hb => h.fine (hasked hb)) fun b hb => hthere hb⟩) ?_
  rintro ⟨g, hle, hall, htold⟩
  refine ⟨g, hle, fun a ha => hthere ha (hall a ha), ?_⟩
  rw [h.told hneeded hs]
  exact htold

variable (hasked : ∀ text, some text ∈ wants → spec.Asked text)
include hasked

theorem there_wants {a : Option String} (ha : a ∈ wants) (hcame : spec.There (spec.Over registry values c) a) :
    spec'.There (spec'.Over registry values c) a :=
  h.there (fun _ hname => h.stage_over hname) (fun text htext => hasked text (htext ▸ ha)) hcame

theorem fine_wants {a : Option String} (ha : a ∈ wants) : spec.Fine registry values a ↔ spec'.Fine registry values a :=
  h.fine fun text htext => hasked text (htext ▸ ha)

theorem decides {a : Option String} (hdecides : spec.Decides registry values c wants a) :
    spec'.Decides registry values c wants a :=
  hdecides.imp (fun _ => h.fine_wants hasked) fun _ => h.there_wants hasked

theorem known (hknown : spec.Known registry values c wants) : spec'.Known registry values c wants :=
  Decided.imp (fun _ => h.fine_wants hasked) (fun _ => h.there_wants hasked) hknown

theorem asked : ∀ text, some text ∈ wants → spec'.Asked text :=
  fun text htext name hname => h.needed (hasked text htext name hname)

theorem first (hfirst : spec.First registry values c wants) : spec'.First registry values c wants :=
  ⟨h.known hasked hfirst.1, fun c' hlt hknown => hfirst.2 c' hlt (h.symm.known (h.asked hasked) hknown)⟩

omit hasked

/-! ### Causes -/

/-- What is asked for can fail with the same causes. -/
theorem blames {cause : Cause} (hasked : spec.Asked text) (hblames : spec.Blames registry values text cause) :
    spec'.Blames registry values text cause := by
  induction hblames with
  | missing hname hnone => exact .missing hname ((h.stage? (hasked _ hname)).trans hnone)
  | astray hbase hastray => exact .astray ((h.base? hasked).trans hbase) hastray
  | called hname hs hf =>
    have hneeded := hasked _ hname
    rw [← h.told hneeded hs] at hf
    exact .called hname ((h.stage? hneeded).trans hs) hf
  | heard hname hs hfirst hdecides hblames ih =>
    have hneeded := hasked _ hname
    have hwants : ∀ text, some text ∈ _ → spec.Asked text := fun text => hneeded.asked hs
    exact .heard hname ((h.stage? hneeded).trans hs) (h.first hwants hfirst) (h.decides hwants hdecides)
      (ih (hwants _ hdecides.mem))

end Kindred
end StageGraph.Spec
