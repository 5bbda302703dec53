import StageGraph.Proofs.Timing.CriticalPath

/-! Plans on time.

The stages of a plan keep to the times of a critical path (`Paced`). Then whatever is over in time has a value
(`Paced.meaning_isSome`). References are awaited as links that lead somewhere (`Fair`), and the time of a link is that
of its reference. -/
namespace StageGraph

/-- The time at which a link is told of, with those for the slots. -/
noncomputable def Link.time (slot : Nat → ℕ∞) (l : Link) : ℕ∞ :=
  match l.base with
  | .ok base => latest slot base.awaited
  | .error _ => 0

/-- The time at which something awaited is told of, with those for the slots. -/
noncomputable def Awaited.time (slot : Nat → ℕ∞) : Awaited → ℕ∞
  | .link l => l.time slot
  | .timer due _ | .broken due => due
  | .output _ => 0

/-- The time of a reference, with those of the stages. -/
def Path.time (stage : String → ℕ∞) (text : String) : ℕ∞ :=
  match Path.stage? text with
  | some name => stage name
  | none => 0

theorem latest_stages (stage : String → ℕ∞) (texts : List String) :
    latest stage (texts.filterMap Path.stage?) = latest (Path.time stage) texts := by
  induction texts with
  | nil => rfl
  | cons text rest ih =>
    rw [latest, ← ih]
    cases htext : Path.stage? text with
    | none =>
      rw [List.filterMap_cons_none htext, Path.time, htext]
      exact (max_eq_right zero_le).symm
    | some name =>
      rw [List.filterMap_cons_some htext, latest, Path.time, htext]

namespace Plan

open Machine

variable {plan : Plan} {d time : String → ℕ∞} {m : Machine}

/-! ### Times of a plan -/

/-- The stages of a plan take their times, and its references lead to values. -/
structure Paced (plan : Plan) (d time : String → ℕ∞) : Prop where
  path : plan.spec.CriticalPath d time
  waits {s : Stage} : s ∈ plan.spec.stages → s.Waits plan.registry plan.reference? (d s.name)
  inputs {s : Stage} : s ∈ plan.spec.stages → ∀ text ∈ s.input.map Prod.snd,
    plan.spec.Resolves plan.registry plan.values text
  output : ∀ text ∈ plan.spec.output.paths, plan.spec.Resolves plan.registry plan.values text

theorem mem_stages {k : Nat} {sf : Stage × Function} (hsf : plan.stages[k]? = some sf) : sf.1 ∈ plan.spec.stages := by
  rw [← plan.staged]
  exact List.mem_map_of_mem (List.mem_of_getElem? hsf)

/-- When a stage starts. -/
noncomputable def starts (time : String → ℕ∞) (s : Stage) : ℕ∞ := latest time s.needs

theorem Paced.time_eq (h : plan.Paced d time) {s : Stage} (hs : s ∈ plan.spec.stages) :
    time s.name = starts time s + d s.name := by
  rw [h.path.time_eq plan.names hs, add_comm]
  rfl

/-- A reference that resolves leads to a value once its stage has one. -/
theorem reference?_isSome {text : String} (h : plan.spec.Resolves plan.registry plan.values text)
    (hstage : ∀ name, Path.stage? text = some name → (plan.meaning? name).isSome) :
    (plan.reference? text).isSome := by
  unfold Spec.Resolves at h
  unfold reference? Spec.referenceValue?
  unfold Path.stage? at h hstage
  generalize Path.splitHead text = parts at h hstage ⊢
  obtain ⟨head, rest⟩ := parts
  simp only at h hstage ⊢
  by_cases hhead : head = Spec.inputHead
  · rw [if_pos hhead] at h ⊢
    exact h
  · rw [if_neg hhead] at h hstage ⊢
    obtain ⟨v, hv⟩ := Option.isSome_iff_exists.mp (hstage head rfl)
    rw [hv]
    exact h.2 v hv

/-- **What is over in time has a value.** -/
theorem Paced.meaning_isSome (h : plan.Paced d time) {name : String} (hfinite : time name ≠ ⊤)
    (hname : name ∈ plan.spec.stages.map Stage.name) : (plan.meaning? name).isSome := by
  induction h.path.acc hfinite with
  | intro name _ ih =>
    obtain ⟨s, hs, rfl⟩ := List.mem_map.mp hname
    rw [h.time_eq hs] at hfinite
    have hstarts : starts time s ≠ ⊤ := fun htop => hfinite (by rw [htop, top_add])
    have hd : d s.name ≠ ⊤ := fun htop => hfinite (by rw [htop, add_top])
    have hneeds (entry : String × String) (hentry : entry ∈ s.input) : (plan.reference? entry.2).isSome := by
      have htext : entry.2 ∈ s.input.map Prod.snd := List.mem_map_of_mem hentry
      have hresolves := h.inputs hs entry.2 htext
      refine reference?_isSome hresolves fun other hother => ?_
      have hmem : other ∈ s.needs := List.mem_filterMap.mpr ⟨entry.2, htext, hother⟩
      refine ih other ⟨s, hs, rfl, hmem⟩ (ne_top_of_le_ne_top hstarts (le_latest hmem)) ?_
      rw [Spec.Resolves, hother] at hresolves
      exact hresolves.1
    obtain ⟨given, hgiven⟩ := Option.isSome_iff_exists.mp (referred?_isSome_iff.mpr hneeds)
    obtain ⟨sf, hsf, rfl⟩ : ∃ sf ∈ plan.stages, sf.1 = s := by
      rw [← plan.staged] at hs
      exact List.mem_map.mp hs
    obtain ⟨k, hk⟩ := List.mem_iff_getElem?.mp hsf
    have hwaits := h.waits hs
    obtain ⟨-, -, -, htop | hresult⟩ := hwaits.waits (plan.functions sf hsf) hgiven
    · exact absurd htop hd
    · rw [plan.meaning?_stage hk, Stage.value?, if_neg (by rw [hwaits.named]; decide), plan.functions sf hsf,
        Option.bind_some, hgiven]
      exact hresult

theorem Paced.reference_isSome (h : plan.Paced d time) {text : String}
    (hresolves : plan.spec.Resolves plan.registry plan.values text) (hfinite : Path.time time text ≠ ⊤) :
    (plan.reference? text).isSome := by
  refine reference?_isSome hresolves fun name hname => ?_
  rw [Path.time, hname] at hfinite
  rw [Spec.Resolves, hname] at hresolves
  exact h.meaning_isSome hfinite hresolves.1

/-- An output of which all stages are over in time has a value. -/
theorem Paced.result_isSome (h : plan.Paced d time) (hfinite : latest time plan.spec.output.needs ≠ ⊤) :
    plan.result?.isSome := by
  have hpaths (text : String) (htext : text ∈ plan.spec.output.paths) : (plan.reference? text).isSome := by
    refine h.reference_isSome (h.output text htext) (ne_top_of_le_ne_top hfinite ?_)
    rw [OutputShape.needs, latest_stages]
    exact le_latest htext
  exact OutputShape.value?_isSome_iff.mpr hpaths

/-! ### Links -/

/-- The time of a slot: that of its stage. Inputs are there from the start. -/
def slotTime (plan : Plan) (time : String → ℕ∞) (k : Nat) : ℕ∞ :=
  match plan.stages[k]? with
  | some sf => time sf.1.name
  | none => 0

theorem slotTime_stage (time : String → ℕ∞) {k : Nat} {sf : Stage × Function} (hsf : plan.stages[k]? = some sf) :
    plan.slotTime time k = time sf.1.name := by
  rw [slotTime, hsf]

theorem slotTime_input (time : String → ℕ∞) (k : Nat) : plan.slotTime time (plan.stages.length + k) = 0 := by
  rw [slotTime, List.getElem?_eq_none (Nat.le_add_right _ k)]

/-- A link of a reference that resolves, to the input or to one of several stages. -/
inductive Fair (plan : Plan) (among : List String) : Link → Prop
  | input {path : Path} {blamed : Option Value} :
    ((plan.spec.inputValue plan.values).descend path).isSome → Fair plan among ⟨.ok plan.pendingInput, path, blamed⟩
  | stage {k : Nat} {sf : Stage × Function} {path : Path} {blamed : Option Value} : plan.stages[k]? = some sf →
    sf.1.name ∈ among → (∀ v, plan.meaning? sf.1.name = some v → (v.descend path).isSome) →
      Fair plan among ⟨.ok (.pending k), path, blamed⟩

theorem mem_pendingInput {s : Nat} (hs : s ∈ plan.pendingInput.awaited) :
    ∃ k, k < plan.spec.input.length ∧ s = plan.stages.length + k := by
  have hawaited : plan.pendingInput.awaited = plan.bindings.map Prod.snd :=
    Resolvable.awaitedEntries_pending plan.bindings
  rw [hawaited] at hs
  obtain ⟨⟨name, s⟩, hentry, rfl⟩ := List.mem_map.mp hs
  obtain ⟨k, hk⟩ := List.mem_iff_getElem?.mp hentry
  rw [bindings, numbered_getElem?] at hk
  obtain ⟨name', hname, heq⟩ := Option.map_eq_some_iff.mp hk
  cases heq
  exact ⟨k, (List.getElem?_eq_some_iff.mp hname).1, rfl⟩

theorem link_fair (time : String → ℕ∞) {jobs : List Nat} {output : Output}
    (hm : m.instances = #[plan.atWork jobs output]) (node : Value) (blamed : Option Value) {texts : List String} {text : String} (htext : text ∈ texts)
    (h : plan.spec.Resolves plan.registry plan.values text) :
    plan.Fair (texts.filterMap Path.stage?) (m.link (some 0) node blamed text) ∧
      (m.link (some 0) node blamed text).time (plan.slotTime time) = Path.time time text := by
  have hamong (name : String) (hname : Path.stage? text = some name) : name ∈ texts.filterMap Path.stage? :=
    List.mem_filterMap.mpr ⟨text, htext, hname⟩
  rw [plan.link_eq hm]
  generalize texts.filterMap Path.stage? = among at hamong ⊢
  unfold Spec.Resolves at h
  unfold Path.time
  unfold Path.stage? at h hamong ⊢
  generalize Path.splitHead text = parts at h hamong ⊢
  obtain ⟨head, rest⟩ := parts
  simp only at h hamong ⊢
  by_cases hhead : head = Spec.inputHead
  · rw [if_pos hhead] at h ⊢
    rw [if_pos hhead]
    refine ⟨.input h, le_antisymm (latest_le fun s hs => ?_) zero_le⟩
    obtain ⟨k, -, rfl⟩ := mem_pendingInput hs
    exact le_of_eq (slotTime_input time k)
  · rw [if_neg hhead] at h hamong ⊢
    rw [if_neg hhead]
    rcases plan.lookup_cases head with ⟨-, hmem⟩ | ⟨k, sf, hlookup, hsf, rfl⟩
    · exact absurd h.1 hmem
    · rw [hlookup]
      refine ⟨.stage hsf (hamong _ rfl) h.2, ?_⟩
      show max (plan.slotTime time k) 0 = _
      rw [slotTime_stage time hsf]
      exact max_eq_left zero_le

end Plan
end StageGraph
