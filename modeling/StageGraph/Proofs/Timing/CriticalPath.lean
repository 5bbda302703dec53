import Mathlib.Data.ENat.Lattice
import Mathlib.Data.Set.Finite.List
import Mathlib.Logic.Relation
import Mathlib.Order.FixedPoints
import StageGraph.Proofs.Attribution.Origin

/-! The critical path of a spec.

A stage takes the time of its function, and it starts when all stages that it refers to are over. So it is over at
the end of the longest path that leads to it (`CriticalPath`), and never if it lies on a cycle of references or
reaches one (`Spec.Circular`). Times are in milliseconds from the start of a run, `⊤` for what never comes. -/
namespace StageGraph

/-! ### Times -/

/-- The latest of several times, zero without any. -/
noncomputable def latest {α : Type} (time : α → ℕ∞) : List α → ℕ∞
  | [] => 0
  | a :: rest => max (time a) (latest time rest)

section

variable {α : Type} {time : α → ℕ∞} {l : List α}

theorem le_latest {a : α} (ha : a ∈ l) : time a ≤ latest time l := by
  induction l with
  | nil => cases ha
  | cons b rest ih =>
    rcases List.mem_cons.mp ha with rfl | ha
    · exact le_max_left _ _
    · exact (ih ha).trans (le_max_right _ _)

/-- The latest time is that of somebody, unless it is zero. -/
theorem latest_eq (time : α → ℕ∞) (l : List α) : latest time l = 0 ∨ ∃ a ∈ l, latest time l = time a := by
  induction l with
  | nil => exact .inl rfl
  | cons b rest ih =>
    rw [latest]
    rcases le_total (time b) (latest time rest) with hle | hle
    · rw [max_eq_right hle]
      exact ih.imp_right fun ⟨a, ha, heq⟩ => ⟨a, List.mem_cons_of_mem _ ha, heq⟩
    · rw [max_eq_left hle]
      exact .inr ⟨b, List.mem_cons_self, rfl⟩

theorem latest_le {t : ℕ∞} (h : ∀ a ∈ l, time a ≤ t) : latest time l ≤ t := by
  rcases latest_eq time l with hzero | ⟨a, ha, heq⟩
  · rw [hzero]
    exact zero_le
  · rw [heq]
    exact h a ha

theorem latest_ne_top (h : ∀ a ∈ l, time a ≠ ⊤) : latest time l ≠ ⊤ := by
  rcases latest_eq time l with hzero | ⟨a, ha, heq⟩
  · rw [hzero]
    exact ENat.zero_ne_top
  · rw [heq]
    exact h a ha

theorem latest_congr {time' : α → ℕ∞} (h : ∀ a ∈ l, time a = time' a) : latest time l = latest time' l := by
  induction l with
  | nil => rfl
  | cons a rest ih =>
    rw [latest, latest, h a List.mem_cons_self, ih fun b hb => h b (List.mem_cons_of_mem _ hb)]

theorem latest_mono {time' : α → ℕ∞} (h : time ≤ time') (l : List α) : latest time l ≤ latest time' l := by
  induction l with
  | nil => exact le_rfl
  | cons a rest ih => exact max_le_max (h a) ih

theorem latest_map {β : Type} (g : β → α) (l : List β) : latest time (l.map g) = latest (fun b => time (g b)) l := by
  induction l with
  | nil => rfl
  | cons b rest ih => rw [List.map_cons, latest, latest, ih]

end

namespace Promise

/-- How long a promise takes that is kept by the clock. -/
def delay : Promise → ℕ∞
  | later ms _ => ms
  | broken _ | held _ => 0

end Promise

namespace Reply

/-- How long a reply takes that involves no pipeline. -/
noncomputable def duration : Reply → ℕ∞
  | give r => latest Promise.delay r.awaited
  | rest ms next => ms + next.duration
  | hang => ⊤
  | _ => 0

end Reply

/-- A call takes so long and comes to a value then; one that takes for ever comes to none. -/
def Function.Waits (f : Function) (node : Value) (args : Fields) (d : ℕ∞) : Prop :=
  ∃ bound, f.bindArguments args = .ok bound ∧ (f.handler (f.callFor node bound)).duration = d ∧
    (d = ⊤ ∨ (f.result? node args).isSome)

/-- The function of a stage, which is pure, takes so long with the arguments that the stage has for it, and succeeds
unless it takes for ever. -/
structure Stage.Waits (registry : Registry) (reference : String → Option Value) (s : Stage) (d : ℕ∞) : Prop where
  named : s.positional = false
  pure {f : Function} : registry.get? s.function = some f → f.Pure
  waits {f : Function} {given : Fields} : registry.get? s.function = some f →
    referred? reference s.input = some given → f.Waits s.node (Fields.ofList (s.written ++ given)) d

/-! ### References -/

/-- The stage that a reference names, if it does not name the input. -/
def Path.stage? (text : String) : Option String :=
  let head := (splitHead text).1
  if head = Spec.inputHead then none else some head

/-- The stages that a stage refers to. -/
def Stage.needs (s : Stage) : List String := (s.input.map Prod.snd).filterMap Path.stage?

/-- The stages that an output refers to. -/
def OutputShape.needs (shape : OutputShape) : List String := shape.paths.filterMap Path.stage?

namespace Spec

/-- The references of a spec: those of its stages and those of its output. -/
def reading (spec : Spec) : List String :=
  (spec.stages.flatMap fun s => s.input.map Prod.snd) ++ spec.output.paths

/-- The value of a reference, when all stages have theirs. -/
def reference? (registry : Registry) (spec : Spec) (values : List Value) : String → Option Value :=
  referenceValue? (spec.inputValue values) (spec.meaning? registry values)

/-- A reference leads to a value: to one within the input, or to one within the value of a stage that is declared,
if that stage has a value. -/
def Resolves (registry : Registry) (spec : Spec) (values : List Value) (text : String) : Prop :=
  match Path.stage? text with
  | none => ((spec.inputValue values).descend (Path.parse (Path.splitHead text).2)).isSome
  | some name => name ∈ spec.stages.map Stage.name ∧ ∀ v, spec.meaning? registry values name = some v →
    (v.descend (Path.parse (Path.splitHead text).2)).isSome

/-- A stage refers to another. -/
def Refers (spec : Spec) (name other : String) : Prop := ∃ s ∈ spec.stages, s.name = name ∧ other ∈ s.needs

/-- A stage lies on a cycle of references, or reaches one. -/
def Circular (spec : Spec) (name : String) : Prop :=
  ∃ other, Relation.ReflTransGen spec.Refers name other ∧ Relation.TransGen spec.Refers other other

/-- A stage that the output refers to, or that one of those refers to, directly or not. -/
def Needed (spec : Spec) (name : String) : Prop :=
  ∃ out ∈ spec.output.needs, Relation.ReflTransGen spec.Refers out name

/-- The times at which stages are over that take so long: as long after the last of the stages that they refer to,
and never if references go round. -/
structure CriticalPath (spec : Spec) (d time : String → ℕ∞) : Prop where
  acyclic (s : Stage) : s ∈ spec.stages → ¬spec.Circular s.name → time s.name = d s.name + latest time s.needs
  circular (name : String) : spec.Circular name → time name = ⊤

variable {spec : Spec} {d time : String → ℕ∞} {name : String}

/-! ### Cycles -/

theorem Circular.of_refers {other : String} (h : spec.Circular other) (hrefers : spec.Refers name other) :
    spec.Circular name := by
  obtain ⟨knot, hreach, hcycle⟩ := h
  exact ⟨knot, .head hrefers hreach, hcycle⟩

/-- Who is circular refers to somebody who is. -/
theorem Circular.refers (h : spec.Circular name) : ∃ other, spec.Refers name other ∧ spec.Circular other := by
  obtain ⟨knot, hreach, hcycle⟩ := h
  rcases Relation.ReflTransGen.cases_head hreach with rfl | ⟨other, hrefers, hreach⟩
  · obtain ⟨other, hrefers, hreach⟩ := Relation.TransGen.head'_iff.mp hcycle
    exact ⟨other, hrefers, name, hreach, hcycle⟩
  · exact ⟨other, hrefers, knot, hreach, hcycle⟩

/-- From where references do not go round, they come to an end. -/
theorem acc_of_not_circular (h : ¬spec.Circular name) : Acc (fun a b => spec.Refers b a) name := by
  -- among the stages that are declared, of which there are finitely many, reaching is an order
  let Declared := {other : String // other ∈ spec.stages.map Stage.name ∧ ¬spec.Circular other}
  let reached : Declared → Declared → Prop := fun a b => Relation.TransGen spec.Refers b.1 a.1
  have hfinite : Finite Declared :=
    Set.Finite.subset (List.finite_toSet (spec.stages.map Stage.name)) fun _ h => h.1
  have htrans : IsTrans Declared reached := ⟨fun _ _ _ hab hbc => hbc.trans hab⟩
  have hirrefl : Std.Irrefl reached := ⟨fun a hcycle => a.2.2 ⟨a.1, .refl, hcycle⟩⟩
  have hwf : WellFounded reached := Finite.wellFounded_of_trans_of_irrefl reached
  have hdeclared (a : Declared) : Acc (fun a b => spec.Refers b a) a.1 := by
    induction a using hwf.induction with
    | _ a ih =>
      refine ⟨a.1, fun other hrefers => ?_⟩
      have hother : ¬spec.Circular other := fun hcircular => a.2.2 (hcircular.of_refers hrefers)
      by_cases hmem : other ∈ spec.stages.map Stage.name
      · exact ih ⟨other, hmem, hother⟩ (.single hrefers)
      · refine ⟨other, fun next ⟨s, hs, hname, _⟩ => absurd (hname ▸ List.mem_map_of_mem hs) hmem⟩
  refine ⟨name, fun other hrefers => ?_⟩
  obtain ⟨s, hs, rfl, hmem⟩ := hrefers
  exact (hdeclared ⟨s.name, List.mem_map_of_mem hs, h⟩).inv ⟨s, hs, rfl, hmem⟩

/-- A stage that the output needs is declared, if references resolve. -/
theorem Needed.declared {registry : Registry} {values : List Value} (h : spec.Needed name)
    (hresolves : ∀ text ∈ spec.reading, spec.Resolves registry values text) : name ∈ spec.stages.map Stage.name := by
  have hdeclared {texts : List String} (hread : ∀ text ∈ texts, text ∈ spec.reading)
      (hname : name ∈ texts.filterMap Path.stage?) : name ∈ spec.stages.map Stage.name := by
    obtain ⟨text, htext, hstage⟩ := List.mem_filterMap.mp hname
    have hresolved := hresolves text (hread text htext)
    rw [Resolves, hstage] at hresolved
    exact hresolved.1
  obtain ⟨out, hout, hreach⟩ := h
  rcases Relation.ReflTransGen.cases_tail hreach with rfl | ⟨_, -, s, hs, -, hmem⟩
  · exact hdeclared (fun text htext => List.mem_append_right _ htext) hout
  · exact hdeclared (fun text htext => List.mem_append_left _ (List.mem_flatMap.mpr ⟨s, hs, htext⟩)) hmem

namespace CriticalPath

variable (h : spec.CriticalPath d time) (hnames : (spec.stages.map Stage.name).Nodup)
include h

theorem acc (hfinite : time name ≠ ⊤) : Acc (fun a b => spec.Refers b a) name :=
  acc_of_not_circular fun hcircular => hfinite (h.circular name hcircular)

include hnames in
/-- A stage is over as long after the last of the stages that it refers to, also where references go round. -/
theorem time_eq {s : Stage} (hs : s ∈ spec.stages) : time s.name = d s.name + latest time s.needs := by
  by_cases hcircular : spec.Circular s.name
  · obtain ⟨other, ⟨t, ht, hname, hmem⟩, hother⟩ := hcircular.refers
    obtain rfl : t = s := List.inj_on_of_nodup_map hnames ht hs hname
    have hlatest : latest time t.needs = ⊤ := by
      refine top_le_iff.mp ?_
      rw [← h.circular other hother]
      exact le_latest hmem
    rw [h.circular t.name hcircular, hlatest, add_top]
  · exact h.acyclic s hs hcircular

/-- An output that needs a circular stage never has all of its stages. -/
theorem ends_top (hneeded : spec.Needed name) (hcircular : spec.Circular name) :
    latest time spec.output.needs = ⊤ := by
  obtain ⟨out, hout, hreach⟩ := hneeded
  obtain ⟨knot, hknot, hcycle⟩ := hcircular
  refine top_le_iff.mp ?_
  rw [← h.circular out ⟨knot, hreach.trans hknot, hcycle⟩]
  exact le_latest hout

/-- An output has all of its stages some time, unless it needs one that is circular or takes for ever. -/
theorem ends_ne_top (hneeded : ∀ name, spec.Needed name →
      name ∈ spec.stages.map Stage.name ∧ ¬spec.Circular name ∧ d name ≠ ⊤) :
    latest time spec.output.needs ≠ ⊤ := by
  have hover (name : String) (hname : spec.Needed name) : time name ≠ ⊤ := by
    induction acc_of_not_circular (hneeded name hname).2.1 with
    | intro name _ ih =>
      obtain ⟨hdeclared, hcircular, hd⟩ := hneeded name hname
      obtain ⟨s, hs, rfl⟩ := List.mem_map.mp hdeclared
      obtain ⟨out, hout, hreach⟩ := hname
      rw [h.acyclic s hs hcircular]
      refine WithTop.add_ne_top.mpr ⟨hd, latest_ne_top fun other hother => ?_⟩
      have hrefers : spec.Refers s.name other := ⟨s, hs, rfl, hother⟩
      exact ih other hrefers ⟨out, hout, hreach.tail hrefers⟩
  exact latest_ne_top fun out hout => hover out ⟨out, hout, .refl⟩

end CriticalPath

/-- Times a step further: every stage is over after those that it refers to. -/
noncomputable def pace (spec : Spec) (d : String → ℕ∞) : (String → ℕ∞) →o (String → ℕ∞) where
  toFun time name := match spec.stage? name with
    | some s => d name + latest time s.needs
    | none => 0
  monotone' time time' hle name := by
    dsimp only
    cases spec.stage? name with
    | none => exact le_rfl
    | some s => exact add_le_add_right (latest_mono hle s.needs) _

theorem pace_stage (hnames : (spec.stages.map Stage.name).Nodup) {s : Stage} (hs : s ∈ spec.stages) :
    spec.pace d time s.name = d s.name + latest time s.needs := by
  show (match spec.stage? s.name with | some s' => d s.name + latest time s'.needs | none => 0) = _
  rw [stage?_eq hnames hs]

/-- **Every spec has a critical path**, whatever time its stages take. -/
theorem exists_criticalPath (hnames : (spec.stages.map Stage.name).Nodup) (d : String → ℕ∞) :
    ∃ time, spec.CriticalPath d time := by
  classical
  -- of all times that the pace keeps the greatest, which are infinite wherever nothing else forces them
  refine ⟨(spec.pace d).gfp, fun s hs _ => ?_, fun name hcircular => ?_⟩
  · rw [← pace_stage hnames hs, (spec.pace d).map_gfp]
  · have hle : (fun name => if spec.Circular name then (⊤ : ℕ∞) else 0) ≤ (spec.pace d).gfp := by
      refine (spec.pace d).le_gfp fun name => ?_
      by_cases hname : spec.Circular name
      · obtain ⟨other, ⟨s, hs, rfl, hmem⟩, hother⟩ := hname.refers
        rw [if_pos hname, pace_stage hnames hs]
        refine le_add_left (le_trans ?_ (le_latest hmem))
        rw [if_pos hother]
      · rw [if_neg hname]
        exact zero_le
    refine top_le_iff.mp (le_trans ?_ (hle name))
    show ⊤ ≤ if spec.Circular name then (⊤ : ℕ∞) else 0
    rw [if_pos hcircular]

/-- What gets less along references does not go round. -/
theorem not_circular (among : String → Prop) (rank : String → Nat)
    (hless : ∀ a b, among a → spec.Refers a b → among b ∧ rank b < rank a) (hname : among name) :
    ¬spec.Circular name := by
  rintro ⟨knot, hreach, hcycle⟩
  have hknot : among knot := by
    clear hcycle
    induction hreach with
    | refl => exact hname
    | tail _ hrefers ih => exact (hless _ _ ih hrefers).1
  have hdown {b : String} (hb : Relation.TransGen spec.Refers knot b) : among b ∧ rank b < rank knot := by
    induction hb with
    | single hrefers => exact hless _ _ hknot hrefers
    | tail _ hrefers ih =>
      obtain ⟨hamong, hlt⟩ := hless _ _ ih.1 hrefers
      exact ⟨hamong, hlt.trans ih.2⟩
  exact absurd (hdown hcycle).2 (lt_irrefl _)

end Spec
end StageGraph
