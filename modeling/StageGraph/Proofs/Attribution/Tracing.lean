import StageGraph.Proofs.Attribution.Turning
import StageGraph.Proofs.Machine.Strides

/-! Every failure of a run is traced to where it arose.

A machine without pipelines can account for every failure, and so can one in which a document has been built
(`sound_of_build`). Turns keep this up, and so do looks and the clock, for a whole run (`Sound.drive`), and whatever is
done beside it (`Stride.sound`). What a fault has to do with the station that fails with it, with a look-up or with a
stage that failed before, is read off the state in which the station comes to fail (`Falls`): what happens to pipelines
later does not count. So whatever a run fails with has come to the output, unchanged, over stations that each failed
with it in its time, from where it arose (`TracedBack`). The main theorem is `run_failures_traced`. -/
namespace StageGraph.Machine

variable {m : Machine}

/-! ### Runs -/

/-- What goes on between turns, and how time passes, does not matter. -/
theorem Sound.looked (h : m.Sound) (goal : Awaited) : Onward m (m.looked goal) := by
  have hfresh : Onward m m.refreshed := h.same (fun _ => rfl) rfl rfl rfl rfl rfl
  have hread := hfresh.sound.read goal
  have hwake : Onward (m.refreshed.read goal) (m.looked goal) := hread.sound.same (fun _ => rfl) rfl rfl rfl rfl rfl
  exact hfresh.trans (hread.trans hwake)

theorem Sound.advance (h : m.Sound) (choose : Choice) : Onward m (m.advance choose) := by
  by_cases hready : m.ready = []
  · rw [advance_idle hready]
    exact Onward.refl h
  · obtain ⟨k, rest, -, heq⟩ := advance_ready hready choose
    have htaken : Onward m { m with ready := rest } := h.same (fun _ => rfl) rfl rfl rfl rfl rfl
    have hturn := htaken.sound.turn k
    rw [heq]
    exact htaken.trans (hturn.trans (hturn.sound.same (fun _ => rfl) rfl rfl rfl rfl rfl))

/-- A run keeps every failure accounted for, and what it ends with has come about. -/
theorem Sound.drive (choose : Choice) (goal : Awaited) (deadline : Option Nat) (fuel : Nat) :
    ∀ {m : Machine}, m.Sound → Onward m (Machine.drive choose goal deadline fuel m).2 ∧
      ∀ o, (Machine.drive choose goal deadline fuel m).1 = some (.outcome o) →
        (Machine.drive choose goal deadline fuel m).2.standing goal = some o := by
  intro m h
  refine ⟨?_, fun o ho => drive_standing ho⟩
  refine drive_keeps (P := Onward m) (fun hm => ?_) (fun hm => ?_) (fun moment hm => ?_) deadline fuel (Onward.refl h)
  · exact hm.trans (hm.sound.looked goal)
  · exact hm.trans (hm.sound.advance choose)
  · exact hm.trans (hm.sound.same (fun _ => rfl) rfl rfl rfl rfl rfl)

theorem Sound.bindInputs (h : m.Sound) (i : Instance) (values : List Value) : Onward m (m.bindInputs i values) := by
  unfold Machine.bindInputs
  generalize (i.bindings.map Prod.snd).zip values = bound
  induction bound generalizing m with
  | nil => exact Onward.refl h
  | cons entry rest ih =>
    have hfill : Onward m (m.fill entry.1 (.ok entry.2)) := h.fill nofun
    exact hfill.trans (ih hfill.sound)

/-- What a run of an instance fails with: the time is over, the inputs do not fit, or its output failed. -/
theorem Sound.run (h : m.Sound) {p : Nat} {i : Instance} (hi : m.instances[p]? = some i) (choose : Choice)
    (fuel : Nat) (supplied : List (String × Value)) : Onward m (m.run choose fuel p supplied).2 ∧
      ∀ f, (m.run choose fuel p supplied).1 = some (.error f) →
        f = ⟨.timeout i.settings.timeout, none⟩ ∨ matchInputs i.spec supplied = .error f ∨
          (m.run choose fuel p supplied).2.Fails (.output p) f := by
  unfold Machine.run
  rw [hi]
  simp only
  cases hinputs : matchInputs i.spec supplied with
  | error f =>
    refine ⟨h.retire p, fun f' hf' => ?_⟩
    cases hf'
    exact .inr (.inl rfl)
  | ok values =>
    have hbound := h.bindInputs i values
    have hstarted := hbound.trans (hbound.sound.start p)
    obtain ⟨hdriven, hends⟩ := Sound.drive choose (.output p) (some (m.clock + i.settings.patience)) fuel hstarted.sound
    simp only
    generalize Machine.drive choose (.output p) (some (m.clock + i.settings.patience)) fuel
      ((m.bindInputs i values).start p) = driven at hdriven hends ⊢
    obtain ⟨verdict, m'⟩ := driven
    have hover := hdriven.sound.retire p
    refine ⟨hstarted.trans (hdriven.trans hover), fun f hf => ?_⟩
    rcases verdict with - | (o | - | -)
    · cases hf
    · refine .inr (.inr (hover.extends'.fails ?_))
      cases hf
      exact hends _ rfl
    · cases hf
      exact .inl rfl
    · cases hf

/-! ### Failures -/

theorem kept_empty (registry : Registry) : Kept { registry } where
  self hi := by
    obtain ⟨jobs, output, alive, hi⟩ := hi
    cases hi
  elder hi := by
    obtain ⟨jobs, output, alive, hi⟩ := hi
    cases hi
  chain hi := by
    obtain ⟨jobs, output, alive, hi⟩ := hi
    cases hi
  lives hi := by cases hi
  child hi := by
    obtain ⟨jobs, output, alive, hi⟩ := hi
    cases hi

theorem sound_empty (registry : Registry) : Sound { registry } where
  phases ht := by cases ht
  placed ht := by
    obtain ⟨phase, ht⟩ := ht
    cases ht
  apart ht := by
    obtain ⟨phase, ht⟩ := ht
    cases ht
  bounded hs := by
    obtain ⟨p, i, name, ⟨jobs, output, alive, hi⟩, -⟩ := hs
    cases hi
  inputs hi := by
    obtain ⟨jobs, output, alive, hi⟩ := hi
    cases hi
  scopes hi := by
    obtain ⟨jobs, output, alive, hi⟩ := hi
    cases hi
  slots hs := by cases hs
  outputs hi := by cases hi
  kept := kept_empty registry
  quiet ht := by cases ht

/-- A pipeline that is built can account for every failure. -/
theorem sound_of_build {registry : Registry} {document : Value} {settings : Settings} {p : Nat}
    (h : build { registry } document settings = .ok (p, m)) :
    m.Sound ∧ ∃ i, m.instances[p]? = some i ∧ Spec.parse document = .ok i.spec ∧ i.settings = settings := by
  obtain ⟨spec, stages, hspec, hstages, rfl, rfl⟩ := build_eq_ok h
  have hsound : (Machine.assembled { registry } spec { settings } stages).Sound :=
    (sound_empty registry).assembled (functionsOf_eq hstages).1 (fun _ hq => by cases hq)
      ((kept_empty registry).built spec settings stages)
  exact ⟨hsound, _, (assembled_instances spec { settings } stages _).trans (if_pos rfl), hspec, rfl⟩

/-- What is in a slot, or what has become of an output, is traced unless it was left there. -/
theorem Sound.traced (h : m.Sound) {a : Station} {f : Fault} (hf : m.Fails a f) :
    (∃ s, a = .slot s ∧ m.Forsaken [] s f) ∨ m.Traced a f := by
  cases a with
  | slot s => exact (h.slots hf).imp (fun hleft => ⟨s, rfl, hleft⟩) fun hdue => hdue.2.traced hf
  | output p => exact .inr (h.output_traced hf)

/-! ### Courses -/

/-- A child that is started by hand can account for every failure, too. -/
theorem Sound.byHand (h : m.Sound) {p child : Nat} {spec : Spec} {v : Value} {m' : Machine}
    (hspawn : m.spawn (some p) none spec v = .ok (child, m')) : m'.Sound ∧ m.Extends m' := by
  obtain ⟨parent, stages, hparent, hlives, hstages, -, rfl⟩ := spawn_cases hspawn
  have hkept : (m.assembled spec (.under parent none v) stages).Kept :=
    h.kept.made hparent hlives (fun _ hk => by cases hk) spec v stages
  have hassembled := h.assembled (functionsOf_eq hstages).1 (h.scopes (isInstance_of_get hparent)) hkept
  have hstarted := hassembled.start child
  exact ⟨hstarted.sound, (m.assembled_extends _ _ _).trans hstarted.extends'⟩

/-- **Whatever is done, every failure can be accounted for.** -/
theorem Stride.sound {root : Nat} {m m' : Machine} (hstride : Stride root m m') (h : m.Sound) :
    m'.Sound ∧ m.Extends m' := by
  have honward {m' : Machine} (h : Onward m m') : m'.Sound ∧ m.Extends m' := ⟨h.sound, h.extends'⟩
  cases hstride with
  | bind values hi => exact honward (h.bindInputs _ values)
  | start => exact honward (h.start root)
  | look goal => exact honward (h.looked goal)
  | turn choose => exact honward (h.advance choose)
  | pass moment _ => exact honward (h.same (fun _ => rfl) rfl rfl rfl rfl rfl)
  | giveUp p => exact honward (h.retire p)
  | spawn hspawn => exact h.byHand hspawn

/-- A station comes to fail in a state of a course: it had come to nothing in the state before. -/
def Falls (states : List Machine) (m : Machine) (a : Station) (f : Fault) : Prop :=
  m.Fails a f ∧ ∃ before, [before, m] <:+: states ∧ before.outcome? a = none

/-- A fault that arose at a station, or that the station heard of from one that had failed with the very same fault, as
things were when the station came to fail; and so all the way back. -/
inductive TracedBack (states : List Machine) : Station → Fault → Prop
  | arose {m : Machine} {a : Station} {f : Fault} : Falls states m a f → m.Arises a f → TracedBack states a f
  | heard {m : Machine} {a b : Station} {f : Fault} : Falls states m b f → m.Hears a b → m.Fails a f →
    TracedBack states a f → TracedBack states b f

theorem TracedBack.mono {states states' : List Machine} (h : states <:+: states') {a : Station} {f : Fault}
    (ht : TracedBack states a f) : TracedBack states' a f := by
  have hfalls {m : Machine} {a : Station} (hf : Falls states m a f) : Falls states' m a f := by
    obtain ⟨hfails, before, hin, hnone⟩ := hf
    exact ⟨hfails, before, hin.trans h, hnone⟩
  induction ht with
  | arose hf ha => exact .arose (hfalls hf) ha
  | heard hf hh hfails _ ih => exact .heard (hfalls hf) hh hfails (ih hfalls)

theorem Traced.fails {a : Station} {f : Fault} (h : m.Traced a f) : m.Fails a f := by
  cases h with
  | arose hf => exact hf
  | heard hf => exact hf

/-- What is traced in a state is traced back if all that failed before is. -/
theorem Traced.back {before : Machine} {states : List Machine} (he : before.Extends m)
    (hbefore : ∀ a f, f.node.isSome → before.Fails a f → TracedBack states a f) (hlast : [before, m] <:+: states)
    {a : Station} {f : Fault} (h : m.Traced a f) : TracedBack states a f := by
  have hnode := h.node
  -- a station has come to fail in this state, or it had failed before
  have hwhen {b : Station} (hf : m.Fails b f) : Falls states m b f ∨ TracedBack states b f := by
    cases ho : before.outcome? b with
    | none => exact .inl ⟨hf, before, hlast, ho⟩
    | some o =>
      refine .inr (hbefore b f hnode ?_)
      exact ho.trans ((he.outcome ho).symm.trans hf)
  induction h with
  | arose hf ha => exact (hwhen hf).elim (fun hfalls => .arose hfalls ha) id
  | heard hf hh ht ih => exact (hwhen hf).elim (fun hfalls => .heard hfalls hh ht.fails (ih hnode hwhen)) id

/-- **Every failure on a course is traced back**, but for what was left in slots. -/
theorem Course.traced {root : Nat} {start : Machine} {states : List Machine} (h : Course root start states m)
    (hsound : start.Sound) (hfresh : ∀ a, start.outcome? a = none) : m.Sound ∧ ∀ a f, m.Fails a f →
      (∃ s, a = .slot s ∧ m.Forsaken [] s f) ∨ TracedBack states a f := by
  induction h with
  | start =>
    refine ⟨hsound, fun a f hf => ?_⟩
    rw [Fails, hfresh] at hf
    cases hf
  | @stride former m m' hcourse hstride ih =>
    obtain ⟨hm, hformer⟩ := ih
    obtain ⟨hm', he⟩ := hstride.sound hm
    obtain ⟨first, rfl⟩ := hcourse.last
    refine ⟨hm', fun a f hf => (hm'.traced hf).imp_right fun ht => ht.back he (fun b g hnode hg => ?_) ?_⟩
    · rcases hformer b g hg with ⟨s, -, hleft⟩ | hback
      · rw [hleft.lost.1] at hnode
        cases hnode
      · exact hback.mono (List.prefix_append ..).isInfix
    · rw [List.append_assoc]
      exact (List.suffix_append ..).isInfix

/-- Nothing has come about in a pipeline that is built. -/
theorem outcome?_of_build {registry : Registry} {document : Value} {settings : Settings} {p : Nat}
    (h : build { registry } document settings = .ok (p, m)) (a : Station) : m.outcome? a = none := by
  obtain ⟨spec, stages, -, -, rfl, rfl⟩ := build_eq_ok h
  cases a with
  | slot s =>
    show (Machine.assembled { registry } spec { settings } stages).slot s = none
    rw [assembled_slot]
    rfl
  | output q =>
    show (Machine.assembled { registry } spec { settings } stages).standing (.output q) = none
    simp only [standing, assembled_instances]
    split
    · next o ho =>
      split at ho
      · cases ho
      · cases ho
    · rfl

/-- **Every failure of a run is traced to where it arose.** Whatever a run fails with, unless its time is over or its
inputs do not fit, is the fault, with its node, of a station that every station on the way to the output failed with
as well; and so is every other failure of a stage or of an output, whatever pipelines are around it and whatever is done
beside the run, but for what is left in a slot whose pipeline ended or whose task broke down. That a station had reason
to fail was so when it came to fail, before the pipelines were over. The nodes are those of the documents that the specs
are read from. -/
theorem run_failures_traced {registry : Registry} {document : Value} {settings : Settings} {p : Nat}
    (hbuild : build { registry } document settings = .ok (p, m)) (choose : Choice) (fuel : Nat)
    (supplied : List (String × Value)) :
    (∀ document spec, Spec.parse document = .ok spec → spec.Located document) ∧
      ∃ i, m.IsInstance p i ∧ Spec.parse document = .ok i.spec ∧
        (∀ states m', Course p m states m' → ∀ a f, m'.Fails a f →
          (∃ s, a = .slot s ∧ m'.Forsaken [] s f) ∨ TracedBack states a f) ∧
        (∃ states, Course p m states (m.run choose fuel p supplied).2) ∧
        ∀ f, (m.run choose fuel p supplied).1 = some (.error f) →
          f = ⟨.timeout settings.timeout, none⟩ ∨ matchInputs i.spec supplied = .error f ∨
            ∀ states, Course p m states (m.run choose fuel p supplied).2 → TracedBack states (.output p) f := by
  obtain ⟨hsound, i, hi, hparse, rfl⟩ := sound_of_build hbuild
  have htraced {states : List Machine} {m' : Machine} (hcourse : Course p m states m') :=
    (hcourse.traced hsound (outcome?_of_build hbuild)).2
  refine ⟨fun _ _ => Spec.parse_located, i, isInstance_of_get hi, hparse, fun _ _ => htraced,
    (run_strides choose fuel m p supplied).course, fun f hf => ?_⟩
  refine ((hsound.run hi choose fuel supplied).2 f hf).imp_right (Or.imp_right fun hfails states hcourse => ?_)
  exact (htraced hcourse _ _ hfails).resolve_left nofun

/-- Refuses every call. -/
def refuse : Function where
  name := "refuse"
  handler := fun _ => .fail (Failure.ofMessage "no")

/-- Gives what a pipeline of its own gives, in which the only stage is refused. -/
def nest : Function where
  name := "nest"
  handler := fun _ =>
    let inner : Value := .object [("name", .string "inner"), ("func", .string "refuse")]
    match Spec.parse (.object [("stages", .array [inner]), ("output", .string "inner")]) with
    | .ok spec => .spawn spec [.null] fun children => .give (.sequence (children.map .pending))
    | .error f => .fail (Failure.ofFault f)

/-- An output that refers to a stage, which refers to one that fails in a pipeline below. -/
def nested : Value := .object
  [("stages", .array
     [.object [("name", .string "outer"), ("func", .string "nest")],
      .object [("name", .string "later"), ("func", .string "nest"), ("input", .object [("v", .string "outer")])]]),
   ("output", .string "later")]

def nestRegistry : Registry := ⟨[("nest", nest), ("refuse", refuse)]⟩

/-- What the run of a document failed with: the cause, and the name of the stage that it is attributed to. -/
def blamedStage? (built : Except Fault (Nat × Machine)) : Option (Cause × Option String) :=
  match built with
  | .error _ => none
  | .ok (p, m) =>
    match (m.run inOrder 20 p []).1 with
    | some (.error f) => some (f.cause, (f.node.bind (·.field? "name")).bind Value.string?)
    | _ => none

theorem nested_failure_traced : ∃ p m f, build { registry := nestRegistry } nested Settings.default = .ok (p, m) ∧
    (m.run inOrder 20 p []).1 = some (.error f) ∧ f.cause = .execution "no" ∧
    (f.node.bind (·.field? "name")).bind Value.string? = some "inner" ∧
    ∃ states, Course p m states (m.run inOrder 20 p []).2 ∧ TracedBack states (.output p) f := by
  obtain ⟨p, m, hbuild⟩ : ∃ p m, build { registry := nestRegistry } nested Settings.default = .ok (p, m) :=
    ⟨_, _, rfl⟩
  have hblamed : blamedStage? (build { registry := nestRegistry } nested Settings.default) =
      some (.execution "no", some "inner") := by
    decide +kernel
  rw [hbuild] at hblamed
  unfold blamedStage? at hblamed
  simp only at hblamed
  obtain ⟨-, i, -, hparse, -, ⟨states, hcourse⟩, hends⟩ := run_failures_traced hbuild inOrder 20 []
  split at hblamed
  · next f hf =>
    obtain ⟨hcause, hname⟩ := Prod.mk.inj (Option.some.inj hblamed)
    refine ⟨p, m, f, hbuild, hf, hcause, hname, states, hcourse, ?_⟩
    rcases hends f hf with hlate | hinputs | htraced
    · rw [hlate] at hcause
      cases hcause
    · generalize i.spec = spec at hparse hinputs
      cases hparse
      cases hinputs
    · exact htraced states hcourse
  · cases hblamed

end StageGraph.Machine
