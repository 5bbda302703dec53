import StageGraph.Proofs.Attribution.Inside
import StageGraph.Proofs.Lifetime.Steps
import StageGraph.Rehearsal

/-! Unattributed means timed out.

Reading a document blames a node of it, and a stage whose function is not there is blamed itself (`build_attributed`).
Whatever arises in a run has a node from where it arises, so a run that fails without one has heard of no failure: its
time was over (`Sound.run_ends`). A function that reports the fault of a timeout as its own does not pass for that, since
its stage is blamed. The main theorem is `unattributed_iff_timed_out`. -/
namespace StageGraph.Machine

variable {m m₀ : Machine} {p : Nat}

/-- **A document that cannot be built has a node that is blamed**, whatever functions there are. -/
theorem build_attributed {registry : Registry} {document : Value} {settings : Settings} {f : Fault}
    (h : build { registry } document settings = .error f) : f.node.isSome := by
  rcases build_eq_error h with hspec | ⟨spec, -, hstages⟩
  · obtain ⟨node, hnode, -⟩ := Spec.parse_blames document f hspec
    rw [hnode]
    rfl
  · obtain ⟨s, -, -, rfl⟩ := functionsOf_error hstages
    rfl

/-! ### Runs that are late -/

/-- Waiting is given up when the deadline is there, and what was asked for is not. -/
theorem late_of_drive (choose : Choice) (goal : Awaited) (deadline : Nat) (fuel : Nat) : ∀ {m : Machine},
    (drive choose goal (some deadline) fuel m).1 = some .late →
      deadline ≤ (drive choose goal (some deadline) fuel m).2.clock ∧
        (drive choose goal (some deadline) fuel m).2.standing goal = none := by
  intro m h
  have hends : Concluded goal (some deadline) _ (drive choose goal (some deadline) fuel m).2 := drive_concluded fuel m
  rw [h] at hends
  cases hends with
  | late hstanding hdue hle =>
    cases hdue
    exact ⟨hle, hstanding⟩

/-- The time of a run is over: its inputs fit, and by the clock the bound has passed since it began without the output
having come about. -/
structure TimedOut (i : Instance) (supplied : List (String × Value)) (p : Nat) (before after : Machine) : Prop where
  begun : ∃ values, matchInputs i.spec supplied = .ok values
  elapsed : before.clock + i.settings.patience ≤ after.clock
  unresolved : after.standing (.output p) = none

/-- **How a run fails**: its inputs do not fit, or its output failed, or it is late, and nothing else. -/
theorem Sound.run_ends (h : m.Sound) {i : Instance} (hi : m.instances[p]? = some i) (choose : Choice) (fuel : Nat)
    (supplied : List (String × Value)) {f : Fault} (hf : (m.run choose fuel p supplied).1 = some (.error f)) :
    matchInputs i.spec supplied = .error f ∨ (m.run choose fuel p supplied).2.Fails (.output p) f ∨
      f = ⟨.timeout i.settings.timeout, none⟩ ∧ TimedOut i supplied p m (m.run choose fuel p supplied).2 := by
  unfold Machine.run at hf ⊢
  rw [hi] at hf ⊢
  simp only at hf ⊢
  cases hinputs : matchInputs i.spec supplied with
  | error f' =>
    rw [hinputs] at hf
    cases hf
    exact .inl rfl
  | ok values =>
    rw [hinputs] at hf
    simp only at hf ⊢
    have hbound := h.bindInputs i values
    have hstarted := hbound.trans (hbound.sound.start p)
    obtain ⟨-, hends⟩ := Sound.drive choose (.output p) (some (m.clock + i.settings.patience)) fuel hstarted.sound
    have hlate := late_of_drive choose (.output p) (m.clock + i.settings.patience) fuel
      (m := (m.bindInputs i values).start p)
    generalize Machine.drive choose (.output p) (some (m.clock + i.settings.patience)) fuel
      ((m.bindInputs i values).start p) = driven at hends hlate hf ⊢
    obtain ⟨verdict, m'⟩ := driven
    rcases verdict with - | (o | - | -)
    · cases hf
    · cases hf
      exact .inr (.inl ((retire_standing p p).trans (hends _ rfl)))
    · cases hf
      obtain ⟨helapsed, hnot⟩ := hlate rfl
      exact .inr (.inr ⟨rfl, ⟨values, hinputs⟩, (retire_clock p).symm ▸ helapsed, (retire_standing p p).trans hnot⟩)
    · cases hf

/-- **Unattributed means timed out.** Whatever functions there are and whatever they fail with, a document that cannot be
built has a node that is blamed. And so has every run that fails, of a pipeline as it was built or after whatever was
done with it, however deep below the failure arises, with one exception: the run fails without a node if and only if
its inputs fit and its bound passed before its output came about. What it fails with is then its own timeout. -/
theorem unattributed_iff_timed_out (registry : Registry) (document : Value) (settings : Settings) :
    (∀ f, build { registry } document settings = .error f → f.node.isSome) ∧
      ∀ p m₀, build { registry } document settings = .ok (p, m₀) → ∃ i, m₀.IsInstance p i ∧
        Spec.parse document = .ok i.spec ∧ i.settings = settings ∧
        ∀ m, Reaches p m₀ m → ∀ choose fuel supplied f, (m.run choose fuel p supplied).1 = some (.error f) →
          (f.node = none ↔ TimedOut i supplied p m (m.run choose fuel p supplied).2) ∧
            (f.node = none → f = ⟨.timeout settings.timeout, none⟩) := by
  refine ⟨fun f => build_attributed, fun p m₀ hbuild => ?_⟩
  obtain ⟨-, i, hi, hparse, hsettings⟩ := sound_of_build hbuild
  refine ⟨i, isInstance_of_get hi, hparse, hsettings, fun m hreach choose fuel supplied f hf => ?_⟩
  have hsound : m.Sound := (Reaches.scoped hreach (scoped_of_build hbuild)).sound
  obtain ⟨jobs, output, alive, hget⟩ :=
    (Reaches.extends' hreach (orderly_of_build hbuild)).isInstance (isInstance_of_get hi)
  have hran := (hsound.run hget choose fuel supplied).1.sound
  rcases hsound.run_ends hget choose fuel supplied hf with hinputs | hfails | ⟨rfl, htimed⟩
  · have hnode : f.node ≠ none := by
      rw [matchInputs_node hinputs]
      exact Option.some_ne_none _
    refine ⟨⟨fun hnone => absurd hnone hnode, fun htimed => ?_⟩, fun hnone => absurd hnone hnode⟩
    obtain ⟨values, hvalues⟩ := htimed.begun
    cases hinputs.symm.trans hvalues
  · have hnode : f.node ≠ none := Option.isSome_iff_ne_none.mp (hran.output_traced hfails).node
    refine ⟨⟨fun hnone => absurd hnone hnode, fun htimed => ?_⟩, fun hnone => absurd hnone hnode⟩
    cases htimed.unresolved.symm.trans hfails
  · exact ⟨⟨fun _ => ⟨htimed.begun, htimed.elapsed, htimed.unresolved⟩, fun _ => rfl⟩, fun _ => hsettings ▸ rfl⟩

/-- A pipeline that never comes to an end. -/
def unending : Value := .object
  [("stages", .array [.object [("name", .string "w"), ("func", .string "never")]]), ("output", .string "w")]

/-- What the run of a built pipeline fails with is attributed to nothing. -/
def failsUnattributed (built : Except Fault (Nat × Machine)) : Bool :=
  match built with
  | .error _ => false
  | .ok (p, m) =>
    match (m.run inOrder 5 p []).1 with
    | some (.error f) => f.node.isNone
    | _ => false

theorem unending_timed_out : ∃ p m₀ i f, build { registry := .rehearsal } unending Settings.default = .ok (p, m₀) ∧
    (m₀.run inOrder 5 p []).1 = some (.error f) ∧ f = ⟨.timeout Settings.default.timeout, none⟩ ∧
      TimedOut i [] p m₀ (m₀.run inOrder 5 p []).2 := by
  obtain ⟨p, m₀, hbuild⟩ : ∃ p m₀, build { registry := .rehearsal } unending Settings.default = .ok (p, m₀) := ⟨_, _, rfl⟩
  have hfails : failsUnattributed (build { registry := .rehearsal } unending Settings.default) = true := by
    decide +kernel
  obtain ⟨i, -, -, -, hends⟩ := (unattributed_iff_timed_out .rehearsal unending Settings.default).2 p m₀ hbuild
  rw [hbuild] at hfails
  unfold failsUnattributed at hfails
  simp only at hfails
  split at hfails
  · next f hf =>
    obtain ⟨htimed, htimeout⟩ := hends m₀ .refl inOrder 5 [] f hf
    have hnone : f.node = none := Option.isNone_iff_eq_none.mp hfails
    exact ⟨p, m₀, i, f, hbuild, hf, htimeout hnone, htimed.mp hnone⟩
  · cases hfails

end StageGraph.Machine
