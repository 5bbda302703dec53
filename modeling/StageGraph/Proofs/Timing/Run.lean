import StageGraph.Proofs.Attribution.Reading
import StageGraph.Proofs.Dataflow.Run
import StageGraph.Proofs.Machine.Binding
import StageGraph.Proofs.Timing.Course
import StageGraph.Rehearsal

/-! Runs take the time of their critical path.

A run starts on time (`started_punctual`), and every round keeps it there (`drive_onTime`): the output comes about
when it has all of its stages, and until then the clock does not pass that time. So it is late if and only if the
deadline comes first. The main theorem is `run_meets_critical_path`. -/
namespace StageGraph

namespace Plan

open Machine Progress

variable {plan : Plan} {d time : String → ℕ∞} {m : Machine}

/-! ### The output -/

/-- An output that nobody has read yet has all of its stages when it has them all. -/
theorem outputLinks_onTime (hpaced : plan.Paced d time) {jobs : List Nat} {output : Output}
    (hm : m.instances = #[plan.atWork jobs output]) (now : Nat) :
    plan.OutputOnTime time now (.linked (m.outputLinks 0 (plan.atWork jobs output))) := by
  have hawaited : (m.outputLinks 0 (plan.atWork jobs output)).awaited = plan.spec.output.paths.map
      (m.link (some 0) plan.spec.outputNode (some plan.spec.outputNode)) := by
    unfold outputLinks
    rw [Resolvable.progress_awaited, Resolvable.map_awaited]
    exact congrArg _ plan.spec.output.tree_awaited
  have hlink {text : String} (htext : text ∈ plan.spec.output.paths) :=
    link_fair time hm plan.spec.outputNode (some plan.spec.outputNode) htext (hpaced.output text htext)
  have hends : plan.ends time = latest (Link.time (plan.slotTime time))
      (m.outputLinks 0 (plan.atWork jobs output)).awaited := by
    rw [hawaited, latest_map, ends, OutputShape.needs, latest_stages]
    exact latest_congr fun text htext => (hlink htext).2.symm
  rw [OutputOnTime, hends]
  refine ⟨Resolvable.progress_every _ fun l hl => ?_, lasting_latest _ _ _⟩
  change l ∈ (((plan.atWork jobs output).spec.output.tree.map _).awaited) at hl
  rw [← Resolvable.progress_awaited] at hl
  refine ⟨?_, le_latest hl⟩
  have hmem : l ∈ (m.outputLinks 0 (plan.atWork jobs output)).awaited := hl
  rw [hawaited] at hmem
  obtain ⟨text, htext, rfl⟩ := List.mem_map.mp hmem
  exact (hlink htext).1

theorem Punctual.alike {m' : Machine} (h : plan.Punctual time m) (ha : m.Alike m') : plan.Punctual time m' := by
  obtain ⟨htasks, hqueued⟩ := h.manned.alike ha
  refine ⟨h.prompt.alike ha, ?_, hqueued, ?_, ?_⟩
  · rw [ha.clock]
    exact htasks
  · rw [ha.instances, ha.clock]
    exact h.output
  · rw [ha.clock]
    exact h.soon

/-- What there is of the output, kept. -/
theorem Punctual.setOutput (h : plan.Punctual time m) {r : Progress Link}
    (hr : plan.OutputOnTime time m.clock (.linked r)) : plan.Punctual time (m.setOutput 0 (.linked r)) := by
  obtain ⟨output, hm, -⟩ := h.output
  exact ⟨⟨h.prompt.sized, h.prompt.filled, h.prompt.inputs⟩, h.tasks, h.queued, ⟨_, setOutput_instances hm, hr⟩, h.soon⟩

/-- A run whose output has not come about: it is on time, and unless the look was not over, some stage that the output
needs is not over. -/
structure Open (plan : Plan) (time : String → ℕ∞) (m : Machine) : Prop where
  punctual : plan.Punctual time m
  waits : m.room ≠ 0 → ∃ k sf, plan.stages[k]? = some sf ∧ m.slot k = none ∧ time sf.1.name ≤ plan.ends time

/-- An output has come about when it has all of its stages, and not before, or it is awaited. -/
theorem lookOutput_onTime (h : plan.Punctual time m) (hpaced : plan.Paced d time) (haccord : plan.Accord m)
    {r : Progress Link} (hr : plan.OutputOnTime time m.clock (.linked r)) :
    (∃ o, (m.lookOutput 0 r).standing (.output 0) = some o) ∧ plan.ends time ≤ m.clock ∨
      plan.Open time (m.lookOutput 0 r) := by
  obtain ⟨output, hm, -⟩ := h.output
  obtain ⟨hfair, hlasting⟩ := hr
  have hsees := look_sees linked_sees r
  have hleaves := (look_leaves (Telling.keeping (Taken m))
    (fun l hl => (Telling.keeping (Taken m)).mono (h.prompt.look_tells hpaced haccord hl.1) fun told ht =>
      ⟨fun _ => hl, ht.2⟩) r hfair m (Taken.refl m)).1
  have hstale := look_leaves Telling.plain (fun l hl => h.prompt.linked_tells hpaced haccord hl.1) r hfair
  have halike := (hsees.taken m).alike
  have hample := hsees.ample m
  rcases lookOutput_eq hm r with ⟨o, ho, hstanding⟩ | ⟨hnone, heq⟩
  · refine .inl ⟨⟨o, hstanding⟩, hlasting.passed fun l hl => (hleaves.come l hl).resolve_right ?_⟩
    rw [ho]
    exact List.not_mem_nil
  · rw [heq]
    generalize r.look (Link.look receive) m = looked at hleaves halike hample hnone ⊢
    have honTime : plan.OutputOnTime time looked.2.clock (.linked looked.1) := by
      rw [halike.clock]
      exact ⟨hleaves.rest, hlasting.left hleaves.come⟩
    refine .inr ⟨(h.alike halike).setOutput honTime, fun hroom => ?_⟩
    have hwaits : looked.1.awaited ≠ [] := by
      intro hnil
      have hsucceeded := hleaves.waits hnil
      generalize looked.1 = r' at hnone hsucceeded
      cases r' with
      | done o => cases hnone
      | _ => cases hsucceeded
    obtain ⟨l, hl⟩ := List.exists_mem_of_ne_nil _ hwaits
    obtain ⟨hlfair, htime⟩ := every_awaited _ hleaves.rest l hl
    have hseen : looked.1 = r.look (m := Id) m.linked := hample hroom
    rw [hseen] at hl
    obtain ⟨k, sf, hsf, -, hslot, hle⟩ := h.prompt.linked_none hlfair (every_awaited _ hstale.rest l hl)
    exact ⟨k, sf, hsf, (halike.slot k).trans hslot, hle.trans htime⟩

theorem Open.wake (h : plan.Open time m) : plan.Open time m.wake := by
  refine ⟨h.punctual.wake, fun hroom => ?_⟩
  rw [wake_eq] at hroom ⊢
  exact h.waits hroom

theorem looked_onTime (h : plan.Punctual time m) (hpaced : plan.Paced d time) (haccord : plan.Accord m) :
    (∃ o, (m.looked (.output 0)).standing (.output 0) = some o) ∧ plan.ends time ≤ m.clock ∨
      plan.Open time (m.looked (.output 0)) := by
  have hthere : plan.Punctual time m.refreshed := h.alike (refreshed_alike m)
  have haccord' : plan.Accord m.refreshed := haccord.alike (refreshed_alike m)
  obtain ⟨output, hm, houtput⟩ := hthere.output
  obtain ⟨r, hr, heq⟩ := looked_eq hm fun o ho => by rw [ho] at houtput; exact houtput
  have htracks : plan.OutputOnTime time m.refreshed.clock (.linked r) := by
    rcases hr with rfl | rfl
    · exact houtput
    · exact outputLinks_onTime hpaced hm _
  rw [heq]
  rcases lookOutput_onTime hthere hpaced haccord' htracks with ⟨⟨o, ho⟩, hends⟩ | hopen
  · refine .inl ⟨⟨o, ?_⟩, hends⟩
    rw [wake_eq]
    exact ho
  · exact .inr hopen.wake

/-! ### The run -/

/-- **A run is late only if its output is**, and its output comes about only when it has all of its stages. -/
theorem drive_onTime (hpaced : plan.Paced d time) (choose : Choice) (deadline fuel : Nat) {m : Machine}
    (hcourse : plan.Course m) (h : plan.Punctual time m) (hclock : m.clock ≤ deadline) :
    ((drive choose (.output 0) (some deadline) fuel m).1 = some .late → deadline ≤ plan.ends time) ∧
      ∀ o, (drive choose (.output 0) (some deadline) fuel m).1 = some (.outcome o) → plan.ends time ≤ deadline := by
  have hread {m : Machine} (hopen : plan.Open time m) : m.standing (.output 0) = none := by
    obtain ⟨output, hm, houtput⟩ := hopen.punctual.output
    rw [standing_output, hm]
    cases output with
    | known o => exact houtput.elim
    | _ => rfl
  refine drive_rounds (P := fun m => plan.Punctual time m ∧ m.clock ≤ deadline)
    (Q := fun m => plan.Open time m ∧ m.clock ≤ deadline) choose deadline ?_ ?_ (fun h => ⟨h.1.punctual, h.2⟩) ?_ ?_ ?_
    fuel hcourse ⟨h, hclock⟩
  · intro m o hcourse ⟨h, hclock⟩ ho
    rcases looked_onTime h hpaced hcourse.accord with ⟨-, hends⟩ | hopen
    · exact hends.trans (ENat.natCast_le_natCast.mpr hclock)
    · rw [hread hopen] at ho
      cases ho
  · intro m hcourse ⟨h, hclock⟩ hunread
    rcases looked_onTime h hpaced hcourse.accord with ⟨⟨o, ho⟩, -⟩ | hopen
    · rw [hunread.standing] at ho
      cases ho
    · exact ⟨hopen, hunread.clock.trans_le hclock⟩
  · exact fun ⟨hopen, _⟩ hlate => (ENat.natCast_le_natCast.mpr hlate).trans hopen.punctual.soon
  · intro m hcourse ⟨h, hclock⟩ _ hready
    exact ⟨h.advance hpaced hcourse choose hready, (hcourse.advance choose hready).2.2.1.trans_le hclock⟩
  · intro m moment ⟨hopen, _⟩ _ hroom hidle hbefore
    obtain ⟨k, sf, hsf, hslot, hle⟩ := hopen.waits hroom
    exact ⟨hopen.punctual.pass hpaced hidle ((hopen.punctual.moment_le hpaced hidle hsf hslot).trans hle), hbefore⟩

/-! ### The start -/

/-- A run starts on time. -/
theorem started_punctual (plan : Plan) (time : String → ℕ∞) : plan.Punctual time plan.started := by
  obtain ⟨slots, hstarted⟩ := plan.started_eq
  have hmanned : plan.Manned (plan.OnTime time plan.started.clock) plan.started := by
    refine plan.started_manned fun sf => ?_
    show (plan.started.clock : ℕ∞) ≤ _
    rw [plan.started_clock]
    exact zero_le
  refine ⟨⟨?_, fun {s} hs => ?_, plan.started_inputs⟩, hmanned.tasks, hmanned.queued, ?_, ?_⟩
  · rw [plan.started_size]
    exact Nat.le_add_right _ _
  · obtain ⟨o, ho⟩ := Option.isSome_iff_exists.mp hs
    obtain ⟨k, v, rfl, -, -⟩ := plan.input_of_started ho
    rw [slotTime_input]
    exact zero_le
  · exact ⟨.unread, by rw [hstarted], trivial⟩
  · rw [plan.started_clock]
    exact zero_le

end Plan

/-- A bound of so many milliseconds is waited for as long, if the clock reaches it. -/
theorem Settings.patience_eq {settings : Settings} {L : Nat} (hwhole : settings.timeout.nanoseconds = L * 1000000)
    (hreach : L < Word.half * 1000) : settings.patience = L := by
  unfold patience
  simp only [hwhole]
  rw [if_pos (by omega)]
  omega

namespace Machine

/-- With fuel enough, a run gives an outcome. -/
def RunsTo (choose : Choice) (m : Machine) (p : Nat) (supplied : List (String × Value)) (o : Outcome) : Prop :=
  ∃ enough, ∀ fuel, enough ≤ fuel → (m.run choose fuel p supplied).1 = some o

variable {registry : Registry} {document : Value} {settings : Settings} {spec : Spec} {p L : Nat} {m : Machine}
  {supplied : List (String × Value)} {values : List Value} {d time : String → ℕ∞}

/-- **A run takes the time of its critical path**, and every spec has one (`Spec.exists_criticalPath`). Every stage waits
so many milliseconds, and the timeout is `L` milliseconds, which a clock reaches (`Settings.patience`). If the output has
all of its stages before that, the run gives what the spec evaluates to. If it does not, the run times out; so it does
whenever the output needs a stage that reaches a cycle of references. What is declared first, how many stages there are,
and how long stages take that the output does not need, does not matter: the output has all of its stages some time,
unless it needs one that reaches a cycle or that takes for ever. -/
theorem run_meets_critical_path (hparse : Spec.parse document = .ok spec)
    (hbuild : build { registry } document settings = .ok (p, m)) (hinputs : matchInputs spec supplied = .ok values)
    (hwaits : ∀ s ∈ spec.stages, s.Waits registry (spec.reference? registry values) (d s.name))
    (hresolves : ∀ text ∈ spec.reading, spec.Resolves registry values text) (hpath : spec.CriticalPath d time)
    (hwhole : settings.timeout.nanoseconds = L * 1000000) (hreach : L < Word.half * 1000) (choose : Choice) :
    (latest time spec.output.needs < L →
      ∃ v, spec.evaluate? registry values = some v ∧ RunsTo choose m p supplied (.ok v)) ∧
    (L < latest time spec.output.needs → RunsTo choose m p supplied (.error ⟨.timeout settings.timeout, none⟩)) ∧
    ((∃ name, spec.Needed name ∧ spec.Circular name) →
      RunsTo choose m p supplied (.error ⟨.timeout settings.timeout, none⟩)) ∧
    ((∀ name, spec.Needed name → ¬spec.Circular name ∧ d name ≠ ⊤) → latest time spec.output.needs ≠ ⊤) := by
  obtain ⟨plan, rfl, rfl, rfl, rfl, rfl, rfl⟩ :=
    exists_plan (fun s hs f hf => (hwaits s hs).pure hf) hparse hbuild hinputs
  have hpaced : plan.Paced d time := by
    refine ⟨hpath, fun {s} hs => hwaits s hs, fun {s} hs text htext => ?_, fun text htext => ?_⟩
    · exact hresolves text (List.mem_append_left _ (List.mem_flatMap.mpr ⟨s, hs, htext⟩))
    · exact hresolves text (List.mem_append_right _ htext)
  have hpatience : plan.settings.patience = L := Settings.patience_eq hwhole hreach
  obtain ⟨enough, henough⟩ := Plan.drive_ends choose L plan.started plan.started_course
  have hclock : plan.started.clock ≤ L := by
    rw [plan.started_clock]
    exact Nat.zero_le L
  have honTime (fuel : Nat) := Plan.drive_onTime hpaced choose L fuel plan.started_course
    (plan.started_punctual time) hclock
  have hlate (h : L < latest time plan.spec.output.needs) :
      RunsTo choose plan.built 0 supplied (.error ⟨.timeout plan.settings.timeout, none⟩) := by
    refine ⟨enough, fun fuel hfuel => ?_⟩
    rw [run_eq plan hinputs, hpatience]
    rcases henough fuel hfuel with hverdict | ⟨o, hverdict, -⟩
    · rw [hverdict]
      rfl
    · exact absurd ((honTime fuel).2 o hverdict) (not_le_of_gt h)
  refine ⟨fun h => ?_, hlate, fun ⟨name, hname, hcircular⟩ => hlate ?_, fun h => ?_⟩
  · obtain ⟨v, hv⟩ := Option.isSome_iff_exists.mp (hpaced.result_isSome h.ne_top)
    refine ⟨v, hv, enough, fun fuel hfuel => ?_⟩
    rw [run_eq plan hinputs, hpatience]
    rcases henough fuel hfuel with hverdict | ⟨o, hverdict, hvalue⟩
    · exact absurd ((honTime fuel).1 hverdict) (not_le_of_gt h)
    · rw [hv] at hvalue
      rw [hverdict]
      cases o with
      | ok w =>
        cases hvalue
        rfl
      | error f => cases hvalue
  · rw [hpath.ends_top hname hcircular]
    exact ENat.natCast_lt_top L
  · exact hpath.ends_ne_top fun name hname => ⟨hname.declared hresolves, h name hname⟩

/-- A stage that passes a value on. -/
def passing (name needed : String) : Stage where
  name := name
  function := "relay"
  params := []
  input := [("v", needed)]
  positional := false
  node := .object [("name", .string name), ("func", .string "relay"), ("input", .object [("v", .string needed)])]
  inputNode := .object [("v", .string needed)]

/-- A stage that never ends. -/
def endless : Stage where
  name := "n"
  function := "never"
  params := []
  input := []
  positional := false
  node := .object [("name", .string "n"), ("func", .string "never")]
  inputNode := .object [("name", .string "n"), ("func", .string "never")]

/-- Two relays, the first of which needs the second, one that needs itself, and a stage that never ends. -/
def clockwork (output : String) : Spec where
  document := .object
    [("input", .array [.string "x"]),
     ("stages", .array [(passing "b" "a").node, (passing "a" "input.x").node, (passing "c" "c").node, endless.node]),
     ("output", .string output)]
  input := ["x"]
  inputNode := .array [.string "x"]
  stages := [passing "b" "a", passing "a" "input.x", passing "c" "c", endless]
  output := .single output
  outputNode := .object
    [("input", .array [.string "x"]),
     ("stages", .array [(passing "b" "a").node, (passing "a" "input.x").node, (passing "c" "c").node, endless.node]),
     ("output", .string output)]

/-- The registry of the relay and of what never ends. -/
def clockRegistry : Registry := ⟨[("relay", relay), ("never", Rehearsal.never)]⟩

/-- How long the stages take. -/
def clockDelay (name : String) : ℕ∞ := if name = "n" then ⊤ else 5

/-- When the stages are over. -/
def clockTime (name : String) : ℕ∞ := if name = "a" then 5 else if name = "b" then 10 else ⊤

theorem clockwork_parse (output : String) : Spec.parse (clockwork output).document = .ok (clockwork output) := rfl

theorem clockwork_refers {output name other : String} (h : (clockwork output).Refers name other) :
    name = "b" ∧ other = "a" ∨ name = "c" ∧ other = "c" := by
  obtain ⟨s, hs, rfl, hother⟩ := h
  have hb : (passing "b" "a").needs = ["a"] := by decide +kernel
  have ha : (passing "a" "input.x").needs = [] := by decide +kernel
  have hc : (passing "c" "c").needs = ["c"] := by decide +kernel
  simp only [clockwork, List.mem_cons, List.not_mem_nil, or_false] at hs
  rcases hs with rfl | rfl | rfl | rfl
  · rw [hb] at hother
    exact .inl ⟨rfl, List.mem_singleton.mp hother⟩
  · rw [ha] at hother
    cases hother
  · rw [hc] at hother
    exact .inr ⟨rfl, List.mem_singleton.mp hother⟩
  · cases hother

theorem clockwork_circular {output name : String} : (clockwork output).Circular name ↔ name = "c" := by
  constructor
  · intro h
    by_contra hname
    refine Spec.not_circular (· ≠ "c") (fun n => if n = "b" then 1 else 0) ?_ hname h
    intro a b ha hrefers
    rcases clockwork_refers hrefers with ⟨rfl, rfl⟩ | ⟨rfl, -⟩
    · exact ⟨by decide, by decide⟩
    · exact absurd rfl ha
  · rintro rfl
    have hneeds : "c" ∈ (passing "c" "c").needs := by decide +kernel
    exact ⟨"c", .refl, .single ⟨passing "c" "c", by simp [clockwork], rfl, hneeds⟩⟩

theorem clockwork_criticalPath (output : String) : (clockwork output).CriticalPath clockDelay clockTime := by
  have hb : (passing "b" "a").needs = ["a"] := by decide +kernel
  have ha : (passing "a" "input.x").needs = [] := by decide +kernel
  constructor
  · intro s hs hcircular
    simp only [clockwork, List.mem_cons, List.not_mem_nil, or_false] at hs
    rcases hs with rfl | rfl | rfl | rfl
    · rw [hb]
      rfl
    · rw [ha]
      rfl
    · exact absurd (clockwork_circular.mpr rfl) hcircular
    · rfl
  · intro name h
    rw [clockwork_circular.mp h]
    rfl

theorem passing_waits (reference : String → Option Value) (name needed : String) :
    (passing name needed).Waits clockRegistry reference 5 := by
  refine ⟨rfl, fun hf => ?_, fun hf hgiven => ?_⟩
  · cases hf
    exact ⟨rfl, fun c => nofun⟩
  · cases hf
    change referred? reference [("v", needed)] = _ at hgiven
    rw [referred?_cons] at hgiven
    obtain ⟨v, -, hgiven⟩ := Option.bind_eq_some_iff.mp hgiven
    cases hgiven
    exact ⟨_, rfl, rfl, .inr rfl⟩

theorem endless_waits (reference : String → Option Value) : endless.Waits clockRegistry reference ⊤ := by
  refine ⟨rfl, fun hf => ?_, fun hf hgiven => ?_⟩
  · cases hf
    exact ⟨rfl, fun c => trivial⟩
  · cases hf
    cases hgiven
    exact ⟨_, rfl, rfl, .inl rfl⟩

theorem clockwork_waits {output : String} {reference : String → Option Value} : ∀ s ∈ (clockwork output).stages,
    s.Waits clockRegistry reference (clockDelay s.name) := by
  intro s hs
  simp only [clockwork, List.mem_cons, List.not_mem_nil, or_false] at hs
  rcases hs with rfl | rfl | rfl | rfl
  · exact passing_waits ..
  · exact passing_waits ..
  · exact passing_waits ..
  · exact endless_waits _

theorem clockwork_resolves {output : String} (houtput : output = "b" ∨ output = "c") :
    ∀ text ∈ (clockwork output).reading, (clockwork output).Resolves clockRegistry [.integer 7] text := by
  have hname {name : String} (hstage : Path.stage? name = some name)
      (hrest : Path.parse (Path.splitHead name).2 = [])
      (hmem : name ∈ (clockwork output).stages.map Stage.name) :
      (clockwork output).Resolves clockRegistry [.integer 7] name := by
    unfold Spec.Resolves
    rw [hstage]
    refine ⟨hmem, fun v _ => ?_⟩
    rw [hrest]
    rfl
  have hb : (clockwork output).Resolves clockRegistry [.integer 7] "b" :=
    hname (by decide +kernel) (by decide +kernel) (by simp [clockwork, passing])
  have hc : (clockwork output).Resolves clockRegistry [.integer 7] "c" :=
    hname (by decide +kernel) (by decide +kernel) (by simp [clockwork, passing])
  intro text htext
  change text ∈ ["a", "input.x", "c", output] at htext
  simp only [List.mem_cons, List.not_mem_nil, or_false] at htext
  rcases htext with rfl | rfl | rfl | rfl
  · exact hname (by decide +kernel) (by decide +kernel) (by simp [clockwork, passing])
  · rfl
  · exact hc
  · rcases houtput with rfl | rfl
    · exact hb
    · exact hc

theorem clockwork_on_time : ∃ m m' m'',
    build { registry := clockRegistry } (clockwork "b").document ⟨Seconds.ofNat 1⟩ = .ok (0, m) ∧
    build { registry := clockRegistry } (clockwork "b").document ⟨Seconds.ofNat 0⟩ = .ok (0, m') ∧
    build { registry := clockRegistry } (clockwork "c").document ⟨Seconds.ofNat 1⟩ = .ok (0, m'') ∧
    ∀ choose, RunsTo choose m 0 [("x", .integer 7)] (.ok (.integer 7)) ∧
      RunsTo choose m' 0 [("x", .integer 7)] (.error ⟨.timeout (Seconds.ofNat 0), none⟩) ∧
      RunsTo choose m'' 0 [("x", .integer 7)] (.error ⟨.timeout (Seconds.ofNat 1), none⟩) := by
  have hinputs (output : String) : matchInputs (clockwork output) [("x", .integer 7)] = .ok [.integer 7] := rfl
  have hsecond : (Settings.mk (Seconds.ofNat 1)).timeout.nanoseconds = 1000 * 1000000 := by decide +kernel
  have hzero : (Settings.mk (Seconds.ofNat 0)).timeout.nanoseconds = 0 * 1000000 := by decide +kernel
  have hlatest : latest clockTime (clockwork "b").output.needs = 10 := by
    have hneeds : (clockwork "b").output.needs = ["b"] := by decide +kernel
    rw [hneeds]
    rfl
  have hcycle : ∃ name, (clockwork "c").Needed name ∧ (clockwork "c").Circular name :=
    ⟨"c", ⟨"c", by decide +kernel, .refl⟩, clockwork_circular.mpr rfl⟩
  refine ⟨_, _, _, rfl, rfl, rfl, fun choose => ⟨?_, ?_, ?_⟩⟩
  · obtain ⟨v, hv, hrun⟩ := (run_meets_critical_path (clockwork_parse "b") rfl (hinputs "b")
      clockwork_waits (clockwork_resolves (.inl rfl)) (clockwork_criticalPath "b") hsecond (by decide)
      choose).1 (by rw [hlatest]; decide)
    have hvalue : (clockwork "b").evaluate? clockRegistry [.integer 7] = some (.integer 7) := rfl
    rw [hvalue] at hv
    cases hv
    exact hrun
  · exact (run_meets_critical_path (clockwork_parse "b") rfl (hinputs "b")
      clockwork_waits (clockwork_resolves (.inl rfl)) (clockwork_criticalPath "b") hzero (by decide)
      choose).2.1 (by rw [hlatest]; decide)
  · exact (run_meets_critical_path (clockwork_parse "c") rfl (hinputs "c")
      clockwork_waits (clockwork_resolves (.inr rfl)) (clockwork_criticalPath "c") hsecond (by decide)
      choose).2.2.1 hcycle

end Machine
end StageGraph
