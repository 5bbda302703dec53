import StageGraph.Proofs.Bystanders.Course
import StageGraph.Proofs.Machine.Binding

/-! The moment of the output.

A look at the output finds it when it is decided and not before (`Abides.looked`), and between two looks no moment passes
at which it might have been (`Undecided.pass`). So a run gives the output at the moment at which it is first decided, a
failure being that of a reference that decided then, unless its time is over before that (`drive_judged`). -/
namespace StageGraph
namespace Plan

open Machine Progress

variable {plan : Plan} {m : Machine} {c : Nat} {wants : List (Option String)} {r : Progress Link}

/-- It is decided by some moment what comes of the output, and an outcome that it can have then. -/
structure Judged (plan : Plan) (c : Nat) (o : Outcome) : Prop where
  known : plan.spec.Known plan.registry plan.values c plan.spec.output.wants
  blames {f : Fault} : o = .error f →
    ∃ text, plan.spec.Decides plan.registry plan.values c plan.spec.output.wants (some text) ∧
      plan.spec.Blames plan.registry plan.values text f.cause

/-- A run whose output was looked at and is not decided: unless the look was not over, nothing has come of what is awaited
of it. -/
structure Undecided (plan : Plan) (c : Nat) (m : Machine) : Prop where
  abides : plan.Abides c m
  waits : m.room ≠ 0 → ∃ r, m.instances = #[plan.atWork [] (.linked r)] ∧ r.Sifted ∧ r.outcome? = none ∧
    ∀ l ∈ r.awaited, m.linked l = none

/-! ### Looks -/

/-- What a look leaves of what there is of an output. -/
inductive Collected (plan : Plan) (c : Nat) (wants : List (Option String)) : Progress Link → Prop
  | found {v : Value} : (∀ a ∈ wants, plan.spec.Fine plan.registry plan.values a ∧
      plan.spec.There (plan.spec.Over plan.registry plan.values c) a) → Collected plan c wants (.done (.ok v))
  | failed {f : Fault} {text : String} : plan.spec.Decides plan.registry plan.values c wants (some text) →
      plan.spec.Blames plan.registry plan.values text f.cause → Collected plan c wants (.done (.error f))
  | waits {r : Progress Link} : r.outcome? = none → plan.Collects c wants r → Collected plan c wants r

theorem Collects.look {n : Type → Type} [Monad n] (telling : Telling n) {ask : Link → n (Poll Value)}
    (hask : ∀ a l, plan.Sought a l → telling.holds (ask l) fun t => ∀ o, t = some o → plan.Told c a o)
    (h : plan.Collects c wants r) : telling.holds (r.look ask) (plan.Collected c wants) := by
  cases h with
  | @one a r h =>
    refine telling.mono (look_stands telling hask h) fun r' hr' => ?_
    cases hr' with
    | @done o ho =>
      cases o with
      | ok v =>
        refine .found fun b hb => ?_
        rw [List.mem_singleton.mp hb]
        exact ho.fine
      | error f =>
        obtain ⟨⟨hnot, hcame⟩, text, rfl, hblames⟩ := ho.fails
        exact .failed (.head hnot hcame) hblames
    | pending hp => exact .waits rfl (.one (.pending hp))
  | @many wants whole items h =>
    simp only [Progress.look]
    refine telling.bind (lookAll_stands telling hask (crowded items) h true) fun items' hitems => ?_
    cases hg : gathered items' with
    | none => exact telling.pure (.waits rfl (.many hitems))
    | some o =>
      rw [gathered_eq, crowded, ← hitems.length_eq] at hg
      cases o with
      | ok vs => exact telling.pure (.found (gather_ok_decides (fun _ _ => Told.fine) hitems hg))
      | error f =>
        obtain ⟨a, ha, hdecides⟩ := gather_error_decides (fun _ _ => Told.fine) (fun _ _ hf => hf.fails.1) hitems hg
        obtain ⟨-, text, rfl, hblames⟩ := ha.fails
        exact telling.pure (.failed hdecides hblames)

theorem Collects.later {c' : Nat} (hle : c ≤ c') (h : plan.Collects c wants r) : plan.Collects c' wants r := by
  cases h with
  | one h => exact .one (h.mono fun _ => Told.later hle)
  | many h => exact .many (stands_mono (fun _ _ => Told.later hle) h)

/-- Where all that is awaited of an output is still to come, it is not decided. -/
theorem Collects.undecided (hr : plan.Collects c wants r) (h : plan.Board c m) (hsifted : r.Sifted)
    (hnone : r.outcome? = none) (hwaits : ∀ l ∈ r.awaited, m.linked l = none) {ended : String → Prop}
    (hfilled : ∀ k sf, plan.stages[k]? = some sf → ended sf.1.name → (m.slot k).isSome) :
    ¬Decided (30 < wants.length) (plan.spec.Fine plan.registry plan.values) (plan.spec.There ended) wants := by
  have hsought (items : List (Progress Link)) (hitems : ∀ l ∈ awaitedOfAll items, m.linked l = none) (a : Option String)
      (l : Link) (ha : plan.Sought a l) (hl : l ∈ awaitedOfAll items) :
      ∃ text l', a = some text ∧ plan.Leads text l' ∧ m.linked l' = none := by
    cases a with
    | none => exact ha.elim
    | some text => exact ⟨text, l, rfl, ha, hitems l hl⟩
  cases hr with
  | @one a r hr =>
    cases hr with
    | done ho => cases hnone
    | @pending l hl =>
      exact h.undecided (.cons (.pending hl) .nil) rfl (hsought [.pending l] hwaits) hfilled
  | many hitems => exact h.undecided hitems hsifted.1 (hsought _ hwaits) hfilled

/-- An output before anything of it is looked at. -/
theorem outputLinks_collects {jobs : List Nat} {output : Output} (hm : m.instances = #[plan.atWork jobs output]) :
    plan.Collects c plan.spec.output.wants (m.outputLinks 0 (plan.atWork jobs output)) := by
  have hleads := link_leads hm plan.spec.outputNode (some plan.spec.outputNode)
  show plan.Collects c (plan.spec.output.paths.map some) (plan.spec.output.tree.map _).progress
  generalize plan.spec.output = shape
  have hparts {α : Type} (path : α → String) (l : List α) : List.Forall₂ (Stands (plan.Told c) plan.Sought)
      ((l.map path).map some)
      (l.map fun a => .pending (m.link (some 0) plan.spec.outputNode (some plan.spec.outputNode) (path a))) := by
    rw [List.forall₂_map_left_iff, List.forall₂_map_left_iff, List.forall₂_map_right_iff, List.forall₂_same]
    exact fun a _ => .pending (hleads (path a))
  cases shape with
  | single path => exact .one (.pending (hleads path))
  | list paths =>
    refine .many ?_
    rw [Resolvable.progressOfItems_pending]
    have h := hparts id paths
    rw [List.map_id] at h
    exact h
  | named entries =>
    refine .many ?_
    rw [Resolvable.progressOfEntries_pending]
    exact hparts Prod.snd entries

theorem Abides.alike {m' : Machine} (h : plan.Abides c m) (ha : m.Alike m') : plan.Abides c m' := by
  refine ⟨h.board.alike ha, h.manned.alike ha, ?_, ?_⟩
  · rw [ha.instances]
    exact h.output
  · rw [ha.clock]
    exact h.first

theorem Abides.standing (h : plan.Abides c m) : m.standing (.output 0) = none := by
  obtain ⟨output, hm, houtput⟩ := h.output
  rw [standing_output, hm]
  cases output with
  | known o => exact houtput.elim
  | _ => rfl

theorem Abides.setOutput (h : plan.Abides c m) (hr : plan.Collects c plan.spec.output.wants r) :
    plan.Abides c (m.setOutput 0 (.linked r)) := by
  obtain ⟨output, hm, -⟩ := h.output
  exact ⟨⟨h.board.sized, h.board.inputs, h.board.settled⟩, ⟨h.manned.tasks, h.manned.queued⟩,
    ⟨_, setOutput_instances hm, hr⟩, h.first⟩

/-- An output that comes about is decided, and it is kept if it does not. -/
theorem Abides.lookOutput (h : plan.Abides c m) (hr : plan.Collects c plan.spec.output.wants r) :
    (∃ o, (m.lookOutput 0 r).standing (.output 0) = some o ∧ plan.Judged c o) ∨ plan.Undecided c (m.lookOutput 0 r) := by
  obtain ⟨output, hm, -⟩ := h.output
  have hsees := look_sees linked_sees r
  have hask (a : Option String) (l : Link) (ha : plan.Sought a l) :
      (Telling.keeping (Taken m)).holds (l.look receive) fun t => ∀ o, t = some o → plan.Told c a o := by
    cases a with
    | none => exact ha.elim
    | some text => exact h.board.look_told ha
  have hcollected := (hr.look (Telling.keeping (Taken m)) hask m (Taken.refl m)).1
  have halike := (hsees.taken m).alike
  have hample := hsees.ample m
  rcases lookOutput_eq hm r with ⟨o, ho, hstanding⟩ | ⟨hnone, heq⟩
  · refine .inl ⟨o, hstanding, ?_⟩
    rw [ho] at hcollected
    cases hcollected with
    | found hall => exact ⟨.inl hall, nofun⟩
    | failed hdecides hblames =>
      refine ⟨.inr ⟨_, hdecides⟩, fun hf => ?_⟩
      cases hf
      exact ⟨_, hdecides, hblames⟩
    | waits hnone => cases hnone
  · rw [heq]
    generalize r.look (Link.look receive) m = looked at hcollected halike hample hnone ⊢
    have hcollects : plan.Collects c plan.spec.output.wants looked.1 := by
      generalize looked.1 = r' at hcollected hnone
      cases hcollected with
      | waits _ hcollects => exact hcollects
      | _ => cases hnone
    refine .inr ⟨(h.alike halike).setOutput hcollects, fun hroom => ?_⟩
    have hseen : looked.1 = r.look (m := Id) m.linked := hample hroom
    refine ⟨_, setOutput_instances (halike.instances.trans hm), ?_, hnone, fun l hl => ?_⟩
    · rw [hseen]
      exact look_sifted Telling.plain (fun _ => trivial) r
    · rw [hseen] at hl
      have hlinked : looked.2.linked l = m.linked l := by rw [linked, linked, halike.slot_eq]
      exact hlinked.trans (look_rest r l hl)

theorem Undecided.wake (h : plan.Undecided c m) : plan.Undecided c m.wake := by
  refine ⟨h.abides.wake, fun hroom => ?_⟩
  rw [wake_eq] at hroom ⊢
  exact h.waits hroom

theorem Abides.looked (h : plan.Abides c m) :
    (∃ o, (m.looked (.output 0)).standing (.output 0) = some o ∧ plan.Judged c o) ∨
      plan.Undecided c (m.looked (.output 0)) := by
  have hthere : plan.Abides c m.refreshed := h.alike (refreshed_alike m)
  obtain ⟨output, hm, houtput⟩ := hthere.output
  obtain ⟨r, hr, heq⟩ := looked_eq hm fun o ho => by rw [ho] at houtput; exact houtput
  have hcollects : plan.Collects c plan.spec.output.wants r := by
    rcases hr with rfl | rfl
    · exact houtput
    · exact outputLinks_collects hm
  rw [heq]
  rcases hthere.lookOutput hcollects with ⟨o, ho, hjudged⟩ | hundecided
  · refine .inl ⟨o, ?_, hjudged⟩
    rw [wake_eq]
    exact ho
  · exact .inr hundecided.wake

/-! ### Time -/

/-- Nothing is decided about an output before the next moment. -/
theorem Undecided.first (h : plan.Undecided m.clock m) {moment : Nat} (hroom : m.room ≠ 0) (hidle : Idle m moment) :
    ∀ c < moment, ¬plan.spec.Known plan.registry plan.values c plan.spec.output.wants := by
  intro c hc
  obtain ⟨r, hm, hsifted, hnone, hwaits⟩ := h.waits hroom
  obtain ⟨output, hm', hcollects⟩ := h.abides.output
  have hsame : output = .linked r := by
    have hinstance := Array.singleton_inj.mp (hm'.symm.trans hm)
    exact congrArg Instance.output hinstance
  subst hsame
  exact Collects.undecided hcollects h.abides.board hsifted hnone hwaits fun k sf hsf hover =>
    h.abides.filled hidle hc hsf hover

/-- **Time passes.** A run is where it can be at the next moment, or its time is over. -/
theorem Undecided.pass (h : plan.Undecided m.clock m) {moment : Nat} (hroom : m.room ≠ 0) (hidle : Idle m moment) :
    plan.Abides moment { m with clock := moment } ∧ plan.Abides m.clock { m with clock := moment } := by
  have hfirst := h.first hroom hidle
  have hboard := h.abides.board.later hidle.later
  obtain ⟨output, hm, houtput⟩ := h.abides.output
  refine ⟨⟨⟨hboard.sized, hboard.inputs, hboard.settled⟩, ⟨fun {k sf} hsf => ?_, h.abides.manned.queued⟩,
    ⟨output, hm, ?_⟩, hfirst⟩, ⟨⟨h.abides.board.sized, h.abides.board.inputs, h.abides.board.settled⟩,
    ⟨h.abides.manned.tasks, h.abides.manned.queued⟩, ⟨output, hm, houtput⟩, hfirst⟩⟩
  · obtain ⟨phase, ht, htracks, hfinished⟩ := h.abides.manned.tasks hsf
    exact ⟨phase, ht, h.abides.tracks_pass hidle ht htracks, hfinished⟩
  · cases output with
    | unread => exact trivial
    | linked r => exact Collects.later hidle.later houtput
    | known o => exact houtput

/-! ### The run -/

theorem started_abides (plan : Plan) : plan.Abides 0 plan.started := by
  obtain ⟨slots, hstarted⟩ := plan.started_eq
  have hnone (c : Nat) (hc : c < plan.started.clock) : False := by
    rw [plan.started_clock] at hc
    exact Nat.not_lt_zero c hc
  refine ⟨⟨?_, plan.started_inputs, fun {s o} hs => ⟨?_, fun sf hsf => ?_⟩⟩, ?_, ?_, fun c hc => (hnone c hc).elim⟩
  · rw [plan.started_size]
    exact Nat.le_add_right _ _
  · exact plan.started_course.accord.slots s o hs
  · obtain ⟨k, v, rfl, -, -⟩ := plan.input_of_started hs
    exact absurd (List.getElem?_eq_some_iff.mp hsf).1 (Nat.not_lt.mpr (Nat.le_add_right _ k))
  · exact plan.started_manned fun sf c hc => absurd hc (Nat.not_lt_zero c)
  · exact ⟨.unread, by rw [hstarted], trivial⟩

/-- **A run gives its output at the moment at which it is decided**, a failure being that of a reference that decides at
this moment, and it is late only if nothing is decided in time. -/
theorem drive_judged (choose : Choice) {L : Nat} (hL : 0 < L) (fuel : Nat) :
    ((drive choose (.output 0) (some L) fuel plan.started).1 = some .late →
      ∀ c < L, ¬plan.spec.Known plan.registry plan.values c plan.spec.output.wants) ∧
    ∀ o, (drive choose (.output 0) (some L) fuel plan.started).1 = some (.outcome o) →
      ∃ c < L, plan.spec.First plan.registry plan.values c plan.spec.output.wants ∧ plan.Judged c o := by
  have hnow {m : Machine} {c : Nat} (hwhen : c = m.clock ∨ m.clock = L) (hbefore : m.clock < L) : c = m.clock :=
    hwhen.resolve_right hbefore.ne
  -- at the deadline a run stands where it stood before
  refine drive_rounds (P := fun m => ∃ c < L, plan.Abides c m ∧ (c = m.clock ∨ m.clock = L))
    (Q := fun m => ∃ c < L, plan.Undecided c m ∧ (c = m.clock ∨ m.clock = L)) choose L ?_ ?_ ?_ ?_ ?_ ?_ fuel
    plan.started_course ⟨0, hL, plan.started_abides, .inl plan.started_clock.symm⟩
  · rintro m o hcourse ⟨c, hc, h, hwhen⟩ ho
    rcases h.looked with ⟨o', ho', hjudged⟩ | hundecided
    · obtain rfl : o' = o := Option.some.inj (ho'.symm.trans ho)
      rcases hwhen with rfl | hover
      · exact ⟨_, hc, ⟨hjudged.known, h.first⟩, hjudged⟩
      · exact absurd hjudged.known (h.first c (hover ▸ hc))
    · rw [hundecided.abides.standing] at ho
      cases ho
  · rintro m hcourse ⟨c, hc, h, hwhen⟩ hunread
    rcases h.looked with ⟨o, ho, -⟩ | hundecided
    · rw [hunread.standing] at ho
      cases ho
    · exact ⟨c, hc, hundecided, by rw [hunread.clock]; exact hwhen⟩
  · rintro m ⟨c, hc, h, hwhen⟩
    exact ⟨c, hc, h.abides, hwhen⟩
  · rintro m ⟨c, hc, h, hwhen⟩ hlate c' hc'
    exact h.abides.first c' (hc'.trans_le hlate)
  · rintro m hcourse ⟨c, hc, h, hwhen⟩ hbefore hready
    obtain rfl := hnow hwhen hbefore
    exact ⟨_, hc, h.advance hcourse choose hready, .inl (hcourse.advance choose hready).2.2.1.symm⟩
  · rintro m moment ⟨c, hc, h, hwhen⟩ hbefore hroom hidle hle
    obtain rfl := hnow hwhen hbefore
    obtain ⟨hthere, hover⟩ := h.pass hroom hidle
    rcases Nat.eq_or_lt_of_le hle with rfl | hlt
    · exact ⟨_, hc, hover, .inr rfl⟩
    · exact ⟨_, hlt, hthere, .inl rfl⟩

end Plan
end StageGraph
