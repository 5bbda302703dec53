import StageGraph.Proofs.FanOut.Children

/-! `map` fans out over a list.

A turn that calls `map` starts a child for every item, in order (`Turned.fanned`), and from then on the slot of its
stage says what these children came to (`Pointwise`), whatever else goes on and however long the children take
(`Fanned.stride`). The main theorem is `map_fans_out`. -/
namespace StageGraph.Machine

variable {m m' m₀ : Machine} {root k p : Nat} {t : Task} {spec : Spec} {parent : Instance} {items : List Value}
  {cs : List Nat}

/-- A call of `map` for a stage, with a spec in `params` whose functions are all there, and a list of items. -/
structure Maps (m : Machine) (call : Received) (t : Task) (spec : Spec) (items : List Value) : Prop where
  isTask : m.IsTask call.task t
  function : t.function = ControlFlow.map
  listed : (Fields.get? call.args "items").bind Value.array? = some items
  parsed : Spec.parse ((t.node.field? "params").getD .null) = .ok spec
  known : ∃ stages, m.functionsOf spec = .ok stages

/-! ### The call -/

theorem mapHandler_eq {c : Call} {node : Value} {owner : Owner} (hlisted : (c.arg? "items").bind Value.array? = some items)
    (hstage : c.stage = some node) (howner : c.owner = some owner)
    (hparsed : Spec.parse ((node.field? "params").getD .null) = .ok spec) :
    ControlFlow.mapHandler c = .spawn spec items fun children => .give (.sequence (children.map .pending)) := by
  unfold ControlFlow.mapHandler
  rw [hlisted, hstage, howner]
  simp only [hparsed]

/-- `map` sees its stage and its pipeline. -/
theorem callOf_map (hmap : t.function = ControlFlow.map) (hp : t.pipeline = some p) {i : Instance}
    (hi : m.instances[p]? = some i) (args : Fields) :
    (m.callOf t args).stage = some t.node ∧ (m.callOf t args).owner = some ⟨i.alive, i.settings⟩ := by
  unfold callOf
  rw [hmap, hp]
  refine ⟨rfl, ?_⟩
  show m.owner? p = _
  unfold owner?
  rw [hi]
  rfl

theorem perform_spawn {inputs : List Value} {children : List Nat}
    (h : m.spawnAll t.pipeline (some k) spec inputs = (.ok children, m')) (next : List Promise → Reply) :
    perform k t (.spawn spec inputs next) m = perform k t (next (children.map .held)) m' := by
  rw [perform, if_neg Bool.false_ne_true, h]

/-- The promises of children, before any is kept. -/
theorem children_progress (cs : List Nat) :
    ((Resolvable.sequence ((cs.map Promise.held).map .pending)).map m.promised).progress =
      .parts .array (cs.map fun c => .pending (.output c)) := by
  have hitems : Resolvable.progressOfItems (Resolvable.mapItems m.promised ((cs.map Promise.held).map .pending)) =
      cs.map fun c => Progress.pending (.output c) := by
    induction cs with
    | nil => rfl
    | cons c rest ih =>
      simp only [List.map_cons, Resolvable.mapItems, Resolvable.progressOfItems, ih]
      rfl
  simp only [Resolvable.map, Resolvable.progress, hitems]

theorem promised_parts (cs : List Nat) : List.Forall₂ m.Part cs (cs.map fun c => .pending (.output c)) :=
  List.forall₂_map_right_iff.mpr (List.forall₂_same.mpr fun _ _ => .promised)

/-- Children are started for all items, and asked for. -/
theorem perform_children {i : Instance} {stages : List (Stage × Function)} (ht : m.IsTask k t) (hp : t.pipeline = some p)
    (hmap : t.function = ControlFlow.map) (hi : m.instances[p]? = some i) (hlives : i.alive = true)
    (hstages : m.functionsOf spec = .ok stages) (hstaffed : m.Staffed)
    (hblank : ∀ o, m.slot t.slot = some o → m.Left p o) (phase : Phase) (items : List Value) :
    ∃ cs, (perform k { t with phase := phase } (.spawn spec items fun children => .give (.sequence (children.map .pending)))
        m).Fanned k t p spec i items cs ∧
      (perform k { t with phase := phase } (.spawn spec items fun children => .give (.sequence (children.map .pending)))
        m).Awaits k t p cs := by
  have hparent := isInstance_of_get hi
  obtain ⟨cs, m₁, hspawn, he, hchildren, hslot, -, hdistinct⟩ :=
    spawnAll_children (some k) items hparent (alive_iff.mpr ⟨i, hi, hlives⟩) hstages
  rw [← hp] at hspawn
  have hstaffed₁ : m₁.Staffed := by
    have hdeeds : Deeds (some k) m (m.spawnAll t.pipeline (some k) spec items).2 :=
      spawnAll_deeds false hp items ht
    rw [hspawn] at hdeeds
    exact hstaffed.deeds hdeeds
  have hfanned : m₁.Fanned k t p spec i items cs := by
    refine ⟨he.isTask ht, hp, he.isInstance hparent, hchildren, hdistinct, fun {o} ho => .inr (he.left (hblank o ?_))⟩
    rw [← hslot, ho]
  have hreleased : Deeds none m₁ (m₁.release k (givenChildren (.sequence ((cs.map Promise.held).map .pending)))) :=
    release_deeds k _
  refine ⟨cs, ?_⟩
  rw [perform_spawn (t := { t with phase := phase }) hspawn, perform, children_progress]
  exact (hfanned.deeds hstaffed₁ hreleased nofun).settle (hstaffed₁.deeds hreleased) hmap phase (promised_parts cs)

/-- **A turn that calls `map` starts a child for every item.** -/
theorem Turned.fanned (h : Turned k m m') (hposted : m.Posted none) (hblank : m.Blank none) :
    m'.log = m.log ∨ ∃ call, call.task = k ∧ m'.log = m.log.push call ∧ ∀ t spec items, m'.Maps call t spec items →
      ∃ p parent cs, m'.Fanned k t p spec parent items cs ∧ m'.Awaits k t p cs := by
  have he := h.extends'
  cases h with
  | idle => exact .inl rfl
  | waits _ _ hlook => exact .inl (taken_of_look hlook).log
  | works _ _ hworked => exact .inl hworked.log
  | @calls t₀ p names args args' values bound m₁ _ ht hp halive hprepared hlook _ _ heq hworked =>
    have htaken := taken_of_look hlook
    refine .inr ⟨⟨k, t₀.function.name, t₀.function.recorded, bound⟩, rfl,
      hworked.log.trans (htaken.noted_log k t₀ bound), fun t spec items hmaps => ?_⟩
    obtain ⟨phase, rfl⟩ := hmaps.isTask.eq (he.isTask (isTask_of_get ht))
    have hp : t.pipeline = some p := hp
    obtain ⟨i, hi, hlives⟩ := alive_iff.mp halive
    obtain ⟨stages, hstages⟩ := hmaps.known
    have htake : Deed none m m₁ := .take htaken
    have hnoted : m.Extends (m₁.noted k { t with phase := phase } bound) := htake.extends'.trans (noted_extends ..)
    have hi₁ : m₁.instances[p]? = some i := htaken.instances ▸ hi
    have hreply : t.function.handler (m₁.callOf { t with phase := phase } bound) =
        .spawn spec items fun children => .give (.sequence (children.map .pending)) := by
      obtain ⟨hstage, howner⟩ := callOf_map (t := { t with phase := phase }) hmaps.function hp hi₁ bound
      have hhandler : t.function.handler = ControlFlow.mapHandler := by rw [hmaps.function, ControlFlow.map]
      rw [hhandler]
      exact mapHandler_eq hmaps.listed hstage howner hmaps.parsed
    have hknown : (m₁.noted k { t with phase := phase } bound).functionsOf spec = .ok stages := by
      rw [hnoted.functionsOf, ← he.functionsOf, hstages]
    have hleft (o : Outcome) (ho : m₁.slot t.slot = some o) : m₁.Left p o := by
      rw [htaken.slot] at ho
      exact htake.extends'.left (hblank.left ht (Option.some_ne_none k).symm (preparing_of_prepared? hprepared) hp ho)
    obtain ⟨cs, hfans⟩ := perform_children (hnoted.isTask ⟨phase, ht⟩) hp hmaps.function hi₁ hlives hknown
      ((hposted.staffed.deed htake).noted k { t with phase := phase } bound)
      (fun o ho => (noted_extends ..).left (hleft o ho)) phase items
    rw [heq, hreply]
    exact ⟨p, i, cs, hfans⟩

/-! ### Strides -/

/-- How things stand in a run, and beside it. -/
structure Poised (m : Machine) (root : Nat) : Prop where
  orderly : m.Orderly root
  posted : m.Posted none
  queued : m.Queued none
  blank : m.Blank none
  tidy : m.Tidy

theorem Stride.poised (h : Stride root m m') (hm : m.Poised root) : m'.Poised root := by
  have hsound := hm.orderly.lexical.sound
  have hstep := h.step
  obtain ⟨who, m₁, m₂, hbefore, hkept, hdone, hafter, hkept'⟩ := h.parts hsound hm.orderly.owned
  have hqueued₁ : m₁.Queued who := ⟨fun ht hk hphase => hkept _ hk (hm.queued.waits (hbefore.tasks ▸ ht) nofun hphase)⟩
  have hblank₁ : m₁.Blank none := hm.blank.still hbefore
  have hstaffed₁ := hm.posted.staffed.still hbefore
  obtain ⟨hqueued₂, hblank₂⟩ : m₂.Queued none ∧ m₂.Blank none := by
    rcases hdone with ⟨rfl, hdeeds⟩ | ⟨k, rfl, hturned⟩
    · exact ⟨hqueued₁.deeds hdeeds, hblank₁.deeds hstaffed₁ hdeeds⟩
    · exact ⟨hturned.queued hqueued₁, hturned.blank hstaffed₁ hblank₁⟩
  refine ⟨⟨hstep.scoped hm.orderly.lexical, hstep.owned hsound hm.orderly.owned⟩,
    hstep.posted hsound hm.orderly.owned hm.posted, ⟨fun ht hk hphase => ?_⟩, hblank₂.still hafter, ?_⟩
  · exact hkept' _ (hqueued₂.waits (hafter.tasks ▸ ht) hk hphase)
  · refine hstep.keeps (P := Tidy) Tidy.deed (fun m m' hsame htidy => ?_) hsound hm.orderly.owned hm.tidy
    unfold Tidy
    rw [hsame]
    exact htidy

theorem Fanned.stride (h : m.Fanned k t p spec parent items cs) (hawaits : m.Awaits k t p cs)
    (hmap : t.function = ControlFlow.map) (hm : m.Poised root) (hstride : Stride root m m') :
    m'.Fanned k t p spec parent items cs ∧ m'.Awaits k t p cs := by
  obtain ⟨who, m₁, m₂, hbefore, -, hdone, hafter, -⟩ := hstride.parts hm.orderly.lexical.sound hm.orderly.owned
  have h₁ := h.alike hbefore.extends' hbefore.slot
  have hawaits₁ := hawaits.alike hbefore.extends' (by rw [hbefore.tasks])
  have hstaffed₁ := hm.posted.staffed.still hbefore
  obtain ⟨h₂, hawaits₂⟩ : m₂.Fanned k t p spec parent items cs ∧ m₂.Awaits k t p cs := by
    rcases hdone with ⟨-, hdeeds⟩ | ⟨j, -, hturned⟩
    · exact ⟨h₁.deeds hstaffed₁ hdeeds nofun, hawaits₁.deeds h.pipeline hdeeds⟩
    · exact h₁.turned hawaits₁ hstaffed₁ hmap hturned
  exact ⟨h₂.alike hafter.extends' hafter.slot, hawaits₂.alike hafter.extends' (by rw [hafter.tasks])⟩

theorem poised_of_build {registry : Registry} {document : Value} {settings : Settings}
    (hbuild : build { registry } document settings = .ok (root, m)) : m.Poised root := by
  have horderly := orderly_of_build hbuild
  have hposted := posted_of_build hbuild
  obtain ⟨spec, stages, -, -, rfl, rfl⟩ := build_eq_ok hbuild
  have hunstarted {k : Nat} {t : Task} (ht : (Machine.assembled { registry } spec { settings } stages).tasks[k]? = some t) :
      ∃ args positional, t.phase = .unstarted args positional := by
    rcases assembled_tasks_getElem? ht with hold | ⟨_, _, _, -, -, rfl⟩
    · cases hold
    · exact ⟨_, _, rfl⟩
  have hempty : Tidy { registry } := fun q r hr => nomatch hr
  refine ⟨horderly, hposted, ⟨fun ht _ hphase => ?_⟩, ⟨fun _ _ _ _ ho => ?_⟩, hempty.assembled _ _ _⟩
  · obtain ⟨_, _, hnew⟩ := hunstarted ht
    cases hnew.symm.trans hphase
  · rw [assembled_slot] at ho
    cases ho

/-- Every call of `map` has started a child for every item. -/
theorem Strides.fanned (h : Strides root m₀ m) (hm₀ : m₀.Poised root) (hnone : m₀.log = #[]) :
    m.Poised root ∧ ∀ call ∈ m.log, ∀ t spec items, m.Maps call t spec items →
      ∃ p parent cs, m.Fanned call.task t p spec parent items cs ∧ m.Awaits call.task t p cs := by
  induction h with
  | refl =>
    refine ⟨hm₀, fun call hcall => ?_⟩
    rw [hnone] at hcall
    cases Array.not_mem_empty _ hcall
  | @tail m m' _ hstride ih =>
    obtain ⟨hm, hfanned⟩ := ih
    refine ⟨hstride.poised hm, fun call hcall t spec items hmaps => ?_⟩
    have he := hstride.step.extends' hm.orderly.lexical.sound hm.orderly.owned
    have hold (hcall : call ∈ m.log) : ∃ p parent cs, m'.Fanned call.task t p spec parent items cs ∧
        m'.Awaits call.task t p cs := by
      obtain ⟨t₀, ht₀, -⟩ := hm.posted.called hcall
      obtain ⟨phase, rfl⟩ := (he.isTask (isTask_of_get ht₀)).eq hmaps.isTask
      have hbefore : m.Maps call { t₀ with phase := phase } spec items :=
        ⟨⟨t₀.phase, ht₀⟩, hmaps.function, hmaps.listed, hmaps.parsed, (he.functionsOf spec) ▸ hmaps.known⟩
      obtain ⟨p, parent, cs, hfan, hawaits⟩ := hfanned call hcall _ spec items hbefore
      exact ⟨p, parent, cs, hfan.stride hawaits hmaps.function hm hstride⟩
    obtain ⟨who, m₁, m₂, hbefore, -, hdone, hafter, -⟩ := hstride.parts hm.orderly.lexical.sound hm.orderly.owned
    rcases hdone with ⟨-, hdeeds⟩ | ⟨k, -, hturned⟩
    · refine hold ?_
      rw [← hbefore.log, ← hdeeds.log, ← hafter.log]
      exact hcall
    · rcases hturned.fanned (hm.posted.still hbefore) (hm.blank.still hbefore) with hsame | ⟨call', rfl, hlog, hmade⟩
      · refine hold ?_
        rw [← hbefore.log, ← hsame, ← hafter.log]
        exact hcall
      · rw [hafter.log, hlog, hbefore.log] at hcall
        rcases Array.mem_push.mp hcall with hcall | rfl
        · exact hold hcall
        · have hback : m'.Extends m₂ := extends_same (fun s => (hafter.slot s).symm) hafter.tasks.symm
            hafter.instances.symm hafter.registry.symm
          have hmaps₂ : m₂.Maps call t spec items :=
            ⟨hback.isTask hmaps.isTask, hmaps.function, hmaps.listed, hmaps.parsed, hback.functionsOf spec ▸ hmaps.known⟩
          obtain ⟨p, parent, cs, hfan, hawaits⟩ := hmade t spec items hmaps₂
          exact ⟨p, parent, cs, hfan.alike hafter.extends' hafter.slot, hawaits.alike hafter.extends' (by rw [hafter.tasks])⟩

/-! ### What the stage comes to -/

/-- What the slot of a stage says of the children of its call. -/
structure Pointwise (m : Machine) (t : Task) (p : Nat) (cs : List Nat) : Prop where
  /-- A value is the list of the outputs of all children, in order. -/
  value {v : Value} : m.slot t.slot = some (.ok v) → ∃ values, v = .array values ∧ List.Forall₂ m.Gives cs values
  /-- A failure is that of a child as it is, unless the pipeline is over. In a crowd all children before it have
  succeeded. -/
  failure {f : Fault} : m.slot t.slot = some (.error f) → m.Left p (.error f) ∨ ∃ front c back,
    cs = front ++ c :: back ∧ m.standing (.output c) = some (.error f) ∧ (30 < cs.length → ∀ d ∈ front, ∃ v, m.Gives d v)
  /-- When nobody can move, there is a value just if all children have succeeded. -/
  success : m.Idle → m.alive p = true →
    ((∃ v, m.slot t.slot = some (.ok v)) ↔ ∀ c ∈ cs, ∃ v, m.outputNow? c = some (.ok v))
  /-- When nobody can move and there is no result, some child has not come about, and those before it have succeeded;
  unless they are a crowd, no child has failed. -/
  silence : m.Idle → m.alive p = true → m.slot t.slot = none → (∃ front c back, cs = front ++ c :: back ∧
    (∀ d ∈ front, ∃ v, m.Gives d v) ∧ m.outputNow? c = none) ∧
      (cs.length ≤ 30 → ∀ c ∈ cs, ∀ f, m.outputNow? c ≠ some (.error f))

theorem Gives.now {c : Nat} {v : Value} (h : m.Gives c v) : m.outputNow? c = some (.ok v) := outputNow?_of_standing h

/-- A task that waits, when nobody can move. -/
theorem Awaits.idle (hawaits : m.Awaits k t p cs) (hm : m.Poised root) (hidle : m.Idle) (halive : m.alive p = true)
    (hempty : m.slot t.slot = none) : (∃ front c back, cs = front ++ c :: back ∧ (∀ d ∈ front, ∃ v, m.Gives d v) ∧
      m.outputNow? c = none) ∧ (cs.length ≤ 30 → ∀ c ∈ cs, ∀ f, m.outputNow? c ≠ some (.error f)) := by
  obtain ⟨phase, ht, hwaits⟩ := hawaits
  cases hwaits with
  | finished hover =>
    rcases hover with hfilled | hends
    · rw [hempty] at hfilled
      cases hfilled
    · rw [not_alive_of_ended hends] at halive
      cases halive
  | @settling parts hparts hopen =>
    have hcome {c : Nat} (hc : .pending (.output c) ∈ parts) : m.outputNow? c = none :=
      hidle.no_output hm.queued hm.tidy ht rfl (Progress.mem_awaitedOfAll hc (List.mem_singleton_self _))
    obtain ⟨front, c, back, rfl, hfront, hc, hback⟩ := open_of_gathered hparts hopen
    refine ⟨⟨front, c, back, rfl, hfront, hcome hc⟩, fun hfew d hd f hf => ?_⟩
    have hsucceeds {d : Nat} (hd : ∃ v, m.Gives d v) : m.outputNow? d ≠ some (.error f) := by
      obtain ⟨v, hv⟩ := hd
      rw [hv.now]
      exact nofun
    have hcrowd : Progress.crowded parts = false := Bool.eq_false_iff.mpr fun hmany =>
      absurd ((crowded_iff hparts).mp hmany) (Nat.not_lt.mpr hfew)
    rcases List.mem_append.mp hd with hd | hd
    · exact hsucceeds (hfront d hd) hf
    · rcases List.mem_cons.mp hd with rfl | hd
      · rw [hcome hc] at hf
        cases hf
      · rcases hback hcrowd d hd with hgives | hpending
        · exact hsucceeds hgives hf
        · rw [hcome hpending] at hf
          cases hf

theorem gives_of_mem {values : List Value} (h : List.Forall₂ m.Gives cs values) {c : Nat} (hc : c ∈ cs) :
    ∃ v, m.Gives c v :=
  (exists_matching h hc).imp fun _ => And.right

theorem Fanned.pointwise (h : m.Fanned k t p spec parent items cs) (hawaits : m.Awaits k t p cs) (hm : m.Poised root) :
    m.Pointwise t p cs := by
  have hvalue {v : Value} (hv : m.slot t.slot = some (.ok v)) :
      ∃ values, v = .array values ∧ List.Forall₂ m.Gives cs values := by
    rcases h.slot hv with hsums | ⟨⟨f, hf, -⟩, -⟩
    · cases hsums with
      | all hvalues => exact ⟨_, rfl, hvalues⟩
    · cases hf
  have hfailure {f : Fault} (hf : m.slot t.slot = some (.error f)) : m.Left p (.error f) ∨ ∃ front c back,
      cs = front ++ c :: back ∧ m.standing (.output c) = some (.error f) ∧
        (30 < cs.length → ∀ d ∈ front, ∃ v, m.Gives d v) := by
    rcases h.slot hf with hsums | hleft
    · cases hsums with
      | @one f₀ front back c hcs hfails hfront =>
        -- outputs fail with faults that are attributed already
        have hsame : f₀.blame t.node = f₀ := blame_of_node (hm.orderly.lexical.sound.output_traced hfails).node _
        rw [hsame]
        exact .inr ⟨front, c, back, hcs, hfails, hfront⟩
    · exact .inl hleft
  refine ⟨hvalue, hfailure, fun hidle halive => ⟨fun ⟨v, hv⟩ c hc => ?_, fun hall => ?_⟩, hawaits.idle hm⟩
  · obtain ⟨values, -, hvalues⟩ := hvalue hv
    obtain ⟨v, hv⟩ := gives_of_mem hvalues hc
    exact ⟨v, hv.now⟩
  · cases ho : m.slot t.slot with
    | none =>
      obtain ⟨⟨front, c, back, rfl, -, hnone⟩, -⟩ := hawaits.idle hm hidle halive ho
      obtain ⟨v, hv⟩ := hall c (List.mem_append_right _ List.mem_cons_self)
      cases hnone.symm.trans hv
    | some o =>
      cases o with
      | ok v => exact ⟨v, rfl⟩
      | error f =>
        rcases hfailure ho with ⟨-, hends⟩ | ⟨front, c, back, rfl, hfails, -⟩
        · rw [not_alive_of_ended hends] at halive
          cases halive
        · obtain ⟨v, hv⟩ := hall c (List.mem_append_right _ List.mem_cons_self)
          cases (outputNow?_of_standing hfails).symm.trans hv

/-- **`map` fans out, item by item.** When the function of a stage is `map` and was called in the run of a pipeline that
is built, with a list of items and with a spec in `params` whose functions are all there, it has started one child for
every item, in order, from the spec and with the item as its input, in the scope of the stage. From then on, whatever is
done and however long the children take, the slot of the stage says what they came to: it has a value when all of them
have succeeded, and that is the list of their outputs in order; and otherwise, unless the pipeline ends before, it has
the failure of a child, unchanged. Of at most thirty children that is one that failed when none had failed so far and
nobody could move; of more, it is the first in order that does not succeed. -/
theorem map_fans_out {registry : Registry} {document : Value} {settings : Settings} {m₁ : Machine} {call : Received}
    (hbuild : build { registry } document settings = .ok (root, m₀)) (hstrides : Strides root m₀ m₁)
    (hcall : call ∈ m₁.log) (hmaps : m₁.Maps call t spec items) : ∃ p parent cs, t.pipeline = some p ∧
      m₁.IsInstance p parent ∧ List.Forall₂ (m₁.ChildFor call.task spec parent) cs items ∧ cs.Nodup ∧
        ∀ m, Strides root m₁ m → m.Pointwise t p cs := by
  obtain ⟨hm₁, hfanned⟩ := Strides.fanned hstrides (poised_of_build hbuild) (log_of_build hbuild)
  obtain ⟨p, parent, cs, hfan, hawaits⟩ := hfanned call hcall t spec items hmaps
  refine ⟨p, parent, cs, hfan.pipeline, hfan.isInstance, hfan.children, hfan.distinct, fun m hlater => ?_⟩
  obtain ⟨hm, hfan, hawaits⟩ : m.Poised root ∧ m.Fanned call.task t p spec parent items cs ∧ m.Awaits call.task t p cs := by
    induction hlater with
    | refl => exact ⟨hm₁, hfan, hawaits⟩
    | tail _ hstride ih =>
      obtain ⟨hm, hfan, hawaits⟩ := ih
      exact ⟨hstride.poised hm, hfan.stride hawaits hmaps.function hm hstride⟩
  exact hfan.pointwise hawaits hm

/-- Gives an empty object after a millisecond. -/
def hollow : Function where
  name := "hollow"
  handler _ := .rest 1 (.value (.object []))

/-- A fan-out whose children each look for `v` in their item, and then for `w` in what another stage gives. -/
def seeking : Value := .object
  [("input", .array [.string "items"]),
   ("stages", .array
     [.object [("name", .string "late"), ("func", .string "hollow")],
      .object [("name", .string "all"), ("func", .string "map"), ("input", .object [("items", .string "input.items")]),
        ("params", .object [("output", .array [.string "input.v", .string "late.w"])])]]),
   ("output", .string "all")]

/-- Thirty items that have `v`, and one that has not. -/
def crowd : List Value := List.replicate 30 (.object [("v", .null)]) ++ [.object []]

def fanRegistry : Registry := ⟨[("hollow", hollow), ("map", ControlFlow.map)]⟩

/-- What a poll fails with. -/
def cause? (told : Poll Value) : Option Cause :=
  match told with
  | some (.error f) => some f.cause
  | _ => none

/-- In a crowd a failure waits for its turn: the last child has failed and nobody can move, but the stage has no result
before the first child has. -/
theorem crowd_fails_in_turn : ∃ m₀ m call t spec items p parent cs,
    build { registry := fanRegistry } seeking Settings.default = .ok (0, m₀) ∧ Strides 0 m₀ m ∧ call ∈ m.log ∧
      m.Maps call t spec items ∧ List.Forall₂ (m.ChildFor call.task spec parent) cs items ∧ m.Pointwise t p cs ∧
      m.Idle ∧ m.slot t.slot = none ∧ m.outputNow? 1 = none ∧ cause? (m.outputNow? 31) = some (.missingKey "v") := by
  obtain ⟨m₀, t, spec, hbuild, htask, hmap, hslot, hparsed, hknown⟩ : ∃ m₀ t spec,
      build { registry := fanRegistry } seeking Settings.default = .ok (0, m₀) ∧ m₀.tasks[1]? = some t ∧
        t.function = ControlFlow.map ∧ t.slot = 1 ∧ Spec.parse ((t.node.field? "params").getD .null) = .ok spec ∧
        m₀.functionsOf spec = .ok [] :=
    ⟨_, _, _, rfl, rfl, rfl, rfl, rfl, rfl⟩
  obtain ⟨i, hi⟩ : ∃ i, m₀.instances[0]? = some i := by
    cases hbuild
    exact ⟨_, rfl⟩
  have hstrides : Strides 0 m₀ (drive inOrder (.output 0) none 1 ((m₀.bindInputs i [.array crowd]).start 0)).2 :=
    .head (.bind _ hi) (.head .start (drive_strides inOrder _ none 1 _))
  have he := Reaches.extends' hstrides.reaches (orderly_of_build hbuild)
  obtain ⟨hwho, hlisted, hready, hblocked, hempty, hopen, hfailed⟩ :
      let m := (drive inOrder (.output 0) none 1 ((m₀.bindInputs i [.array crowd]).start 0)).2
      (m.log[1]?).map Received.task = some 1 ∧
        ((m.log[1]?).bind fun call => (Fields.get? call.args "items").bind Value.array?).isSome = true ∧
          m.ready = [] ∧ (∀ k ∈ m.blocked, m.stirred k = false) ∧ (m.slot 1).isSome = false ∧
            (m.outputNow? 1).isSome = false ∧ cause? (m.outputNow? 31) = some (.missingKey "v") := by
    cases hbuild
    cases hi
    decide +kernel
  generalize (drive inOrder (.output 0) none 1 ((m₀.bindInputs i [.array crowd]).start 0)).2 = m
    at hstrides he hwho hlisted hready hblocked hempty hopen hfailed
  obtain ⟨call, hcall, hfirst⟩ := Option.map_eq_some_iff.mp hwho
  rw [hcall, Option.bind_some] at hlisted
  obtain ⟨items, hitems⟩ := Option.isSome_iff_exists.mp hlisted
  have hmaps : m.Maps call t spec items :=
    ⟨hfirst ▸ he.isTask (isTask_of_get htask), hmap, hitems, hparsed, [], (he.functionsOf spec).trans hknown⟩
  have hmem := Array.mem_of_getElem? hcall
  obtain ⟨p, parent, cs, -, -, hchildren, -, hpointwise⟩ := map_fans_out hbuild hstrides hmem hmaps
  refine ⟨m₀, m, call, t, spec, items, p, parent, cs, hbuild, hstrides, hmem, hmaps, hchildren, hpointwise m .refl,
    ⟨hready, hblocked⟩, ?_, Option.isNone_iff_eq_none.mp (Option.isSome_eq_false_iff.mp hopen), hfailed⟩
  rw [hslot]
  exact Option.isNone_iff_eq_none.mp (Option.isSome_eq_false_iff.mp hempty)

end StageGraph.Machine
