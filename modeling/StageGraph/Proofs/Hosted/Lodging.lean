import StageGraph.Proofs.Hosted.Sober
import StageGraph.Proofs.Timing.CriticalPath

/-! A child among others.

A `Lodging` is a pipeline whose input is an object that is given to it, at work in a machine of pure functions beside
others. If its references lead into its input and to its own stages, what others do is nothing to it: its slots hold
what they are meant for, its tasks are on their way to the values of their stages, and none of them is lost (`Lodges`).
So it is after every turn, whoever has it (`Lodges.turn`), and when nobody can move any more, every stage that has a
value has filled its slot (`Lodges.filled`). -/
namespace StageGraph

/-- References lead into the input or to stages that are declared. -/
def Spec.Local (spec : Spec) : Prop :=
  ∀ name ∈ spec.reading.filterMap Path.stage?, name ∈ spec.stages.map Stage.name

instance (spec : Spec) : Decidable spec.Local :=
  inferInstanceAs (Decidable (∀ name ∈ spec.reading.filterMap Path.stage?, name ∈ spec.stages.map Stage.name))

/-- A pipeline with its place in a machine: its number, and those of its first task and of its first slot. -/
structure Lodging where
  plan : Plan
  number : Nat
  firstTask : Nat
  firstSlot : Nat
  /-- The scope around it. -/
  outer : List Nat

namespace Lodging

open Machine

variable (lodging : Lodging)

/-- The object that is given to it. -/
def input : Value := lodging.plan.spec.inputValue lodging.plan.values

/-- The slots of the stages, by name. -/
def stageSlots : List (String × Nat) :=
  (numbered lodging.firstSlot lodging.plan.stages).map fun a => (a.1.1.name, a.2)

/-- The pipeline in the machine. -/
def atWork (output : Output) : Instance where
  spec := lodging.plan.spec
  settings := lodging.plan.settings
  scope := lodging.number :: lodging.outer
  keepers := [lodging.number]
  starter := none
  input := .ready lodging.input
  bindings := []
  stages := lodging.stageSlots
  jobs := []
  output := output

/-- The task of a stage. -/
def task (n : Nat) (sf : Stage × Function) (phase : Phase) : Task where
  function := sf.2
  node := sf.1.node
  inputNode := sf.1.inputNode
  pipeline := some lodging.number
  slot := lodging.firstSlot + n
  phase := phase

/-- What the slots of the stages are meant for. -/
def known (s : Nat) : Option Value :=
  if lodging.firstSlot ≤ s then
    (lodging.plan.stages[s - lodging.firstSlot]?).bind fun sf => lodging.plan.meaning? sf.1.name
  else none

variable {lodging} {m m' : Machine} {n k : Nat} {sf : Stage × Function}

theorem known_stage (hsf : lodging.plan.stages[n]? = some sf) :
    lodging.known (lodging.firstSlot + n) = lodging.plan.meaning? sf.1.name := by
  rw [known, if_pos (Nat.le_add_right _ _), Nat.add_sub_cancel_left, hsf]
  rfl

/-! ### References -/

variable (lodging) in
/-- A link that a reference leads to: into the input, or to the slot of a stage. -/
inductive Leads (text : String) (l : Link) : Prop
  | input : Path.stage? text = none → l.base = .ok (.ready lodging.input) →
    l.path = Path.parse (Path.splitHead text).2 → Leads text l
  | stage {n : Nat} {sf : Stage × Function} : Path.stage? text = some sf.1.name → lodging.plan.stages[n]? = some sf →
    l.base = .ok (.pending (lodging.firstSlot + n)) → l.path = Path.parse (Path.splitHead text).2 → Leads text l

/-- The value of a reference, with the values of the stages. -/
theorem referenceValue?_eq (input : Value) (stage : String → Option Value) (text : String) :
    Spec.referenceValue? input stage text = ((match Path.stage? text with
      | none => some input
      | some name => stage name).bind fun v => v.descend (Path.parse (Path.splitHead text).2)) := by
  unfold Spec.referenceValue? Path.stage?
  generalize Path.splitHead text = parts
  obtain ⟨head, rest⟩ := parts
  simp only
  split <;> rfl

theorem Leads.value? {text : String} {l : Link} (h : lodging.Leads text l) :
    l.value? lodging.known = lodging.plan.reference? text := by
  rw [Plan.reference?, referenceValue?_eq]
  unfold Link.value?
  cases h with
  | input htext hbase hpath =>
    rw [htext, hbase, hpath]
    exact Resolvable.reached?_ready _ _
  | stage htext hsf hbase hpath =>
    rw [htext, hbase, hpath]
    refine (Resolvable.reached?_pending _ _).trans ?_
    rw [known_stage hsf]

/-- A link asks for the slots of stages alone. -/
theorem Leads.slots {text : String} {l : Link} (h : lodging.Leads text l) {s : Nat} (hs : s ∈ l.slots) :
    ∃ n sf, lodging.plan.stages[n]? = some sf ∧ s = lodging.firstSlot + n := by
  unfold Link.slots at hs
  cases h with
  | input htext hbase hpath =>
    rw [hbase] at hs
    cases hs
  | stage htext hsf hbase hpath =>
    rw [hbase] at hs
    exact ⟨_, _, hsf, List.mem_singleton.mp hs⟩

/-- A reference that has a value is decided when the stages that have one have filled their slots. -/
theorem Leads.decided {text : String} {l : Link} (h : lodging.Leads text l) {stage : String → Option Value}
    (hvalue : (Spec.referenceValue? lodging.input stage text).isSome)
    (hfilled : ∀ n sf, lodging.plan.stages[n]? = some sf → (stage sf.1.name).isSome →
      (m.slot (lodging.firstSlot + n)).isSome) : (m.linked l).isSome := by
  rw [referenceValue?_eq] at hvalue
  cases h with
  | input htext hbase hpath => exact linked_isSome hbase nofun
  | @stage n sf htext hsf hbase hpath =>
    refine linked_isSome hbase fun s hs => ?_
    rw [List.mem_singleton.mp hs]
    refine hfilled n sf hsf ?_
    rw [htext] at hvalue
    obtain ⟨v, hv⟩ := Option.isSome_iff_exists.mp hvalue
    obtain ⟨w, hw, -⟩ := Option.bind_eq_some_iff.mp hv
    exact Option.isSome_iff_exists.mpr ⟨w, hw⟩

/-- Names of stages lead to their slots. -/
theorem lookup_stageSlots {name : String} (hname : name ∈ lodging.plan.spec.stages.map Stage.name) :
    ∃ n sf, List.lookup name lodging.stageSlots = some (lodging.firstSlot + n) ∧
      lodging.plan.stages[n]? = some sf ∧ sf.1.name = name := by
  have hnames : lodging.stageSlots = numbered lodging.firstSlot (lodging.plan.spec.stages.map Stage.name) := by
    rw [stageSlots, ← lodging.plan.staged, List.map_map, numbered_map]
    rfl
  cases hs : List.lookup name lodging.stageSlots with
  | none =>
    rw [hnames] at hs
    exact absurd hname (lookup_numbered_none hs)
  | some s =>
    rw [hnames] at hs
    obtain ⟨hle, hget⟩ := lookup_numbered hs
    rw [← Plan.stages_getElem?] at hget
    obtain ⟨sf, hsf, hsame⟩ := Option.map_eq_some_iff.mp hget
    exact ⟨s - lodging.firstSlot, sf, by rw [Nat.add_sub_cancel' hle], hsf, hsame⟩

/-- References are looked up within the pipeline, whatever is around it. -/
theorem link_leads (hlocal : lodging.plan.spec.Local) {output : Output}
    (hm : m.instances[lodging.number]? = some (lodging.atWork output)) (node : Value) (blamed : Option Value)
    {text : String} (htext : text ∈ lodging.plan.spec.reading) :
    lodging.Leads text (m.link (some lodging.number) node blamed text) := by
  have hlink (base : Resolvable Nat) (hhead : m.head? (lodging.atWork output) (Path.splitHead text).1 = some base) :
      m.link (some lodging.number) node blamed text =
        { base := .ok base, path := Path.parse (Path.splitHead text).2, blamed } := by
    unfold link
    rw [Option.bind_some, hm]
    simp only [show (lodging.atWork output).alive = true from rfl, if_true]
    rw [hhead]
  by_cases hhead : (Path.splitHead text).1 = Spec.inputHead
  · have hstage : Path.stage? text = none := if_pos hhead
    rw [hlink (.ready lodging.input) (if_pos hhead)]
    exact .input hstage rfl rfl
  · have hstage : Path.stage? text = some (Path.splitHead text).1 := if_neg hhead
    obtain ⟨n, sf, hlookup, hsf, hname⟩ := lookup_stageSlots (hlocal _ (List.mem_filterMap.mpr ⟨text, htext, hstage⟩))
    have hfound : m.stageSlot? (Path.splitHead text).1 (lodging.atWork output).scope = some (lodging.firstSlot + n) := by
      show m.stageSlot? _ (lodging.number :: lodging.outer) = _
      rw [stageSlot?, hm]
      simp only [show (lodging.atWork output).alive = true from rfl, if_true,
        show (lodging.atWork output).stages = lodging.stageSlots from rfl, hlookup]
    rw [hlink (.pending (lodging.firstSlot + n)) (by rw [head?, if_neg hhead, hfound]; rfl)]
    exact .stage (hstage.trans (congrArg some hname.symm)) hsf rfl rfl

/-! ### Tasks -/

variable (lodging) in
/-- What the task of a stage is about. It awaits the references of its stage, and time. -/
def aim (sf : Stage × Function) : Aim where
  known := lodging.known
  among
    | .link l => ∃ entry ∈ sf.1.input, lodging.Leads entry.2 l
    | .timer _ _ => True
    | .broken _ | .output _ => False
  names := sf.1.args.map Prod.fst
  given := lodging.plan.arguments? sf.1
  value := lodging.plan.meaning? sf.1.name

variable (lodging) in
/-- A phase of the task of a stage, on the way to the value of the stage. -/
def Fits (n : Nat) (sf : Stage × Function) : Phase → Prop
  | .unstarted args positional => args = sf.1.args ∧ positional = sf.1.positional
  | phase => phase.Comes (lodging.aim sf) (lodging.task n sf .finished) ∧ phase.Open

variable (lodging) in
/-- What is known of the output. It is not decided. -/
def Knows : Output → Prop
  | .unread => True
  | .linked r => r.value? (Link.value? lodging.known) = lodging.plan.result? ∧
    r.every (fun _ => True) fun l => ∃ text ∈ lodging.plan.spec.output.paths, lodging.Leads text l
  | .known _ => False

variable (lodging) in
/-- A pipeline at work in a machine: it lives and its output is open, the slots of its stages hold what they are meant
for, and its tasks are on their way, wait in a queue or have filled their slots. -/
structure Lodges (m : Machine) : Prop where
  sober : m.Sober
  home : ∃ output, m.instances[lodging.number]? = some (lodging.atWork output) ∧ lodging.Knows output
  slots {n : Nat} {sf : Stage × Function} : lodging.plan.stages[n]? = some sf →
    Agrees lodging.known (lodging.firstSlot + n) (m.slot (lodging.firstSlot + n))
  tasks {n : Nat} {sf : Stage × Function} : lodging.plan.stages[n]? = some sf →
    ∃ phase, m.tasks[lodging.firstTask + n]? = some (lodging.task n sf phase) ∧ lodging.Fits n sf phase ∧
      (0 < phase.rank → lodging.firstTask + n ∈ m.ready ++ m.blocked) ∧
      (phase = .finished → (m.slot (lodging.firstSlot + n)).isSome)

theorem mem_reading {entry : String × String} (hsf : lodging.plan.stages[n]? = some sf) (hentry : entry ∈ sf.1.input) :
    entry.2 ∈ lodging.plan.spec.reading := by
  refine List.mem_append_left _ (List.mem_flatMap.mpr ⟨sf.1, ?_, List.mem_map_of_mem hentry⟩)
  rw [← lodging.plan.staged]
  exact List.mem_map_of_mem (List.mem_of_getElem? hsf)

theorem Lodges.fair (h : lodging.Lodges m) (sf : Stage × Function) : (lodging.aim sf).Fair m where
  plain {a} ha := by
    cases a with
    | broken due => exact ha
    | output p => exact ha
    | _ => trivial
  timer _ _ := trivial
  agrees {a} ha s hs := by
    cases a with
    | link l =>
      obtain ⟨entry, -, hleads⟩ := ha
      obtain ⟨n, sg, hsg, rfl⟩ := hleads.slots hs
      exact h.slots hsg
    | _ => cases hs

/-- A stage whose arguments are not written as a list has the value of its call. -/
theorem calls_of_listed (hsf : lodging.plan.stages[n]? = some sf) (hpositional : sf.1.positional = false)
    (phase : Phase) : (lodging.aim sf).Calls (lodging.task n sf phase) :=
  Plan.calls_of_listed hsf hpositional phase

theorem references_values? (hlocal : lodging.plan.spec.Local) {output : Output}
    (hm : m.instances[lodging.number]? = some (lodging.atWork output)) (node : Value)
    {entries : List (String × String)} (hentries : ∀ entry ∈ entries, entry.2 ∈ lodging.plan.spec.reading) :
    Progress.values? (Awaited.value? lodging.known)
        (entries.map fun i => .pending (.link (m.link (some lodging.number) node none i.2))) =
      (referred? lodging.plan.reference? entries).map fun given => given.map Prod.snd := by
  induction entries with
  | nil => rfl
  | cons entry rest ih =>
    rw [List.map_cons, Progress.values?, ih fun e he => hentries e (List.mem_cons_of_mem _ he), referred?_cons]
    show Option.bind (Link.value? lodging.known _) _ = _
    rw [(link_leads hlocal hm node none (hentries entry List.mem_cons_self)).value?]
    cases lodging.plan.reference? entry.2 with
    | none => rfl
    | some v => cases referred? lodging.plan.reference? rest <;> rfl

/-- A task on its way to the value of its stage pursues its aim. -/
theorem Fits.pursues (hlocal : lodging.plan.spec.Local) {output : Output}
    (hm : m.instances[lodging.number]? = some (lodging.atWork output)) (hsf : lodging.plan.stages[n]? = some sf)
    {phase : Phase} (hfits : lodging.Fits n sf phase) :
    phase.Pursues (lodging.aim sf) m (lodging.task n sf phase) := by
  cases phase with
  | unstarted args positional =>
    obtain ⟨rfl, rfl⟩ := hfits
    cases hpositional : sf.1.positional with
    | true =>
      show lodging.plan.meaning? sf.1.name = none
      rw [lodging.plan.meaning?_stage hsf, Stage.value?, if_pos hpositional]
    | false =>
      refine ⟨calls_of_listed hsf hpositional _, rfl, ?_, ?_⟩
      · show Progress.values? _ (argumentsOf m _ sf.1) = _
        rw [argumentsOf_eq, values?_append]
        have hgiven := references_values? hlocal hm sf.1.inputNode fun entry hentry => mem_reading hsf hentry
        refine (congrArg (Option.map _) hgiven).trans ?_
        rw [Option.map_map]
        rfl
      · refine Resolvable.everyOfAll_progress _ sf.1.args fun a ha => ?_
        change a ∈ Progress.awaitedOfAll (argumentsOf m _ sf.1) at ha
        rw [argumentsOf_awaited] at ha
        obtain ⟨entry, hentry, rfl⟩ := List.mem_map.mp ha
        exact ⟨entry, hentry, link_leads hlocal hm _ _ (mem_reading hsf hentry)⟩
  | gathering names args => exact hfits.1
  | resting due next => exact hfits.1
  | settling result => exact hfits.1
  | hanging => exact hfits.1
  | finished => exact hfits.1

theorem fits_of_comes {phase before : Phase} (hcomes : phase.Comes (lodging.aim sf) (lodging.task n sf before))
    (hwaits : phase.Open) : lodging.Fits n sf phase := by
  cases phase with
  | unstarted args positional => exact hcomes.elim
  | _ => exact ⟨hcomes, hwaits⟩

/-! ### Turns -/

/-- A turn of somebody. Whoever it is, it is about something, and that is the value of a stage if the task is that
of the stage. -/
theorem Lodges.went (hlocal : lodging.plan.spec.Local) (h : lodging.Lodges m) {rest : List Nat}
    (hperm : (k :: rest).Perm m.ready) {t : Task} (ht : m.tasks[k]? = some t) (hmoving : 0 < t.phase.rank) :
    ∃ (aim : Aim) (base : Machine), Machine.Alike { m with ready := rest } base ∧
      aim.Went k t t.phase.rank (m.freshCount + t.phase.toil) base ({ m with ready := rest }.turn k) ∧
      ∀ n sf, lodging.plan.stages[n]? = some sf → k = lodging.firstTask + n → aim = lodging.aim sf := by
  obtain ⟨hrest, -⟩ := h.sober.without hperm
  have hstirred : Machine.stirred { m with ready := rest } k = true := h.sober.cause (hperm.subset List.mem_cons_self)
  have hwent {aim : Aim} (hfair : aim.Fair { m with ready := rest })
      (hpursues : t.phase.Pursues aim { m with ready := rest } t) :=
    Aim.turn_went (hrest.starts k) hfair (hrest.tasks ht).1 ht hpursues hmoving hstirred
  by_cases hown : ∃ n sf, lodging.plan.stages[n]? = some sf ∧ k = lodging.firstTask + n
  · obtain ⟨n, sf, hsf, rfl⟩ := hown
    obtain ⟨output, hm, -⟩ := h.home
    obtain ⟨phase, hget, hfits, -⟩ := h.tasks hsf
    obtain rfl : t = lodging.task n sf phase := Option.some.inj (ht.symm.trans hget)
    have hfair := h.fair sf
    obtain ⟨base, hbase, hended⟩ := hwent (show (lodging.aim sf).Fair { m with ready := rest } from
        ⟨hfair.plain, hfair.timer, hfair.agrees⟩)
      (hfits.pursues (m := { m with ready := rest }) hlocal hm hsf)
    refine ⟨_, base, hbase, hended, fun n' sg hsg heq => ?_⟩
    obtain rfl : n' = n := (Nat.add_left_cancel heq).symm
    rw [Option.some.inj (hsf.symm.trans hsg)]
  · obtain ⟨aim, -, hfair, hpursues⟩ := hrest.aims ht hmoving
    obtain ⟨base, hbase, hended⟩ := hwent hfair hpursues
    exact ⟨aim, base, hbase, hended, fun n sf hsf heq => absurd ⟨n, sf, hsf, heq⟩ hown⟩

/-- The slot of a stage holds what it is meant for after a turn of its own task. -/
theorem agrees_of_went (hsf : lodging.plan.stages[n]? = some sf) {phase : Phase} {rank toil : Nat} {base : Machine}
    (hbefore : Agrees lodging.known (lodging.firstSlot + n) (base.slot (lodging.firstSlot + n)))
    (hwent : (lodging.aim sf).Went k (lodging.task n sf phase) rank toil base m') :
    Agrees lodging.known (lodging.firstSlot + n) (m'.slot (lodging.firstSlot + n)) := by
  cases hwent with
  | finished o value =>
    intro o' ho
    rcases slot_of_fill ho with hold | ⟨-, rfl⟩
    · exact hbefore _ hold
    · rw [value, known_stage hsf]
      rfl
  | hanging never => exact hbefore
  | parked phase' comes waits moving less => exact hbefore

/-- And the task is on its way, in a queue if it is not at rest, or has filled the slot. -/
theorem fits_of_went {phase : Phase} {rank toil : Nat} {base : Machine}
    (hget : base.tasks[lodging.firstTask + n]? = some (lodging.task n sf phase))
    (hwithin : lodging.firstSlot + n < base.slots.size)
    (hwent : (lodging.aim sf).Went (lodging.firstTask + n) (lodging.task n sf phase) rank toil base m') :
    ∃ phase', m'.tasks[lodging.firstTask + n]? = some (lodging.task n sf phase') ∧ lodging.Fits n sf phase' ∧
      (0 < phase'.rank → lodging.firstTask + n ∈ m'.ready ++ m'.blocked) ∧
      (phase' = .finished → (m'.slot (lodging.firstSlot + n)).isSome) := by
  have hset (m : Machine) (phase' : Phase) (hm : m.tasks = base.tasks) :
      (m.setPhase (lodging.firstTask + n) phase').tasks[lodging.firstTask + n]? = some (lodging.task n sf phase') := by
    rw [setPhase_getElem?, if_pos rfl, hm, hget]
    rfl
  cases hwent with
  | finished o value =>
    refine ⟨_, hset _ _ rfl, ⟨trivial, trivial⟩, fun hrank => absurd hrank (Nat.lt_irrefl 0), fun _ => ?_⟩
    show ((base.fill (lodging.firstSlot + n) o).slot _).isSome
    rw [fill_slot, if_pos ⟨rfl, hwithin⟩]
    cases base.slot (lodging.firstSlot + n) <;> rfl
  | hanging never =>
    exact ⟨_, hset _ _ rfl, ⟨never, trivial⟩, fun hrank => absurd hrank (Nat.lt_irrefl 0), nofun⟩
  | parked phase' comes waits moving less =>
    refine ⟨phase', hset _ _ rfl, fits_of_comes comes waits, fun _ => ?_, fun hover => ?_⟩
    · exact List.mem_append_right _ (List.mem_append_right _ (List.mem_singleton_self _))
    · rw [hover] at moving
      cases moving

/-- Whoever has a turn is in the queues no more, and all others still are. -/
theorem mem_without {rest : List Nat} (hperm : (k :: rest).Perm m.ready) {j : Nat} (hne : k ≠ j)
    (hj : j ∈ m.ready ++ m.blocked) : j ∈ rest ++ m.blocked :=
  (List.mem_cons.mp ((hperm.append_right m.blocked).symm.subset hj)).resolve_left (Ne.symm hne)

/-- **Whoever has a turn, a child goes on as it is meant to.** -/
theorem Lodges.turn (hlocal : lodging.plan.spec.Local) (h : lodging.Lodges m) {rest : List Nat}
    (hperm : (k :: rest).Perm m.ready) {t : Task} (ht : m.tasks[k]? = some t) :
    lodging.Lodges ({ m with ready := rest }.turn k) := by
  obtain ⟨hrest, hk⟩ := h.sober.without hperm
  have hstirred : m.stirred k = true := h.sober.cause (hperm.subset List.mem_cons_self)
  have hsober : ({ m with ready := rest }.turn k).Sober := hrest.turn hk ht hstirred
  rcases Nat.eq_zero_or_pos t.phase.rank with hidle | hmoving
  · rw [turn_idle (m := { m with ready := rest }) ht hidle] at hsober ⊢
    refine ⟨hsober, h.home, h.slots, fun {n sf} hsf => ?_⟩
    obtain ⟨phase, hget, hfits, hwaits, hfilled⟩ := h.tasks hsf
    refine ⟨phase, hget, hfits, fun hrank => mem_without hperm ?_ (hwaits hrank), hfilled⟩
    rintro rfl
    obtain rfl : t = lodging.task n sf phase := Option.some.inj (ht.symm.trans hget)
    exact absurd hidle (Nat.ne_of_gt hrank)
  · obtain ⟨aim, base, hbase, hwent, hown⟩ := h.went hlocal hperm ht hmoving
    generalize { m with ready := rest }.turn k = m' at hsober hwent ⊢
    have hstepped := hwent.stepped
    have hhome : ∃ output, m'.instances[lodging.number]? = some (lodging.atWork output) ∧ lodging.Knows output := by
      rw [hstepped.instances, hbase.instances]
      exact h.home
    -- the turn of a stage's own task, and the turns of all others
    have hstage {n : Nat} {sf : Stage × Function} (hsf : lodging.plan.stages[n]? = some sf) :
        Agrees lodging.known (lodging.firstSlot + n) (m'.slot (lodging.firstSlot + n)) ∧
          ∃ phase, m'.tasks[lodging.firstTask + n]? = some (lodging.task n sf phase) ∧ lodging.Fits n sf phase ∧
            (0 < phase.rank → lodging.firstTask + n ∈ m'.ready ++ m'.blocked) ∧
            (phase = .finished → (m'.slot (lodging.firstSlot + n)).isSome) := by
      obtain ⟨phase, hbefore, hfits, hwaits, hfilled⟩ := h.tasks hsf
      by_cases hne : k = lodging.firstTask + n
      · subst hne
        obtain rfl : t = lodging.task n sf phase := Option.some.inj (ht.symm.trans hbefore)
        cases hown n sf hsf rfl
        refine ⟨agrees_of_went hsf ?_ hwent, fits_of_went (hbase.tasks ▸ ht) ?_ hwent⟩
        · rw [hbase.slot]
          exact h.slots hsf
        · rw [hbase.size]
          exact h.sober.within ht
      · have hslot : m'.slot (lodging.firstSlot + n) = m.slot (lodging.firstSlot + n) :=
          (hstepped.others fun hsame => hne (h.sober.slots ht hbefore hsame)).trans (hbase.slot _)
        rw [hslot]
        refine ⟨h.slots hsf, phase, ?_, hfits, fun hrank => ?_, hfilled⟩
        · rw [hstepped.tasks hne, hbase.tasks]
          exact hbefore
        · rw [hstepped.ready, hbase.ready]
          rcases List.mem_append.mp (mem_without hperm hne (hwaits hrank)) with hin | hin
          · exact List.mem_append_left _ hin
          · refine List.mem_append_right _ (hstepped.blocked_subset ?_)
            rw [hbase.blocked]
            exact hin
    exact ⟨hsober, hhome, fun hsf => (hstage hsf).1, fun hsf => (hstage hsf).2⟩

theorem Lodges.wake (h : lodging.Lodges m) : lodging.Lodges m.wake := by
  have hqueue := wake_queue m
  have hsober := h.sober.wake
  rw [wake_eq] at hqueue hsober ⊢
  refine ⟨hsober, h.home, h.slots, fun hsf => ?_⟩
  obtain ⟨phase, hget, hfits, hwaits, hfilled⟩ := h.tasks hsf
  exact ⟨phase, hget, hfits, fun hrank => hqueue.symm.subset (hwaits hrank), hfilled⟩

theorem Lodges.pass (h : lodging.Lodges m) (hready : m.ready = []) (moment : Nat) :
    lodging.Lodges { m with clock := moment } :=
  ⟨h.sober.pass hready moment, h.home, h.slots, h.tasks⟩

theorem Lodges.alike (h : lodging.Lodges m) (ha : m.Alike m') : lodging.Lodges m' := by
  refine ⟨h.sober.alike ha, ?_, fun hsf => ?_, fun hsf => ?_⟩
  · rw [ha.instances]
    exact h.home
  · rw [ha.slot]
    exact h.slots hsf
  · rw [ha.tasks, ha.ready, ha.blocked, ha.slot]
    exact h.tasks hsf

/-! ### When nobody can move -/

/-- Nobody has cause to look, and nobody waits for a later moment. -/
structure Stuck (m : Machine) : Prop where
  ready : m.ready = []
  still {k : Nat} : k ∈ m.blocked → m.stirred k = false
  never {k due : Nat} {t : Task} : k ∈ m.blocked → m.tasks[k]? = some t → due ∈ t.phase.moments → due ≤ m.clock

/-- What a task still awaits when all are stuck is a link that is not decided. -/
theorem Stuck.awaits (hstuck : Stuck m) {t : Task} (hk : k ∈ m.blocked) (ht : m.tasks[k]? = some t) {a : Awaited}
    (ha : a.Plain) (hmoments : ∀ due ∈ a.moments, due ∈ t.phase.moments) (hstill : m.stirs a = false) :
    ∃ l, a = .link l ∧ m.linked l = none := by
  cases a with
  | link l => exact ⟨l, rfl, Option.not_isSome_iff_eq_none.mp (Bool.eq_false_iff.mp hstill)⟩
  | timer due o =>
    have hdue := hstuck.never hk ht (hmoments due (List.mem_singleton_self due))
    simp only [stirs, standing, if_pos hdue, Option.isSome_some] at hstill
    cases hstill
  | broken due => exact ha.elim
  | output p => exact ha.elim

/-- The references of a stage that has a value have values, a round earlier. -/
theorem reference_isSome (hsf : lodging.plan.stages[n]? = some sf) {input : Value} {rounds : Nat} {v : Value}
    (hv : Spec.stageValue? lodging.plan.registry lodging.plan.spec input (rounds + 1) sf.1.name = some v)
    {entry : String × String} (hentry : entry ∈ sf.1.input) : (Spec.referenceValue? input
      (Spec.stageValue? lodging.plan.registry lodging.plan.spec input rounds) entry.2).isSome := by
  have hmem : sf.1 ∈ lodging.plan.spec.stages := by
    rw [← lodging.plan.staged]
    exact List.mem_map_of_mem (List.mem_of_getElem? hsf)
  rw [Spec.stageValue?, Spec.stage?_eq lodging.plan.names hmem, Option.bind_some] at hv
  unfold Stage.value? at hv
  split at hv
  · cases hv
  · obtain ⟨f, -, hv⟩ := Option.bind_eq_some_iff.mp hv
    obtain ⟨given, hgiven, -⟩ := Option.bind_eq_some_iff.mp hv
    exact referred?_isSome_iff.mp (by rw [hgiven]; rfl) entry hentry

/-- When nobody can move any more, a task whose references are decided is at rest. -/
theorem Lodges.rests (h : lodging.Lodges m) (hstuck : Stuck m) {phase : Phase}
    (hget : m.tasks[lodging.firstTask + n]? = some (lodging.task n sf phase)) (hfits : lodging.Fits n sf phase)
    (hwaits : 0 < phase.rank → lodging.firstTask + n ∈ m.ready ++ m.blocked)
    (hdecided : ∀ entry ∈ sf.1.input, ∀ l, lodging.Leads entry.2 l → (m.linked l).isSome) : phase.rank = 0 := by
  rcases Nat.eq_zero_or_pos phase.rank with hrank | hrank
  · exact hrank
  have hblocked : lodging.firstTask + n ∈ m.blocked := by
    have hin := hwaits hrank
    rw [hstuck.ready] at hin
    exact hin
  have hstill : m.stirred (lodging.firstTask + n) = false := hstuck.still hblocked
  unfold stirred at hstill
  simp only [hget, Option.map_some] at hstill
  -- whatever is awaited among the references and the clock has come
  have hcome {a : Awaited} (ha : (lodging.aim sf).among a) (hmoments : ∀ due ∈ a.moments, due ∈ phase.moments) :
      m.stirs a = true := by
    by_contra hnot
    obtain ⟨l, rfl, hnone⟩ := hstuck.awaits hblocked hget ((h.fair sf).plain ha) hmoments
      (Bool.eq_false_iff.mpr hnot)
    obtain ⟨entry, hentry, hleads⟩ := ha
    have hsome := hdecided entry hentry l hleads
    rw [hnone] at hsome
    cases hsome
  cases phase with
  | unstarted args positional => cases hstill
  | gathering names args =>
    obtain ⟨⟨-, -, -, hevery⟩, hsifted, hnone⟩ := hfits
    obtain ⟨a, ha⟩ := Progress.exists_awaitedOfAll hsifted hnone
    have hstirs := hcome (Progress.everyOfAll_awaited args hevery a ha) fun due hdue =>
      List.mem_flatMap.mpr ⟨a, ha, hdue⟩
    exact absurd hstirs (List.any_eq_false.mp hstill a ha)
  | resting due next =>
    have hdue := hstuck.never hblocked hget (List.mem_singleton_self due)
    exact absurd hdue (of_decide_eq_false hstill)
  | settling r =>
    obtain ⟨⟨-, hevery⟩, hsifted, hnone⟩ := hfits
    obtain ⟨a, ha⟩ := Progress.exists_awaited hsifted hnone
    have hstirs := hcome (Progress.every_awaited r hevery a ha) fun due hdue => List.mem_flatMap.mpr ⟨a, ha, hdue⟩
    exact absurd hstirs (List.any_eq_false.mp hstill a ha)
  | hanging => rfl
  | finished => rfl

/-- **When nobody can move any more, all stages that have a value have filled their slots.** -/
theorem Lodges.filled (h : lodging.Lodges m) (hstuck : Stuck m) (rounds : Nat) {n : Nat} {sf : Stage × Function}
    (hsf : lodging.plan.stages[n]? = some sf)
    (hvalue : (Spec.stageValue? lodging.plan.registry lodging.plan.spec lodging.input rounds sf.1.name).isSome) :
    (m.slot (lodging.firstSlot + n)).isSome := by
  induction rounds generalizing n sf with
  | zero => cases hvalue
  | succ rounds ih =>
    obtain ⟨v, hv⟩ := Option.isSome_iff_exists.mp hvalue
    have hmeaning : lodging.plan.meaning? sf.1.name = some v := Spec.stageValue?_within_meaning _ _ _ _ _ _ hv
    obtain ⟨phase, hget, hfits, hwaits, hfilled⟩ := h.tasks hsf
    have hrests : phase.rank = 0 := h.rests hstuck hget hfits hwaits fun entry hentry l hleads =>
      hleads.decided (reference_isSome hsf hv hentry) fun n' sg hsg hstage => ih hsg hstage
    cases phase with
    | hanging =>
      have hnever : lodging.plan.meaning? sf.1.name = none := hfits.1
      rw [hnever] at hmeaning
      cases hmeaning
    | finished => exact hfilled rfl
    | _ => cases hrests

end Lodging
end StageGraph
