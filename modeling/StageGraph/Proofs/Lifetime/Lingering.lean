import StageGraph.Proofs.Lifetime.Steps

/-! Nothing lingers.

A pipeline is over for good once it has ended, and with it all pipelines that tasks started below it for
themselves: nothing brings one of them back (`Gone.deed`), and nothing that is done with a pipeline that is built
leaves anybody behind (`Step.owned`). So nothing of a pipeline goes on when its run is over, when its output has come
about, when the task that started it no longer holds it, or when it is given up. A child that is started by hand
belongs to whoever holds its output, and so does one whose output a function keeps: both outlive the run of their
parent (`kept_outlives`). The main theorem is `nothing_lingers`. -/
namespace StageGraph.Machine

variable {m m' m₀ : Machine} {root p : Nat}

/-! ### What is over -/

/-- The pipelines below one: itself, and those that tasks of these started for themselves. -/
inductive Below (m : Machine) (p : Nat) : Nat → Prop
  | self : Below m p p
  | started {q r k : Nat} {i : Instance} {t : Task} : Below m p r → m.IsTask k t → t.pipeline = some r →
    m.IsInstance q i → i.starter = some k → Below m p q

/-- Nothing of a pipeline goes on, nor of those below it: to whoever has a handle to one of them it does not live, has no
settings and starts no children, and no function of its tasks is called or goes on. -/
structure Over (m : Machine) (p : Nat) : Prop where
  dead {q : Nat} : m.Below p q → m.alive q = false
  bare {q : Nat} : m.Below p q → m.settings? q = none
  barren {q : Nat} : m.Below p q → ∀ starter spec v, m.spawn (some q) starter spec v = .error ⟨.pipelineDropped, none⟩
  still {q k : Nat} {t : Task} : m.Below p q → m.tasks[k]? = some t → t.pipeline = some q → t.phase.quiet = true

/-- It is over, and whatever is done, it stays so: calls that are still made are of other pipelines. -/
def OverForGood (root : Nat) (m : Machine) (p : Nat) : Prop :=
  ∀ m', Reaches root m m' → m'.Over p ∧ ∃ later : List Received, m'.log.toList = m.log.toList ++ later ∧
    ∀ call ∈ later, ∀ t q, m'.IsTask call.task t → t.pipeline = some q → ¬m'.Below p q

/-- Whoever is kept by a pipeline is over. -/
def Gone (m : Machine) (p : Nat) : Prop :=
  p < m.instances.size ∧ ∀ q i, m.IsInstance q i → p ∈ i.keepers → m.Ended q

/-- Nothing brings back what is gone. -/
theorem Gone.deed {who : Option Nat} (hdeed : Deed who m m') (h : m.Gone p) : m'.Gone p := by
  have he := hdeed.extends'
  have hlt : p < m'.instances.size := (he.isInstance (isInstance_of_get (Array.getElem?_eq_getElem h.1))).lt
  have hback {q : Nat} {i : Instance} (hi : m'.IsInstance q i) (hmem : p ∈ i.keepers) : m.IsInstance q i := by
    cases hdeed.outline with
    | same _ hsame => exact hsame.isInstance.mp hi
    | ends _ _ hsame => exact halted_isInstance (hsame.isInstance.mp hi)
    | @makes r parent starter spec v stages hparent hlives _ _ heq =>
      subst heq
      refine (assembled_isInstance hi).resolve_right fun ⟨_, _, _, _, hnew⟩ => ?_
      rw [hnew] at hmem
      have hup := (List.mem_cons.mp hmem).resolve_left (Nat.ne_of_lt h.1)
      have hparents : p ∈ parent.keepers := by
        unfold Placement.under at hup
        simp only at hup
        split at hup
        · exact hup
        · cases hup
      obtain ⟨j, hj, hover⟩ := h.2 r parent (isInstance_of_get hparent) hparents
      cases hparent.symm.trans hj
      rw [hlives] at hover
      cases hover
  exact ⟨hlt, fun q i hi hmem => he.ended (h.2 q i (hback hi hmem) hmem)⟩

theorem Gone.same (hsame : m'.instances = m.instances) (h : m.Gone p) : m'.Gone p := by
  unfold Gone IsInstance Ended at h ⊢
  rw [hsame]
  exact h

theorem Kept.below (h : m.Kept) (hp : p < m.instances.size) {q : Nat} (hq : m.Below p q) :
    q < m.instances.size ∧ ∀ i, m.IsInstance q i → p ∈ i.keepers := by
  induction hq with
  | self => exact ⟨hp, fun i hi => h.self hi⟩
  | started _ ht hr hi hstarter ih =>
    refine ⟨hi.lt, fun j hj => ?_⟩
    obtain ⟨t', r', parent, ht', hr', hparent, hkeepers⟩ := h.child hi hstarter
    obtain ⟨phase, rfl⟩ := ht.eq ht'
    obtain rfl := Option.some.inj (hr.symm.trans hr')
    rw [hj.keepers_eq hi, hkeepers]
    exact List.mem_cons_of_mem _ (ih.2 parent hparent)

theorem Gone.below (h : m.Gone p) (hkept : m.Kept) {q : Nat} (hq : m.Below p q) : m.Ended q := by
  obtain ⟨hlt, hkeepers⟩ := hkept.below h.1 hq
  have hi := isInstance_of_get (Array.getElem?_eq_getElem hlt)
  exact h.2 q _ hi (hkeepers _ hi)

/-- What is gone is over. -/
theorem Gone.over (h : m.Gone p) (howned : m.Owned none) : m.Over p := by
  refine ⟨fun hq => ?_, fun hq => ?_, fun hq starter spec v => ?_, fun hq ht hp => ?_⟩
  · exact not_alive_of_ended (h.below howned.kept hq)
  · obtain ⟨i, hi, hover⟩ := h.below howned.kept hq
    unfold settings?
    rw [hi]
    simp only [hover, Bool.false_eq_true, if_false]
  · obtain ⟨i, hi, hover⟩ := h.below howned.kept hq
    exact spawn_dropped hi hover starter spec v
  · exact (howned.minds ht nofun).quiet hp (h.below howned.kept hq)

/-! ### Calls -/

/-- A call of a task whose pipeline is not kept by a given one. -/
def Apart (m : Machine) (p : Nat) (call : Received) : Prop :=
  ∃ t q i, m.IsTask call.task t ∧ t.pipeline = some q ∧ m.IsInstance q i ∧ p ∉ i.keepers

theorem Apart.mono (he : m.Extends m') {call : Received} (h : m.Apart p call) : m'.Apart p call := by
  obtain ⟨t, q, i, ht, hq, hi, hp⟩ := h
  exact ⟨t, q, i, he.isTask ht, hq, he.isInstance hi, hp⟩

theorem Apart.not_below {call : Received} (h : m.Apart p call) (hkept : m.Kept) (hp : p < m.instances.size) {t : Task}
    {q : Nat} (ht : m.IsTask call.task t) (hq : t.pipeline = some q) : ¬m.Below p q := by
  obtain ⟨t', q', i, ht', hq', hi, hmem⟩ := h
  obtain ⟨phase, rfl⟩ := ht.eq ht'
  obtain rfl := Option.some.inj (hq.symm.trans hq')
  exact fun hbelow => hmem ((hkept.below hp hbelow).2 i hi)

/-- What is gone stays so, and calls that are still made are of others. -/
theorem Gone.reaches (h : m.Gone p) (hm : m.Orderly root) (hreach : Reaches root m m') : m'.Gone p ∧
    ∃ later : List Received, m'.log.toList = m.log.toList ++ later ∧ ∀ call ∈ later, m'.Apart p call := by
  induction hreach with
  | refl => exact ⟨h, [], (List.append_nil _).symm, nofun⟩
  | @tail m₁ m' hfirst hstep ih =>
    obtain ⟨hgone, later, hlog, hlater⟩ := ih
    have horderly := Reaches.orderly hfirst hm
    have hsound := horderly.lexical.sound
    have he := hstep.extends' hsound horderly.owned
    refine ⟨hstep.keeps (P := fun m => m.Gone p) Gone.deed (fun _ _ => Gone.same) hsound horderly.owned hgone, ?_⟩
    rcases hstep.log hsound horderly.owned with hsame | ⟨t, q, call, ht, hq, halive, hpush⟩
    · rw [hsame]
      exact ⟨later, hlog, fun call hcall => (hlater call hcall).mono he⟩
    · refine ⟨later ++ [call], by rw [hpush, Array.toList_push, hlog, List.append_assoc], fun c hc => ?_⟩
      rcases List.mem_append.mp hc with hold | hnew
      · exact (hlater c hold).mono he
      · obtain ⟨i, hi, hlives⟩ := alive_iff.mp halive
        rw [List.mem_singleton.mp hnew]
        refine Apart.mono he ⟨t, q, i, ht, hq, isInstance_of_get hi, fun hmem => ?_⟩
        rw [not_alive_of_ended (hgone.2 q i (isInstance_of_get hi) hmem)] at halive
        cases halive

theorem Gone.overForGood (h : m.Gone p) (hm : m.Orderly root) : m.OverForGood root p := by
  intro m' hreach
  obtain ⟨hgone, later, hlog, hlater⟩ := h.reaches hm hreach
  have howned := (Reaches.orderly hreach hm).owned
  exact ⟨hgone.over howned, later, hlog, fun call hcall t q => (hlater call hcall).not_below howned.kept hgone.1⟩

/-! ### Nobody else -/

/-- Whoever there is, is kept by a pipeline and is over. -/
def Deserted (m : Machine) (p : Nat) : Prop := ∀ q i, m.IsInstance q i → p ∈ i.keepers ∧ m.Ended q

/-- Where nobody lives nobody is started. -/
theorem Deserted.deed {who : Option Nat} (hdeed : Deed who m m') (h : m.Deserted p) : m'.Deserted p := by
  have he := hdeed.extends'
  have hback {q : Nat} {i : Instance} (hi : m'.IsInstance q i) : m.IsInstance q i := by
    cases hdeed.outline with
    | same _ hsame => exact hsame.isInstance.mp hi
    | ends _ _ hsame => exact halted_isInstance (hsame.isInstance.mp hi)
    | @makes r parent starter spec v stages hparent hlives =>
      obtain ⟨j, hj, hover⟩ := (h r parent (isInstance_of_get hparent)).2
      cases hparent.symm.trans hj
      rw [hlives] at hover
      cases hover
  exact fun q i hi => ⟨(h q i (hback hi)).1, he.ended (h q i (hback hi)).2⟩

theorem Deserted.same (hsame : m'.instances = m.instances) (h : m.Deserted p) : m'.Deserted p := by
  unfold Deserted IsInstance Ended at h ⊢
  rw [hsame]
  exact h

theorem Deserted.reaches (h : m.Deserted p) (hm : m.Orderly root) (hreach : Reaches root m m') : m'.Deserted p := by
  induction hreach with
  | refl => exact h
  | tail hfirst hstep ih =>
    have horderly := Reaches.orderly hfirst hm
    exact hstep.keeps (P := fun m => m.Deserted p) Deserted.deed (fun _ _ => Deserted.same) horderly.lexical.sound
      horderly.owned ih

/-- If all pipelines are below one that is over, no call is made any more. -/
theorem Gone.silent (h : m.Gone p) (hm : m.Orderly root) (hall : ∀ q < m.instances.size, m.Below p q)
    (hreach : Reaches root m m') : m'.log = m.log := by
  have hdeserted : m.Deserted p := by
    intro q i hi
    have hkeepers := ((hm.owned.kept.below h.1 (hall q hi.lt)).2 i hi)
    exact ⟨hkeepers, h.2 q i hi hkeepers⟩
  obtain ⟨-, later, hlog, hlater⟩ := h.reaches hm hreach
  have hnone : later = [] := by
    refine List.eq_nil_iff_forall_not_mem.mpr fun call hcall => ?_
    obtain ⟨t, q, i, -, -, hi, hnot⟩ := hlater call hcall
    exact hnot ((hdeserted.reaches hm hreach) q i hi).1
  rw [hnone, List.append_nil] at hlog
  exact Array.toList_inj.mp hlog

/-! ### Ends -/

/-- Whoever lives has no keeper that is over. -/
theorem Kept.gone (h : m.Kept) (hover : m.Ended p) : m.Gone p := by
  obtain ⟨i, hi, hdead⟩ := hover
  refine ⟨(isInstance_of_get hi).lt, fun q j hj hmem => ?_⟩
  obtain ⟨jobs, output, alive, hget⟩ := hj
  cases alive with
  | false => exact ⟨_, hget, rfl⟩
  | true =>
    have hlives := h.lives hget rfl p hmem
    rw [not_alive_of_ended ⟨i, hi, hdead⟩] at hlives
    cases hlives

theorem retire_ended (hkept : m.Kept) (hp : p < m.instances.size) : (m.retire p).Ended p := by
  have hi := Array.getElem?_eq_getElem hp
  refine ⟨{ m.instances[p] with alive := false, jobs := [] }, ?_, rfl⟩
  rw [retire_instances]
  exact halted_over hi (hkept.self (isInstance_of_get hi))

/-- A run ends its pipeline, whatever comes of it. -/
theorem run_ended (h : m.Orderly root) (choose : Choice) (fuel : Nat) (supplied : List (String × Value)) :
    (m.run choose fuel root supplied).2.Ended root := by
  have hover {m' : Machine} (hreach : Reaches root m m') : (m'.retire root).Ended root := by
    have horderly := Reaches.orderly hreach h
    exact retire_ended horderly.owned.kept horderly.lexical.nested.present
  unfold run
  split
  · next hnone => exact absurd (Array.getElem?_eq_none_iff.mp hnone) (Nat.not_le.mpr h.lexical.nested.present)
  · next i _ =>
    split
    · exact hover .refl
    · next values _ => exact hover (.head (.bind i values) (.head .start (drive_reaches choose _ _ fuel _)))

/-- **Nothing lingers.** Whatever was done with a pipeline that is built, from the moment its run returns, whatever it
returns, nothing of the pipeline goes on, nor of any pipeline that tasks started below it for themselves, however deep:
handles to them are dead, no function of theirs is called or goes on, and so it stays, whatever is done. If all pipelines
are below it, no call is made any more at all. The same holds for every pipeline below it, and for one that was started by
hand or is kept, from the moment its output has come about, or is no longer held by the task that started it, or it is
given up. -/
theorem nothing_lingers {registry : Registry} {document : Value} {settings : Settings}
    (hbuild : build { registry } document settings = .ok (root, m₀)) (hreach : Reaches root m₀ m) :
    (∀ choose fuel supplied, (m.run choose fuel root supplied).2.OverForGood root root ∧
      ((∀ q < (m.run choose fuel root supplied).2.instances.size, (m.run choose fuel root supplied).2.Below root q) →
        ∀ m', Reaches root (m.run choose fuel root supplied).2 m' → m'.log = (m.run choose fuel root supplied).2.log)) ∧
    (∀ p o, m.standing (.output p) = some o → m.OverForGood root p) ∧
    (∀ k t c i, m.tasks[k]? = some t → m.instances[c]? = some i → i.starter = some k → ¬t.phase.Holds c →
      m.OverForGood root c) ∧
    ∀ p < m.instances.size, (m.retire p).OverForGood root p := by
  have horderly : m.Orderly root := Reaches.orderly hreach (orderly_of_build hbuild)
  have hkept := horderly.owned.kept
  refine ⟨fun choose fuel supplied => ?_, fun p o ho => ?_, fun k t c i ht hi hstarter hnot => ?_, fun p hp => ?_⟩
  · have hran : (m.run choose fuel root supplied).2.Orderly root :=
      Reaches.orderly (run_reaches choose fuel m root supplied) horderly
    have hgone := hran.owned.kept.gone (run_ended horderly choose fuel supplied)
    exact ⟨hgone.overForGood hran, fun hall m' hlater => hgone.silent hran hall hlater⟩
  · exact (hkept.gone (horderly.owned.resolved ho)).overForGood horderly
  · have hover : i.alive = false := Bool.eq_false_iff.mpr fun halive =>
      hnot ((horderly.owned.minds ht nofun).holds hi halive hstarter)
    exact (hkept.gone ⟨i, hi, hover⟩).overForGood horderly
  · have hgiven : (m.retire p).Orderly root := Reaches.orderly (.single (.giveUp p)) horderly
    exact (hgiven.owned.kept.gone (retire_ended hkept hp)).overForGood hgiven

/-! ### Children that are nobody's -/

/-- A function whose calls are kept. -/
def noteFunction : Function where
  name := "note"
  recorded := true
  handler _ := .value .null

/-- A pipeline without stages. -/
def stageless : Value := .object [("output", .array [])]

/-- A pipeline with one stage, which is called with nothing. -/
def noting : Spec where
  document := .object []
  input := []
  inputNode := .null
  stages := [{ name := "n", function := "note", params := [], input := [], inputNode := .null, node := .null, positional := false }]
  output := .single "n"
  outputNode := .null

/-- The run of a pipeline with a child that was started by hand before. -/
theorem stageless_over : ∃ m₀ m, build { registry := ⟨[("note", noteFunction)]⟩ } stageless Settings.default = .ok (0, m₀) ∧
    m₀.spawn (some 0) none noting .null = .ok (1, m) ∧ (m.run inOrder 1 0 []).1.isSome ∧
      (m.run inOrder 1 0 []).2.OverForGood 0 0 := by
  obtain ⟨m₀, hbuild⟩ : ∃ m₀, build { registry := ⟨[("note", noteFunction)]⟩ } stageless Settings.default = .ok (0, m₀) :=
    ⟨_, rfl⟩
  obtain ⟨m, hspawn⟩ : ∃ m, m₀.spawn (some 0) none noting .null = .ok (1, m) := by
    cases hbuild
    exact ⟨_, rfl⟩
  refine ⟨m₀, m, hbuild, hspawn, ?_, ((nothing_lingers hbuild (.single (.spawn hspawn))).1 inOrder 1 []).1⟩
  cases hbuild
  cases hspawn
  decide +kernel

/-- A child that was started by hand lives when the run of its parent is over, and its stage is called then. -/
theorem hand_started_outlives : ∃ m₀ m, build { registry := ⟨[("note", noteFunction)]⟩ } stageless Settings.default = .ok (0, m₀) ∧
    m₀.spawn (some 0) none noting .null = .ok (1, m) ∧ (m.instances[1]?).map Instance.scope = some [1, 0] ∧
      (m.run inOrder 1 0 []).2.alive 0 = false ∧ (m.run inOrder 1 0 []).2.alive 1 = true ∧
      (m.run inOrder 1 0 []).2.log.size = 0 ∧
      ((m.run inOrder 1 0 []).2.advance inOrder).log.toList.map Received.function = ["note"] := by
  refine ⟨_, _, rfl, rfl, rfl, ?_, ?_, ?_, ?_⟩
  all_goals decide +kernel

/-- A function that takes its time. -/
def restingFunction : Function where
  name := "rest"
  handler _ := .rest 5 (.value .null)

/-- A pipeline with one stage, which takes its time. -/
def resting : Spec := { noting with stages := noting.stages.map fun s => { s with function := "rest" } }

/-- A function that keeps its child, and is done. -/
def keeperFunction : Function where
  name := "keeper"
  wantsPipeline := true
  handler _ := .start true resting [.null] fun _ => .value .null

/-- A pipeline whose stage starts a child and keeps it. -/
def keeping : Value := .object
  [("stages", .array [.object [("name", .string "k"), ("func", .string "keeper")]]), ("output", .string "k")]

/-- A child that a function keeps lives when the run of its parent is over, and its output comes about then. -/
theorem kept_outlives : ∃ m₀, build { registry := ⟨[("keeper", keeperFunction), ("rest", restingFunction)]⟩ } keeping
    Settings.default = .ok (0, m₀) ∧ (m₀.run inOrder 3 0 []).1.isSome ∧
      (m₀.run inOrder 3 0 []).2.alive 0 = false ∧ (m₀.run inOrder 3 0 []).2.alive 1 = true ∧
      ((m₀.run inOrder 3 0 []).2.standing (.output 1)).isNone ∧
      ((drive inOrder (.output 1) none 5 (m₀.run inOrder 3 0 []).2).2.standing (.output 1)).isSome := by
  refine ⟨_, rfl, ?_, ?_, ?_, ?_, ?_⟩
  all_goals decide +kernel

end StageGraph.Machine
