import StageGraph.Proofs.Attribution.Reading
import StageGraph.Proofs.Attribution.Coming
import StageGraph.Proofs.Resolvable.Sifting

/-! What a machine does, deed by deed.

All that goes on in a turn beside calling the function and putting the task aside, and all that a look at an output
does, is made of deeds of seven kinds (`Deed`), each of which changes one thing. So it is with reading
(`foldl_read_deeds`), with letting children go (`release_deeds`) and with starting them (`spawnAll_deeds`). An invariant
of the machine is shown deed by deed, once for all of them. -/
namespace StageGraph

/-- What is known of an output so far is attributed if it failed, and what is awaited will be. -/
def Output.Attributed : Output → Prop
  | .unread => True
  | .linked r => r.every (fun f => f.node.isSome) fun l => l.blamed.isSome
  | .known o => ∀ f, o = .error f → f.node.isSome

namespace Machine

variable {m m' : Machine} {who : Option Nat}

/-- Whatever the output of an instance fails with is attributed. -/
def Attributes (m : Machine) (p : Nat) : Prop :=
  ∀ output, (m.instances[p]?).map Instance.output = some output → output.Attributed

/-- Why a slot is filled. -/
inductive Fills (m : Machine) (who : Option Nat) : Nat → Outcome → Prop
  /-- The task whose turn it is has its result. -/
  | result {k : Nat} {t : Task} {o : Outcome} : who = some k → m.IsTask k t → Fills m who t.slot o
  /-- A declared input is bound. -/
  | bound {s : Nat} {v : Value} : m.Bound s → Fills m who s (.ok v)
  /-- The pipeline of the slot is over. -/
  | lost {p s : Nat} {i : Instance} {cause : Cause} : m.instances[p]? = some i → i.alive = false →
    (s, cause) ∈ i.abandoned → Fills m who s (.error ⟨cause, none⟩)

/-- One thing that a machine does, in the turn of a task if there is one. -/
inductive Deed (who : Option Nat) (m : Machine) : Machine → Prop
  /-- Results are taken in. -/
  | take {m' : Machine} : Taken m m' → Deed who m m'
  /-- An output has not come about so far. -/
  | link {p : Nat} {r : Progress Link} : m.standing (.output p) = none →
    (m.Attributes p → Output.Attributed (.linked r)) → r.Sifted → r.outcome? = none →
      Deed who m (m.setOutput p (.linked r))
  /-- An output comes about, and its pipeline ends. -/
  | resolve {p : Nat} (o : Outcome) : m.standing (.output p) = none →
    (m.Attributes p → Output.Attributed (.known o)) → Deed who m ((m.setOutput p (.known o)).halted p)
  /-- A pipeline ends. -/
  | halt (p : Nat) : Deed who m (m.halted p)
  | fill {s : Nat} {o : Outcome} : m.Fills who s o → Deed who m (m.fill s o)
  /-- A child is made, by the task whose turn it is or by hand. -/
  | make {p : Nat} {i : Instance} {starter : Option Nat} {spec : Spec} {v : Value} {stages : List (Stage × Function)} :
    m.instances[p]? = some i → i.alive = true → m.functionsOf spec = .ok stages →
      (∀ k, starter = some k → who = some k ∧ ∃ t, m.IsTask k t ∧ t.pipeline = some p) →
        Deed who m (m.assembled spec (.under i starter v) stages)
  /-- The tasks of a pipeline are given their turns. -/
  | start (p : Nat) : Deed who m (m.start p)

/-- Any number of deeds. -/
abbrev Deeds (who : Option Nat) : Machine → Machine → Prop := Relation.ReflTransGen (Deed who)

/-- What every deed keeps is kept. -/
theorem Deeds.keeps {P : Machine → Prop} (hdeed : ∀ {m m'}, Deed who m m' → P m → P m') (h : Deeds who m m')
    (hm : P m) : P m' := by
  induction h with
  | refl => exact hm
  | tail _ hlast ih => exact hdeed hlast ih

/-! ### What no deed changes -/

theorem Taken.extends' (h : Taken m m') : m.Extends m' := by
  obtain ⟨slots, room, rfl, -⟩ := h.rest
  exact extends_same h.slot rfl rfl rfl

theorem Deed.extends' (h : Deed who m m') : m.Extends m' := by
  cases h with
  | take ht => exact ht.extends'
  | link hnot => exact setOutput_extends _ hnot
  | resolve o hnot => exact (setOutput_extends _ hnot).trans (halted_extends _)
  | halt p => exact m.halted_extends p
  | fill => exact m.fill_extends _ _
  | make => exact m.assembled_extends _ _ _
  | start p => exact m.start_extends p

theorem Deeds.extends' (h : Deeds who m m') : m.Extends m' := by
  induction h with
  | refl => exact Extends.refl m
  | tail _ hlast ih => exact ih.trans hlast.extends'

theorem Deed.log (h : Deed who m m') : m'.log = m.log := by
  cases h with
  | take ht =>
    obtain ⟨slots, room, rfl, -⟩ := ht.rest
    rfl
  | start p => exact start_log p
  | _ => rfl

theorem Deeds.log (h : Deeds who m m') : m'.log = m.log := by
  induction h with
  | refl => rfl
  | tail _ hlast ih => exact hlast.log.trans ih

/-! ### The end of pipelines -/

/-- The slots of pipelines that are over are given up. -/
theorem giveUp_deeds (l : List (Nat × Cause)) : ∀ {m : Machine},
    (∀ e ∈ l, ∃ (p : Nat) (i : Instance), m.instances[p]? = some i ∧ i.alive = false ∧ e ∈ i.abandoned) →
      Deeds who m (l.foldl (fun m (s, cause) => m.fill s (.error ⟨cause, none⟩)) m) := by
  induction l with
  | nil => exact fun _ => .refl
  | cons entry rest ih =>
    intro m hall
    obtain ⟨p, i, hi, hover, hmem⟩ := hall entry List.mem_cons_self
    refine .head (.fill (.lost hi hover hmem)) (ih fun e he => ?_)
    exact hall e (List.mem_cons_of_mem _ he)

/-- A pipeline ends, and then its slots are given up. -/
theorem halted_retire_deeds (p : Nat) : Deeds who (m.halted p) (m.retire p) :=
  giveUp_deeds _ fun _ he => mem_abandoned_of_halted he

theorem retire_deeds (p : Nat) : Deeds who m (m.retire p) := .head (.halt p) (halted_retire_deeds p)

theorem foldl_retire_deeds (l : List Nat) : ∀ {m : Machine}, Deeds who m (l.foldl retire m) := by
  induction l with
  | nil => exact .refl
  | cons p rest ih => exact (retire_deeds p).trans ih

/-- A task lets its children go. -/
theorem release_deeds (k : Nat) (kept : List Nat) : Deeds who m (m.release k kept) := foldl_retire_deeds _

/-! ### Reading -/

/-- What a link that has somebody to blame tells is attributed. -/
theorem look_attributed (l : Link) (hl : l.blamed.isSome) :
    (Telling.keeping (Taken m)).holds (l.look receive) (Progress.Tells fun f => f.node.isSome) := by
  intro m' hm'
  refine ⟨fun f hf => ?_, hm'.trans ((linked_sees l).taken m')⟩
  have hfound : ∃ found : Poll Value, found.map (Except.mapError (Fault.blame? · l.blamed)) = some (.error f) := by
    rcases l with ⟨base, path, blamed⟩
    cases base with
    | ok base => exact ⟨(base.obtain? receive path m').1, hf⟩
    | error f₀ => exact ⟨some (.error f₀), hf⟩
  obtain ⟨found, hfound⟩ := hfound
  obtain ⟨o, -, ho⟩ := Option.map_eq_some_iff.mp hfound
  obtain ⟨node, hnode⟩ := Option.isSome_iff_exists.mp hl
  cases o with
  | ok v => cases ho
  | error f₀ =>
    cases ho
    rw [hnode]
    exact node_blame f₀ node

theorem link_blamed (reader : Option Nat) (node : Value) (blamed : Option Value) (text : String) :
    (m.link reader node blamed text).blamed = blamed := by
  unfold Machine.link
  split
  · rfl
  · split
    · simp only
      split <;> rfl
    · rfl

/-- The links of an output have somebody to blame. -/
theorem outputLinks_attributed (p : Nat) (i : Instance) : Output.Attributed (.linked (m.outputLinks p i)) := by
  refine Resolvable.progress_every _ fun l hl => ?_
  rw [Resolvable.map_awaited] at hl
  obtain ⟨text, -, rfl⟩ := List.mem_map.mp hl
  rw [link_blamed]
  rfl

/-- A look at an output that has not come about. -/
theorem lookOutput_deeds {p : Nat} (hnot : m.standing (.output p) = none) {r : Progress Link}
    (hr : m.Attributes p → Output.Attributed (.linked r)) : Deeds who m (m.lookOutput p r) := by
  have htaken : Taken m (r.look (Link.look receive) m).2 := (look_sees linked_sees r).taken m
  have hsifted : (r.look (Link.look receive) m).1.Sifted :=
    (Progress.look_sifted (Telling.keeping fun _ => True) (fun _ _ _ => ⟨trivial, trivial⟩) r m trivial).1
  have hattributed (h : m.Attributes p) : Output.Attributed (.linked (r.look (Link.look receive) m).1) :=
    (Progress.look_every (Telling.keeping (Taken m)) look_attributed r (hr h) m (Taken.refl m)).1
  unfold lookOutput
  generalize r.look (Link.look receive) m = looked at htaken hsifted hattributed ⊢
  obtain ⟨r', m'⟩ := looked
  refine .head (.take htaken) ?_
  have hnot' : m'.standing (.output p) = none := by
    have hinstances : m'.instances = m.instances := htaken.instances
    simp only [standing, hinstances] at hnot ⊢
    exact hnot
  have hgoes (h : m'.Attributes p) : Output.Attributed (.linked r') := by
    refine hattributed fun output houtput => h output ?_
    rw [htaken.instances]
    exact houtput
  cases r' with
  | done o => exact .head (.resolve o hnot' fun h => fun f hf => by subst hf; exact hgoes h) (halted_retire_deeds p)
  | pending l => exact .single (.link hnot' hgoes hsifted rfl)
  | parts whole items => exact .single (.link hnot' hgoes hsifted rfl)

theorem readOutput_deeds (p : Nat) : Deeds who m (m.readOutput p) := by
  unfold readOutput
  cases hi : m.instances[p]? with
  | none => exact .refl
  | some i =>
    simp only
    split
    case isFalse => exact .refl
    cases ho : i.output with
    | unread => exact lookOutput_deeds (standing_unknown hi fun o => by simp [ho]) fun _ => outputLinks_attributed p i
    | linked r =>
      refine lookOutput_deeds (standing_unknown hi fun o => by simp [ho]) fun h => h (.linked r) ?_
      rw [hi, Option.map_some, ho]
    | known o => exact .refl

theorem read_deeds (a : Awaited) : Deeds who m (m.read a) := by
  cases a with
  | output p => exact readOutput_deeds p
  | _ => exact .refl

/-- What is awaited is read. -/
theorem foldl_read_deeds (l : List Awaited) : ∀ {m : Machine}, Deeds who m (l.foldl read m) := by
  induction l with
  | nil => exact .refl
  | cons a rest ih => exact (read_deeds a).trans ih

/-! ### Starting children -/

theorem spawn_deeds {p child : Nat} {starter : Option Nat} {spec : Spec} {v : Value}
    (h : m.spawn (some p) starter spec v = .ok (child, m'))
    (hstarter : ∀ k, starter = some k → who = some k ∧ ∃ t, m.IsTask k t ∧ t.pipeline = some p) : Deeds who m m' := by
  obtain ⟨i, stages, hi, halive, hstages, -, rfl⟩ := spawn_cases h
  exact .head (.make hi halive hstages hstarter) (.single (.start child))

/-- A task starts a child for every input, for itself or to be kept. -/
theorem spawnAll_deeds {k p : Nat} {t : Task} {spec : Spec} (kept : Bool) (hp : t.pipeline = some p)
    (inputs : List Value) : ∀ {m : Machine}, m.IsTask k t →
      Deeds (some k) m (m.spawnAll t.pipeline (if kept then none else some k) spec inputs).2 := by
  induction inputs with
  | nil => exact fun _ => .refl
  | cons v rest ih =>
    intro m ht
    unfold spawnAll
    cases hv : m.spawn t.pipeline (if kept then none else some k) spec v with
    | error f => exact .refl
    | ok made =>
      obtain ⟨child, m'⟩ := made
      have hfirst : Deeds (some k) m m' := by
        rw [hp] at hv
        refine spawn_deeds hv fun k' hk => ?_
        obtain rfl := eq_of_starter hk
        exact ⟨rfl, t, ht, hp⟩
      exact hfirst.trans (ih (hfirst.extends'.isTask ht))

end Machine
end StageGraph
