import StageGraph.Proofs.Attribution.Tracing

/-! How pipelines are nested.

Around a pipeline are those that it was started in, one in another, out to the root (`Descends`). What a task starts for
itself ends with the pipeline of the task, whereas a child that is kept, or that is started by hand, stands apart: it
may outlive any of those around it. So it is in a pipeline that is built, no move changes it (`Move.nested`), and no
child that is started by hand does either.

A name is looked up outwards as long as pipelines live (`stageSlot?_eq`). The first one that has ended is where the
look-up ends, whoever lives further out. Whoever lives has keepers that live, and in their scope they come first
(`Descends.keepers_scope`): only past the last of them can the look-up end early. -/
namespace StageGraph.Machine

variable {m m' : Machine} {root : Nat}

/-- A pipeline, as it came about: the root, or a child with an input of its own, in the scope of its parent. -/
inductive Descends (m : Machine) (root : Nat) : Nat → Instance → Prop
  | root {i : Instance} : m.IsInstance root i → i.scope = [root] → i.keepers = [root] → Descends m root root i
  /-- A task of the parent started it for itself, and it ends with the parent. -/
  | started {p q : Nat} {i parent : Instance} {v : Value} : Descends m root q parent → m.IsInstance p i →
    i.input = .ready v → i.scope = p :: parent.scope → i.keepers = p :: parent.keepers → Descends m root p i
  /-- It was started in the parent by hand, or it is kept. -/
  | apart {p q : Nat} {i parent : Instance} {v : Value} : Descends m root q parent → m.IsInstance p i →
    i.input = .ready v → i.scope = p :: parent.scope → i.keepers = [p] → Descends m root p i

/-- Every pipeline descends from the root. -/
structure Nested (m : Machine) (root : Nat) : Prop where
  descends {p : Nat} {i : Instance} : m.IsInstance p i → m.Descends root p i
  present : root < m.instances.size

/-! ### Who is around a pipeline -/

theorem Extends.descends (he : m.Extends m') {p : Nat} {i : Instance} (h : m.Descends root p i) :
    m'.Descends root p i := by
  induction h with
  | root hi hscope hkeepers => exact .root (he.isInstance hi) hscope hkeepers
  | started _ hi hinput hscope hkeepers ih => exact .started ih (he.isInstance hi) hinput hscope hkeepers
  | apart _ hi hinput hscope hkeepers ih => exact .apart ih (he.isInstance hi) hinput hscope hkeepers

/-- The scope of a pipeline begins with itself. -/
theorem Descends.scope_head {p : Nat} {i : Instance} (h : m.Descends root p i) : ∃ outer, i.scope = p :: outer := by
  cases h with
  | root _ hscope _ => exact ⟨[], hscope⟩
  | started _ _ _ hscope _ => exact ⟨_, hscope⟩
  | apart _ _ _ hscope _ => exact ⟨_, hscope⟩

/-! ### What moves do -/

/-- A child is nested in its parent. -/
theorem Nested.under (h : m.Nested root) {p : Nat} {parent : Instance} (hparent : m.instances[p]? = some parent)
    (starter : Option Nat) (spec : Spec) (v : Value) (stages : List (Stage × Function)) :
    (m.assembled spec (.under parent starter v) stages).Nested root := by
  have he := m.assembled_extends spec (.under parent starter v) stages
  refine ⟨fun {q i} hi => ?_, Nat.lt_of_lt_of_le h.present (Array.size_push .. ▸ Nat.le_succ _)⟩
  have hdescends := he.descends (h.descends (isInstance_of_get hparent))
  rcases assembled_isInstance hi with hold | ⟨rfl, jobs, output, alive, rfl⟩
  · exact he.descends (h.descends hold)
  · cases starter with
    | some k => exact .started hdescends hi rfl rfl rfl
    | none => exact .apart hdescends hi rfl rfl rfl

/-- Nobody comes. -/
theorem Nested.same (h : m.Nested root) (he : m.Extends m')
    (hback : ∀ {p : Nat} {i : Instance}, m'.IsInstance p i → m.IsInstance p i) : m'.Nested root := by
  refine ⟨fun hi => he.descends (h.descends (hback hi)), ?_⟩
  exact (he.isInstance (isInstance_of_get (Array.getElem?_eq_getElem h.present))).lt

/-- **Moves leave pipelines nested as they were.** -/
theorem Move.nested (hmove : Move m m') (h : m.Nested root) : m'.Nested root := by
  cases hmove with
  | getOn he _ hinstances _ => exact h.same he (SameInstances.isInstance hinstances).mp
  | call => exact h.same (Move.extends' (.call ‹_› ‹_› ‹_›)) id
  | halt p he => exact h.same he halted_isInstance
  | spawn _ _ _ hparent _ _ _ => exact h.under hparent _ _ _ _

theorem nested_of_build {registry : Registry} {document : Value} {settings : Settings} {p : Nat}
    (hbuild : build { registry } document settings = .ok (p, m)) : m.Nested p := by
  obtain ⟨spec, stages, hspec, hstages, rfl, rfl⟩ := build_eq_ok hbuild
  refine ⟨fun {q i} hi => ?_, Nat.zero_lt_one⟩
  rcases assembled_isInstance hi with hold | ⟨rfl, jobs, output, alive, rfl⟩
  · exact absurd hold.lt (Nat.not_lt_zero q)
  · exact .root hi rfl rfl

/-! ### Where names lead -/

/-- The slot of a stage that a pipeline declares while it lives. -/
def declared? (m : Machine) (name : String) (p : Nat) : Option Nat :=
  (m.instances[p]?).bind fun i => if i.alive then List.lookup name i.stages else none

/-- **A name leads to the innermost pipeline that declares it, out to the first that has ended.** -/
theorem stageSlot?_eq (name : String) (scope : List Nat) :
    m.stageSlot? name scope = (scope.takeWhile m.alive).findSome? (m.declared? name) := by
  induction scope with
  | nil => rfl
  | cons p outer ih =>
    rw [stageSlot?, List.takeWhile_cons]
    cases hp : m.instances[p]? with
    | none =>
      have hdead : m.alive p = false := by
        unfold alive
        rw [hp]
      rw [hdead]
      rfl
    | some i =>
      have halive : m.alive p = i.alive := by
        unfold alive
        rw [hp]
      have hdeclared : m.declared? name p = if i.alive then List.lookup name i.stages else none := by
        unfold declared?
        rw [hp, Option.bind_some]
      rw [halive]
      cases hlives : i.alive with
      | false =>
        simp only [hlives]
        rfl
      | true =>
        simp only [hlives, if_true] at hdeclared ⊢
        rw [List.findSome?_cons, hdeclared]
        cases List.lookup name i.stages with
        | some s => rfl
        | none => exact ih

end StageGraph.Machine
