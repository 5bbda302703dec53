import StageGraph.Proofs.Attribution.Coming
import StageGraph.Proofs.Machine.Blame
import StageGraph.Proofs.Registry.Catalog

/-! Faults that have nothing to do with the end of a pipeline.

A fault is genuine if its cause is none of those that only the end of a pipeline brings about. Documents that cannot be
read, functions that are not there, arguments and results that do not conform and paths that lead nowhere all make
genuine faults. A function is honest if whatever it fails with itself is genuine and the children whose outputs it gives
are its own (`Function.Honest`). The functions of control flow are, and so is every registry that honest functions are
added to (`Registry.honest_register`). -/
namespace StageGraph

/-- A fault that does not come from the end of a pipeline. -/
def Fault.Genuine (f : Fault) : Prop := f.cause.ofEnd = false

theorem Fault.genuine_blame {f : Fault} (node : Value) : (f.blame node).Genuine ↔ f.Genuine := by
  unfold Fault.blame
  split <;> exact Iff.rfl

theorem Fault.genuine_blame? {f : Fault} (blamed : Option Value) : (f.blame? blamed).Genuine ↔ f.Genuine := by
  cases blamed with
  | none => exact Iff.rfl
  | some node => exact genuine_blame node

/-- An outcome that is no failure, or a genuine one. -/
abbrev Outcome.Genuine (o : Outcome) : Prop := FailsOnly Fault.Genuine o

/-- A cause that becomes a fault of no node. -/
theorem Outcome.genuine_of_cause {x : Except Cause Value} (h : FailsOnly (fun cause => cause.ofEnd = false) x) :
    Outcome.Genuine (x.mapError fun cause => ⟨cause, none⟩) := by
  cases x with
  | ok v => exact .ok v
  | error cause => exact .error (h cause rfl)

/-! ### What goes wrong before anything is called -/

theorem Spec.Misread.genuine {document : Value} {f : Fault} (h : Misread document f) : f.Genuine := by
  cases h <;> rfl

/-- A document that cannot be read is a genuine failure. -/
theorem Spec.parse_genuine (document : Value) : FailsOnly Fault.Genuine (parse document) :=
  fun f hf => (parse_misread document f hf).genuine

theorem Machine.functionsOf_genuine (m : Machine) (spec : Spec) : FailsOnly Fault.Genuine (m.functionsOf spec) := by
  intro f hf
  obtain ⟨s, -, -, rfl⟩ := functionsOf_error hf
  rfl

theorem Machine.matchInputs_genuine (spec : Spec) (supplied : List (String × Value)) :
    FailsOnly Fault.Genuine (matchInputs spec supplied) := by
  unfold matchInputs
  simp only
  split
  · refine .mapM fun name _ => ?_
    split
    · exact .ok _
    · exact .error rfl
  · exact .error rfl

namespace Function

theorem bindParams_genuine (function : String) (params : List Param) : ∀ args : Fields,
    FailsOnly (fun cause => cause.ofEnd = false) (bindParams function params args) := by
  induction params with
  | nil => exact fun args => .ok args
  | cons p rest ih =>
    intro args
    unfold bindParams
    split
    · split
      · exact ih args
      · exact .error rfl
    · split
      · exact ih _
      · exact .error rfl

theorem bindArguments_genuine (f : Function) (args : Fields) :
    FailsOnly (fun cause => cause.ofEnd = false) (f.bindArguments args) := by
  unfold bindArguments
  split
  · exact .error rfl
  · exact bindParams_genuine _ _ _

theorem checkOutput_genuine (f : Function) (v : Value) :
    FailsOnly (fun cause => cause.ofEnd = false) (f.checkOutput v) := by
  unfold checkOutput
  split
  · exact .ok v
  · exact .error rfl

end Function

/-! ### Paths -/

namespace Resolvable

theorem select_genuine {α : Type} (items : List α) (segment found : String) :
    FailsOnly (fun cause => cause.ofEnd = false) (select items segment found) := by
  unfold select
  split
  · exact .error rfl
  · split
    · exact .ok _
    · exact .error rfl

theorem step_genuine {π : Type} (segment : String) (r : Resolvable π) :
    FailsOnly (fun cause => cause.ofEnd = false) (r.step segment) := by
  unfold step
  split
  · exact (select_genuine _ _ _).map _
  · split
    · exact .ok _
    · exact .error rfl
  · exact select_genuine _ _ _
  · split
    · exact .ok _
    · exact .error rfl
  · exact .error rfl
  · exact .error rfl

/-- A path that leads nowhere does so for a reason of its own. -/
theorem astray?_genuine {π : Type} {known : π → Option Value} (path : Path) : ∀ {r : Resolvable π} {cause : Cause},
    r.astray? known path = some cause → cause.ofEnd = false := by
  induction path with
  | nil => exact nofun
  | cons segment rest ih =>
    intro r cause h
    obtain ⟨found, -, h⟩ := Option.bind_eq_some_iff.mp h
    cases hstep : found.step segment with
    | ok next =>
      rw [hstep] at h
      exact ih h
    | error cause' =>
      rw [hstep] at h
      cases h
      exact step_genuine segment found cause hstep

end Resolvable

/-! ### Honest functions -/

/-- A pending value that a function may give when it was given the outputs of some children: one of these, or one of its
own that neither fails with the end of a pipeline nor breaks down. The output of a pipeline is had from starting it, and
not otherwise. -/
def Promise.Honest (given : List Nat) : Promise → Prop
  | .later _ o => o.Genuine
  | .broken _ => False
  | .held c => c ∈ given

/-- A reply that fails with nothing that only the end of a pipeline brings about, and gives no outputs but those that
it is given, of children that it keeps and of others. -/
def Reply.Honest : Reply → List Nat → Prop
  | give r, given => ∀ p ∈ r.awaited, p.Honest given
  | fail f, _ => f.toFault.Genuine
  | panic _, _ => True
  | rest _ next, given => next.Honest given
  | hang, _ => True
  | start _ _ inputs next, given => ∀ children : List Nat, children.length = inputs.length →
    (next (children.map .held)).Honest (given ++ children)

/-- A function that is honest whatever it is called with. -/
def Function.Honest (f : Function) : Prop := ∀ c, (f.handler c).Honest []

def Registry.Honest (registry : Registry) : Prop := ∀ name f, registry.get? name = some f → f.Honest

/-- A failure that a function may have. -/
abbrev Failure.Genuine (f : Failure) : Prop := f.toFault.Genuine

theorem Reply.honest_value (v : Value) (given : List Nat) : (Reply.value v).Honest given := nofun

theorem Reply.honest_ofExcept {x : Except Failure Value} (h : FailsOnly Failure.Genuine x) (given : List Nat) :
    (Reply.ofExcept x).Honest given := by
  cases x with
  | ok v => exact honest_value v given
  | error f => exact h f rfl

/-! ### Control flow -/

theorem Call.get_genuine {α : Type} (c : Call) (read : Value → Option α) (name : String) :
    FailsOnly Failure.Genuine (c.get read name) := by
  unfold Call.get
  split
  · exact .error rfl
  · split
    · exact .ok _
    · exact .error rfl

namespace ControlFlow

theorem map_honest : map.Honest := by
  intro c
  show (mapHandler c).Honest []
  unfold mapHandler
  split
  · exact rfl
  · exact rfl
  · exact rfl
  · split
    · next f hf => exact Spec.parse_genuine _ f hf
    · intro children _ p hp
      change p ∈ Resolvable.awaitedItems _ at hp
      rw [Resolvable.awaitedItems_pending] at hp
      obtain ⟨c, hc, rfl⟩ := List.mem_map.mp hp
      exact List.mem_append_right _ hc

theorem firstMatch_genuine (value : String) (items : List (String × Value)) :
    FailsOnly Failure.Genuine (firstMatch value items) := by
  induction items with
  | nil => exact .ok none
  | cons item rest ih =>
    unfold firstMatch
    split
    · exact .error rfl
    · split
      · exact .ok _
      · exact ih

theorem remapRegex_honest : remapRegex.Honest := by
  intro c
  refine Reply.honest_ofExcept ?_ []
  unfold remap
  refine (Call.get_genuine c _ _).bind fun value => (Call.get_genuine c _ _).bind fun items => ?_
  exact (firstMatch_genuine value items).bind fun chosen => .ok _

theorem branch_genuine (c : Call) : FailsOnly Failure.Genuine (branch c) := by
  have hread (target : Value) : FailsOnly Failure.Genuine ((Spec.parse target).mapError Failure.ofFault) := by
    cases hspec : Spec.parse target with
    | ok spec => exact .ok spec
    | error f => exact .error (Spec.parse_genuine target f hspec)
  unfold branch
  refine (Call.get_genuine c _ _).bind fun value => (Call.get_genuine c _ _).bind fun items => ?_
  split
  · exact .error rfl
  · refine (firstMatch_genuine value items).bind fun chosen => ?_
    simp only
    split
    · exact hread _
    · exact .error rfl
    · exact hread _

theorem caseRegex_honest : caseRegex.Honest := by
  intro c
  show (caseHandler c).Honest []
  unfold caseHandler
  split
  · next f hf => exact branch_genuine c f hf
  · intro children hlength
    obtain ⟨child, rfl⟩ := List.length_eq_one_iff.mp hlength
    intro p hp
    rw [List.mem_singleton.mp hp]
    exact List.mem_singleton_self child

end ControlFlow

/-! ### Registries -/

namespace Registry

/-- An honest function may be added to honest ones. -/
theorem honest_register {r : Registry} {f : Function} (h : r.Honest) (hf : f.Honest) : (r.register f).Honest := by
  intro name g hg
  rw [get?_register] at hg
  split at hg
  · cases hg
    exact hf
  · exact h name g hg

theorem honest_registerAll {fs : List Function} : ∀ {r : Registry}, r.Honest → (∀ f ∈ fs, f.Honest) →
    (r.registerAll fs).Honest := by
  induction fs with
  | nil => exact fun h _ => h
  | cons f rest ih =>
    intro r h hfs
    exact ih (honest_register h (hfs f List.mem_cons_self)) fun g hg => hfs g (List.mem_cons_of_mem _ hg)

/-- **The functions of control flow are honest.** -/
theorem honest_builtins : builtins.Honest := by
  refine honest_registerAll (r := Registry.empty) (fun _ _ h => nomatch h) fun f hf => ?_
  simp only [List.mem_cons, List.not_mem_nil, or_false] at hf
  rcases hf with rfl | rfl | rfl
  · exact ControlFlow.map_honest
  · exact ControlFlow.remapRegex_honest
  · exact ControlFlow.caseRegex_honest

end Registry
end StageGraph
