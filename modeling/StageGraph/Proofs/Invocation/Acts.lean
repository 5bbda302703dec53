import StageGraph.Proofs.FanOut.Queues

/-! What a turn is made of, whatever the machine.

In its turn a task does deeds and may call its function (`Act`), and then it is put aside or is over (`Ends`). Nothing is
asked of the machine for that, nor of the task: it may work for a pipeline or for nobody (`turn_ends`). So what acts keep
is kept by turns. -/
namespace StageGraph

/-- Whether a task has had a turn. -/
def Phase.begun : Phase → Bool
  | .unstarted _ _ => false
  | _ => true

namespace Machine

variable {m m' m'' : Machine} {k : Nat} {t : Task}

/-- One thing that a task does in its turn before it is put aside. -/
inductive Act (k : Nat) (m : Machine) : Machine → Prop
  | deed {m' : Machine} : Deed (some k) m m' → Act k m m'
  | call {t : Task} (args : Fields) : m.IsTask k t → Act k m (m.noted k t args)

/-- Any number of acts. -/
abbrev Acts (k : Nat) : Machine → Machine → Prop := Relation.ReflTransGen (Act k)

theorem Deeds.acts (h : Deeds (some k) m m') : Acts k m m' :=
  Relation.ReflTransGen.mono (fun _ _ => .deed) _ _ h

/-- A task is at work, and then it is put aside or is over. -/
def Ends (k : Nat) (m m' : Machine) : Prop := ∃ m₁ phase, Acts k m m₁ ∧ phase.begun = true ∧ Closed k m₁ phase m'

theorem Ends.head (hacts : Acts k m m') (h : Ends k m' m'') : Ends k m m'' := by
  obtain ⟨m₁, phase, hrest, hclosed⟩ := h
  exact ⟨m₁, phase, hacts.trans hrest, hclosed⟩

theorem finish_ends (ht : m.IsTask k t) (o : Outcome) : Ends k m (m.finish k t o) := by
  have hreleased : Deeds (some k) m (m.release k []) := release_deeds k []
  have hfilled : Deed (some k) (m.release k []) ((m.release k []).fill t.slot (o.mapError (Fault.blame · t.node))) :=
    .fill (.result rfl (hreleased.extends'.isTask ht))
  exact ⟨_, .finished, Deeds.acts (hreleased.tail hfilled), rfl, .finished⟩

theorem collapse_ends (ht : m.IsTask k t) : Ends k m (m.collapse k t) := by
  obtain ⟨m₁, hdeeds, -, heq⟩ := collapse_deeds ht
  rw [heq]
  exact ⟨m₁, .finished, hdeeds.acts, rfl, .finished⟩

theorem settle_ends (ht : m.IsTask k t) (result : Progress Awaited) : Ends k m (m.settle k t result) := by
  have hread : Deeds (some k) m (result.awaited.foldl read m) := foldl_read_deeds _
  have ht' := hread.extends'.isTask ht
  rw [settle_cases]
  refine .head hread.acts ?_
  split
  · exact collapse_ends ht'
  rw [settled_eq]
  split
  · exact finish_ends ht' _
  · exact finish_ends ht' _
  · exact ⟨_, _, (release_deeds k _).acts, rfl, .park _⟩

/-- Nobody's task starts no child. -/
theorem spawnAll_works (ht : m.IsTask k t) (kept : Bool) (spec : Spec) (inputs : List Value) :
    Deeds (some k) m (m.spawnAll t.pipeline (if kept then none else some k) spec inputs).2 := by
  cases hp : t.pipeline with
  | some p =>
    rw [← hp]
    exact spawnAll_deeds kept hp inputs ht
  | none => cases inputs <;> exact .refl

theorem perform_ends : ∀ (reply : Reply) {m : Machine}, m.IsTask k t → Ends k m (perform k t reply m)
  | .give r, m, ht => by
    have hreleased : Deeds (some k) m (m.release k (givenChildren r)) := release_deeds k _
    exact .head hreleased.acts (settle_ends (hreleased.extends'.isTask ht) _)
  | .fail _, _, ht => finish_ends ht _
  | .panic _, _, ht => finish_ends ht _
  | .rest ms next, m, ht => by
    unfold Machine.perform
    split
    · exact perform_ends next ht
    · exact ⟨m, _, .refl, rfl, .park _⟩
  | .hang, m, _ => ⟨m, _, .refl, rfl, .hanging⟩
  | .start kept spec inputs next, m, ht => by
    have hspawned := spawnAll_works ht kept spec inputs
    unfold Machine.perform
    generalize m.spawnAll t.pipeline (if kept then none else some k) spec inputs = made at hspawned ⊢
    obtain ⟨result, m'⟩ := made
    have ht' := hspawned.extends'.isTask ht
    cases result with
    | error f => exact .head hspawned.acts (finish_ends ht' _)
    | ok children => exact .head hspawned.acts (perform_ends (next (children.map .held)) ht')

theorem call_ends (ht : m.IsTask k t) (args : Fields) : Ends k m (m.call k t args) := by
  unfold Machine.call
  split
  · exact finish_ends ht _
  · next bound _ =>
    exact .head (.single (.call bound ht)) (perform_ends _ ((m.noted_extends k t bound).isTask ht))

theorem gather_ends (ht : m.IsTask k t) (names : List String) (args : List (Progress Awaited)) :
    Ends k m (m.gather k t names args) := by
  have htaken := (lookThrough_sees ask_sees args).taken m
  have htake : Deed (some k) m (Progress.lookThrough ask args m).2 := .take htaken
  have ht' := htake.extends'.isTask ht
  unfold Machine.gather
  split
  · exact collapse_ends ht
  rw [collect_eq]
  refine .head (.single (.deed htake)) ?_
  split
  · exact ⟨_, _, .refl, rfl, .park _⟩
  · exact finish_ends ht' _
  · exact call_ends ht' _

/-- **What a turn is made of.** The task does something and is put aside or is over then, or it was over before or has no
end, or it is none. -/
theorem turn_ends (m : Machine) (k : Nat) : Ends k m.refreshed (m.turn k) ∨
    m.turn k = m.refreshed ∧ ∀ t, m.tasks[k]? = some t → t.phase = .hanging ∨ t.phase = .finished := by
  unfold Machine.turn
  simp only
  cases hget : m.refreshed.tasks[k]? with
  | none => exact .inr ⟨rfl, fun t ht => nomatch hget.symm.trans ht⟩
  | some t =>
    have ht : m.refreshed.IsTask k t := isTask_of_get hget
    simp only
    cases hphase : t.phase with
    | unstarted args positional =>
      simp only
      split
      · exact .inl (finish_ends ht _)
      · exact .inl (gather_ends ht _ _)
    | gathering names args => exact .inl (gather_ends ht _ _)
    | resting due next =>
      simp only
      split
      · exact .inl (perform_ends next ht)
      · exact .inl ⟨_, _, .refl, rfl, .park _⟩
    | settling result => exact .inl (settle_ends ht result)
    | hanging =>
      refine .inr ⟨rfl, fun t' ht' => ?_⟩
      cases hget.symm.trans ht'
      exact .inl hphase
    | finished =>
      refine .inr ⟨rfl, fun t' ht' => ?_⟩
      cases hget.symm.trans ht'
      exact .inr hphase

end Machine
end StageGraph
