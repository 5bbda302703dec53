import StageGraph.Proofs.Deferred.Patience
import StageGraph.Proofs.Resolvable.Deciding

/-! One path after the other.

A path may be followed in two parts. Where the first part ends, the value is awaited, and where the second one begins, it is
awaited again; but what has been awaited is not pending any more, so nobody is asked twice (`await_navigate`). Every other
wait belongs to a step of one of the parts (`navigate_append`). On a shelf, where whoever waits asks again and again from the
beginning of the path, the same holds of the waiting as a whole, since no path waits for more than one value
(`navigate_composes`). -/
namespace StageGraph

namespace Resolvable

variable {π : Type} {m : Type → Type} [Monad m] {ask : π → m (Poll Value)} {r : Resolvable π}

/-- Follows a path, and from where it leads, another one. -/
def navigateOn (ask : π → m (Poll Value)) (r : Resolvable π) (first second : Path) : m (Poll (Resolvable π)) := do
  match ← r.navigate ask first with
  | some (.ok found) => found.navigate ask second
  | unfinished => pure unfinished

/-- Asking on the record. -/
def onRecord (view : π → Poll Value) (p : π) : StateM (List π) (Poll Value) := fun asked => (view p, asked ++ [p])

/-- The pending values that are awaited along a path, in order. -/
def awaitedAlong (view : π → Poll Value) (r : Resolvable π) (path : Path) : List π :=
  (r.navigate (onRecord view) path []).2

theorem gate?_append (first second : Path) : ∀ {r : Resolvable π} {p : π} {rest : Path},
    r.gate? first = some (p, rest) → r.gate? (first ++ second) = some (p, rest ++ second) := by
  induction first with
  | nil =>
    intro r p rest h
    cases r with
    | pending q =>
      cases h
      exact gate?_pending p second
    | _ => cases h
  | cons segment more ih =>
    intro r p rest h
    cases r with
    | pending q =>
      cases h
      rfl
    | _ =>
      simp only [gate?, List.cons_append] at h ⊢
      split at h
      · next next hstep => exact ih h
      · cases h

/-- In a finished value, a path comes to nothing that is pending. -/
theorem gate?_ready (v : Value) (path : Path) : (ready v : Resolvable π).gate? path = none := by
  refine Option.eq_none_iff_forall_not_mem.mpr fun gate hgate => ?_
  cases onPath_awaited (gate?_onPath path hgate)

/-- Where nothing is awaited on the way, a path leads somewhere, or nowhere, at once. -/
theorem navigate_of_gate? {path : Path} (h : r.gate? path = none) :
    (r.navigate (m := Id) (fun _ => none) path).isSome := by
  -- nobody is asked, so everybody may as well have an answer
  have hasked : r.navigate (m := Id) (fun _ => some (.ok .null)) path = _ := navigate_gate path r
  rw [h] at hasked
  have htold : ∀ p ∈ r.awaited, ((fun _ => some (.ok .null) : π → Poll Value) p).isSome := fun _ _ => rfl
  obtain ⟨o, ho, -⟩ := navigate_isSome path htold
  exact Option.isSome_iff_exists.mpr ⟨o, hasked.symm.trans ho⟩

variable [LawfulMonad m]

/-- What has been awaited is not awaited again. -/
theorem await_navigate (ask : π → m (Poll Value)) (r : Resolvable π) (path : Path) :
    (do match ← r.await ask with
      | some (.ok found) => found.navigate ask path
      | unfinished => pure unfinished) = r.navigate ask path := by
  cases r with
  | pending p =>
    simp only [await, bind_assoc, pure_bind]
    cases path with
    | nil =>
      simp only [navigate, await]
      refine bind_congr fun told => ?_
      rcases told with - | f | v <;> rfl
    | cons segment rest =>
      simp only [navigate, await, bind_assoc, pure_bind]
      refine bind_congr fun told => ?_
      rcases told with - | f | v
      · rfl
      · rfl
      · simp only [Option.map_some, Except.map, pure_bind]
  | _ => simp only [await, pure_bind]

/-- **One path after the other is the whole path**, whoever is asked and whatever asking changes. -/
theorem navigate_append (ask : π → m (Poll Value)) (first second : Path) : ∀ r : Resolvable π,
    r.navigate ask (first ++ second) = r.navigateOn ask first second := by
  induction first with
  | nil => exact fun r => (await_navigate ask r second).symm
  | cons segment rest ih =>
    intro r
    simp only [List.cons_append, navigateOn, navigate, bind_assoc]
    refine bind_congr fun told => ?_
    rcases told with - | f | found
    · simp only [pure_bind]
    · simp only [pure_bind]
    · cases hstep : found.step segment with
      | ok next =>
        simp only [hstep]
        exact ih next
      | error cause => simp only [hstep, pure_bind]

/-- The record is only written: what is told is the same, and who is asked comes behind those before. -/
theorem navigate_onRecord (view : π → Poll Value) (path : Path) (r : Resolvable π) (asked : List π) :
    r.navigate (onRecord view) path asked =
      (r.navigate (m := Id) view path, asked ++ r.awaitedAlong view path) := by
  have hrecord : r.navigate (onRecord view) path = _ := navigate_gate path r
  have hview : r.navigate (m := Id) view path = _ := navigate_gate path r
  rw [awaitedAlong, hrecord, hview]
  cases r.gate? path with
  | none => exact congrArg (Prod.mk _) (List.append_nil asked).symm
  | some gate => rfl

/-- What is awaited along two paths is what is awaited along the first one, and then what is awaited along the second one
from where the first one leads, if it leads anywhere. -/
theorem awaitedAlong_append (view : π → Poll Value) (r : Resolvable π) (first second : Path) :
    r.awaitedAlong view (first ++ second) = r.awaitedAlong view first ++
      match r.navigate (m := Id) view first with
      | some (.ok found) => found.awaitedAlong view second
      | _ => [] := by
  have hrecord : (r.navigateOn (onRecord view) first second []).2 =
      (StateT.run (m := Id) (match (r.navigate (onRecord view) first []).1 with
        | some (.ok found) => found.navigate (onRecord view) second
        | unfinished => pure unfinished) (r.awaitedAlong view first)).2 := rfl
  rw [awaitedAlong, navigate_append, hrecord, navigate_onRecord]
  rcases r.navigate (m := Id) view first with - | f | found
  · exact (List.append_nil _).symm
  · exact (List.append_nil _).symm
  · exact congrArg Prod.snd (navigate_onRecord view second found _)

end Resolvable

namespace Shelf

variable {s : Shelf} {r : Resolvable Nat}

/-- Waits for where a path leads, and follows another one from there. -/
def navigateOn (r : Resolvable Nat) (first second : Path) : StateM Shelf (Poll (Resolvable Nat)) := do
  match ← Shelf.navigate r first with
  | some (.ok found) => Shelf.navigate found second
  | unfinished => pure unfinished

theorem navigateOn_eq (r : Resolvable Nat) (first second : Path) (s : Shelf) : navigateOn r first second s =
    match (Shelf.navigate r first s).1 with
    | some (.ok found) => Shelf.navigate found second (Shelf.navigate r first s).2
    | unfinished => (unfinished, (Shelf.navigate r first s).2) := by
  show StateT.run (m := Id) (match (Shelf.navigate r first s).1 with
    | some (.ok found) => Shelf.navigate found second
    | unfinished => pure unfinished) (Shelf.navigate r first s).2 = _
  rcases (Shelf.navigate r first s).1 with - | f | found <;> rfl

/-- Who has an answer does not wait. -/
theorem wait_answer {α : Type} (answer : Except Fault α) (fuel : Nat) (s : Shelf) :
    wait (pure (some answer)) fuel s = (some answer, s) := by
  cases fuel with
  | zero => rfl
  | succ fuel => exact wait_answered rfl

/-- A path that comes to no pending value takes no time. -/
theorem navigate_at_once {path : Path} (h : r.gate? path = none) (s : Shelf) :
    Shelf.navigate r path s = (r.navigate (m := Id) (fun _ => none) path, s) := by
  obtain ⟨answer, hanswer⟩ := Option.isSome_iff_exists.mp (Resolvable.navigate_of_gate? h)
  show wait (r.navigate (ask s.depth) path) s.items.size s = _
  rw [Resolvable.navigate_gate, h, hanswer]
  exact wait_answer answer s.items.size s

/-- A path that comes to a pending value waits for that one. -/
theorem navigate_waits {path rest : Path} {p : Nat} (h : r.gate? path = some (p, rest)) (s : Shelf) :
    Shelf.navigate r path s =
      (Resolvable.beyond rest (wait (ask s.depth p) s.items.size s).1, (wait (ask s.depth p) s.items.size s).2) := by
  show wait (r.navigate (ask s.depth) path) s.items.size s = _
  rw [Resolvable.navigate_gate, h]
  exact wait_map rfl (Resolvable.beyond_isSome rest) s.items.size s

/-- Nothing is awaited behind the value that a path has waited for. -/
theorem navigate_behind (rest : Path) (v : Value) (s : Shelf) :
    Shelf.navigate (.ready v) rest s = (Resolvable.beyond rest (some (.ok v)), s) :=
  navigate_at_once (Resolvable.gate?_ready v rest) s

/-- Where the first path takes no time, all waiting is for the second one. -/
theorem navigate_append_at_once {first : Path} (h : r.gate? first = none) (second : Path) (s : Shelf) :
    Shelf.navigate r (first ++ second) s = navigateOn r first second s := by
  obtain ⟨answer, hanswer⟩ := Option.isSome_iff_exists.mp (Resolvable.navigate_of_gate? h)
  have hfirst (depth : Nat) : r.navigate (ask depth) first = pure (some answer) := by
    rw [Resolvable.navigate_gate, h, hanswer]
  rw [navigateOn_eq, navigate_at_once h, hanswer]
  show wait (r.navigate (ask s.depth) (first ++ second)) s.items.size s = _
  rw [Resolvable.navigate_append, Resolvable.navigateOn, hfirst, pure_bind]
  cases answer with
  | error f => exact wait_answer _ _ _
  | ok found => rfl

/-- **Waiting along one path after the other is waiting along the whole path.** -/
theorem navigate_append (r : Resolvable Nat) (first second : Path) (s : Shelf) :
    Shelf.navigate r (first ++ second) s = navigateOn r first second s := by
  cases hgate : r.gate? first with
  | none => exact navigate_append_at_once hgate second s
  | some gate =>
    obtain ⟨p, rest⟩ := gate
    rw [navigateOn_eq, navigate_waits hgate, navigate_waits (Resolvable.gate?_append first second hgate)]
    generalize wait (ask s.depth p) s.items.size s = waited
    obtain ⟨told, s'⟩ := waited
    rcases told with - | f | v
    · rfl
    · rfl
    · -- the value is there now, and what is left of the first path takes no time in it
      have hready := navigate_append_at_once (Resolvable.gate?_ready v rest) second s'
      rw [navigateOn_eq, navigate_behind, navigate_behind] at hready
      exact hready

/-- **Navigation composes.** To follow one path after another is to follow the joined path: whoever waits on a shelf comes to
the same result or the same failure, and leaves the same shelf at the same time. It is so however values are asked for, and
whatever asking changes; in particular the pending values that are awaited along the joined path are those along the first
path, and behind them those along the second one from where the first one leads, in this order. -/
theorem navigate_composes (first second : Path) :
    (∀ (r : Resolvable Nat) (s : Shelf), Shelf.navigate r (first ++ second) s = navigateOn r first second s) ∧
      (∀ {π : Type} {m : Type → Type} [Monad m] [LawfulMonad m] (ask : π → m (Poll Value)) (r : Resolvable π),
        r.navigate ask (first ++ second) = r.navigateOn ask first second) ∧
      ∀ {π : Type} (view : π → Poll Value) (r : Resolvable π), r.awaitedAlong view (first ++ second) =
        r.awaitedAlong view first ++
          match r.navigate (m := Id) view first with
          | some (.ok found) => found.awaitedAlong view second
          | _ => [] :=
  ⟨fun r s => navigate_append r first second s, fun ask r => Resolvable.navigate_append ask first second r,
    fun view r => Resolvable.awaitedAlong_append view r first second⟩

/-- A mapping whose entry has a value that never comes and one that comes later. -/
def latecomers : Resolvable Nat := .mapping [("a", .sequence [.pending 1, .pending 0])]

/-- The first path ends in front of the pending values, and the second one waits for the one that it leads to. -/
theorem second_path_waits :
    navigateOn latecomers ["a"] ["1", "k"] ⟨0, #[.after 30 (.ok (.object [("k", .null)])), .never false]⟩ =
      (some (.ok (.ready .null)), ⟨30, #[.delay 30 (.ok (.object [("k", .null)])) (some 30), .never false]⟩) ∧
    latecomers.navigateOn (Resolvable.onRecord fun _ => some (.ok .null)) ["a"] ["1", "k"] [] =
      (some (.error ⟨.notNavigable "k" "null", none⟩), [0]) ∧
    latecomers.awaitedAlong (fun _ => some (.ok .null)) ["a", "1", "k"] = [0] := by
  obtain ⟨hshelf, hrecord, hawaited⟩ := navigate_composes ["a"] ["1", "k"]
  refine ⟨(hshelf latecomers _).symm.trans rfl, ?_, (hawaited _ latecomers).trans rfl⟩
  rw [← hrecord]
  rfl

end Shelf
end StageGraph
