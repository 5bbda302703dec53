import Mathlib.Data.List.Forall2
import StageGraph.Proofs.Resolvable.Indexing
import StageGraph.Proofs.Resolvable.Waiting

/-! Where a path leads, and what it waits for on the way.

A path goes through sequences and mappings by itself, until it comes to a pending value. It waits for that one, and since
what comes of it is finished, it waits for no other (`navigate_gate`). So nothing matters but what the path selects: with
anything else in its place where the path does not lead, all that is done on the way is the same (`navigate_sameAlong`). -/
namespace StageGraph.Resolvable

variable {π : Type} {m : Type → Type} [Monad m] {ask : π → m (Poll Value)}

/-! ### The value that a path waits for -/

/-- The pending value that a path comes to, and the rest of the path behind it. -/
def gate? : Resolvable π → Path → Option (π × Path)
  | pending p, path => some (p, path)
  | _, [] => none
  | r, segment :: rest =>
    match r.step segment with
    | .ok next => next.gate? rest
    | .error _ => none

/-- A pending value that lies on a path. -/
inductive OnPath : Resolvable π → Path → π → Prop
  | here (p : π) (path : Path) : OnPath (pending p) path p
  | further {r next : Resolvable π} {segment : String} {rest : Path} {p : π} (selected : r.step segment = .ok next)
    (below : OnPath next rest p) : OnPath r (segment :: rest) p

/-- What comes of the rest of a path, by what is told of the value in front of it. -/
def beyond (rest : Path) : Poll Value → Poll (Resolvable π)
  | some (.ok v) => (ready v).navigate (m := Id) (fun _ => none) rest
  | some (.error f) => some (.error f)
  | none => none

theorem await_eq {r : Resolvable π} (h : ∀ p, r ≠ pending p) : r.await ask = pure (some (.ok r)) := by
  cases r with
  | pending p => exact absurd rfl (h p)
  | _ => rfl

theorem gate?_pending (p : π) (path : Path) : (pending p).gate? path = some (p, path) := by
  cases path <;> rfl

section

variable {r next : Resolvable π} {segment : String} {rest : Path} {cause : Cause} (hfound : ∀ p, r ≠ pending p)
include hfound

theorem gate?_step (hstep : r.step segment = .ok next) : r.gate? (segment :: rest) = next.gate? rest := by
  rw [gate?, hstep]
  exact hfound

theorem gate?_astray (hstep : r.step segment = .error cause) : r.gate? (segment :: rest) = none := by
  rw [gate?, hstep]
  exact hfound

variable [LawfulMonad m]

theorem navigate_step (hstep : r.step segment = .ok next) :
    r.navigate ask (segment :: rest) = next.navigate ask rest := by
  rw [navigate, await_eq hfound, pure_bind]
  simp only [hstep]

theorem navigate_astray (hstep : r.step segment = .error cause) :
    r.navigate ask (segment :: rest) = pure (some (.error ⟨cause, none⟩)) := by
  rw [navigate, await_eq hfound, pure_bind]
  simp only [hstep]

end

theorem ready_found (v : Value) (p : π) : ready v ≠ pending p := fun h => by cases h

/-- What a path comes to lies on it. -/
theorem gate?_onPath (path : Path) : ∀ {r : Resolvable π} {p : π} {rest : Path},
    r.gate? path = some (p, rest) → r.OnPath path p := by
  induction path with
  | nil =>
    intro r p rest h
    cases r with
    | pending q =>
      cases h
      exact .here _ _
    | _ => cases h
  | cons segment more ih =>
    intro r p rest h
    cases r with
    | pending q =>
      cases h
      exact .here _ _
    | _ =>
      simp only [gate?] at h
      split at h
      · next next hstep => exact .further hstep (ih h)
      · cases h

/-- What lies on a path is part of the tree. -/
theorem onPath_awaited {r : Resolvable π} {path : Path} {p : π} (h : r.OnPath path p) : p ∈ r.awaited := by
  induction h with
  | here p path => exact List.mem_singleton_self p
  | further selected _ ih => exact step_awaited selected _ ih

/-- A path comes to whatever lies on it. -/
theorem onPath_gate? {r : Resolvable π} {path : Path} {p : π} (h : r.OnPath path p) :
    ∃ rest, r.gate? path = some (p, rest) := by
  induction h with
  | here p path => exact ⟨path, gate?_pending p path⟩
  | @further r next segment rest p selected below ih =>
    cases r with
    | pending q => cases selected
    | _ =>
      simp only [gate?, selected]
      exact ih

/-- A step into a finished value leads to a finished value. -/
theorem step_ready {v : Value} {segment : String} {next : Resolvable π}
    (h : (ready v : Resolvable π).step segment = .ok next) : ∃ w, next = ready w := by
  cases v with
  | array items =>
    rw [step_array] at h
    obtain ⟨w, -, hw⟩ := List.mem_map.mp (select_ok h)
    exact ⟨w, hw.symm⟩
  | object fields =>
    simp only [step] at h
    split at h
    · cases h
      exact ⟨_, rfl⟩
    · cases h
  | _ => cases h

variable [LawfulMonad m]

/-- A finished value keeps nobody waiting. -/
theorem navigate_ready (path : Path) : ∀ v : Value,
    (ready v : Resolvable π).navigate ask path = pure ((ready v).navigate (m := Id) (fun _ => none) path) := by
  induction path with
  | nil => exact fun v => rfl
  | cons segment rest ih =>
    intro v
    cases hstep : (ready v : Resolvable π).step segment with
    | ok next =>
      obtain ⟨w, rfl⟩ := step_ready hstep
      rw [navigate_step (ready_found v) hstep, navigate_step (ready_found v) hstep, ih w]
    | error cause =>
      rw [navigate_astray (ready_found v) hstep, navigate_astray (ready_found v) hstep]
      rfl

/-- Through a finished value, a path leads somewhere or nowhere at once. -/
theorem navigate_ready_isSome (path : Path) : ∀ v : Value,
    ((ready v : Resolvable π).navigate (m := Id) (fun _ => none) path).isSome := by
  induction path with
  | nil => exact fun _ => rfl
  | cons segment rest ih =>
    intro v
    cases hstep : (ready v : Resolvable π).step segment with
    | ok next =>
      obtain ⟨w, rfl⟩ := step_ready hstep
      rw [navigate_step (ready_found v) hstep]
      exact ih w
    | error cause =>
      rw [navigate_astray (ready_found v) hstep]
      rfl

theorem beyond_isSome (rest : Path) (o : Outcome) : (beyond (π := π) rest (some o)).isSome := by
  cases o with
  | ok v => exact navigate_ready_isSome rest v
  | error f => rfl

/-- **A path waits for one value at most**: for the pending one that it comes to first. -/
theorem navigate_gate (path : Path) : ∀ r : Resolvable π, r.navigate ask path =
    match r.gate? path with
    | some (p, rest) => do return beyond rest (← ask p)
    | none => pure (r.navigate (m := Id) (fun _ => none) path) := by
  induction path with
  | nil =>
    intro r
    cases r with
    | pending p =>
      simp only [gate?, navigate, await]
      refine bind_congr fun told => ?_
      rcases told with - | f | v <;> rfl
    | _ => rfl
  | cons segment rest ih =>
    intro r
    by_cases hfound : ∀ p, r ≠ pending p
    · cases hstep : r.step segment with
      | ok next =>
        rw [gate?_step hfound hstep, navigate_step hfound hstep, navigate_step hfound hstep]
        exact ih next
      | error cause =>
        rw [gate?_astray hfound hstep, navigate_astray hfound hstep, navigate_astray hfound hstep]
        rfl
    · obtain ⟨p, hp⟩ := not_forall.mp hfound
      cases not_not.mp hp
      simp only [gate?, navigate, await, bind_assoc, pure_bind]
      refine bind_congr fun told => ?_
      rcases told with - | f | v
      · rfl
      · rfl
      · have hready : (ready v).navigate ask (segment :: rest) = _ := navigate_ready (segment :: rest) v
        simp only [navigate, await, pure_bind] at hready
        exact hready

/-! ### What a path does not select -/

/-- The second tree is the first one with anything else where a path does not lead: for the other elements of a sequence,
and for all entries of a mapping but the first one with the key. Lengths and keys are the same. -/
def SameAlong : Path → Resolvable π → Resolvable π → Prop
  | segment :: rest, sequence items, sequence items' => items'.length = items.length ∧
      ∀ k a a', Path.index? segment = some k → items[k]? = some a → items'[k]? = some a' → SameAlong rest a a'
  | segment :: rest, mapping entries, mapping entries' => entries'.map Prod.fst = entries.map Prod.fst ∧
      ∀ a a', entries.lookup segment = some a → entries'.lookup segment = some a' → SameAlong rest a a'
  | _, r, r' => r' = r

variable {path : Path} {r r' : Resolvable π}

/-- What a list of keys holds under a key is there just if the key is. -/
theorem lookup_isSome {α : Type} (key : String) (entries : List (String × α)) :
    (entries.lookup key).isSome = (entries.map Prod.fst).contains key := by
  induction entries with
  | nil => rfl
  | cons entry rest ih =>
    obtain ⟨k, a⟩ := entry
    rw [List.lookup_cons, List.map_cons, List.contains_cons, ← ih]
    cases hkey : key == k <;> simp

theorem onPath_cons {segment : String} {rest : Path} {p : π} (h : ∀ p, r ≠ pending p) :
    r.OnPath (segment :: rest) p ↔ ∃ next, r.step segment = .ok next ∧ next.OnPath rest p := by
  constructor
  · intro hon
    cases hon with
    | here => exact absurd rfl (h p)
    | further selected below => exact ⟨_, selected, below⟩
  · rintro ⟨next, selected, below⟩
    exact .further selected below

/-- Trees that are the same along a path are the same, or not pending themselves, and then a step leads in both to trees
that are the same along the rest. -/
theorem sameAlong_step {segment : String} {rest : Path} (h : SameAlong (segment :: rest) r r') :
    r' = r ∨ ((∀ p, r ≠ pending p) ∧ ∀ p, r' ≠ pending p) ∧
      ((∃ cause, r.step segment = .error cause ∧ r'.step segment = .error cause) ∨
        ∃ a a', r.step segment = .ok a ∧ r'.step segment = .ok a' ∧ SameAlong rest a a') := by
  cases r <;> cases r' <;> try exact .inl h
  case sequence.sequence items items' =>
    refine .inr ⟨⟨by simp, by simp⟩, ?_⟩
    obtain ⟨hlength, hsame⟩ := h
    simp only [step, select]
    cases hindex : Path.index? segment with
    | none => exact .inl ⟨_, rfl, rfl⟩
    | some k =>
      by_cases hk : k < items.length
      · have hk' : k < items'.length := hlength ▸ hk
        simp only [List.getElem?_eq_getElem hk, List.getElem?_eq_getElem hk']
        exact .inr ⟨_, _, rfl, rfl, hsame k _ _ hindex (List.getElem?_eq_getElem hk) (List.getElem?_eq_getElem hk')⟩
      · have hk' : ¬k < items'.length := hlength ▸ hk
        simp only [List.getElem?_eq_none (Nat.not_lt.mp hk), List.getElem?_eq_none (Nat.not_lt.mp hk')]
        exact .inl ⟨_, rfl, by rw [hlength]⟩
  case mapping.mapping entries entries' =>
    refine .inr ⟨⟨by simp, by simp⟩, ?_⟩
    obtain ⟨hkeys, hsame⟩ := h
    have hsome : (entries'.lookup segment).isSome = (entries.lookup segment).isSome := by
      rw [lookup_isSome, lookup_isSome, hkeys]
    simp only [step]
    cases ha : entries.lookup segment with
    | none =>
      rw [ha, Option.isSome_none, Option.isSome_eq_false_iff, Option.isNone_iff_eq_none] at hsome
      rw [hsome]
      exact .inl ⟨_, rfl, rfl⟩
    | some a =>
      rw [ha] at hsome
      obtain ⟨a', ha'⟩ := Option.isSome_iff_exists.mp hsome
      rw [ha']
      exact .inr ⟨a, a', rfl, rfl, hsame a a' ha ha'⟩

/-- **Where a path leads, and all that is done on the way, is the same** in trees that are the same along it. -/
theorem navigate_sameAlong (path : Path) : ∀ {r r' : Resolvable π}, SameAlong path r r' →
    r'.navigate ask path = r.navigate ask path := by
  induction path with
  | nil =>
    intro r r' h
    rw [show r' = r from h]
  | cons segment rest ih =>
    intro r r' h
    rcases sameAlong_step h with rfl | ⟨⟨hr, hr'⟩, hstep⟩
    · rfl
    · simp only [navigate, await_eq hr, await_eq hr', pure_bind]
      rcases hstep with ⟨cause, hfails, hfails'⟩ | ⟨a, a', hleads, hleads', hsame⟩
      · simp only [hfails, hfails']
      · simp only [hleads, hleads']
        exact ih hsame

/-- Trees that are the same along a path have the same pending values on it. -/
theorem onPath_sameAlong (path : Path) : ∀ {r r' : Resolvable π}, SameAlong path r r' → ∀ {p : π},
    (r'.OnPath path p ↔ r.OnPath path p) := by
  induction path with
  | nil =>
    intro r r' h p
    rw [show r' = r from h]
  | cons segment rest ih =>
    intro r r' h p
    rcases sameAlong_step h with rfl | ⟨⟨hr, hr'⟩, hstep⟩
    · exact Iff.rfl
    · rw [onPath_cons hr, onPath_cons hr']
      rcases hstep with ⟨cause, hfails, hfails'⟩ | ⟨a, a', hleads, hleads', hsame⟩
      · simp only [hfails, hfails', reduceCtorEq, false_and, exists_false]
      · simp only [hleads, hleads', Except.ok.injEq, exists_eq_left', ih hsame]

end StageGraph.Resolvable
