import StageGraph.Proofs.Resolvable.Waiting

/-! Other names for what is pending.

What is pending may go by any name, as long as asking by the new names tells what asking by the old ones tells: looks
(`look_map`) and paths (`obtain?_map`) come out the same. And asking in two places comes out the same as long as the two
tell the same (`Concur`), whatever they change on the way. -/
namespace StageGraph

variable {π ρ : Type}

namespace Progress

mutual

/-- A tree with other names for its pending parts. -/
def map (rename : π → ρ) : Progress π → Progress ρ
  | done o => done o
  | pending p => pending (rename p)
  | parts whole items => parts whole (mapAll rename items)

def mapAll (rename : π → ρ) : List (Progress π) → List (Progress ρ)
  | [] => []
  | r :: rest => r.map rename :: mapAll rename rest

end

variable (rename : π → ρ)

@[simp] theorem map_outcome? (r : Progress π) : (r.map rename).outcome? = r.outcome? := by
  cases r <;> rfl

@[simp] theorem map_failed (r : Progress π) : (r.map rename).failed = r.failed := by
  rcases r with (_ | _) | _ | _ <;> rfl

@[simp] theorem map_succeeded (r : Progress π) : (r.map rename).succeeded = r.succeeded := by
  rcases r with (_ | _) | _ | _ <;> rfl

theorem mapAll_length (items : List (Progress π)) : (mapAll rename items).length = items.length := by
  induction items with
  | nil => rfl
  | cons r rest ih => rw [mapAll, List.length_cons, List.length_cons, ih]

@[simp] theorem mapAll_crowded (items : List (Progress π)) : crowded (mapAll rename items) = crowded items := by
  rw [crowded, crowded, mapAll_length]

theorem mapAll_inTurn (items : List (Progress π)) : inTurn (mapAll rename items) = inTurn items := by
  induction items with
  | nil => rfl
  | cons r rest ih => rcases r with (_ | _) | _ | _ <;> simp only [mapAll, map, inTurn, ih]

theorem mapAll_together (items : List (Progress π)) : together (mapAll rename items) = together items := by
  induction items with
  | nil => rfl
  | cons r rest ih => rcases r with (_ | _) | _ | _ <;> simp only [mapAll, map, together, ih]

@[simp] theorem mapAll_gathered (items : List (Progress π)) : gathered (mapAll rename items) = gathered items := by
  rw [gathered, gathered, mapAll_crowded, mapAll_inTurn, mapAll_together]

mutual

theorem map_awaited : ∀ r : Progress π, (r.map rename).awaited = r.awaited.map rename
  | done _ => rfl
  | pending _ => rfl
  | parts _ items => mapAll_awaited items

theorem mapAll_awaited : ∀ items : List (Progress π),
    awaitedOfAll (mapAll rename items) = (awaitedOfAll items).map rename
  | [] => rfl
  | r :: rest => by
    rw [mapAll, awaitedOfAll, awaitedOfAll, List.map_append, map_awaited r, mapAll_awaited rest]

end

section

variable {m : Type → Type} [Monad m] [LawfulMonad m] (ask : ρ → m (Poll Value))

mutual

/-- A look does not care for names. -/
theorem look_map : ∀ r : Progress π,
    (r.map rename).look ask = (fun r' => r'.map rename) <$> r.look fun p => ask (rename p)
  | done o => by simp only [map, look, map_pure]
  | pending p => by
    simp only [map, look, map_bind]
    refine bind_congr fun told => ?_
    cases told <;> simp only [map_pure, map]
  | parts whole items => by
    simp only [map, look, mapAll_crowded, lookAll_map (crowded items) true items, bind_map_left, map_bind]
    refine bind_congr fun items' => ?_
    rw [mapAll_gathered]
    cases gathered items' <;> simp only [map_pure, map]

theorem lookAll_map (crowd : Bool) : ∀ (counts : Bool) (items : List (Progress π)),
    lookAll ask crowd counts (mapAll rename items) =
      mapAll rename <$> lookAll (fun p => ask (rename p)) crowd counts items
  | _, [] => by simp only [mapAll, lookAll, map_pure]
  | counts, r :: rest => by
    simp only [mapAll, lookAll, look_map r, bind_map_left, map_bind, map_failed, map_succeeded]
    refine bind_congr fun first => ?_
    split
    · simp only [map_pure, mapAll]
    · simp only [lookAll_map crowd _ rest, bind_map_left, map_bind, map_pure, mapAll]

end

end

section

variable {m : Type → Type} [Monad m] {ask ask' : π → m (Poll Value)}

mutual

/-- A look depends on what it asks for alone. -/
theorem look_congr : ∀ r : Progress π, (∀ p ∈ r.awaited, ask p = ask' p) → r.look ask = r.look ask'
  | done _, _ => by simp only [look]
  | pending p, h => by simp only [look, h p (List.mem_singleton_self p)]
  | parts whole items, h => by simp only [look, lookAll_congr (crowded items) true items h]

theorem lookAll_congr (crowd : Bool) : ∀ (counts : Bool) (items : List (Progress π)),
    (∀ p ∈ awaitedOfAll items, ask p = ask' p) → lookAll ask crowd counts items = lookAll ask' crowd counts items
  | _, [], _ => by simp only [lookAll]
  | counts, r :: rest, h => by
    have hrest (counts : Bool) := lookAll_congr crowd counts rest fun p hp => h p (List.mem_append_right _ hp)
    simp only [lookAll, look_congr r fun p hp => h p (List.mem_append_left _ hp), hrest]

end

end

theorem look_map_id (view : ρ → Poll Value) (r : Progress π) :
    (r.map rename).look (m := Id) view = (r.look (m := Id) fun p => view (rename p)).map rename :=
  look_map (m := Id) rename view r

end Progress

namespace Resolvable

variable (rename : π → ρ)

mutual

theorem map_progress : ∀ r : Resolvable π, (r.map rename).progress = r.progress.map rename
  | ready _ => rfl
  | pending _ => rfl
  | sequence items => by simp only [map, progress, Progress.map, mapItems_progress items]
  | mapping entries => by
    simp only [map, progress, Progress.map, mapEntries_progress entries, mapEntries_keys]

theorem mapItems_progress : ∀ items : List (Resolvable π),
    progressOfItems (mapItems rename items) = Progress.mapAll rename (progressOfItems items)
  | [] => rfl
  | r :: rest => by
    simp only [mapItems, progressOfItems, Progress.mapAll, map_progress r, mapItems_progress rest]

theorem mapEntries_progress : ∀ entries : List (String × Resolvable π),
    progressOfEntries (mapEntries rename entries) = Progress.mapAll rename (progressOfEntries entries)
  | [] => rfl
  | (_, r) :: rest => by
    simp only [mapEntries, progressOfEntries, Progress.mapAll, map_progress r, mapEntries_progress rest]

end

theorem mapItems_eq (items : List (Resolvable π)) : mapItems rename items = items.map fun r => r.map rename := by
  induction items with
  | nil => rfl
  | cons r rest ih => rw [mapItems, ih, List.map_cons]

theorem lookup_mapEntries (key : String) (entries : List (String × Resolvable π)) :
    List.lookup key (mapEntries rename entries) = (List.lookup key entries).map fun r => r.map rename := by
  induction entries with
  | nil => rfl
  | cons entry rest ih =>
    obtain ⟨k, r⟩ := entry
    simp only [mapEntries, List.lookup_cons, ih]
    cases key == k <;> rfl

theorem select_map {α β : Type} (f : α → β) (items : List α) (segment found : String) :
    select (items.map f) segment found = (select items segment found).map f := by
  unfold select
  cases Path.index? segment with
  | none => rfl
  | some k =>
    simp only [List.getElem?_map, List.length_map]
    cases items[k]? <;> rfl

/-- A step does not care for names. -/
theorem step_map (segment : String) (r : Resolvable π) :
    (r.map rename).step segment = (r.step segment).map fun next => next.map rename := by
  cases r with
  | ready v =>
    cases v with
    | array items =>
      simp only [map, step]
      cases select items segment "array" <;> rfl
    | object fields =>
      simp only [map, step]
      cases Fields.get? fields segment <;> rfl
    | _ => rfl
  | pending p => rfl
  | sequence items => simp only [map, step, mapItems_eq, select_map]
  | mapping entries =>
    simp only [map, step, lookup_mapEntries]
    cases List.lookup segment entries <;> rfl

section

variable {m : Type → Type} [Monad m] [LawfulMonad m] (ask : ρ → m (Poll Value))

theorem await_map (r : Resolvable π) : (r.map rename).await ask =
    Option.map (Except.map fun found => found.map rename) <$> r.await fun p => ask (rename p) := by
  cases r with
  | pending p =>
    simp only [map, await, map_bind, map_pure]
    refine bind_congr fun told => ?_
    rcases told with - | - | - <;> rfl
  | _ => simp only [map, await, map_pure, Option.map_some, Except.map]

theorem navigate_map (path : Path) : ∀ r : Resolvable π, (r.map rename).navigate ask path =
    Option.map (Except.map fun found => found.map rename) <$> r.navigate (fun p => ask (rename p)) path := by
  induction path with
  | nil => exact await_map rename ask
  | cons segment rest ih =>
    intro r
    simp only [navigate, await_map, bind_map_left, map_bind]
    refine bind_congr fun told => ?_
    rcases told with - | f | found
    · simp only [Option.map_none, map_pure]
    · simp only [Option.map_some, Except.map, map_pure]
    · simp only [Option.map_some, Except.map, step_map]
      cases found.step segment with
      | ok next => exact ih next
      | error cause => simp only [map_pure, Option.map_some, Except.map]

/-- The end of a path does not care for names. -/
theorem obtain?_map (r : Resolvable π) (path : Path) :
    (r.map rename).obtain? ask path = r.obtain? (fun p => ask (rename p)) path := by
  simp only [obtain?, navigate_map, bind_map_left]
  refine bind_congr fun told => ?_
  rcases told with - | f | found
  · rfl
  · rfl
  · simp only [Option.map_some, Except.map, force, map_progress, Progress.look_map, bind_map_left,
      Progress.map_outcome?]

end

end Resolvable

/-! ### Two places to ask -/

/-- Two computations that give the same in states that correspond, and leave them in correspondence. -/
def Concur {σ τ α : Type} (R : σ → τ → Prop) (x : StateM σ α) (y : StateM τ α) : Prop :=
  ∀ s t, R s t → (x s).1 = (y t).1 ∧ R (x s).2 (y t).2

namespace Concur

variable {σ τ α β : Type} {R : σ → τ → Prop}

theorem pure (a : α) : Concur R (Pure.pure a) (Pure.pure a) := fun _ _ h => ⟨rfl, h⟩

theorem bind {x : StateM σ α} {y : StateM τ α} {f : α → StateM σ β} {g : α → StateM τ β} (h : Concur R x y)
    (h' : ∀ a, Concur R (f a) (g a)) : Concur R (x >>= f) (y >>= g) := by
  intro s t hst
  obtain ⟨hvalue, hnext⟩ := h s t hst
  have hboth := h' (y t).1 (x s).2 (y t).2 hnext
  show (f (x s).1 (x s).2).1 = (g (y t).1 (y t).2).1 ∧ R (f (x s).1 (x s).2).2 (g (y t).1 (y t).2).2
  rw [hvalue]
  exact hboth

variable {ask : π → StateM σ (Poll Value)} {ask' : π → StateM τ (Poll Value)}

section

open Progress

mutual

theorem look : ∀ r : Progress π, (∀ p ∈ r.awaited, Concur R (ask p) (ask' p)) → Concur R (r.look ask) (r.look ask')
  | .done o, _ => .pure _
  | .pending p, h => by
    simp only [Progress.look]
    refine (h p (List.mem_singleton_self p)).bind fun told => ?_
    cases told <;> exact .pure _
  | .parts whole items, h => by
    simp only [Progress.look]
    refine (lookAll (crowded items) true items h).bind fun items' => ?_
    cases gathered items' <;> exact .pure _

theorem lookAll (crowd : Bool) : ∀ (counts : Bool) (items : List (Progress π)),
    (∀ p ∈ awaitedOfAll items, Concur R (ask p) (ask' p)) →
      Concur R (Progress.lookAll ask crowd counts items) (Progress.lookAll ask' crowd counts items)
  | _, [], _ => .pure _
  | counts, r :: rest, h => by
    simp only [Progress.lookAll]
    refine (look r fun p hp => h p (List.mem_append_left _ hp)).bind fun first => ?_
    split
    · exact .pure _
    · exact (lookAll crowd _ rest fun p hp => h p (List.mem_append_right _ hp)).bind fun rest' => .pure _

end

end

variable (hask : ∀ p, Concur R (ask p) (ask' p))
include hask

theorem await (r : Resolvable π) : Concur R (r.await ask) (r.await ask') := by
  cases r with
  | pending p => exact (hask p).bind fun told => .pure _
  | _ => exact .pure _

theorem navigate (path : Path) : ∀ r : Resolvable π, Concur R (r.navigate ask path) (r.navigate ask' path) := by
  induction path with
  | nil => exact await hask
  | cons segment rest ih =>
    intro r
    simp only [Resolvable.navigate]
    refine (await hask r).bind fun told => ?_
    rcases told with - | f | found
    · exact .pure _
    · exact .pure _
    · cases hstep : found.step segment with
      | ok next =>
        simp only [hstep]
        exact ih next
      | error cause =>
        simp only [hstep]
        exact .pure _

theorem obtain? (r : Resolvable π) (path : Path) : Concur R (r.obtain? ask path) (r.obtain? ask' path) := by
  simp only [Resolvable.obtain?]
  refine (navigate hask path r).bind fun told => ?_
  rcases told with - | f | found
  · exact .pure _
  · exact .pure _
  · exact (look found.progress fun p _ => hask p).bind fun r' => .pure _

end Concur
end StageGraph
