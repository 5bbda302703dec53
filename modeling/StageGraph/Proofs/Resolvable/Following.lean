import StageGraph.Proofs.Resolvable.Asking

/-! Following paths through values that are on their way.

`reached?` is the value at the end of a path when a value is known for everything that is pending. It is what
`obtain?` is told, as far as it is told anything (`obtain?_reached?`); and through a finished value it is the
value that its own steps lead to (`reached?_ready`). -/
namespace StageGraph

variable {π ρ : Type} {m : Type → Type} [Monad m] {ask : π → m (Poll Value)} {known : π → Option Value}

/-- What is known by the first is known by the second. -/
def Within (known known' : π → Option Value) : Prop := ∀ p v, known p = some v → known' p = some v

namespace Value

/-- One step into a finished value. -/
def step? (segment : String) : Value → Option Value
  | array items => (Path.index? segment).bind fun k => items[k]?
  | object fields => Fields.get? fields segment
  | _ => none

/-- The value at the end of a path. -/
def descend (v : Value) : Path → Option Value
  | [] => some v
  | segment :: rest => (v.step? segment).bind fun w => w.descend rest

end Value

namespace Resolvable

mutual

/-- The value that a tree stands for, with those that are known for its pending parts. -/
def value? (known : π → Option Value) : Resolvable π → Option Value
  | ready v => some v
  | pending p => known p
  | sequence items => (itemValues? known items).map .array
  | mapping entries => (entryValues? known entries).map fun values =>
    .object (Fields.ofList ((entries.map Prod.fst).zip values))

def itemValues? (known : π → Option Value) : List (Resolvable π) → Option (List Value)
  | [] => some []
  | r :: rest => (r.value? known).bind fun v => (itemValues? known rest).map fun vs => v :: vs

def entryValues? (known : π → Option Value) : List (String × Resolvable π) → Option (List Value)
  | [] => some []
  | (_, r) :: rest => (r.value? known).bind fun v => (entryValues? known rest).map fun vs => v :: vs

end

mutual

theorem progress_value? : ∀ r : Resolvable π, r.progress.value? known = r.value? known
  | ready _ => rfl
  | pending _ => rfl
  | sequence items => by simp only [progress, Progress.value?, value?, progressOfItems_values? items]
  | mapping entries => by simp only [progress, Progress.value?, value?, progressOfEntries_values? entries]

theorem progressOfItems_values? : ∀ items : List (Resolvable π),
    Progress.values? known (progressOfItems items) = itemValues? known items
  | [] => rfl
  | r :: rest => by
    simp only [progressOfItems, Progress.values?, itemValues?, progress_value? r, progressOfItems_values? rest]

theorem progressOfEntries_values? : ∀ entries : List (String × Resolvable π),
    Progress.values? known (progressOfEntries entries) = entryValues? known entries
  | [] => rfl
  | (_, r) :: rest => by
    simp only [progressOfEntries, Progress.values?, entryValues?, progress_value? r,
      progressOfEntries_values? rest]

end

mutual

theorem progress_awaited : ∀ r : Resolvable π, r.progress.awaited = r.awaited
  | ready _ => rfl
  | pending _ => rfl
  | sequence items => progressOfItems_awaited items
  | mapping entries => progressOfEntries_awaited entries

theorem progressOfItems_awaited : ∀ items : List (Resolvable π),
    Progress.awaitedOfAll (progressOfItems items) = awaitedItems items
  | [] => rfl
  | r :: rest => by
    rw [progressOfItems, Progress.awaitedOfAll, awaitedItems, progress_awaited r, progressOfItems_awaited rest]

theorem progressOfEntries_awaited : ∀ entries : List (String × Resolvable π),
    Progress.awaitedOfAll (progressOfEntries entries) = awaitedEntries entries
  | [] => rfl
  | (_, r) :: rest => by
    rw [progressOfEntries, Progress.awaitedOfAll, awaitedEntries, progress_awaited r,
      progressOfEntries_awaited rest]

end

mutual

/-- Nothing has failed in a tree that nobody has asked for. -/
theorem progress_every {fault : Fault → Prop} {part : π → Prop} :
    ∀ r : Resolvable π, (∀ p ∈ r.awaited, part p) → r.progress.every fault part
  | ready _, _ => trivial
  | pending p, h => h p (List.mem_singleton_self p)
  | sequence items, h => progressOfItems_every items h
  | mapping entries, h => progressOfEntries_every entries h

theorem progressOfItems_every {fault : Fault → Prop} {part : π → Prop} :
    ∀ items : List (Resolvable π), (∀ p ∈ awaitedItems items, part p) →
      Progress.everyOfAll fault part (progressOfItems items)
  | [], _ => trivial
  | r :: rest, h => ⟨progress_every r fun p hp => h p (List.mem_append_left _ hp),
      progressOfItems_every rest fun p hp => h p (List.mem_append_right _ hp)⟩

theorem progressOfEntries_every {fault : Fault → Prop} {part : π → Prop} :
    ∀ entries : List (String × Resolvable π), (∀ p ∈ awaitedEntries entries, part p) →
      Progress.everyOfAll fault part (progressOfEntries entries)
  | [], _ => trivial
  | (_, r) :: rest, h => ⟨progress_every r fun p hp => h p (List.mem_append_left _ hp),
      progressOfEntries_every rest fun p hp => h p (List.mem_append_right _ hp)⟩

end

theorem everyOfAll_progress {α : Type} {fault : Fault → Prop} {part : π → Prop} (f : α → Resolvable π) (l : List α)
    (h : ∀ p ∈ Progress.awaitedOfAll (l.map fun a => (f a).progress), part p) :
    Progress.everyOfAll fault part (l.map fun a => (f a).progress) := by
  induction l with
  | nil => exact trivial
  | cons a rest ih =>
    refine ⟨progress_every (f a) fun p hp => h p (List.mem_append_left _ ?_), ih fun p hp =>
      h p (List.mem_append_right _ hp)⟩
    rwa [progress_awaited]

mutual

/-- What a tree stands for depends on what is known of its pending parts alone. -/
theorem value?_congr {known known' : π → Option Value} :
    ∀ r : Resolvable π, (∀ p ∈ r.awaited, known p = known' p) → r.value? known = r.value? known'
  | ready _, _ => rfl
  | pending p, h => h p (List.mem_singleton_self p)
  | sequence items, h => by simp only [value?, itemValues?_congr items h]
  | mapping entries, h => by simp only [value?, entryValues?_congr entries h]

theorem itemValues?_congr {known known' : π → Option Value} : ∀ items : List (Resolvable π),
    (∀ p ∈ awaitedItems items, known p = known' p) → itemValues? known items = itemValues? known' items
  | [], _ => rfl
  | r :: rest, h => by
    rw [itemValues?, itemValues?, value?_congr r fun p hp => h p (List.mem_append_left _ hp),
      itemValues?_congr rest fun p hp => h p (List.mem_append_right _ hp)]

theorem entryValues?_congr {known known' : π → Option Value} : ∀ entries : List (String × Resolvable π),
    (∀ p ∈ awaitedEntries entries, known p = known' p) → entryValues? known entries = entryValues? known' entries
  | [], _ => rfl
  | (_, r) :: rest, h => by
    rw [entryValues?, entryValues?, value?_congr r fun p hp => h p (List.mem_append_left _ hp),
      entryValues?_congr rest fun p hp => h p (List.mem_append_right _ hp)]

end

/-! ### Other names for what is pending -/

mutual

theorem map_value? (rename : π → ρ) (known : ρ → Option Value) :
    ∀ r : Resolvable π, (r.map rename).value? known = r.value? fun p => known (rename p)
  | ready _ => rfl
  | pending _ => rfl
  | sequence items => by simp only [map, value?, mapItems_values? rename known items]
  | mapping entries => by
    simp only [map, value?, mapEntries_values? rename known entries, mapEntries_keys rename entries]

theorem mapItems_values? (rename : π → ρ) (known : ρ → Option Value) :
    ∀ items : List (Resolvable π), itemValues? known (mapItems rename items) =
      itemValues? (fun p => known (rename p)) items
  | [] => rfl
  | r :: rest => by
    simp only [mapItems, itemValues?, map_value? rename known r, mapItems_values? rename known rest]

theorem mapEntries_values? (rename : π → ρ) (known : ρ → Option Value) :
    ∀ entries : List (String × Resolvable π), entryValues? known (mapEntries rename entries) =
      entryValues? (fun p => known (rename p)) entries
  | [] => rfl
  | (_, r) :: rest => by
    simp only [mapEntries, entryValues?, map_value? rename known r, mapEntries_values? rename known rest]

theorem mapEntries_keys (rename : π → ρ) : ∀ entries : List (String × Resolvable π),
    (mapEntries rename entries).map Prod.fst = entries.map Prod.fst
  | [] => rfl
  | (_, _) :: rest => by simp only [mapEntries, List.map_cons, mapEntries_keys rename rest]

end

mutual

theorem map_awaited (rename : π → ρ) : ∀ r : Resolvable π, (r.map rename).awaited = r.awaited.map rename
  | ready _ => rfl
  | pending _ => rfl
  | sequence items => mapItems_awaited rename items
  | mapping entries => mapEntries_awaited rename entries

theorem mapItems_awaited (rename : π → ρ) : ∀ items : List (Resolvable π),
    awaitedItems (mapItems rename items) = (awaitedItems items).map rename
  | [] => rfl
  | r :: rest => by
    rw [mapItems, awaitedItems, awaitedItems, List.map_append, map_awaited rename r, mapItems_awaited rename rest]

theorem mapEntries_awaited (rename : π → ρ) : ∀ entries : List (String × Resolvable π),
    awaitedEntries (mapEntries rename entries) = (awaitedEntries entries).map rename
  | [] => rfl
  | (_, r) :: rest => by
    rw [mapEntries, awaitedEntries, awaitedEntries, List.map_append, map_awaited rename r,
      mapEntries_awaited rename rest]

end

/-! ### Paths -/

/-- A pending value gives way to the one that is known. -/
def settled? (known : π → Option Value) : Resolvable π → Option (Resolvable π)
  | pending p => (known p).map ready
  | r => some r

/-- The value at the end of a path, with those that are known for the pending parts. -/
def reached? (known : π → Option Value) (r : Resolvable π) : Path → Option Value
  | [] => r.value? known
  | segment :: rest => (r.settled? known).bind fun found =>
    match found.step segment with
    | .ok next => next.reached? known rest
    | .error _ => none

/-- What goes wrong on the way along a path, with the values that are known for the pending parts. -/
def astray? (known : π → Option Value) (r : Resolvable π) : Path → Option Cause
  | [] => none
  | segment :: rest => (r.settled? known).bind fun found =>
    match found.step segment with
    | .ok next => next.astray? known rest
    | .error cause => some cause

theorem select_ok {α : Type} {items : List α} {segment found : String} {item : α}
    (h : select items segment found = .ok item) : item ∈ items := by
  rw [select] at h
  split at h
  · cases h
  · split at h
    · next hk =>
      cases h
      exact List.mem_of_getElem? hk
    · cases h

theorem awaitedItems_pending (l : List π) : awaitedItems (l.map .pending) = l := by
  induction l with
  | nil => rfl
  | cons p rest ih =>
    rw [List.map_cons, awaitedItems, ih]
    rfl

theorem awaitedEntries_pending (entries : List (String × π)) :
    awaitedEntries (entries.map fun e => (e.1, .pending e.2)) = entries.map Prod.snd := by
  induction entries with
  | nil => rfl
  | cons entry rest ih =>
    rw [List.map_cons, awaitedEntries, ih]
    rfl

theorem mem_awaitedItems {items : List (Resolvable π)} {r : Resolvable π} (hr : r ∈ items) {p : π}
    (hp : p ∈ r.awaited) : p ∈ awaitedItems items := by
  induction items with
  | nil => cases hr
  | cons first rest ih =>
    rcases List.mem_cons.mp hr with rfl | hr
    · exact List.mem_append_left _ hp
    · exact List.mem_append_right _ (ih hr)

theorem mem_awaitedEntries {entries : List (String × Resolvable π)} {key : String} {r : Resolvable π}
    (hr : List.lookup key entries = some r) {p : π} (hp : p ∈ r.awaited) : p ∈ awaitedEntries entries := by
  induction entries with
  | nil => cases hr
  | cons first rest ih =>
    obtain ⟨k, first⟩ := first
    rw [List.lookup_cons] at hr
    split at hr
    · cases hr
      exact List.mem_append_left _ hp
    · exact List.mem_append_right _ (ih hr)

/-- A step leads to a part of the tree. -/
theorem step_awaited {r next : Resolvable π} {segment : String} (h : r.step segment = .ok next) :
    ∀ p ∈ next.awaited, p ∈ r.awaited := by
  unfold step at h
  intro p hp
  split at h
  · next items =>
    cases hs : select items segment "array" with
    | ok v =>
      rw [hs] at h
      cases h
      cases hp
    | error cause =>
      rw [hs] at h
      cases h
  · split at h
    · cases h
      cases hp
    · cases h
  · exact mem_awaitedItems (select_ok h) hp
  · split at h
    · next hl =>
      cases h
      exact mem_awaitedEntries hl hp
    · cases h
  · cases h
  · cases h

/-- Waiting for what is pending at the front. -/
theorem await_settled? (telling : Telling m) (r : Resolvable π)
    (h : ∀ p ∈ r.awaited, telling.holds (ask p) (Agrees known p)) :
    telling.holds (r.await ask) fun told => ∀ o, told = some o → o.toOption = r.settled? known ∧
      ∀ found, o = .ok found → ∀ p ∈ found.awaited, p ∈ r.awaited := by
  cases r with
  | pending p =>
    simp only [await]
    refine telling.bind (h p (List.mem_singleton_self p)) fun told ht => telling.pure fun o ho => ?_
    obtain ⟨o', rfl, rfl⟩ := Option.map_eq_some_iff.mp ho
    have hknown := ht o' rfl
    constructor
    · rw [settled?, ← hknown]
      cases o' <;> rfl
    · intro found hf q hq
      cases o' with
      | ok v =>
        cases hf
        cases hq
      | error f => cases hf
  | _ =>
    refine telling.pure fun o ho => ?_
    cases ho
    refine ⟨rfl, fun found hf => ?_⟩
    cases hf
    exact fun _ hp => hp

theorem settled?_value? (r : Resolvable π) :
    ((r.settled? known).bind fun found => found.value? known) = r.value? known := by
  cases r with
  | pending p =>
    simp only [settled?, value?]
    cases known p <;> rfl
  | _ => rfl

/-- What comes of a path behind its first segment, by what is told of where it starts. -/
def proceed (view : π → Poll Value) (segment : String) (rest : Path) : Poll (Resolvable π) → Poll (Resolvable π)
  | some (.ok found) =>
    match found.step segment with
    | .ok next => next.navigate (m := Id) view rest
    | .error cause => some (.error ⟨cause, none⟩)
  | unfinished => unfinished

/-- What comes of what is told of the end of a path. -/
def conclude (view : π → Poll Value) : Poll (Resolvable π) → Poll Value
  | some (.ok found) => found.force (m := Id) view
  | some (.error f) => some (.error f)
  | none => none

theorem navigate_cons (view : π → Poll Value) (r : Resolvable π) (segment : String) (rest : Path) :
    r.navigate (m := Id) view (segment :: rest) = proceed view segment rest (r.await (m := Id) view) := rfl

theorem obtain?_eq (view : π → Poll Value) (r : Resolvable π) (path : Path) :
    r.obtain? (m := Id) view path = conclude view (r.navigate (m := Id) view path) := rfl

theorem navigate_reached? (telling : Telling m) (path : Path) : ∀ r : Resolvable π,
    (∀ p ∈ r.awaited, telling.holds (ask p) (Agrees known p)) →
      telling.holds (r.navigate ask path) fun told => ∀ o, told = some o →
        (o.toOption.bind fun found => found.value? known) = r.reached? known path ∧
        ∀ found, o = .ok found → ∀ p ∈ found.awaited, p ∈ r.awaited := by
  induction path with
  | nil =>
    intro r h
    refine telling.mono (await_settled? telling r h) fun told ht o ho => ?_
    obtain ⟨hvalue, hawaited⟩ := ht o ho
    exact ⟨by rw [hvalue, settled?_value?, reached?], hawaited⟩
  | cons segment rest ih =>
    intro r h
    simp only [navigate]
    refine telling.bind (await_settled? telling r h) fun told ht => ?_
    split
    · next found =>
      obtain ⟨hvalue, hawaited⟩ := ht _ rfl
      have hfound : r.settled? known = some found := hvalue.symm
      split
      · next next hstep =>
        have hnext : ∀ p ∈ next.awaited, p ∈ r.awaited := fun p hp =>
          hawaited found rfl p (step_awaited hstep p hp)
        refine telling.mono (ih next fun p hp => h p (hnext p hp)) fun told ht o ho => ?_
        obtain ⟨hvalue, hin⟩ := ht o ho
        refine ⟨?_, fun found hf p hp => hnext p (hin found hf p hp)⟩
        simp only [reached?, hfound, Option.bind_some, hstep, hvalue]
      · next cause hstep =>
        refine telling.pure fun o ho => ?_
        cases ho
        refine ⟨?_, fun found hf => by cases hf⟩
        simp only [reached?, hfound, Option.bind_some, hstep]
        rfl
    · next told hnot =>
      refine telling.pure fun o ho => ?_
      obtain ⟨hvalue, hawaited⟩ := ht o ho
      cases o with
      | ok found => exact absurd ho (hnot found)
      | error f =>
        refine ⟨?_, fun found hf => by cases hf⟩
        have hnone : r.settled? known = none := hvalue.symm
        simp only [reached?, hnone]
        rfl

/-- What is told of the end of a path is what is known to be there. -/
theorem obtain?_reached? (telling : Telling m) (r : Resolvable π) (path : Path)
    (h : ∀ p ∈ r.awaited, telling.holds (ask p) (Agrees known p)) :
    telling.holds (r.obtain? ask path) fun told =>
      ∀ o, told = some o → o.toOption = r.reached? known path := by
  simp only [obtain?]
  refine telling.bind (navigate_reached? telling path r h) fun told ht => ?_
  split
  · next found =>
    obtain ⟨hvalue, hawaited⟩ := ht _ rfl
    simp only [force]
    refine telling.bind (Progress.look_value? telling found.progress fun p hp =>
      h p (hawaited found rfl p (progress_awaited found ▸ hp))) fun r' hr => telling.pure fun o ho => ?_
    cases r' with
    | done o' =>
      cases ho
      rw [← hvalue]
      exact hr.trans (progress_value? found)
    | pending p => cases ho
    | parts whole items => cases ho
  · next f =>
    refine telling.pure fun o ho => ?_
    cases ho
    exact (ht _ rfl).1
  · exact telling.pure fun o ho => by cases ho

/-! ### Failures on the way -/

section

variable {fault : Fault → Prop} {part : π → Prop} (telling : Telling m)
  (hask : ∀ p, part p → telling.holds (ask p) fun told =>
    (∀ v, told = some (.ok v) → known p = some v) ∧ Progress.Tells fault told)
include hask

theorem await_tells (r : Resolvable π) (h : ∀ p ∈ r.awaited, part p) :
    telling.holds (r.await ask) fun told => (∀ f, told = some (.error f) → fault f) ∧
      ∀ found, told = some (.ok found) → r.settled? known = some found ∧ ∀ p ∈ found.awaited, part p := by
  cases r with
  | pending p =>
    simp only [await]
    refine telling.bind (hask p (h p (List.mem_singleton_self p))) fun told ht => telling.pure ?_
    constructor
    · intro f hf
      obtain ⟨o, rfl, ho⟩ := Option.map_eq_some_iff.mp hf
      cases o with
      | ok v => cases ho
      | error g =>
        cases ho
        exact ht.2 f rfl
    · intro found hf
      obtain ⟨o, rfl, ho⟩ := Option.map_eq_some_iff.mp hf
      cases o with
      | ok v =>
        cases ho
        refine ⟨?_, fun q hq => by cases hq⟩
        rw [settled?, ht.1 v rfl]
        rfl
      | error g => cases ho
  | _ =>
    refine telling.pure ⟨fun f hf => ?_, fun found hf => ?_⟩
    · cases hf
    · cases hf
      exact ⟨rfl, h⟩

theorem navigate_tells (path : Path) : ∀ r : Resolvable π, (∀ p ∈ r.awaited, part p) →
    telling.holds (r.navigate ask path) fun told =>
      (∀ f, told = some (.error f) → fault f ∨ ∃ cause, f = ⟨cause, none⟩ ∧ r.astray? known path = some cause) ∧
        ∀ found, told = some (.ok found) → ∀ p ∈ found.awaited, part p := by
  induction path with
  | nil =>
    intro r h
    exact telling.mono (await_tells telling hask r h) fun told ht =>
      ⟨fun f hf => .inl (ht.1 f hf), fun found hf => (ht.2 found hf).2⟩
  | cons segment rest ih =>
    intro r h
    simp only [navigate]
    refine telling.bind (await_tells telling hask r h) fun told ht => ?_
    split
    · next found =>
      obtain ⟨hsettled, hparts⟩ := ht.2 found rfl
      split
      · next next hstep =>
        refine telling.mono (ih next fun p hp => hparts p (step_awaited hstep p hp)) fun told hnext => ?_
        refine ⟨fun f hf => (hnext.1 f hf).imp_right fun ⟨cause, hcause, hastray⟩ => ⟨cause, hcause, ?_⟩, hnext.2⟩
        simp only [astray?, hsettled, Option.bind_some, hstep, hastray]
      · next cause hstep =>
        refine telling.pure ⟨fun f hf => ?_, fun found hf => ?_⟩
        · cases hf
          refine .inr ⟨cause, rfl, ?_⟩
          simp only [astray?, hsettled, Option.bind_some, hstep]
        · cases hf
    · next told hnot =>
      exact telling.pure ⟨fun f hf => .inl (ht.1 f hf), fun found hf => absurd hf (hnot found)⟩

/-- What fails on the way along a path or at its end: what somebody was told, or the path itself. -/
theorem obtain?_tells (r : Resolvable π) (path : Path) (h : ∀ p ∈ r.awaited, part p) :
    telling.holds (r.obtain? ask path)
      (Progress.Tells fun f => fault f ∨ ∃ cause, f = ⟨cause, none⟩ ∧ r.astray? known path = some cause) := by
  simp only [obtain?]
  refine telling.bind (navigate_tells telling hask path r h) fun told ht => ?_
  split
  · next found =>
    have hprogress : found.progress.every fault part := progress_every found (ht.2 found rfl)
    simp only [force]
    refine telling.bind (Progress.look_every telling (fun p hp => telling.mono (hask p hp) fun _ hp => hp.2)
      found.progress hprogress) fun r' hr => telling.pure fun f hf => ?_
    cases r' with
    | done o =>
      cases hf
      exact .inl hr
    | pending p => cases hf
    | parts whole items => cases hf
  · next f =>
    refine telling.pure fun g hg => ?_
    cases hg
    exact ht.1 _ rfl
  · exact telling.pure fun f hf => by cases hf

end

/-! ### More is known -/

variable {known' : π → Option Value}

mutual

theorem value?_mono (h : Within known known') : ∀ (r : Resolvable π) {v : Value},
    r.value? known = some v → r.value? known' = some v
  | ready _, _, hv => hv
  | pending p, v, hv => h p v hv
  | sequence items, v, hv => by
    obtain ⟨values, hvalues, rfl⟩ := Option.map_eq_some_iff.mp hv
    simp only [value?, itemValues?_mono h items hvalues, Option.map_some]
  | mapping entries, v, hv => by
    obtain ⟨values, hvalues, rfl⟩ := Option.map_eq_some_iff.mp hv
    simp only [value?, entryValues?_mono h entries hvalues, Option.map_some]

theorem itemValues?_mono (h : Within known known') : ∀ (items : List (Resolvable π)) {values : List Value},
    itemValues? known items = some values → itemValues? known' items = some values
  | [], _, hvs => hvs
  | r :: rest, values, hvs => by
    obtain ⟨v, hv, hrest⟩ := Option.bind_eq_some_iff.mp hvs
    obtain ⟨vs, hmore, rfl⟩ := Option.map_eq_some_iff.mp hrest
    simp only [itemValues?, value?_mono h r hv, itemValues?_mono h rest hmore, Option.bind_some, Option.map_some]

theorem entryValues?_mono (h : Within known known') :
    ∀ (entries : List (String × Resolvable π)) {values : List Value},
      entryValues? known entries = some values → entryValues? known' entries = some values
  | [], _, hvs => hvs
  | (_, r) :: rest, values, hvs => by
    obtain ⟨v, hv, hrest⟩ := Option.bind_eq_some_iff.mp hvs
    obtain ⟨vs, hmore, rfl⟩ := Option.map_eq_some_iff.mp hrest
    simp only [entryValues?, value?_mono h r hv, entryValues?_mono h rest hmore, Option.bind_some, Option.map_some]

end

section

variable (hknown : Within known known')
include hknown

theorem settled?_mono {r found : Resolvable π} (h : r.settled? known = some found) :
    r.settled? known' = some found := by
  cases r with
  | pending p =>
    obtain ⟨v, hv, rfl⟩ := Option.map_eq_some_iff.mp h
    simp only [settled?, hknown p v hv, Option.map_some]
  | _ => exact h

/-- A path that leads somewhere goes on leading there. -/
theorem reached?_mono (path : Path) : ∀ {r : Resolvable π} {v : Value},
    r.reached? known path = some v → r.reached? known' path = some v := by
  induction path with
  | nil => exact fun h => value?_mono hknown _ h
  | cons segment rest ih =>
    intro r v h
    obtain ⟨found, hfound, h⟩ := Option.bind_eq_some_iff.mp h
    simp only [reached?, settled?_mono hknown hfound, Option.bind_some]
    cases hstep : found.step segment with
    | ok next =>
      rw [hstep] at h
      exact ih h
    | error cause =>
      rw [hstep] at h
      cases h

/-- A path that leads nowhere goes on leading nowhere. -/
theorem astray?_mono (path : Path) : ∀ {r : Resolvable π} {cause : Cause},
    r.astray? known path = some cause → r.astray? known' path = some cause := by
  induction path with
  | nil => exact fun h => h
  | cons segment rest ih =>
    intro r cause h
    obtain ⟨found, hfound, h⟩ := Option.bind_eq_some_iff.mp h
    simp only [astray?, settled?_mono hknown hfound, Option.bind_some]
    cases hstep : found.step segment with
    | ok next =>
      rw [hstep] at h
      exact ih h
    | error cause' =>
      rw [hstep] at h
      exact h

end

/-! ### Values at the end of a path -/

/-- Through a finished value, a path leads where its own steps lead. -/
theorem reached?_ready (path : Path) : ∀ v : Value,
    (ready v : Resolvable π).reached? known path = v.descend path := by
  induction path with
  | nil => exact fun _ => rfl
  | cons segment rest ih =>
    intro v
    simp only [reached?, settled?, Option.bind_some, Value.descend]
    cases v with
    | array items =>
      simp only [step, select, Value.step?]
      cases Path.index? segment with
      | none => rfl
      | some k =>
        simp only [Option.bind_some]
        cases items[k]? with
        | none => rfl
        | some w => exact ih w
    | object fields =>
      simp only [step, Value.step?]
      cases Fields.get? fields segment with
      | none => rfl
      | some w => exact ih w
    | _ => rfl

theorem reached?_pending (p : π) (path : Path) :
    (pending p).reached? known path = (known p).bind fun v => v.descend path := by
  cases path with
  | nil =>
    simp only [reached?, value?, Value.descend]
    cases known p <;> rfl
  | cons segment rest =>
    cases hp : known p with
    | none => simp [reached?, settled?, hp]
    | some v =>
      have hready : (ready v : Resolvable π).reached? known (segment :: rest) = v.descend (segment :: rest) :=
        reached?_ready _ v
      rw [Option.bind_some, ← hready]
      simp only [reached?, settled?, hp]
      rfl

end Resolvable
end StageGraph
