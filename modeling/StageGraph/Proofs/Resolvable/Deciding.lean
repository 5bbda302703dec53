import StageGraph.Proofs.Resolvable.Waiting

/-! Looks that decide, and what looks leave when nothing fails.

A look that is told of everything decides, at the ends of paths as well (`obtain?_isSome`). Where nothing fails,
whatever was awaited has come or is awaited still, and something is as long as nothing is decided (`Leaves`). -/
namespace StageGraph

variable {π : Type} {m : Type → Type} [Monad m] {ask : π → m (Poll Value)}

namespace Progress

variable {view : π → Poll Value}

/-! ### Everything is told -/

theorem gather_isSome (crowd : Bool) {items : List (Progress π)} (h : ∀ r ∈ items, r.outcome?.isSome) :
    (gather crowd items).isSome := by
  induction items with
  | nil => cases crowd <;> rfl
  | cons r rest ih =>
    have hrest := ih fun q hq => h q (List.mem_cons_of_mem _ hq)
    cases r with
    | done o =>
      cases o with
      | ok v =>
        rw [gather_ok_cons, Option.isSome_map]
        exact hrest
      | error f =>
        rw [gather_error_cons]
        rfl
    | _ => cases h _ List.mem_cons_self

mutual

theorem look_isSome : ∀ r : Progress π, (∀ p ∈ r.awaited, (view p).isSome) →
    (look (m := Id) view r).outcome?.isSome
  | done o, _ => rfl
  | pending p, h => by
    obtain ⟨o, ho⟩ := Option.isSome_iff_exists.mp (h p (List.mem_singleton_self p))
    rw [look_pending, ho]
    rfl
  | parts whole items, h => by
    have hparts := map_look_isSome items h
    rw [look_parts]
    cases hg : gathered (lookThrough (m := Id) view items) with
    | some o => rfl
    | none =>
      rw [lookThrough_undecided hg, gathered_eq] at hg
      have hsome := gather_isSome (crowded (items.map (look (m := Id) view))) hparts
      rw [hg] at hsome
      cases hsome

theorem map_look_isSome : ∀ items : List (Progress π), (∀ p ∈ awaitedOfAll items, (view p).isSome) →
    ∀ r ∈ items.map (look (m := Id) view), r.outcome?.isSome
  | [], _, _, hr => by cases hr
  | first :: rest, h, r, hr => by
    rw [List.map_cons] at hr
    rcases List.mem_cons.mp hr with rfl | hr
    · exact look_isSome first fun p hp => h p (List.mem_append_left _ hp)
    · exact map_look_isSome rest (fun p hp => h p (List.mem_append_right _ hp)) r hr

end

/-! ### Nothing fails -/

/-- What a look leaves of what was awaited: the rest of it, which is something unless all of it has come about.
`left` tells what is known of the rest, `came` what is known of what has come. -/
structure Leaves (left came : π → Prop) (before : List π) (after : Progress π) : Prop where
  rest : after.every (fun _ => False) left
  come : ∀ p ∈ before, came p ∨ p ∈ after.awaited
  waits : after.awaited = [] → after.succeeded = true

structure LeavesAll (left came : π → Prop) (before : List π) (after : List (Progress π)) : Prop where
  rest : everyOfAll (fun _ => False) left after
  come : ∀ p ∈ before, came p ∨ p ∈ awaitedOfAll after
  waits : awaitedOfAll after = [] → after.all succeeded = true

variable {left came : π → Prop}

theorem not_failed_of_every {part : π → Prop} {r : Progress π} (h : r.every (fun _ => False) part) :
    r.failed = false := by
  cases r with
  | done o =>
    cases o with
    | ok v => rfl
    | error f => exact h.elim
  | _ => rfl

theorem awaited_of_succeeded {r : Progress π} (h : r.succeeded = true) : r.awaited = [] := by
  cases r with
  | done o => rfl
  | _ => cases h

theorem awaitedOfAll_singleton (r : Progress π) : awaitedOfAll [r] = r.awaited := List.append_nil _

theorem awaitedOfAll_of_succeeded {items : List (Progress π)} (h : items.all succeeded = true) :
    awaitedOfAll items = [] := by
  induction items with
  | nil => rfl
  | cons r rest ih =>
    rw [List.all_cons, Bool.and_eq_true] at h
    rw [awaitedOfAll, awaited_of_succeeded h.1, ih h.2]
    rfl

/-- Parts that do not fail come to their values, or are awaited. -/
theorem LeavesAll.gathered {before : List π} {after : List (Progress π)} (h : LeavesAll left came before after) :
    (∃ vs, gathered after = some (.ok vs)) ∧ (∀ p ∈ before, came p) ∨ gathered after = none ∧ awaitedOfAll after ≠ [] := by
  cases hg : Progress.gathered after with
  | none =>
    refine .inr ⟨rfl, fun hnil => ?_⟩
    obtain ⟨vs, hvs⟩ := (gather_ok_iff (crowded after) after).mpr (h.waits hnil)
    rw [gathered_eq, hvs] at hg
    cases hg
  | some o =>
    cases o with
    | error f => exact (gathered_every h.rest hg).elim
    | ok vs =>
      refine .inl ⟨⟨vs, rfl⟩, fun p hp => ?_⟩
      rcases h.come p hp with hcame | hmem
      · exact hcame
      · rw [awaitedOfAll_of_succeeded ((gather_ok_iff (crowded after) after).mp ⟨vs, hg⟩)] at hmem
        cases hmem

/-- What is told of a part that does not fail: nothing, or a value. -/
def TellsWell (left came : π → Prop) (p : π) (told : Poll Value) : Prop :=
  (told = none → left p) ∧ ∀ o, told = some o → (∃ v, o = .ok v) ∧ came p

variable {part : π → Prop}

mutual

theorem look_leaves (telling : Telling m) (hask : ∀ p, part p → telling.holds (ask p) (TellsWell left came p)) :
    ∀ r : Progress π, r.every (fun _ => False) part → telling.holds (r.look ask) (Leaves left came r.awaited)
  | done o, h => by
    refine telling.pure ⟨?_, fun p hp => (by cases hp), fun _ => ?_⟩
    · cases o with
      | ok v => exact trivial
      | error f => exact h
    · cases o with
      | ok v => rfl
      | error f => exact h.elim
  | pending p, h => by
    simp only [look]
    refine telling.bind (hask p h) fun told ht => ?_
    cases told with
    | none =>
      refine telling.pure ⟨ht.1 rfl, fun q hq => .inr hq, fun hnil => ?_⟩
      cases hnil
    | some o =>
      obtain ⟨⟨v, rfl⟩, hcame⟩ := ht.2 o rfl
      refine telling.pure ⟨trivial, fun q hq => .inl ?_, fun _ => rfl⟩
      rw [List.mem_singleton.mp hq]
      exact hcame
  | parts whole items, h => by
    simp only [look]
    refine telling.bind (lookAll_leaves telling hask (crowded items) true items h) fun items' hitems => ?_
    rcases hitems.gathered with ⟨⟨vs, hvs⟩, hcame⟩ | ⟨hnone, hwaits⟩
    · rw [hvs]
      exact telling.pure ⟨trivial, fun p hp => .inl (hcame p hp), fun _ => rfl⟩
    · rw [hnone]
      exact telling.pure ⟨hitems.rest, hitems.come, fun hnil => absurd hnil hwaits⟩

theorem lookAll_leaves (telling : Telling m) (hask : ∀ p, part p → telling.holds (ask p) (TellsWell left came p))
    (crowd : Bool) : ∀ (counts : Bool) (items : List (Progress π)),
    everyOfAll (fun _ => False) part items →
      telling.holds (lookAll ask crowd counts items) (LeavesAll left came (awaitedOfAll items))
  | _, [], _ => telling.pure ⟨trivial, fun _ hp => (by cases hp), fun _ => rfl⟩
  | counts, r :: rest, h => by
    simp only [lookAll]
    refine telling.bind (look_leaves telling hask r h.1) fun first hfirst => ?_
    rw [not_failed_of_every hfirst.rest, Bool.and_false, if_neg (by decide)]
    refine telling.bind (lookAll_leaves telling hask crowd _ rest h.2) fun rest' hrest => telling.pure ?_
    refine ⟨⟨hfirst.rest, hrest.rest⟩, fun p hp => ?_, fun hnil => ?_⟩
    · rcases List.mem_append.mp hp with hp | hp
      · exact (hfirst.come p hp).imp_right (List.mem_append_left _)
      · exact (hrest.come p hp).imp_right (List.mem_append_right _)
    · obtain ⟨hnil, hnil'⟩ := List.append_eq_nil_iff.mp hnil
      rw [List.all_cons, hfirst.waits hnil, hrest.waits hnil']
      rfl

end

theorem lookThrough_leaves (telling : Telling m)
    (hask : ∀ p, part p → telling.holds (ask p) (TellsWell left came p)) {items : List (Progress π)}
    (h : everyOfAll (fun _ => False) part items) :
    telling.holds (lookThrough ask items) (LeavesAll left came (awaitedOfAll items)) :=
  lookAll_leaves telling hask _ _ items h

end Progress

namespace Resolvable

variable {view : π → Poll Value} {known : π → Option Value}

/-! ### Values that are known -/

mutual

/-- A tree that stands for a value has one for everything that is pending in it. -/
theorem value?_awaited : ∀ (r : Resolvable π) {v : Value}, r.value? known = some v →
    ∀ p ∈ r.awaited, (known p).isSome
  | ready _, _, _, p, hp => by cases hp
  | pending q, v, hv, p, hp => by
    rw [List.mem_singleton.mp hp]
    exact Option.isSome_iff_exists.mpr ⟨v, hv⟩
  | sequence items, _, hv, p, hp => by
    obtain ⟨values, hvalues, -⟩ := Option.map_eq_some_iff.mp hv
    exact itemValues?_awaited items hvalues p hp
  | mapping entries, _, hv, p, hp => by
    obtain ⟨values, hvalues, -⟩ := Option.map_eq_some_iff.mp hv
    exact entryValues?_awaited entries hvalues p hp

theorem itemValues?_awaited : ∀ (items : List (Resolvable π)) {values : List Value},
    itemValues? known items = some values → ∀ p ∈ awaitedItems items, (known p).isSome
  | [], _, _, p, hp => by cases hp
  | r :: rest, _, hvs, p, hp => by
    obtain ⟨v, hv, hrest⟩ := Option.bind_eq_some_iff.mp hvs
    obtain ⟨vs, hmore, -⟩ := Option.map_eq_some_iff.mp hrest
    rcases List.mem_append.mp hp with hp | hp
    · exact value?_awaited r hv p hp
    · exact itemValues?_awaited rest hmore p hp

theorem entryValues?_awaited : ∀ (entries : List (String × Resolvable π)) {values : List Value},
    entryValues? known entries = some values → ∀ p ∈ awaitedEntries entries, (known p).isSome
  | [], _, _, p, hp => by cases hp
  | (_, r) :: rest, _, hvs, p, hp => by
    obtain ⟨v, hv, hrest⟩ := Option.bind_eq_some_iff.mp hvs
    obtain ⟨vs, hmore, -⟩ := Option.map_eq_some_iff.mp hrest
    rcases List.mem_append.mp hp with hp | hp
    · exact value?_awaited r hv p hp
    · exact entryValues?_awaited rest hmore p hp

end

/-! ### Paths -/

theorem await_isSome {r : Resolvable π} (h : ∀ p ∈ r.awaited, (view p).isSome) :
    ∃ o, r.await (m := Id) view = some o ∧ ∀ found, o = .ok found → ∀ p ∈ found.awaited, p ∈ r.awaited := by
  cases r with
  | pending p =>
    obtain ⟨o, ho⟩ := Option.isSome_iff_exists.mp (h p (List.mem_singleton_self p))
    refine ⟨o.map ready, Option.map_eq_some_iff.mpr ⟨o, ho, rfl⟩, fun found hfound q hq => ?_⟩
    cases o with
    | ok v =>
      cases hfound
      cases hq
    | error f => cases hfound
  | _ =>
    refine ⟨_, rfl, fun found hfound => ?_⟩
    cases hfound
    exact fun _ hp => hp

theorem navigate_isSome (path : Path) : ∀ {r : Resolvable π}, (∀ p ∈ r.awaited, (view p).isSome) →
    ∃ o, r.navigate (m := Id) view path = some o ∧ ∀ found, o = .ok found → ∀ p ∈ found.awaited, p ∈ r.awaited := by
  induction path with
  | nil => exact fun h => await_isSome h
  | cons segment rest ih =>
    intro r h
    obtain ⟨o, ho, hwithin⟩ := await_isSome h
    rw [navigate_cons, ho]
    cases o with
    | error f => exact ⟨_, rfl, fun found hfound => by cases hfound⟩
    | ok found =>
      simp only [proceed]
      cases hstep : found.step segment with
      | error cause => exact ⟨_, rfl, fun found hfound => by cases hfound⟩
      | ok next =>
        have hnext (p : π) (hp : p ∈ next.awaited) : p ∈ r.awaited := hwithin found rfl p (step_awaited hstep p hp)
        obtain ⟨o, ho, hwithin'⟩ := ih fun p hp => h p (hnext p hp)
        exact ⟨o, ho, fun found hfound p hp => hnext p (hwithin' found hfound p hp)⟩

/-- When everything in a tree is told, so is what stands at the end of a path. -/
theorem obtain?_isSome {r : Resolvable π} (h : ∀ p ∈ r.awaited, (view p).isSome) (path : Path) :
    (r.obtain? (m := Id) view path).isSome := by
  obtain ⟨o, ho, hwithin⟩ := navigate_isSome path h
  simp only [obtain?]
  rw [ho]
  cases o with
  | error f => rfl
  | ok found =>
    refine Progress.look_isSome found.progress fun p hp => h p (hwithin found rfl p ?_)
    rwa [progress_awaited] at hp

/-- What stands behind a pending value is asked for when that has come. -/
theorem obtain?_pending [LawfulMonad m] (ask : π → m (Poll Value)) (p : π) (path : Path) :
    ∃ next : Outcome → m (Poll Value), (pending p).obtain? ask path =
      ask p >>= fun told => match told with
        | some o => next o
        | none => pure none := by
  cases path with
  | nil =>
    simp only [obtain?, navigate, await, bind_assoc, pure_bind]
    refine ⟨?atEnd, bind_congr fun told => ?_⟩
    rotate_left
    cases told <;> rfl
  | cons segment rest =>
    simp only [obtain?, navigate, await, bind_assoc, pure_bind]
    refine ⟨?onWay, bind_congr fun told => ?_⟩
    rotate_left
    cases told with
    | some o => rfl
    | none => simp only [Option.map_none, pure_bind]

end Resolvable
end StageGraph
