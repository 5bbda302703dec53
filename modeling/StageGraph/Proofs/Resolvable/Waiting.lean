import StageGraph.Proofs.Resolvable.Following

/-! Looks that see something, and looks that see more.

A look either decides about several parts or gets to each of them (`lookThrough_undecided`), so one that sees an
answer leaves less to ask for (`look_awaited_lt`). What is decided stays decided when more is told, at the ends of
paths as well (`obtain?_isSome_mono`). -/
namespace StageGraph

variable {π : Type}

namespace Progress

variable {view view' : π → Poll Value}

/-! ### Parts that decide -/

/-- The values of parts that are or are not a crowd. -/
def gather (crowd : Bool) (items : List (Progress π)) : Poll (List Value) :=
  if crowd then inTurn items else together items

theorem gathered_eq (items : List (Progress π)) : gathered items = gather (crowded items) items := rfl

/-- Whether a part that counts fails under a look. -/
def failing (view : π → Poll Value) (crowd : Bool) : List (Progress π) → Bool
  | [] => false
  | r :: rest => (look (m := Id) view r).failed ||
    ((!crowd || (look (m := Id) view r).succeeded) && failing view crowd rest)

theorem lookAll_cons (crowd counts : Bool) (r : Progress π) (rest : List (Progress π)) :
    lookAll (m := Id) view crowd counts (r :: rest) =
      if counts && (look (m := Id) view r).failed then look (m := Id) view r :: rest
      else look (m := Id) view r ::
        lookAll (m := Id) view crowd (!crowd || counts && (look (m := Id) view r).succeeded) rest := by
  rw [lookAll]
  rfl

theorem lookAll_length (crowd : Bool) (items : List (Progress π)) :
    ∀ counts : Bool, (lookAll (m := Id) view crowd counts items).length = items.length := by
  induction items with
  | nil => exact fun _ => rfl
  | cons r rest ih =>
    intro counts
    rw [lookAll_cons]
    split
    · rfl
    · simp only [List.length_cons, ih]

theorem gather_ok_cons (crowd : Bool) (v : Value) (rest : List (Progress π)) :
    gather crowd (done (.ok v) :: rest) = (gather crowd rest).map (Except.map (v :: ·)) := by
  cases crowd <;> rfl

theorem gather_error_cons (crowd : Bool) (f : Fault) (rest : List (Progress π)) :
    gather crowd (done (.error f) :: rest) = some (.error f) := by
  cases crowd <;> rfl

/-- Behind a part that is not there, only failures of parts that are no crowd count. -/
theorem gather_cons_error {crowd : Bool} {r : Progress π} (hr : r.outcome? = none) {rest : List (Progress π)}
    {f : Fault} : gather crowd (r :: rest) = some (.error f) ↔ crowd = false ∧ gather crowd rest = some (.error f) := by
  cases r with
  | done o => cases hr
  | _ =>
    cases crowd with
    | true => simp [gather, inTurn]
    | false =>
      simp only [gather, together, Bool.false_eq_true, if_false, true_and]
      split
      · next g hg => rw [hg]
      · next hg =>
        constructor
        · intro h
          cases h
        · exact fun h => absurd h (hg f)

theorem gather_cons_ok {crowd : Bool} {r : Progress π} (hr : r.outcome? = none) (rest : List (Progress π))
    (vs : List Value) : gather crowd (r :: rest) ≠ some (.ok vs) := by
  cases r with
  | done o => cases hr
  | _ =>
    cases crowd with
    | true => simp [gather, inTurn]
    | false =>
      simp only [gather, together, Bool.false_eq_true, if_false]
      split <;> simp

/-- A part that fails and counts decides. -/
theorem lookAll_failing (crowd : Bool) {items : List (Progress π)} (h : failing view crowd items = true) :
    ∃ f, gather crowd (lookAll (m := Id) view crowd true items) = some (.error f) := by
  induction items with
  | nil => cases h
  | cons r rest ih =>
    rw [lookAll_cons]
    unfold failing at h
    cases hr : look (m := Id) view r with
    | done o =>
      cases o with
      | error f => exact ⟨f, gather_error_cons crowd f _⟩
      | ok v =>
        simp only [hr, failed, succeeded, Bool.or_true, Bool.true_and, Bool.false_or] at h
        obtain ⟨f, hf⟩ := ih h
        refine ⟨f, ?_⟩
        simp only [failed, succeeded, Bool.and_false, Bool.false_eq_true, if_false, Bool.and_self, Bool.or_true]
        refine (gather_ok_cons crowd v _).trans ?_
        rw [hf]
        rfl
    | _ =>
      simp only [hr, failed, succeeded, Bool.or_false, Bool.false_or, Bool.and_eq_true, Bool.not_eq_true'] at h
      obtain ⟨rfl, h⟩ := h
      obtain ⟨f, hf⟩ := ih h
      refine ⟨f, ?_⟩
      simp only [failed, succeeded, Bool.and_false, Bool.false_eq_true, if_false, Bool.not_false, Bool.or_false]
      exact (gather_cons_error rfl).mpr ⟨rfl, hf⟩

theorem lookAll_uncounted (items : List (Progress π)) :
    lookAll (m := Id) view true false items = items.map (look (m := Id) view) := by
  induction items with
  | nil => rfl
  | cons r rest ih =>
    rw [lookAll_cons, List.map_cons]
    simp only [Bool.false_and, Bool.false_eq_true, if_false, Bool.not_true, Bool.or_false, ih]

/-- Without a failure that counts, a look gets to every part. -/
theorem lookAll_of_not_failing (crowd : Bool) {items : List (Progress π)} (h : failing view crowd items = false) :
    lookAll (m := Id) view crowd true items = items.map (look (m := Id) view) := by
  induction items with
  | nil => rfl
  | cons r rest ih =>
    rw [lookAll_cons, List.map_cons]
    unfold failing at h
    obtain ⟨hfirst, hrest⟩ := Bool.or_eq_false_iff.mp h
    rw [hfirst]
    simp only [Bool.and_false, Bool.false_eq_true, if_false, Bool.true_and]
    cases hcounts : !crowd || (look (m := Id) view r).succeeded with
    | true =>
      rw [hcounts, Bool.true_and] at hrest
      rw [ih hrest]
    | false =>
      obtain ⟨hcrowd, -⟩ := Bool.or_eq_false_iff.mp hcounts
      rw [(Bool.not_eq_false' _).mp hcrowd, lookAll_uncounted]

/-- What a look at several parts decides. -/
theorem gather_map_error (crowd : Bool) (items : List (Progress π)) (h : failing view crowd items = false) (f : Fault) :
    gather crowd (items.map (look (m := Id) view)) ≠ some (.error f) := by
  induction items with
  | nil => cases crowd <;> exact nofun
  | cons r rest ih =>
    unfold failing at h
    obtain ⟨hfirst, hrest⟩ := Bool.or_eq_false_iff.mp h
    rw [List.map_cons]
    cases hr : look (m := Id) view r with
    | done o =>
      rw [hr] at hfirst hrest
      cases o with
      | error g => cases hfirst
      | ok v =>
        simp only [succeeded, Bool.or_true, Bool.true_and] at hrest
        rw [gather_ok_cons]
        intro hf
        obtain ⟨o, ho, hv⟩ := Option.map_eq_some_iff.mp hf
        cases o with
        | ok vs => cases hv
        | error g =>
          cases hv
          exact ih hrest ho
    | _ =>
      rw [hr] at hrest
      intro hf
      obtain ⟨rfl, hf⟩ := (gather_cons_error rfl).mp hf
      simp only [succeeded, Bool.not_false, Bool.true_or, Bool.true_and] at hrest
      exact ih hrest hf

/-- Parts come to their values if each of them has come about well. -/
theorem gather_ok_iff (crowd : Bool) (items : List (Progress π)) :
    (∃ vs, gather crowd items = some (.ok vs)) ↔ items.all succeeded = true := by
  induction items with
  | nil => cases crowd <;> exact ⟨fun _ => rfl, fun _ => ⟨[], rfl⟩⟩
  | cons r rest ih =>
    rw [List.all_cons]
    cases r with
    | done o =>
      cases o with
      | error f => simp [gather_error_cons, succeeded]
      | ok v =>
        rw [gather_ok_cons, succeeded, Bool.true_and, ← ih]
        constructor
        · intro ⟨vs, hvs⟩
          obtain ⟨o, ho, hv⟩ := Option.map_eq_some_iff.mp hvs
          cases o with
          | error f => cases hv
          | ok ws => exact ⟨ws, ho⟩
        · intro ⟨vs, hvs⟩
          rw [hvs]
          exact ⟨v :: vs, rfl⟩
    | _ =>
      simp only [succeeded, Bool.false_and, Bool.false_eq_true, iff_false]
      exact fun ⟨vs, hvs⟩ => gather_cons_ok rfl _ vs hvs

theorem gather_map_ok (crowd : Bool) (items : List (Progress π)) :
    (∃ vs, gather crowd (items.map (look (m := Id) view)) = some (.ok vs)) ↔
      items.all fun r => (look (m := Id) view r).succeeded := by
  rw [gather_ok_iff, List.all_map]
  rfl

theorem not_failing_of_all {crowd : Bool} {items : List (Progress π)}
    (h : (items.all fun r => (look (m := Id) view r).succeeded) = true) : failing view crowd items = false := by
  induction items with
  | nil => rfl
  | cons r rest ih =>
    rw [List.all_cons, Bool.and_eq_true] at h
    have hfirst : (look (m := Id) view r).failed = false := by
      cases hr : look (m := Id) view r with
      | done o =>
        rw [hr] at h
        cases o with
        | error f => cases h.1
        | ok v => rfl
      | _ => rfl
    rw [failing, hfirst, ih h.2, Bool.and_false]
    rfl

/-- A look at several parts as a whole. -/
theorem gathered_lookThrough (items : List (Progress π)) :
    gathered (lookThrough (m := Id) view items) =
      gather (crowded items) (lookAll (m := Id) view (crowded items) true items) := by
  have hcrowded : crowded (lookAll (m := Id) view (crowded items) true items) = crowded items := by
    rw [crowded, crowded, lookAll_length]
  rw [gathered_eq, lookThrough]
  exact congrArg (gather · _) hcrowded

theorem gathered_error_iff (items : List (Progress π)) :
    (∃ f, gathered (lookThrough (m := Id) view items) = some (.error f)) ↔
      failing view (crowded items) items = true := by
  rw [gathered_lookThrough]
  constructor
  · intro ⟨f, hf⟩
    refine Bool.of_not_eq_false fun h => gather_map_error (crowded items) items h f ?_
    rw [← hf]
    exact congrArg _ (lookAll_of_not_failing _ h).symm
  · exact lookAll_failing _

theorem gathered_ok_iff (items : List (Progress π)) :
    (∃ vs, gathered (lookThrough (m := Id) view items) = some (.ok vs)) ↔
      items.all (fun r => (look (m := Id) view r).succeeded) = true := by
  rw [gathered_lookThrough, ← gather_map_ok (crowded items)]
  cases hfailing : failing view (crowded items) items with
  | false => rw [lookAll_of_not_failing _ hfailing]
  | true =>
    obtain ⟨f, hf⟩ := lookAll_failing (crowded items) hfailing
    constructor
    · intro ⟨vs, hvs⟩
      rw [hf] at hvs
      cases hvs
    · intro hok
      rw [not_failing_of_all ((gather_map_ok (crowded items) items).mp hok)] at hfailing
      cases hfailing

/-- What is not decided has been looked at part by part. -/
theorem lookThrough_undecided {items : List (Progress π)}
    (h : gathered (lookThrough (m := Id) view items) = none) :
    lookThrough (m := Id) view items = items.map (look (m := Id) view) := by
  refine lookAll_of_not_failing _ (Bool.eq_false_iff.mpr fun hfailing => ?_)
  obtain ⟨f, hf⟩ := (gathered_error_iff items).mpr hfailing
  rw [h] at hf
  cases hf

/-! ### Seeing more -/

theorem look_pending (p : π) : look (m := Id) view (pending p) =
    match view p with
    | some o => done o
    | none => pending p := by
  rw [look]
  rfl

theorem look_parts (whole : List Value → Value) (items : List (Progress π)) :
    look (m := Id) view (parts whole items) =
      match gathered (lookThrough (m := Id) view items) with
      | some o => done (o.map whole)
      | none => parts whole (lookThrough (m := Id) view items) := by
  rw [look]
  rfl

theorem look_parts_failed (whole : List Value → Value) (items : List (Progress π)) :
    (look (m := Id) view (parts whole items)).failed = failing view (crowded items) items := by
  rw [Bool.eq_iff_iff, ← gathered_error_iff, look_parts]
  cases gathered (lookThrough (m := Id) view items) with
  | none => simp [failed]
  | some o => cases o <;> simp [failed, Except.map]

theorem look_parts_succeeded (whole : List Value → Value) (items : List (Progress π)) :
    (look (m := Id) view (parts whole items)).succeeded =
      items.all fun r => (look (m := Id) view r).succeeded := by
  rw [Bool.eq_iff_iff, ← gathered_ok_iff, look_parts]
  cases gathered (lookThrough (m := Id) view items) with
  | none => simp [succeeded]
  | some o => cases o <;> simp [succeeded, Except.map]

/-- What is decided one way is decided the same way when more is told. -/
structure Stays (view view' : π → Poll Value) (r : Progress π) : Prop where
  failed : (look (m := Id) view r).failed = true → (look (m := Id) view' r).failed = true
  succeeded : (look (m := Id) view r).succeeded = true → (look (m := Id) view' r).succeeded = true

theorem failing_mono {crowd : Bool} {items : List (Progress π)} (h : ∀ r ∈ items, Stays view view' r) :
    failing view crowd items = true → failing view' crowd items = true := by
  induction items with
  | nil => exact id
  | cons r rest ih =>
    have hfirst := h r List.mem_cons_self
    have hrest := ih fun q hq => h q (List.mem_cons_of_mem _ hq)
    simp only [failing, Bool.or_eq_true, Bool.and_eq_true]
    rintro (hfailed | ⟨hcounts, hfailing⟩)
    · exact .inl (hfirst.failed hfailed)
    · exact .inr ⟨hcounts.imp_right hfirst.succeeded, hrest hfailing⟩

mutual

theorem look_stays (h : ∀ p o, view p = some o → view' p = some o) : ∀ r : Progress π, Stays view view' r
  | done o => ⟨id, id⟩
  | pending p => by
    cases hp : view p with
    | none => constructor <;> (rw [look_pending, hp]; exact nofun)
    | some o => constructor <;> (rw [look_pending, look_pending, hp, h p o hp]; exact id)
  | parts whole items => by
    have hitems := items_stay h items
    constructor
    · rw [look_parts_failed, look_parts_failed]
      exact failing_mono hitems
    · rw [look_parts_succeeded, look_parts_succeeded, List.all_eq_true, List.all_eq_true]
      exact fun hall r hr => (hitems r hr).succeeded (hall r hr)

theorem items_stay (h : ∀ p o, view p = some o → view' p = some o) :
    ∀ items : List (Progress π), ∀ r ∈ items, Stays view view' r
  | [] => fun _ hr => by cases hr
  | first :: rest => by
    have hfirst := look_stays h first
    have hrest := items_stay h rest
    intro r hr
    rcases List.mem_cons.mp hr with rfl | hr
    · exact hfirst
    · exact hrest r hr

end

theorem look_isSome_mono (h : ∀ p o, view p = some o → view' p = some o) {r : Progress π}
    (hr : (look (m := Id) view r).outcome?.isSome) : (look (m := Id) view' r).outcome?.isSome := by
  have hstays := look_stays h r
  have houtcome : ∀ q : Progress π, q.outcome?.isSome ↔ q.failed = true ∨ q.succeeded = true := by
    intro q
    cases q with
    | done o => cases o <;> simp [outcome?, Progress.failed, Progress.succeeded]
    | _ => simp [outcome?, Progress.failed, Progress.succeeded]
  rw [houtcome] at hr ⊢
  exact hr.imp hstays.failed hstays.succeeded

/-! ### Less to ask for -/

mutual

/-- There is no more to ask for after a look than before. -/
theorem look_awaited_le {m : Type → Type} [Monad m] (telling : Telling m) {ask : π → m (Poll Value)}
    (hask : ∀ p, telling.holds (ask p) fun _ => True) : ∀ r : Progress π,
      telling.holds (r.look ask) fun r' => r'.awaited.length ≤ r.awaited.length
  | done o => telling.pure (Nat.le_refl _)
  | pending p => by
    simp only [look]
    refine telling.bind (hask p) fun told _ => ?_
    cases told with
    | some o => exact telling.pure (Nat.zero_le _)
    | none => exact telling.pure (Nat.le_refl _)
  | parts whole items => by
    simp only [look]
    refine telling.bind (lookAll_awaited_le telling hask _ _ items) fun items' hi => ?_
    split
    · exact telling.pure (Nat.zero_le _)
    · exact telling.pure hi

theorem lookAll_awaited_le {m : Type → Type} [Monad m] (telling : Telling m) {ask : π → m (Poll Value)}
    (hask : ∀ p, telling.holds (ask p) fun _ => True) (crowd : Bool) :
    ∀ (counts : Bool) (items : List (Progress π)), telling.holds (lookAll ask crowd counts items) fun items' =>
      (awaitedOfAll items').length ≤ (awaitedOfAll items).length
  | _, [] => telling.pure (Nat.le_refl _)
  | counts, r :: rest => by
    simp only [lookAll, awaitedOfAll, List.length_append]
    refine telling.bind (look_awaited_le telling hask r) fun first hf => ?_
    split
    · exact telling.pure (by simp only [awaitedOfAll, List.length_append]; omega)
    · refine telling.bind (lookAll_awaited_le telling hask crowd _ rest) fun rest' hr => telling.pure ?_
      simp only [awaitedOfAll, List.length_append]
      omega

end

theorem map_look_awaited_le (items : List (Progress π)) :
    (awaitedOfAll (items.map (look (m := Id) view))).length ≤ (awaitedOfAll items).length := by
  induction items with
  | nil => exact Nat.le_refl _
  | cons r rest ih =>
    simp only [List.map_cons, awaitedOfAll, List.length_append]
    exact Nat.add_le_add (look_awaited_le Telling.plain (fun _ => trivial) r) ih

mutual

/-- There is less to ask for after a look that sees an answer to any question. -/
theorem look_awaited_lt : ∀ r : Progress π, (∃ p ∈ r.awaited, (view p).isSome) →
    (look (m := Id) view r).awaited.length < r.awaited.length
  | done o, ⟨p, hp, _⟩ => by cases hp
  | pending p, ⟨q, hq, hsome⟩ => by
    rw [List.mem_singleton.mp hq] at hsome
    obtain ⟨o, ho⟩ := Option.isSome_iff_exists.mp hsome
    rw [look_pending, ho]
    exact Nat.zero_lt_one
  | parts whole items, ⟨p, hp, hsome⟩ => by
    rw [look_parts]
    cases hg : gathered (lookThrough (m := Id) view items) with
    | some o => exact List.length_pos_of_mem hp
    | none =>
      simp only [awaited]
      rw [lookThrough_undecided hg]
      exact map_look_awaited_lt items ⟨p, hp, hsome⟩

theorem map_look_awaited_lt : ∀ items : List (Progress π), (∃ p ∈ awaitedOfAll items, (view p).isSome) →
    (awaitedOfAll (items.map (look (m := Id) view))).length < (awaitedOfAll items).length
  | [], ⟨p, hp, _⟩ => by cases hp
  | r :: rest, ⟨p, hp, hsome⟩ => by
    simp only [List.map_cons, awaitedOfAll, List.length_append]
    rcases List.mem_append.mp hp with hp | hp
    · exact Nat.add_lt_add_of_lt_of_le (look_awaited_lt r ⟨p, hp, hsome⟩) (map_look_awaited_le rest)
    · exact Nat.add_lt_add_of_le_of_lt (look_awaited_le Telling.plain (fun _ => trivial) r)
        (map_look_awaited_lt rest ⟨p, hp, hsome⟩)

end

end Progress

namespace Resolvable

variable {view view' : π → Poll Value}

/-! ### Paths -/

theorem await_mono (h : ∀ p o, view p = some o → view' p = some o) {r : Resolvable π}
    {o : Except Fault (Resolvable π)} (ho : r.await (m := Id) view = some o) : r.await (m := Id) view' = some o := by
  cases r with
  | pending p =>
    obtain ⟨o', ho', rfl⟩ := Option.map_eq_some_iff.mp ho
    exact Option.map_eq_some_iff.mpr ⟨o', h p o' ho', rfl⟩
  | _ => exact ho

/-- Where a path leads stays the same when more is told. -/
theorem navigate_mono (h : ∀ p o, view p = some o → view' p = some o) (path : Path) : ∀ {r : Resolvable π}
    {o : Except Fault (Resolvable π)}, r.navigate (m := Id) view path = some o →
      r.navigate (m := Id) view' path = some o := by
  induction path with
  | nil => exact fun ho => await_mono h ho
  | cons segment rest ih =>
    intro r o ho
    rw [navigate_cons] at ho ⊢
    cases hfirst : r.await (m := Id) view with
    | none =>
      rw [hfirst] at ho
      cases ho
    | some first =>
      rw [hfirst] at ho
      rw [await_mono h hfirst]
      cases first with
      | error f => exact ho
      | ok found =>
        simp only [proceed] at ho ⊢
        cases hstep : found.step segment with
        | ok next =>
          rw [hstep] at ho
          exact ih ho
        | error cause =>
          rw [hstep] at ho
          exact ho

/-- What is told of the end of a path is not taken back when more is told. -/
theorem obtain?_isSome_mono (h : ∀ p o, view p = some o → view' p = some o) {r : Resolvable π} {path : Path}
    (hr : (r.obtain? (m := Id) view path).isSome) : (r.obtain? (m := Id) view' path).isSome := by
  simp only [obtain?] at hr ⊢
  cases hfound : r.navigate (m := Id) view path with
  | none =>
    rw [hfound] at hr
    cases hr
  | some o =>
    rw [hfound] at hr
    rw [navigate_mono h path hfound]
    cases o with
    | error f => rfl
    | ok found => exact Progress.look_isSome_mono h hr

end Resolvable
end StageGraph
