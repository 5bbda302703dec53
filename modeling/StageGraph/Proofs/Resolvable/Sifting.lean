import StageGraph.Proofs.Resolvable.Deciding

/-! What looks leave.

A look that does not decide leaves nothing standing that is decided: of all parts that are still together, however deep,
nothing is known as a whole (`Sifted`). A sifted tree stays as it is under a look that is told nothing
(`look_sifted_eq`). -/
namespace StageGraph.Progress

variable {π : Type}

mutual

/-- Nothing that is decided is left standing. -/
def Sifted : Progress π → Prop
  | done _ => True
  | pending _ => True
  | parts _ items => gathered items = none ∧ SiftedAll items

def SiftedAll : List (Progress π) → Prop
  | [] => True
  | r :: rest => r.Sifted ∧ SiftedAll rest

end

/-- A failure that decides about some parts decides about more. -/
theorem gather_cons_fails {crowd : Bool} {first : Progress π} {rest : List (Progress π)} {f : Fault}
    (hcounts : crowd = true → first.succeeded = true) (h : gather crowd rest = some (.error f)) :
    ∃ f, gather crowd (first :: rest) = some (.error f) := by
  cases first with
  | done o =>
    cases o with
    | error g => exact ⟨g, gather_error_cons crowd g rest⟩
    | ok v => exact ⟨f, by rw [gather_ok_cons, h]; rfl⟩
  | _ =>
    have hfew : crowd = false := Bool.eq_false_iff.mpr fun hcrowd => nomatch hcounts hcrowd
    exact ⟨f, (gather_cons_error rfl).mpr ⟨hfew, h⟩⟩

/-- What holds of all outcomes, and of several parts if it holds of each and nothing is decided. -/
structure Lasting (good : Progress π → Prop) : Prop where
  done (o : Outcome) : good (done o)
  parts (whole : List Value → Value) {items : List (Progress π)} (hnone : gathered items = none)
    (hitems : ∀ r ∈ items, good r) : good (parts whole items)

section

variable {m : Type → Type} [Monad m] {ask : π → m (Poll Value)} {σ : Type} {good : σ → Progress π → Prop}

mutual

/-- A look goes through all that it does not decide: what lasts holds of what it leaves if it holds of whoever is told
nothing. -/
theorem look_throughout (course : Course m σ) (hgood : ∀ s, Lasting (good s))
    (hlater : ∀ {s s' r}, course.later s s' → good s r → good s' r) : ∀ (r : Progress π) (s : σ),
    (∀ p ∈ r.awaited, ∀ s', course.later s s' →
      course.holds s' (ask p) fun s'' told => told = none → good s'' (pending p)) →
    course.holds s (r.look ask) good
  | done o, s, _ => course.pure ((hgood s).done o)
  | pending p, s, h => by
    simp only [look]
    refine course.bind (h p (List.mem_singleton_self p) s (course.refl s)) fun s' told _ htold => ?_
    cases told with
    | some o => exact course.pure ((hgood s').done o)
    | none => exact course.pure (htold rfl)
  | parts whole items, s, h => by
    simp only [look]
    refine course.bind (lookAll_throughout course hgood hlater (crowded items) true items s h)
      fun s' items' _ hitems => ?_
    obtain ⟨hlength, hleft⟩ := hitems
    split
    · exact course.pure ((hgood s').done _)
    · next hnone =>
      refine course.pure ((hgood s').parts whole hnone (hleft.resolve_right fun ⟨_, f, hf⟩ => ?_))
      have hcrowded : crowded items' = crowded items := by rw [crowded, crowded, hlength]
      rw [gathered_eq, hcrowded, hf] at hnone
      cases hnone

/-- A look at several parts goes through them all, or stops at a failure that decides. -/
theorem lookAll_throughout (course : Course m σ) (hgood : ∀ s, Lasting (good s))
    (hlater : ∀ {s s' r}, course.later s s' → good s r → good s' r) (crowd : Bool) :
    ∀ (counts : Bool) (items : List (Progress π)) (s : σ),
    (∀ p ∈ awaitedOfAll items, ∀ s', course.later s s' →
      course.holds s' (ask p) fun s'' told => told = none → good s'' (pending p)) →
    course.holds s (lookAll ask crowd counts items) fun s' items' => items'.length = items.length ∧
      ((∀ r ∈ items', good s' r) ∨ (crowd = true → counts = true) ∧ ∃ f, gather crowd items' = some (.error f))
  | _, [], _, _ => course.pure ⟨rfl, .inl fun _ hr => by cases hr⟩
  | counts, r :: rest, s, h => by
    simp only [lookAll]
    refine course.bind (look_throughout course hgood hlater r s fun p hp => h p (List.mem_append_left _ hp))
      fun s' first hs' hfirst => ?_
    split
    · next hstop =>
      obtain ⟨hcounts, hfailed⟩ := Bool.and_eq_true_iff.mp hstop
      refine course.pure ⟨rfl, .inr ⟨fun _ => hcounts, ?_⟩⟩
      cases first with
      | done o =>
        cases o with
        | error f => exact ⟨f, gather_error_cons crowd f rest⟩
        | ok v => cases hfailed
      | _ => cases hfailed
    · refine course.bind (lookAll_throughout course hgood hlater crowd _ rest s' fun p hp s'' hs'' =>
        h p (List.mem_append_right _ hp) s'' (course.trans hs' hs'')) fun s'' rest' hs'' hrest => ?_
      obtain ⟨hlength, hleft⟩ := hrest
      refine course.pure ⟨congrArg Nat.succ hlength, ?_⟩
      refine hleft.imp (fun hrest => List.forall_mem_cons.mpr ⟨hlater hs'' hfirst, hrest⟩) fun ⟨hcounts, f, hf⟩ => ?_
      have hboth (hcrowd : crowd = true) : counts = true ∧ first.succeeded = true := by
        have hnext := hcounts hcrowd
        rw [hcrowd] at hnext
        exact Bool.and_eq_true_iff.mp hnext
      exact ⟨fun hcrowd => (hboth hcrowd).1, gather_cons_fails (fun hcrowd => (hboth hcrowd).2) hf⟩

end

end

theorem siftedAll_iff {items : List (Progress π)} : SiftedAll items ↔ ∀ r ∈ items, r.Sifted := by
  induction items with
  | nil => exact iff_of_true trivial fun _ hr => by cases hr
  | cons r rest ih => rw [SiftedAll, List.forall_mem_cons, ih]

theorem lasting_sifted : Lasting (Sifted (π := π)) :=
  ⟨fun _ => trivial, fun _ _ hnone hitems => ⟨hnone, siftedAll_iff.mpr hitems⟩⟩

section

variable {m : Type → Type} [Monad m] (telling : Telling m) {ask : π → m (Poll Value)}
  (hask : ∀ p, telling.holds (ask p) fun _ => True)
include hask

/-- What a look leaves is sifted. -/
theorem look_sifted (r : Progress π) : telling.holds (r.look ask) Sifted :=
  look_throughout (Course.still telling) (fun _ => lasting_sifted) (fun _ h => h) r ()
    fun p _ _ _ => telling.mono (hask p) fun _ _ _ => trivial

/-- A look at several parts sifts them all, or stops at a failure that decides. -/
theorem lookAll_sifted (crowd counts : Bool) (items : List (Progress π)) :
    telling.holds (lookAll ask crowd counts items) fun items' => items'.length = items.length ∧
      (SiftedAll items' ∨ (crowd = true → counts = true) ∧ ∃ f, gather crowd items' = some (.error f)) := by
  refine telling.mono (lookAll_throughout (Course.still telling) (fun _ => lasting_sifted) (fun _ h => h) crowd counts
    items () fun p _ _ _ => telling.mono (hask p) fun _ _ _ => trivial) fun items' hitems => ?_
  rw [siftedAll_iff]
  exact hitems

end

theorem forall_awaitedOfAll {left : π → Prop} {items : List (Progress π)}
    (h : ∀ r ∈ items, ∀ p ∈ r.awaited, left p) : ∀ p ∈ awaitedOfAll items, left p := by
  induction items with
  | nil => exact fun _ hp => by cases hp
  | cons r rest ih =>
    obtain ⟨hr, hrest⟩ := List.forall_mem_cons.mp h
    intro p hp
    rcases List.mem_append.mp hp with hp | hp
    · exact hr p hp
    · exact ih hrest p hp

theorem lasting_awaits (left : π → Prop) : Lasting fun r : Progress π => ∀ p ∈ r.awaited, left p :=
  ⟨fun _ _ hp => (by cases hp), fun _ _ _ => forall_awaitedOfAll⟩

/-- What is still awaited after a look was awaited before, and nothing was told of it. -/
theorem look_awaits {m : Type → Type} [Monad m] (telling : Telling m) {ask : π → m (Poll Value)} {left : π → Prop}
    (r : Progress π) (hask : ∀ p ∈ r.awaited, telling.holds (ask p) fun told => told = none → left p) :
    telling.holds (r.look ask) fun r' => ∀ p ∈ r'.awaited, left p := by
  refine look_throughout (Course.still telling) (fun _ => lasting_awaits left) (fun _ h => h) r () fun p hp _ _ =>
    telling.mono (hask p hp) fun _ htold hnone q hq => ?_
  rw [List.mem_singleton.mp hq]
  exact htold hnone

theorem mem_awaitedOfAll {items : List (Progress π)} {r : Progress π} (hr : r ∈ items) {p : π} (hp : p ∈ r.awaited) :
    p ∈ awaitedOfAll items := by
  induction items with
  | nil => cases hr
  | cons first rest ih =>
    rcases List.mem_cons.mp hr with rfl | hr
    · exact List.mem_append_left _ hp
    · exact List.mem_append_right _ (ih hr)

mutual

/-- A look that is told what a view shows is a look at the view. -/
theorem look_view {m : Type → Type} [Monad m] (telling : Telling m) {ask : π → m (Poll Value)} {view : π → Poll Value} :
    ∀ r : Progress π, (∀ p ∈ r.awaited, telling.holds (ask p) fun told => told = view p) →
      telling.holds (r.look ask) fun r' => r' = r.look (m := Id) view
  | done _, _ => telling.pure rfl
  | pending p, h => by
    rw [look]
    refine telling.bind (h p (List.mem_singleton_self p)) fun told htold => ?_
    rw [look_pending, ← htold]
    cases told <;> exact telling.pure rfl
  | parts whole items, h => by
    rw [look]
    refine telling.bind (lookAll_view telling (crowded items) true items h) fun items' hitems => ?_
    rw [look_parts, lookThrough, ← hitems]
    cases gathered items' <;> exact telling.pure rfl

theorem lookAll_view {m : Type → Type} [Monad m] (telling : Telling m) {ask : π → m (Poll Value)} {view : π → Poll Value}
    (crowd : Bool) : ∀ (counts : Bool) (items : List (Progress π)),
    (∀ p ∈ awaitedOfAll items, telling.holds (ask p) fun told => told = view p) →
      telling.holds (lookAll ask crowd counts items) fun items' => items' = lookAll (m := Id) view crowd counts items
  | _, [], _ => telling.pure rfl
  | counts, r :: rest, h => by
    rw [lookAll]
    refine telling.bind (look_view telling r fun p hp => h p (List.mem_append_left _ hp)) fun first hfirst => ?_
    rw [lookAll_cons, ← hfirst]
    split
    · exact telling.pure rfl
    · exact telling.bind (lookAll_view telling crowd _ rest fun p hp => h p (List.mem_append_right _ hp))
        fun rest' hrest => telling.pure (by rw [hrest])

end

section

variable {view : π → Poll Value}

mutual

/-- A sifted tree stays as it is under a look that is told nothing. -/
theorem look_sifted_eq : ∀ r : Progress π, r.Sifted → (∀ p ∈ r.awaited, view p = none) → look (m := Id) view r = r
  | done o, _, _ => rfl
  | pending p, _, hnone => by rw [look_pending, hnone p (List.mem_singleton_self p)]
  | parts whole items, ⟨hg, hsifted⟩, hnone => by
    have hitems : lookThrough (m := Id) view items = items := lookAll_sifted_eq (crowded items) true items hsifted hnone
    rw [look_parts, hitems, hg]

theorem lookAll_sifted_eq (crowd : Bool) : ∀ (counts : Bool) (items : List (Progress π)), SiftedAll items →
    (∀ p ∈ awaitedOfAll items, view p = none) → lookAll (m := Id) view crowd counts items = items
  | _, [], _, _ => rfl
  | counts, r :: rest, ⟨hr, hrest⟩, hnone => by
    have hfirst := look_sifted_eq r hr fun p hp => hnone p (List.mem_append_left _ hp)
    rw [lookAll_cons, hfirst]
    split
    · rfl
    · rw [lookAll_sifted_eq crowd _ rest hrest fun p hp => hnone p (List.mem_append_right _ hp)]

end

end

/-- What is not decided and sifted awaits something. -/
theorem exists_awaited {r : Progress π} (hsifted : r.Sifted) (hnone : r.outcome? = none) : ∃ p, p ∈ r.awaited := by
  refine List.exists_mem_of_ne_nil _ fun hempty => ?_
  have hnobody {P : π → Prop} (p : π) (hp : p ∈ r.awaited) : P p := by
    rw [hempty] at hp
    cases hp
  have hsome : (look (m := Id) (fun _ => none) r).outcome?.isSome := look_isSome r hnobody
  rw [look_sifted_eq r hsifted hnobody, hnone] at hsome
  cases hsome

theorem exists_awaitedOfAll {items : List (Progress π)} (hsifted : SiftedAll items) (hnone : gathered items = none) :
    ∃ p, p ∈ awaitedOfAll items :=
  exists_awaited (r := .parts .array items) ⟨hnone, hsifted⟩ rfl

end StageGraph.Progress
