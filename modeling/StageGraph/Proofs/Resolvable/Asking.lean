import StageGraph.Resolvable.Polling

/-! What asking for values can come out as.

Values in a tree are asked for in a monad. `Telling` is what it takes to speak about what computations give, in a
monad that changes something as in one that does not, and the lemmas here hold for every way to do so. Asking
makes nothing up. With a value known for everything that is pending, a tree stands for the same value before
and after a look at it (`look_value?`), and a value at the end of a path is the one that is known to be there
(`obtain?_reached?`). And a failure in a tree was there before, or somebody was told it (`look_every`). -/
namespace StageGraph

/-- A way to tell what computations give. -/
structure Telling (m : Type → Type) [Monad m] where
  holds {α : Type} : m α → (α → Prop) → Prop
  pure {α : Type} {a : α} {P : α → Prop} : P a → holds (Pure.pure a) P
  bind {α β : Type} {x : m α} {f : α → m β} {P : α → Prop} {Q : β → Prop} :
    holds x P → (∀ a, P a → holds (f a) Q) → holds (x >>= f) Q
  mono {α : Type} {x : m α} {P Q : α → Prop} : holds x P → (∀ a, P a → Q a) → holds x Q

namespace Telling

/-- A computation that changes nothing gives what it is. -/
def plain : Telling Id where
  holds x P := P x
  pure h := h
  bind h h' := h' _ h
  mono h hq := hq _ h

/-- A computation that keeps an invariant of the state. -/
def keeping {σ : Type} (I : σ → Prop) : Telling (StateM σ) where
  holds x P := ∀ s, I s → P (x s).1 ∧ I (x s).2
  pure h := fun _ hs => ⟨h, hs⟩
  bind h h' := fun s hs => h' _ (h s hs).1 _ (h s hs).2
  mono h hq := fun s hs => ⟨hq _ (h s hs).1, (h s hs).2⟩

end Telling

/-- A way to tell what computations give and how things stand then. As they go on, things stand later and later. -/
structure Course (m : Type → Type) [Monad m] (σ : Type) where
  later : σ → σ → Prop
  refl (s : σ) : later s s
  trans {s s' s'' : σ} : later s s' → later s' s'' → later s s''
  holds {α : Type} : σ → m α → (σ → α → Prop) → Prop
  pure {α : Type} {s : σ} {a : α} {P : σ → α → Prop} : P s a → holds s (Pure.pure a) P
  bind {α β : Type} {s : σ} {x : m α} {f : α → m β} {P : σ → α → Prop} {Q : σ → β → Prop} :
    holds s x P → (∀ s' a, later s s' → P s' a → holds s' (f a) Q) → holds s (x >>= f) Q

namespace Course

/-- How things stand does not matter. -/
def still {m : Type → Type} [Monad m] (telling : Telling m) : Course m Unit where
  later _ _ := True
  refl _ := trivial
  trans _ _ := trivial
  holds _ x P := telling.holds x (P ())
  pure h := telling.pure h
  bind h h' := telling.bind h fun a ha => h' () a trivial ha

/-- Things stand as the state tells, which keeps an invariant. -/
def states {σ : Type} {I : σ → Prop} {later : σ → σ → Prop} (refl : ∀ s, I s → later s s)
    (trans : ∀ {s s' s''}, later s s' → later s' s'' → later s s'') : Course (StateM σ) { s // I s } where
  later s s' := later s s'
  refl s := refl s s.property
  trans := trans
  holds s x P := ∃ kept : I (x s).2, later s (x s).2 ∧ P ⟨(x s).2, kept⟩ (x s).1
  pure {_ s _ _} h := ⟨s.property, refl s s.property, h⟩
  bind {_ _ s x _ _ _} h h' :=
    have hnext := h' ⟨(x s).2, h.choose⟩ (x s).1 h.choose_spec.1 h.choose_spec.2
    ⟨hnext.choose, trans h.choose_spec.1 hnext.choose_spec.1, hnext.choose_spec.2⟩

end Course

variable {π : Type} {m : Type → Type} [Monad m] {telling : Telling m} {ask : π → m (Poll Value)}
  {known : π → Option Value}

/-- What is told is what is known. -/
def Agrees (known : π → Option Value) (p : π) (told : Poll Value) : Prop :=
  ∀ o, told = some o → o.toOption = known p

namespace Progress

/-! ### The value that a tree stands for -/

mutual

/-- The value that a tree stands for, with those that are known for its pending parts. -/
def value? (known : π → Option Value) : Progress π → Option Value
  | done o => o.toOption
  | pending p => known p
  | parts whole items => (values? known items).map whole

def values? (known : π → Option Value) : List (Progress π) → Option (List Value)
  | [] => some []
  | r :: rest => (r.value? known).bind fun v => (values? known rest).map fun vs => v :: vs

end

theorem inTurn_values? : ∀ {items : List (Progress π)} {o : Except Fault (List Value)},
    inTurn items = some o → o.toOption = values? known items
  | [], o, h => by
    cases h
    rfl
  | done (.ok v) :: rest, o, h => by
    obtain ⟨o', ho, rfl⟩ := Option.map_eq_some_iff.mp h
    rw [values?, ← inTurn_values? ho]
    cases o' <;> rfl
  | done (.error f) :: rest, o, h => by
    cases h
    rfl
  | pending p :: rest, o, h => by cases h
  | parts whole items :: rest, o, h => by cases h

/-- A failure behind a part that is not there counts as well when parts are waited for together. -/
theorem together_values? : ∀ {items : List (Progress π)} {o : Except Fault (List Value)},
    together items = some o → o.toOption = values? known items
  | [], o, h => by
    cases h
    rfl
  | done (.ok v) :: rest, o, h => by
    obtain ⟨o', ho, rfl⟩ := Option.map_eq_some_iff.mp h
    rw [values?, ← together_values? ho]
    cases o' <;> rfl
  | done (.error f) :: rest, o, h => by
    cases h
    rfl
  | pending p :: rest, o, h => by
    simp only [together] at h
    split at h
    · next f ho =>
      cases h
      rw [values?, ← together_values? ho]
      cases value? known (pending p) <;> rfl
    · cases h
  | parts whole items :: rest, o, h => by
    simp only [together] at h
    split at h
    · next f ho =>
      cases h
      rw [values?, ← together_values? ho]
      cases value? known (parts whole items) <;> rfl
    · cases h

theorem gathered_values? {items : List (Progress π)} {o : Except Fault (List Value)}
    (h : gathered items = some o) : o.toOption = values? known items := by
  rw [gathered] at h
  split at h
  · exact inTurn_values? h
  · exact together_values? h

mutual

/-- A look leaves a tree with the value that it stands for. -/
theorem look_value? (telling : Telling m) : ∀ r : Progress π,
    (∀ p ∈ r.awaited, telling.holds (ask p) (Agrees known p)) →
      telling.holds (r.look ask) fun r' => r'.value? known = r.value? known
  | done o, _ => telling.pure rfl
  | pending p, h => by
    simp only [look]
    refine telling.bind (h p (by simp [awaited])) fun told ht => ?_
    cases told with
    | some o => exact telling.pure (ht o rfl)
    | none => exact telling.pure rfl
  | parts whole items, h => by
    simp only [look]
    refine telling.bind (lookAll_values? telling _ _ items h) fun items' hi => ?_
    split
    · next o ho =>
      refine telling.pure ?_
      simp only [value?, ← hi, ← gathered_values? ho]
      cases o <;> rfl
    · exact telling.pure (by simp only [value?, hi])

theorem lookAll_values? (telling : Telling m) (crowd : Bool) : ∀ (counts : Bool) (items : List (Progress π)),
    (∀ p ∈ awaitedOfAll items, telling.holds (ask p) (Agrees known p)) →
      telling.holds (lookAll ask crowd counts items) fun items' => values? known items' = values? known items
  | _, [], _ => telling.pure rfl
  | counts, r :: rest, h => by
    simp only [lookAll]
    refine telling.bind (look_value? telling r fun p hp => h p (List.mem_append_left _ hp)) fun first hf => ?_
    split
    · exact telling.pure (by simp only [values?, hf])
    · refine telling.bind (lookAll_values? telling crowd _ rest fun p hp => h p (List.mem_append_right _ hp))
        fun rest' hr => telling.pure (by simp only [values?, hf, hr])

end

theorem lookThrough_values? (telling : Telling m) (items : List (Progress π))
    (h : ∀ p ∈ awaitedOfAll items, telling.holds (ask p) (Agrees known p)) :
    telling.holds (lookThrough ask items) fun items' => values? known items' = values? known items :=
  lookAll_values? telling _ _ items h

/-! ### What a tree holds -/

mutual

/-- What holds of all failures in a tree and of all that is pending in it. -/
def every (fault : Fault → Prop) (part : π → Prop) : Progress π → Prop
  | done (.ok _) => True
  | done (.error f) => fault f
  | pending p => part p
  | parts _ items => everyOfAll fault part items

def everyOfAll (fault : Fault → Prop) (part : π → Prop) : List (Progress π) → Prop
  | [] => True
  | r :: rest => r.every fault part ∧ everyOfAll fault part rest

end

variable {fault fault' : Fault → Prop} {part part' : π → Prop}

mutual

/-- Of parts, only those matter that are awaited. -/
theorem every_imp (hf : ∀ f, fault f → fault' f) :
    ∀ r : Progress π, r.every fault part → (∀ p ∈ r.awaited, part p → part' p) → r.every fault' part'
  | done (.ok _), _, _ => trivial
  | done (.error f), h, _ => hf f h
  | pending p, h, hp => hp p (List.mem_singleton_self p) h
  | parts _ items, h, hp => everyOfAll_imp hf items h hp

theorem everyOfAll_imp (hf : ∀ f, fault f → fault' f) : ∀ items : List (Progress π), everyOfAll fault part items →
    (∀ p ∈ awaitedOfAll items, part p → part' p) → everyOfAll fault' part' items
  | [], _, _ => trivial
  | r :: rest, h, hp => ⟨every_imp hf r h.1 fun p hmem => hp p (List.mem_append_left _ hmem),
      everyOfAll_imp hf rest h.2 fun p hmem => hp p (List.mem_append_right _ hmem)⟩

end

theorem every_mono (hf : ∀ f, fault f → fault' f) (hp : ∀ p, part p → part' p) (r : Progress π)
    (h : r.every fault part) : r.every fault' part' :=
  every_imp hf r h fun p _ => hp p

theorem everyOfAll_mono (hf : ∀ f, fault f → fault' f) (hp : ∀ p, part p → part' p) (items : List (Progress π))
    (h : everyOfAll fault part items) : everyOfAll fault' part' items :=
  everyOfAll_imp hf items h fun p _ => hp p

mutual

theorem every_awaited : ∀ r : Progress π, r.every fault part → ∀ p ∈ r.awaited, part p
  | done o, _, p, hp => by cases hp
  | pending q, h, p, hp => by
    rw [List.mem_singleton.mp hp]
    exact h
  | parts _ items, h, p, hp => everyOfAll_awaited items h p hp

theorem everyOfAll_awaited : ∀ items : List (Progress π), everyOfAll fault part items →
    ∀ p ∈ awaitedOfAll items, part p
  | [], _, p, hp => by cases hp
  | r :: rest, h, p, hp => by
    rcases List.mem_append.mp hp with hp | hp
    · exact every_awaited r h.1 p hp
    · exact everyOfAll_awaited rest h.2 p hp

end

theorem inTurn_every : ∀ {items : List (Progress π)} {f : Fault}, everyOfAll fault part items →
    inTurn items = some (.error f) → fault f
  | [], f, _, h => by cases h
  | done (.ok v) :: rest, f, he, h => by
    obtain ⟨o, ho, hv⟩ := Option.map_eq_some_iff.mp h
    cases o with
    | ok vs => cases hv
    | error g =>
      cases hv
      exact inTurn_every he.2 ho
  | done (.error g) :: rest, f, he, h => by
    cases h
    exact he.1
  | pending p :: rest, f, _, h => by cases h
  | parts whole items :: rest, f, _, h => by cases h

theorem together_every : ∀ {items : List (Progress π)} {f : Fault}, everyOfAll fault part items →
    together items = some (.error f) → fault f
  | [], f, _, h => by cases h
  | done (.ok v) :: rest, f, he, h => by
    obtain ⟨o, ho, hv⟩ := Option.map_eq_some_iff.mp h
    cases o with
    | ok vs => cases hv
    | error g =>
      cases hv
      exact together_every he.2 ho
  | done (.error g) :: rest, f, he, h => by
    cases h
    exact he.1
  | pending p :: rest, f, he, h => by
    simp only [together] at h
    split at h
    · next g ho =>
      cases h
      exact together_every he.2 ho
    · cases h
  | parts whole items :: rest, f, he, h => by
    simp only [together] at h
    split at h
    · next g ho =>
      cases h
      exact together_every he.2 ho
    · cases h

theorem gathered_every {items : List (Progress π)} {f : Fault} (he : everyOfAll fault part items)
    (h : gathered items = some (.error f)) : fault f := by
  rw [gathered] at h
  split at h
  · exact inTurn_every he h
  · exact together_every he h

/-- What is told of a part, if it is a failure, is one that holds. -/
def Tells (fault : Fault → Prop) (told : Poll Value) : Prop := ∀ f, told = some (.error f) → fault f

mutual

/-- A look finds no failure but those that were there and those that are told. -/
theorem look_every (telling : Telling m) (hask : ∀ p, part p → telling.holds (ask p) (Tells fault)) :
    ∀ r : Progress π, r.every fault part → telling.holds (r.look ask) (every fault part)
  | done o, h => telling.pure h
  | pending p, h => by
    simp only [look]
    refine telling.bind (hask p h) fun told ht => ?_
    cases told with
    | some o =>
      refine telling.pure ?_
      cases o with
      | ok v => exact trivial
      | error f => exact ht f rfl
    | none => exact telling.pure h
  | parts whole items, h => by
    simp only [look]
    refine telling.bind (lookAll_every telling hask _ _ items h) fun items' hi => ?_
    split
    · next o ho =>
      refine telling.pure ?_
      cases o with
      | ok vs => exact trivial
      | error f => exact gathered_every hi ho
    · exact telling.pure hi

theorem lookAll_every (telling : Telling m) (hask : ∀ p, part p → telling.holds (ask p) (Tells fault)) (crowd : Bool) :
    ∀ (counts : Bool) (items : List (Progress π)), everyOfAll fault part items →
      telling.holds (lookAll ask crowd counts items) (everyOfAll fault part)
  | _, [], _ => telling.pure trivial
  | counts, r :: rest, h => by
    simp only [lookAll]
    refine telling.bind (look_every telling hask r h.1) fun first hf => ?_
    split
    · exact telling.pure ⟨hf, h.2⟩
    · exact telling.bind (lookAll_every telling hask crowd _ rest h.2) fun rest' hr => telling.pure ⟨hf, hr⟩

end

theorem lookThrough_every (telling : Telling m) (hask : ∀ p, part p → telling.holds (ask p) (Tells fault))
    {items : List (Progress π)} (h : everyOfAll fault part items) :
    telling.holds (lookThrough ask items) (everyOfAll fault part) :=
  lookAll_every telling hask _ _ items h

end Progress
end StageGraph
