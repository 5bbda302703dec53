import StageGraph.Resolvable.Progress

/-! When something comes, and how it comes out.

Several parts come together: their values are there with the last of them, and a failure when it counts. For parts that are
waited for together that is at once, and the first failure counts (`together`); in a crowd it is once all parts before it
are there (`inTurn`). What is told of several at a moment follows from what is told of each, and that nothing is told of
them for a while changes nothing, unless it matters which of them fails first (`gather_later`). -/
namespace StageGraph

/-- When something comes and how it comes out; `none` if it never comes. -/
abbrev Arrival (α : Type) := Option (Nat × Except Fault α)

namespace Arrival

variable {α β : Type} {now : Nat}

/-- What is told of it at a moment. -/
def told (now : Nat) : Arrival α → Poll α
  | some (t, o) => if t ≤ now then some o else none
  | none => none

/-- It does not come before a moment. -/
def NotBefore (now : Nat) (a : Arrival α) : Prop := ∀ c ∈ a, now ≤ c.1

@[simp] theorem notBefore_none : NotBefore now (none : Arrival α) := fun _ hc => by cases hc

@[simp] theorem notBefore_some {c : Nat × Except Fault α} : NotBefore now (some c) ↔ now ≤ c.1 := by
  simp [NotBefore]

/-- The same with something else made of the value. -/
def make (f : α → β) (a : Arrival α) : Arrival β := a.map fun c => (c.1, c.2.map f)

/-- A part and the rest of those that it is waited for together with: the first failure counts, of several the leftmost. -/
def together : Arrival Value → Arrival (List Value) → Arrival (List Value)
  | some (t, .ok v), some (t', .ok vs) => some (max t t', .ok (v :: vs))
  | some (t, .error f), some (t', .error g) => if t' < t then some (t', .error g) else some (t, .error f)
  | some (t, .error f), _ => some (t, .error f)
  | _, some (t', .error g) => some (t', .error g)
  | _, _ => none

/-- A part and the rest of a crowd, which has its turn after it. -/
def inTurn : Arrival Value → Arrival (List Value) → Arrival (List Value)
  | some (t, .ok v), some (t', o) => some (max t t', o.map (v :: ·))
  | some (t, .error f), _ => some (t, .error f)
  | _, _ => none

/-- Several parts, from a moment on. -/
def gather (crowd : Bool) (now : Nat) : List (Arrival Value) → Arrival (List Value)
  | [] => some (now, .ok [])
  | a :: rest => if crowd then inTurn a (gather crowd now rest) else together a (gather crowd now rest)

theorem told_make (f : α → β) (a : Arrival α) : (a.make f).told now = (a.told now).map (Except.map f) := by
  rcases a with - | ⟨t, o⟩
  · rfl
  · simp only [make, told, Option.map_some]
    split <;> rfl

theorem notBefore_make (f : α → β) {a : Arrival α} (h : a.NotBefore now) : (a.make f).NotBefore now := by
  rcases a with - | c
  · exact notBefore_none
  · rw [make, Option.map_some, notBefore_some]
    exact (notBefore_some (c := c)).mp h

theorem told_of_notBefore {a : Arrival α} (h : a.NotBefore now) {o : Except Fault α} :
    a.told now = some o ↔ a = some (now, o) := by
  rcases a with - | ⟨t, o'⟩
  · simp [told]
  · simp only [told, notBefore_some] at h ⊢
    split
    · next hnow => simp [Nat.le_antisymm hnow h]
    · next hnow =>
      simp only [reduceCtorEq, Option.some.injEq, Prod.mk.injEq, false_iff, not_and]
      omega

section

variable {a : Arrival Value} {b : Arrival (List Value)} (ha : a.NotBefore now) (hb : b.NotBefore now)
include ha hb

theorem notBefore_together : (together a b).NotBefore now := by
  rcases a with - | ⟨t, f | v⟩ <;> rcases b with - | ⟨t', g | vs⟩ <;> simp only [together, notBefore_some, notBefore_none] at *
  all_goals first | omega | (split <;> exact notBefore_some.mpr ‹_›)

theorem notBefore_inTurn : (inTurn a b).NotBefore now := by
  rcases a with - | ⟨t, f | v⟩ <;> rcases b with - | ⟨t', o⟩ <;> simp only [inTurn, notBefore_some, notBefore_none] at *
  all_goals omega

end

theorem notBefore_gather (crowd : Bool) {l : List (Arrival Value)} (h : ∀ a ∈ l, a.NotBefore now) :
    (gather crowd now l).NotBefore now := by
  induction l with
  | nil => exact notBefore_some.mpr (Nat.le_refl now)
  | cons a rest ih =>
    obtain ⟨ha, hrest⟩ := List.forall_mem_cons.mp h
    rw [gather]
    split
    · exact notBefore_inTurn ha (ih hrest)
    · exact notBefore_together ha (ih hrest)

/-! ### What is told of several -/

theorem late {t : Nat} {o : Except Fault α} (h : told now (some (t, o)) = none) : ¬t ≤ now := by
  intro ht
  simp [told, ht] at h

theorem told_before {now' : Nat} {a : Arrival α} (h : a.NotBefore now') (hlt : now < now') : a.told now = none := by
  rcases a with - | ⟨t, o⟩
  · rfl
  · exact if_neg (Nat.not_le.mpr (Nat.lt_of_lt_of_le hlt (notBefore_some.mp h)))

theorem told_inTurn_open {a : Arrival Value} (ha : a.told now = none) (b : Arrival (List Value)) :
    (inTurn a b).told now = none := by
  rcases a with - | ⟨t, f | v⟩ <;> rcases b with - | ⟨t', o⟩ <;> simp only [inTurn, told]
  · exact if_neg (late ha)
  · exact if_neg (late ha)
  · exact if_neg fun hmax => late ha (Nat.max_le.mp hmax).1

theorem told_inTurn_ok (v : Value) (b : Arrival (List Value)) :
    (inTurn (some (now, .ok v)) b).told now = (b.told now).map (Except.map (v :: ·)) := by
  rcases b with - | ⟨t', o⟩
  · rfl
  · simp only [inTurn, told, Nat.max_le, Nat.le_refl, true_and]
    split <;> rfl

theorem told_together_open {a : Arrival Value} (ha : a.told now = none) (b : Arrival (List Value)) :
    (together a b).told now = (b.told now).bind fun o => if o.isOk then none else some o := by
  rcases a with - | ⟨t, f | v⟩
  · rcases b with - | ⟨t', g | vs⟩ <;> simp only [together, told]
    · rfl
    · split <;> rfl
    · split <;> rfl
  · have ht := late ha
    rcases b with - | ⟨t', g | vs⟩ <;> simp only [together, told]
    · exact if_neg ht
    · by_cases hlt : t' < t
      · simp only [hlt, if_true]
        split <;> rfl
      · have ht' : ¬t' ≤ now := by omega
        simp only [hlt, ht, ht', if_false]
        rfl
    · rw [if_neg ht]
      split <;> rfl
  · have ht := late ha
    rcases b with - | ⟨t', g | vs⟩ <;> simp only [together, told]
    · rfl
    · split <;> rfl
    · rw [if_neg fun hmax => ht (Nat.max_le.mp hmax).1]
      split <;> rfl

theorem told_together_ok (v : Value) (b : Arrival (List Value)) :
    (together (some (now, .ok v)) b).told now = (b.told now).map (Except.map (v :: ·)) := by
  rcases b with - | ⟨t', g | vs⟩
  · rfl
  · simp only [together, told]
    split <;> rfl
  · simp only [together, told, Nat.max_le, Nat.le_refl, true_and]
    split <;> rfl

theorem together_error {b : Arrival (List Value)} (hb : b.NotBefore now) (f : Fault) :
    together (some (now, .error f)) b = some (now, .error f) := by
  rcases b with - | ⟨t', g | vs⟩
  · rfl
  · exact if_neg (Nat.not_lt.mpr (notBefore_some.mp hb))
  · rfl

/-! ### What several come to -/

/-- The value that it comes to, if it comes and does not fail. -/
def value? (a : Arrival α) : Option α := a.bind fun c => c.2.toOption

theorem value?_eq_some {a : Arrival α} {v : α} : a.value? = some v ↔ ∃ t, a = some (t, .ok v) := by
  rcases a with - | ⟨t, f | w⟩ <;> simp [value?, Except.toOption]

theorem inTurn_value? (a : Arrival Value) (b : Arrival (List Value)) :
    (inTurn a b).value? = a.value?.bind fun v => b.value?.map fun vs => v :: vs := by
  rcases a with - | ⟨t, f | v⟩ <;> rcases b with - | ⟨t', g | vs⟩ <;> rfl

theorem together_value? (a : Arrival Value) (b : Arrival (List Value)) :
    (together a b).value? = a.value?.bind fun v => b.value?.map fun vs => v :: vs := by
  rcases a with - | ⟨t, f | v⟩ <;> rcases b with - | ⟨t', g | vs⟩ <;> try rfl
  simp only [together]
  split <;> rfl

theorem make_value? (f : α → β) (a : Arrival α) : (a.make f).value? = a.value?.map f := by
  rcases a with - | ⟨t, g | v⟩ <;> rfl

/-- It comes at a moment, one way or the other. -/
def At (t : Nat) (a : Arrival α) : Prop := ∃ o, a = some (t, o)

theorem at_max {t t' : Nat} (o : Except Fault α) (o' : Except Fault β) :
    At (max t t') (some (t, o)) ∨ At (max t t') (some (t', o')) := by
  rcases Nat.le_total t t' with h | h
  · exact .inr ⟨o', by rw [Nat.max_eq_right h]⟩
  · exact .inl ⟨o, by rw [Nat.max_eq_left h]⟩

theorem inTurn_at {a : Arrival Value} {b : Arrival (List Value)} {t : Nat} (h : (inTurn a b).At t) : a.At t ∨ b.At t := by
  obtain ⟨o, h⟩ := h
  rcases a with - | ⟨t', f | v⟩
  · cases h
  · cases h
    exact .inl ⟨_, rfl⟩
  · rcases b with - | ⟨t'', o'⟩
    · cases h
    · cases h
      exact at_max _ _

theorem together_at {a : Arrival Value} {b : Arrival (List Value)} {t : Nat} (h : (together a b).At t) :
    a.At t ∨ b.At t := by
  obtain ⟨o, h⟩ := h
  rcases a with - | ⟨t', f | v⟩ <;> rcases b with - | ⟨t'', g | vs⟩ <;> simp only [together, reduceCtorEq] at h
  · exact .inr ⟨_, h⟩
  · cases h
    exact .inl ⟨_, rfl⟩
  · split at h
    · exact .inr ⟨_, h⟩
    · cases h
      exact .inl ⟨_, rfl⟩
  · cases h
    exact .inl ⟨_, rfl⟩
  · exact .inr ⟨_, h⟩
  · cases h
    exact at_max _ _

/-- Several parts come when one of them comes, or at once. -/
theorem gather_at (crowd : Bool) {l : List (Arrival Value)} {t : Nat} (h : (gather crowd now l).At t) :
    t = now ∨ ∃ a ∈ l, a.At t := by
  induction l with
  | nil =>
    obtain ⟨o, h⟩ := h
    cases h
    exact .inl rfl
  | cons a rest ih =>
    rw [gather] at h
    have hor : a.At t ∨ (gather crowd now rest).At t := by
      split at h
      · exact inTurn_at h
      · exact together_at h
    rcases hor with ha | hrest
    · exact .inr ⟨a, List.mem_cons_self, ha⟩
    · exact (ih hrest).imp_right fun ⟨a, ha, hat⟩ => ⟨a, List.mem_cons_of_mem _ ha, hat⟩

/-- The same if nothing is told before a moment. -/
def later (now : Nat) (a : Arrival α) : Arrival α := a.map fun c => (max now c.1, c.2)

theorem later_make (f : α → β) (a : Arrival α) : (a.make f).later now = (a.later now).make f := by
  rcases a with - | ⟨t, o⟩ <;> rfl

theorem later_of_notBefore {a : Arrival α} (h : a.NotBefore now) : a.later now = a := by
  rcases a with - | ⟨t, o⟩
  · rfl
  · rw [later, Option.map_some, Nat.max_eq_right (notBefore_some.mp h)]

theorem inTurn_later (a : Arrival Value) (b : Arrival (List Value)) :
    inTurn (a.later now) (b.later now) = (inTurn a b).later now := by
  rcases a with - | ⟨t, f | v⟩
  · rfl
  · rfl
  · rcases b with - | ⟨t', o⟩
    · rfl
    · simp only [later, Option.map_some, inTurn]
      rw [show max (max now t) (max now t') = max now (max t t') by omega]

/-- If it fails, then not before a moment. -/
def FailsNotBefore (now : Nat) (a : Arrival α) : Prop := ∀ t f, a = some (t, .error f) → now ≤ t

theorem NotBefore.fails {a : Arrival α} (h : a.NotBefore now) : a.FailsNotBefore now := fun _ _ ha => h _ ha

theorem together_later {a : Arrival Value} {b : Arrival (List Value)} (ha : a.FailsNotBefore now)
    (hb : b.FailsNotBefore now) : together (a.later now) (b.later now) = (together a b).later now ∧
      (together a b).FailsNotBefore now := by
  rcases a with - | ⟨t, f | v⟩ <;> rcases b with - | ⟨t', g | vs⟩
  · exact ⟨rfl, fun _ _ h => by cases h⟩
  · exact ⟨rfl, hb⟩
  · exact ⟨rfl, fun _ _ h => by cases h⟩
  · exact ⟨rfl, fun t f h => ha t f (by cases h; rfl)⟩
  · have ht := ha t f rfl
    have ht' := hb t' g rfl
    simp only [later, Option.map_some, together, Nat.max_eq_right ht, Nat.max_eq_right ht']
    split
    · exact ⟨by rw [Option.map_some, Nat.max_eq_right ht'], hb⟩
    · refine ⟨by rw [Option.map_some, Nat.max_eq_right ht], fun t f h => ha t f (by cases h; rfl)⟩
  · exact ⟨rfl, fun t f h => ha t f (by cases h; rfl)⟩
  · exact ⟨rfl, fun _ _ h => by cases h⟩
  · exact ⟨rfl, hb⟩
  · refine ⟨?_, fun _ _ h => by cases h⟩
    simp only [later, Option.map_some, together]
    rw [show max (max now t) (max now t') = max now (max t t') by omega]

/-- Several parts do not mind that nothing is told before a moment, unless it matters which of them fails first. -/
theorem gather_later {crowd : Bool} {now' : Nat} (hle : now ≤ now') {l : List (Arrival Value)}
    (h : crowd = false → ∀ a ∈ l, a.FailsNotBefore now') :
    gather crowd now' (l.map (later now')) = (gather crowd now l).later now' ∧
      (crowd = false → (gather crowd now l).FailsNotBefore now') := by
  induction l with
  | nil =>
    refine ⟨?_, fun _ _ _ hfails => by cases hfails⟩
    rw [List.map_nil, gather, gather, later, Option.map_some, Nat.max_eq_left hle]
  | cons a rest ih =>
    obtain ⟨hsame, hfails⟩ := ih fun hcrowd => (List.forall_mem_cons.mp (h hcrowd)).2
    rw [List.map_cons, gather, gather, hsame]
    cases crowd with
    | true => exact ⟨inTurn_later a _, fun hcrowd => by cases hcrowd⟩
    | false =>
      have hboth := together_later ((List.forall_mem_cons.mp (h rfl)).1) (hfails rfl)
      exact ⟨hboth.1, fun _ => hboth.2⟩

end Arrival

end StageGraph
