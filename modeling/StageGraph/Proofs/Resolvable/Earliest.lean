import StageGraph.Proofs.Resolvable.Coming
import StageGraph.Proofs.Resolvable.Following

/-! Which failure of a tree is told.

Where no sequence and no mapping is a crowd, all leaves of a tree are waited for together, however deep they are. Then the
failure of the tree is that of the leaf that fails earliest, and of several that fail then, of the leftmost
(`arrival_earliest`); nobody waits for those that have not come by then, or never come. -/
namespace StageGraph

/-- The failure that comes sooner, the first one if they come at one moment. -/
def sooner : Option (Nat × Fault) → Option (Nat × Fault) → Option (Nat × Fault)
  | some (t, f), some (t', g) => if t' < t then some (t', g) else some (t, f)
  | some c, none => some c
  | none, b => b

theorem sooner_none (a : Option (Nat × Fault)) : sooner a none = a := by cases a <;> rfl

theorem sooner_assoc (a b c : Option (Nat × Fault)) : sooner (sooner a b) c = sooner a (sooner b c) := by
  rcases a with - | ⟨t, f⟩
  · rfl
  · rcases b with - | ⟨t', g⟩
    · rfl
    · rcases c with - | ⟨t'', h⟩
      · rw [sooner_none, sooner_none]
      · simp only [sooner]
        by_cases hab : t' < t <;> by_cases hbc : t'' < t' <;> simp only [hab, hbc, if_true, if_false] <;>
          split <;> first | rfl | omega

theorem sooner_eq_some {a b : Option (Nat × Fault)} {t : Nat} {f : Fault} (h : sooner a b = some (t, f)) :
    (a = some (t, f) ∧ ∀ t' g, b = some (t', g) → t ≤ t') ∨ (b = some (t, f) ∧ ∀ t' g, a = some (t', g) → t < t') := by
  rcases a with - | ⟨ta, fa⟩
  · exact .inr ⟨h, fun _ _ ha => by cases ha⟩
  · rcases b with - | ⟨tb, fb⟩
    · cases h
      exact .inl ⟨rfl, fun _ _ hb => by cases hb⟩
    · simp only [sooner] at h
      split at h
      · next hlt =>
        cases h
        refine .inr ⟨rfl, fun t' g ha => ?_⟩
        cases ha
        exact hlt
      · next hle =>
        cases h
        refine .inl ⟨rfl, fun t' g hb => ?_⟩
        cases hb
        exact Nat.not_lt.mp hle

theorem sooner_le {a b : Option (Nat × Fault)} {t : Nat} {f : Fault} (h : a = some (t, f) ∨ b = some (t, f)) :
    ∃ t' g, sooner a b = some (t', g) ∧ t' ≤ t := by
  rcases a with - | ⟨ta, fa⟩
  · obtain ha | hb := h
    · cases ha
    · exact ⟨t, f, hb, Nat.le_refl t⟩
  · rcases b with - | ⟨tb, fb⟩
    · obtain ha | hb := h
      · exact ⟨t, f, ha, Nat.le_refl t⟩
      · cases hb
    · simp only [sooner]
      split
      · next hlt =>
        refine ⟨_, _, rfl, ?_⟩
        rcases h with h | h <;> cases h
        · exact Nat.le_of_lt hlt
        · exact Nat.le_refl _
      · next hle =>
        refine ⟨_, _, rfl, ?_⟩
        rcases h with h | h <;> cases h
        · exact Nat.le_refl _
        · exact Nat.not_lt.mp hle

namespace Arrival

variable {α β : Type}

/-- When it fails and how, if it does. -/
def failure? (a : Arrival α) : Option (Nat × Fault) :=
  a.bind fun c => match c.2 with
    | .error f => some (c.1, f)
    | .ok _ => none

theorem failure?_eq_some {a : Arrival α} {t : Nat} {f : Fault} : a.failure? = some (t, f) ↔ a = some (t, .error f) := by
  rcases a with - | ⟨t', g | v⟩ <;> simp [failure?]

theorem make_failure? (f : α → β) (a : Arrival α) : (a.make f).failure? = a.failure? := by
  rcases a with - | ⟨t, g | v⟩ <;> rfl

theorem together_failure? (a : Arrival Value) (b : Arrival (List Value)) :
    (together a b).failure? = sooner a.failure? b.failure? := by
  rcases a with - | ⟨t, f | v⟩ <;> rcases b with - | ⟨t', g | vs⟩ <;> try rfl
  simp only [together, failure?, Option.bind_some, sooner]
  split <;> rfl

end Arrival

section

variable {π : Type} {comes : π → Arrival Value} {now : Nat}

/-- The failure that comes soonest, of several the leftmost. -/
def soonest (comes : π → Arrival Value) : List π → Option (Nat × Fault)
  | [] => none
  | p :: rest => sooner (comes p).failure? (soonest comes rest)

theorem soonest_append (l l' : List π) : soonest comes (l ++ l') = sooner (soonest comes l) (soonest comes l') := by
  induction l with
  | nil => rfl
  | cons p rest ih => rw [List.cons_append, soonest, soonest, ih, sooner_assoc]

/-- Among some leaves one fails at a moment with a failure, and none of the others before it; those to the left of it that
fail do so later. -/
def FailsFirst (comes : π → Arrival Value) (leaves : List π) (t : Nat) (f : Fault) : Prop :=
  ∃ p before after, leaves = before ++ p :: after ∧ comes p = some (t, .error f) ∧
    (∀ q ∈ before, ∀ t' g, comes q = some (t', .error g) → t < t') ∧
      ∀ q ∈ after, ∀ t' g, comes q = some (t', .error g) → t ≤ t'

/-- Whatever fails, something fails no later. -/
theorem soonest_le {leaves : List π} {p : π} (hp : p ∈ leaves) {t : Nat} {f : Fault} (h : comes p = some (t, .error f)) :
    ∃ t' g, soonest comes leaves = some (t', g) ∧ t' ≤ t := by
  induction leaves with
  | nil => cases hp
  | cons q rest ih =>
    rw [soonest]
    rcases List.mem_cons.mp hp with rfl | hp
    · exact sooner_le (.inl (Arrival.failure?_eq_some.mpr h))
    · obtain ⟨t', g, hrest, hle⟩ := ih hp
      obtain ⟨t'', g', hboth, hle'⟩ := sooner_le (a := (comes q).failure?) (.inr hrest)
      exact ⟨t'', g', hboth, Nat.le_trans hle' hle⟩

/-- The failure that comes soonest is that of a leaf that fails first. -/
theorem failsFirst_soonest {leaves : List π} {t : Nat} {f : Fault} (h : soonest comes leaves = some (t, f)) :
    FailsFirst comes leaves t f := by
  induction leaves with
  | nil => cases h
  | cons q rest ih =>
    rcases sooner_eq_some h with ⟨hq, hrest⟩ | ⟨hrest, hq⟩
    · refine ⟨q, [], rest, rfl, Arrival.failure?_eq_some.mp hq, fun _ hp => (by cases hp), fun p hp t' g hfails => ?_⟩
      obtain ⟨t'', g', hsoonest, hle⟩ := soonest_le hp hfails
      exact Nat.le_trans (hrest t'' g' hsoonest) hle
    · obtain ⟨p, before, after, rfl, hp, hbefore, hafter⟩ := ih hrest
      refine ⟨p, q :: before, after, rfl, hp, List.forall_mem_cons.mpr ⟨fun t' g hfails => ?_, hbefore⟩, hafter⟩
      exact hq t' g (Arrival.failure?_eq_some.mpr hfails)

namespace Resolvable

mutual

/-- Whether no sequence and no mapping in a tree is a crowd. -/
def narrow : Resolvable π → Bool
  | ready _ => true
  | pending _ => true
  | sequence items => decide (items.length ≤ 30) && narrowItems items
  | mapping entries => decide (entries.length ≤ 30) && narrowEntries entries

def narrowItems : List (Resolvable π) → Bool
  | [] => true
  | r :: rest => r.narrow && narrowItems rest

def narrowEntries : List (String × Resolvable π) → Bool
  | [] => true
  | (_, r) :: rest => r.narrow && narrowEntries rest

end

theorem progressOfItems_length (items : List (Resolvable π)) : (progressOfItems items).length = items.length := by
  induction items with
  | nil => rfl
  | cons r rest ih => rw [progressOfItems, List.length_cons, ih, List.length_cons]

theorem progressOfEntries_length (entries : List (String × Resolvable π)) :
    (progressOfEntries entries).length = entries.length := by
  induction entries with
  | nil => rfl
  | cons entry rest ih => rw [progressOfEntries, List.length_cons, ih, List.length_cons]

mutual

/-- **The failure of a tree is the one that comes soonest**, where nothing is a crowd. -/
theorem arrival_failure? : ∀ r : Resolvable π, r.narrow = true →
    (r.progress.arrival now comes).failure? = soonest comes r.awaited
  | ready _, _ => rfl
  | pending p, _ => (sooner_none _).symm
  | sequence items, h => by
    obtain ⟨hfew, hitems⟩ := Bool.and_eq_true_iff.mp h
    have hcrowd : Progress.crowded (progressOfItems items) = false := by
      rw [Progress.crowded, progressOfItems_length]
      exact decide_eq_false (Nat.not_lt.mpr (of_decide_eq_true hfew))
    rw [progress, Progress.arrival, Arrival.make_failure?, hcrowd, arrivals_failure? items hitems]
    rfl
  | mapping entries, h => by
    obtain ⟨hfew, hentries⟩ := Bool.and_eq_true_iff.mp h
    have hcrowd : Progress.crowded (progressOfEntries entries) = false := by
      rw [Progress.crowded, progressOfEntries_length]
      exact decide_eq_false (Nat.not_lt.mpr (of_decide_eq_true hfew))
    rw [progress, Progress.arrival, Arrival.make_failure?, hcrowd, entryArrivals_failure? entries hentries]
    rfl

theorem arrivals_failure? : ∀ items : List (Resolvable π), narrowItems items = true →
    (Arrival.gather false now (Progress.arrivals now comes (progressOfItems items))).failure? =
      soonest comes (awaitedItems items)
  | [], _ => rfl
  | r :: rest, h => by
    obtain ⟨hr, hrest⟩ := Bool.and_eq_true_iff.mp h
    rw [progressOfItems, Progress.arrivals, Arrival.gather, if_neg Bool.false_ne_true, Arrival.together_failure?,
      arrival_failure? r hr, arrivals_failure? rest hrest, awaitedItems, soonest_append]

theorem entryArrivals_failure? : ∀ entries : List (String × Resolvable π), narrowEntries entries = true →
    (Arrival.gather false now (Progress.arrivals now comes (progressOfEntries entries))).failure? =
      soonest comes (awaitedEntries entries)
  | [], _ => rfl
  | (_, r) :: rest, h => by
    obtain ⟨hr, hrest⟩ := Bool.and_eq_true_iff.mp h
    rw [progressOfEntries, Progress.arrivals, Arrival.gather, if_neg Bool.false_ne_true, Arrival.together_failure?,
      arrival_failure? r hr, entryArrivals_failure? rest hrest, awaitedEntries, soonest_append]

end

/-- Where nothing is a crowd and something fails, the tree fails as what fails first. -/
theorem arrival_earliest {r : Resolvable π} (now : Nat) (hnarrow : r.narrow = true)
    (hfails : ∃ p ∈ r.awaited, ∃ t f, comes p = some (t, .error f)) :
    ∃ t f, FailsFirst comes r.awaited t f ∧ r.progress.arrival now comes = some (t, .error f) := by
  obtain ⟨p, hp, t, f, hf⟩ := hfails
  obtain ⟨t', g, hsoonest, -⟩ := soonest_le hp hf
  refine ⟨t', g, failsFirst_soonest hsoonest, Arrival.failure?_eq_some.mp ?_⟩
  rw [arrival_failure? r hnarrow, hsoonest]

end Resolvable

end

end StageGraph
