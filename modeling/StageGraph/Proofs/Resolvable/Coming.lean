import Mathlib.Data.List.Forall2
import StageGraph.Proofs.Resolvable.Arrival
import StageGraph.Proofs.Resolvable.Sifting

/-! When a tree comes.

Of everything that is awaited it is given when it comes and how it comes out. Then so it is of a tree that is looked at from
now on (`arrival`). A look decides just if the moment is there, and leaves a tree that comes when it would have come
(`look_arrival`). What it leaves does not mind that time passes, as long as nothing comes that it awaits
(`arrival_later`). -/
namespace StageGraph
namespace Progress

variable {π : Type} {now : Nat} {comes : π → Arrival Value} {view : π → Poll Value}

mutual

/-- When a tree comes that is first looked at now, and how it comes out. -/
def arrival (now : Nat) (comes : π → Arrival Value) : Progress π → Arrival Value
  | done o => some (now, o)
  | pending p => comes p
  | parts whole items => (Arrival.gather (crowded items) now (arrivals now comes items)).make whole

def arrivals (now : Nat) (comes : π → Arrival Value) : List (Progress π) → List (Arrival Value)
  | [] => []
  | r :: rest => r.arrival now comes :: arrivals now comes rest

end

mutual

theorem arrival_notBefore : ∀ r : Progress π, (∀ p ∈ r.awaited, (comes p).NotBefore now) →
    (r.arrival now comes).NotBefore now
  | done _, _ => Arrival.notBefore_some.mpr (Nat.le_refl now)
  | pending p, h => h p (List.mem_singleton_self p)
  | parts whole items, h =>
    Arrival.notBefore_make whole (Arrival.notBefore_gather _ (arrivals_notBefore items h))

theorem arrivals_notBefore : ∀ items : List (Progress π), (∀ p ∈ awaitedOfAll items, (comes p).NotBefore now) →
    ∀ a ∈ arrivals now comes items, a.NotBefore now
  | [], _ => fun _ ha => by cases ha
  | r :: rest, h => List.forall_mem_cons.mpr
    ⟨arrival_notBefore r fun p hp => h p (List.mem_append_left _ hp),
      arrivals_notBefore rest fun p hp => h p (List.mem_append_right _ hp)⟩

end

/-! ### A look -/

/-- A look that stops early decides as one that gets to every part. -/
theorem gather_lookAll (crowd : Bool) (items : List (Progress π)) :
    gather crowd (lookAll (m := Id) view crowd true items) = gather crowd (items.map (look (m := Id) view)) := by
  induction items with
  | nil => rfl
  | cons r rest ih =>
    rw [lookAll_cons, List.map_cons]
    cases hr : look (m := Id) view r with
    | done o =>
      cases o with
      | error f =>
        simp only [failed, Bool.and_self, if_true]
        exact (gather_error_cons crowd f _).trans (gather_error_cons crowd f _).symm
      | ok v =>
        simp only [failed, succeeded, Bool.and_false, Bool.false_eq_true, if_false, Bool.and_self, Bool.or_true]
        refine (gather_ok_cons crowd v _).trans (Eq.trans ?_ (gather_ok_cons crowd v _).symm)
        rw [ih]
    | _ =>
      simp only [failed, succeeded, Bool.and_false, Bool.false_eq_true, if_false, Bool.or_false]
      cases crowd with
      | true => rfl
      | false =>
        simp only [gather, Bool.false_eq_true, if_false, together, Bool.not_false] at ih ⊢
        rw [ih]

theorem outcome?_some {r : Progress π} {o : Outcome} (h : r.outcome? = some o) : r = done o := by
  cases r with
  | done o' =>
    cases h
    rfl
  | _ => cases h

theorem gather_cons_open {r : Progress π} (hr : r.outcome? = none) (rest : List (Progress π)) :
    gather false (r :: rest) = (gather false rest).bind fun o => if o.isOk then none else some o := by
  cases r with
  | done o => cases hr
  | _ =>
    simp only [gather, Bool.false_eq_true, if_false, together]
    rcases together rest with - | f | vs <;> rfl

theorem gather_crowd_open {r : Progress π} (hr : r.outcome? = none) (rest : List (Progress π)) :
    gather true (r :: rest) = none := by
  cases r with
  | done o => cases hr
  | _ => rfl

/-- Several parts decide just if they have come together. -/
theorem gather_told (crowd : Bool) {items : List (Progress π)} {l : List (Arrival Value)}
    (h : List.Forall₂ (fun r a => a.NotBefore now ∧ r.outcome? = a.told now) items l) :
    gather crowd items = (Arrival.gather crowd now l).told now ∧ (Arrival.gather crowd now l).NotBefore now := by
  induction h with
  | nil => cases crowd <;> simp [gather, inTurn, together, Arrival.gather, Arrival.told]
  | @cons r a items l hr hrest ih =>
    obtain ⟨ha, hr⟩ := hr
    obtain ⟨hrest, hb⟩ := ih
    rw [Arrival.gather]
    generalize Arrival.gather crowd now l = b at hrest hb ⊢
    cases htold : a.told now with
    | none =>
      rw [htold] at hr
      cases crowd with
      | true =>
        refine ⟨?_, Arrival.notBefore_inTurn ha hb⟩
        rw [if_pos rfl, gather_crowd_open hr, Arrival.told_inTurn_open htold]
      | false =>
        refine ⟨?_, Arrival.notBefore_together ha hb⟩
        rw [if_neg Bool.false_ne_true, gather_cons_open hr, Arrival.told_together_open htold, hrest]
    | some o =>
      rw [htold] at hr
      rw [outcome?_some hr]
      cases (Arrival.told_of_notBefore ha).mp htold
      cases crowd with
      | true =>
        refine ⟨?_, Arrival.notBefore_inTurn ha hb⟩
        cases o with
        | error f => simp [gather_error_cons, Arrival.inTurn, Arrival.told]
        | ok v => rw [if_pos rfl, gather_ok_cons, Arrival.told_inTurn_ok, hrest]
      | false =>
        refine ⟨?_, Arrival.notBefore_together ha hb⟩
        cases o with
        | error f => simp [gather_error_cons, Arrival.together_error hb, Arrival.told]
        | ok v => rw [if_neg Bool.false_ne_true, gather_ok_cons, Arrival.told_together_ok, hrest]

mutual

/-- **A look decides just if the moment is there**, and leaves a tree that comes when it would have come. -/
theorem look_arrival (hview : ∀ p, view p = (comes p).told now) : ∀ r : Progress π,
    (∀ p ∈ r.awaited, (comes p).NotBefore now) →
      (look (m := Id) view r).outcome? = (r.arrival now comes).told now ∧
        (look (m := Id) view r).arrival now comes = r.arrival now comes
  | done o, _ => by
    refine ⟨?_, rfl⟩
    show some o = if now ≤ now then some o else none
    rw [if_pos (Nat.le_refl now)]
  | pending p, h => by
    rw [look_pending, hview p, arrival]
    cases htold : (comes p).told now with
    | none => exact ⟨rfl, rfl⟩
    | some o => exact ⟨rfl, ((Arrival.told_of_notBefore (h p (List.mem_singleton_self p))).mp htold).symm⟩
  | parts whole items, h => by
    obtain ⟨hgathered, hsame⟩ := lookThrough_arrival hview items h
    obtain ⟨htold, hlate⟩ := gather_told (crowded items) hgathered
    rw [← gather_lookAll, ← gathered_lookThrough] at htold
    rw [look_parts, arrival, Arrival.told_make, ← htold]
    cases hg : gathered (lookThrough (m := Id) view items) with
    | some o =>
      rw [hg, eq_comm, Arrival.told_of_notBefore hlate] at htold
      rw [htold]
      exact ⟨rfl, rfl⟩
    | none =>
      refine ⟨rfl, ?_⟩
      have hcrowded : crowded (items.map (look (m := Id) view)) = crowded items := by rw [crowded, crowded, List.length_map]
      rw [lookThrough_undecided hg]
      simp only [arrival, hcrowded, hsame]

theorem lookThrough_arrival (hview : ∀ p, view p = (comes p).told now) : ∀ items : List (Progress π),
    (∀ p ∈ awaitedOfAll items, (comes p).NotBefore now) →
      List.Forall₂ (fun r a => a.NotBefore now ∧ r.outcome? = a.told now) (items.map (look (m := Id) view))
        (arrivals now comes items) ∧ arrivals now comes (items.map (look (m := Id) view)) = arrivals now comes items
  | [], _ => ⟨.nil, rfl⟩
  | r :: rest, h => by
    obtain ⟨hr, hsame⟩ := look_arrival hview r fun p hp => h p (List.mem_append_left _ hp)
    obtain ⟨hrest, hsames⟩ := lookThrough_arrival hview rest fun p hp => h p (List.mem_append_right _ hp)
    have hr' : (r.arrival now comes).NotBefore now := arrival_notBefore r fun p hp => h p (List.mem_append_left _ hp)
    refine ⟨.cons ⟨hr', hr⟩ hrest, ?_⟩
    rw [List.map_cons, arrivals, arrivals, hsames, hsame]

end

/-! ### What it depends on -/

variable {comes' : π → Arrival Value}

mutual

/-- When a tree comes depends on what it awaits alone. -/
theorem arrival_congr : ∀ r : Progress π, (∀ p ∈ r.awaited, comes p = comes' p) →
    r.arrival now comes = r.arrival now comes'
  | done _, _ => rfl
  | pending p, h => h p (List.mem_singleton_self p)
  | parts whole items, h => by rw [arrival, arrival, arrivals_congr items h]

theorem arrivals_congr : ∀ items : List (Progress π), (∀ p ∈ awaitedOfAll items, comes p = comes' p) →
    arrivals now comes items = arrivals now comes' items
  | [], _ => rfl
  | r :: rest, h => by
    rw [arrivals, arrivals, arrival_congr r fun p hp => h p (List.mem_append_left _ hp),
      arrivals_congr rest fun p hp => h p (List.mem_append_right _ hp)]

end

mutual

/-- A tree comes to the value that it stands for. -/
theorem arrival_value? : ∀ r : Progress π, (r.arrival now comes).value? = r.value? fun p => (comes p).value?
  | done o => by cases o <;> rfl
  | pending _ => rfl
  | parts whole items => by rw [arrival, value?, Arrival.make_value?, gather_arrivals_value? (crowded items) items]

theorem gather_arrivals_value? (crowd : Bool) : ∀ items : List (Progress π),
    (Arrival.gather crowd now (arrivals now comes items)).value? = values? (fun p => (comes p).value?) items
  | [] => rfl
  | r :: rest => by
    rw [arrivals, Arrival.gather, values?, ← gather_arrivals_value? crowd rest, ← arrival_value? r]
    split
    · exact Arrival.inTurn_value? _ _
    · exact Arrival.together_value? _ _

end

mutual

/-- A tree comes when something comes that it awaits, or at once. -/
theorem arrival_at : ∀ {r : Progress π} {t : Nat}, (r.arrival now comes).At t →
    t = now ∨ ∃ p ∈ r.awaited, (comes p).At t
  | done o, t, ⟨o', h⟩ => by
    cases h
    exact .inl rfl
  | pending p, _, h => .inr ⟨p, List.mem_singleton_self p, h⟩
  | parts whole items, t, h => by
    have hgather : (Arrival.gather (crowded items) now (arrivals now comes items)).At t := by
      obtain ⟨o, h⟩ := h
      obtain ⟨c, hc, hmade⟩ := Option.map_eq_some_iff.mp h
      cases hmade
      exact ⟨c.2, hc⟩
    exact (Arrival.gather_at _ hgather).elim .inl fun ⟨a, ha, hat⟩ => arrivals_at ha hat

theorem arrivals_at : ∀ {items : List (Progress π)} {a : Arrival Value} {t : Nat}, a ∈ arrivals now comes items →
    a.At t → t = now ∨ ∃ p ∈ awaitedOfAll items, (comes p).At t
  | [], _, _, ha, _ => by cases ha
  | r :: rest, a, t, ha, hat => by
    rcases List.mem_cons.mp ha with rfl | ha
    · exact (arrival_at hat).imp_right fun ⟨p, hp, h⟩ => ⟨p, List.mem_append_left _ hp, h⟩
    · exact (arrivals_at ha hat).imp_right fun ⟨p, hp, h⟩ => ⟨p, List.mem_append_right _ hp, h⟩

end

/-! ### Time that passes -/

theorem not_failed_of_open {items : List (Progress π)} (hopen : ∀ f, gather false items ≠ some (.error f)) :
    ∀ r ∈ items, r.failed = false := by
  induction items with
  | nil => exact fun _ hr => by cases hr
  | cons r rest ih =>
    refine List.forall_mem_cons.mpr ⟨?_, ih fun f hf => ?_⟩
    · cases r with
      | done o =>
        cases o with
        | error f => exact absurd (gather_error_cons false f rest) (hopen f)
        | ok v => rfl
      | _ => rfl
    · have hcounts : false = true → r.succeeded = true := fun hcrowd => by cases hcrowd
      obtain ⟨g, hg⟩ := gather_cons_fails hcounts hf
      exact hopen g hg

section

variable {now' : Nat} (hlt : now < now')
include hlt

/-- What has been looked at and is not decided does not come before something comes that it awaits. -/
theorem arrival_open {r : Progress π} (hsifted : r.Sifted) (hnone : r.outcome? = none)
    (h : ∀ p ∈ r.awaited, (comes p).NotBefore now') : (r.arrival now comes).NotBefore now' := by
  have hsame : look (m := Id) (fun p => (comes p).told now) r = r :=
    look_sifted_eq r hsifted fun p hp => Arrival.told_before (h p hp) hlt
  have htold := (look_arrival (fun _ => rfl) r fun p hp c hc => Nat.le_of_lt (Nat.lt_of_lt_of_le hlt (h p hp c hc))).1
  rw [hsame, hnone] at htold
  intro c hc
  rcases arrival_at ⟨c.2, hc⟩ with hnow | ⟨p, hp, o, ho⟩
  · obtain ⟨t, o⟩ := c
    cases hnow
    rw [hc] at htold
    exact absurd (Nat.le_refl _) (Arrival.late htold.symm)
  · exact h p hp (c.1, o) ho

mutual

/-- **What has been looked at and awaits nothing that comes meanwhile does not mind that time passes.** -/
theorem arrival_later : ∀ r : Progress π, r.Sifted → (∀ p ∈ r.awaited, (comes p).NotBefore now') →
    r.arrival now' comes = (r.arrival now comes).later now'
  | done o, _, _ => by
    rw [arrival, arrival, Arrival.later, Option.map_some, Nat.max_eq_left (Nat.le_of_lt hlt)]
  | pending p, _, h => (Arrival.later_of_notBefore (h p (List.mem_singleton_self p))).symm
  | parts whole items, hsifted, h => by
    obtain ⟨hnone, hitems⟩ := hsifted
    obtain ⟨hsame, hfails⟩ := arrivals_later items hitems h
    have hcounts : crowded items = false → ∀ a ∈ arrivals now comes items, a.FailsNotBefore now' := by
      intro hfew
      rw [gathered_eq, hfew] at hnone
      exact hfails (not_failed_of_open fun f hf => by rw [hnone] at hf; cases hf)
    rw [arrival, arrival, hsame, (Arrival.gather_later (Nat.le_of_lt hlt) hcounts).1, Arrival.later_make]

theorem arrivals_later : ∀ items : List (Progress π), SiftedAll items →
    (∀ p ∈ awaitedOfAll items, (comes p).NotBefore now') →
      arrivals now' comes items = (arrivals now comes items).map (Arrival.later now') ∧
        ((∀ r ∈ items, r.failed = false) → ∀ a ∈ arrivals now comes items, a.FailsNotBefore now')
  | [], _, _ => ⟨rfl, fun _ _ ha => by cases ha⟩
  | r :: rest, hsifted, h => by
    obtain ⟨hr, hrest⟩ := hsifted
    have hr' := arrival_later r hr fun p hp => h p (List.mem_append_left _ hp)
    obtain ⟨hsame, hfails⟩ := arrivals_later rest hrest fun p hp => h p (List.mem_append_right _ hp)
    refine ⟨by rw [arrivals, arrivals, List.map_cons, hr', hsame], fun hfine => ?_⟩
    obtain ⟨hfine, hfines⟩ := List.forall_mem_cons.mp hfine
    refine List.forall_mem_cons.mpr ⟨?_, hfails hfines⟩
    cases hout : r.outcome? with
    | none => exact (arrival_open hlt hr hout fun p hp => h p (List.mem_append_left _ hp)).fails
    | some o =>
      rw [outcome?_some hout] at hfine ⊢
      intro t f hf
      cases hf
      cases hfine

end

end

end Progress
end StageGraph
