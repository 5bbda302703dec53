import Mathlib.Data.List.Forall2
import StageGraph.Proofs.Resolvable.Sifting

/-! Who decides about several that are waited for.

Of several that are waited for, those that fail decide as soon as they have come; in a crowd they have to wait until all
before them have come and are fine (`Decisive`). Whether it is decided does not depend on who was looked at when
(`gather_error_decides`, `gather_ok_decides`, `gather_none_open`), but where several fail at the same time, any of them
may be the one that is told. -/
namespace StageGraph

variable {α π : Type}

/-- Of several that are waited for, one that decides by its failure: it has come and is not fine, and in a crowd all
before it have come and are fine. -/
def Decisive (crowd : Bool) (fine came : α → Prop) (wants : List α) (a : α) : Prop :=
  ∃ before after, wants = before ++ a :: after ∧ ¬fine a ∧ came a ∧ (crowd = true → ∀ b ∈ before, fine b ∧ came b)

/-- It is decided what comes of several that are waited for: all of them have come and are fine, or one of them
decides. -/
def Decided (crowd : Bool) (fine came : α → Prop) (wants : List α) : Prop :=
  (∀ a ∈ wants, fine a ∧ came a) ∨ ∃ a, Decisive crowd fine came wants a

section

variable {crowd : Bool} {fine fine' came came' : α → Prop} {wants : List α} {a : α}

theorem Decisive.mem (h : Decisive crowd fine came wants a) : a ∈ wants := by
  obtain ⟨before, after, rfl, -⟩ := h
  exact List.mem_append_right _ List.mem_cons_self

theorem Decisive.not_fine (h : Decisive crowd fine came wants a) : ¬fine a := by
  obtain ⟨_, _, -, hfails, -⟩ := h
  exact hfails

theorem Decisive.imp (hfine : ∀ b ∈ wants, fine b ↔ fine' b) (hcame : ∀ b ∈ wants, came b → came' b)
    (h : Decisive crowd fine came wants a) : Decisive crowd fine' came' wants a := by
  have hmem := h.mem
  obtain ⟨before, after, rfl, hfails, hthere, hbefore⟩ := h
  refine ⟨before, after, rfl, fun ha => hfails ((hfine a hmem).mpr ha), hcame a hmem hthere, fun hcrowd b hb => ?_⟩
  obtain ⟨hb', hthere'⟩ := hbefore hcrowd b hb
  exact ⟨(hfine b (List.mem_append_left _ hb)).mp hb', hcame b (List.mem_append_left _ hb) hthere'⟩

theorem Decided.imp (hfine : ∀ b ∈ wants, fine b ↔ fine' b) (hcame : ∀ b ∈ wants, came b → came' b)
    (h : Decided crowd fine came wants) : Decided crowd fine' came' wants :=
  Or.imp (fun hall b hb => ⟨(hfine b hb).mp (hall b hb).1, hcame b hb (hall b hb).2⟩)
    (fun ⟨a, ha⟩ => ⟨a, ha.imp hfine hcame⟩) h

theorem Decisive.head (hfails : ¬fine a) (hcame : came a) : Decisive crowd fine came (a :: wants) a :=
  ⟨[], wants, rfl, hfails, hcame, fun _ _ hb => by cases hb⟩

theorem Decisive.cons {b : α} (h : Decisive crowd fine came wants a) (hb : crowd = true → fine b ∧ came b) :
    Decisive crowd fine came (b :: wants) a := by
  obtain ⟨before, after, rfl, hfails, hcame, hbefore⟩ := h
  refine ⟨b :: before, after, rfl, hfails, hcame, fun hcrowd c hc => ?_⟩
  rcases List.mem_cons.mp hc with rfl | hc
  · exact hb hcrowd
  · exact hbefore hcrowd c hc

theorem decisive_cons {b : α} : Decisive crowd fine came (b :: wants) a ↔
    (a = b ∧ ¬fine a ∧ came a) ∨ Decisive crowd fine came wants a ∧ (crowd = true → fine b ∧ came b) := by
  constructor
  · rintro ⟨_ | ⟨c, before⟩, after, heq, hfails, hcame, hbefore⟩
    · obtain ⟨rfl, -⟩ := List.cons_eq_cons.mp heq
      exact .inl ⟨rfl, hfails, hcame⟩
    · obtain ⟨rfl, rfl⟩ := List.cons_eq_cons.mp heq
      exact .inr ⟨⟨before, after, rfl, hfails, hcame, fun hcrowd c hc => hbefore hcrowd c (List.mem_cons_of_mem _ hc)⟩,
        fun hcrowd => hbefore hcrowd b List.mem_cons_self⟩
  · rintro (⟨rfl, hfails, hcame⟩ | ⟨h, hb⟩)
    · exact .head hfails hcame
    · exact h.cons hb

end

namespace Progress

/-- How far one of several is that are looked at: it was told how it came out, or it is pending. -/
inductive Stands (told : α → Outcome → Prop) (part : α → π → Prop) (a : α) : Progress π → Prop
  | done {o : Outcome} : told a o → Stands told part a (done o)
  | pending {p : π} : part a p → Stands told part a (pending p)

variable {told told' : α → Outcome → Prop} {part : α → π → Prop} {fine came : α → Prop} {wants : List α}
  {items : List (Progress π)} {crowd : Bool}

theorem Stands.mono {a : α} {r : Progress π} (htold : ∀ o, told a o → told' a o) (h : Stands told part a r) :
    Stands told' part a r := by
  cases h with
  | done ho => exact .done (htold _ ho)
  | pending hp => exact .pending hp

theorem stands_mono (htold : ∀ a o, told a o → told' a o) (h : List.Forall₂ (Stands told part) wants items) :
    List.Forall₂ (Stands told' part) wants items :=
  h.imp fun a _ => Stands.mono (htold a)

section

variable {m : Type → Type} [Monad m] (telling : Telling m) {ask : π → m (Poll Value)}
  (hask : ∀ a p, part a p → telling.holds (ask p) fun t => ∀ o, t = some o → told a o)
include hask

theorem look_stands {a : α} {r : Progress π} (h : Stands told part a r) :
    telling.holds (r.look ask) (Stands told part a) := by
  cases h with
  | done ho => exact telling.pure (.done ho)
  | @pending p hp =>
    simp only [look]
    refine telling.bind (hask a p hp) fun t ht => ?_
    cases t with
    | some o => exact telling.pure (.done (ht o rfl))
    | none => exact telling.pure (.pending hp)

theorem lookAll_stands (crowd : Bool) (h : List.Forall₂ (Stands told part) wants items) : ∀ counts : Bool,
    telling.holds (lookAll ask crowd counts items) (List.Forall₂ (Stands told part) wants) := by
  induction h with
  | nil => exact fun _ => telling.pure .nil
  | cons hfirst hrest ih =>
    intro counts
    simp only [lookAll]
    refine telling.bind (look_stands telling hask hfirst) fun first hfirst' => ?_
    split
    · exact telling.pure (.cons hfirst' hrest)
    · exact telling.bind (ih _) fun rest' hrest' => telling.pure (.cons hfirst' hrest')

end

/-! ### What is decided -/

section

variable (hfine : ∀ a v, told a (.ok v) → fine a ∧ came a) (hfails : ∀ a f, told a (.error f) → ¬fine a ∧ came a)

include hfine hfails in
/-- A failure that is told is the failure of one that decides. -/
theorem gather_error_decides (h : List.Forall₂ (Stands told part) wants items) {f : Fault}
    (hg : gather crowd items = some (.error f)) : ∃ a, told a (.error f) ∧ Decisive crowd fine came wants a := by
  induction h with
  | nil => cases crowd <;> cases hg
  | @cons a r wants items hfirst hrest ih =>
    cases hfirst with
    | @done o ho =>
      cases o with
      | error g =>
        rw [gather_error_cons] at hg
        cases hg
        exact ⟨a, ho, .head (hfails a f ho).1 (hfails a f ho).2⟩
      | ok v =>
        rw [gather_ok_cons] at hg
        obtain ⟨o, hrest', hv⟩ := Option.map_eq_some_iff.mp hg
        cases o with
        | ok vs => cases hv
        | error g =>
          cases hv
          obtain ⟨b, hb, hdecisive⟩ := ih hrest'
          exact ⟨b, hb, hdecisive.cons fun _ => hfine a v ho⟩
    | @pending p hp =>
      obtain ⟨hfew, hrest'⟩ := (gather_cons_error rfl).mp hg
      obtain ⟨b, hb, hdecisive⟩ := ih hrest'
      exact ⟨b, hb, hdecisive.cons fun hcrowd => absurd hcrowd (by rw [hfew]; decide)⟩

include hfine in
/-- Where values are told, all are fine. -/
theorem gather_ok_decides (h : List.Forall₂ (Stands told part) wants items) {vs : List Value}
    (hg : gather crowd items = some (.ok vs)) : ∀ a ∈ wants, fine a ∧ came a := by
  have hall := (gather_ok_iff crowd items).mp ⟨vs, hg⟩
  clear hg
  induction h with
  | nil => exact fun _ ha => by cases ha
  | @cons a r wants items hfirst hrest ih =>
    rw [List.all_cons, Bool.and_eq_true] at hall
    intro b hb
    rcases List.mem_cons.mp hb with rfl | hb
    · cases hfirst with
      | @done o ho =>
        cases o with
        | ok v => exact hfine _ v ho
        | error f => cases hall.1
      | pending hp => cases hall.1
    · exact ih hall.2 b hb

end

/-- Where nobody is pending, everything is told. -/
theorem stands_outcome (h : List.Forall₂ (Stands told part) wants items)
    (hpending : ∀ a ∈ wants, ∀ p, part a p → p ∉ awaitedOfAll items) : ∀ r ∈ items, r.outcome?.isSome := by
  induction h with
  | nil => exact fun _ hr => by cases hr
  | @cons a first wants items hfirst hrest ih =>
    intro r hr
    rcases List.mem_cons.mp hr with rfl | hr
    · cases hfirst with
      | done ho => rfl
      | @pending p hp =>
        exact absurd (List.mem_append_left _ (List.mem_singleton_self p)) (hpending a List.mem_cons_self p hp)
    · exact ih (fun b hb p hp hmem => hpending b (List.mem_cons_of_mem _ hb) p hp (List.mem_append_right _ hmem)) r hr

/-- Where nothing is told, nothing is decided, even if as much has come as all that is not pending. -/
theorem gather_none_open (hfine : ∀ a v, told a (.ok v) → fine a) (hfails : ∀ a f, told a (.error f) → ¬fine a)
    (h : List.Forall₂ (Stands told part) wants items)
    (hpending : ∀ a p, part a p → p ∈ awaitedOfAll items → ¬came a) (hg : gather crowd items = none) :
    ¬Decided crowd fine came wants := by
  rintro (hall | ⟨a, ha⟩)
  · have hsome : (gather crowd items).isSome :=
      gather_isSome crowd (stands_outcome h fun a ha p hp hmem => hpending a p hp hmem (hall a ha).2)
    rw [hg] at hsome
    cases hsome
  · have herror : ∃ f, gather crowd items = some (.error f) := by
      clear hg
      induction h with
      | nil => exact absurd ha.mem List.not_mem_nil
      | @cons b r wants items hfirst hrest ih =>
        rcases decisive_cons.mp ha with ⟨rfl, hnot, hcame⟩ | ⟨ha, hb⟩
        · cases hfirst with
          | @done o ho =>
            cases o with
            | error f => exact ⟨f, gather_error_cons crowd f items⟩
            | ok v => exact absurd (hfine a v ho) hnot
          | @pending p hp => exact absurd hcame (hpending a p hp (List.mem_append_left _ (List.mem_singleton_self p)))
        · obtain ⟨f, hf⟩ := ih (fun a p hp hmem => hpending a p hp (List.mem_append_right _ hmem)) ha
          refine gather_cons_fails (fun hcrowd => ?_) hf
          obtain ⟨hfine', hcame⟩ := hb hcrowd
          cases hfirst with
          | @done o ho =>
            cases o with
            | ok v => rfl
            | error f => exact absurd hfine' (hfails b f ho)
          | @pending p hp => exact absurd hcame (hpending b p hp (List.mem_append_left _ (List.mem_singleton_self p)))
    obtain ⟨f, hf⟩ := herror
    rw [hg] at hf
    cases hf

end Progress
end StageGraph
