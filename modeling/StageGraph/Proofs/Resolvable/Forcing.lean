import Mathlib.Data.List.Forall2
import StageGraph.Proofs.Resolvable.Routes
import StageGraph.Proofs.Value.Fields

/-! Following a path into a tree, and into the value that it stands for.

A tree that is put together keeps lengths, places and keys. So a step into it and a step into the value that it stands for
lead to a tree and to its value, or fail alike (`step_forced`): only what was found on the way may have another name, for
what was a sequence is an array by then. Only a repeated key is lost, which is why mappings must not repeat any
(`keyed`). Whole paths follow step by step (`navigate_forced`). -/
namespace StageGraph

/-- Causes of one kind with the same index, length, key or segment. What stood in the way instead may be something else. -/
inductive Cause.Alike : Cause → Cause → Prop
  | same (c : Cause) : Alike c c
  | instead (segment found found' : String) : Alike (.notNavigable segment found) (.notNavigable segment found')

namespace Resolvable

variable {π : Type} {known : π → Option Value} {view : π → Poll Value}

mutual

/-- Whether no mapping in a tree repeats a key. -/
def keyed : Resolvable π → Bool
  | ready _ => true
  | pending _ => true
  | sequence items => keyedItems items
  | mapping entries => decide (entries.map Prod.fst).Nodup && keyedEntries entries

def keyedItems : List (Resolvable π) → Bool
  | [] => true
  | r :: rest => r.keyed && keyedItems rest

def keyedEntries : List (String × Resolvable π) → Bool
  | [] => true
  | (_, r) :: rest => r.keyed && keyedEntries rest

end

theorem keyedItems_mem {items : List (Resolvable π)} (h : keyedItems items = true) : ∀ r ∈ items, r.keyed = true := by
  induction items with
  | nil => exact fun _ hr => by cases hr
  | cons first rest ih =>
    obtain ⟨hfirst, hrest⟩ := Bool.and_eq_true_iff.mp h
    exact List.forall_mem_cons.mpr ⟨hfirst, ih hrest⟩

theorem keyedEntries_lookup {entries : List (String × Resolvable π)} (h : keyedEntries entries = true) {key : String}
    {r : Resolvable π} (hr : entries.lookup key = some r) : r.keyed = true := by
  induction entries with
  | nil => cases hr
  | cons entry rest ih =>
    obtain ⟨k, first⟩ := entry
    obtain ⟨hfirst, hrest⟩ := Bool.and_eq_true_iff.mp h
    rw [List.lookup_cons] at hr
    split at hr
    · cases hr
      exact hfirst
    · exact ih hrest hr

/-! ### Values of parts -/

theorem itemValues?_iff {items : List (Resolvable π)} {values : List Value} : itemValues? known items = some values ↔
    List.Forall₂ (fun r v => r.value? known = some v) items values := by
  induction items generalizing values with
  | nil => cases values <;> simp [itemValues?]
  | cons r rest ih =>
    rw [List.forall₂_cons_left_iff]
    constructor
    · intro h
      obtain ⟨v, hv, hrest⟩ := Option.bind_eq_some_iff.mp h
      obtain ⟨vs, hvs, rfl⟩ := Option.map_eq_some_iff.mp hrest
      exact ⟨v, vs, hv, ih.mp hvs, rfl⟩
    · rintro ⟨v, vs, hv, hvs, rfl⟩
      rw [itemValues?, hv, ih.mpr hvs]
      rfl

theorem entryValues?_iff {entries : List (String × Resolvable π)} {values : List Value} :
    entryValues? known entries = some values ↔ List.Forall₂ (fun e v => e.2.value? known = some v) entries values := by
  induction entries generalizing values with
  | nil => cases values <;> simp [entryValues?]
  | cons entry rest ih =>
    rw [List.forall₂_cons_left_iff]
    constructor
    · intro h
      obtain ⟨v, hv, hrest⟩ := Option.bind_eq_some_iff.mp h
      obtain ⟨vs, hvs, rfl⟩ := Option.map_eq_some_iff.mp hrest
      exact ⟨v, vs, hv, ih.mp hvs, rfl⟩
    · rintro ⟨v, vs, hv, hvs, rfl⟩
      rw [entryValues?, hv, ih.mpr hvs]
      rfl

/-- How a step into a tree comes out, and how one into its value does: both lead on, to a tree and to its value, or they fail
alike. -/
inductive Parallel (known : π → Option Value) : Except Cause (Resolvable π) → Except Cause (Resolvable π) → Prop
  | leads {next : Resolvable π} {w : Value} (keyed : next.keyed = true) (value : next.value? known = some w) :
      Parallel known (.ok next) (.ok (ready w))
  | fails {c c' : Cause} (alike : c.Alike c') : Parallel known (.error c) (.error c')

theorem select_forced {items : List (Resolvable π)} {values : List Value} (hkeyed : keyedItems items = true)
    (h : List.Forall₂ (fun r v => r.value? known = some v) items values) (segment : String) :
    Parallel known (select items segment "sequence") (select (values.map ready) segment "array") := by
  cases hindex : Path.index? segment with
  | none =>
    rw [select_misread hindex, select_misread hindex]
    exact .fails (.instead _ _ _)
  | some k =>
    simp only [select, hindex, List.getElem?_map, List.length_map, ← h.length_eq]
    by_cases hk : k < items.length
    · have hk' : k < values.length := h.length_eq ▸ hk
      rw [List.getElem?_eq_getElem hk, List.getElem?_eq_getElem hk']
      exact .leads (keyedItems_mem hkeyed _ (List.getElem_mem hk)) (h.get hk hk')
    · rw [List.getElem?_eq_none (Nat.not_lt.mp hk), List.getElem?_eq_none (h.length_eq ▸ Nat.not_lt.mp hk)]
      exact .fails (.same _)

/-- What stands under a key, and what stands under it when the keys go with something else. -/
theorem lookup_zip {R : Resolvable π → Value → Prop} {entries : List (String × Resolvable π)} {values : List Value}
    (h : List.Forall₂ (fun e v => R e.2 v) entries values) (key : String) :
    (entries.lookup key = none ∧ ((entries.map Prod.fst).zip values).lookup key = none) ∨
      ∃ r v, entries.lookup key = some r ∧ ((entries.map Prod.fst).zip values).lookup key = some v ∧ R r v := by
  induction h with
  | nil => exact .inl ⟨rfl, rfl⟩
  | @cons entry v entries values hv hrest ih =>
    obtain ⟨k, r⟩ := entry
    rw [List.map_cons, List.zip_cons_cons, List.lookup_cons, List.lookup_cons]
    cases hkey : key == k with
    | true => exact .inr ⟨r, v, rfl, rfl, hv⟩
    | false => exact ih

theorem zip_keys {entries : List (String × Resolvable π)} {values : List Value} (h : entries.length = values.length) :
    ((entries.map Prod.fst).zip values).map Prod.fst = entries.map Prod.fst :=
  List.map_fst_zip (by rw [List.length_map, h])

/-- **A step and forcing commute.** -/
theorem step_forced {r : Resolvable π} {v : Value} (hkeyed : r.keyed = true) (hfound : ∀ p, r ≠ pending p)
    (hv : r.value? known = some v) (segment : String) :
    Parallel known (r.step segment) ((ready v : Resolvable π).step segment) := by
  cases r with
  | pending p => exact absurd rfl (hfound p)
  | ready v' =>
    cases hv
    cases hstep : (ready v : Resolvable π).step segment with
    | ok next =>
      obtain ⟨w, rfl⟩ := step_ready hstep
      exact .leads rfl rfl
    | error c => exact .fails (.same c)
  | sequence items =>
    obtain ⟨values, hvalues, rfl⟩ := Option.map_eq_some_iff.mp hv
    rw [step_array]
    exact select_forced hkeyed (itemValues?_iff.mp hvalues) segment
  | mapping entries =>
    obtain ⟨values, hvalues, rfl⟩ := Option.map_eq_some_iff.mp hv
    obtain ⟨hkeys, hentries⟩ := Bool.and_eq_true_iff.mp hkeyed
    have hparts := entryValues?_iff.mp hvalues
    have hfields : Fields.ofList ((entries.map Prod.fst).zip values) = (entries.map Prod.fst).zip values :=
      Fields.ofList_zip (of_decide_eq_true hkeys) (by rw [List.length_map, hparts.length_eq])
    simp only [step, Fields.get?, hfields]
    rcases lookup_zip (R := fun r v => r.value? known = some v) hparts segment with ⟨hnone, hnone'⟩ | ⟨r, w, hr, hw, hvalue⟩
    · rw [hnone, hnone']
      exact .fails (.same _)
    · rw [hr, hw]
      exact .leads (keyedEntries_lookup hentries hr) hvalue

/-! ### Paths -/

/-- What a path leads to in a tree, and in its value: to a tree and to its value, or both fail alike. -/
inductive Corresponds (known : π → Option Value) : Poll (Resolvable π) → Poll (Resolvable π) → Prop
  | found {r : Resolvable π} {w : Value} (value : r.value? known = some w) :
      Corresponds known (some (.ok r)) (some (.ok (ready w)))
  | astray {c c' : Cause} (alike : c.Alike c') : Corresponds known (some (.error ⟨c, none⟩)) (some (.error ⟨c', none⟩))

/-- A path corresponds to itself through a finished value. -/
theorem corresponds_ready (path : Path) : ∀ v : Value,
    Corresponds known ((ready v : Resolvable π).navigate (m := Id) (fun _ => none) path)
      ((ready v : Resolvable π).navigate (m := Id) (fun _ => none) path) := by
  induction path with
  | nil => exact fun v => .found rfl
  | cons segment rest ih =>
    intro v
    cases hstep : (ready v : Resolvable π).step segment with
    | ok next =>
      obtain ⟨w, rfl⟩ := step_ready hstep
      rw [navigate_step (ready_found v) hstep]
      exact ih w
    | error c =>
      rw [navigate_astray (ready_found v) hstep]
      exact .astray (.same c)

theorem navigate_pending (p : π) (path : Path) :
    (pending p).navigate (m := Id) view path = beyond path (view p) := by
  rw [navigate_gate, gate?_pending]
  rfl

/-- **Following a path and forcing commute**, where all that is awaited comes to a value and no mapping repeats a key. -/
theorem navigate_forced (path : Path) : ∀ {r : Resolvable π} {v : Value}, r.keyed = true → r.value? known = some v →
    (∀ p ∈ r.awaited, view p = (known p).map .ok) →
      Corresponds known (r.navigate (m := Id) view path) ((ready v : Resolvable π).navigate (m := Id) (fun _ => none) path) := by
  have hpending {p : π} {v : Value} (hv : (pending p).value? known = some v) (hview : view p = (known p).map .ok)
      (path : Path) : Corresponds known ((pending p).navigate (m := Id) view path)
        ((ready v : Resolvable π).navigate (m := Id) (fun _ => none) path) := by
    rw [navigate_pending, hview, show known p = some v from hv]
    exact corresponds_ready path v
  induction path with
  | nil =>
    intro r v _ hv hview
    cases r with
    | pending p => exact hpending hv (hview p (List.mem_singleton_self p)) []
    | _ => exact .found hv
  | cons segment rest ih =>
    intro r v hkeyed hv hview
    by_cases hfound : ∀ p, r ≠ pending p
    · have hstep := step_forced hkeyed hfound hv segment
      generalize hr : r.step segment = first at hstep
      generalize hv' : (ready v : Resolvable π).step segment = second at hstep
      cases hstep with
      | leads hkeyed hvalue =>
        rw [navigate_step hfound hr, navigate_step (ready_found v) hv']
        exact ih hkeyed hvalue fun p hp => hview p (step_awaited hr p hp)
      | fails alike =>
        rw [navigate_astray hfound hr, navigate_astray (ready_found v) hv']
        exact .astray alike
    · obtain ⟨p, hp⟩ := not_forall.mp hfound
      cases not_not.mp hp
      exact hpending hv (hview p (List.mem_singleton_self p)) (segment :: rest)

end Resolvable
end StageGraph
