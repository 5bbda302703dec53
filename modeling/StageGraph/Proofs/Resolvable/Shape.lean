import StageGraph.Proofs.Grammar.Faithful
import StageGraph.Proofs.Resolvable.Forcing

/-! The value in the shape of a tree.

`Replaced` says what it means that a value is a tree with every leaf replaced by the value that is known of it: elements
keep their order, keys stand where they occur first, and of the values of a repeated key the last one counts. The value that
a tree stands for is of this kind (`replaced_value?`), and there is one as soon as every leaf has one (`value?_isSome`). -/
namespace StageGraph

namespace Fields

open Spec (firstOccurrences)

theorem keys_foldl (entries : List (String × Value)) : ∀ fields : Fields,
    (entries.foldl (fun fields entry => insert fields entry.1 entry.2) fields).map Prod.fst =
      fields.map Prod.fst ++ (firstOccurrences (entries.map Prod.fst)).filter (· ∉ fields.map Prod.fst) := by
  induction entries with
  | nil => exact fun fields => (List.append_nil _).symm
  | cons entry rest ih =>
    intro fields
    rw [List.foldl_cons, ih, keys_insert, List.map_cons, firstOccurrences]
    by_cases hold : entry.1 ∈ fields.map Prod.fst
    · rw [if_pos hold, List.filter_cons_of_neg (by simpa using hold), List.filter_filter]
      congr 1
      refine List.filter_congr fun name _ => ?_
      by_cases hname : name = entry.1
      · subst hname
        simp [hold]
      · simp [hname]
    · rw [if_neg hold, List.filter_cons_of_pos (by simpa using hold), List.filter_filter, List.append_assoc]
      congr 1
      rw [List.singleton_append]
      congr 1
      refine List.filter_congr fun name _ => ?_
      by_cases hname : name = entry.1 <;> simp [hname, and_comm]

/-- Keys stand where they occur first. -/
theorem keys_ofList (entries : List (String × Value)) :
    Spec.FirstOf (entries.map Prod.fst) ((ofList entries).map Prod.fst) := by
  have hkeys : (ofList entries).map Prod.fst = firstOccurrences (entries.map Prod.fst) := by
    rw [ofList, keys_foldl]
    simp
  rw [hkeys]
  exact Spec.firstOf_firstOccurrences _

end Fields

namespace Resolvable

variable {π : Type} {known : π → Option Value}

/-- The value is the tree with each leaf replaced by its value. -/
inductive Replaced (known : π → Option Value) : Resolvable π → Value → Prop
  | ready (v : Value) : Replaced known (ready v) v
  | pending {p : π} {v : Value} (hknown : known p = some v) : Replaced known (pending p) v
  | sequence {items : List (Resolvable π)} {values : List Value} (hitems : List.Forall₂ (Replaced known) items values) :
      Replaced known (sequence items) (.array values)
  | mapping {entries : List (String × Resolvable π)} {fields : Fields}
      (hkeys : Spec.FirstOf (entries.map Prod.fst) (fields.map Prod.fst))
      (hfields : ∀ key r v, entries.reverse.lookup key = some r → fields.get? key = some v → Replaced known r v) :
      Replaced known (mapping entries) (.object fields)

mutual

/-- Where all leaves have values, so has the tree. -/
theorem value?_isSome : ∀ r : Resolvable π, (∀ p ∈ r.awaited, (known p).isSome) → (r.value? known).isSome
  | ready _, _ => rfl
  | pending p, h => h p (List.mem_singleton_self p)
  | sequence items, h => by
    rw [value?, Option.isSome_map]
    exact itemValues?_isSome items h
  | mapping entries, h => by
    rw [value?, Option.isSome_map]
    exact entryValues?_isSome entries h

theorem itemValues?_isSome : ∀ items : List (Resolvable π), (∀ p ∈ awaitedItems items, (known p).isSome) →
    (itemValues? known items).isSome
  | [], _ => rfl
  | r :: rest, h => by
    obtain ⟨v, hv⟩ := Option.isSome_iff_exists.mp (value?_isSome r fun p hp => h p (List.mem_append_left _ hp))
    rw [itemValues?, hv, Option.bind_some, Option.isSome_map]
    exact itemValues?_isSome rest fun p hp => h p (List.mem_append_right _ hp)

theorem entryValues?_isSome : ∀ entries : List (String × Resolvable π),
    (∀ p ∈ awaitedEntries entries, (known p).isSome) → (entryValues? known entries).isSome
  | [], _ => rfl
  | (_, r) :: rest, h => by
    obtain ⟨v, hv⟩ := Option.isSome_iff_exists.mp (value?_isSome r fun p hp => h p (List.mem_append_left _ hp))
    rw [entryValues?, hv, Option.bind_some, Option.isSome_map]
    exact entryValues?_isSome rest fun p hp => h p (List.mem_append_right _ hp)

end

theorem replaced_mapping {entries : List (String × Resolvable π)} {values : List Value}
    (h : List.Forall₂ (fun e v => Replaced known e.2 v) entries values) :
    Replaced known (mapping entries) (.object (Fields.ofList ((entries.map Prod.fst).zip values))) := by
  have hkeys := Fields.keys_ofList ((entries.map Prod.fst).zip values)
  rw [zip_keys h.length_eq] at hkeys
  refine .mapping hkeys fun key r v hr hv => ?_
  have hlast : ((entries.map Prod.fst).zip values).reverse = (entries.reverse.map Prod.fst).zip values.reverse := by
    rw [List.map_reverse]
    exact List.reverse_zipWith (by rw [List.length_map, h.length_eq])
  rw [Fields.get?_ofList, hlast] at hv
  rcases lookup_zip (List.forall₂_reverse_iff.mpr h) key with ⟨hnone, -⟩ | ⟨r', v', hr', hv', hreplaced⟩
  · rw [hnone] at hr
    cases hr
  · cases hr.symm.trans hr'
    cases hv.symm.trans hv'
    exact hreplaced

mutual

/-- **The value that a tree stands for is the tree with each leaf replaced.** -/
theorem replaced_value? : ∀ (r : Resolvable π) {v : Value}, r.value? known = some v → Replaced known r v
  | ready v, _, h => by
    cases h
    exact .ready v
  | pending _, _, h => .pending h
  | sequence items, _, h => by
    obtain ⟨values, hvalues, rfl⟩ := Option.map_eq_some_iff.mp h
    exact .sequence (replaced_items items hvalues)
  | mapping entries, _, h => by
    obtain ⟨values, hvalues, rfl⟩ := Option.map_eq_some_iff.mp h
    exact replaced_mapping (replaced_entries entries hvalues)

theorem replaced_items : ∀ (items : List (Resolvable π)) {values : List Value}, itemValues? known items = some values →
    List.Forall₂ (Replaced known) items values
  | [], _, h => by
    cases h
    exact .nil
  | r :: rest, _, h => by
    obtain ⟨v, hv, hrest⟩ := Option.bind_eq_some_iff.mp h
    obtain ⟨vs, hvs, rfl⟩ := Option.map_eq_some_iff.mp hrest
    exact .cons (replaced_value? r hv) (replaced_items rest hvs)

theorem replaced_entries : ∀ (entries : List (String × Resolvable π)) {values : List Value},
    entryValues? known entries = some values → List.Forall₂ (fun e v => Replaced known e.2 v) entries values
  | [], _, h => by
    cases h
    exact .nil
  | (_, r) :: rest, _, h => by
    obtain ⟨v, hv, hrest⟩ := Option.bind_eq_some_iff.mp h
    obtain ⟨vs, hvs, rfl⟩ := Option.map_eq_some_iff.mp hrest
    exact .cons (replaced_value? r hv) (replaced_entries rest hvs)

end

end Resolvable
end StageGraph
