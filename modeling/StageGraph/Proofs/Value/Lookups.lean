import Mathlib.Data.List.Perm.Subperm
import Mathlib.Data.Option.Basic
import StageGraph.Proofs.Table.Sorted
import StageGraph.Proofs.Value.Fields
import StageGraph.Proofs.Value.Places

/-! What look-ups see of an object.

Equal objects answer alike to every name, however their fields are ordered (`get?_of_same`). Fields that are put
in between under other names are not seen by a look-up (`Interspersed.get?_rel`). -/
namespace StageGraph

namespace Value

theorem fieldsWithin_iff {fields others : Fields} : fieldsWithin fields others = true ↔
    ∀ f ∈ fields, ∃ w, Fields.get? others f.1 = some w ∧ same f.2 w = true := by
  induction fields with
  | nil => simp [fieldsWithin]
  | cons f rest ih =>
    obtain ⟨k, v⟩ := f
    simp only [fieldsWithin, Bool.and_eq_true, ih, List.forall_mem_cons]
    apply and_congr_left'
    cases Fields.get? others k <;> simp

mutual

/-- A value that repeats no key equals itself. -/
theorem same_refl : ∀ v : Value, v.keyed = true → same v v = true
  | null, _ => rfl
  | boolean b, _ => beq_self_eq_true b
  | integer n, _ => beq_self_eq_true n
  | real x, _ => by simp [same, Binary64.equal]
  | string s, _ => beq_self_eq_true s
  | array items, h => sameItems_refl items h
  | object fields, h => by
    simp only [keyed, Bool.and_eq_true, decide_eq_true_eq] at h
    simp only [same, beq_self_eq_true, Bool.true_and]
    apply fieldsWithin_iff.mpr
    exact fun f hf => ⟨f.2, (Table.mem_iff_lookup h.1).mp hf, same_refl_fields fields h.2 f hf⟩

theorem sameItems_refl : ∀ items : List Value, keyedItems items = true → sameItems items items = true
  | [], _ => rfl
  | v :: rest, h => by
    simp only [keyedItems, Bool.and_eq_true] at h
    simp only [sameItems, Bool.and_eq_true]
    exact ⟨same_refl v h.1, sameItems_refl rest h.2⟩

theorem same_refl_fields : ∀ fields : List (String × Value), keyedFields fields = true →
    ∀ f ∈ fields, same f.2 f.2 = true
  | [], _ => by simp
  | (_, v) :: rest, h => by
    simp only [keyedFields, Bool.and_eq_true] at h
    rw [List.forall_mem_cons]
    exact ⟨same_refl v h.1, same_refl_fields rest h.2⟩

end

/-- Equal objects have the same names: as many of them, and those of the first among those of the second. -/
theorem keys_perm_of_same {fields others : Fields} (hd : (fields.map Prod.fst).Nodup)
    (h : same (object fields) (object others) = true) : (fields.map Prod.fst).Perm (others.map Prod.fst) := by
  simp only [same, Bool.and_eq_true, beq_iff_eq] at h
  have hsub : fields.map Prod.fst ⊆ others.map Prod.fst := by
    intro key hkey
    obtain ⟨f, hf, rfl⟩ := List.mem_map.mp hkey
    obtain ⟨w, hw, -⟩ := fieldsWithin_iff.mp h.2 f hf
    exact Fields.get?_isSome.mp (by simp [hw])
  exact (hd.subperm hsub).perm_of_length_le (by simp [h.1])

/-- Equal objects answer alike to every name. -/
theorem get?_of_same {fields others : Fields} (hd : (fields.map Prod.fst).Nodup)
    (h : same (object fields) (object others) = true) (name : String) :
    Option.Rel (fun v w => same v w = true) (Fields.get? fields name) (Fields.get? others name) := by
  cases hget : Fields.get? fields name with
  | some v =>
    simp only [same, Bool.and_eq_true] at h
    obtain ⟨w, hw, hs⟩ := fieldsWithin_iff.mp h.2 _ (Fields.mem_of_get? hget)
    rw [hw]
    exact .some hs
  | none =>
    have habsent : Fields.get? others name = none := by
      rw [Fields.get?_eq_none] at hget ⊢
      rwa [← (keys_perm_of_same hd h).mem_iff]
    rw [habsent]
    exact .none

/-- What equals an object is an object that has an equal answer to each question. -/
theorem answers_of_same {fields : Fields} {v : Value} (hd : (fields.map Prod.fst).Nodup)
    (h : same (object fields) v = true) : ∃ others, v = object others ∧ ∀ name w, Fields.get? fields name = some w →
      ∃ u, Fields.get? others name = some u ∧ same w u = true := by
  cases v with
  | object others =>
    refine ⟨others, rfl, fun name w hw => ?_⟩
    have hrel := get?_of_same hd h name
    rw [hw] at hrel
    generalize Fields.get? others name = found at hrel ⊢
    cases hrel with
    | some hs => exact ⟨_, rfl, hs⟩
  | _ => cases h

theorem items_of_same {items : List Value} {v : Value} (h : same (array items) v = true) :
    ∃ others, v = array others ∧ sameItems items others = true := by
  cases v with
  | array others => exact ⟨others, rfl, h⟩
  | _ => cases h

theorem eq_string_of_same {s : String} {v : Value} (h : same (string s) v = true) : v = string s := by
  cases v with
  | string r => rw [eq_of_beq h]
  | _ => cases h

end Value

namespace Fields

/-- The fields of a list are found in another one in the same order and with related values; what stands in
between there has none of the names `seen`. -/
inductive Interspersed (seen : List String) (R : Value → Value → Prop) : Fields → Fields → Prop
  | nil : Interspersed seen R [] []
  | keep (key : String) {v w : Value} {fields others : Fields} (head : R v w)
      (rest : Interspersed seen R fields others) : Interspersed seen R ((key, v) :: fields) ((key, w) :: others)
  | add {key : String} (w : Value) {fields others : Fields} (unseen : key ∉ seen)
      (rest : Interspersed seen R fields others) : Interspersed seen R fields ((key, w) :: others)

variable {seen : List String} {R : Value → Value → Prop} {fields others : Fields}

/-- A look-up under one of the names passes the added fields over. -/
theorem Interspersed.get?_rel (h : Interspersed seen R fields others) {name : String} (hname : name ∈ seen) :
    Option.Rel R (get? fields name) (get? others name) := by
  induction h with
  | nil => exact .none
  | keep key head rest ih =>
    rw [get?_cons, get?_cons]
    split
    · exact .some head
    · exact ih
  | @add key w _ _ unseen rest ih =>
    have hne : key ≠ name := by
      rintro rfl
      exact unseen hname
    rw [get?_cons, if_neg hne]
    exact ih

end Fields
end StageGraph
