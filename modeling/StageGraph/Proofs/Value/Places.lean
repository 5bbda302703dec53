import StageGraph.Value

/-! Places inside a value.

A place leads from a value to one of its sub-values, child by child. `Value.keyed` says of a value what every
document keeps: no object in it repeats a key. Equal values then have as many parts (`weight_of_same`), so
nothing below the root of such a value equals the whole (`not_same_below`). -/
namespace StageGraph

/-- The numbers of the children to go to, from the root down. -/
abbrev Place := List Nat

namespace Value

/-- The sub-value at a place. -/
def at? : Value → Place → Option Value
  | v, [] => some v
  | array items, n :: rest => (items[n]?).bind (at? · rest)
  | object fields, n :: rest => (fields[n]?).bind fun f => at? f.2 rest
  | _, _ :: _ => none

/-- Whether a value is a list with items or an object with fields. -/
def isComposite : Value → Bool
  | array (_ :: _) => true
  | object (_ :: _) => true
  | _ => false

mutual

/-- Whether no object in a value repeats a key. -/
def keyed : Value → Bool
  | array items => keyedItems items
  | object fields => decide (fields.map Prod.fst).Nodup && keyedFields fields
  | _ => true

def keyedItems : List Value → Bool
  | [] => true
  | v :: rest => v.keyed && keyedItems rest

def keyedFields : List (String × Value) → Bool
  | [] => true
  | (_, v) :: rest => v.keyed && keyedFields rest

end

mutual

/-- How many parts a value has, itself among them. -/
def weight : Value → Nat
  | array items => weightItems items + 1
  | object fields => weightFields fields + 1
  | _ => 1

def weightItems : List Value → Nat
  | [] => 0
  | v :: rest => v.weight + weightItems rest

def weightFields : List (String × Value) → Nat
  | [] => 0
  | (_, v) :: rest => v.weight + weightFields rest

end

/-! ### Below the root -/

@[simp] theorem at?_nil (v : Value) : v.at? [] = some v := by
  unfold at?
  rfl

theorem keyed_of_mem_items {items : List Value} {v : Value} (h : keyedItems items = true)
    (hv : v ∈ items) : v.keyed = true := by
  induction items with
  | nil => cases hv
  | cons w rest ih =>
    simp only [keyedItems, Bool.and_eq_true] at h
    rcases List.mem_cons.mp hv with rfl | hv
    · exact h.1
    · exact ih h.2 hv

theorem keyed_of_mem_fields {fields : List (String × Value)} {f : String × Value}
    (h : keyedFields fields = true) (hf : f ∈ fields) : f.2.keyed = true := by
  induction fields with
  | nil => cases hf
  | cons g rest ih =>
    simp only [keyedFields, Bool.and_eq_true] at h
    rcases List.mem_cons.mp hf with rfl | hf
    · exact h.1
    · exact ih h.2 hf

theorem weight_le_of_mem_items {items : List Value} {v : Value} (hv : v ∈ items) :
    v.weight ≤ weightItems items := by
  induction items with
  | nil => cases hv
  | cons w rest ih =>
    simp only [weightItems]
    rcases List.mem_cons.mp hv with rfl | hv
    · omega
    · have := ih hv
      omega

theorem weight_le_of_mem_fields {fields : List (String × Value)} {f : String × Value}
    (hf : f ∈ fields) : f.2.weight ≤ weightFields fields := by
  induction fields with
  | nil => cases hf
  | cons g rest ih =>
    simp only [weightFields]
    rcases List.mem_cons.mp hf with rfl | hf
    · omega
    · have := ih hf
      omega

/-- The first step of a place leads to an item or to the value of a field. -/
theorem at?_cons_eq_some {v u : Value} {n : Nat} {rest : Place} (h : v.at? (n :: rest) = some u) :
    (∃ items w, v = array items ∧ items[n]? = some w ∧ w.at? rest = some u) ∨
      ∃ fields f, v = object fields ∧ fields[n]? = some f ∧ f.2.at? rest = some u := by
  cases v with
  | array items =>
    obtain ⟨w, hw, hu⟩ := Option.bind_eq_some_iff.mp h
    exact .inl ⟨items, w, rfl, hw, hu⟩
  | object fields =>
    obtain ⟨f, hf, hu⟩ := Option.bind_eq_some_iff.mp h
    exact .inr ⟨fields, f, rfl, hf, hu⟩
  | _ => cases h

theorem keyed_at? {v u : Value} {place : Place} (hk : v.keyed = true) (h : v.at? place = some u) :
    u.keyed = true := by
  induction place generalizing v with
  | nil =>
    rw [at?_nil] at h
    cases h
    exact hk
  | cons n rest ih =>
    rcases at?_cons_eq_some h with ⟨items, w, rfl, hw, hu⟩ | ⟨fields, f, rfl, hf, hu⟩
    · exact ih (keyed_of_mem_items hk (List.mem_of_getElem? hw)) hu
    · simp only [keyed, Bool.and_eq_true] at hk
      exact ih (keyed_of_mem_fields hk.2 (List.mem_of_getElem? hf)) hu

theorem weight_at?_le {v u : Value} {place : Place} (h : v.at? place = some u) :
    u.weight ≤ v.weight := by
  induction place generalizing v with
  | nil =>
    rw [at?_nil] at h
    cases h
    exact Nat.le_refl _
  | cons n rest ih =>
    rcases at?_cons_eq_some h with ⟨items, w, rfl, hw, hu⟩ | ⟨fields, f, rfl, hf, hu⟩
    · have := ih hu
      have := weight_le_of_mem_items (List.mem_of_getElem? hw)
      simp only [weight]
      omega
    · have := ih hu
      have := weight_le_of_mem_fields (List.mem_of_getElem? hf)
      simp only [weight]
      omega

theorem weight_at?_lt {v u : Value} {place : Place} (hp : place ≠ []) (h : v.at? place = some u) :
    u.weight < v.weight := by
  cases place with
  | nil => exact absurd rfl hp
  | cons n rest =>
    rcases at?_cons_eq_some h with ⟨items, w, rfl, hw, hu⟩ | ⟨fields, f, rfl, hf, hu⟩
    · have := weight_at?_le hu
      have := weight_le_of_mem_items (List.mem_of_getElem? hw)
      simp only [weight]
      omega
    · have := weight_at?_le hu
      have := weight_le_of_mem_fields (List.mem_of_getElem? hf)
      simp only [weight]
      omega

/-- What has parts below the root is composite. -/
theorem isComposite_of_at? {v u : Value} {place : Place} (hp : place ≠ []) (h : v.at? place = some u) :
    v.isComposite = true := by
  cases place with
  | nil => exact absurd rfl hp
  | cons n rest =>
    rcases at?_cons_eq_some h with ⟨items, w, rfl, hw, -⟩ | ⟨fields, f, rfl, hf, -⟩
    · cases items with
      | nil => cases hw
      | cons => rfl
    · cases fields with
      | nil => cases hf
      | cons => rfl

/-! ### Equal values -/

theorem isComposite_of_same {v w : Value} (h : same v w = true) : v.isComposite = w.isComposite := by
  cases v with
  | array items =>
    cases w with
    | array others =>
      cases items <;> cases others <;> first | rfl | cases h
    | _ => cases h
  | object fields =>
    cases w with
    | object others =>
      simp only [same, Bool.and_eq_true, beq_iff_eq] at h
      cases fields <;> cases others <;> first | rfl | cases h.1
    | _ => cases h
  | _ => cases w <;> first | rfl | cases h

/-- A field taken out weighs what its value weighs. -/
theorem weightFields_append (fields others : Fields) :
    weightFields (fields ++ others) = weightFields fields + weightFields others := by
  induction fields with
  | nil => exact (Nat.zero_add _).symm
  | cons f rest ih =>
    simp only [List.cons_append, weightFields, ih]
    omega

/-- Fields of other keys are found where they were once a field is taken out. -/
theorem fieldsWithin_without {fields front back : Fields} {key : String} {w : Value}
    (hkey : key ∉ fields.map Prod.fst) (h : fieldsWithin fields (front ++ (key, w) :: back) = true) :
    fieldsWithin fields (front ++ back) = true := by
  induction fields with
  | nil => rfl
  | cons f rest ih =>
    obtain ⟨k, v⟩ := f
    simp only [List.map_cons, List.mem_cons, not_or] at hkey
    have hget : Fields.get? (front ++ (key, w) :: back) k = Fields.get? (front ++ back) k := by
      have hne : (k == key) = false := by simpa using fun he => hkey.1 he.symm
      simp only [Fields.get?, List.lookup_append, List.lookup_cons, hne]
    simp only [fieldsWithin, Bool.and_eq_true, hget] at h ⊢
    exact ⟨h.1, ih hkey.2 h.2⟩

mutual

/-- Equal values have as many parts. -/
theorem weight_of_same : ∀ (v w : Value), v.keyed = true → same v w = true → v.weight = w.weight
  | array items, array others, hk, h => by
    simp only [weight]
    rw [weightItems_of_same items others hk h]
  | object fields, object others, hk, h => by
    simp only [keyed, Bool.and_eq_true, decide_eq_true_eq] at hk
    simp only [same, Bool.and_eq_true, beq_iff_eq] at h
    simp only [weight]
    rw [weightFields_of_within fields others hk.1 hk.2 h.1 h.2]
  | null, null, _, _ => rfl
  | boolean _, boolean _, _, _ => rfl
  | integer _, integer _, _, _ => rfl
  | real _, real _, _, _ => rfl
  | string _, string _, _, _ => rfl

theorem weightItems_of_same : ∀ (items others : List Value), keyedItems items = true →
    sameItems items others = true → weightItems items = weightItems others
  | [], [], _, _ => rfl
  | v :: rest, w :: others, hk, h => by
    simp only [keyedItems, Bool.and_eq_true] at hk
    simp only [sameItems, Bool.and_eq_true] at h
    simp only [weightItems]
    rw [weight_of_same v w hk.1 h.1, weightItems_of_same rest others hk.2 h.2]

theorem weightFields_of_within : ∀ (fields others : Fields), (fields.map Prod.fst).Nodup →
    keyedFields fields = true → fields.length = others.length → fieldsWithin fields others = true →
    weightFields fields = weightFields others
  | [], others, _, _, hl, _ => by
    rw [List.eq_nil_of_length_eq_zero hl.symm]
  | (k, v) :: rest, others, hd, hk, hl, h => by
    simp only [keyedFields, Bool.and_eq_true] at hk
    simp only [List.map_cons, List.nodup_cons] at hd
    simp only [fieldsWithin, Bool.and_eq_true] at h
    obtain ⟨hv, hrest⟩ := h
    split at hv
    · next w hget =>
      -- the partner of the first field is taken out of the other object
      obtain ⟨front, back, rfl, -⟩ := List.lookup_eq_some_iff.mp hget
      have hwithin := fieldsWithin_without hd.1 hrest
      have hlength : rest.length = (front ++ back).length := by
        simp only [List.length_cons, List.length_append] at hl ⊢
        omega
      have hw := weightFields_of_within rest (front ++ back) hd.2 hk.2 hlength hwithin
      simp only [weightFields_append] at hw
      simp only [weightFields_append, weightFields, weight_of_same v w hk.1 hv, hw]
      omega
    · cases hv

end

/-- Nothing below the root equals the whole. -/
theorem not_same_below {v u : Value} {place : Place} (hk : v.keyed = true) (hp : place ≠ [])
    (h : v.at? place = some u) : same u v = false := by
  cases hs : same u v
  · rfl
  · have := weight_of_same u v (keyed_at? hk h) hs
    have := weight_at?_lt hp h
    omega

/-! ### Sub-values -/

theorem at?_append (v : Value) (place rest : Place) : v.at? (place ++ rest) = (v.at? place).bind (·.at? rest) := by
  induction place generalizing v with
  | nil => rw [at?_nil]; rfl
  | cons n more ih =>
    cases v with
    | array items =>
      show (items[n]?).bind (·.at? (more ++ rest)) = ((items[n]?).bind (·.at? more)).bind (·.at? rest)
      rw [Option.bind_assoc]
      exact congrArg _ (funext fun w => ih w)
    | object fields =>
      show (fields[n]?).bind (fun f => f.2.at? (more ++ rest)) =
        ((fields[n]?).bind fun f => f.2.at? more).bind (·.at? rest)
      rw [Option.bind_assoc]
      exact congrArg _ (funext fun f => ih f.2)
    | _ => rfl

/-- A value stands somewhere in another one. -/
def Contains (v u : Value) : Prop := ∃ place, v.at? place = some u

namespace Contains

variable {v w u : Value}

theorem refl (v : Value) : v.Contains v := ⟨[], at?_nil v⟩

theorem trans (h : v.Contains w) (h' : w.Contains u) : v.Contains u := by
  obtain ⟨place, h⟩ := h
  obtain ⟨rest, h'⟩ := h'
  refine ⟨place ++ rest, ?_⟩
  rw [at?_append, h]
  exact h'

theorem item {items : List Value} (h : u ∈ items) : (array items).Contains u := by
  obtain ⟨n, hn⟩ := List.mem_iff_getElem?.mp h
  refine ⟨[n], ?_⟩
  show (items[n]?).bind (·.at? []) = some u
  rw [hn]
  exact at?_nil u

theorem entry {fields : Fields} {key : String} (h : Fields.get? fields key = some u) : (object fields).Contains u := by
  obtain ⟨front, back, rfl, -⟩ := List.lookup_eq_some_iff.mp h
  refine ⟨[front.length], ?_⟩
  show ((front ++ (key, u) :: back)[front.length]?).bind (fun f => f.2.at? []) = some u
  rw [List.getElem?_append_right (Nat.le_refl _), Nat.sub_self]
  exact at?_nil u

theorem field {key : String} (h : v.field? key = some u) : v.Contains u := by
  cases v with
  | object fields => exact entry h
  | _ => cases h

/-- The value of a field, or else the whole value. -/
theorem fieldOr (v : Value) (key : String) : v.Contains ((v.field? key).getD v) := by
  cases h : v.field? key with
  | none => exact refl v
  | some u => exact field h

/-- What stands in a list is the list, or stands in one of its items. -/
theorem array_iff {items : List Value} : (array items).Contains u ↔ u = array items ∨ ∃ w ∈ items, w.Contains u := by
  constructor
  · intro ⟨place, h⟩
    cases place with
    | nil => exact .inl (Option.some.inj h).symm
    | cons n rest =>
      obtain ⟨w, hw, hu⟩ := Option.bind_eq_some_iff.mp h
      exact .inr ⟨w, List.mem_of_getElem? hw, rest, hu⟩
  · rintro (rfl | ⟨w, hw, hu⟩)
    · exact refl _
    · exact (item hw).trans hu

/-- What stands in an object is the object, or stands in the value of one of its fields. -/
theorem object_iff {fields : Fields} :
    (object fields).Contains u ↔ u = object fields ∨ ∃ f ∈ fields, f.2.Contains u := by
  constructor
  · intro ⟨place, h⟩
    cases place with
    | nil => exact .inl (Option.some.inj h).symm
    | cons n rest =>
      obtain ⟨f, hf, hu⟩ := Option.bind_eq_some_iff.mp h
      exact .inr ⟨f, List.mem_of_getElem? hf, rest, hu⟩
  · rintro (rfl | ⟨f, hf, hu⟩)
    · exact refl _
    · obtain ⟨n, hn⟩ := List.mem_iff_getElem?.mp hf
      obtain ⟨rest, hu⟩ := hu
      refine ⟨n :: rest, ?_⟩
      show (fields[n]?).bind (fun f => f.2.at? rest) = some u
      rw [hn]
      exact hu

/-- Nothing stands in a text but the text. -/
theorem string_iff {s : String} : (string s).Contains u ↔ u = string s := by
  constructor
  · intro ⟨place, h⟩
    cases place with
    | nil => exact (Option.some.inj h).symm
    | cons n rest => cases h
  · rintro rfl
    exact refl _

end Contains

end Value
end StageGraph
