import StageGraph.Proofs.Value.Lookups
import StageGraph.ValueType

/-! What a type tells apart.

A type looks at the kind of a value, at the items of a list by their positions and at the fields of an object by
their names; only a dictionary goes through all the entries. So it accepts both of two values or neither if these
have the same kind and their parts, as far as it looks at them, are related in the same way (`check_congr`). Equal
values are, whatever the order of their fields; and so is, if no dictionary is involved, a value to which fields
were added under names that the type does not declare (`check_respects_equality`). -/
namespace StageGraph

namespace ValueType

mutual

/-- The field names that the record types inside a type declare. -/
def declared : ValueType → List String
  | array item => item.declared
  | dict key value => key.declared ++ value.declared
  | tuple items => declaredAll items
  | union options => declaredAll options
  | object fields => declaredFields fields
  | _ => []

def declaredAll : List ValueType → List String
  | [] => []
  | t :: rest => t.declared ++ declaredAll rest

def declaredFields : List (String × ValueType) → List String
  | [] => []
  | (name, t) :: rest => name :: (t.declared ++ declaredFields rest)

end

mutual

/-- Whether a type has no dictionary inside. -/
def dictFree : ValueType → Bool
  | array item => item.dictFree
  | dict _ _ => false
  | tuple items => dictFreeAll items
  | union options => dictFreeAll options
  | object fields => dictFreeFields fields
  | _ => true

def dictFreeAll : List ValueType → Bool
  | [] => true
  | t :: rest => t.dictFree && dictFreeAll rest

def dictFreeFields : List (String × ValueType) → Bool
  | [] => true
  | (_, t) :: rest => t.dictFree && dictFreeFields rest

end

end ValueType

namespace Value

/-- Equal as values, with no repeated key in either. -/
structure Equal (v w : Value) : Prop where
  keyed : v.keyed = true
  keyed' : w.keyed = true
  same : v.same w = true

/-- Fields were added under names other than `declared`, to any objects at any depth. -/
inductive Grown (declared : List String) : Value → Value → Prop
  | same (v : Value) : Grown declared v v
  | array {items others : List Value} (h : List.Forall₂ (Grown declared) items others) :
    Grown declared (array items) (array others)
  | object {fields others : Fields} (h : Fields.Interspersed declared (Grown declared) fields others) :
    Grown declared (object fields) (object others)

/-- Two values have the same kind, lists have related items, and objects answer in a related way to the names
`seen`. -/
inductive Resembles (R : Value → Value → Prop) (seen : String → Prop) : Value → Value → Prop
  | null : Resembles R seen null null
  | boolean (b c : Bool) : Resembles R seen (boolean b) (boolean c)
  | integer (n k : Int) : Resembles R seen (integer n) (integer k)
  | real (x y : Binary64) : Resembles R seen (real x) (real y)
  | string (s r : String) : Resembles R seen (string s) (string r)
  | array {items others : List Value} (h : List.Forall₂ R items others) : Resembles R seen (array items) (array others)
  | object {fields others : Fields}
    (h : ∀ name, seen name → Option.Rel R (Fields.get? fields name) (Fields.get? others name)) :
    Resembles R seen (object fields) (object others)

/-- Values that are alike for whoever asks objects for the names `seen` only. -/
structure Likeness where
  alike : Value → Value → Prop
  seen : String → Prop
  resembles : ∀ {v w : Value}, alike v w → Resembles alike seen v w

/-- Objects that are alike repeat no key, and give like answers to every name. -/
def Likeness.Keywise (l : Likeness) : Prop :=
  ∀ fields others : Fields, l.alike (object fields) (object others) →
    (fields.map Prod.fst).Nodup ∧ (others.map Prod.fst).Nodup ∧
      ∀ name, Option.Rel l.alike (Fields.get? fields name) (Fields.get? others name)

/-! ### Equal values -/

theorem forall₂_equal : ∀ {items others : List Value}, keyedItems items = true → keyedItems others = true →
    sameItems items others = true → List.Forall₂ Equal items others
  | [], [], _, _, _ => .nil
  | v :: rest, w :: others, hv, hw, h => by
    simp only [keyedItems, Bool.and_eq_true] at hv hw
    simp only [sameItems, Bool.and_eq_true] at h
    exact .cons ⟨hv.1, hw.1, h.1⟩ (forall₂_equal hv.2 hw.2 h.2)

/-- Equal objects give equal answers. -/
theorem Equal.get? {fields others : Fields} (h : Equal (object fields) (object others)) (name : String) :
    Option.Rel Equal (Fields.get? fields name) (Fields.get? others name) := by
  obtain ⟨hkeyed, hkeyed', hsame⟩ := h
  simp only [Value.keyed, Bool.and_eq_true, decide_eq_true_eq] at hkeyed hkeyed'
  have hrel := get?_of_same hkeyed.1 hsame name
  cases hv : Fields.get? fields name <;> cases hw : Fields.get? others name <;> rw [hv, hw] at hrel <;> cases hrel
  · exact .none
  · next hs =>
    have hkept := keyed_of_mem_fields hkeyed.2 (Fields.mem_of_get? hv)
    have hkept' := keyed_of_mem_fields hkeyed'.2 (Fields.mem_of_get? hw)
    exact .some ⟨hkept, hkept', hs⟩

theorem Equal.resembles {v w : Value} (h : Equal v w) : Resembles Equal (fun _ => True) v w := by
  cases v with
  | array items =>
    cases w with
    | array others => exact .array (forall₂_equal h.keyed h.keyed' h.same)
    | _ => cases h.same
  | object fields =>
    cases w with
    | object others => exact .object fun name _ => h.get? name
    | _ => cases h.same
  | _ => cases w <;> first | constructor | cases h.same

/-- Equal values, asked for any name. -/
def Likeness.equal : Likeness := ⟨Equal, fun _ => True, Equal.resembles⟩

theorem Likeness.equal_keywise : Likeness.equal.Keywise := by
  intro fields others (h : Equal _ _)
  obtain ⟨hkeyed, hkeyed', _⟩ := id h
  simp only [keyed, Bool.and_eq_true, decide_eq_true_eq] at hkeyed hkeyed'
  exact ⟨hkeyed.1, hkeyed'.1, h.get?⟩

/-! ### Added fields -/

theorem Grown.resembles {declared : List String} {v w : Value} (h : Grown declared v w) :
    Resembles (Grown declared) (· ∈ declared) v w := by
  cases h with
  | same v =>
    cases v with
    | array items => exact .array (List.forall₂_same.mpr fun v _ => .same v)
    | object fields =>
      apply Resembles.object
      intro name _
      cases Fields.get? fields name with
      | none => exact .none
      | some v => exact .some (.same v)
    | _ => constructor
  | array h => exact .array h
  | object h => exact .object fun name hname => h.get?_rel hname

/-- Values with added fields, asked for declared names. -/
def Likeness.grown (declared : List String) : Likeness := ⟨Grown declared, (· ∈ declared), Grown.resembles⟩

end Value

namespace ValueType

open Value (Likeness)

/-- To go through the entries of an object is to ask for each name. -/
theorem all_iff_get? {fields : Fields} (hd : (fields.map Prod.fst).Nodup) (p : String × Value → Bool) :
    fields.all p = true ↔ ∀ name v, Fields.get? fields name = some v → p (name, v) = true := by
  rw [List.all_eq_true]
  constructor
  · exact fun h name v hv => h _ (Fields.mem_of_get? hv)
  · exact fun h f hf => h f.1 f.2 ((Table.mem_iff_lookup hd).mp hf)

variable {l : Likeness}

theorem all_items_congr {items others : List Value} {p : Value → Bool} (h : List.Forall₂ l.alike items others)
    (hp : ∀ v w, l.alike v w → p v = p w) : items.all p = others.all p := by
  induction h with
  | nil => rfl
  | cons head _ ih => rw [List.all_cons, List.all_cons, hp _ _ head, ih]

theorem all_congr {fields others : Fields} {p : String × Value → Bool} (hd : (fields.map Prod.fst).Nodup)
    (hd' : (others.map Prod.fst).Nodup)
    (hrel : ∀ name, Option.Rel l.alike (Fields.get? fields name) (Fields.get? others name))
    (hp : ∀ name v w, l.alike v w → p (name, v) = p (name, w)) : fields.all p = others.all p := by
  rw [Bool.eq_iff_iff, all_iff_get? hd, all_iff_get? hd']
  apply forall_congr'
  intro name
  have h := hrel name
  generalize Fields.get? fields name = found, Fields.get? others name = found' at h ⊢
  cases h with
  | none => simp
  | some hvw => simp [hp name _ _ hvw]

mutual

/-- A type accepts both of two values that are alike or neither. -/
theorem check_congr : ∀ (t : ValueType), (∀ name ∈ t.declared, l.seen name) → t.dictFree = true ∨ l.Keywise →
    ∀ {v w : Value}, l.alike v w → t.check v = t.check w
  | any, _, _, v, w, _ => by simp [check]
  | none, _, _, v, w, h => by cases l.resembles h <;> rfl
  | string, _, _, v, w, h => by cases l.resembles h <;> rfl
  | boolean, _, _, v, w, h => by cases l.resembles h <;> rfl
  | float, _, _, v, w, h => by cases l.resembles h <;> rfl
  | integer, _, _, v, w, h => by cases l.resembles h <;> rfl
  | array item, hseen, hdict, v, w, h => by
    cases l.resembles h with
    | array hitems =>
      simp only [check]
      exact all_items_congr hitems fun v w => check_congr item hseen hdict
    | _ => rfl
  | tuple items, hseen, hdict, v, w, h => by
    cases l.resembles h with
    | array hitems => exact checkAll_congr items hseen hdict hitems
    | _ => rfl
  | dict key value, hseen, hdict, v, w, h => by
    have hwhole := hdict.resolve_left Bool.false_ne_true
    obtain ⟨-, hvalue⟩ := List.forall_mem_append.mp hseen
    cases l.resembles h with
    | object _ =>
      obtain ⟨hd, hd', hrel⟩ := hwhole _ _ h
      apply all_congr hd hd' hrel
      intro name v w hvw
      rw [check_congr value hvalue (.inr hwhole) hvw]
    | _ => rfl
  | object fields, hseen, hdict, v, w, h => by
    cases l.resembles h with
    | object hrel => exact checkFields_congr fields hseen hdict hrel
    | _ => rfl
  | union options, hseen, hdict, v, w, h => by
    simp only [check]
    exact checkAny_congr options hseen hdict h

theorem checkAll_congr : ∀ (ts : List ValueType), (∀ name ∈ declaredAll ts, l.seen name) →
    dictFreeAll ts = true ∨ l.Keywise → ∀ {vs ws : List Value}, List.Forall₂ l.alike vs ws →
    checkAll ts vs = checkAll ts ws
  | [], _, _, _, _, .nil => rfl
  | [], _, _, _, _, .cons _ _ => rfl
  | _ :: _, _, _, _, _, .nil => rfl
  | t :: rest, hseen, hdict, _, _, .cons head tail => by
    obtain ⟨hfirst, hrest⟩ := List.forall_mem_append.mp hseen
    simp only [dictFreeAll, Bool.and_eq_true] at hdict
    simp only [checkAll]
    rw [check_congr t hfirst (hdict.imp_left And.left) head,
      checkAll_congr rest hrest (hdict.imp_left And.right) tail]

theorem checkAny_congr : ∀ (ts : List ValueType), (∀ name ∈ declaredAll ts, l.seen name) →
    dictFreeAll ts = true ∨ l.Keywise → ∀ {v w : Value}, l.alike v w → checkAny ts v = checkAny ts w
  | [], _, _, _, _, _ => rfl
  | t :: rest, hseen, hdict, _, _, h => by
    obtain ⟨hfirst, hrest⟩ := List.forall_mem_append.mp hseen
    simp only [dictFreeAll, Bool.and_eq_true] at hdict
    simp only [checkAny]
    rw [check_congr t hfirst (hdict.imp_left And.left) h,
      checkAny_congr rest hrest (hdict.imp_left And.right) h]

theorem checkFields_congr : ∀ (fields : List (String × ValueType)), (∀ name ∈ declaredFields fields, l.seen name) →
    dictFreeFields fields = true ∨ l.Keywise → ∀ {given others : Fields},
    (∀ name, l.seen name → Option.Rel l.alike (Fields.get? given name) (Fields.get? others name)) →
    checkFields fields given = checkFields fields others
  | [], _, _, _, _, _ => rfl
  | (name, t) :: rest, hseen, hdict, given, others, hrel => by
    obtain ⟨hname, hmore⟩ := List.forall_mem_cons.mp hseen
    obtain ⟨hfirst, hrest⟩ := List.forall_mem_append.mp hmore
    simp only [dictFreeFields, Bool.and_eq_true] at hdict
    have hfound := hrel name hname
    simp only [checkFields]
    rw [checkFields_congr rest hrest (hdict.imp_left And.right) hrel]
    generalize Fields.get? given name = found, Fields.get? others name = found' at hfound ⊢
    cases hfound with
    | none => rfl
    | some h => simp only [check_congr t hfirst (hdict.imp_left And.left) h]

end

/-- Of two equal values a type accepts both or neither, at whatever depth their fields stand in another order. If
no dictionary is inside, fields that are added under names that the type does not declare change nothing. -/
theorem check_respects_equality (t : ValueType) :
    (∀ v w : Value, v.keyed = true → w.keyed = true → v.same w = true → t.check v = t.check w) ∧
      (t.dictFree = true → ∀ v w : Value, v.Grown t.declared w → t.check v = t.check w) := by
  constructor
  · intro v w hv hw h
    exact check_congr (l := .equal) t (fun _ _ => trivial) (.inr Likeness.equal_keywise) ⟨hv, hw, h⟩
  · intro hdict v w h
    exact check_congr (l := .grown t.declared) t (fun _ hname => hname) (.inl hdict) h

/-- A record is accepted with its fields the other way round and the other zero, and with a field that it does not
name in its midst. -/
theorem person_accepted_anyhow :
    (Value.object [("score", .real (.zero true)), ("name", .string "ada")]).same
        (.object [("name", .string "ada"), ("score", .real (.zero false))]) = true ∧
      (record [("name", string), ("score", optional float)]).check
          (.object [("score", .real (.zero true)), ("name", .string "ada")]) =
        (record [("name", string), ("score", optional float)]).check
          (.object [("name", .string "ada"), ("score", .real (.zero false))]) ∧
      (record [("name", string), ("score", optional float)]).check
          (.object [("name", .string "ada"), ("score", .real (.zero false))]) =
        (record [("name", string), ("score", optional float)]).check
          (.object [("name", .string "ada"), ("age", .integer 36), ("score", .real (.zero false))]) ∧
      (record [("name", string), ("score", optional float)]).check
          (.object [("name", .string "ada"), ("age", .integer 36), ("score", .real (.zero false))]) = true := by
  have hsame : (Value.object [("score", .real (.zero true)), ("name", .string "ada")]).same
      (.object [("name", .string "ada"), ("score", .real (.zero false))]) = true := by decide
  have h := check_respects_equality (record [("name", string), ("score", optional float)])
  refine ⟨hsame, h.1 _ _ (by decide) (by decide) hsame, ?_, by decide⟩
  apply h.2 (by decide)
  exact .object (.keep _ (.same _) (.add _ (by decide) (.keep _ (.same _) .nil)))

/-- A dictionary takes every entry into account. -/
example : (dict string integer).check (.object [("a", .integer 1)]) = true ∧
    (dict string integer).check (.object [("a", .integer 1), ("b", .null)]) = false := by decide

end ValueType
end StageGraph
