import StageGraph.Proofs.Value.Lookups
import StageGraph.ValueType.Descriptor

/-! Types and their JSON forms.

A type is read off a form of it (`Form`) whatever else stands in the objects that tell of the type and its parts, and
in whatever order (`ofValue?_of_form`); the form that is written is one of them (`form_toValue`), and so is every
value that equals one (`form_of_same`). So what was written reads back, and no two types are written alike
(`descriptor_round_trips`). Records keep their fields in the order of the names (`Ordered`), as does every type that
is read (`ordered_of_read?`). -/
namespace StageGraph.ValueType

mutual

/-- The record types inside a type have each name once, in order. -/
def Ordered : ValueType → Prop
  | array item => item.Ordered
  | dict key value => key.Ordered ∧ value.Ordered
  | tuple items => OrderedAll items
  | union options => OrderedAll options
  | object fields => Table.Sorted fields ∧ OrderedFields fields
  | _ => True

def OrderedAll : List ValueType → Prop
  | [] => True
  | t :: rest => t.Ordered ∧ OrderedAll rest

def OrderedFields : List (String × ValueType) → Prop
  | [] => True
  | (_, t) :: rest => t.Ordered ∧ OrderedFields rest

end

/-- The fields name a kind, and have its parts under their names; there may be others, in any order. -/
structure Tells (kind : String) (parts : List Value) (fields : Fields) : Prop where
  tag : Fields.get? fields "type" = some (.string kind)
  parts : List.Forall₂ (fun name part => Fields.get? fields name = some part) (partNames kind) parts

/-- A value is a JSON form of a type, with or without further fields in the objects that tell of the type and of
the types inside. The table of a record has the declared names alone. -/
inductive Form : ValueType → Value → Prop
  | string {fields : Fields} (h : Tells "string" [] fields) : Form string (.object fields)
  | integer {fields : Fields} (h : Tells "integer" [] fields) : Form integer (.object fields)
  | float {fields : Fields} (h : Tells "float" [] fields) : Form float (.object fields)
  | boolean {fields : Fields} (h : Tells "boolean" [] fields) : Form boolean (.object fields)
  | any {fields : Fields} (h : Tells "any" [] fields) : Form any (.object fields)
  | none {fields : Fields} (h : Tells "none" [] fields) : Form none (.object fields)
  | array {item : ValueType} {v : Value} {fields : Fields} (hitem : Form item v) (h : Tells "array" [v] fields) :
    Form (array item) (.object fields)
  | dict {key value : ValueType} {v w : Value} {fields : Fields} (hkey : Form key v) (hvalue : Form value w)
    (h : Tells "dict" [v, w] fields) : Form (dict key value) (.object fields)
  | tuple {items : List ValueType} {vs : List Value} {fields : Fields} (hitems : List.Forall₂ Form items vs)
    (h : Tells "tuple" [.array vs] fields) : Form (tuple items) (.object fields)
  | union {options : List ValueType} {vs : List Value} {fields : Fields} (hoptions : List.Forall₂ Form options vs)
    (h : Tells "union" [.array vs] fields) : Form (union options) (.object fields)
  | object {ts : List (String × ValueType)} {given fields : Fields} (hkeys : (given.map Prod.fst).Nodup)
    (hgiven : ∀ name, Option.Rel Form (List.lookup name ts) (Fields.get? given name))
    (h : Tells "object" [.object given] fields) : Form (object ts) (.object fields)

/-- Fields of other names may be added in between. -/
theorem Tells.interspersed {kind : String} {parts : List Value} {fields others : Fields} (h : Tells kind parts fields)
    (hadded : Fields.Interspersed ("type" :: partNames kind) Eq fields others) : Tells kind parts others := by
  have hkeep : ∀ name ∈ "type" :: partNames kind, ∀ v, Fields.get? fields name = some v →
      Fields.get? others name = some v := by
    intro name hname v hv
    have hrel := hadded.get?_rel hname
    rw [hv] at hrel
    generalize Fields.get? others name = found at hrel ⊢
    cases hrel with
    | some heq => rw [heq]
  obtain ⟨htag, hparts⟩ := h
  apply Tells.mk (hkeep _ List.mem_cons_self _ htag)
  have hpart := fun name hname v => hkeep name (List.mem_cons_of_mem "type" hname) v
  clear hkeep hadded
  revert hparts hpart
  generalize partNames kind = names
  intro hparts hpart
  induction hparts with
  | nil => exact .nil
  | cons head _ ih =>
    rw [List.forall_mem_cons] at hpart
    exact .cons (hpart.1 _ head) (ih hpart.2)

/-! ### Nesting -/

theorem nesting_le_of_mem_items {items : List Value} {v : Value} (hv : v ∈ items) : nesting v ≤ nestingItems items := by
  induction items with
  | nil => cases hv
  | cons w rest ih =>
    simp only [nestingItems]
    rcases List.mem_cons.mp hv with rfl | hv
    · omega
    · have := ih hv
      omega

theorem nesting_items {items : List Value} {depth : Nat} (h : nesting (.array items) < depth) :
    ∀ v ∈ items, nesting v < depth := by
  intro v hv
  have := nesting_le_of_mem_items hv
  simp only [nesting] at h
  omega

theorem nesting_le_of_get? {fields : Fields} {name : String} {v : Value} (h : Fields.get? fields name = some v) :
    nesting v ≤ nestingFields fields := by
  induction fields with
  | nil => cases h
  | cons f rest ih =>
    obtain ⟨key, w⟩ := f
    rw [Fields.get?_cons] at h
    simp only [nestingFields]
    split at h
    · cases h
      omega
    · have := ih h
      omega

/-! ### Reading -/

theorem mapM_eq_some_iff {α β : Type} {f : α → Option β} {l : List α} {l' : List β} :
    l.mapM f = some l' ↔ List.Forall₂ (fun a b => f a = some b) l l' := by
  induction l generalizing l' with
  | nil => cases l' <;> simp
  | cons a rest ih =>
    rw [List.mapM_cons, List.forall₂_cons_left_iff]
    simp only [Option.bind_eq_bind, Option.bind_eq_some_iff, ih]
    constructor
    · rintro ⟨b, hb, bs, hbs, h⟩
      cases h
      exact ⟨b, bs, hb, hbs, rfl⟩
    · rintro ⟨b, bs, hb, hbs, rfl⟩
      exact ⟨b, hb, bs, hbs, rfl⟩

theorem nesting_le_of_forall₂ {names : List String} {parts : List Value} {fields : Fields}
    (h : List.Forall₂ (fun name part => Fields.get? fields name = some part) names parts) :
    ∀ v ∈ parts, nesting v ≤ nestingFields fields := by
  induction h with
  | nil => simp
  | cons head _ ih => exact List.forall_mem_cons.mpr ⟨nesting_le_of_get? head, ih⟩

/-- Reading goes on with the parts, which nest less deep. -/
theorem Tells.read? {kind : String} {parts : List Value} {fields : Fields} (h : Tells kind parts fields)
    (hkind : kind ∈ kindNames) {depth : Nat} (hdepth : nesting (.object fields) < depth) (inner : Bool) :
    ∃ d, (∀ v ∈ parts, nesting v < d) ∧
      ValueType.read? depth inner (.object fields) = build? (ValueType.read? d true) kind parts := by
  obtain ⟨d, rfl⟩ : ∃ d, depth = d + 1 := ⟨depth - 1, by omega⟩
  refine ⟨d, fun v hv => ?_, ?_⟩
  · have hle := nesting_le_of_forall₂ h.parts v hv
    simp only [nesting] at hdepth
    omega
  · have hparts : parts? inner (.object fields) = some (kind, parts) := by
      simp [parts?, h.tag, ValueType.kind?, hkind, mapM_eq_some_iff.mpr h.parts]
    simp [ValueType.read?, hparts]

/-- A table of types is read if each entry is. -/
theorem record_of_answers {read : Value → Option ValueType} {ts : List (String × ValueType)} {given : Fields}
    (hs : Table.Sorted ts) (hkeys : (given.map Prod.fst).Nodup)
    (hread : ∀ name, Option.Rel (fun t v => read v = some t) (List.lookup name ts) (Fields.get? given name)) :
    (given.mapM fun field => (read field.2).map fun t => (field.1, t)).map record = some (object ts) := by
  let entries := given.map fun field => (field.1, (read field.2).getD any)
  have hentries : (given.mapM fun field => (read field.2).map fun t => (field.1, t)) = some entries := by
    apply mapM_eq_some_iff.mpr
    apply List.forall₂_map_right_iff.mpr
    apply List.forall₂_same.mpr
    intro field hfield
    have hfound := hread field.1
    rw [show Fields.get? given field.1 = some field.2 from (Table.mem_iff_lookup hkeys).mp hfield] at hfound
    generalize List.lookup field.1 ts = found at hfound
    cases hfound with
    | some h => simp [h]
  have hnodup : (entries.map Prod.fst).Nodup := by simpa [entries, Function.comp_def] using hkeys
  have htable : Table.ofList entries = ts := by
    apply (Table.sorted_ofList entries).ext hs
    intro name
    have hlookup : List.lookup name entries = (Fields.get? given name).map fun v => (read v).getD any :=
      Table.lookup_map (fun v => (read v).getD any) given name
    have hfound := hread name
    rw [Table.lookup_ofList, Table.lookup_perm (by simpa using hnodup) (List.reverse_perm entries), hlookup]
    generalize List.lookup name ts = found, Fields.get? given name = found' at hfound ⊢
    cases hfound with
    | none => rfl
    | some h => simp [h]
  rw [hentries, Option.map_some, record, htable]

mutual

/-- A form of a type reads as the type. -/
theorem read?_of_form : ∀ (t : ValueType) {v : Value} {depth : Nat} (inner : Bool), t.Ordered → Form t v →
    nesting v < depth → read? depth inner v = some t
  | string, _, _, inner, _, .string h, hdepth | integer, _, _, inner, _, .integer h, hdepth
  | float, _, _, inner, _, .float h, hdepth | boolean, _, _, inner, _, .boolean h, hdepth
  | any, _, _, inner, _, .any h, hdepth | none, _, _, inner, _, .none h, hdepth => by
    obtain ⟨d, -, hread⟩ := h.read? (by decide) hdepth inner
    exact hread
  | array item, _, _, inner, ho, .array hitem h, hdepth => by
    obtain ⟨d, hd, hread⟩ := h.read? (by decide) hdepth inner
    rw [hread, build?, read?_of_form item true ho hitem (hd _ (by simp))]
    rfl
  | dict key value, _, _, inner, ho, .dict hkey hvalue h, hdepth => by
    obtain ⟨d, hd, hread⟩ := h.read? (by decide) hdepth inner
    rw [hread, build?, read?_of_form key true ho.1 hkey (hd _ (by simp)),
      read?_of_form value true ho.2 hvalue (hd _ (by simp))]
    rfl
  | tuple items, _, _, inner, ho, .tuple hitems h, hdepth => by
    obtain ⟨d, hd, hread⟩ := h.read? (by decide) hdepth inner
    rw [hread, build?, mapM_eq_some_iff.mpr (read?_of_forms items ho hitems (nesting_items (hd _ (by simp))))]
    rfl
  | union options, _, _, inner, ho, .union hoptions h, hdepth => by
    obtain ⟨d, hd, hread⟩ := h.read? (by decide) hdepth inner
    rw [hread, build?, mapM_eq_some_iff.mpr (read?_of_forms options ho hoptions (nesting_items (hd _ (by simp))))]
    rfl
  | object ts, _, _, inner, ho, @Form.object _ given _ hkeys hgiven h, hdepth => by
    obtain ⟨d, hd, hread⟩ := h.read? (by decide) hdepth inner
    rw [hread]
    apply record_of_answers ho.1 hkeys
    intro name
    have hfound := hgiven name
    cases ht : List.lookup name ts <;> cases hv : Fields.get? given name <;> rw [ht, hv] at hfound <;> cases hfound
    · exact .none
    · next t v hform =>
      have hnest := hd (.object given) (by simp)
      have hle := nesting_le_of_get? hv
      simp only [nesting] at hnest
      apply Option.Rel.some
      apply read?_of_form_field ts ho.2 (name, t) ((Table.mem_iff_lookup ho.1.nodup).mpr ht) hform
      omega

theorem read?_of_forms : ∀ (ts : List ValueType) {vs : List Value} {depth : Nat}, OrderedAll ts →
    List.Forall₂ Form ts vs → (∀ v ∈ vs, nesting v < depth) →
    List.Forall₂ (fun v t => read? depth true v = some t) vs ts
  | [], _, _, _, .nil, _ => .nil
  | t :: rest, _, _, ho, .cons head tail, hdepth => by
    rw [List.forall_mem_cons] at hdepth
    exact .cons (read?_of_form t true ho.1 head hdepth.1) (read?_of_forms rest ho.2 tail hdepth.2)

theorem read?_of_form_field : ∀ (ts : List (String × ValueType)), OrderedFields ts → ∀ f ∈ ts, ∀ {v : Value}
    {depth : Nat}, Form f.2 v → nesting v < depth → read? depth true v = some f.2
  | [], _, f, hf => absurd hf List.not_mem_nil
  | (_, t) :: rest, ho, f, hf => by
    rcases List.mem_cons.mp hf with rfl | hf
    · exact read?_of_form t true ho.1
    · exact read?_of_form_field rest ho.2 f hf

end

theorem ofValue?_of_form {t : ValueType} {v : Value} (ho : t.Ordered) (h : Form t v) : ofValue? v = some t :=
  read?_of_form t false ho h (Nat.lt_succ_self _)

/-! ### Writing -/

theorem fieldsOf_eq_map : ∀ ts : List (String × ValueType), fieldsOf ts = ts.map fun f => (f.1, f.2.toValue)
  | [] => rfl
  | (name, t) :: rest => by rw [fieldsOf, fieldsOf_eq_map rest, List.map_cons]

theorem keys_fieldsOf (ts : List (String × ValueType)) : (fieldsOf ts).map Prod.fst = ts.map Prod.fst := by
  simp [fieldsOf_eq_map, Function.comp_def]

theorem get?_fieldsOf (ts : List (String × ValueType)) (name : String) :
    Fields.get? (fieldsOf ts) name = (List.lookup name ts).map toValue := by
  rw [fieldsOf_eq_map]
  exact Table.lookup_map toValue ts name

mutual

/-- The written form repeats no key. -/
theorem keyed_toValue : ∀ t : ValueType, t.Ordered → t.toValue.keyed = true
  | string, _ | integer, _ | float, _ | boolean, _ | any, _ | none, _ => by decide
  | array item, ho => by simp [toValue, Value.keyed, Value.keyedFields, keyed_toValue item ho]
  | dict key value, ho => by
    simp [toValue, Value.keyed, Value.keyedFields, keyed_toValue key ho.1, keyed_toValue value ho.2]
  | tuple items, ho | union items, ho => by
    simp [toValue, Value.keyed, Value.keyedFields, keyed_valuesOf items ho]
  | object ts, ho => by
    simp [toValue, Value.keyed, Value.keyedFields, keyed_fieldsOf ts ho.2, keys_fieldsOf, ho.1.nodup]

theorem keyed_valuesOf : ∀ ts : List ValueType, OrderedAll ts → Value.keyedItems (valuesOf ts) = true
  | [], _ => rfl
  | t :: rest, ho => by simp [valuesOf, Value.keyedItems, keyed_toValue t ho.1, keyed_valuesOf rest ho.2]

theorem keyed_fieldsOf : ∀ ts : List (String × ValueType), OrderedFields ts → Value.keyedFields (fieldsOf ts) = true
  | [], _ => rfl
  | (_, t) :: rest, ho => by simp [fieldsOf, Value.keyedFields, keyed_toValue t ho.1, keyed_fieldsOf rest ho.2]

end

/-! ### Equal forms -/

theorem partNames_cases (kind : String) :
    partNames kind = [] ∨ partNames kind = ["value_type"] ∨ partNames kind = ["key_type", "value_type"] := by
  unfold partNames
  split_ifs <;> simp

/-- What equals the object of a kind and its parts tells the same kind, and equal parts. -/
theorem tells_of_same (kind : String) (parts : List Value) (hparts : parts.length = (partNames kind).length) {v : Value}
    (h : Value.same (.object (("type", .string kind) :: (partNames kind).zip parts)) v = true) :
    ∃ fields others, v = .object fields ∧ Tells kind others fields ∧
      List.Forall₂ (fun w u => Value.same w u = true) parts others := by
  have hnodup : ((("type", Value.string kind) :: (partNames kind).zip parts).map Prod.fst).Nodup := by
    rw [List.map_cons, List.map_fst_zip (by omega)]
    rcases partNames_cases kind with hk | hk | hk <;> rw [hk] <;> simp
  obtain ⟨fields, rfl, hanswers⟩ := Value.answers_of_same hnodup h
  obtain ⟨tag, htag, hs⟩ := hanswers "type" (.string kind) rfl
  rw [Value.eq_string_of_same hs] at htag
  rcases partNames_cases kind with hk | hk | hk <;> rw [hk] at hparts hanswers
  · obtain rfl := List.length_eq_zero_iff.mp hparts
    exact ⟨fields, [], rfl, ⟨htag, by rw [hk]; exact .nil⟩, .nil⟩
  · obtain ⟨w, rfl⟩ := List.length_eq_one_iff.mp hparts
    obtain ⟨u, hu, hs⟩ := hanswers "value_type" w rfl
    exact ⟨fields, [u], rfl, ⟨htag, by rw [hk]; exact .cons hu .nil⟩, .cons hs .nil⟩
  · obtain ⟨w, w', rfl⟩ := List.length_eq_two.mp hparts
    obtain ⟨u, hu, hs⟩ := hanswers "key_type" w rfl
    obtain ⟨u', hu', hs'⟩ := hanswers "value_type" w' rfl
    exact ⟨fields, [u, u'], rfl, ⟨htag, by rw [hk]; exact .cons hu (.cons hu' .nil)⟩, .cons hs (.cons hs' .nil)⟩

mutual

/-- What equals the written form is a form of the type. -/
theorem form_of_same : ∀ (t : ValueType) {v : Value}, t.Ordered → t.toValue.same v = true → Form t v
  | string, _, _, h | integer, _, _, h | float, _, _, h | boolean, _, _, h | any, _, _, h | none, _, _, h => by
    obtain ⟨fields, _, rfl, htells, _ | _⟩ := tells_of_same _ [] rfl h
    constructor
    exact htells
  | array item, _, ho, h => by
    obtain ⟨fields, _, rfl, htells, _ | ⟨hs, _ | _⟩⟩ := tells_of_same "array" [item.toValue] rfl h
    exact .array (form_of_same item ho hs) htells
  | dict key value, _, ho, h => by
    obtain ⟨fields, _, rfl, htells, _ | ⟨hs, _ | ⟨hs', _ | _⟩⟩⟩ :=
      tells_of_same "dict" [key.toValue, value.toValue] rfl h
    exact .dict (form_of_same key ho.1 hs) (form_of_same value ho.2 hs') htells
  | tuple items, _, ho, h => by
    obtain ⟨fields, _, rfl, htells, _ | ⟨hs, _ | _⟩⟩ := tells_of_same "tuple" [.array (valuesOf items)] rfl h
    obtain ⟨vs, rfl, hvs⟩ := Value.items_of_same hs
    exact .tuple (forms_of_same items ho hvs) htells
  | union options, _, ho, h => by
    obtain ⟨fields, _, rfl, htells, _ | ⟨hs, _ | _⟩⟩ := tells_of_same "union" [.array (valuesOf options)] rfl h
    obtain ⟨vs, rfl, hvs⟩ := Value.items_of_same hs
    exact .union (forms_of_same options ho hvs) htells
  | object ts, _, ho, h => by
    obtain ⟨fields, _, rfl, htells, _ | ⟨hs, _ | _⟩⟩ := tells_of_same "object" [.object (fieldsOf ts)] rfl h
    have hd : ((fieldsOf ts).map Prod.fst).Nodup := by simpa only [keys_fieldsOf] using ho.1.nodup
    obtain ⟨given, rfl, -⟩ := Value.answers_of_same hd hs
    have hkeys := (Value.keys_perm_of_same hd hs).nodup_iff.mp hd
    refine .object hkeys (fun name => ?_) htells
    have hrel := Value.get?_of_same hd hs name
    rw [get?_fieldsOf] at hrel
    cases ht : List.lookup name ts <;> cases hv : Fields.get? given name <;> rw [ht, hv] at hrel <;> cases hrel
    · exact .none
    · next t v hsame =>
      exact .some (form_field_of_same ts ho.2 (name, t) ((Table.mem_iff_lookup ho.1.nodup).mpr ht) hsame)

theorem forms_of_same : ∀ (ts : List ValueType) {vs : List Value}, OrderedAll ts →
    Value.sameItems (valuesOf ts) vs = true → List.Forall₂ Form ts vs
  | [], [], _, _ => .nil
  | t :: rest, v :: vs, ho, h => by
    simp only [valuesOf, Value.sameItems, Bool.and_eq_true] at h
    exact .cons (form_of_same t ho.1 h.1) (forms_of_same rest ho.2 h.2)

theorem form_field_of_same : ∀ (ts : List (String × ValueType)), OrderedFields ts → ∀ f ∈ ts, ∀ {v : Value},
    f.2.toValue.same v = true → Form f.2 v
  | [], _, f, hf => absurd hf List.not_mem_nil
  | (_, t) :: rest, ho, f, hf => by
    rcases List.mem_cons.mp hf with rfl | hf
    · exact form_of_same t ho.1
    · exact form_field_of_same rest ho.2 f hf

end

/-! ### What is read -/

theorem orderedFields_iff {ts : List (String × ValueType)} : OrderedFields ts ↔ ∀ f ∈ ts, f.2.Ordered := by
  induction ts with
  | nil => simp [OrderedFields]
  | cons f rest ih =>
    rw [List.forall_mem_cons, ← ih]
    rfl

theorem ordered_record {ts : List (String × ValueType)} (h : ∀ f ∈ ts, f.2.Ordered) : (record ts).Ordered := by
  apply And.intro (Table.sorted_ofList ts)
  apply orderedFields_iff.mpr
  exact fun f hf => h f (Table.mem_of_mem_ofList hf)

theorem orderedAll_iff {ts : List ValueType} : OrderedAll ts ↔ ∀ t ∈ ts, t.Ordered := by
  induction ts with
  | nil => simp [OrderedAll]
  | cons t rest ih =>
    rw [List.forall_mem_cons, ← ih]
    rfl

theorem forall_of_mapM {α β : Type} {P : β → Prop} {f : α → Option β} (hf : ∀ a b, f a = some b → P b) {l : List α}
    {l' : List β} (h : l.mapM f = some l') : ∀ b ∈ l', P b := by
  have hall := mapM_eq_some_iff.mp h
  clear h
  induction hall with
  | nil => simp
  | cons head _ ih => exact List.forall_mem_cons.mpr ⟨hf _ _ head, ih⟩

theorem ordered_of_build? {read : Value → Option ValueType} (hread : ∀ v t, read v = some t → t.Ordered)
    {kind : String} {parts : List Value} {t : ValueType} (h : build? read kind parts = some t) : t.Ordered := by
  unfold build? at h
  split at h
  iterate 6
    · cases h
      trivial
  · obtain ⟨item, hitem, rfl⟩ := Option.map_eq_some_iff.mp h
    exact (hread _ _ hitem :)
  · obtain ⟨key, hkey, h⟩ := Option.bind_eq_some_iff.mp h
    obtain ⟨value, hvalue, rfl⟩ := Option.map_eq_some_iff.mp h
    exact ⟨hread _ _ hkey, hread _ _ hvalue⟩
  · obtain ⟨items, hitems, rfl⟩ := Option.map_eq_some_iff.mp h
    exact orderedAll_iff.mpr (forall_of_mapM hread hitems)
  · obtain ⟨options, hoptions, rfl⟩ := Option.map_eq_some_iff.mp h
    exact orderedAll_iff.mpr (forall_of_mapM hread hoptions)
  · obtain ⟨ts, hts, rfl⟩ := Option.map_eq_some_iff.mp h
    apply ordered_record
    refine forall_of_mapM (fun field f hf => ?_) hts
    obtain ⟨t, ht, rfl⟩ := Option.map_eq_some_iff.mp hf
    exact hread _ _ ht
  · cases h

/-- The records of a type that is read are in order. -/
theorem ordered_of_read? {depth : Nat} : ∀ {inner : Bool} {v : Value} {t : ValueType},
    read? depth inner v = some t → t.Ordered := by
  induction depth with
  | zero => intro inner v t h; cases h
  | succ depth ih =>
    intro inner v t h
    obtain ⟨⟨kind, parts⟩, -, h⟩ := Option.bind_eq_some_iff.mp h
    exact ordered_of_build? (fun v t => ih) h

/-- **Types read back as they were written.** The JSON form of a type reads as the type, and so does every form of it
with further fields in the objects that tell of the type or of a type inside, even if these are in another order; two
types whose JSON forms are equal values are the same. That goes for all types with their records in order, as are all
the types that are read. -/
theorem descriptors_round_trip :
    (∀ t : ValueType, t.Ordered → ofValue? t.toValue = some t ∧ (∀ v, Form t v → ofValue? v = some t) ∧
      ∀ u : ValueType, u.Ordered → t.toValue.same u.toValue = true → t = u) ∧
    ∀ v t, ofValue? v = some t → t.Ordered := by
  refine ⟨fun t ho => ⟨?_, fun v h => ofValue?_of_form ho h, fun u hu h => ?_⟩, fun v t h => ordered_of_read? h⟩
  · exact ofValue?_of_form ho (form_of_same t ho (Value.same_refl _ (keyed_toValue t ho)))
  · have hforward := ofValue?_of_form ho (form_of_same t ho h)
    have hback := ofValue?_of_form hu (form_of_same u hu (Value.same_refl _ (keyed_toValue u hu)))
    exact Option.some.inj (hforward.symm.trans hback)

/-- A record whose fields are called as the parts of a type are, with a remark beside its kind. -/
theorem field_names_are_no_keywords :
    (object [("type", tuple []), ("value_type", any)]).Ordered ∧
      ofValue? (object [("type", tuple []), ("value_type", any)]).toValue =
        some (object [("type", tuple []), ("value_type", any)]) ∧
      ofValue? (.object [("note", .null), ("type", .string "object"), ("value_type", .object
          [("type", .object [("type", .string "tuple"), ("optional", .boolean true), ("value_type", .array [])]),
            ("value_type", .object [("type", .string "any"), ("value_type", .null)])])]) =
        some (object [("type", tuple []), ("value_type", any)]) := by
  have ho : (object [("type", tuple []), ("value_type", any)]).Ordered :=
    ⟨by unfold Table.Sorted; decide, trivial, trivial, trivial⟩
  obtain ⟨hwritten, hforms, -⟩ := descriptors_round_trip.1 _ ho
  refine ⟨ho, hwritten, hforms _ ?_⟩
  have htuple : Form (tuple []) (.object [("type", .string "tuple"), ("optional", .boolean true),
      ("value_type", .array [])]) := by
    have htells : Tells "tuple" [.array []] [("type", .string "tuple"), ("value_type", .array [])] :=
      ⟨rfl, .cons rfl .nil⟩
    exact .tuple .nil (htells.interspersed (.keep _ rfl (.add _ (by decide) (.keep _ rfl .nil))))
  have hany : Form any (.object [("type", .string "any"), ("value_type", .null)]) := by
    have htells : Tells "any" [] [("type", .string "any")] := ⟨rfl, .nil⟩
    exact .any (htells.interspersed (.keep _ rfl (.add _ (by decide) .nil)))
  refine .object (by decide) (fun name => ?_) ⟨rfl, .cons rfl .nil⟩
  simp only [Fields.get?, Table.lookup_cons]
  split_ifs
  · exact .some htuple
  · exact .some hany
  · exact .none

end StageGraph.ValueType
