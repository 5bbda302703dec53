import Mathlib.Data.List.Nodup
import StageGraph.Value

/-! Values by name.

Fields are built by entering one after the other. Of the values of a repeated key the last one counts (`get?_ofList`), and
the key stands where it stood first; fields without a repeated key stay as they are (`ofList_eq`). -/
namespace StageGraph.Fields

theorem get?_cons (key : String) (v : Value) (rest : Fields) (name : String) :
    get? ((key, v) :: rest) name = if key = name then some v else get? rest name := by
  unfold get?
  rw [List.lookup_cons]
  by_cases h : key = name
  · simp [h]
  · simp [h, beq_false_of_ne (Ne.symm h)]

/-- What a look-up finds is one of the fields. -/
theorem mem_of_get? {fields : Fields} {name : String} {v : Value} (h : get? fields name = some v) : (name, v) ∈ fields := by
  obtain ⟨front, back, rfl, -⟩ := List.lookup_eq_some_iff.mp h
  simp

theorem get?_insert (fields : Fields) (key name : String) (v : Value) :
    get? (insert fields key v) name = if key = name then some v else get? fields name := by
  induction fields with
  | nil => exact get?_cons key v [] name
  | cons field rest ih =>
    obtain ⟨k, w⟩ := field
    unfold insert
    split
    · next hk =>
      subst hk
      rw [get?_cons, get?_cons]
      split <;> rfl
    · next hk =>
      rw [get?_cons, get?_cons, ih]
      split
      · next hname => rw [if_neg fun heq => hk (hname.trans heq.symm)]
      · rfl

theorem keys_insert (fields : Fields) (key : String) (v : Value) : (insert fields key v).map Prod.fst =
    if key ∈ fields.map Prod.fst then fields.map Prod.fst else fields.map Prod.fst ++ [key] := by
  induction fields with
  | nil => rfl
  | cons field rest ih =>
    obtain ⟨k, w⟩ := field
    unfold insert
    split
    · next hk =>
      subst hk
      exact (if_pos (List.mem_cons_self)).symm
    · next hk =>
      rw [List.map_cons, List.map_cons, ih]
      by_cases hmem : key ∈ rest.map Prod.fst
      · rw [if_pos hmem, if_pos (List.mem_cons_of_mem _ hmem)]
      · have hnew : key ∉ k :: rest.map Prod.fst := fun h => (List.mem_cons.mp h).elim (Ne.symm hk) hmem
        rw [if_neg hmem, if_neg hnew]
        rfl

theorem keys_foldl_insert (entries : List (String × Value)) : ∀ fields : Fields, (fields.map Prod.fst).Nodup →
    ((entries.foldl (fun fields entry => insert fields entry.1 entry.2) fields).map Prod.fst).Nodup ∧
      ∀ name, name ∈ (entries.foldl (fun fields entry => insert fields entry.1 entry.2) fields).map Prod.fst ↔
        name ∈ fields.map Prod.fst ∨ name ∈ entries.map Prod.fst := by
  induction entries with
  | nil => exact fun fields h => ⟨h, fun name => by simp⟩
  | cons entry rest ih =>
    intro fields h
    have hnodup : ((insert fields entry.1 entry.2).map Prod.fst).Nodup := by
      rw [keys_insert]
      split
      · exact h
      · next hnew =>
        exact List.nodup_append.mpr ⟨h, List.nodup_singleton _, fun a ha b hb hab =>
          hnew (by rw [← List.mem_singleton.mp hb, ← hab]; exact ha)⟩
    obtain ⟨hrest, hmem⟩ := ih _ hnodup
    refine ⟨hrest, fun name => (hmem name).trans ?_⟩
    have hinserted : name ∈ (insert fields entry.1 entry.2).map Prod.fst ↔
        name ∈ fields.map Prod.fst ∨ name = entry.1 := by
      rw [keys_insert]
      split
      · next hold => exact ⟨.inl, fun hn => hn.elim id fun heq => heq ▸ hold⟩
      · rw [List.mem_append, List.mem_singleton]
    rw [hinserted, List.map_cons, List.mem_cons, or_assoc]

theorem ofList_nodup (entries : List (String × Value)) : ((ofList entries).map Prod.fst).Nodup :=
  (keys_foldl_insert entries [] List.nodup_nil).1

theorem mem_ofList {entries : List (String × Value)} {name : String} :
    name ∈ (ofList entries).map Prod.fst ↔ name ∈ entries.map Prod.fst := by
  refine ((keys_foldl_insert entries [] List.nodup_nil).2 name).trans ?_
  simp

/-- Of the values of a repeated key the last one counts. -/
theorem get?_ofList (entries : List (String × Value)) (name : String) :
    get? (ofList entries) name = List.lookup name entries.reverse := by
  have hfold (entries : List (String × Value)) : ∀ fields : Fields,
      get? (entries.foldl (fun fields entry => insert fields entry.1 entry.2) fields) name =
        (List.lookup name entries.reverse).or (get? fields name) := by
    induction entries with
    | nil => exact fun fields => rfl
    | cons entry rest ih =>
      intro fields
      have hlast : (List.lookup name [entry]).or (get? fields name) =
          if entry.1 = name then some entry.2 else get? fields name := by
        show (get? [(entry.1, entry.2)] name).or _ = _
        rw [get?_cons]
        split <;> rfl
      rw [List.foldl_cons, ih, get?_insert, List.reverse_cons, List.lookup_append, Option.or_assoc, hlast]
  exact (hfold entries []).trans (Option.or_none)

theorem get?_isSome {fields : Fields} {name : String} : (get? fields name).isSome ↔ name ∈ fields.map Prod.fst := by
  induction fields with
  | nil => simp [get?]
  | cons field rest ih =>
    rw [get?_cons, List.map_cons, List.mem_cons]
    split
    · next h => simp [h]
    · next h => rw [ih, or_iff_right (Ne.symm h)]

theorem get?_eq_none {fields : Fields} {name : String} : get? fields name = none ↔ name ∉ fields.map Prod.fst := by
  rw [← get?_isSome, Option.not_isSome_iff_eq_none]

theorem get?_append (fields more : Fields) (name : String) :
    get? (fields ++ more) name = (get? fields name).or (get? more name) :=
  List.lookup_append

/-- A field that is added at the end is found if there is none of its name before. -/
theorem get?_concat_self {fields : Fields} {key : String} (h : get? fields key = none) (v : Value) :
    get? (fields ++ [(key, v)]) key = some v := by
  rw [get?_append, h, get?_cons, if_pos rfl]
  rfl

/-- It does not matter for other names. -/
theorem get?_concat_of_ne (fields : Fields) {key name : String} (h : key ≠ name) (v : Value) :
    get? (fields ++ [(key, v)]) name = get? fields name := by
  rw [get?_append, get?_cons, if_neg h]
  exact Option.or_none

/-- Of the fields under some names, a look-up sees those. -/
theorem get?_filter (keep : String → Bool) (fields : Fields) (name : String) :
    get? (fields.filter fun f => keep f.1) name = if keep name then get? fields name else none := by
  induction fields with
  | nil => simp [get?]
  | cons field rest ih =>
    obtain ⟨k, v⟩ := field
    rw [List.filter_cons, get?_cons]
    by_cases hname : k = name
    · subst hname
      by_cases hk : keep k = true
      · rw [if_pos hk, get?_cons, if_pos hk, if_pos rfl, if_pos rfl]
      · rw [if_neg hk, ih, if_neg hk, if_neg hk]
    · rw [if_neg hname, ← ih]
      split
      · rw [get?_cons, if_neg hname]
      · rfl

/-! ### No repeated key -/

theorem insert_of_notMem {fields : Fields} {key : String} (h : key ∉ fields.map Prod.fst) (v : Value) :
    insert fields key v = fields ++ [(key, v)] := by
  induction fields with
  | nil => rfl
  | cons field rest ih =>
    obtain ⟨k, w⟩ := field
    rw [List.map_cons, List.mem_cons, not_or] at h
    rw [insert, if_neg (fun hk => h.1 hk.symm), ih h.2]
    rfl

theorem foldl_insert {entries : Fields} : ∀ {fields : Fields}, ((fields ++ entries).map Prod.fst).Nodup →
    entries.foldl (fun fields entry => insert fields entry.1 entry.2) fields = fields ++ entries := by
  induction entries with
  | nil =>
    intro fields _
    exact (List.append_nil fields).symm
  | cons entry rest ih =>
    intro fields h
    have hnew : entry.1 ∉ fields.map Prod.fst := by
      intro hmem
      rw [List.map_append, List.map_cons] at h
      exact (List.nodup_append.mp h).2.2 _ hmem _ (List.mem_cons_self) rfl
    rw [List.foldl_cons, insert_of_notMem hnew, ih (by simpa using h)]
    simp

/-- Fields without a repeated key stay as they are. -/
theorem ofList_eq {entries : Fields} (h : (entries.map Prod.fst).Nodup) : ofList entries = entries :=
  foldl_insert h

/-- So do values that are paired with distinct names. -/
theorem ofList_zip {names : List String} {values : List Value} (hnames : names.Nodup)
    (hlength : values.length = names.length) : ofList (names.zip values) = names.zip values :=
  ofList_eq (by rwa [List.map_fst_zip (Nat.le_of_eq hlength.symm)])

end StageGraph.Fields
