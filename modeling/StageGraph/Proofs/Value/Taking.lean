import StageGraph.Proofs.Table.Sorted
import StageGraph.Proofs.Value.Fields

/-! Fields that are taken out.

A field that is taken out leaves a hole which the last field fills, so those that are left change their order and
nothing else (`take_perm`). Where no key is repeated, it is known which field moves (`take_swaps`), what is left are the
fields under other names (`take_filter`), and look-ups under those cannot tell (`get?_take`). Names that are taken out one
after the other find what they would have found before anything was taken (`takeEach_eq`). -/
namespace StageGraph.Fields

/-! ### Fields under some names -/

theorem kept_nodup {fields left : Fields} {keep : String × Value → Bool} (hd : (fields.map Prod.fst).Nodup)
    (h : left.Perm (fields.filter keep)) : (left.map Prod.fst).Nodup :=
  (h.map Prod.fst).nodup_iff.mpr (hd.sublist (List.filter_sublist.map Prod.fst))

/-- Whatever their order, they are found as in the whole, and there are no others. -/
theorem get?_kept {fields left : Fields} (keep : String → Bool) (hd : (fields.map Prod.fst).Nodup)
    (h : left.Perm (fields.filter fun f => keep f.1)) (name : String) :
    get? left name = if keep name then get? fields name else none :=
  (Table.lookup_perm (kept_nodup hd h) h name).trans (get?_filter keep fields name)

/-! ### Taking a field -/

theorem closeGap_perm (rest : Fields) : (closeGap rest).Perm rest := by
  unfold closeGap
  cases hlast : rest.getLast? with
  | none =>
    rw [List.getLast?_eq_none_iff.mp hlast]
  | some last =>
    obtain ⟨init, rfl⟩ := List.getLast?_eq_some_iff.mp hlast
    simp only [List.dropLast_concat]
    exact (List.perm_append_singleton last init).symm

theorem take_fst (fields : Fields) (key : String) : (take fields key).1 = get? fields key := by
  induction fields with
  | nil => rfl
  | cons field rest ih =>
    obtain ⟨k, v⟩ := field
    rw [get?_cons, ← ih, take]
    split <;> rfl

/-- Who looks for what is not there leaves the fields alone. -/
theorem take_absent {fields : Fields} {key : String} (h : get? fields key = none) : take fields key = (none, fields) := by
  induction fields with
  | nil => rfl
  | cons field rest ih =>
    obtain ⟨k, v⟩ := field
    rw [get?_cons] at h
    rw [take]
    split
    · next hk =>
      rw [if_pos hk] at h
      cases h
    · next hk =>
      rw [if_neg hk] at h
      rw [ih h]

/-- Only the order of what is left changes. -/
theorem take_perm {fields : Fields} {key : String} {v : Value} (h : get? fields key = some v) :
    ((key, v) :: (take fields key).2).Perm fields := by
  induction fields with
  | nil => cases h
  | cons field rest ih =>
    obtain ⟨k, w⟩ := field
    rw [get?_cons] at h
    rw [take]
    split
    · next hk =>
      rw [if_pos hk] at h
      cases h
      rw [hk]
      exact (closeGap_perm rest).cons _
    · next hk =>
      rw [if_neg hk] at h
      exact (List.Perm.swap _ _ _).trans ((ih h).cons _)

theorem filter_ne_self {fields : Fields} {key : String} (h : key ∉ fields.map Prod.fst) :
    fields.filter (fun f => f.1 ≠ key) = fields := by
  refine List.filter_eq_self.mpr fun f hf => decide_eq_true ?_
  rintro rfl
  exact h (List.mem_map_of_mem hf)

/-- What is left are the fields under other names. -/
theorem take_filter {fields : Fields} (hd : (fields.map Prod.fst).Nodup) (key : String) :
    (take fields key).2.Perm (fields.filter fun f => f.1 ≠ key) := by
  cases h : get? fields key with
  | none => rw [take_absent h, filter_ne_self (get?_eq_none.mp h)]
  | some v =>
    have hkeys := ((take_perm h).map Prod.fst).nodup_iff.mpr hd
    have hperm := (take_perm h).filter fun f => f.1 ≠ key
    rwa [List.filter_cons_of_neg (by simp), filter_ne_self (List.nodup_cons.mp hkeys).1] at hperm

theorem take_nodup {fields : Fields} (hd : (fields.map Prod.fst).Nodup) (key : String) :
    ((take fields key).2.map Prod.fst).Nodup :=
  kept_nodup hd (take_filter hd key)

/-- Under the name that was taken nothing is found any more, and under another one the same as before. -/
theorem get?_take {fields : Fields} (hd : (fields.map Prod.fst).Nodup) (key name : String) :
    get? (take fields key).2 name = if name = key then none else get? fields name := by
  rw [get?_kept (fun k => k ≠ key) hd (take_filter hd key)]
  by_cases hname : name = key <;> simp [hname]

/-- The last field moves into the place of the one that is taken out, and all others stay where they are. -/
theorem take_swaps {fields : Fields} (hd : (fields.map Prod.fst).Nodup) {i : Nat} {f last : String × Value}
    (hf : fields[i]? = some f) (hlast : fields.getLast? = some last) :
    (take fields f.1).2 = (fields.set i last).dropLast := by
  induction fields generalizing i with
  | nil => cases hf
  | cons field rest ih =>
    obtain ⟨k, v⟩ := field
    obtain ⟨hnew, hrest⟩ := List.nodup_cons.mp hd
    rw [take]
    cases i with
    | zero =>
      cases hf
      rw [if_pos rfl, List.set_cons_zero]
      show closeGap rest = _
      unfold closeGap
      cases hbehind : rest.getLast? with
      | none => rw [List.getLast?_eq_none_iff.mp hbehind, List.dropLast_singleton]
      | some l =>
        have hsome : rest ≠ [] := by
          rintro rfl
          cases hbehind
        rw [List.getLast?_cons, hbehind] at hlast
        cases hlast
        exact (List.dropLast_cons_of_ne_nil hsome).symm
    | succ i =>
      have hmem : f ∈ rest := List.mem_of_getElem? hf
      have hkey : k ≠ f.1 := by
        rintro rfl
        exact hnew (List.mem_map.mpr ⟨f, hmem, rfl⟩)
      have hsome : rest ≠ [] := List.ne_nil_of_mem hmem
      rw [List.getLast?_cons_of_ne_nil hsome] at hlast
      rw [if_neg hkey, List.set_cons_succ, List.dropLast_cons_of_ne_nil (by simpa using hsome), ← ih hrest hf hlast]

/-! ### Taking one after the other -/

/-- The values of the names, each taken out before the next one is looked for, or else what is missing with the first
name that is not there. -/
def takeEach {ε : Type} (missing : String → ε) : List String → Fields → Except ε (List Value)
  | [], _ => .ok []
  | name :: rest, fields =>
    match take fields name with
    | (some v, left) => (takeEach missing rest left).map (v :: ·)
    | (none, _) => .error (missing name)

/-- What is left at any point agrees with the whole on the names to come. -/
theorem takeEach_agrees {ε : Type} (missing : String → ε) {whole : Fields} {names : List String}
    (hnames : names.Nodup) : ∀ {fields : Fields}, (fields.map Prod.fst).Nodup →
    (∀ name ∈ names, get? fields name = get? whole name) → takeEach missing names fields = names.mapM fun name =>
      match get? whole name with
      | some v => .ok v
      | none => .error (missing name) := by
  induction names with
  | nil => exact fun _ _ => rfl
  | cons name rest ih =>
    intro fields hd hagree
    obtain ⟨hnew, hrest⟩ := List.nodup_cons.mp hnames
    obtain ⟨hname, hothers⟩ := List.forall_mem_cons.mp hagree
    have hleft := take_nodup hd name
    have hagree' : ∀ other ∈ rest, get? (take fields name).2 other = get? whole other := by
      intro other hother
      have hne : other ≠ name := fun heq => hnew (heq ▸ hother)
      rw [get?_take hd, if_neg hne, hothers other hother]
    have hfound := take_fst fields name
    rw [List.mapM_cons, takeEach, ← hname]
    cases hget : get? fields name with
    | none =>
      rw [hget] at hfound
      split
      · next htake => simp [htake] at hfound
      · rfl
    | some v =>
      rw [hget] at hfound
      split
      · next w left htake =>
        simp only [htake] at hfound hleft hagree'
        cases hfound
        rw [ih hrest hleft hagree']
        generalize List.mapM (m := Except ε) _ rest = values
        cases values <;> rfl
      · next htake => simp [htake] at hfound

/-- Distinct names find what is there from the first. -/
theorem takeEach_eq {ε : Type} (missing : String → ε) {names : List String} (hnames : names.Nodup) {fields : Fields}
    (hd : (fields.map Prod.fst).Nodup) : takeEach missing names fields = names.mapM fun name =>
      match get? fields name with
      | some v => .ok v
      | none => .error (missing name) :=
  takeEach_agrees missing hnames hd fun _ _ => rfl

end StageGraph.Fields
