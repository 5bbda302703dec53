import Mathlib.Data.List.Nodup
import Mathlib.Data.String.Basic
import StageGraph.Table

/-! Tables stay sorted, and the last entry counts.

Entering a value keeps the keys of a table strictly increasing (`Sorted.insert`), so no key is repeated and a
look-up finds whatever is there (`mem_iff_lookup`). Of the values that are entered under one key the last one is
found (`lookup_ofList`). What look-ups find says which table it is (`Sorted.ext`), so nothing of the history of a
table is left in it. -/
namespace StageGraph.Table

variable {α : Type}

/-- The keys strictly increase. -/
def Sorted (table : List (String × α)) : Prop := (table.map Prod.fst).Pairwise (· < ·)

/-! ### Look-ups -/

theorem lookup_cons (key name : String) (a : α) (rest : List (String × α)) :
    List.lookup name ((key, a) :: rest) = if name = key then some a else List.lookup name rest := by
  rw [List.lookup_cons]
  by_cases h : name = key
  · simp [h]
  · simp [h, beq_false_of_ne h]

theorem lookup_insert (key name : String) (a : α) (table : List (String × α)) :
    List.lookup name (insert key a table) = if name = key then some a else List.lookup name table := by
  induction table with
  | nil => exact lookup_cons key name a []
  | cons entry rest ih =>
    obtain ⟨k, b⟩ := entry
    unfold insert
    split
    · exact lookup_cons key name a _
    · split
      · next hk =>
        subst hk
        rw [lookup_cons, lookup_cons]
        split <;> rfl
      · next hk =>
        rw [lookup_cons, lookup_cons, ih]
        split
        · next hname => rw [if_neg fun heq => hk (heq.symm.trans hname)]
        · rfl

theorem lookup_foldl_insert (entries : List (String × α)) (name : String) : ∀ table : List (String × α),
    List.lookup name (entries.foldl (fun table entry => insert entry.1 entry.2 table) table) =
      (List.lookup name entries.reverse).or (List.lookup name table) := by
  induction entries with
  | nil => intro table; simp
  | cons entry rest ih =>
    obtain ⟨key, a⟩ := entry
    intro table
    have hlast : (List.lookup name [(key, a)]).or (List.lookup name table) =
        if name = key then some a else List.lookup name table := by
      by_cases h : name = key <;> simp [lookup_cons, h]
    rw [List.foldl_cons, ih, lookup_insert, List.reverse_cons, List.lookup_append, Option.or_assoc, hlast]

/-- Of the values under one key the last one counts. -/
theorem lookup_ofList (entries : List (String × α)) (name : String) :
    List.lookup name (ofList entries) = List.lookup name entries.reverse := by
  simp [ofList, lookup_foldl_insert]

theorem lookup_map {β : Type} (g : α → β) (table : List (String × α)) (name : String) :
    List.lookup name (table.map fun entry => (entry.1, g entry.2)) = (List.lookup name table).map g := by
  induction table with
  | nil => rfl
  | cons entry rest ih =>
    obtain ⟨key, a⟩ := entry
    rw [List.map_cons, lookup_cons, lookup_cons, ih]
    split <;> rfl

/-! ### No repeated key -/

/-- Where no key is repeated, what is found is what is there. -/
theorem mem_iff_lookup {table : List (String × α)} (h : (table.map Prod.fst).Nodup) {name : String} {a : α} :
    (name, a) ∈ table ↔ List.lookup name table = some a := by
  induction table with
  | nil => simp
  | cons entry rest ih =>
    obtain ⟨k, b⟩ := entry
    obtain ⟨hnew, hrest⟩ := List.nodup_cons.mp h
    rw [List.mem_cons, ih hrest, lookup_cons]
    by_cases hname : name = k
    · subst hname
      have habsent : List.lookup name rest = none := by
        apply List.lookup_eq_none_iff.mpr
        intro entry hentry
        have hmem : entry.1 ∈ rest.map Prod.fst := List.mem_map_of_mem hentry
        have hne : name ≠ entry.1 := fun heq => hnew (heq ▸ hmem)
        simpa using hne
      simp [habsent, eq_comm]
    · simp [hname]

/-- The order of the entries does not matter then. -/
theorem lookup_perm {table other : List (String × α)} (h : (table.map Prod.fst).Nodup) (hperm : table.Perm other)
    (name : String) : List.lookup name table = List.lookup name other := by
  have h' : (other.map Prod.fst).Nodup := (hperm.map Prod.fst).nodup_iff.mp h
  apply Option.ext
  intro a
  rw [← mem_iff_lookup h, ← mem_iff_lookup h', hperm.mem_iff]

/-! ### Order -/

theorem mem_keys_insert {key name : String} {a : α} {table : List (String × α)} :
    name ∈ (insert key a table).map Prod.fst ↔ name = key ∨ name ∈ table.map Prod.fst := by
  induction table with
  | nil => simp [insert]
  | cons entry rest ih =>
    obtain ⟨k, b⟩ := entry
    unfold insert
    split
    · simp
    · split
      · next hk => simp [hk]
      · rw [List.map_cons, List.mem_cons, ih, List.map_cons, List.mem_cons]
        apply or_left_comm

theorem sorted_nil : Sorted ([] : List (String × α)) := .nil

theorem sorted_cons {key : String} {a : α} {rest : List (String × α)} :
    Sorted ((key, a) :: rest) ↔ (∀ name ∈ rest.map Prod.fst, key < name) ∧ Sorted rest := List.pairwise_cons

/-- Entering a value keeps a table sorted. -/
theorem Sorted.insert {key : String} {a : α} {table : List (String × α)} (h : Sorted table) :
    Sorted (Table.insert key a table) := by
  induction table with
  | nil => simp [Table.insert, Sorted]
  | cons entry rest ih =>
    obtain ⟨k, b⟩ := entry
    obtain ⟨hfirst, hrest⟩ := sorted_cons.mp h
    unfold Table.insert
    split
    · next hlt =>
      apply sorted_cons.mpr
      refine ⟨fun name hname => ?_, h⟩
      rcases List.mem_cons.mp hname with rfl | hname
      · exact hlt
      · exact hlt.trans (hfirst name hname)
    · split
      · next hk =>
        subst hk
        exact sorted_cons.mpr ⟨hfirst, hrest⟩
      · next hnot hk =>
        have hlt : k < key := lt_of_le_of_ne (not_lt.mp hnot) (Ne.symm hk)
        apply sorted_cons.mpr
        refine ⟨fun name hname => ?_, ih hrest⟩
        rcases mem_keys_insert.mp hname with rfl | hname
        · exact hlt
        · exact hfirst name hname

theorem sorted_foldl_insert (entries : List (String × α)) : ∀ {table : List (String × α)}, Sorted table →
    Sorted (entries.foldl (fun table entry => Table.insert entry.1 entry.2 table) table) := by
  induction entries with
  | nil => exact id
  | cons entry rest ih => exact fun h => ih h.insert

theorem sorted_ofList (entries : List (String × α)) : Sorted (ofList entries) := sorted_foldl_insert entries sorted_nil

/-- What is in a table was entered. -/
theorem mem_of_mem_ofList {entries : List (String × α)} {entry : String × α} (h : entry ∈ ofList entries) :
    entry ∈ entries := by
  have hlookup := (mem_iff_lookup ((sorted_ofList entries).imp ne_of_lt)).mp h
  rw [lookup_ofList] at hlookup
  obtain ⟨front, back, hsplit, -⟩ := List.lookup_eq_some_iff.mp hlookup
  apply List.mem_reverse.mp
  simp [hsplit]

/-! ### What look-ups tell -/

namespace Sorted

variable {table other : List (String × α)}

theorem nodup (h : Sorted table) : (table.map Prod.fst).Nodup := h.imp ne_of_lt

/-- Which table it is, its look-ups tell. -/
theorem ext (h : Sorted table) (h' : Sorted other)
    (hsame : ∀ name, List.lookup name table = List.lookup name other) : table = other := by
  have hperm : table.Perm other := by
    apply (List.perm_ext_iff_of_nodup h.nodup.of_map h'.nodup.of_map).mpr
    intro entry
    rw [mem_iff_lookup h.nodup, mem_iff_lookup h'.nodup, hsame]
  have hkeys : table.Pairwise fun a b => a.1 < b.1 := List.pairwise_map.mp h
  have hkeys' : other.Pairwise fun a b => a.1 < b.1 := List.pairwise_map.mp h'
  exact hperm.eq_of_pairwise (fun a b _ _ hab hba => absurd hba hab.asymm) hkeys hkeys'

end Sorted

end StageGraph.Table
