import Mathlib.Data.Finset.Card
import Mathlib.Data.List.Sort
import StageGraph.ControlFlow
import StageGraph.Proofs.Table.Sorted

/-! The last definition of a name counts.

`Registered` says how a registry comes about: function by function, those of control flow first or not. What it
holds then is the definition that was registered last under every name (`Holds`), whatever was registered under the
name before. The catalog lists these definitions by name, but for the excluded ones (`Catalogs`). It is what an
enumeration of the definitions gives in whatever order, once it is sorted (`Enumerates.catalog_eq`), so nothing of the
history of a registry is left in it. The main theorem is `last_registration_counts`. -/
namespace StageGraph.Registry

/-- The definition that was registered last under a name. -/
def lastOf (history : List Function) (name : String) : Option Function :=
  history.reverse.find? fun f => f.name == name

/-- A registry after functions were registered one after the other. -/
inductive Registered : List Function → Registry → Prop
  | empty : Registered [] empty
  | builtins : Registered [ControlFlow.map, ControlFlow.remapRegex, ControlFlow.caseRegex] builtins
  | register {history : List Function} {r : Registry} (h : Registered history r) (f : Function) :
      Registered (history ++ [f]) (r.register f)

/-- A registry holds the last definitions: a look-up finds them, their names are listed in order and once each, and
it counts them. -/
structure Holds (r : Registry) (history : List Function) : Prop where
  get? (name : String) : r.get? name = lastOf history name
  contains (name : String) : r.contains name = true ↔ ∃ f ∈ history, f.name = name
  increasing : r.names.Pairwise (· < ·)
  names (name : String) : name ∈ r.names ↔ ∃ f ∈ history, f.name = name
  size : r.size = (history.map Function.name).toFinset.card

/-- A list of records is that of the last definitions but for excluded names, in the order of the names. -/
structure Catalogs (history : List Function) (excluded : List String) (catalog : List Value) : Prop where
  described : ∃ fs : List Function, catalog = fs.map Function.descriptor ∧ (fs.map Function.name).Pairwise (· < ·) ∧
    ∀ f, f ∈ fs ↔ lastOf history f.name = some f ∧ f.name ∉ excluded

/-- The last definitions, once each and in any order. -/
structure Enumerates (history order : List Function) : Prop where
  distinct : (order.map Function.name).Nodup
  mem (f : Function) : f ∈ order ↔ lastOf history f.name = some f

/-- What a registry holds, in the order of the names. -/
def definitions (r : Registry) : List Function := r.functions.map Prod.snd

/-- The records of functions that come in any order: those that are not excluded, sorted by name. -/
def sortedCatalog (order : List Function) (excluded : List String) : List Value :=
  ((order.filter fun f => !excluded.contains f.name).mergeSort fun f g => f.name ≤ g.name).map Function.descriptor

variable {r r' : Registry} {history history' : List Function}

/-! ### Last definitions -/

theorem lastOf_concat (history : List Function) (f : Function) (name : String) :
    lastOf (history ++ [f]) name = if name = f.name then some f else lastOf history name := by
  by_cases h : name = f.name <;> simp [lastOf, h, Ne.symm]

theorem name_of_lastOf {name : String} {f : Function} (h : lastOf history name = some f) : f.name = name := by
  simpa using List.find?_some h

theorem lastOf_isSome {name : String} : (lastOf history name).isSome ↔ ∃ f ∈ history, f.name = name := by
  simp [lastOf]

theorem get?_register (r : Registry) (f : Function) (name : String) :
    (r.register f).get? name = if name = f.name then some f else r.get? name := Table.lookup_insert _ _ _ _

/-! ### What a registration keeps -/

/-- A registry with its definitions in order, where look-ups find those that were registered last. -/
structure Filed (r : Registry) (history : List Function) : Prop where
  sorted : Table.Sorted r.functions
  get? (name : String) : r.get? name = lastOf history name

theorem filed_empty : empty.Filed [] := ⟨Table.sorted_nil, fun _ => rfl⟩

/-- Another registration keeps a registry filed, whether or not it replaces something. -/
theorem Filed.register (h : r.Filed history) (f : Function) : (r.register f).Filed (history ++ [f]) := by
  constructor
  · exact h.sorted.insert
  · intro name
    rw [get?_register, lastOf_concat, h.get?]

/-- **Every registry is filed.** -/
theorem Registered.filed (h : Registered history r) : r.Filed history := by
  induction h with
  | empty => exact filed_empty
  | builtins =>
    have hmap := filed_empty.register ControlFlow.map
    have hremap := hmap.register ControlFlow.remapRegex
    exact hremap.register ControlFlow.caseRegex
  | register _ f ih => exact ih.register f

namespace Filed

theorem nodup (h : r.Filed history) : (r.functions.map Prod.fst).Nodup := h.sorted.nodup

theorem mem_iff (h : r.Filed history) {name : String} {f : Function} :
    (name, f) ∈ r.functions ↔ lastOf history name = some f := by
  rw [Table.mem_iff_lookup h.nodup, ← h.get?]
  rfl

/-- Definitions are filed under their names. -/
theorem name_eq (h : r.Filed history) {entry : String × Function} (hentry : entry ∈ r.functions) :
    entry.2.name = entry.1 := name_of_lastOf (h.mem_iff.mp hentry)

theorem mem_names (h : r.Filed history) {name : String} : name ∈ r.names ↔ ∃ f ∈ history, f.name = name := by
  rw [← lastOf_isSome, Option.isSome_iff_exists]
  simp [Registry.names, h.mem_iff]

theorem holds (h : r.Filed history) : r.Holds history where
  get? := h.get?
  contains name := by rw [contains, h.get?, lastOf_isSome]
  increasing := h.sorted
  names _ := h.mem_names
  size := by
    have hsame : r.names.toFinset = (history.map Function.name).toFinset := by
      ext name
      simp [h.mem_names]
    have hnodup : r.names.Nodup := h.nodup
    rw [← hsame, List.toFinset_card_of_nodup hnodup, names, size, List.length_map]

/-! ### Catalogs -/

theorem names_definitions (h : r.Filed history) : r.definitions.map Function.name = r.names := by
  rw [definitions, names, List.map_map]
  exact List.map_congr_left fun entry hentry => h.name_eq hentry

theorem enumerates (h : r.Filed history) : Enumerates history r.definitions := by
  constructor
  · rw [h.names_definitions]
    exact h.nodup
  · intro f
    rw [definitions, List.mem_map]
    constructor
    · rintro ⟨entry, hentry, rfl⟩
      rw [h.name_eq hentry]
      exact h.mem_iff.mp hentry
    · exact fun hlast => ⟨(f.name, f), h.mem_iff.mpr hlast, rfl⟩

/-- Whether an entry is excluded by its key or by the name of its definition is the same. -/
theorem catalogExcluding_eq (h : r.Filed history) (excluded : List String) :
    r.catalogExcluding excluded =
      (r.definitions.filter fun f => !excluded.contains f.name).map Function.descriptor := by
  have hkept : (r.functions.filter fun entry => !excluded.contains entry.1) =
      r.functions.filter fun entry => !excluded.contains entry.2.name := by
    apply List.filter_congr
    intro entry hentry
    rw [h.name_eq hentry]
  rw [catalogExcluding, hkept, definitions, List.filter_map, List.map_map]
  rfl

theorem catalogs (h : r.Filed history) (excluded : List String) :
    Catalogs history excluded (r.catalogExcluding excluded) := by
  refine ⟨_, h.catalogExcluding_eq excluded, ?_, fun f => ?_⟩
  · have hincreasing : (r.definitions.map Function.name).Pairwise (· < ·) := by
      rw [h.names_definitions]
      exact h.sorted
    exact hincreasing.sublist (List.filter_sublist.map _)
  · rw [List.mem_filter, h.enumerates.mem]
    simp

end Filed

theorem sorted_mergeSort (order : List Function) :
    (order.mergeSort fun f g => f.name ≤ g.name).Pairwise fun f g => f.name ≤ g.name := by
  have hsorted := @List.pairwise_mergeSort _ (fun f g : Function => decide (f.name ≤ g.name))
    (fun f g h hfg hgh => by simpa using le_trans (by simpa using hfg) (by simpa using hgh))
    (fun f g => by simpa using le_total f.name g.name) order
  simpa using hsorted

/-- **In whatever order definitions are enumerated, sorting them by name makes one catalog of them.** -/
theorem Catalogs.eq_sortedCatalog {excluded : List String} {catalog : List Value} {order : List Function}
    (h : Catalogs history excluded catalog) (horder : Enumerates history order) :
    sortedCatalog order excluded = catalog := by
  obtain ⟨fs, rfl, hincreasing, hmem⟩ := h.described
  have hdistinct : (fs.map Function.name).Nodup := hincreasing.imp ne_of_lt
  have hkept : (order.filter fun f => !excluded.contains f.name).Perm fs := by
    apply (List.perm_ext_iff_of_nodup (horder.distinct.of_map.filter _) hdistinct.of_map).mpr
    intro f
    rw [hmem, List.mem_filter, horder.mem]
    simp
  have hperm := (List.mergeSort_perm _ fun f g : Function => decide (f.name ≤ g.name)).trans hkept
  -- two definitions of one name are the same one
  have hsame (f g : Function) (hf : f ∈ fs) (hg : g ∈ fs) (hle : f.name ≤ g.name) (hge : g.name ≤ f.name) : f = g := by
    have hlast := ((hmem f).mp hf).1
    rw [le_antisymm hle hge, ((hmem g).mp hg).1] at hlast
    exact (Option.some.inj hlast).symm
  unfold sortedCatalog
  congr 1
  apply hperm.eq_of_pairwise fun f g hf hg => hsame f g (hperm.mem_iff.mp hf) hg
  · exact sorted_mergeSort _
  · exact (List.pairwise_map.mp hincreasing).imp le_of_lt

/-- Registries with the same last definitions are the same. -/
theorem Filed.eq (h : r.Filed history) (h' : r'.Filed history')
    (hsame : ∀ name, lastOf history name = lastOf history' name) : r = r' := by
  have htable : r.functions = r'.functions := by
    apply h.sorted.ext h'.sorted
    intro name
    exact (h.get? name).trans ((hsame name).trans (h'.get? name).symm)
  cases r
  cases r'
  cases htable
  rfl

theorem catalogExcluding_congr (r : Registry) {excluded excluded' : List String}
    (h : ∀ name, name ∈ excluded ↔ name ∈ excluded') : r.catalogExcluding excluded = r.catalogExcluding excluded' := by
  simp [catalogExcluding, List.contains_eq_mem, h]

theorem mem_internalNames {name : String} : name ∈ internalNames ↔ name ∈ builtins.names := by
  have hnames : builtins.names = ["case_regex", "map", "remap_regex"] := by decide
  rw [hnames]
  simp only [internalNames, List.mem_cons, List.not_mem_nil, or_false]
  tauto

/-- **The last registration under a name counts.** After any registrations, on a registry with or without the
functions of control flow, look-ups find the definitions that were registered last, and names are listed in order and
once each. Whatever is excluded, the catalog has the records of just the other last definitions in the order of their
names, as any enumeration of the definitions would give them; so registrations that end with the same definitions end
with the same catalog. The names of control flow are left out of the catalog, whoever defined them. -/
theorem last_registration_counts (h : Registered history r) :
    r.Holds history ∧
      (∀ excluded, Catalogs history excluded (r.catalogExcluding excluded) ∧
        ∀ order, Enumerates history order → sortedCatalog order excluded = r.catalogExcluding excluded) ∧
      (∀ history' r', Registered history' r' → (∀ name, lastOf history name = lastOf history' name) →
        ∀ excluded, r.catalogExcluding excluded = r'.catalogExcluding excluded) ∧
      r.catalog = r.catalogExcluding builtins.names := by
  have hfiled := h.filed
  refine ⟨hfiled.holds, fun excluded => ?_, fun history' r' h' hsame excluded => ?_, ?_⟩
  · have hcatalogs := hfiled.catalogs excluded
    exact ⟨hcatalogs, fun order horder => hcatalogs.eq_sortedCatalog horder⟩
  · rw [hfiled.eq h'.filed hsame]
  · exact r.catalogExcluding_congr fun name => mem_internalNames

/-- A function that says nothing but its name and what it gives. -/
def giver (name : String) (output : ValueType) : Function := { name, output, handler := fun _ => .hang }

/-- Registered last: a function in place of another one, and one in place of `map`. -/
theorem replacements_count : ∃ r, Registered ([ControlFlow.map, ControlFlow.remapRegex, ControlFlow.caseRegex] ++
      [giver "f" .any] ++ [giver "map" .any] ++ [giver "f" .string]) r ∧
    r.get? "f" = some (giver "f" .string) ∧ r.get? "map" = some (giver "map" .any) ∧ r.size = 4 ∧
      r.catalog = [(giver "f" .string).descriptor] := by
  have hregistered := ((Registered.builtins.register (giver "f" .any)).register (giver "map" .any)).register
    (giver "f" .string)
  obtain ⟨hholds, -, -, hcatalog⟩ := last_registration_counts hregistered
  refine ⟨_, hregistered, hholds.get? "f", hholds.get? "map", ?_, ?_⟩
  · rw [hholds.size]
    decide
  · rw [hcatalog]
    rfl

end StageGraph.Registry
