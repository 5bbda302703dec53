import StageGraph.Proofs.Deferred.Patience
import StageGraph.Proofs.Resolvable.Forcing

/-! Following a path first, or forcing first.

The value at the end of a path can be had in two ways: by waiting for what the path leads to, or by waiting for all there is
and following the path then. If there is a value of the whole, both ways come to the same, or fail alike on the way
(`navigate_commutes`). -/
namespace StageGraph.Shelf

variable {s s' : Shelf} {r : Resolvable Nat} {v : Value} {path : Path}

/-- Waits for the value at the end of a path. -/
def fetch (r : Resolvable Nat) (path : Path) : StateM Shelf (Poll Value) := do
  match ← Shelf.navigate r path with
  | some (.ok found) => Shelf.resolve found
  | some (.error f) => pure (some (.error f))
  | none => pure none

/-- The value that a number stands for. -/
def known (s : Shelf) (n : Nat) : Option Value := (s.comes s.depth n).value?

/-- A tree comes to a value just if it stands for it. -/
theorem resolve_ok_iff (hordered : s.Ordered) (hparts : ∀ p ∈ r.awaited, p < s.items.size) :
    (Shelf.resolve r s).1 = some (.ok v) ↔ r.value? s.known = some v := by
  have hvalue : (r.progress.arrival s.clock (s.comes s.depth)).value? = r.value? s.known :=
    (Progress.arrival_value? _).trans (Resolvable.progress_value? r)
  rw [resolve_arrival hordered hparts, ← hvalue, Arrival.value?_eq_some, Option.map_eq_some_iff]
  exact ⟨fun ⟨⟨t, o⟩, hc, ho⟩ => ⟨t, hc.trans (by rw [← ho])⟩, fun ⟨t, hc⟩ => ⟨_, hc, rfl⟩⟩

/-- A number that stands for a value comes to it. -/
theorem comes_known {p : Nat} (h : (s.known p).isSome) : (s.comes s.depth p).map Prod.snd = (s.known p).map .ok := by
  obtain ⟨w, hw⟩ := Option.isSome_iff_exists.mp h
  obtain ⟨t, ht⟩ := Arrival.value?_eq_some.mp hw
  rw [hw, ht]
  rfl

theorem known_lasts (h : s.Lasts s') {p : Nat} (hp : p < s.items.size) : s'.known p = s.known p := by
  have hdepth : s'.depth = s.depth := congrArg (· + 1) h.size
  rw [known, known, hdepth]
  exact h.value (Nat.lt_succ_of_lt hp)

theorem fetch_eq : fetch r path s =
    match (Shelf.navigate r path s).1 with
    | some (.ok found) => Shelf.resolve found (Shelf.navigate r path s).2
    | some (.error f) => (some (.error f), (Shelf.navigate r path s).2)
    | none => (none, (Shelf.navigate r path s).2) := by
  show StateT.run (m := Id) (match (Shelf.navigate r path s).1 with
    | some (.ok found) => Shelf.resolve found
    | some (.error f) => pure (some (.error f))
    | none => pure none) (Shelf.navigate r path s).2 = _
  rcases (Shelf.navigate r path s).1 with - | f | found <;> rfl

/-- **Forcing commutes with navigating.** If a tree without repeated keys comes to a value, then a path leads through the
tree to what comes to a value just if it leads through the value to that one, and it fails in both on the way or in
neither, and alike. -/
theorem navigate_commutes (hordered : s.Ordered) (hparts : ∀ p ∈ r.awaited, p < s.items.size) (hkeyed : r.keyed = true)
    (hv : (Shelf.resolve r s).1 = some (.ok v)) (path : Path) :
    (∀ w, (fetch r path s).1 = some (.ok w) ↔ (Shelf.navigate (.ready v) path s).1 = some (.ok (.ready w))) ∧
      Resolvable.Corresponds s.known (Shelf.navigate r path s).1 (Shelf.navigate (.ready v) path s).1 := by
  have hvalue := (resolve_ok_iff hordered hparts).mp hv
  have hknown := Resolvable.value?_awaited r hvalue
  have hview (p : Nat) (hp : p ∈ r.awaited) : (s.comes s.depth p).map Prod.snd = (s.known p).map .ok :=
    comes_known (hknown p hp)
  have hready : (Shelf.navigate (.ready v) path s).1 = (Resolvable.ready v).navigate (m := Id) (fun _ => none) path :=
    (navigate_arrival path hordered fun _ hp => by cases hp).trans (Resolvable.navigate_ready path v)
  have hcorresponds := Resolvable.navigate_forced path hkeyed hvalue hview
  have hcame : ∀ p ∈ r.awaited, ((s.comes s.depth p).map Prod.snd).isSome := by
    intro p hp
    rw [hview p hp, Option.isSome_map]
    exact hknown p hp
  obtain ⟨o, ho, hwithin⟩ := Resolvable.navigate_isSome path hcame
  rw [← navigate_arrival path hordered hparts] at ho hcorresponds
  rw [← hready] at hcorresponds
  refine ⟨fun w => ?_, hcorresponds⟩
  have hlasts := navigate_lasts path hordered hparts
  rw [fetch_eq]
  generalize (Shelf.navigate (.ready v) path s).1 = onward at hcorresponds ⊢
  generalize Shelf.navigate r path s = followed at ho hcorresponds hlasts ⊢
  obtain ⟨found, s'⟩ := followed
  cases hcorresponds with
  | @found next w' hnext =>
    cases ho
    have hawaited : ∀ p ∈ next.awaited, p < s.items.size := fun p hp => hparts p (hwithin next rfl p hp)
    have hsame : next.value? s'.known = next.value? s.known :=
      Resolvable.value?_congr next fun p hp => known_lasts hlasts (hawaited p hp)
    show (Shelf.resolve next s').1 = some (.ok w) ↔ _
    rw [resolve_ok_iff hlasts.ordered fun p hp => hlasts.size.symm ▸ hawaited p hp, hsame, hnext]
    simp only [Option.some.injEq, Except.ok.injEq, Resolvable.ready.injEq]
  | astray alike => simp

/-- Through a mapping and a value that others share, a path leads to what it leads to in the value of the whole. -/
theorem shared_value_reached :
    (Shelf.resolve (.mapping [("a", .sequence [.pending 1, .pending 0])])
      ⟨0, #[.after 30 (.ok .null), .sharing (.sequence [.pending 0, .ready (.boolean true)])]⟩).1 =
        some (.ok (.object [("a", .array [.array [.null, .boolean true], .null])])) ∧
    (fetch (.mapping [("a", .sequence [.pending 1, .pending 0])]) ["a", "0", "1"]
      ⟨0, #[.after 30 (.ok .null), .sharing (.sequence [.pending 0, .ready (.boolean true)])]⟩).1 =
        some (.ok (.boolean true)) := by
  have hordered : Ordered ⟨0, #[.after 30 (.ok .null), .sharing (.sequence [.pending 0, .ready (.boolean true)])]⟩ := by
    rintro p q ⟨parts, asked, hitem, hq⟩
    rcases p with - | - | p
    · cases hitem
    · cases hitem
      rw [List.mem_singleton.mp hq]
      exact Nat.one_pos
    · cases hitem
  have hparts : ∀ p ∈ (Resolvable.mapping [("a", .sequence [.pending 1, .pending 0])]).awaited, p < 2 := by decide
  have hforced : (Shelf.resolve (.mapping [("a", .sequence [.pending 1, .pending 0])])
      ⟨0, #[.after 30 (.ok .null), .sharing (.sequence [.pending 0, .ready (.boolean true)])]⟩).1 =
        some (.ok (.object [("a", .array [.array [.null, .boolean true], .null])])) := rfl
  exact ⟨hforced, ((navigate_commutes hordered hparts (by decide) hforced ["a", "0", "1"]).1 _).mpr rfl⟩

end StageGraph.Shelf
