import StageGraph.Call
import StageGraph.Proofs.Value.Taking

/-! Arguments that a handler takes out of its call.

Whatever was taken already, the arguments that are left are those of the call under the other names, each of them once, and
the context is that of the call (`Remains`). Taking one more name keeps this, with that name among those that were taken
(`Remains.take`), so it holds after any sequence of names, and every look-up on the way is answered from it
(`takes_lose_nothing`). -/
namespace StageGraph.Call

/-- Takes arguments out, one after the other. -/
def takeEach (c : Call) : List String → List (Option Value) × Call
  | [] => ([], c)
  | name :: rest =>
    let (found, left) := c.take name
    let (more, left) := left.takeEach rest
    (found :: more, left)

/-- What is left of a call when some names were taken. -/
structure Remains (c : Call) (taken : List String) (left : Call) : Prop where
  /-- The arguments under other names, each of them once. -/
  args : left.args.Perm (c.args.filter fun f => f.1 ∉ taken)
  stage : left.stage = c.stage
  owner : left.owner = c.owner

variable {c left : Call} {taken : List String}

theorem take_found (c : Call) (name : String) : (c.take name).1 = c.arg? name := Fields.take_fst c.args name

namespace Remains

theorem untouched (c : Call) : c.Remains [] c := ⟨by simp, rfl, rfl⟩

variable (hd : (c.args.map Prod.fst).Nodup) (h : c.Remains taken left)
include hd h

theorem nodup : (left.args.map Prod.fst).Nodup := Fields.kept_nodup hd h.args

/-- What was never taken is found under its name, and nothing else is. -/
theorem arg?_eq (name : String) : left.arg? name = if name ∈ taken then none else c.arg? name := by
  rw [arg?, Fields.get?_kept (fun key => key ∉ taken) hd h.args]
  by_cases hname : name ∈ taken <;> simp [hname, arg?]

theorem take (name : String) : c.Remains (taken ++ [name]) (left.take name).2 where
  args := by
    have hleft : (left.take name).2.args.Perm ((c.args.filter fun f => f.1 ∉ taken).filter fun f => f.1 ≠ name) :=
      (Fields.take_filter (h.nodup hd) name).trans (h.args.filter _)
    rw [List.filter_filter] at hleft
    simpa [and_comm] using hleft
  stage := h.stage
  owner := h.owner

/-- Taking goes on from what is left as it began, and each name is answered by what was taken before it. -/
theorem takeEach (names : List String) : c.Remains (taken ++ names) (left.takeEach names).2 ∧
    ∀ k : Nat, (left.takeEach names).1[k]? =
      names[k]?.map fun name => if name ∈ taken ++ names.take k then none else c.arg? name := by
  induction names generalizing taken left with
  | nil => exact ⟨by rwa [List.append_nil], fun k => rfl⟩
  | cons name rest ih =>
    obtain ⟨hremains, hfound⟩ := ih (h.take hd name)
    rw [List.append_cons]
    refine ⟨hremains, fun k => ?_⟩
    cases k with
    | zero =>
      simp only [List.take_zero, List.append_nil]
      exact congrArg some ((take_found left name).trans (h.arg?_eq hd name))
    | succ k =>
      rw [List.take_succ_cons, List.append_cons]
      exact hfound k

end Remains

/-- **Taking arguments loses nothing.** Whatever names are taken from a call one after the other: each gives the value that the
call had for it the first time, and nothing after that or if there was none. What is left are the arguments that were never
taken, each once and found under its name with its value, and the context is the same. All the while, the last argument moves
into the place of the one that is taken. -/
theorem takes_lose_nothing (hd : (c.args.map Prod.fst).Nodup) (names : List String) :
    (∀ k : Nat, (c.takeEach names).1[k]? =
      names[k]?.map fun name => if name ∈ names.take k then none else c.arg? name) ∧
    c.Remains names (c.takeEach names).2 ∧
    (∀ name, (c.takeEach names).2.arg? name = if name ∈ names then none else c.arg? name) ∧
    ∀ (i : Nat) f last, (c.takeEach names).2.args[i]? = some f → (c.takeEach names).2.args.getLast? = some last →
      ((c.takeEach names).2.take f.1).2.args = ((c.takeEach names).2.args.set i last).dropLast := by
  obtain ⟨hremains, hfound⟩ := (Remains.untouched c).takeEach hd names
  rw [List.nil_append] at hremains
  exact ⟨hfound, hremains, hremains.arg?_eq hd,
    fun i f last hf hlast => Fields.take_swaps (hremains.nodup hd) hf hlast⟩

/-- A call with three arguments, and the node of its stage. -/
def threefold : Call :=
  { args := [("a", .integer 1), ("b", .integer 2), ("c", .integer 3)], stage := some .null }

/-- A name that is taken again finds nothing, and neither does an unknown one; the last argument moves to the front, where it
is found, and taken from. -/
theorem last_argument_moves : (threefold.args.map Prod.fst).Nodup ∧
    (threefold.takeEach ["a", "x", "a"]).1[0]? = some (some (.integer 1)) ∧
    (threefold.takeEach ["a", "x", "a"]).1[2]? = some none ∧
    (threefold.takeEach ["a", "x", "a"]).2.args = [("c", .integer 3), ("b", .integer 2)] ∧
    (threefold.takeEach ["a", "x", "a"]).2.arg? "c" = some (.integer 3) ∧
    ((threefold.takeEach ["a", "x", "a"]).2.take "c").2.args = [("b", .integer 2)] := by
  have hd : (threefold.args.map Prod.fst).Nodup := by decide
  obtain ⟨hfound, -, harg, hswaps⟩ := takes_lose_nothing hd ["a", "x", "a"]
  exact ⟨hd, (hfound 0).trans rfl, (hfound 2).trans rfl, rfl, (harg "c").trans rfl,
    (hswaps 0 ("c", .integer 3) ("b", .integer 2) rfl rfl).trans rfl⟩

end StageGraph.Call
