import StageGraph.Deferred
import StageGraph.Proofs.Resolvable.Asking

/-! Asking on a shelf, and waiting there.

To ask for a number starts its value. A shared value is looked at as far as it is awaited, and what the look leaves is put
in its place (`ask_shared`); all else tells at once. Waiting does nothing but ask, and move the clock to the end of a delay,
so it keeps what both keep (`wait_keeps`). -/
namespace StageGraph.Shelf

variable {s : Shelf} {n k depth : Nat}

/-- The shelf once a value is started. -/
def start (s : Shelf) (n : Nat) : Shelf := { s with items := s.items.modify n (Deferred.start s.clock) }

/-- The shelf with another value in the place of a number. -/
def put (s : Shelf) (n : Nat) (d : Deferred) : Shelf := { s with items := s.items.setIfInBounds n d }

/-- The shelf when time has gone on to a moment. -/
def pass (s : Shelf) (moment : Nat) : Shelf := { s with clock := moment }

@[simp] theorem start_clock : (s.start n).clock = s.clock := rfl

@[simp] theorem start_size : (s.start n).items.size = s.items.size := Array.size_modify

@[simp] theorem put_size (d : Deferred) : (s.put n d).items.size = s.items.size := Array.size_setIfInBounds

theorem start_items (k : Nat) :
    (s.start n).items[k]? = if n = k then s.items[k]?.map (Deferred.start s.clock) else s.items[k]? :=
  Array.getElem?_modify

theorem put_items (d : Deferred) (k : Nat) :
    (s.put n d).items[k]? = if n = k then (s.items[k]?.map fun _ => d) else s.items[k]? := by
  simp only [put, Array.getElem?_setIfInBounds]
  split
  · next h =>
    subst h
    split
    · next hn => rw [Array.getElem?_eq_getElem hn, Option.map_some]
    · next hn => rw [Array.getElem?_eq_none (Nat.not_lt.mp hn), Option.map_none]
  · rfl

/-- The value of the first number is shared, and made of that of the second among others. -/
def MadeOf (s : Shelf) (p q : Nat) : Prop :=
  ∃ parts asked, s.items[p]? = some (.shared parts asked) ∧ q ∈ parts.awaited

theorem start_madeOf {p q : Nat} (h : (s.start n).MadeOf p q) : s.MadeOf p q := by
  obtain ⟨parts, asked, hitem, hq⟩ := h
  rw [start_items] at hitem
  split at hitem
  · obtain ⟨d, hd, hstart⟩ := Option.map_eq_some_iff.mp hitem
    cases d with
    | shared parts' asked' =>
      cases hstart
      exact ⟨_, _, hd, hq⟩
    | _ => cases hstart
  · exact ⟨_, _, hitem, hq⟩

theorem put_madeOf {parts : Progress Nat} {asked : Bool} {p q : Nat} (h : (s.put n (.shared parts asked)).MadeOf p q) :
    p = n ∧ q ∈ parts.awaited ∨ s.MadeOf p q := by
  obtain ⟨parts', asked', hitem, hq⟩ := h
  rw [put_items] at hitem
  split at hitem
  · next hp =>
    obtain ⟨d, -, hd⟩ := Option.map_eq_some_iff.mp hitem
    cases hd
    exact .inl ⟨hp.symm, hq⟩
  · exact .inr ⟨_, _, hitem, hq⟩

/-! ### What asking does -/

theorem ask_eq : ask (depth + 1) n s = StateT.run (m := Id) (do
    match (s.start n).items[n]? with
    | some (.delay _ o (some due)) => pure (if due ≤ s.clock then some o else none)
    | some (.shared p _) => do
      let p ← p.look (ask depth)
      modify fun s => s.put n (.shared p true)
      pure p.outcome?
    | _ => pure none) (s.start n) := rfl

theorem ask_missing (h : s.items[n]? = none) : ask (depth + 1) n s = (none, s.start n) := by
  rw [ask_eq, start_items, if_pos rfl, h]
  rfl

theorem ask_never {asked : Bool} (h : s.items[n]? = some (.never asked)) :
    ask (depth + 1) n s = (none, s.start n) := by
  rw [ask_eq, start_items, if_pos rfl, h]
  rfl

theorem ask_delay {ms : Nat} {o : Outcome} {due : Option Nat} (h : s.items[n]? = some (.delay ms o due)) :
    ask (depth + 1) n s = (if due.getD (s.clock + ms) ≤ s.clock then some o else none, s.start n) := by
  rw [ask_eq, start_items, if_pos rfl, h]
  rfl

theorem ask_shared {p : Progress Nat} {asked : Bool} (h : s.items[n]? = some (.shared p asked)) :
    ask (depth + 1) n s = (let looked := p.look (ask depth) (s.start n)
      (looked.1.outcome?, looked.2.put n (.shared looked.1 true))) := by
  rw [ask_eq, start_items, if_pos rfl, h]
  rfl

/-! ### Waiting -/

variable {α β : Type} {question : StateM Shelf (Poll α)} {fuel : Nat}

theorem wait_answered {answer : Except Fault α} (h : (question s).1 = some answer) :
    wait question (fuel + 1) s = (some answer, (question s).2) := by
  generalize hasked : question s = asked at h
  obtain ⟨told, s'⟩ := asked
  cases h
  simp only [wait, bind, StateT.bind, hasked]
  rfl

theorem wait_pass {moment : Nat} (h : (question s).1 = none) (hnext : (question s).2.nextMoment? = some moment) :
    wait question (fuel + 1) s = wait question fuel ((question s).2.pass moment) := by
  generalize hasked : question s = asked at h hnext
  obtain ⟨told, s'⟩ := asked
  cases h
  simp only [wait, bind, StateT.bind, hasked, get, getThe, MonadStateOf.get, StateT.get, pure, hnext]
  rfl

theorem wait_stuck (h : (question s).1 = none) (hnext : (question s).2.nextMoment? = none) :
    wait question (fuel + 1) s = (none, (question s).2) := by
  generalize hasked : question s = asked at h hnext
  obtain ⟨told, s'⟩ := asked
  cases h
  simp only [wait, bind, StateT.bind, hasked, get, getThe, MonadStateOf.get, StateT.get, pure, hnext]
  rfl

/-- Waiting keeps what a question keeps, if it does not matter what time it is. -/
theorem wait_keeps {I : Shelf → Prop} {P : Poll α → Prop} (hpass : ∀ s moment, I s → I (s.pass moment))
    (hquestion : (Telling.keeping I).holds question P) (hnone : P none) :
    ∀ fuel, (Telling.keeping I).holds (wait question fuel) P := by
  intro fuel
  induction fuel with
  | zero => exact hquestion
  | succ fuel ih =>
    intro s hs
    obtain ⟨hanswer, hkept⟩ := hquestion s hs
    cases h : (question s).1 with
    | some answer =>
      rw [wait_answered h]
      exact ⟨h ▸ hanswer, hkept⟩
    | none =>
      cases hnext : (question s).2.nextMoment? with
      | some moment =>
        rw [wait_pass h hnext]
        exact ih _ (hpass _ _ hkept)
      | none =>
        rw [wait_stuck h hnext]
        exact ⟨hnone, hkept⟩

end StageGraph.Shelf
