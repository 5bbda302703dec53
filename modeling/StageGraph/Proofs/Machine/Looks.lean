import StageGraph.Proofs.Resolvable.Following
import StageGraph.Machine.State

/-! What looking does to the machine.

A look takes fresh results in as long as there is room for them, and changes nothing else (`Taken`). What it is
told is what is in the slots. A look that leaves room has seen all there is to see: it gives what a look gives that
sees through to the results (`Sees`). So a look either gets on, or takes in, or there is no room left. -/
namespace StageGraph

/-- Whether nobody has taken in so far what is in a slot. -/
def Slot.isFresh : Slot → Bool
  | .fresh _ => true
  | _ => false

namespace Machine

/-! ### Taking in -/

/-- What is left of a machine that has only taken results in. -/
structure Taken (m m' : Machine) : Prop where
  slot (s : Nat) : m'.slot s = m.slot s
  rest : ∃ slots room, m' = { m with slots := slots, room := room } ∧ slots.size = m.slots.size

theorem Taken.refl (m : Machine) : Taken m m := ⟨fun _ => rfl, m.slots, m.room, rfl, rfl⟩

theorem Taken.trans {m m' m'' : Machine} (h : Taken m m') (h' : Taken m' m'') : Taken m m'' := by
  obtain ⟨slots, room, rfl, hsize⟩ := h.rest
  obtain ⟨slots', room', rfl, hsize'⟩ := h'.rest
  exact ⟨fun s => (h'.slot s).trans (h.slot s), slots', room', rfl, hsize'.trans hsize⟩

theorem Taken.instances {m m' : Machine} (h : Taken m m') : m'.instances = m.instances := by
  obtain ⟨slots, room, rfl, -⟩ := h.rest
  rfl

/-- How many results nobody has taken in so far. -/
def freshCount (m : Machine) : Nat := m.slots.countP Slot.isFresh

/-- A computation on the machine that only looks, and what it gives when it sees all there is. -/
structure Sees {α : Type} (look : StateM Machine α) (seen : Machine → α) : Prop where
  taken (m : Machine) : Taken m (look m).2
  account (m : Machine) : (look m).2.freshCount + m.room = m.freshCount + (look m).2.room
  idle (m : Machine) : 0 < m.room → (look m).2.room = m.room → look m = (seen m, m)
  used (m : Machine) : (look m).2.room ≤ m.room
  ample (m : Machine) : (look m).2.room ≠ 0 → (look m).1 = seen m
  steady {m m' : Machine} : Taken m m' → seen m' = seen m

namespace Sees

variable {α β : Type}

theorem pure (a : α) : Sees (Pure.pure a) fun _ => a where
  taken m := Taken.refl m
  account _ := rfl
  idle _ _ _ := rfl
  used _ := Nat.le_refl _
  ample _ _ := rfl
  steady _ := rfl

theorem bind {look : StateM Machine α} {seen : Machine → α} (h : Sees look seen)
    (next : α → StateM Machine β) (then' : α → Machine → β) (h' : ∀ a, Sees (next a) (then' a)) :
    Sees (look >>= next) fun m => then' (seen m) m where
  taken m := (h.taken m).trans ((h' _).taken _)
  account m := by
    have hfirst := h.account m
    have hsecond := (h' (look m).1).account (look m).2
    show (next (look m).1 (look m).2).2.freshCount + m.room =
      m.freshCount + (next (look m).1 (look m).2).2.room
    omega
  idle m hroom hused := by
    have hfirst := h.used m
    have hsecond := (h' (look m).1).used (look m).2
    have hall : (next (look m).1 (look m).2).2.room = m.room := hused
    have hlook : look m = (seen m, m) := h.idle m hroom (by omega)
    show next (look m).1 (look m).2 = _
    rw [hlook] at hall ⊢
    exact (h' (seen m)).idle m hroom hall
  used m := Nat.le_trans ((h' _).used _) (h.used m)
  ample m hroom := by
    have hall : (next (look m).1 (look m).2).2.room ≠ 0 := hroom
    have hsecond := (h' (look m).1).used (look m).2
    have hlook : (look m).1 = seen m := h.ample m (by omega)
    show (next (look m).1 (look m).2).1 = _
    rw [(h' _).ample _ hall, hlook, (h' (seen m)).steady (h.taken m)]
  steady {m m'} htaken := by
    show then' (seen m') m' = then' (seen m) m
    rw [h.steady htaken, (h' (seen m)).steady htaken]

end Sees

theorem slot_eq (m : Machine) (s : Nat) : m.slot s = (m.slots[s]?).bind Slot.outcome? := rfl

/-- A look at a slot takes its result in if that is fresh and there is room. Else it changes nothing, and it sees what is
in the slot unless there is no room. -/
theorem receive_cases (s : Nat) (m : Machine) :
    (∃ o, m.slots[s]? = some (.fresh o) ∧ m.room ≠ 0 ∧
      receive s m = (some o, { m with slots := m.slots.setIfInBounds s (.known o), room := m.room - 1 })) ∨
    ∃ told, receive s m = (told, m) ∧ (0 < m.room → told = m.slot s) := by
  rw [slot_eq]
  cases hs : m.slots[s]? with
  | none => exact .inr ⟨none, by simp only [receive, hs], fun _ => rfl⟩
  | some slot =>
    cases slot with
    | empty => exact .inr ⟨none, by simp only [receive, hs], fun _ => rfl⟩
    | known o => exact .inr ⟨some o, by simp only [receive, hs], fun _ => rfl⟩
    | fresh o =>
      by_cases hroom : m.room = 0
      · exact .inr ⟨none, by simp only [receive, hs, if_pos hroom], fun hpos => absurd hroom (Nat.ne_of_gt hpos)⟩
      · exact .inl ⟨o, rfl, hroom, by simp only [receive, hs, if_neg hroom]⟩

theorem receive_sees (s : Nat) : Sees (receive s) fun m => m.slot s := by
  constructor
  case taken =>
    intro m
    rcases receive_cases s m with ⟨o, hs, -, heq⟩ | ⟨told, heq, -⟩
    · rw [heq]
      refine ⟨fun t => ?_, _, _, rfl, Array.size_setIfInBounds⟩
      obtain ⟨hlt, hget⟩ := Array.getElem?_eq_some_iff.mp hs
      by_cases ht : s = t
      · subst ht
        simp [slot_eq, hget, hlt, Slot.outcome?]
      · simp [slot_eq, Array.getElem?_setIfInBounds_ne ht]
    · rw [heq]
      exact Taken.refl m
  case account =>
    intro m
    rcases receive_cases s m with ⟨o, hs, hroom, heq⟩ | ⟨told, heq, -⟩
    · rw [heq]
      obtain ⟨hlt, hget⟩ := Array.getElem?_eq_some_iff.mp hs
      have hpos : 0 < m.slots.countP Slot.isFresh :=
        Array.countP_pos_iff.mpr ⟨_, Array.getElem_mem hlt, by rw [hget]; rfl⟩
      simp only [freshCount, Array.setIfInBounds, hlt, dif_pos, Array.countP_set, hget, Slot.isFresh]
      simp only [if_true, Bool.false_eq_true, if_false]
      omega
    · rw [heq]
  case idle =>
    intro m hpos hsame
    rcases receive_cases s m with ⟨o, -, hroom, heq⟩ | ⟨told, heq, htold⟩
    · rw [heq] at hsame
      have : m.room - 1 = m.room := hsame
      omega
    · rw [heq, htold hpos]
  case used =>
    intro m
    rcases receive_cases s m with ⟨o, -, -, heq⟩ | ⟨told, heq, -⟩
    · rw [heq]
      exact Nat.sub_le _ _
    · exact Nat.le_of_eq (by rw [heq])
  case ample =>
    intro m hleft
    rcases receive_cases s m with ⟨o, hs, -, heq⟩ | ⟨told, heq, htold⟩
    · rw [heq, slot_eq, hs]
      rfl
    · rw [heq] at hleft ⊢
      exact htold (Nat.pos_of_ne_zero hleft)
  case steady =>
    intro m m' htaken
    exact htaken.slot s

/-- What is told is in the slot. -/
theorem told_of_receive {m : Machine} {s : Nat} {o : Outcome} (h : (receive s m).1 = some o) : m.slot s = some o := by
  rw [Machine.slot_eq]
  unfold receive at h
  split at h
  · next hs =>
    rw [hs]
    exact h
  · next hs =>
    rw [hs]
    split at h
    · cases h
    · exact h
  · cases h

/-! ### Looks through trees and along paths -/

section

variable {π : Type} {ask : π → StateM Machine (Poll Value)} {view : Machine → π → Poll Value}

open Progress in
mutual

theorem look_sees (hask : ∀ p, Sees (ask p) fun m => view m p) : ∀ r : Progress π,
    Sees (r.look ask) fun m => r.look (m := Id) (view m)
  | .done o => .pure _
  | .pending p => by
    simp only [look]
    refine (hask p).bind _ (fun told _ => match told with
      | some o => done o
      | none => pending p) fun told => ?_
    cases told <;> exact .pure _
  | .parts whole items => by
    simp only [look]
    refine (lookAll_sees hask (crowded items) true items).bind _ (fun items _ => match gathered items with
      | some o => done (o.map whole)
      | none => parts whole items) fun items => ?_
    cases gathered items <;> exact .pure _

theorem lookAll_sees (hask : ∀ p, Sees (ask p) fun m => view m p) (crowd : Bool) :
    ∀ (counts : Bool) (items : List (Progress π)),
      Sees (lookAll ask crowd counts items) fun m => lookAll (m := Id) (view m) crowd counts items
  | _, [] => .pure _
  | counts, r :: rest => by
    simp only [lookAll]
    refine (look_sees hask r).bind _ (fun first m => if counts && first.failed then first :: rest else
      first :: lookAll (m := Id) (view m) crowd (!crowd || counts && first.succeeded) rest) fun first => ?_
    split
    · exact .pure _
    · exact (lookAll_sees hask crowd _ rest).bind _ (fun rest' _ => first :: rest') fun rest' => .pure _

end

theorem lookThrough_sees (hask : ∀ p, Sees (ask p) fun m => view m p) (items : List (Progress π)) :
    Sees (Progress.lookThrough ask items) fun m => Progress.lookThrough (m := Id) (view m) items :=
  lookAll_sees hask _ _ items

open Resolvable

theorem await_sees (hask : ∀ p, Sees (ask p) fun m => view m p) (r : Resolvable π) :
    Sees (r.await ask) fun m => r.await (m := Id) (view m) := by
  cases r with
  | pending p =>
    simp only [Resolvable.await]
    refine (hask p).bind _ (fun told _ => told.map (Except.map Resolvable.ready)) fun told => ?_
    exact .pure _
  | _ => exact .pure _

theorem navigate_sees (hask : ∀ p, Sees (ask p) fun m => view m p) (path : Path) : ∀ r : Resolvable π,
    Sees (r.navigate ask path) fun m => r.navigate (m := Id) (view m) path := by
  induction path with
  | nil => exact await_sees hask
  | cons segment rest ih =>
    intro r
    simp only [navigate]
    refine (await_sees hask r).bind _ (fun told m => proceed (view m) segment rest told) fun told => ?_
    rcases told with - | f | found
    · exact .pure _
    · exact .pure _
    · cases hstep : found.step segment with
      | ok next =>
        simp only [hstep, proceed]
        exact ih next
      | error cause =>
        simp only [hstep, proceed]
        exact .pure _

theorem force_sees (hask : ∀ p, Sees (ask p) fun m => view m p) (r : Resolvable π) :
    Sees (r.force ask) fun m => r.force (m := Id) (view m) :=
  (look_sees hask r.progress).bind _ (fun r _ => r.outcome?) fun _ => .pure _

theorem obtain?_sees (hask : ∀ p, Sees (ask p) fun m => view m p) (r : Resolvable π) (path : Path) :
    Sees (r.obtain? ask path) fun m => r.obtain? (m := Id) (view m) path := by
  simp only [obtain?]
  refine (navigate_sees hask path r).bind _ (fun told m => conclude (view m) told) fun told => ?_
  rcases told with - | f | found
  · exact .pure _
  · exact .pure _
  · exact force_sees hask found

end

/-- The failure of what a link leads to is that of the link, attributed to its reader. -/
theorem blamed_tells {M : Type → Type} [Monad M] (telling : Telling M) {x : M (Poll Value)} {fault fault' : Fault → Prop}
    {blamed : Option Value} (hx : telling.holds x (Progress.Tells fault))
    (hblame : ∀ f : Fault, fault f → fault' (f.blame? blamed)) :
    telling.holds (x >>= fun found => Pure.pure (found.map (Except.mapError (Fault.blame? · blamed))))
      (Progress.Tells fault') := by
  refine telling.bind hx fun found hfound => telling.pure fun f hf => ?_
  obtain ⟨o, rfl, ho⟩ := Option.map_eq_some_iff.mp hf
  cases o with
  | ok v => cases ho
  | error f₀ =>
    cases ho
    exact hblame f₀ (hfound f₀ rfl)

/-- A link is looked at through the slots. -/
theorem linked_sees (l : Link) : Sees (l.look receive) fun m => m.linked l := by
  rcases l with ⟨base, path, blamed⟩
  cases base with
  | error f => exact .pure _
  | ok base =>
    exact (obtain?_sees receive_sees base path).bind _
      (fun found _ => found.map (Except.mapError (Fault.blame? · blamed))) fun _ => .pure _

theorem ask_sees (a : Awaited) : Sees (ask a) fun m => m.standing a := by
  cases a with
  | link l => exact linked_sees l
  | _ =>
    refine ⟨fun m => Taken.refl m, fun _ => rfl, fun _ _ _ => rfl, fun _ => Nat.le_refl _, fun _ _ => rfl, ?_⟩
    intro m m' htaken
    obtain ⟨slots, room, rfl, -⟩ := htaken.rest
    rfl

end Machine

end StageGraph
