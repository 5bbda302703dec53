import StageGraph.Proofs.Calls.Staff
import StageGraph.Proofs.Resolvable.Decisive

/-! The outputs of children, put together.

A task that waits for the outputs of several children has one part for each of them, in order: the output once it is
known, and before that the promise of it (`Part`). Looking keeps the parts in order (`look_parts_of`). What they are
together is the list of the values of all children (`values_of_gathered`), or the failure of one of them; in a crowd,
of one with all before it there (`failure_of_gathered`). While nothing is known of the whole, some part is not there,
with nothing but values before it (`open_of_gathered`). -/
namespace StageGraph.Machine

open Progress

variable {m m' : Machine}

/-- What is known of a child's output, or the promise of it. -/
inductive Part (m : Machine) (c : Nat) : Progress Awaited → Prop
  | known {o : Outcome} : m.standing (.output c) = some o → Part m c (.done o)
  | promised : Part m c (.pending (.output c))

/-- The output of a child is a value. -/
def Gives (m : Machine) (c : Nat) (v : Value) : Prop := m.standing (.output c) = some (.ok v)

theorem Extends.gives (he : m.Extends m') {c : Nat} {v : Value} (h : m.Gives c v) : m'.Gives c v :=
  he.outcome (a := .output c) h

theorem Extends.part (he : m.Extends m') {c : Nat} {r : Progress Awaited} (h : m.Part c r) : m'.Part c r := by
  cases h with
  | known ho => exact .known (he.outcome (a := .output c) ho)
  | promised => exact .promised

/-- A part stands as one of several that are waited for. -/
theorem Part.stands {c : Nat} {r : Progress Awaited} (h : m.Part c r) :
    Stands (fun c o => m.standing (.output c) = some o) (fun c a => a = .output c) c r := by
  cases h with
  | known ho => exact .done ho
  | promised => exact .pending rfl

/-! ### Looking -/

theorem Part.look {c : Nat} {r : Progress Awaited} (h : m.Part c r) :
    m.Part c (Progress.look (m := Id) m.standing r) := by
  cases h with
  | known ho => exact .known ho
  | promised =>
    rw [look_pending]
    cases ho : m.standing (.output c) with
    | none => exact .promised
    | some o => exact .known ho

/-- A look keeps the parts in order. -/
theorem look_parts_of (crowd : Bool) {cs : List Nat} {parts : List (Progress Awaited)}
    (h : List.Forall₂ m.Part cs parts) : ∀ counts : Bool,
      List.Forall₂ m.Part cs (lookAll (m := Id) m.standing crowd counts parts) := by
  induction h with
  | nil => exact fun _ => .nil
  | cons hpart hrest ih =>
    intro counts
    rw [lookAll_cons]
    split
    · exact .cons hpart.look hrest
    · exact .cons hpart.look (ih _)

theorem crowded_iff {cs : List Nat} {parts : List (Progress Awaited)} (h : List.Forall₂ m.Part cs parts) :
    crowded parts = true ↔ 30 < cs.length := by
  rw [crowded, h.length_eq, decide_eq_true_iff]

/-- Nothing of the parts can break down. -/
theorem parts_sound {cs : List Nat} {parts : List (Progress Awaited)} (h : List.Forall₂ m.Part cs parts) :
    ∀ a ∈ awaitedOfAll parts, a.isBroken = false := by
  induction h with
  | nil => exact nofun
  | cons hpart _ ih =>
    intro a ha
    rcases List.mem_append.mp ha with ha | ha
    · cases hpart with
      | known => cases ha
      | promised =>
        rw [List.mem_singleton.mp ha]
        rfl
    · exact ih a ha

/-! ### What the parts are together -/

/-- The values of all parts are those of the children. -/
theorem values_of_gathered {crowd : Bool} {cs : List Nat} {parts : List (Progress Awaited)}
    (h : List.Forall₂ m.Part cs parts) : ∀ {values : List Value}, Progress.gather crowd parts = some (.ok values) →
      List.Forall₂ m.Gives cs values := by
  induction h with
  | nil =>
    intro values hg
    cases crowd <;> cases hg <;> exact .nil
  | @cons c r cs parts hpart hrest ih =>
    intro values hg
    cases hpart with
    | promised => exact absurd hg (gather_cons_ok rfl parts values)
    | @known o ho =>
      cases o with
      | error f =>
        rw [gather_error_cons] at hg
        cases hg
      | ok v =>
        rw [gather_ok_cons] at hg
        obtain ⟨o, hmore, hmap⟩ := Option.map_eq_some_iff.mp hg
        cases o with
        | error f => cases hmap
        | ok more =>
          cases hmap
          exact .cons ho (ih hmore)

/-- The failure of the parts is that of a child. -/
theorem failure_of_gathered {crowd : Bool} {cs : List Nat} {parts : List (Progress Awaited)}
    (h : List.Forall₂ m.Part cs parts) {f : Fault} (hg : Progress.gather crowd parts = some (.error f)) :
    ∃ front c back, cs = front ++ c :: back ∧ m.standing (.output c) = some (.error f) ∧
      (crowd = true → ∀ d ∈ front, ∃ v, m.Gives d v) := by
  have hfine (c : Nat) (v : Value) (hv : m.standing (.output c) = some (.ok v)) : (∃ v, m.Gives c v) ∧ True :=
    ⟨⟨v, hv⟩, trivial⟩
  have hfails (c : Nat) (g : Fault) (hf : m.standing (.output c) = some (.error g)) : ¬(∃ v, m.Gives c v) ∧ True := by
    refine ⟨fun ⟨v, hv⟩ => ?_, trivial⟩
    cases hv.symm.trans hf
  have hstands := h.imp fun _ _ => Part.stands
  obtain ⟨c, hc, front, back, hsplit, -, -, hfront⟩ := gather_error_decides hfine hfails hstands hg
  exact ⟨front, c, back, hsplit, hc, fun hcrowd d hd => (hfront hcrowd d hd).1⟩

/-- Of a few parts none has failed as long as nothing is known of the whole. -/
theorem promised_of_together {cs : List Nat} {parts : List (Progress Awaited)} (h : List.Forall₂ m.Part cs parts)
    (hg : ∀ f, Progress.gather false parts ≠ some (.error f)) :
    ∀ c ∈ cs, (∃ v, m.Gives c v) ∨ .pending (.output c) ∈ parts := by
  induction h with
  | nil => exact nofun
  | @cons c r cs parts hpart hrest ih =>
    have hrest' : ∀ f, Progress.gather false parts ≠ some (.error f) := by
      intro f hf
      obtain ⟨g, hg'⟩ : ∃ g, Progress.gather false (r :: parts) = some (.error g) := gather_cons_fails nofun hf
      exact hg g hg'
    intro d hd
    rcases List.mem_cons.mp hd with rfl | hd
    · cases hpart with
      | promised => exact .inr List.mem_cons_self
      | @known o ho =>
        cases o with
        | ok v => exact .inl ⟨v, ho⟩
        | error f => exact absurd (gather_error_cons false f parts) (hg f)
    · exact (ih hrest' d hd).imp_right (List.mem_cons_of_mem _)

/-- Of parts of which nothing is known as a whole, one is not there, and before it are values only. -/
theorem open_of_gathered {crowd : Bool} {cs : List Nat} {parts : List (Progress Awaited)}
    (h : List.Forall₂ m.Part cs parts) (hg : Progress.gather crowd parts = none) :
    ∃ front c back, cs = front ++ c :: back ∧ (∀ d ∈ front, ∃ v, m.Gives d v) ∧ .pending (.output c) ∈ parts ∧
      (crowd = false → ∀ d ∈ back, (∃ v, m.Gives d v) ∨ .pending (.output d) ∈ parts) := by
  induction h with
  | nil => cases crowd <;> cases hg
  | @cons c r cs parts hpart hrest ih =>
    cases hpart with
    | promised =>
      refine ⟨[], c, cs, rfl, nofun, List.mem_cons_self, fun hfew d hd => ?_⟩
      refine (promised_of_together hrest (fun f hf => ?_) d hd).imp_right (List.mem_cons_of_mem _)
      rw [hfew, (gather_cons_error rfl).mpr ⟨rfl, hf⟩] at hg
      cases hg
    | @known o ho =>
      cases o with
      | error f =>
        rw [gather_error_cons] at hg
        cases hg
      | ok v =>
        rw [gather_ok_cons] at hg
        obtain ⟨front, d, back, rfl, hfront, hd, hback⟩ := ih (Option.map_eq_none_iff.mp hg)
        refine ⟨c :: front, d, back, rfl, fun e he => ?_, List.mem_cons_of_mem _ hd, fun hfew e he => ?_⟩
        · rcases List.mem_cons.mp he with rfl | he
          · exact ⟨v, ho⟩
          · exact hfront e he
        · exact (hback hfew e he).imp_right (List.mem_cons_of_mem _)

end StageGraph.Machine
