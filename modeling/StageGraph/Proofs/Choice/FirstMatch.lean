import StageGraph.ControlFlow
import StageGraph.Proofs.Function.Binding

/-! The first pattern that matches.

Patterns are read in turn, and the first one that is not missed settles the search: if it cannot be read the search fails
with it, and otherwise it selects its target, whatever comes after it (`Judges`). Every list comes to exactly one ruling,
which `firstMatch` tells (`firstMatch_judged`). Both functions that choose by pattern go by that ruling
(`remapRegex_replies`, `caseRegex_replies`). -/
namespace StageGraph.ControlFlow

/-- A pattern that can be read, and matches the whole value. -/
def Hits (value text : String) : Prop := ∃ p, Pattern.whole? text = some p ∧ p.occursIn value = true

/-- A pattern that can be read, and does not match the whole value. -/
def Misses (value text : String) : Prop := ∃ p, Pattern.whole? text = some p ∧ p.occursIn value = false

/-- What a list of patterns comes to for a value. -/
inductive Ruling where
  | selects (target : Value)
  | unmatched
  | invalid (text : String)

/-- All patterns are read and miss up to the one that settles the ruling. -/
inductive Judges (value : String) (items : List (String × Value)) : Ruling → Prop where
  | selects {front back : List (String × Value)} {text : String} {target : Value} :
    items = front ++ (text, target) :: back → (∀ e ∈ front, Misses value e.1) → Hits value text →
      Judges value items (.selects target)
  | unmatched : (∀ e ∈ items, Misses value e.1) → Judges value items .unmatched
  | invalid {front back : List (String × Value)} {text : String} {target : Value} :
    items = front ++ (text, target) :: back → (∀ e ∈ front, Misses value e.1) → Pattern.whole? text = none →
      Judges value items (.invalid text)

variable {value text : String} {target : Value} {items rest : List (String × Value)} {ruling : Ruling}

/-! ### Rulings -/

theorem Hits.not_misses (h : Hits value text) : ¬Misses value text := by
  rintro ⟨p, hp, hmisses⟩
  obtain ⟨q, hq, hhits⟩ := h
  obtain rfl : p = q := Option.some.inj (hp.symm.trans hq)
  simp [hhits] at hmisses

theorem not_misses_of_unread (h : Pattern.whole? text = none) : ¬Misses value text := by
  rintro ⟨p, hp, -⟩
  simp [h] at hp

/-- Without the first pattern nothing is different, if it misses. -/
theorem judges_cons_of_misses (hmisses : Misses value text) :
    Judges value ((text, target) :: rest) ruling ↔ Judges value rest ruling := by
  constructor
  · intro h
    cases h with
    | @selects front back text' target' heq hfront hhits =>
      cases front with
      | nil =>
        cases heq
        exact absurd hmisses hhits.not_misses
      | cons e front =>
        cases heq
        exact .selects rfl (List.forall_mem_cons.mp hfront).2 hhits
    | unmatched hall => exact .unmatched (List.forall_mem_cons.mp hall).2
    | @invalid front back text' target' heq hfront hunread =>
      cases front with
      | nil =>
        cases heq
        exact absurd hmisses (not_misses_of_unread hunread)
      | cons e front =>
        cases heq
        exact .invalid rfl (List.forall_mem_cons.mp hfront).2 hunread
  · intro h
    cases h with
    | @selects front back text' target' heq hfront hhits =>
      have hlater : (text, target) :: rest = ((text, target) :: front) ++ (text', target') :: back := by simp [heq]
      exact .selects hlater (List.forall_mem_cons.mpr ⟨hmisses, hfront⟩) hhits
    | unmatched hall => exact .unmatched (List.forall_mem_cons.mpr ⟨hmisses, hall⟩)
    | @invalid front back text' target' heq hfront hunread =>
      have hlater : (text, target) :: rest = ((text, target) :: front) ++ (text', target') :: back := by simp [heq]
      exact .invalid hlater (List.forall_mem_cons.mpr ⟨hmisses, hfront⟩) hunread

/-- If the first pattern does not miss, it settles the ruling. -/
theorem judges_cons_of_not_misses (hmisses : ¬Misses value text) :
    Judges value ((text, target) :: rest) ruling ↔
      Hits value text ∧ ruling = .selects target ∨ Pattern.whole? text = none ∧ ruling = .invalid text := by
  constructor
  · intro h
    cases h with
    | @selects front back text' target' heq hfront hhits =>
      cases front with
      | nil =>
        cases heq
        exact .inl ⟨hhits, rfl⟩
      | cons e front =>
        cases heq
        exact absurd (List.forall_mem_cons.mp hfront).1 hmisses
    | unmatched hall => exact absurd (List.forall_mem_cons.mp hall).1 hmisses
    | @invalid front back text' target' heq hfront hunread =>
      cases front with
      | nil =>
        cases heq
        exact .inr ⟨hunread, rfl⟩
      | cons e front =>
        cases heq
        exact absurd (List.forall_mem_cons.mp hfront).1 hmisses
  · rintro (⟨hhits, rfl⟩ | ⟨hunread, rfl⟩)
    · exact .selects (List.nil_append _).symm nofun hhits
    · exact .invalid (List.nil_append _).symm nofun hunread

/-- What a ruling is told as. -/
def Ruling.told : Ruling → Except Failure (Option Value)
  | .selects target => .ok (some target)
  | .unmatched => .ok none
  | .invalid text => .error (.ofMessage ("invalid pattern " ++ Cause.quoted text))

/-- **Every list of patterns comes to exactly one ruling**, and the search tells it. -/
theorem firstMatch_judged (value : String) (items : List (String × Value)) :
    ∃ ruling, (∀ v, Judges value items v ↔ v = ruling) ∧ firstMatch value items = ruling.told := by
  induction items with
  | nil =>
    refine ⟨.unmatched, fun v => ⟨fun h => ?_, fun h => h ▸ .unmatched nofun⟩, rfl⟩
    cases h with
    | unmatched => rfl
    | selects heq => simp at heq
    | invalid heq => simp at heq
  | cons item rest ih =>
    obtain ⟨text, target⟩ := item
    cases hread : Pattern.whole? text with
    | none =>
      refine ⟨.invalid text, fun v => ?_, by simp [firstMatch, hread, Ruling.told]⟩
      have hnot : ¬Hits value text := fun ⟨p, hp, _⟩ => by simp [hread] at hp
      rw [judges_cons_of_not_misses (not_misses_of_unread hread)]
      simp [hnot, hread]
    | some p =>
      cases hoccurs : p.occursIn value with
      | true =>
        have hhits : Hits value text := ⟨p, hread, hoccurs⟩
        refine ⟨.selects target, fun v => ?_, by simp [firstMatch, hread, hoccurs, Ruling.told]⟩
        rw [judges_cons_of_not_misses hhits.not_misses]
        simp [hhits, hread]
      | false =>
        obtain ⟨ruling, hruling, htold⟩ := ih
        refine ⟨ruling, fun v => ?_, by simp [firstMatch, hread, hoccurs, htold]⟩
        rw [judges_cons_of_misses ⟨p, hread, hoccurs⟩]
        exact hruling v

theorem Judges.firstMatch (h : Judges value items ruling) : firstMatch value items = ruling.told := by
  obtain ⟨ruling', hruling, htold⟩ := firstMatch_judged value items
  rw [(hruling ruling).mp h, htold]

/-! ### What is asked -/

/-- The arguments of a choice by pattern: a value, and patterns with their targets. -/
structure Asks (args : Fields) (value : String) (items : List (String × Value)) : Prop where
  value : (Fields.get? args "value").bind Value.string? = some value
  items : (Fields.get? args "items").bind Value.pairs? = some items

theorem string?_of_check {v : Value} (h : ValueType.string.check v = true) : ∃ text, v.string? = some text := by
  cases v with
  | string text => exact ⟨text, rfl⟩
  | _ => simp [ValueType.check] at h

theorem pair?_of_check {v : Value} (h : (ValueType.tuple [.string, .any]).check v = true) :
    ∃ pair, v.pair? = some pair := by
  cases v with
  | array items =>
    rcases items with - | ⟨first, - | ⟨second, - | ⟨third, rest⟩⟩⟩
    · simp [ValueType.check, ValueType.checkAll] at h
    · simp [ValueType.check, ValueType.checkAll] at h
    · simp only [ValueType.check, ValueType.checkAll, Bool.and_true] at h
      obtain ⟨text, htext⟩ := string?_of_check h
      cases first with
      | string s => exact ⟨(s, second), rfl⟩
      | _ => simp [Value.string?] at htext
    · simp [ValueType.check, ValueType.checkAll] at h
  | _ => simp [ValueType.check] at h

theorem pairs?_of_check {v : Value} (h : pairsType.check v = true) : ∃ items, v.pairs? = some items := by
  cases v with
  | array items =>
    have hall : ∀ item ∈ items, (ValueType.tuple [.string, .any]).check item = true := by
      simpa [pairsType, ValueType.check] using h
    show ∃ pairs, items.mapM Value.pair? = some pairs
    induction items with
    | nil => exact ⟨[], rfl⟩
    | cons item rest ih =>
      obtain ⟨hitem, hrest⟩ := List.forall_mem_cons.mp hall
      obtain ⟨pair, hpair⟩ := pair?_of_check hitem
      obtain ⟨pairs, hpairs⟩ := ih (by simpa [pairsType, ValueType.check] using hrest) hrest
      exact ⟨pair :: pairs, by simp [hpair, hpairs]⟩
  | _ => simp [pairsType, ValueType.check] at h

/-- What a parameter without a default is bound to was supplied, and conforms. -/
theorem bound_of_required {f : Function} {args bound : Fields} {p : Param} (h : f.bindArguments args = .ok bound)
    (hp : p ∈ f.params) (hrequired : p.default = none) : ∃ v, Fields.get? bound p.name = some v ∧ p.type.check v = true := by
  obtain ⟨v, hv, hchecked | ⟨-, hdefault, -⟩⟩ := Function.bindParams_value (Function.bindArguments_ok h).2 hp
  · exact ⟨v, hv, hchecked⟩
  · simp [hrequired] at hdefault

/-- **Whoever is called to choose by pattern is asked with a value and patterns.** -/
theorem asks_of_bound {f : Function} (hf : f = remapRegex ∨ f = caseRegex) {args bound : Fields}
    (h : f.bindArguments args = .ok bound) : ∃ value items, Asks bound value items := by
  have hvalue : ({ name := "value", type := .string } : Param) ∈ f.params := by
    rcases hf with rfl | rfl
    · simp [remapRegex]
    · simp [caseRegex]
  have hitems : ({ name := "items", type := pairsType } : Param) ∈ f.params := by
    rcases hf with rfl | rfl
    · simp [remapRegex]
    · simp [caseRegex]
  obtain ⟨v, hv, hcheck⟩ := bound_of_required h hvalue rfl
  obtain ⟨w, hw, hcheck'⟩ := bound_of_required h hitems rfl
  obtain ⟨value, hstring⟩ := string?_of_check hcheck
  obtain ⟨items, hpairs⟩ := pairs?_of_check hcheck'
  exact ⟨value, items, ⟨by rw [hv, Option.bind_some, hstring], by rw [hw, Option.bind_some, hpairs]⟩⟩

theorem get_eq_ok {α : Type} {c : Call} {read : Value → Option α} {name : String} {a : α}
    (h : (Fields.get? c.args name).bind read = some a) : c.get read name = .ok a := by
  obtain ⟨v, hv, hread⟩ := Option.bind_eq_some_iff.mp h
  simp [Call.get, Call.arg?, hv, hread]

/-! ### What is replied -/

/-- What `remap_regex` makes of a ruling. -/
def Ruling.remapped (default : Value) : Ruling → Except Failure Value
  | .selects target => .ok target
  | .unmatched => .ok default
  | .invalid text => .error (.ofMessage ("invalid pattern " ++ Cause.quoted text))

/-- What `case_regex` is to run by a ruling. -/
def Ruling.branch (value : String) (default : Value) : Ruling → Except Failure Value
  | .selects target => .ok target
  | .unmatched =>
    match default with
    | .null => .error (.ofMessage ("no pattern matched " ++ Cause.quoted value ++ " and there is no default branch"))
    | other => .ok other
  | .invalid text => .error (.ofMessage ("invalid pattern " ++ Cause.quoted text))

variable {c : Call}

/-- **The choice of a value goes by the ruling.** -/
theorem remapRegex_replies (hasks : Asks c.args value items) (h : Judges value items ruling) :
    remapRegex.handler c = .ofExcept (ruling.remapped (c.argOrNull "default")) := by
  have hremap : remap c = ruling.remapped (c.argOrNull "default") := by
    unfold remap
    rw [get_eq_ok hasks.value, get_eq_ok hasks.items]
    show (firstMatch value items >>= fun found => pure (found.getD (c.argOrNull "default"))) = _
    rw [h.firstMatch]
    cases ruling <;> rfl
  show Reply.ofExcept (remap c) = _
  rw [hremap]

/-- **The choice of a pipeline goes by the same ruling.** -/
theorem caseRegex_replies (hasks : Asks c.args value items) (howner : c.owner.isSome) (h : Judges value items ruling) :
    branch c = ruling.branch value (c.argOrNull "default") >>= fun target =>
      (Spec.parse target).mapError Failure.ofFault := by
  have hpresent : c.owner.isNone = false := by simpa using howner
  unfold ControlFlow.branch
  rw [get_eq_ok hasks.value, get_eq_ok hasks.items]
  simp only [bind, Except.bind, hpresent, Bool.false_eq_true, if_false, h.firstMatch]
  cases ruling with
  | selects target => rfl
  | invalid text => rfl
  | unmatched => cases c.argOrNull "default" <;> rfl

theorem branch_ownerless (hasks : Asks c.args value items) (howner : c.owner.isNone = true) :
    branch c = .error (.ofMessage "case_regex needs its owning pipeline") := by
  unfold ControlFlow.branch
  rw [get_eq_ok hasks.value, get_eq_ok hasks.items]
  simp only [bind, Except.bind, howner, if_true]
  rfl

end StageGraph.ControlFlow
