import StageGraph.Pattern.Parser

/-! Reading up to a seam.

A reader takes something off the front of a text and gives the rest. Here two texts are read that have the
same front and go on differently behind a seam: with a closing parenthesis, or not at all. A reader is `Local`
if it cannot tell the two apart as long as it stays in front of the seam. There is one exception: in verbose
mode a comment runs on to the end of its line, past a seam, so that a text that ends in one may lose what
stands behind it. `Local` holds of the readers that read nothing, and it is kept by putting one reader behind
another (`Local.bind`), by looking at the next character (`Local.item`) and by choosing between readers after
a look ahead that does not see past the seam (`Local.choose`). -/
namespace StageGraph.Pattern

/-- What reads something off the front of a text. -/
abbrev Reader (α : Type) := List Char → Option (α × List Char)

/-- What a text goes on with behind a seam: a closing parenthesis, or nothing. -/
def Seam (back : List Char) : Prop := back = [] ∨ ∃ more, back = ')' :: more

/-- Whether a reader gives the rest of its text and cannot tell what stands behind a seam. -/
structure Local {α : Type} (read : Reader α) : Prop where
  suffix {text rest : List Char} {a : α} : read text = some (a, rest) → rest <:+ text
  across (front : List Char) {back back' rest : List Char} {a : α} : Seam back → Seam back' →
    '\n' ∉ back' → read (front ++ back) = some (a, rest ++ back) →
      read (front ++ back') = some (a, rest ++ back') ∨
        (back = [] ∧ rest = [] ∧ read (front ++ back') = some (a, []))

variable {α β δ : Type} {front back back' rest : List Char}

theorem not_append_suffix {c : Char} {more : List Char} : ¬(rest ++ c :: more <:+ more) := by
  intro h
  have := h.length_le
  rw [List.length_append, List.length_cons] at this
  omega

/-- What is left of a text that is left of another one shares its seam. -/
theorem seam_of_suffix {text : List Char} (h : rest ++ back <:+ text) :
    ∃ more, text = more ++ rest ++ back := by
  obtain ⟨more, rfl⟩ := h
  exact ⟨more, (List.append_assoc ..).symm⟩

namespace Local

variable {read : Reader α}

theorem pure (a : α) : Local fun text => some (a, text) where
  suffix h := by
    cases h
    exact List.suffix_refl _
  across _ _ _ _ _ _ _ _ h := by
    simp only [Option.some.injEq, Prod.mk.injEq, List.append_cancel_right_eq] at h
    obtain ⟨rfl, rfl⟩ := h
    exact .inl rfl

theorem fail : Local fun _ => (none : Option (α × List Char)) where
  suffix h := by cases h
  across _ _ _ _ _ _ _ _ h := by cases h

theorem of_eq {read' : Reader α} (he : ∀ text, read' text = read text) (h : Local read) : Local read' := by
  rwa [funext he]

theorem bind {n : α → Reader β} (h : Local read) (hn : ∀ a, Local (n a)) :
    Local fun text => (read text).bind fun x => n x.1 x.2 where
  suffix hr := by
    obtain ⟨⟨a, mid⟩, ha, hb⟩ := Option.bind_eq_some_iff.mp hr
    exact ((hn a).suffix hb).trans (h.suffix ha)
  across := by
    intro front back back' rest b hs hs' hline hr
    obtain ⟨⟨a, mid⟩, ha, hb⟩ := Option.bind_eq_some_iff.mp hr
    obtain ⟨more, rfl⟩ := seam_of_suffix ((hn a).suffix hb)
    rcases h.across _ hs hs' hline ha with ha' | ⟨rfl, hnil, ha'⟩
    · simp only [ha', Option.bind_some]
      exact (hn a).across _ hs hs' hline hb
    · right
      obtain ⟨rfl, rfl⟩ := List.append_eq_nil_iff.mp hnil
      refine ⟨rfl, rfl, ?_⟩
      simp only [ha', Option.bind_some]
      exact hb

theorem map (h : Local read) (f : α → β) : Local fun text => (read text).map fun x => (f x.1, x.2) := by
  refine of_eq (fun text => ?_) (h.bind fun a => pure (f a))
  cases read text <;> rfl

/-- Reading goes on only if what was read is something. -/
theorem bindOption (h : Local read) (f : α → Option β) (g : β → δ) :
    Local fun text => (read text).bind fun x => (f x.1).bind fun b => some (g b, x.2) := by
  refine h.bind (n := fun a text => (f a).bind fun b => some (g b, text)) fun a => ?_
  cases f a with
  | none => exact fail
  | some b => exact pure (g b)

theorem ite {c : Prop} [Decidable c] {read' : Reader α} (h : Local read) (h' : Local read') :
    Local fun text => if c then read text else read' text := by
  by_cases hc : c
  · simpa only [hc, if_true] using h
  · simpa only [hc, if_false] using h'

/-- The next character, which has to be there. -/
theorem item {n : Char → Reader α} (h : ∀ c, Local (n c)) {read : Reader α}
    (hnil : read [] = none) (hcons : ∀ c text, read (c :: text) = n c text) : Local read where
  suffix {text _ _} hr := by
    cases text with
    | nil =>
      rw [hnil] at hr
      cases hr
    | cons c text =>
      rw [hcons] at hr
      exact ((h c).suffix hr).trans (List.suffix_cons ..)
  across := by
    intro front back back' rest a hs hs' hline hr
    cases front with
    | nil =>
      rcases hs with rfl | ⟨more, rfl⟩
      · rw [List.append_nil, hnil] at hr
        cases hr
      · rw [List.nil_append, hcons] at hr
        exact absurd ((h _).suffix hr) not_append_suffix
    | cons c front =>
      rw [List.cons_append, hcons] at hr ⊢
      exact (h c).across _ hs hs' hline hr

/-- What needs a character takes one. -/
theorem length_lt (hnil : read [] = none) (h : ∀ c, Local fun text => read (c :: text))
    {text rest : List Char} {a : α} (hr : read text = some (a, rest)) : rest.length < text.length := by
  cases text with
  | nil =>
    rw [hnil] at hr
    cases hr
  | cons c text => exact Nat.lt_succ_of_le ((h c).suffix hr).length_le

/-- Choosing a reader after a look at the text that does not see past a seam. -/
theorem choose {l : List Char → δ} {n : δ → Reader α}
    (hl : ∀ {front back back'}, Seam back → Seam back' → l (front ++ back) = l (front ++ back'))
    (h : ∀ d, Local (n d)) : Local fun text => n (l text) text where
  suffix hr := (h _).suffix hr
  across := by
    intro front back back' rest a hs hs' hline hr
    rw [hl hs' hs]
    exact (h _).across _ hs hs' hline hr

/-- What reads the same with anything behind a seam as with nothing there. -/
theorem of_append (hsuffix : ∀ {text rest a}, read text = some (a, rest) → rest <:+ text)
    (h : ∀ front {back}, Seam back →
      read (front ++ back) = (read front).map fun x => (x.1, x.2 ++ back)) : Local read where
  suffix := hsuffix
  across := by
    intro front back back' rest a hs hs' hline hr
    rw [h front hs, Option.map_eq_some_iff] at hr
    obtain ⟨⟨_, _⟩, hx, he⟩ := hr
    simp only [Prod.mk.injEq, List.append_cancel_right_eq] at he
    obtain ⟨rfl, rfl⟩ := he
    left
    rw [h front hs', hx]
    rfl

/-- A reader with as much fuel as its text needs. -/
theorem fueled {f : Nat → Reader α} {need : List Char → Nat} (h : ∀ fuel, Local (f fuel))
    (hn : ∀ text fuel fuel', need text ≤ fuel → need text ≤ fuel' →
      f fuel text = f fuel' text) :
    Local fun text => f (need text) text where
  suffix hr := (h _).suffix hr
  across := by
    intro front back back' rest a hs hs' hline hr
    rw [hn _ _ _ (Nat.le_refl _) (Nat.le_max_left _ (need (front ++ back')))] at hr
    rw [hn _ _ _ (Nat.le_refl _) (Nat.le_max_right (need (front ++ back)) _)]
    exact (h _).across _ hs hs' hline hr

end Local

/-! ### Certain characters -/

theorem Seam.head_ne (h : Seam back) {c : Char} (hc : c ≠ ')') : back.head? ≠ some c := by
  rcases h with rfl | ⟨more, rfl⟩
  · simp
  · simpa using Ne.symm hc

theorem Seam.head_any (h : Seam back) {p : Char → Bool} (hp : p ')' = false) : back.head?.any p = false := by
  rcases h with rfl | ⟨more, rfl⟩
  · rfl
  · exact hp

/-- What the next character is like, as long as a seam does not begin with one that is so. -/
theorem head_any_seam {p : Char → Bool} (hp : p ')' = false) (hs : Seam back) (hs' : Seam back') :
    (front ++ back).head?.any p = (front ++ back').head?.any p := by
  cases front with
  | nil => rw [List.nil_append, List.nil_append, hs.head_any hp, hs'.head_any hp]
  | cons c front => rfl

/-- Whether certain characters come next, none of which a seam begins with. -/
theorem prefix_seam {signs : List Char} (hc : ')' ∉ signs) (hs : Seam back) :
    signs <+: front ++ back ↔ signs <+: front := by
  induction front generalizing signs with
  | nil =>
    cases signs with
    | nil => simp
    | cons c signs =>
      rcases hs with rfl | ⟨more, rfl⟩
      · simp
      · have : c ≠ ')' := fun h => hc (by simp [h])
        simp [List.cons_prefix_cons, this]
  | cons d front ih =>
    cases signs with
    | nil => simp
    | cons c signs =>
      rw [List.cons_append, List.cons_prefix_cons, List.cons_prefix_cons,
        ih fun h => hc (List.mem_cons_of_mem _ h)]

/-- The reader behind the first of some signs that come next, and another one if none of them does. -/
def byFront : List (List Char × Reader α) → Reader α → Reader α
  | [], read, text => read text
  | (signs, inside) :: rules, read, text =>
    if signs <+: text then inside (text.drop signs.length) else byFront rules read text

theorem byFront_skip {signs text : List Char} {inside read : Reader α}
    {rules : List (List Char × Reader α)} (h : ∀ more, text = signs ++ more → False) :
    byFront ((signs, inside) :: rules) read text = byFront rules read text := by
  rw [byFront, if_neg]
  rintro ⟨more, rfl⟩
  exact h more rfl

theorem Local.byFront (rules : List (List Char × Reader α)) {r : Reader α} (hr : Local r)
    (h : ∀ rule ∈ rules, ')' ∉ rule.1 ∧ Local rule.2) : Local (Pattern.byFront rules r) := by
  induction rules with
  | nil => exact hr
  | cons rule rules ih =>
    obtain ⟨signs, inside⟩ := rule
    obtain ⟨hc, hin⟩ := h _ (List.mem_cons_self ..)
    have hout := ih fun rule hrule => h rule (List.mem_cons_of_mem _ hrule)
    constructor
    · intro text rest a ht
      rw [Pattern.byFront] at ht
      split at ht
      · exact (hin.suffix ht).trans (List.drop_suffix ..)
      · exact hout.suffix ht
    · intro front back back' rest a hs hs' hline ht
      simp only [Pattern.byFront, prefix_seam hc hs, prefix_seam hc hs'] at ht ⊢
      by_cases hp : signs <+: front
      · obtain ⟨more, rfl⟩ := hp
        simp only [List.prefix_append, if_true, List.append_assoc, List.drop_left] at ht ⊢
        exact hin.across _ hs hs' hline ht
      · rw [if_neg hp] at ht ⊢
        exact hout.across _ hs hs' hline ht

/-! ### Blanks and comments -/

theorem isBlank_closing : isBlank ')' = false := by decide

theorem skipBlank_suffix : ∀ (inside : Bool) (text : List Char), skipBlank inside text <:+ text
  | true, [] => List.suffix_refl _
  | false, [] => List.suffix_refl _
  | true, c :: text => (skipBlank_suffix _ text).trans (List.suffix_cons ..)
  | false, c :: text => by
    simp only [skipBlank]
    split
    · exact (skipBlank_suffix _ text).trans (List.suffix_cons ..)
    · split
      · exact (skipBlank_suffix _ text).trans (List.suffix_cons ..)
      · exact List.suffix_refl _

/-- A comment without a line break in it takes all of its text. -/
theorem skipBlank_comment {text : List Char} (h : '\n' ∉ text) : skipBlank true text = [] := by
  induction text with
  | nil => rfl
  | cons c text ih =>
    rw [List.mem_cons, not_or] at h
    obtain ⟨hc, ht⟩ := h
    have hne : (c != '\n') = true := bne_iff_ne.mpr (Ne.symm hc)
    rw [skipBlank, hne, ih ht]

theorem skipBlank_seam (h : Seam back) : skipBlank false back = back := by
  rcases h with rfl | ⟨more, rfl⟩
  · rfl
  · have hne : (')' = '#') = False := by decide
    simp [skipBlank, isBlank_closing, hne]

/-- Skipping stops in front of a seam, or goes on behind it inside or outside a comment. -/
theorem skipBlank_front : ∀ (inside : Bool) (front : List Char),
    (∃ c more, ∀ back, skipBlank inside (front ++ back) = c :: more ++ back) ∨
      ∃ inside', ∀ back, skipBlank inside (front ++ back) = skipBlank inside' back
  | inside, [] => .inr ⟨inside, fun _ => rfl⟩
  | true, c :: front => skipBlank_front _ front
  | false, c :: front => by
    simp only [List.cons_append, skipBlank]
    by_cases hb : isBlank c = true
    · simp only [if_pos hb]
      exact skipBlank_front _ front
    · simp only [if_neg hb]
      by_cases hc : c = '#'
      · simp only [if_pos hc]
        exact skipBlank_front _ front
      · simp only [if_neg hc]
        exact .inl ⟨c, front, fun _ => rfl⟩

theorem Modes.skip_front (m : Modes) (front : List Char) :
    (∃ c more, ∀ back, m.skip (front ++ back) = c :: more ++ back) ∨
      ∃ inside, ∀ back, Seam back → m.skip (front ++ back) = skipBlank inside back := by
  by_cases hv : m.verbose = true
  · simp only [Modes.skip, if_pos hv]
    exact (skipBlank_front false front).imp id fun ⟨inside, h⟩ => ⟨inside, fun back _ => h back⟩
  · simp only [Modes.skip, if_neg hv]
    cases front with
    | nil => exact .inr ⟨false, fun back hs => (skipBlank_seam hs).symm⟩
    | cons c front => exact .inl ⟨c, front, fun _ => rfl⟩

theorem Modes.skip_suffix (m : Modes) (text : List Char) : m.skip text <:+ text := by
  rw [Modes.skip]
  split
  · exact skipBlank_suffix false text
  · exact List.suffix_refl text

theorem Modes.skip_length (m : Modes) (text : List Char) : (m.skip text).length ≤ text.length :=
  (m.skip_suffix text).length_le

theorem Modes.skip_nil (m : Modes) : m.skip [] = [] := List.suffix_nil.mp (m.skip_suffix [])

namespace Local

variable {read : Reader α}

theorem skip (m : Modes) : Local fun text => some ((), m.skip text) where
  suffix h := by
    cases h
    exact m.skip_suffix _
  across := by
    intro front back back' rest _ hs hs' hline h
    simp only [Option.some.injEq, Prod.mk.injEq, true_and] at h ⊢
    rcases m.skip_front front with ⟨c, more, hstop⟩ | ⟨inside, hpast⟩
    · rw [hstop, List.append_cancel_right_eq] at h
      exact .inl (by rw [hstop, h])
    · rw [hpast back hs] at h
      rw [hpast back' hs']
      cases inside with
      | false =>
        rw [skipBlank_seam hs] at h
        obtain rfl := List.self_eq_append_left.mp h
        exact .inl (skipBlank_seam hs')
      | true =>
        rw [skipBlank_comment hline]
        rcases hs with rfl | ⟨more, rfl⟩
        · exact .inr ⟨rfl, by simpa [skipBlank] using h.symm, rfl⟩
        · have hsuffix := skipBlank_suffix (')' != '\n') more
          rw [skipBlank] at h
          rw [h] at hsuffix
          exact absurd hsuffix not_append_suffix

theorem skipped (m : Modes) (h : Local read) : Local fun text => read (m.skip text) :=
  (skip m).bind fun _ => h

theorem thenSkip (m : Modes) (h : Local read) :
    Local fun text => (read text).map fun x => (x.1, m.skip x.2) := by
  refine of_eq (fun text => ?_) (h.bind fun a => (pure a).skipped m)
  cases read text <;> rfl

end Local

end StageGraph.Pattern
