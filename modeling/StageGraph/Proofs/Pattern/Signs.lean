import StageGraph.Proofs.Pattern.Seam

/-! The notation of single characters, classes and conditions is local.

One lemma for each function that reads notation. Where a function has fuel, it is shown first that fuel makes no
difference as long as there is enough for the text. -/
namespace StageGraph.Pattern

variable {back : List Char}

/-! ### Braces and numbers -/

theorem braced_fuel (m : Modes) : ∀ (text : List Char) (fuel fuel' : Nat), text.length + 1 ≤ fuel →
    text.length + 1 ≤ fuel' → braced m fuel text = braced m fuel' text
  | [], fuel + 1, fuel' + 1, _, _ => rfl
  | c :: text, fuel + 1, fuel' + 1, h, h' => by
    have hskip := m.skip_length text
    rw [List.length_cons] at h h'
    by_cases hc : c = '}'
    · subst hc
      rfl
    · simp only [braced]
      rw [braced_fuel m (m.skip text) fuel fuel' (by omega) (by omega)]
  termination_by text => text.length

theorem braced_local (m : Modes) : ∀ fuel, Local (braced m fuel)
  | 0 => .of_eq (fun _ => rfl) .fail
  | fuel + 1 => by
    refine .item (n := fun c text => if c = '}' then some ([], text) else
      (braced m fuel (m.skip text)).map fun x => (c :: x.1, x.2)) (fun c => ?_) rfl fun c text => ?_
    · exact (Local.pure []).ite (((braced_local m fuel).skipped m).map _)
    · by_cases hc : c = '}'
      · subst hc
        rfl
      · simp [braced, hc]

theorem braced_length {m : Modes} {fuel : Nat} {text cs rest : List Char}
    (h : braced m fuel text = some (cs, rest)) : rest.length < text.length := by
  cases fuel with
  | zero => cases h
  | succ fuel =>
    cases text with
    | nil => cases h
    | cons c text =>
      by_cases hc : c = '}'
      · subst hc
        cases h
        exact Nat.lt_succ_self _
      · simp only [braced, Option.map_eq_some_iff, Prod.mk.injEq] at h
        obtain ⟨⟨cs', rest'⟩, hb, -, rfl⟩ := h
        have := ((braced_local m fuel).skipped m).suffix hb
        exact Nat.lt_succ_of_le this.length_le

/-- Braces with the fuel that a text needs. -/
theorem bracedAll_local (m : Modes) : Local fun text => braced m (text.length + 1) text :=
  .fueled (braced_local m) (braced_fuel m)

theorem bracedSkipped_local (m : Modes) : Local fun text => braced m (text.length + 1) (m.skip text) := by
  refine .of_eq (fun text => ?_) ((bracedAll_local m).skipped m)
  exact braced_fuel m _ _ _ (Nat.succ_le_succ (m.skip_length text)) (Nat.le_refl _)

theorem hexDigits_local (m : Modes) : ∀ left value, Local (hexDigits m left value)
  | 0, value => .pure value
  | left + 1, value => by
    refine .item (n := fun c text => (hexDigit? c).bind fun d =>
      hexDigits m left (value * 16 + d) (m.skip text)) (fun c => ?_) rfl fun _ _ => rfl
    cases hexDigit? c with
    | none => exact .fail
    | some d => exact (hexDigits_local m left _).skipped m

theorem digitsNumber?_local (m : Modes) (digits : Nat) : Local (digitsNumber? m digits) :=
  (hexDigits_local m digits 0).bindOption scalar? fun c => Sign.literal c (digits == 2)

theorem bracedNumber?_local (m : Modes) : Local (bracedNumber? m) := by
  refine (bracedSkipped_local m).bind (n := fun cs text =>
    (bracedScalar? cs).bind fun c => some (Sign.literal c false, m.skip text)) fun cs => ?_
  cases bracedScalar? cs with
  | none => exact .fail
  | some c => exact (Local.pure (Sign.literal c false)).thenSkip m

theorem numbered?_local (m : Modes) (digits : Nat) : Local (numbered? m digits) := by
  refine .of_eq (fun text => ?_)
    (.byFront [(['\x7b'], bracedNumber? m)] (digitsNumber?_local m digits) ?_)
  · simp only [numbered?]
    split
    · rfl
    · next h => rw [byFront_skip h, byFront]
  · simp [bracedNumber?_local]

theorem propertyName?_local (m : Modes) : Local (propertyName? m) := by
  refine .item (n := fun c text => if c = '\x7b' then braced m (text.length + 1) (m.skip text)
    else if c = '\\' then none else some ([c], m.skip text)) (fun c => ?_) rfl fun c text => ?_
  · exact (bracedSkipped_local m).ite (Local.fail.ite ((Local.pure [c]).thenSkip m))
  · by_cases hc : c = '\x7b'
    · subst hc
      rfl
    · simp [propertyName?, hc]

theorem propertyClass?_local (m : Modes) (negated : Bool) : Local (propertyClass? m negated) :=
  (propertyName?_local m).bindOption (propertySign? m negated) id

/-! ### Escapes -/

theorem namedCondition?_local (m : Modes) : Local (namedCondition? m) :=
  (bracedAll_local m).bindOption (fun cs => wordCondition? m.unicode (String.ofList cs)) Sign.look

/-- Skipping ends in front of a seam, or where no condition can be named. -/
theorem skip_front_condition (m : Modes) (front : List Char) :
    (∃ c more, ∀ back, m.skip (front ++ back) = c :: more ++ back) ∨ ∀ back, Seam back →
      (m.skip (front ++ back)).length ≤ back.length ∧
        ('\n' ∉ back → (m.skip (front ++ back)).head?.any isConditionLetter = false) := by
  refine (m.skip_front front).imp id fun ⟨inside, h⟩ back hs => ?_
  rw [h back hs]
  refine ⟨(skipBlank_suffix inside back).length_le, fun hline => ?_⟩
  cases inside with
  | false =>
    rw [skipBlank_seam hs]
    exact hs.head_any (by decide)
  | true =>
    rw [skipBlank_comment hline]
    rfl

/-- The braces behind a boundary are looked into past a seam, but nothing found there could be read. -/
theorem boundary?_local (m : Modes) : Local (boundary? m) := by
  have hplain : Local fun text => some (Sign.look (.wordBoundary m.unicode), text) := .pure _
  constructor
  · intro text rest sign h
    simp only [boundary?] at h
    split at h
    · split at h
      · exact (((namedCondition?_local m).skipped m).suffix h).trans (List.suffix_cons ..)
      · exact hplain.suffix h
    · exact hplain.suffix h
  · intro front back back' rest sign hs hs' hline h
    cases front with
    | nil =>
      have hb {b : List Char} (hs : Seam b) :
          boundary? m b = some (.look (.wordBoundary m.unicode), b) := by
        rcases hs with rfl | ⟨more, rfl⟩ <;> rfl
      rw [List.nil_append, hb hs] at h
      rw [List.nil_append, hb hs']
      exact hplain.across [] hs hs' hline h
    | cons c front =>
      by_cases hc : c = '\x7b'
      · subst hc
        simp only [List.cons_append, boundary?] at h ⊢
        rcases skip_front_condition m front with ⟨c, more, hstop⟩ | hpast
        · have hfirst (back : List Char) :
              (m.skip (front ++ back)).head?.any isConditionLetter = isConditionLetter c := by
            rw [hstop]
            rfl
          by_cases hl : isConditionLetter c = true
          · rw [if_pos (by rw [hfirst, hl]), hstop] at h ⊢
            exact (namedCondition?_local m).across (c :: more) hs hs' hline h
          · rw [if_neg (by rw [hfirst]; exact hl)] at h ⊢
            exact hplain.across (_ :: _) hs hs' hline h
        · rw [(hpast back' hs').2 hline, if_neg Bool.false_ne_true]
          split at h
          · obtain ⟨⟨cs, rest'⟩, hb, hl⟩ := Option.bind_eq_some_iff.mp h
            obtain ⟨l, -, he⟩ := Option.bind_eq_some_iff.mp hl
            cases he
            have hlength := braced_length hb
            have := (hpast back hs).1
            rw [List.length_append] at hlength
            omega
          · exact hplain.across (_ :: _) hs hs' hline h
      · have hb (text : List Char) :
            boundary? m (c :: text) = some (.look (.wordBoundary m.unicode), c :: text) := by
          simp [boundary?, hc]
        rw [List.cons_append, hb] at h
        rw [List.cons_append, hb]
        exact hplain.across (c :: front) hs hs' hline h

/-- The reader behind the letter of an escape. -/
def escaped (m : Modes) (c : Char) : Reader Sign := fun text => escape? m (c :: text)

theorem escaped_local (m : Modes) (c : Char) : Local (escaped m c) := by
  have hplain (sign : Sign) : Local fun text => some (sign, text) := .pure sign
  unfold escaped
  simp only [escape?]
  refine .ite ((numbered?_local m _).skipped m) (.ite ((propertyClass?_local m _).skipped m)
    (.ite (hplain _) (.ite ?_ (.ite (hplain _) ?_))))
  · cases m.negate true (letterClass m c.toLower) with
    | none => exact .fail
    | some cls => exact hplain _
  · split <;> first | exact hplain _ | exact .fail | exact boundary?_local m

theorem escape?_local (m : Modes) : Local (escape? m) :=
  .item (escaped_local m) rfl fun _ _ => rfl

end StageGraph.Pattern
