import StageGraph.Proofs.Pattern.Reach
import StageGraph.Proofs.Pattern.Rows

/-! The pattern for whole texts, as a tree.

A pattern is put in a group between the conditions for the start and the end (`wrap`). It then occurs in a text
exactly if it matches all of it (`wrap_occursIn_iff`), as long as its repetitions are in order, which those of
patterns that have been read are. What wrapping adds to its size is little, but it may be too much. -/
namespace StageGraph.Pattern

/-! ### Patterns that have been read are in order -/

theorem ordered_row {ps : List Pattern} (h : orderedAll ps = true) : (row ps).ordered = true := by
  match ps, h with
  | [], _ => rfl
  | [p], h => simpa [orderedAll, row] using h
  | _ :: _ :: _, h => exact h

theorem ordered_choice {ps : List Pattern} (h : orderedAll ps = true) : (choice ps).ordered = true := by
  match ps, h with
  | [], _ => rfl
  | [p], h => simpa [orderedAll, choice] using h
  | _ :: _ :: _, h => exact h

theorem orderedAll_iff {ps : List Pattern} : orderedAll ps = true ↔ ∀ p ∈ ps, p.ordered = true := by
  induction ps with
  | nil => simp [orderedAll]
  | cons p ps ih => simp [orderedAll, ih]

theorem ordered_repeatLast {least : Nat} {most : Option Nat} {done done' : List Pattern}
    (hb : most.all (least ≤ ·) = true) (hd : orderedAll done = true)
    (h : repeatLast least most done = some done') : orderedAll done' = true := by
  cases done with
  | nil => cases h
  | cons p before =>
    simp only [orderedAll, Bool.and_eq_true] at hd
    have he : done' = .repeated p least most :: before := by
      cases p <;> cases h <;> rfl
    rw [he]
    simp [orderedAll, ordered, hb, hd]

theorem bounds?_ordered {m : Modes} {text rest : List Char} {least : Nat} {most : Option Nat}
    (h : bounds? m text = some ((least, most), rest)) : most.all (least ≤ ·) = true := by
  obtain ⟨⟨n, text'⟩, -, h⟩ := Option.bind_eq_some_iff.mp h
  obtain ⟨⟨n', text''⟩, -, h⟩ := Option.bind_eq_some_iff.mp h
  simp only [bounded?] at h
  split at h
  · split at h
    · next hb =>
      cases h
      exact hb
    · cases h
  · cases h

theorem literal?_ordered {m : Modes} {c : Char} {byte : Bool} {p : Pattern}
    (h : literal? m c byte = some p) : p.ordered = true := by
  simp only [literal?] at h
  split at h
  · cases h
  · split at h <;> cases h <;> rfl

/-- A sign is a class or a condition. -/
theorem sign?_ordered {m : Modes} {text rest : List Char} {p : Pattern}
    (h : sign? m text = some (p, rest)) : p.ordered = true := by
  simp only [sign?] at h
  split at h
  · cases h
  · obtain ⟨p', hd, he⟩ := Option.map_eq_some_iff.mp h
    cases he
    simp only [dot?] at hd
    split at hd <;> cases hd
    rfl
  · cases h
    rfl
  · cases h
    rfl
  · obtain ⟨⟨sign, _⟩, -, h⟩ := Option.bind_eq_some_iff.mp h
    obtain ⟨p', hs, he⟩ := Option.bind_eq_some_iff.mp h
    cases he
    cases sign with
    | literal c byte => exact literal?_ordered hs
    | members c =>
      cases hs
      rfl
    | look l =>
      cases hs
      rfl
  · obtain ⟨p', hl, he⟩ := Option.map_eq_some_iff.mp h
    cases he
    exact literal?_ordered hl

theorem step?_ordered {m : Modes} {done done' : List Pattern} {text rest : List Char}
    (hd : orderedAll done = true) (h : step? m done text = some (done', rest)) : orderedAll done' = true := by
  have hrepeat {least : Nat} {most : Option Nat} {text : List Char} (hb : most.all (least ≤ ·) = true)
      (h : (repeatLast least most done).map (fun done => (done, text)) = some (done', rest)) :
      orderedAll done' = true := by
    obtain ⟨done'', hr, he⟩ := Option.map_eq_some_iff.mp h
    cases he
    exact ordered_repeatLast hb hd hr
  simp only [step?] at h
  split at h
  · obtain ⟨⟨c, _⟩, -, he⟩ := Option.map_eq_some_iff.mp h
    cases he
    simp [orderedAll, ordered, hd]
  · exact hrepeat rfl h
  · exact hrepeat rfl h
  · exact hrepeat rfl h
  · obtain ⟨⟨⟨least, most⟩, _⟩, hb, h⟩ := Option.bind_eq_some_iff.mp h
    obtain ⟨done'', hr, he⟩ := Option.bind_eq_some_iff.mp h
    cases he
    exact ordered_repeatLast (bounds?_ordered hb) hd hr
  · obtain ⟨⟨p, _⟩, hs, he⟩ := Option.map_eq_some_iff.mp h
    cases he
    simp [orderedAll, sign?_ordered hs, hd]

/-- What is read is in order, if what was read before is. -/
theorem read_ordered : ∀ fuel,
    (∀ s text x, branches? fuel s text = some x → orderedAll x.1.1 = true) ∧
    ∀ done s text x, orderedAll done = true → row? fuel done s text = some x → x.1.1.ordered = true
  | 0 => by
    constructor
    · intro s text x h
      rw [branches?] at h
      cases h
    · intro done s text x _ h
      rw [row?] at h
      cases h
  | fuel + 1 => by
    obtain ⟨hbranches, hrow⟩ := read_ordered fuel
    refine ⟨fun s text x h => ?_, fun done s text x hd h => ?_⟩
    · rw [branches?_eq] at h
      obtain ⟨⟨⟨p, s'⟩, text'⟩, hr, h⟩ := Option.bind_eq_some_iff.mp h
      have hp := hrow [] s text _ rfl hr
      simp only [byFront] at h
      split at h
      · obtain ⟨y, hb, he⟩ := Option.map_eq_some_iff.mp h
        cases he
        simp only [orderedAll, Bool.and_eq_true]
        exact ⟨hp, hbranches _ _ _ hb⟩
      · cases h
        simp only [orderedAll, Bool.and_true]
        exact hp
    · rw [row?_eq] at h
      split at h
      · simp only [byFront] at h
        split at h
        · obtain ⟨⟨opening, rest⟩, -, h⟩ := Option.bind_eq_some_iff.mp h
          cases opening with
          | switched modes =>
            refine hrow (.empty :: done) _ _ _ ?_ h
            simpa [orderedAll, ordered] using hd
          | group modes names captures =>
            obtain ⟨⟨⟨ps, inner⟩, rest'⟩, hb, h⟩ := Option.bind_eq_some_iff.mp h
            simp only at h
            split at h
            · refine hrow (.group (choice ps) captures :: done) _ _ _ ?_ h
              simp [orderedAll, ordered, ordered_choice (hbranches _ _ _ hb), hd]
            · cases h
        · obtain ⟨⟨done', rest⟩, hs, h⟩ := Option.bind_eq_some_iff.mp h
          exact hrow _ _ _ _ (step?_ordered hd hs) h
      · cases h
        refine ordered_row (orderedAll_iff.mpr fun p hp => ?_)
        exact orderedAll_iff.mp hd p (List.mem_reverse.mp hp)

theorem tree?_eq_some {text : String} {p : Pattern} : tree? text = some p ↔
    ∃ ps s, branches? (2 * text.toList.length + 2) {} text.toList = some ((ps, s), []) ∧ p = choice ps := by
  simp only [tree?]
  split
  · next ps s hb =>
    rw [hb]
    constructor
    · rintro ⟨⟩
      exact ⟨ps, s, rfl, rfl⟩
    · rintro ⟨_, _, he, rfl⟩
      cases he
      rfl
  · next hb =>
    constructor
    · intro h
      cases h
    · rintro ⟨ps, s, he, -⟩
      exact absurd he (hb ps s)

theorem ordered_of_tree? {text : String} {p : Pattern} (h : tree? text = some p) : p.ordered = true := by
  obtain ⟨ps, s, hb, rfl⟩ := tree?_eq_some.mp h
  exact ordered_choice ((read_ordered _).1 _ _ _ hb)

/-! ### Wrapping -/

/-- A pattern in a group between the conditions for the start and the end. -/
def wrap (p : Pattern) : Pattern := .concat [.look .startText, .group p false, .look .endText]

/-- Whether a pattern matches a text from its first to its last character. -/
def MatchesWhole (p : Pattern) (value : String) : Prop :=
  Matches value.toList.toArray p 0 value.toList.toArray.size

theorem of_startText {text : Array Char} {i : Nat} (hi : i ≤ text.size)
    (h : Look.startText.holds (before text i) text[i]? = true) : i = 0 := by
  by_cases h0 : i = 0
  · exact h0
  · have hlt : i - 1 < text.size := by omega
    rw [Look.holds, before, if_neg h0, Array.getElem?_eq_getElem hlt] at h
    cases h

theorem of_endText {text : Array Char} {i : Nat} (hi : i ≤ text.size)
    (h : Look.endText.holds (before text i) text[i]? = true) : i = text.size := by
  rw [Look.holds, Option.isNone_iff_eq_none, Array.getElem?_eq_none_iff] at h
  omega

theorem wrap_occursIn_iff {p : Pattern} (ho : p.ordered = true) (value : String) :
    (wrap p).occursIn value = true ↔ p.MatchesWhole value := by
  have hw : (wrap p).ordered = true := by simp [wrap, ordered, orderedAll, ho]
  rw [occursIn_iff hw]
  constructor
  · rintro ⟨i, j, h⟩
    cases h with
    | concatCons hstart h =>
      cases h with
      | concatCons hp h =>
        cases h with
        | concatCons hend h =>
          cases hstart with
          | look _ hstart =>
            cases hp with
            | group hp =>
              cases hend with
              | look _ hend =>
                have hle := hp.le
                obtain rfl := of_startText (Nat.le_trans hle.1 hle.2) hstart
                obtain rfl := of_endText hle.2 hend
                exact hp
  · intro h
    have hle := Matches.le h
    refine ⟨0, value.toList.toArray.size, .concatCons (.look hle.1 ?_) (.concatCons (.group h)
      (.concatCons (.look hle.2 ?_) (.concatNil hle.2)))⟩
    · rfl
    · simp [Look.holds]

/-! ### What wrapping adds -/

/-- Literals that are put together take as much room as before. -/
theorem sizeOfAll_joinLiterals (back : Bool) (ss : List Shape) :
    Shape.sizeOfAll back (Shape.joinLiterals ss) = Shape.sizeOfAll back ss := by
  induction ss with
  | nil => rfl
  | cons s ss ih =>
    rw [Shape.sizeOfAll]
    unfold Shape.joinLiterals
    split
    · next a b more hjoin =>
      rw [← ih, hjoin]
      simp only [Shape.sizeOfAll, Shape.size, List.length_append, Nat.mul_add]
      omega
    · rw [← ih, Shape.sizeOfAll]

theorem sizeOfAll_le_concatOf (back : Bool) (ss : List Shape) :
    Shape.sizeOfAll back (Shape.spread ss) ≤ (Shape.concatOf ss).size back := by
  rw [← sizeOfAll_joinLiterals, Shape.concatOf]
  split
  · next h =>
    rw [h]
    exact Nat.zero_le _
  · next h =>
    rw [h]
    simp [Shape.sizeOfAll]
  · simp [Shape.size]

theorem sizeOfAll_append (back : Bool) (as bs : List Shape) :
    Shape.sizeOfAll back (as ++ bs) = Shape.sizeOfAll back as + Shape.sizeOfAll back bs := by
  induction as with
  | nil => simp [Shape.sizeOfAll]
  | cons a as ih => simp [Shape.sizeOfAll, ih, Nat.add_assoc]

/-- The two conditions take more room than can be saved on what stands between them. -/
theorem size_le_wrap (p : Pattern) (back : Bool) : p.shape.size back ≤ (wrap p).shape.size back := by
  have hwrap : (wrap p).shape = Shape.concatOf [.look .startText, p.shape, .look .endText] := rfl
  rw [hwrap]
  refine Nat.le_trans ?_ (sizeOfAll_le_concatOf back _)
  cases p.shape <;> simp [Shape.spread, Shape.sizeOfAll, sizeOfAll_append, Shape.size] <;> omega

/-- What is too large by itself is too large between the conditions. -/
theorem withinBounds_of_wrap {p : Pattern} (h : (wrap p).withinBounds = true) : p.withinBounds = true := by
  have hnesting : (wrap p).nesting = p.nesting + 2 := by
    simp [wrap, nesting, nestingAll]
  have hforward := size_le_wrap p false
  have hback := size_le_wrap p true
  simp only [withinBounds, Shape.fits, hnesting, Bool.and_eq_true, decide_eq_true_eq] at h ⊢
  omega

end StageGraph.Pattern
