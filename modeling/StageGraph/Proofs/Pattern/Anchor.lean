import StageGraph.ControlFlow
import StageGraph.Proofs.Pattern.Wrap

/-! When a pattern is anchored faithfully.

A pattern is anchored as text: it is pasted between `\A(?:` and `)\z`. What is read then is the pattern in
a group between the two conditions (`tree?_anchored_of`), unless the text and the parenthesis behind it take to each
other. Either the text ends in a comment of verbose mode, which swallows the parenthesis, so that a pattern is
refused that is one; or a parenthesis in the text closes the group in front of its end, so that what is no
pattern may be accepted. `anchored_faithful_iff` says that there is nothing else, apart from patterns that are nearly
too large. -/
namespace StageGraph.Pattern

/-- Whether a text is a pattern, however large. -/
def WellFormed (text : String) : Prop := ∃ p, tree? text = some p

/-- Whether a text is a pattern that is not too large. -/
def Accepted (text : String) : Prop := ∃ p, parse? text = some p

/-- A pattern whose last line is a comment, to which a parenthesis behind it belongs. -/
def EndsInComment (text : String) : Prop := Accepted text ∧ WellFormed (text ++ ")")

/-- No pattern by itself, but one when it is anchored: a parenthesis that nothing opened, behind what is a
pattern, closes the group of the anchored one. -/
def BreaksOut (text : String) : Prop :=
  ¬WellFormed text ∧ Accepted (anchored text) ∧
    ∃ front back, text = front ++ ")" ++ back ∧ WellFormed front ∧ ¬WellFormed (front ++ ")")

/-- A pattern that is not too large by itself, but between the two conditions. -/
def Outgrows (text : String) : Prop := ∃ p, parse? text = some p ∧ (wrap p).withinBounds = false

/-- What is meant by matching whole strings: a text is accepted if it is a pattern by itself, and then it matches
the values that this pattern matches from the first to the last character. -/
structure Faithful (text : String) : Prop where
  accepts : (∃ w, whole? text = some w) ↔ Accepted text
  matching {w : Pattern} : whole? text = some w → ∀ value,
    w.occursIn value = true ↔ ∃ p, parse? text = some p ∧ p.MatchesWhole value
  refuses : ¬Accepted text → ∀ value target rest, ControlFlow.firstMatch value ((text, target) :: rest) =
    .error (.ofMessage ("invalid pattern " ++ Cause.quoted text))
  takes {p : Pattern} : parse? text = some p → ∀ value target rest,
    (p.MatchesWhole value → ControlFlow.firstMatch value ((text, target) :: rest) = .ok (some target)) ∧
    (¬p.MatchesWhole value → ControlFlow.firstMatch value ((text, target) :: rest) =
      ControlFlow.firstMatch value rest)

/-! ### Reading up to a parenthesis -/

/-- Alternatives at the outermost level. -/
def outermost (text : List Char) : Option ((List Pattern × Scope) × List Char) :=
  branches? (2 * text.length + 2) {} text

theorem outermost_local : Local outermost := branches_local {}

theorem wellFormed_iff {text : String} : WellFormed text ↔ ∃ x, outermost text.toList = some (x, []) := by
  constructor
  · rintro ⟨p, hp⟩
    obtain ⟨ps, s, hb, -⟩ := tree?_eq_some.mp hp
    exact ⟨(ps, s), hb⟩
  · rintro ⟨⟨ps, s⟩, hb⟩
    exact ⟨choice ps, tree?_eq_some.mpr ⟨ps, s, hb, rfl⟩⟩

/-- What stands behind a pattern in an anchored text. -/
def closing : List Char := [')', '\\', 'z']

theorem seam_closing : Seam closing := .inr ⟨_, rfl⟩

theorem toList_anchored (text : String) :
    (anchored text).toList = ['\\', 'A', '(', '?', ':'] ++ (text.toList ++ closing) := by
  simp [anchored, closing, String.toList_append]

theorem row?_opening (fuel : Nat) (text : List Char) :
    row? (fuel + 2) [] {} (['\\', 'A', '(', '?', ':'] ++ text) = (branches? fuel {} text).bind fun x =>
      if x.2.head? = some ')' then
        row? fuel [.group (choice x.1.1) false, .look .startText] { names := x.1.2.names } (x.2.drop 1)
      else none := by
  have hstep : step? {} [] (['\\', 'A', '(', '?', ':'] ++ text) =
      some ([.look .startText], ['(', '?', ':'] ++ text) := rfl
  have hopening : opening? {} [] (['?', ':'] ++ text) = some (.group {} [] false, text) := rfl
  rw [row?_eq]
  show row? (fuel + 1) [.look .startText] {} (['(', '?', ':'] ++ text) = _
  rw [row?_eq]
  show opened? fuel [.look .startText] {} (['?', ':'] ++ text) = _
  rw [opened?, hopening]
  show ((branches? fuel {} text).bind fun x => _) = _
  refine Option.bind_congr fun x _ => ?_
  obtain ⟨⟨ps, inner⟩, rest⟩ := x
  cases rest with
  | nil => rfl
  | cons c rest =>
    by_cases hc : c = ')'
    · subst hc
      rfl
    · simp [hc]

theorem row?_closing (fuel : Nat) (p : Pattern) (names : List String) :
    row? (fuel + 2) [.group p false, .look .startText] { names := names } ['\\', 'z'] =
      some ((wrap p, { names := names }), []) := by
  rw [row?_eq]
  show row? (fuel + 1) [.look .endText, .group p false, .look .startText] { names := names } [] = _
  rw [row?_eq]
  rfl

/-- An anchored text is read as its pattern, the group of which has to end with a parenthesis. -/
theorem branches?_anchored (text : String) :
    ∃ fuel, branches? (2 * (anchored text).toList.length + 2) {} (anchored text).toList =
      ((outermost (text.toList ++ closing)).bind fun x =>
        if x.2.head? = some ')' then
          row? (fuel + 2) [.group (choice x.1.1) false, .look .startText] { names := x.1.2.names } (x.2.drop 1)
        else none).bind fun y => byFront
          [(['|'], fun text => (branches? (fuel + 4) y.1.2 text).map fun z => ((y.1.1 :: z.1.1, z.1.2), z.2))]
          (fun text => some (([y.1.1], y.1.2), text)) y.2 := by
  have hlength : 2 * (anchored text).toList.length + 2 = 2 * (text.toList ++ closing).length + 7 + 5 := by
    rw [toList_anchored, List.length_append]
    simp
    omega
  refine ⟨2 * (text.toList ++ closing).length + 7, ?_⟩
  have hfuel := (branches_row_fuel (2 * (text.toList ++ closing).length + 7 + 2) _).1 {}
    (text.toList ++ closing) (by omega) (Nat.le_refl _)
  rw [hlength, toList_anchored, branches?_eq, row?_opening, hfuel]
  rfl

theorem tree?_anchored_of {text : String} {ps : List Pattern} {s : Scope}
    (h : outermost (text.toList ++ closing) = some ((ps, s), closing)) :
    tree? (anchored text) = some (wrap (choice ps)) := by
  obtain ⟨fuel, hb⟩ := branches?_anchored text
  refine tree?_eq_some.mpr ⟨[wrap (choice ps)], { names := s.names }, ?_, rfl⟩
  rw [hb, h]
  show (row? (fuel + 2) _ { names := s.names } ['\\', 'z']).bind _ = _
  rw [row?_closing]
  rfl

theorem closes_of_wellFormed {text : String} (h : WellFormed (anchored text)) :
    ∃ x rest, outermost (text.toList ++ closing) = some (x, ')' :: rest) := by
  obtain ⟨p, hp⟩ := h
  obtain ⟨ps, s, hb, -⟩ := tree?_eq_some.mp hp
  obtain ⟨fuel, hb'⟩ := branches?_anchored text
  rw [hb'] at hb
  obtain ⟨y, hy, -⟩ := Option.bind_eq_some_iff.mp hb
  obtain ⟨⟨x, rest⟩, hx, hy⟩ := Option.bind_eq_some_iff.mp hy
  split at hy
  · next hc =>
    obtain ⟨more, rfl⟩ := List.head?_eq_some_iff.mp hc
    exact ⟨x, more, hx⟩
  · cases hy

/-! ### The two exceptions -/

theorem seam_nil : Seam [] := .inl rfl

theorem seam_paren (more : List Char) : Seam (')' :: more) := .inr ⟨more, rfl⟩

/-- What can be read up to a seam can be read up to any other one. -/
theorem outermost_seam {front back back' : List Char} {x : List Pattern × Scope} (hs' : Seam back')
    (hline : '\n' ∉ back') (h : outermost (front ++ ')' :: back) = some (x, ')' :: back)) :
    outermost (front ++ back') = some (x, back') := by
  have hread : outermost (front ++ ')' :: back) = some (x, [] ++ ')' :: back) := h
  rcases outermost_local.across front (seam_paren back) hs' hline hread with h | ⟨hnil, -⟩
  · exact h
  · cases hnil

theorem wellFormed_append {text : String} {more : List Char} :
    WellFormed (text ++ String.ofList more) ↔ ∃ x, outermost (text.toList ++ more) = some (x, []) := by
  rw [wellFormed_iff, String.toList_append, String.toList_ofList]

/-- A pattern is anchored as it should be, or a comment swallows the parenthesis behind it. -/
theorem anchored_of_tree? {text : String} {p : Pattern} (h : tree? text = some p) :
    (tree? (anchored text) = some (wrap p) ∧ ¬WellFormed (text ++ ")")) ∨
      (¬WellFormed (anchored text) ∧ WellFormed (text ++ ")")) := by
  obtain ⟨ps, s, hb, rfl⟩ := tree?_eq_some.mp h
  have hread : outermost (text.toList ++ []) = some ((ps, s), [] ++ []) := by
    rw [List.append_nil]
    exact hb
  have hparen : WellFormed (text ++ ")") ↔ ∃ x, outermost (text.toList ++ [')']) = some (x, []) :=
    wellFormed_append
  rw [hparen]
  rcases outermost_local.across _ seam_nil (seam_paren []) (by decide) hread with hclosed | ⟨-, -, hswallowed⟩
  · left
    refine ⟨tree?_anchored_of (outermost_seam seam_closing (by decide) hclosed), ?_⟩
    rintro ⟨x, hx⟩
    rw [hclosed] at hx
    cases hx
  · right
    refine ⟨fun ha => ?_, _, hswallowed⟩
    obtain ⟨x, rest, hx⟩ := closes_of_wellFormed ha
    rcases outermost_local.across _ seam_nil seam_closing (by decide) hread with hclosed | ⟨-, -, hnone⟩
    · have hparen := outermost_seam (seam_paren []) (by decide) hclosed
      rw [hswallowed] at hparen
      cases hparen
    · rw [hx] at hnone
      cases hnone

/-- What is no pattern but one when it is anchored has a parenthesis that closes the group. -/
theorem unmatched_of_anchored {text : String} (h : ¬WellFormed text) (ha : WellFormed (anchored text)) :
    ∃ front back, text = front ++ ")" ++ back ∧ WellFormed front ∧ ¬WellFormed (front ++ ")") := by
  obtain ⟨x, rest, hx⟩ := closes_of_wellFormed ha
  obtain ⟨front, hfront⟩ := outermost_local.suffix hx
  rw [← hfront] at hx
  have hread : outermost front = some (x, []) := by
    simpa using outermost_seam seam_nil (by decide) hx
  -- Were there nothing in front of the parenthesis but all of the text, the text would be a pattern.
  have hin : ∃ back, text.toList = front ++ ')' :: back := by
    rcases List.append_eq_append_iff.mp hfront with ⟨more, htext, hrest⟩ | ⟨more, rfl, hrest⟩
    · cases more with
      | nil =>
        rw [List.append_nil] at htext
        rw [← htext] at hread
        exact absurd (wellFormed_iff.mpr ⟨x, hread⟩) h
      | cons c back =>
        obtain ⟨rfl, -⟩ := List.cons.inj hrest
        exact ⟨back, htext⟩
    · have hnil : more = [] := by
        cases more with
        | nil => rfl
        | cons c more =>
          obtain ⟨-, hrest⟩ := List.cons.inj hrest
          have hmem : ')' ∈ ['\\', 'z'] := by
            rw [hrest]
            simp
          exact absurd hmem (by decide)
      rw [hnil, List.append_nil] at hread
      exact absurd (wellFormed_iff.mpr ⟨x, hread⟩) h
  obtain ⟨back, hback⟩ := hin
  refine ⟨String.ofList front, String.ofList back, ?_, ?_, ?_⟩
  · rw [← String.toList_inj, hback]
    simp [String.toList_append]
  · rw [wellFormed_iff, String.toList_ofList]
    exact ⟨x, hread⟩
  · have hparen := outermost_seam (seam_paren []) (by decide) hx
    intro hw
    obtain ⟨y, hy⟩ := wellFormed_append.mp hw
    rw [String.toList_ofList] at hy
    rw [hparen] at hy
    cases hy

/-! ### Faithful anchoring -/

theorem parse?_eq_some {text : String} {p : Pattern} :
    parse? text = some p ↔ tree? text = some p ∧ p.withinBounds = true := by
  rw [parse?, Option.filter_eq_some_iff]

/-- What is accepted when it is anchored: a pattern between the conditions, or what breaks out. -/
theorem parse?_of_whole? {text : String} (hb : ¬BreaksOut text) {w : Pattern} (h : whole? text = some w) :
    ∃ p, parse? text = some p ∧ w = wrap p := by
  obtain ⟨htree, hbounds⟩ := parse?_eq_some.mp h
  by_cases hw : WellFormed text
  · obtain ⟨p, hp⟩ := hw
    rcases anchored_of_tree? hp with ⟨hwrap, -⟩ | ⟨hnone, -⟩
    · rw [hwrap] at htree
      obtain rfl := Option.some.inj htree
      exact ⟨p, parse?_eq_some.mpr ⟨hp, withinBounds_of_wrap hbounds⟩, rfl⟩
    · exact absurd ⟨w, htree⟩ hnone
  · exact absurd ⟨hw, ⟨w, h⟩, unmatched_of_anchored hw ⟨w, htree⟩⟩ hb

/-- What is a pattern by itself is accepted when it is anchored, outside of the exceptions. -/
theorem whole?_of_parse? {text : String} (hc : ¬EndsInComment text) (ho : ¬Outgrows text) {p : Pattern}
    (h : parse? text = some p) : whole? text = some (wrap p) := by
  have htree := (parse?_eq_some.mp h).1
  rcases anchored_of_tree? htree with ⟨hwrap, -⟩ | ⟨-, hcomment⟩
  · refine parse?_eq_some.mpr ⟨hwrap, ?_⟩
    cases hbounds : (wrap p).withinBounds with
    | true => rfl
    | false => exact absurd ⟨p, h, hbounds⟩ ho
  · exact absurd ⟨⟨p, h⟩, hcomment⟩ hc

/-- **A pattern is anchored faithfully unless its text and the parenthesis behind it take to each other.** That is
so if the text ends in a comment, and if a parenthesis in it has not been opened but is closed by what stands in
front of it; and then there are patterns that are too large only between the two conditions. -/
theorem anchored_faithful_iff (text : String) :
    Faithful text ↔ ¬EndsInComment text ∧ ¬BreaksOut text ∧ ¬Outgrows text := by
  constructor
  · intro hf
    refine ⟨?_, ?_, ?_⟩
    · rintro ⟨⟨p, hp⟩, hcomment⟩
      obtain ⟨w, hw⟩ := hf.accepts.mpr ⟨p, hp⟩
      rcases anchored_of_tree? (parse?_eq_some.mp hp).1 with ⟨-, hparen⟩ | ⟨hnone, -⟩
      · exact hparen hcomment
      · exact hnone ⟨w, (parse?_eq_some.mp hw).1⟩
    · rintro ⟨hill, haccepted, -⟩
      obtain ⟨p, hp⟩ := hf.accepts.mp haccepted
      exact hill ⟨p, (parse?_eq_some.mp hp).1⟩
    · rintro ⟨p, hp, hbounds⟩
      obtain ⟨w, hw⟩ := hf.accepts.mpr ⟨p, hp⟩
      obtain ⟨htree, hw⟩ := parse?_eq_some.mp hw
      rcases anchored_of_tree? (parse?_eq_some.mp hp).1 with ⟨hwrap, -⟩ | ⟨hnone, -⟩
      · rw [hwrap] at htree
        obtain rfl := Option.some.inj htree
        rw [hbounds] at hw
        cases hw
      · exact hnone ⟨w, htree⟩
  · rintro ⟨hc, hb, ho⟩
    have hmatches {p : Pattern} (hp : parse? text = some p) (value : String) :
        (wrap p).occursIn value = true ↔ p.MatchesWhole value :=
      wrap_occursIn_iff (ordered_of_tree? (parse?_eq_some.mp hp).1) value
    refine ⟨⟨?_, ?_⟩, ?_, ?_, ?_⟩
    · rintro ⟨w, hw⟩
      obtain ⟨p, hp, -⟩ := parse?_of_whole? hb hw
      exact ⟨p, hp⟩
    · rintro ⟨p, hp⟩
      exact ⟨wrap p, whole?_of_parse? hc ho hp⟩
    · intro w hw value
      obtain ⟨p, hp, rfl⟩ := parse?_of_whole? hb hw
      rw [hmatches hp value]
      constructor
      · exact fun h => ⟨p, hp, h⟩
      · rintro ⟨q, hq, h⟩
        rw [hp] at hq
        obtain rfl := Option.some.inj hq
        exact h
    · intro hill value target rest
      cases hw : whole? text with
      | some w =>
        obtain ⟨p, hp, -⟩ := parse?_of_whole? hb hw
        exact absurd ⟨p, hp⟩ hill
      | none => rw [ControlFlow.firstMatch, hw]
    · intro p hp value target rest
      have hw := whole?_of_parse? hc ho hp
      rw [ControlFlow.firstMatch, hw]
      constructor
      · intro h
        exact if_pos ((hmatches hp value).mpr h)
      · intro h
        exact if_neg fun hocc => h ((hmatches hp value).mp hocc)

example : EndsInComment "(?x)a # c" := by
  have h : (parse? "(?x)a # c").isSome = true ∧ (tree? "(?x)a # c)").isSome = true := by decide +kernel
  exact h.imp Option.isSome_iff_exists.mp Option.isSome_iff_exists.mp

example : BreaksOut "a)|(?:b" := by
  have h : ¬(tree? "a)|(?:b").isSome = true ∧ (parse? (anchored "a)|(?:b")).isSome = true ∧
      (tree? "a").isSome = true ∧ ¬(tree? "a)").isSome = true := by decide +kernel
  simp only [Option.isSome_iff_exists] at h
  exact ⟨h.1, h.2.1, "a", "|(?:b", rfl, h.2.2⟩

end StageGraph.Pattern
