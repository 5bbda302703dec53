import StageGraph.Proofs.Pattern.Classes

/-! Patterns are read locally.

What `branches?` reads does not depend on what stands behind a seam: the seam's parenthesis closes nothing
that was opened in front of it. This is `branches_local`, for the reader with as much fuel as its text needs. -/
namespace StageGraph.Pattern

/-! ### Signs -/

/-- A reader that may give something without reading. -/
theorem given_local {α : Type} (found : Option α) : Local fun text => found.map fun a => (a, text) := by
  cases found with
  | none => exact .fail
  | some a => exact .pure a

theorem sign?_cons_local (m : Modes) (c : Char) : Local fun text => sign? m (c :: text) := by
  by_cases hdot : c = '.'
  · subst hdot
    exact given_local (dot? m)
  by_cases hstart : c = '^'
  · subst hstart
    exact .pure _
  by_cases hend : c = '$'
  · subst hend
    exact .pure _
  by_cases hescape : c = '\\'
  · subst hescape
    exact (escape?_local m).bindOption (ofSign? m) id
  simp only [sign?]
  exact given_local (literal? m c false)

/-! ### Repetitions -/

theorem digits_fuel (m : Modes) : ∀ (text : List Char) (fuel fuel' : Nat), text.length ≤ fuel →
    text.length ≤ fuel' → digits m fuel text = digits m fuel' text
  | [], fuel, fuel', _, _ => by cases fuel <;> cases fuel' <;> rfl
  | c :: text, fuel + 1, fuel' + 1, h, h' => by
    have hskip := m.skip_length text
    rw [List.length_cons] at h h'
    simp only [digits]
    rw [digits_fuel m (m.skip text) fuel fuel' (by omega) (by omega)]
  termination_by text => text.length

theorem digits_local (m : Modes) : ∀ fuel, Local fun text => some (digits m fuel text)
  | 0 => .pure []
  | fuel + 1 => by
    have hmore (c : Char) : Local fun text => some ((c.toNat - '0'.toNat) :: (digits m fuel (m.skip text)).1,
        (digits m fuel (m.skip text)).2) :=
      ((digits_local m fuel).map fun ds => (c.toNat - '0'.toNat) :: ds).skipped m
    have hitem : Local fun text => text.head?.map fun c => ((c.toNat - '0'.toNat) :: (digits m fuel (m.skip text.tail)).1,
        (digits m fuel (m.skip text.tail)).2) := .item hmore rfl fun _ _ => rfl
    refine .of_eq (fun text => ?_) (.choose (l := fun text => text.head?.any Char.isDigit)
      (n := fun found text => if found = true then _ else some ([], text)) (fun hs hs' => ?_)
      fun found => hitem.ite (.pure []))
    · cases text with
      | nil => rfl
      | cons c text =>
        by_cases hc : c.isDigit = true
        · simp [digits, hc]
        · simp [digits, hc]
    · exact head_any_seam (by decide) hs hs'

theorem allDigits_local (m : Modes) : Local fun text => some (digits m text.length text) :=
  .fueled (f := fun fuel text => some (digits m fuel text)) (digits_local m)
    fun text fuel fuel' h h' => by rw [digits_fuel m text fuel fuel' h h']

theorem count?_local (m : Modes) : Local (count? m) := by
  have hvalue (n : Nat) : Local fun text => some (n, m.skip (text.dropWhile isBlank)) :=
    blanks_local.bind fun _ => (Local.pure n).thenSkip m
  exact blanks_local.bind fun _ => (allDigits_local m).bind (n := fun ds text =>
    if ds.isEmpty || 4294967296 ≤ ds.foldl (fun n d => n * 10 + d) 0 then none
    else some (ds.foldl (fun n d => n * 10 + d) 0, m.skip (text.dropWhile isBlank)))
    fun ds => Local.fail.ite (hvalue _)

theorem most?_local (m : Modes) : Local (most? m) := by
  refine .of_eq (fun text => ?_) (.choose (l := fun text => text.head?.any (· == '}'))
    (n := fun closes text => if closes = true then some (none, text)
      else (count? m text).map fun x => (some x.1, x.2)) (head_any_seam (by decide))
    fun closes => (Local.pure none).ite ((count?_local m).map some))
  cases text with
  | nil => rfl
  | cons c text =>
    by_cases hc : c = '}'
    · subst hc
      rfl
    · simp [most?, hc]

theorem dropLazy_local : Local fun text => some ((), dropLazy text) := by
  refine .of_eq (fun text => ?_) (.byFront [(['?'], fun text => some ((), text))] (.pure ())
    (by simp [Local.pure]))
  cases text with
  | nil => rfl
  | cons c text =>
    by_cases hc : c = '?'
    · subst hc
      rfl
    · simp [dropLazy, byFront, List.cons_prefix_cons, hc, Ne.symm hc]

/-- The mark behind a repetition that has been read. -/
theorem thenLazy_local {α : Type} (a : α) : Local fun text => some (a, dropLazy text) :=
  dropLazy_local.map fun _ => a

theorem upper?_local (m : Modes) (least : Nat) : Local (upper? m least) := by
  refine .of_eq (fun text => ?_) (.byFront [([','], fun text => most? m (m.skip text))] (.pure (some least))
    (by simpa using (most?_local m).skipped m))
  cases text with
  | nil => rfl
  | cons c text =>
    by_cases hc : c = ','
    · subst hc
      rfl
    · simp [upper?, byFront, List.cons_prefix_cons, hc, Ne.symm hc]

theorem bounded?_local (m : Modes) (least : Nat) (most : Option Nat) : Local (bounded? m least most) := by
  refine .item (n := fun c rest => if c = '}' then
    if most.all (least ≤ ·) then some ((least, most), dropLazy (m.skip rest)) else none else none)
    (fun c => (((thenLazy_local _).skipped m).ite .fail).ite .fail) rfl fun c text => ?_
  by_cases hc : c = '}'
  · subst hc
    rfl
  · simp [bounded?, hc]

theorem bounds?_local (m : Modes) : Local (bounds? m) :=
  ((count?_local m).skipped m).bind fun least => (upper?_local m least).bind fun most =>
    bounded?_local m least most

/-! ### Groups -/

theorem flags?_suffix {seen : List Char} {m : Modes} {text rest : List Char} {a : Modes × List Char × Bool}
    (h : flags? seen m text = some (a, rest)) : rest <:+ text := by
  induction text generalizing seen m with
  | nil => cases h
  | cons c text ih =>
    simp only [flags?] at h
    split at h
    · split at h
      · cases h
      · cases h
        exact List.suffix_cons ..
    · split at h
      · cases h
      · split at h
        · exact (ih h).trans (List.suffix_cons ..)
        · obtain ⟨m', -, h⟩ := Option.bind_eq_some_iff.mp h
          exact (ih h).trans (List.suffix_cons ..)

/-- Flags end with a sign of their own, so that nothing behind a seam belongs to them. -/
theorem flags?_local (seen : List Char) (m : Modes) : Local (flags? seen m) where
  suffix := flags?_suffix
  across := by
    intro front back back' rest a hs hs' hline h
    left
    induction front generalizing seen m with
    | nil =>
      rcases hs with rfl | ⟨more, rfl⟩
      · cases h
      · simp only [List.nil_append, flags?, or_true, if_true] at h
        split at h
        · cases h
        · simp only [Option.some.injEq, Prod.mk.injEq] at h
          have hlength := congrArg List.length h.2
          rw [List.length_append, List.length_cons] at hlength
          omega
    | cons c front ih =>
      simp only [List.cons_append, flags?] at h ⊢
      split at h
      · next hc =>
        rw [if_pos hc]
        split at h
        · cases h
        · next hh =>
          rw [if_neg hh]
          simp only [Option.some.injEq, Prod.mk.injEq, List.append_cancel_right_eq] at h
          obtain ⟨rfl, rfl⟩ := h
          rfl
      · next hc =>
        rw [if_neg hc]
        split at h
        · cases h
        · next hseen =>
          rw [if_neg hseen]
          split at h
          · next hh =>
            rw [if_pos hh]
            exact ih _ _ h
          · next hh =>
            rw [if_neg hh]
            obtain ⟨m', hm, h⟩ := Option.bind_eq_some_iff.mp h
            rw [hm, Option.bind_some]
            exact ih _ _ h

/-- A name ends at the first angle. -/
theorem groupName?_eq (names : List String) {name : List Char} (h : '>' ∉ name) (rest : List Char) :
    groupName? names (name ++ '>' :: rest) = if isName name && !names.contains (String.ofList name) then
      some (String.ofList name, rest) else none := by
  have hall : ∀ c ∈ name, decide (c ≠ '>') = true := fun c hc => decide_eq_true fun he => h (he ▸ hc)
  have htake : (name ++ '>' :: rest).takeWhile (· ≠ '>') = name := by
    rw [List.takeWhile_append_of_pos hall]
    simp
  simp only [groupName?, htake, List.drop_left]

theorem groupName?_of_not_mem {names : List String} {text : List Char} (h : '>' ∉ text) :
    groupName? names text = none := by
  have htake : text.takeWhile (· ≠ '>') = text := by
    rw [List.takeWhile_eq_self_iff]
    exact fun c hc => decide_eq_true fun he : c = '>' => h (he ▸ hc)
  simp only [groupName?, htake, List.drop_length]

theorem not_isNameChar (front : Bool) : isNameChar front ')' = false := by
  cases front <;> decide

theorem not_isName {name : List Char} (h : ')' ∈ name) : isName name = false := by
  cases name with
  | nil => cases h
  | cons c more =>
    rcases List.mem_cons.mp h with rfl | h
    · simp [isName, not_isNameChar]
    · rw [isName, List.all_eq_false.mpr ⟨')', h, by simp [not_isNameChar]⟩, Bool.and_false]

theorem groupName?_suffix {names : List String} {text rest : List Char} {label : String}
    (h : groupName? names text = some (label, rest)) : rest <:+ text := by
  by_cases hm : '>' ∈ text
  · obtain ⟨name, more, rfl, hn⟩ := List.eq_append_cons_of_mem hm
    rw [groupName?_eq names hn] at h
    split at h
    · cases h
      exact (List.suffix_cons ..).trans (List.suffix_append ..)
    · cases h
  · rw [groupName?_of_not_mem hm] at h
    cases h

/-- A name that goes past a seam is none. -/
theorem groupName?_local (names : List String) : Local (groupName? names) := by
  refine .of_append groupName?_suffix fun front {back} hs => ?_
  by_cases hm : '>' ∈ front
  · obtain ⟨name, more, rfl, hn⟩ := List.eq_append_cons_of_mem hm
    rw [List.append_assoc, List.cons_append, groupName?_eq names hn, groupName?_eq names hn]
    split <;> rfl
  · rw [groupName?_of_not_mem hm, Option.map_none]
    rcases hs with rfl | ⟨more, rfl⟩
    · rw [List.append_nil, groupName?_of_not_mem hm]
    · by_cases hm' : '>' ∈ more
      · obtain ⟨name, more, rfl, hn⟩ := List.eq_append_cons_of_mem hm'
        have hn' : '>' ∉ front ++ ')' :: name := by
          simp [hm, hn]
        have he : front ++ ')' :: (name ++ '>' :: more) = (front ++ ')' :: name) ++ '>' :: more := by simp
        rw [he, groupName?_eq names hn', not_isName (by simp)]
        rfl
      · exact groupName?_of_not_mem (by simp [hm, hm'])

theorem named?_local (m : Modes) (names : List String) : Local (named? m names) :=
  (groupName?_local names).map fun name => Opening.group m (name :: names) true

theorem special?_local (m : Modes) (names : List String) : Local (special? m names) := by
  refine .of_eq (fun text => ?_) (.byFront [(['<'], named? m names), (['P', '<'], named? m names)]
    ((flags?_local [] m).bindOption (flagged? names) id) (by simp [named?_local]))
  simp only [special?]
  split
  · rfl
  · rfl
  · next hangle hname =>
    rw [byFront_skip hangle, byFront_skip hname]
    rfl

theorem opening?_local (m : Modes) (names : List String) : Local (opening? m names) := by
  refine .of_eq (fun text => ?_) (.byFront [(['?'], special? m names)] (.pure (.group m names true))
    (by simp [special?_local]))
  simp only [opening?]
  split
  · rfl
  · next hmark =>
    rw [byFront_skip hmark]
    rfl

/-! ### Rows and alternatives -/

theorem step?_cons_local (m : Modes) (done : List Pattern) (c : Char) :
    Local fun text => step? m done (c :: text) := by
  have hrepeat (least : Nat) (most : Option Nat) :
      Local fun text => (repeatLast least most done).map fun done => (done, dropLazy text) := by
    cases repeatLast least most done with
    | none => exact .fail
    | some done => exact thenLazy_local done
  by_cases hclass : c = '['
  · subst hclass
    exact (class_local m).map fun c => .set c :: done
  by_cases hoption : c = '?'
  · subst hoption
    exact hrepeat 0 (some 1)
  by_cases hmany : c = '*'
  · subst hmany
    exact hrepeat 0 none
  by_cases hsome : c = '+'
  · subst hsome
    exact hrepeat 1 none
  by_cases hcount : c = '\x7b'
  · subst hcount
    exact (bounds?_local m).bindOption (fun bounds => repeatLast bounds.1 bounds.2 done) id
  refine .of_eq (fun text => ?_) ((sign?_cons_local m c).map fun p => p :: done)
  simp [step?, hclass, hoption, hmany, hsome, hcount]

theorem step?_nil (m : Modes) (done : List Pattern) : step? m done [] = none := rfl

/-- A row goes on unless its alternative ends here. -/
def goesOn (text : List Char) : Bool := text.head?.any fun c => c != '|' && c != ')'

/-- What stands behind an opening parenthesis in a row, up to the end of the row. -/
def opened? (fuel : Nat) (done : List Pattern) (s : Scope) (text : List Char) :
    Option ((Pattern × Scope) × List Char) := do
  let (opening, rest) ← opening? s.modes s.names text
  match opening with
  | .switched modes => row? fuel (.empty :: done) { s with modes := modes } rest
  | .group modes names captures =>
    let ((ps, inner), rest) ← branches? fuel { modes := modes, names := names } rest
    match rest with
    | ')' :: rest => row? fuel (.group (choice ps) captures :: done) { s with names := inner.names } rest
    | _ => none

theorem row?_eq (fuel : Nat) (done : List Pattern) (s : Scope) (text : List Char) :
    row? (fuel + 1) done s text =
      if goesOn (s.modes.skip text) = true then
        byFront [(['('], fun text => opened? fuel done s (s.modes.skip text))]
          (fun text => (step? s.modes done text).bind fun x => row? fuel x.1 s x.2) (s.modes.skip text)
      else some ((row done.reverse, s), s.modes.skip text) := by
  rw [row?]
  generalize s.modes.skip text = text
  split
  · rfl
  · rfl
  · rfl
  · rfl
  · next hnil hbar hclose hopen =>
    rw [byFront_skip hopen]
    cases text with
    | nil => exact absurd rfl hnil
    | cons c text =>
      have hb : c ≠ '|' := fun h => hbar text (by rw [h])
      have hc : c ≠ ')' := fun h => hclose text (by rw [h])
      simp only [goesOn, List.head?_cons, Option.any_some, Bool.and_eq_true, bne_iff_ne, ne_eq, hb, hc,
        not_false_eq_true, and_self, if_true]
      rfl

theorem branches?_eq (fuel : Nat) (s : Scope) (text : List Char) :
    branches? (fuel + 1) s text = (row? fuel [] s text).bind fun x =>
      byFront [(['|'], fun text => (branches? fuel x.1.2 text).map fun y => ((x.1.1 :: y.1.1, y.1.2), y.2))]
        (fun text => some (([x.1.1], x.1.2), text)) x.2 := by
  rw [branches?]
  cases row? fuel [] s text with
  | none => rfl
  | some x =>
    obtain ⟨⟨p, s⟩, text⟩ := x
    simp only [Option.bind_eq_bind, Option.bind_some]
    split
    · next text =>
      show _ = (branches? fuel s text).map fun y => ((p :: y.1.1, y.1.2), y.2)
      cases branches? fuel s text <;> rfl
    · next hbar =>
      rw [byFront_skip hbar]
      rfl

section

variable {fuel : Nat} (hbranches : ∀ s, Local (branches? fuel s)) (hrow : ∀ done s, Local (row? fuel done s))
include hbranches hrow

/-- A group is read locally if what it holds and what follows it are. -/
theorem opened?_local (done : List Pattern) (s : Scope) : Local (opened? fuel done s) := by
  refine .of_eq (fun text => ?_) ((opening?_local s.modes s.names).bind (n := fun
    | .switched modes, text => row? fuel (.empty :: done) { s with modes := modes } text
    | .group modes names captures, text =>
      (branches? fuel { modes := modes, names := names } text).bind fun x =>
        if x.2.head? = some ')' then
          row? fuel (.group (choice x.1.1) captures :: done) { s with names := x.1.2.names } (x.2.drop 1)
        else none) fun opening => ?_)
  · rw [opened?]
    cases opening? s.modes s.names text with
    | none => rfl
    | some x =>
      obtain ⟨opening, text⟩ := x
      cases opening with
      | switched modes => rfl
      | group modes names captures =>
        simp only [Option.bind_eq_bind, Option.bind_some]
        cases branches? fuel { modes := modes, names := names } text with
        | none => rfl
        | some x =>
          obtain ⟨⟨ps, inner⟩, text⟩ := x
          cases text with
          | nil => rfl
          | cons c text =>
            by_cases hc : c = ')'
            · subst hc
              rfl
            · simp [hc]
  · cases opening with
    | switched modes => exact hrow _ _
    | group modes names captures =>
      refine (hbranches _).bind (n := fun x text => if text.head? = some ')' then
        row? fuel (.group (choice x.1) captures :: done) { s with names := x.2.names } (text.drop 1)
        else none) fun x => .item (n := fun c text => if c = ')' then
          row? fuel (.group (choice x.1) captures :: done) { s with names := x.2.names } text else none)
        (fun c => (hrow _ _).ite .fail) rfl fun c text => ?_
      simp

end

theorem branches_row_local : ∀ fuel, (∀ s, Local (branches? fuel s)) ∧ ∀ done s, Local (row? fuel done s)
  | 0 => ⟨fun _ => .of_eq (fun _ => by rw [branches?]) .fail, fun _ _ => .of_eq (fun _ => by rw [row?]) .fail⟩
  | fuel + 1 => by
    obtain ⟨hbranches, hrow⟩ := branches_row_local fuel
    refine ⟨fun s => ?_, fun done s => ?_⟩
    · refine .of_eq (branches?_eq fuel s) ((hrow [] s).bind (n := fun x => byFront
        [(['|'], fun text => (branches? fuel x.2 text).map fun y => ((x.1 :: y.1.1, y.1.2), y.2))]
          fun text => some (([x.1], x.2), text)) fun x => .byFront _ (.pure _) ?_)
      simpa using (hbranches x.2).map fun y => (x.1 :: y.1, y.2)
    · refine .of_eq (row?_eq fuel done s) (.skipped s.modes (.choose (l := goesOn) (n := fun more text =>
        if more = true then byFront [(['('], fun text => opened? fuel done s (s.modes.skip text))]
          (fun text => (step? s.modes done text).bind fun x => row? fuel x.1 s x.2) text
        else some ((row done.reverse, s), text)) (head_any_seam (by decide)) fun more => .ite (.byFront _ ?_ ?_)
        (.pure _)))
      · exact (Local.item (step?_cons_local s.modes done) (step?_nil _ _) fun _ _ => rfl).bind
          fun done => hrow done s
      · simpa using (opened?_local hbranches hrow done s).skipped s.modes

theorem step?_length {m : Modes} {done done' : List Pattern} {text rest : List Char}
    (h : step? m done text = some (done', rest)) : rest.length < text.length :=
  Local.length_lt (step?_nil m done) (step?_cons_local m done) h

/-- What a group takes of fuel goes into what it holds and into what follows it. -/
theorem opened?_fuel {fuel fuel' : Nat}
    (hbranches : ∀ s text, 2 * text.length + 2 ≤ fuel → 2 * text.length + 2 ≤ fuel' →
      branches? fuel s text = branches? fuel' s text)
    (hrow : ∀ done s text, 2 * text.length + 1 ≤ fuel → 2 * text.length + 1 ≤ fuel' →
      row? fuel done s text = row? fuel' done s text)
    (done : List Pattern) (s : Scope) {text : List Char} (h : 2 * text.length + 2 ≤ fuel)
    (h' : 2 * text.length + 2 ≤ fuel') : opened? fuel done s text = opened? fuel' done s text := by
  rw [opened?, opened?]
  cases ho : opening? s.modes s.names text with
  | none => rfl
  | some x =>
    obtain ⟨opening, rest⟩ := x
    have hrest := ((opening?_local s.modes s.names).suffix ho).length_le
    cases opening with
    | switched modes => exact hrow _ _ _ (by omega) (by omega)
    | group modes names captures =>
      simp only [Option.bind_eq_bind, Option.bind_some]
      rw [← hbranches _ rest (by omega) (by omega)]
      cases hb : branches? fuel { modes := modes, names := names } rest with
      | none => rfl
      | some x =>
        obtain ⟨⟨ps, inner⟩, rest'⟩ := x
        have hrest' := (((branches_row_local fuel).1 _).suffix hb).length_le
        simp only [Option.bind_some]
        split
        · rw [List.length_cons] at hrest'
          exact hrow _ _ _ (by omega) (by omega)
        · rfl

/-- Rows and alternatives take less fuel than twice as much as there are characters. -/
theorem branches_row_fuel : ∀ fuel fuel' : Nat,
    (∀ s text, 2 * text.length + 2 ≤ fuel → 2 * text.length + 2 ≤ fuel' →
      branches? fuel s text = branches? fuel' s text) ∧
    ∀ done s text, 2 * text.length + 1 ≤ fuel → 2 * text.length + 1 ≤ fuel' →
      row? fuel done s text = row? fuel' done s text
  | 0, _ => ⟨fun _ _ h => by omega, fun _ _ _ h => by omega⟩
  | _ + 1, 0 => ⟨fun _ _ _ h => by omega, fun _ _ _ _ h => by omega⟩
  | fuel + 1, fuel' + 1 => by
    obtain ⟨hbranches, hrow⟩ := branches_row_fuel fuel fuel'
    constructor
    · intro s text h h'
      rw [branches?_eq, branches?_eq, hrow _ _ _ (by omega) (by omega)]
      cases hr : row? fuel' [] s text with
      | none => rfl
      | some x =>
        have hrest := (((branches_row_local fuel').2 [] s).suffix hr).length_le
        simp only [Option.bind_some, byFront]
        split
        · next hbar =>
          obtain ⟨more, hmore⟩ := hbar
          rw [← hmore, List.length_append] at hrest
          rw [← hmore, List.drop_left, hbranches _ _ (by simp at hrest; omega) (by simp at hrest; omega)]
        · rfl
    · intro done s text h h'
      have hskip := s.modes.skip_length text
      rw [row?_eq, row?_eq]
      generalize s.modes.skip text = text at hskip
      split
      · simp only [byFront]
        split
        · next hopen =>
          obtain ⟨more, rfl⟩ := hopen
          have hmore := s.modes.skip_length more
          rw [List.length_append, List.length_singleton] at hskip
          rw [List.drop_left, opened?_fuel hbranches hrow done s (by omega) (by omega)]
        · cases hs : step? s.modes done text with
          | none => rfl
          | some x =>
            have := step?_length hs
            exact hrow _ _ _ (by omega) (by omega)
      · rfl

/-- Alternatives with the fuel that a text needs. -/
theorem branches_local (s : Scope) : Local fun text => branches? (2 * text.length + 2) s text :=
  .fueled (fun fuel => (branches_row_local fuel).1 s) fun text fuel fuel' =>
    (branches_row_fuel fuel fuel').1 s text

end StageGraph.Pattern
