import Mathlib.Data.List.TakeWhile
import StageGraph.Proofs.Pattern.Signs

/-! Bracketed classes are local.

Ranges look ahead past blanks, and a name of a class is looked for up to the next colon, wherever it is. Both
may go past a seam, but what they find there decides nothing. -/
namespace StageGraph.Pattern

variable {front back back' rest : List Char}

/-! ### Blanks -/

/-- Blanks end in front of a seam, or at it. -/
theorem blanks_front (front : List Char) :
    (∃ c more, ¬isBlank c ∧ ∀ back, (front ++ back).dropWhile isBlank = c :: more ++ back) ∨
      ((∀ c ∈ front, isBlank c = true) ∧ ∀ back, Seam back → (front ++ back).dropWhile isBlank = back) := by
  induction front with
  | nil =>
    right
    refine ⟨by simp, fun back hs => ?_⟩
    rcases hs with rfl | ⟨more, rfl⟩
    · rfl
    · rw [List.nil_append, List.dropWhile_cons, isBlank_closing]
      rfl
  | cons c front ih =>
    by_cases hb : isBlank c = true
    · simp only [List.cons_append, List.dropWhile_cons, if_pos hb]
      refine ih.imp id fun ⟨hall, h⟩ => ⟨fun d hd => ?_, h⟩
      rcases List.mem_cons.mp hd with rfl | hd
      · exact hb
      · exact hall d hd
    · left
      refine ⟨c, front, hb, fun back => ?_⟩
      rw [List.cons_append, List.dropWhile_cons, if_neg hb]

theorem blanks_local : Local fun text => some ((), text.dropWhile isBlank) where
  suffix h := by
    cases h
    exact List.dropWhile_suffix _
  across := by
    intro front back back' rest _ hs hs' hline h
    left
    simp only [Option.some.injEq, Prod.mk.injEq, true_and] at h ⊢
    rcases blanks_front front with ⟨c, more, -, hstop⟩ | ⟨-, hpast⟩
    · rw [hstop, List.append_cancel_right_eq] at h
      rw [hstop, h]
    · rw [hpast back hs] at h
      obtain rfl := List.self_eq_append_left.mp h
      exact hpast back' hs'

/-! ### Members -/

theorem classSign?_cons_local (m : Modes) (c : Char) : Local fun text => classSign? m (c :: text) := by
  by_cases hc : c = '\\'
  · subst hc
    exact escape?_local m
  · simp only [classSign?]
    exact .pure _

theorem classSign?_local (m : Modes) : Local (classSign? m) :=
  .item (classSign?_cons_local m) rfl fun _ _ => rfl

/-- Blanks and the mark of a comment are all there is in front of what is looked ahead to. -/
theorem peek_front (m : Modes) (front : List Char) {c : Char} (hb : isBlank c = false) (hh : c ≠ '#')
    (hc : c ≠ ')') : ∃ found : Bool, ∀ back, Seam back → (m.peek (front ++ back) = some c ↔ found = true) := by
  by_cases hv : m.verbose = true
  · simp only [Modes.peek, if_pos hv]
    rcases blanks_front front with ⟨d, more, hd, hstop⟩ | ⟨hall, hpast⟩
    · simp only [hstop]
      by_cases hmark : d = '#'
      · subst hmark
        simp only [List.cons_append, List.head?_cons, beq_self_eq_true, if_true, List.drop_succ_cons,
          List.drop_zero]
        rcases blanks_front more with ⟨e, more', -, hstop'⟩ | ⟨-, hpast'⟩
        · refine ⟨decide (e = c), fun back _ => ?_⟩
          simp [hstop']
        · refine ⟨false, fun back hs => ?_⟩
          rw [hpast' back hs]
          rcases hs with rfl | ⟨more', rfl⟩
          · -- The text itself begins with a blank or with the mark.
            cases front with
            | nil => cases hstop []
            | cons f front =>
              by_cases hf : isBlank f = true
              · have : f ≠ c := fun h => by simp [h, hb] at hf
                simp [this]
              · have hfirst := hstop []
                rw [List.cons_append, List.dropWhile_cons, if_neg hf, List.cons_append] at hfirst
                obtain ⟨rfl, -⟩ := List.cons.inj hfirst
                simp [Ne.symm hh]
          · simp [Ne.symm hc]
      · refine ⟨decide (d = c), fun back _ => ?_⟩
        simp [hmark]
    · refine ⟨false, fun back hs => ?_⟩
      rw [hpast back hs]
      rcases hs with rfl | ⟨more, rfl⟩
      · cases front with
        | nil => simp
        | cons f front =>
          have : f ≠ c := fun h => by simp [h, hb] at hall
          simp [this]
      · simp [Ne.symm hc]
  · simp only [Modes.peek, if_neg hv]
    cases front with
    | nil => exact ⟨false, fun back hs => by simp [hs.head_ne hc]⟩
    | cons f front => exact ⟨decide (f = c), fun back _ => by simp⟩

theorem rangeAhead_seam (m : Modes) (hs : Seam back) (hs' : Seam back') :
    rangeAhead m (front ++ back) = rangeAhead m (front ++ back') := by
  cases front with
  | nil =>
    have hne {back : List Char} (hs : Seam back) : (back.head? == some '-') = false :=
      beq_eq_false_iff_ne.mpr (hs.head_ne (by decide))
    simp [rangeAhead, hne hs, hne hs']
  | cons c front =>
    obtain ⟨bracket, hbracket⟩ :=
      peek_front m front (by decide : isBlank ']' = false) (by decide) (by decide)
    obtain ⟨hyphen, hhyphen⟩ :=
      peek_front m front (by decide : isBlank '-' = false) (by decide) (by decide)
    rw [Bool.eq_iff_iff]
    simp only [rangeAhead, List.cons_append, List.drop_succ_cons, List.drop_zero, List.head?_cons,
      Bool.and_eq_true, bne_iff_ne, ne_eq, hbracket back hs, hbracket back' hs', hhyphen back hs,
      hhyphen back' hs']

theorem memberFrom?_local (m : Modes) (first : Sign) : Local (memberFrom? m first) := by
  have hend : Local (rangeEnd? m first) := (classSign?_local m).bindOption (range? m first) id
  have hnext : Local fun text => rangeEnd? m first (m.next text) :=
    .item (fun _ => hend.skipped m) (by rw [Modes.next, List.drop_nil, m.skip_nil]; rfl) fun _ _ => rfl
  have hsingle : Local fun text => (single? m first).map fun c => (c, text) := by
    cases single? m first with
    | none => exact .fail
    | some c => exact .pure c
  exact .choose (l := rangeAhead m) (n := fun ahead text => if ahead = true then rangeEnd? m first (m.next text)
    else (single? m first).map fun c => (c, text)) (rangeAhead_seam m) fun _ => hnext.ite hsingle

theorem classRange?_local (m : Modes) : Local (classRange? m) :=
  (classSign?_local m).bind fun first => (memberFrom?_local m first).skipped m

/-! ### Names -/

theorem asciiClass?_closing {name : List Char} (h : ')' ∈ name) : asciiClass? (String.ofList name) = none := by
  unfold asciiClass?
  split
  case h_15 => rfl
  all_goals
    next hn =>
      have := congrArg String.toList hn
      rw [String.toList_ofList] at this
      rw [this] at h
      revert h
      decide

/-- A name ends at the first colon. -/
theorem className?_eq {name : List Char} (h : ':' ∉ name) (rest : List Char) :
    className? (name ++ ':' :: rest) = if rest.head? = some ']' then
      (asciiClass? (String.ofList name)).map fun c => (c, rest.drop 1) else none := by
  have htake : (name ++ ':' :: rest).takeWhile (· ≠ ':') = name := by
    have hall : ∀ c ∈ name, decide (c ≠ ':') = true := fun c hc => decide_eq_true fun he => h (he ▸ hc)
    rw [List.takeWhile_append_of_pos hall]
    simp
  simp only [className?, htake, List.drop_left]
  cases rest with
  | nil => rfl
  | cons c rest =>
    by_cases hc : c = ']'
    · subst hc
      rfl
    · simp [hc]

theorem className?_of_not_mem {text : List Char} (h : ':' ∉ text) : className? text = none := by
  have htake : text.takeWhile (· ≠ ':') = text := by
    rw [List.takeWhile_eq_self_iff]
    exact fun c hc => decide_eq_true fun he : c = ':' => h (he ▸ hc)
  simp only [className?, htake, List.drop_length]

theorem className?_suffix {text rest : List Char} {c : CharClass} (h : className? text = some (c, rest)) :
    rest <:+ text := by
  by_cases hm : ':' ∈ text
  · obtain ⟨name, more, rfl, hn⟩ := List.eq_append_cons_of_mem hm
    rw [className?_eq hn] at h
    split at h
    · obtain ⟨c', -, he⟩ := Option.map_eq_some_iff.mp h
      cases he
      exact (List.drop_suffix ..).trans ((List.suffix_cons ..).trans (List.suffix_append ..))
    · cases h
  · rw [className?_of_not_mem hm] at h
    cases h

/-- A name that goes past a seam is none. -/
theorem className?_append (front : List Char) (hs : Seam back) :
    className? (front ++ back) = (className? front).map fun x => (x.1, x.2 ++ back) := by
  by_cases hm : ':' ∈ front
  · obtain ⟨name, more, rfl, hn⟩ := List.eq_append_cons_of_mem hm
    rw [List.append_assoc, List.cons_append, className?_eq hn, className?_eq hn]
    cases more with
    | nil => simp [hs.head_ne (by decide : ']' ≠ ')')]
    | cons c more =>
      by_cases hc : c = ']'
      · simp only [hc, List.cons_append, List.head?_cons, if_true, List.drop_succ_cons, List.drop_zero,
          Option.map_map]
        rfl
      · simp [hc]
  · rw [className?_of_not_mem hm, Option.map_none]
    rcases hs with rfl | ⟨more, rfl⟩
    · rw [List.append_nil, className?_of_not_mem hm]
    · by_cases hm' : ':' ∈ more
      · obtain ⟨name, more, rfl, hn⟩ := List.eq_append_cons_of_mem hm'
        have hn' : ':' ∉ front ++ ')' :: name := by
          simp [hm, hn]
        have he : front ++ ')' :: (name ++ ':' :: more) = (front ++ ')' :: name) ++ ':' :: more := by simp
        rw [he, className?_eq hn', asciiClass?_closing (by simp), Option.map_none, ite_self]
      · exact className?_of_not_mem (by simp [hm, hm'])

theorem namedClass?_append (m : Modes) (front : List Char) (hs : Seam back) :
    namedClass? m (front ++ back) = (namedClass? m front).map fun x => (x.1, x.2 ++ back) := by
  have hname (negated : Bool) (front : List Char) :
      ((className? (front ++ back)).map fun x => (m.negate negated (m.fold x.1), x.2)) =
        ((className? front).map fun x => (m.negate negated (m.fold x.1), x.2)).map
          fun x => (x.1, x.2 ++ back) := by
    rw [className?_append front hs, Option.map_map, Option.map_map]
    rfl
  cases front with
  | nil => rcases hs with rfl | ⟨more, rfl⟩ <;> rfl
  | cons c front =>
    by_cases hc : c = ':'
    · subst hc
      cases front with
      | nil =>
        rcases hs with rfl | ⟨more, rfl⟩
        · rfl
        · exact hname false []
      | cons c front =>
        by_cases hc : c = '^'
        · subst hc
          exact hname true front
        · simpa [namedClass?, hc] using hname false (c :: front)
    · simp [namedClass?, hc]

theorem namedClass?_local (m : Modes) : Local (namedClass? m) := by
  refine .of_append (fun {text rest c} h => ?_) fun front _ hs => namedClass?_append m front hs
  simp only [namedClass?] at h
  split at h
  · obtain ⟨⟨_, _⟩, hn, he⟩ := Option.map_eq_some_iff.mp h
    cases he
    exact (className?_suffix hn).trans ((List.suffix_cons ..).trans (List.suffix_cons ..))
  · obtain ⟨⟨_, _⟩, hn, he⟩ := Option.map_eq_some_iff.mp h
    cases he
    exact (className?_suffix hn).trans (List.suffix_cons ..)
  · cases h

/-! ### Brackets -/

theorem leadingHyphens_fuel (m : Modes) : ∀ (text : List Char) (fuel fuel' : Nat), text.length ≤ fuel →
    text.length ≤ fuel' → leadingHyphens m fuel text = leadingHyphens m fuel' text
  | [], fuel, fuel', _, _ => by cases fuel <;> cases fuel' <;> rfl
  | c :: text, fuel + 1, fuel' + 1, h, h' => by
    have hskip := m.skip_length text
    rw [List.length_cons] at h h'
    by_cases hc : c = '-'
    · subst hc
      simp only [leadingHyphens]
      rw [leadingHyphens_fuel m (m.skip text) fuel fuel' (by omega) (by omega)]
    · simp [leadingHyphens, hc]
  termination_by text => text.length

theorem leadingHyphens_local (m : Modes) : ∀ fuel, Local fun text => some (leadingHyphens m fuel text)
  | 0 => .pure []
  | fuel + 1 => by
    have hmore := (leadingHyphens_local m fuel).map fun more => CharClass.single '-' :: more
    refine .of_eq (fun text => ?_) (.byFront [(['-'], fun text =>
      some (.single '-' :: (leadingHyphens m fuel (m.skip text)).1, (leadingHyphens m fuel (m.skip text)).2))]
      (.pure []) ?_)
    · cases text with
      | nil => rfl
      | cons c text =>
        by_cases hc : c = '-'
        · subst hc
          rfl
        · simp [leadingHyphens, byFront, List.cons_prefix_cons, hc, Ne.symm hc]
    · simpa using hmore.skipped m

theorem allHyphens_local (m : Modes) : Local fun text => some (leadingHyphens m text.length text) :=
  .fueled (f := fun fuel text => some (leadingHyphens m fuel text)) (leadingHyphens_local m)
    fun text fuel fuel' h h' => by rw [leadingHyphens_fuel m text fuel fuel' h h']

theorem firstMembers_local (m : Modes) : Local fun text => some (firstMembers m text) := by
  have hbracket (found : List CharClass) : Local (byFront
      [([']'], fun text => some ([CharClass.single ']'], m.skip text))] fun text => some (found, text)) :=
    .byFront _ (.pure found) (by simpa using (Local.pure _).thenSkip m)
  refine .of_eq (fun text => ?_) ((allHyphens_local m).bind (n := fun found text =>
    if found = [] then byFront [([']'], fun text => some ([CharClass.single ']'], m.skip text))]
      (fun text => some (found, text)) text
    else some (found, text)) fun found => (hbracket found).ite (.pure found))
  simp only [firstMembers, Option.bind_some]
  obtain ⟨found, rest⟩ := leadingHyphens m text.length text
  cases found with
  | nil =>
    cases rest with
    | nil => rfl
    | cons c rest =>
      by_cases hc : c = ']'
      · subst hc
        rfl
      · simp [byFront, List.cons_prefix_cons, hc, Ne.symm hc]
  | cons c found => simp

theorem classFront_local (m : Modes) : Local fun text => some (classFront m text) := by
  have hfirst (negated : Bool) :
      Local fun text => some ((negated, (firstMembers m text).1), (firstMembers m text).2) :=
    (firstMembers_local m).map fun found => (negated, found)
  refine .of_eq (fun text => ?_) ((Local.byFront [(['^'], fun text =>
    some ((true, (firstMembers m (m.skip text)).1), (firstMembers m (m.skip text)).2))]
    (hfirst false) (by simpa using (hfirst true).skipped m)).skipped m)
  simp only [classFront]
  cases m.skip text with
  | nil => rfl
  | cons c text =>
    by_cases hc : c = '^'
    · subst hc
      rfl
    · simp [byFront, List.cons_prefix_cons, hc, Ne.symm hc]

/-- A member takes a character at least. -/
theorem classRange?_length {m : Modes} {text rest : List Char} {c : CharClass}
    (h : classRange? m text = some (c, rest)) : rest.length < text.length := by
  obtain ⟨⟨first, mid⟩, hf, hr⟩ := Option.bind_eq_some_iff.mp h
  have hfirst := Local.length_lt rfl (classSign?_cons_local m) hf
  have hrest := (((memberFrom?_local m first).skipped m).suffix hr).length_le
  omega

theorem namedClass?_length {m : Modes} {text rest : List Char} {c : Option CharClass}
    (h : namedClass? m text = some (c, rest)) : rest.length ≤ text.length :=
  ((namedClass?_local m).suffix h).length_le

theorem classFront_length (m : Modes) (text : List Char) : (classFront m text).2.length ≤ text.length :=
  ((classFront_local m).suffix rfl).length_le

/-- What stands behind a bracket in brackets: the name of a class, or a class. -/
def inBrackets (m : Modes) (fuel : Nat) (text : List Char) : Option (CharClass × List Char) :=
  match namedClass? m text with
  | some (some c, rest) => some (c, rest)
  | some (none, _) => none
  | none => bracketed m fuel text

theorem inBrackets_local (m : Modes) {fuel : Nat} (h : Local (bracketed m fuel)) :
    Local (inBrackets m fuel) := by
  refine .of_eq (fun text => ?_) (.choose (l := fun text => (namedClass? m text).map Prod.fst) (n := fun
    | some found, text => (namedClass? m text).bind fun x => found.bind fun c => some (c, x.2)
    | none, text => bracketed m fuel text) (fun hs hs' => ?_) fun found => ?_)
  · simp only [inBrackets]
    cases hn : namedClass? m text with
    | none => rfl
    | some x =>
      obtain ⟨found, rest⟩ := x
      cases found <;> simp [hn]
  · rw [namedClass?_append m _ hs, namedClass?_append m _ hs', Option.map_map, Option.map_map]
    rfl
  · cases found with
    | none => exact h
    | some found => exact (namedClass?_local m).bindOption (fun _ => found) id

theorem bracketed_local (m : Modes) : ∀ fuel, Local (bracketed m fuel) ∧
    ∀ members left, Local (members? m fuel members left)
  | 0 => ⟨.of_eq (fun _ => by simp [bracketed]) .fail, fun _ _ => .of_eq (fun _ => by simp [members?]) .fail⟩
  | fuel + 1 => by
    obtain ⟨hclass, hmembers⟩ := bracketed_local m fuel
    refine ⟨?_, fun members left => ?_⟩
    · refine .of_eq (fun text => ?_) ((classFront_local m).bind (n := fun found text =>
        (members? m fuel found.2 none text).bind fun x => (m.negate found.1 (m.fold x.1)).bind fun c =>
          some (.bracketed c, x.2)) fun found => ?_)
      · rw [bracketed]
        rfl
      · exact (hmembers found.2 none).bindOption (fun c => m.negate found.1 (m.fold c)) CharClass.bracketed
    · have hmember (c : CharClass) := hmembers (c :: members) left
      have hop (op : SetOp) := hmembers [] (some (op, joined m left members))
      refine .of_eq (fun text => ?_) ((Local.byFront [
        ([']'], fun text => some (joined m left members, text)),
        (['&', '&'], members? m fuel [] (some (.both, joined m left members))),
        (['-', '-'], members? m fuel [] (some (.without, joined m left members))),
        (['~', '~'], members? m fuel [] (some (.either, joined m left members))),
        (['['], fun text => (inBrackets m fuel text).bind fun x => members? m fuel (x.1 :: members) left x.2)]
        ((classRange?_local m).bind hmember) ?_).skipped m)
      · simp only [members?]
        generalize m.skip text = text
        split
        · rfl
        · rfl
        · rfl
        · rfl
        · rfl
        · next inner =>
          show _ = (inBrackets m fuel inner).bind fun x => members? m fuel (x.1 :: members) left x.2
          simp only [inBrackets]
          cases namedClass? m inner with
          | none => rfl
          | some x =>
            obtain ⟨found, rest⟩ := x
            cases found <;> rfl
        · next _ hclose hboth hwithout heither hopen =>
          rw [byFront_skip hclose, byFront_skip hboth, byFront_skip hwithout, byFront_skip heither,
            byFront_skip hopen]
          rfl
      · simp [Local.pure, hop, (inBrackets_local m hclass).bind hmember]

/-- Classes take less fuel than twice as much as there are characters. -/
theorem bracketed_fuel (m : Modes) : ∀ fuel fuel' : Nat,
    (∀ text, 2 * text.length + 2 ≤ fuel → 2 * text.length + 2 ≤ fuel' →
      bracketed m fuel text = bracketed m fuel' text) ∧
    ∀ text members left, 2 * text.length + 1 ≤ fuel → 2 * text.length + 1 ≤ fuel' →
      members? m fuel members left text = members? m fuel' members left text
  | 0, _ => ⟨fun _ h => by omega, fun _ _ _ h => by omega⟩
  | _ + 1, 0 => ⟨fun _ _ h => by omega, fun _ _ _ _ h => by omega⟩
  | fuel + 1, fuel' + 1 => by
    obtain ⟨hclass, hmembers⟩ := bracketed_fuel m fuel fuel'
    constructor
    · intro text h h'
      have := classFront_length m text
      simp only [bracketed]
      rw [hmembers _ _ _ (by omega) (by omega)]
    · intro text members left h h'
      have hskip := m.skip_length text
      simp only [members?]
      generalize m.skip text = text at hskip
      split
      · rfl
      · rfl
      · simp only [List.length_cons] at hskip
        exact hmembers _ _ _ (by omega) (by omega)
      · simp only [List.length_cons] at hskip
        exact hmembers _ _ _ (by omega) (by omega)
      · simp only [List.length_cons] at hskip
        exact hmembers _ _ _ (by omega) (by omega)
      · next inner =>
        rw [List.length_cons] at hskip
        cases hn : namedClass? m inner with
        | some x =>
          obtain ⟨found, rest⟩ := x
          have := namedClass?_length hn
          cases found with
          | none => rfl
          | some c => exact hmembers _ _ _ (by omega) (by omega)
        | none =>
          rw [← hclass inner (by omega) (by omega)]
          cases hb : bracketed m fuel inner with
          | none => rfl
          | some x =>
            have := ((bracketed_local m fuel).1.suffix hb).length_le
            exact hmembers _ _ _ (by omega) (by omega)
      · cases hr : classRange? m text with
        | none => rfl
        | some x =>
          have := classRange?_length hr
          exact hmembers _ _ _ (by omega) (by omega)

/-- Bracketed classes with the fuel that a text needs. -/
theorem class_local (m : Modes) : Local fun text => bracketed m (2 * text.length + 2) text :=
  .fueled (fun fuel => (bracketed_local m fuel).1) fun text fuel fuel' => (bracketed_fuel m fuel fuel').1 text

end StageGraph.Pattern
