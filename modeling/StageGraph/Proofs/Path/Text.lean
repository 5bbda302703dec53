import Mathlib.Data.List.TakeWhile
import Mathlib.Data.Set.Operations
import StageGraph.Path

/-! Paths as texts.

Cutting a text at its dots is splitting a list at an element (`cut_eq_splitOn`), so joining undoes it, and it undoes joining
where no part has a dot in it. That leaves the text without a character. It is what no segment is joined to, and also what an
empty segment alone is joined to; it is read as no segment, so a lone empty segment is the one path without a dot in its
segments that no text writes (`parse_corresponds`).

A reference is read in two parts, its head and what is behind the first dot. Where nothing is behind it, the empty segment that
the dot has written is lost, since it stands alone (`parse_splitHead`). -/
namespace StageGraph.Path

/-! ### Cutting -/

/-- The first segment ends at the first dot. -/
theorem cut_eq (chars : List Char) : cut chars = chars.takeWhile (· ≠ '.') ::
    match chars.dropWhile (· ≠ '.') with
    | [] => []
    | _ :: behind => cut behind := by
  induction chars with
  | nil => rfl
  | cons c rest ih =>
    rw [cut]
    split
    · next hc =>
      subst hc
      rw [List.takeWhile_cons_of_neg (by simp), List.dropWhile_cons_of_neg (by simp)]
    · next hc =>
      rw [List.takeWhile_cons_of_pos (by simpa using hc), List.dropWhile_cons_of_pos (by simpa using hc), ih]

theorem cut_eq_splitOn (chars : List Char) : cut chars = chars.splitOn '.' := by
  induction chars with
  | nil => rfl
  | cons c rest ih =>
    rw [List.splitOn_cons_eq_if_modifyHead, cut, ih]
    by_cases hc : c = '.'
    · rw [if_pos hc, if_pos (beq_iff_eq.mpr hc)]
    · rw [if_neg hc, if_neg (mt beq_iff_eq.mp hc)]
      cases hrest : rest.splitOn '.' with
      | nil => exact absurd hrest (List.splitOn_ne_nil _ _)
      | cons segment more => rfl

theorem notMem_of_mem_cut {chars segment : List Char} (h : segment ∈ cut chars) : '.' ∉ segment := by
  induction chars generalizing segment with
  | nil =>
    rw [List.mem_singleton.mp h]
    exact List.not_mem_nil
  | cons c rest ih =>
    rw [cut] at h
    split at h
    · rcases List.mem_cons.mp h with rfl | h
      · exact List.not_mem_nil
      · exact ih h
    · next hc =>
      cases hrest : cut rest with
      | nil => exact absurd (cut_eq_splitOn rest ▸ hrest) (List.splitOn_ne_nil _ _)
      | cons first more =>
        rw [hrest] at h ih
        rcases List.mem_cons.mp h with rfl | h
        · exact List.not_mem_cons_of_ne_of_not_mem (Ne.symm hc) (ih List.mem_cons_self)
        · exact ih (List.mem_cons_of_mem _ h)

theorem cut_map_eq_singleton {chars : List Char} : (cut chars).map String.ofList = [""] ↔ chars = [] := by
  constructor
  · intro h
    have hcut : cut chars = [[]] := (List.map_inj_right fun _ _ => String.ofList_injective).mp h
    have hjoined : ['.'].intercalate (chars.splitOn '.') = chars := List.intercalate_splitOn '.'
    rw [← cut_eq_splitOn, hcut] at hjoined
    exact hjoined.symm
  · rintro rfl
    rfl

/-! ### Joining -/

/-- No segment has a dot in it. -/
def Undotted (path : Path) : Prop := ∀ segment ∈ path, '.' ∉ segment.toList

theorem parse_undotted (text : String) : (parse text).Undotted := by
  intro segment hsegment
  unfold parse at hsegment
  split at hsegment
  · cases hsegment
  · obtain ⟨chars, hchars, rfl⟩ := List.mem_map.mp hsegment
    rw [String.toList_ofList]
    exact notMem_of_mem_cut hchars

/-- Joining the segments gives the text back. -/
theorem intercalate_parse (text : String) : ".".intercalate (parse text) = text := by
  unfold parse
  split
  · next h =>
    rw [h]
    rfl
  · have hparts : ((cut text.toList).map String.ofList).map String.toList = cut text.toList := by simp
    apply String.toList_injective
    rw [String.toList_intercalate, hparts, cut_eq_splitOn]
    exact List.intercalate_splitOn '.'

/-- Cutting the joined text gives the segments back, if there is one and none has a dot in it. -/
theorem cut_intercalate {path : Path} (h : path.Undotted) (hsome : path ≠ []) :
    cut (".".intercalate path).toList = path.map String.toList := by
  have hparts : ∀ chars ∈ path.map String.toList, '.' ∉ chars := by
    intro chars hchars
    obtain ⟨segment, hsegment, rfl⟩ := List.mem_map.mp hchars
    exact h segment hsegment
  rw [cut_eq_splitOn, String.toList_intercalate]
  exact List.splitOn_intercalate '.' hparts (mt List.map_eq_nil_iff.mp hsome)

/-- So does reading it, but for an empty segment alone. -/
theorem parse_intercalate {path : Path} (h : path.Undotted) (hlone : path ≠ [""]) :
    parse (".".intercalate path) = path := by
  by_cases hsome : path = []
  · subst hsome
    rfl
  · have hcut := cut_intercalate h hsome
    have htext : ".".intercalate path ≠ "" := by
      intro hempty
      rw [hempty] at hcut
      -- the text without a character is cut into one empty segment
      have hpath : path.map String.toList = [""].map String.toList := hcut.symm
      exact hlone ((List.map_inj_right fun _ _ => String.toList_inj.mp).mp hpath)
    rw [parse, if_neg htext, hcut]
    simp

/-- **Paths and their texts correspond.** Joining the segments of a text with dots gives the text back, and no segment has a
dot in it. Reading the joined text gives a path back just if no segment of it has a dot, and it is not an empty segment alone.
So no two texts write the same path, and these are all the paths that texts write. -/
theorem parse_corresponds :
    (∀ text, ".".intercalate (parse text) = text ∧ (parse text).Undotted) ∧
      (∀ path : Path, parse (".".intercalate path) = path ↔ path.Undotted ∧ path ≠ [""]) ∧
      Function.Injective parse ∧ Set.range parse = { path : Path | path.Undotted ∧ path ≠ [""] } := by
  have hreads (path : Path) : parse (".".intercalate path) = path ↔ path.Undotted ∧ path ≠ [""] := by
    constructor
    · intro hpath
      refine ⟨hpath ▸ parse_undotted _, ?_⟩
      rintro rfl
      cases hpath
    · exact fun ⟨h, hlone⟩ => parse_intercalate h hlone
  refine ⟨fun text => ⟨intercalate_parse text, parse_undotted text⟩, hreads,
    Function.LeftInverse.injective intercalate_parse, Set.ext fun path => ?_⟩
  constructor
  · rintro ⟨text, rfl⟩
    exact (hreads (parse text)).mp (by rw [intercalate_parse])
  · exact fun h => ⟨_, (hreads path).mpr h⟩

example : parse ".a..b." = ["", "a", "", "b", ""] := by decide

/-! ### The head of a reference -/

/-- What is dropped with the head is the head and its dot. -/
theorem splitHead_eq (text : String) : splitHead text = (String.ofList (text.toList.takeWhile (· ≠ '.')),
    String.ofList (text.toList.dropWhile (· ≠ '.')).tail) := by
  have hsplit : text.toList.drop (text.toList.takeWhile (· ≠ '.')).length = text.toList.dropWhile (· ≠ '.') := by
    have hleft : (text.toList.takeWhile (· ≠ '.') ++ text.toList.dropWhile (· ≠ '.')).drop
        (text.toList.takeWhile (· ≠ '.')).length = text.toList.dropWhile (· ≠ '.') := List.drop_left
    rwa [List.takeWhile_append_dropWhile] at hleft
  unfold splitHead
  rw [← hsplit, List.tail_drop]

/-- **Behind the head stand the other segments**, unless there is only an empty one, which is lost. -/
theorem parse_splitHead {text head : String} {rest : Path} (h : parse text = head :: rest) :
    (splitHead text).1 = head ∧ parse (splitHead text).2 = if rest = [""] then [] else rest := by
  unfold parse at h
  split at h
  · cases h
  · rw [cut_eq, List.map_cons] at h
    obtain ⟨hhead, hrest⟩ := List.cons.inj h
    rw [splitHead_eq]
    refine ⟨hhead, ?_⟩
    cases hbehind : text.toList.dropWhile (· ≠ '.') with
    | nil =>
      rw [hbehind] at hrest
      subst hrest
      rfl
    | cons dot behind =>
      rw [hbehind] at hrest
      change (cut behind).map String.ofList = rest at hrest
      subst hrest
      rw [List.tail_cons]
      by_cases hempty : behind = []
      · rw [hempty]
        rfl
      · rw [if_neg (mt cut_map_eq_singleton.mp hempty)]
        unfold parse
        rw [String.toList_ofList, if_neg]
        exact fun hnil => hempty (String.ofList_injective hnil)

/-! ### Names

A name with a dot is no single segment, and neither is the name without a character. -/

/-- The head of a reference that a name begins is the name, if there is no dot in it. -/
theorem splitHead_of_name {name : String} (rest : String) (h : '.' ∉ name.toList) :
    splitHead name = (name, "") ∧ splitHead (name ++ "." ++ rest) = (name, rest) := by
  have hkeeps : ∀ c ∈ name.toList, decide (c ≠ '.') = true := fun c hc => decide_eq_true fun hdot => h (hdot ▸ hc)
  have hname : String.ofList name.toList = name := String.ofList_toList
  constructor
  · have htaken := List.takeWhile_eq_self_iff.mpr hkeeps
    have hdropped := List.dropWhile_eq_nil_iff.mpr hkeeps
    rw [splitHead_eq, htaken, hdropped, hname]
    rfl
  · have hdot : ".".toList = ['.'] := rfl
    rw [splitHead_eq, String.toList_append, String.toList_append, hdot, List.append_assoc,
      List.takeWhile_append_of_pos hkeeps, List.dropWhile_append_of_pos hkeeps]
    simp

theorem parse_of_name {name : String} (hsome : name ≠ "") (h : '.' ∉ name.toList) : parse name = [name] := by
  have hread : parse (".".intercalate [name]) = [name] :=
    parse_intercalate (List.forall_mem_singleton.mpr h) fun hlone => hsome (List.singleton_inj.mp hlone)
  rwa [String.intercalate_singleton] at hread

/-- Behind a dot there is another segment. -/
theorem parse_of_dot {name : String} (h : '.' ∈ name.toList) :
    ∃ first second more, parse name = first :: second :: more := by
  have hsome : name ≠ "" := by
    rintro rfl
    cases h
  unfold parse
  rw [if_neg hsome, cut_eq]
  cases hbehind : name.toList.dropWhile (· ≠ '.') with
  | nil =>
    -- nothing is dropped only where there is no dot
    have hnone := List.dropWhile_eq_nil_iff.mp hbehind '.' h
    simp at hnone
  | cons dot behind =>
    simp only
    rw [cut_eq behind]
    exact ⟨_, _, _, rfl⟩

end StageGraph.Path
