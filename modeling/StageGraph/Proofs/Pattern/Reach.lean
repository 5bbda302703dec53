import StageGraph.Pattern.Tree

/-! What `reach` computes.

Read as sets of positions, the numbers that `reach` works on are the ends of the matches that start in a set:
`reach_leads`, for patterns whose repetitions have their bounds in order. A repetition is a chain of matches one
behind the other (`matches_repeated`), and since matches only lead forward, chains that go round in one place
can be cut short: so many links as there are characters always do. `occursIn_iff` is what follows for a pattern
that is looked for in a text. -/
namespace StageGraph.Pattern

mutual

/-- Whether no repetition in a pattern has a greatest number below its least one. -/
def ordered : Pattern → Bool
  | repeated p least most => most.all (least ≤ ·) && p.ordered
  | group p _ => p.ordered
  | concat ps => orderedAll ps
  | alternate ps => orderedAll ps
  | _ => true

def orderedAll : List Pattern → Bool
  | [] => true
  | p :: ps => p.ordered && orderedAll ps

end

/-- So many matches of a pattern, one behind the other. -/
def Chain (text : Array Char) (p : Pattern) : Nat → Nat → Nat → Prop
  | 0, i, j => i = j
  | n + 1, i, j => ∃ k, Matches text p i k ∧ Chain text p n k j

variable {text : Array Char} {p : Pattern}

/-! ### Matches lead forward -/

theorem Matches.le {i j : Nat} (h : Matches text p i j) : i ≤ j ∧ j ≤ text.size := by
  induction h with
  | empty hi => exact ⟨Nat.le_refl _, hi⟩
  | @set c i ch hi _ =>
    have : i < text.size := by
      rcases Nat.lt_or_ge i text.size with h | h
      · exact h
      · rw [Array.getElem?_eq_none h] at hi
        cases hi
    omega
  | look hi _ => exact ⟨Nat.le_refl _, hi⟩
  | group _ ih => exact ih
  | concatNil hi => exact ⟨Nat.le_refl _, hi⟩
  | concatCons _ _ ih ih' => omega
  | alternate _ _ ih => exact ih
  | repeatedStop hi => exact ⟨Nat.le_refl _, hi⟩
  | repeatedFirst _ _ _ ih ih' => omega
  | repeatedMore _ _ _ ih ih' => omega

theorem Chain.le {n i j : Nat} (h : Chain text p n i j) : i ≤ j := by
  induction n generalizing i with
  | zero => exact Nat.le_of_eq h
  | succ n ih =>
    obtain ⟨k, hk, hj⟩ := h
    have := hk.le
    have := ih hj
    omega

/-- A chain stays within its text. -/
theorem Chain.le_size {n i j : Nat} (h : Chain text p n i j) (hi : i ≤ text.size) : j ≤ text.size := by
  induction n generalizing i with
  | zero => exact h ▸ hi
  | succ n ih =>
    obtain ⟨k, hk, hj⟩ := h
    exact ih hj hk.le.2

theorem chain_add {m n i j : Nat} :
    Chain text p (m + n) i j ↔ ∃ k, Chain text p m i k ∧ Chain text p n k j := by
  induction m generalizing i with
  | zero => simp [Chain]
  | succ m ih =>
    rw [Nat.add_right_comm]
    constructor
    · rintro ⟨k, hk, hj⟩
      obtain ⟨l, hl, hj⟩ := ih.mp hj
      exact ⟨l, ⟨k, hk, hl⟩, hj⟩
    · rintro ⟨l, ⟨k, hk, hl⟩, hj⟩
      exact ⟨k, hk, ih.mpr ⟨l, hl, hj⟩⟩

/-- A chain needs no more links than it leads past characters. -/
theorem Chain.shorten {n i j : Nat} (h : Chain text p n i j) :
    ∃ m, m ≤ j - i ∧ Chain text p m i j := by
  induction n generalizing i with
  | zero => exact ⟨0, Nat.zero_le _, h⟩
  | succ n ih =>
    obtain ⟨k, hk, hj⟩ := h
    obtain ⟨m, hm, hc⟩ := ih hj
    have hik := hk.le
    have hkj := hj.le
    by_cases he : i = k
    · subst he
      exact ⟨m, hm, hc⟩
    · exact ⟨m + 1, by omega, k, hk, hc⟩

/-! ### Repetitions are chains -/

theorem all_le_map_pred {most : Option Nat} {n : Nat} (h : most.all (n + 1 ≤ ·) = true) :
    (most.map (· - 1)).all (n ≤ ·) = true := by
  cases most with
  | none => rfl
  | some m =>
    simp only [Option.all_some, decide_eq_true_eq] at h
    simp only [Option.map_some, Option.all_some, decide_eq_true_eq]
    omega

theorem all_le_of_map_pred {most : Option Nat} {n : Nat} (hm : ∀ m, most = some m → 0 < m)
    (h : (most.map (· - 1)).all (n ≤ ·) = true) : most.all (n + 1 ≤ ·) = true := by
  cases most with
  | none => rfl
  | some m =>
    have := hm m rfl
    simp only [Option.map_some, Option.all_some, decide_eq_true_eq] at h
    simp only [Option.all_some, decide_eq_true_eq]
    omega

/-- A repetition takes a chain of as many links as its bounds allow. -/
theorem chain_of_repeated {q : Pattern} {least : Nat} {most : Option Nat} {i j : Nat}
    (h : Matches text q i j) (hq : q = .repeated p least most) :
    ∃ n, least ≤ n ∧ most.all (n ≤ ·) = true ∧ Chain text p n i j := by
  induction h generalizing least most with
  | empty _ => cases hq
  | set _ _ => cases hq
  | look _ _ => cases hq
  | group _ _ => cases hq
  | concatNil _ => cases hq
  | concatCons _ _ _ _ => cases hq
  | alternate _ _ _ => cases hq
  | @repeatedStop _ bound _ _ =>
    cases hq
    refine ⟨0, Nat.le_refl _, ?_, rfl⟩
    cases bound <;> rfl
  | @repeatedFirst _ _ bound _ k _ hp _ hlt _ ih =>
    cases hq
    obtain ⟨n, hn, hmost, hc⟩ := ih rfl
    have hpos : ∀ m, bound = some m → 0 < m := fun m hm => Nat.zero_lt_of_lt (hlt m hm)
    exact ⟨n + 1, by omega, all_le_of_map_pred hpos hmost, k, hp, hc⟩
  | @repeatedMore _ _ _ k _ hp _ hlt _ ih =>
    cases hq
    obtain ⟨n, hn, hmost, hc⟩ := ih rfl
    exact ⟨n + 1, Nat.zero_le _, all_le_of_map_pred hlt hmost, k, hp, hc⟩

theorem repeated_of_chain {n least : Nat} {most : Option Nat} {i j : Nat} (hn : least ≤ n)
    (hmost : most.all (n ≤ ·) = true) (hi : i ≤ text.size) (h : Chain text p n i j) :
    Matches text (.repeated p least most) i j := by
  induction n generalizing least most i with
  | zero =>
    cases Nat.le_zero.mp hn
    cases h
    exact .repeatedStop hi
  | succ n ih =>
    obtain ⟨k, hk, hj⟩ := h
    have hrest := all_le_map_pred hmost
    have hlt : ∀ m, most = some m → n < m := by
      rintro m rfl
      simpa [Nat.succ_le_iff] using hmost
    cases least with
    | zero =>
      exact .repeatedMore hk (ih (Nat.zero_le _) hrest hk.le.2 hj)
        fun m hm => Nat.zero_lt_of_lt (hlt m hm)
    | succ least =>
      exact .repeatedFirst hk (ih (by omega) hrest hk.le.2 hj)
        fun m hm => Nat.lt_of_le_of_lt (by omega) (hlt m hm)

/-- A repetition matches what a chain within its bounds leads past. -/
theorem matches_repeated {least : Nat} {most : Option Nat} {i j : Nat} (hi : i ≤ text.size) :
    Matches text (.repeated p least most) i j ↔
      ∃ n, least ≤ n ∧ most.all (n ≤ ·) = true ∧ Chain text p n i j :=
  ⟨fun h => chain_of_repeated h rfl, fun ⟨_, hn, hmost, hc⟩ => repeated_of_chain hn hmost hi hc⟩

/-! ### Sets of positions -/

theorem testBit_positions (n : Nat) (holds : Nat → Bool) (i : Nat) :
    (positions n holds).testBit i = (decide (i ≤ n) && holds i) := by
  have hfold : ∀ (l : List Nat) (s : Nat),
      (l.foldl (fun s i => if holds i then s ||| 1 <<< i else s) s).testBit i =
        (s.testBit i || (decide (i ∈ l) && holds i)) := by
    intro l
    induction l with
    | nil => simp
    | cons k l ih =>
      intro s
      rw [List.foldl_cons, ih]
      by_cases hik : i = k
      · subst hik
        cases holds i <;> simp
      · have hbit : (1 <<< k).testBit i = false := by
          rw [Nat.testBit_shiftLeft, Bool.and_eq_false_iff]
          by_cases h : i < k
          · exact .inl (decide_eq_false (by omega))
          · right
            rw [Bool.eq_false_iff, Ne, Nat.testBit_one_eq_true_iff_self_eq_zero]
            omega
        cases h : holds k <;> simp [hik, hbit]
  rw [positions, hfold]
  simp only [Nat.zero_testBit, Bool.false_or, List.mem_range, Nat.lt_succ_iff]

theorem times_of_fixed {step : Nat → Nat} {s : Nat} (h : step s = s) (n : Nat) : times step n s = s := by
  cases n with
  | zero => rfl
  | succ n => simp [times, h]

/-- Stopping early leaves no step out. -/
theorem times_succ (step : Nat → Nat) (n s : Nat) : times step (n + 1) s = times step n (step s) := by
  by_cases h : step s = s
  · rw [h, times_of_fixed h, times_of_fixed h]
  · simp [times, h]

/-- Whether a set of positions stays within a text. -/
def Within (text : Array Char) (s : Nat) : Prop := ∀ i, s.testBit i = true → i ≤ text.size

/-- Whether a step leads from each set of positions to the ends of the matches that start in it. -/
def Leads (text : Array Char) (p : Pattern) (step : Nat → Nat) : Prop :=
  ∀ s, Within text s → ∀ j, (step s).testBit j = true ↔ ∃ i, s.testBit i = true ∧ Matches text p i j

theorem Leads.within {step : Nat → Nat} (h : Leads text p step) {s : Nat} (hs : Within text s) :
    Within text (step s) := by
  intro j hj
  obtain ⟨i, _, hm⟩ := (h s hs j).mp hj
  exact hm.le.2

theorem Leads.times {step : Nat → Nat} (h : Leads text p step) (n : Nat) {s : Nat} (hs : Within text s)
    (j : Nat) :
    (times step n s).testBit j = true ↔ ∃ i, s.testBit i = true ∧ Chain text p n i j := by
  induction n generalizing s with
  | zero =>
    constructor
    · exact fun hj => ⟨j, hj, rfl⟩
    · rintro ⟨i, hi, rfl⟩
      exact hi
  | succ n ih =>
    rw [times_succ, ih (h.within hs)]
    constructor
    · rintro ⟨k, hk, hj⟩
      obtain ⟨i, hi, hm⟩ := (h s hs k).mp hk
      exact ⟨i, hi, k, hm, hj⟩
    · rintro ⟨i, hi, k, hm, hj⟩
      exact ⟨k, (h s hs k).mpr ⟨i, hi, hm⟩, hj⟩

/-- Adding positions so many times takes chains of at most so many links. -/
theorem Leads.collect {step : Nat → Nat} (h : Leads text p step) (n : Nat) {s : Nat}
    (hs : Within text s) (j : Nat) :
    (Pattern.times (fun t => t ||| step t) n s).testBit j = true ↔
      ∃ i, s.testBit i = true ∧ ∃ m, m ≤ n ∧ Chain text p m i j := by
  induction n generalizing s with
  | zero =>
    constructor
    · exact fun hj => ⟨j, hj, 0, Nat.le_refl _, rfl⟩
    · rintro ⟨i, hi, m, hm, hc⟩
      cases Nat.le_zero.mp hm
      cases hc
      exact hi
  | succ n ih =>
    have hs' : Within text (s ||| step s) := by
      intro i hi
      simp only [Nat.testBit_or, Bool.or_eq_true] at hi
      exact hi.elim (hs i) (h.within hs i)
    rw [times_succ, ih hs']
    constructor
    · rintro ⟨k, hk, m, hm, hj⟩
      simp only [Nat.testBit_or, Bool.or_eq_true] at hk
      rcases hk with hk | hk
      · exact ⟨k, hk, m, by omega, hj⟩
      · obtain ⟨i, hi, hik⟩ := (h s hs k).mp hk
        exact ⟨i, hi, m + 1, by omega, k, hik, hj⟩
    · rintro ⟨i, hi, m, hm, hc⟩
      cases m with
      | zero => exact ⟨i, by simp [hi], 0, Nat.zero_le _, hc⟩
      | succ m =>
        obtain ⟨k, hik, hj⟩ := hc
        refine ⟨k, ?_, m, by omega, hj⟩
        simp [(h s hs k).mpr ⟨i, hi, hik⟩]

/-- How many links of a repetition there may be behind those that have to be there. -/
def spare (text : Array Char) (least : Nat) : Option Nat → Nat
  | some m => m - least
  | none => text.size + 1

/-- A chain within bounds has its least number of links first, and then no more than are spare. -/
theorem Chain.spare {n least i j : Nat} {most : Option Nat} (h : Chain text p n i j) (hi : i ≤ text.size)
    (hn : least ≤ n) (hmost : most.all (n ≤ ·) = true) :
    ∃ k, Chain text p least i k ∧ ∃ m, m ≤ Pattern.spare text least most ∧ Chain text p m k j := by
  obtain ⟨k, hk, hj⟩ := chain_add.mp (show Chain text p (least + (n - least)) i j by rwa [Nat.add_sub_cancel' hn])
  refine ⟨k, hk, ?_⟩
  cases most with
  | some m =>
    simp only [Option.all_some, decide_eq_true_eq] at hmost
    exact ⟨n - least, Nat.sub_le_sub_right hmost least, hj⟩
  | none =>
    obtain ⟨m, hm, hj'⟩ := hj.shorten
    have hsize := h.le_size hi
    exact ⟨m, show m ≤ text.size + 1 by omega, hj'⟩

/-- The two rounds of a repetition: the links that have to be there, and those that may be. -/
theorem Leads.repeated {step : Nat → Nat} (h : Leads text p step) {least : Nat} {most : Option Nat}
    (hord : most.all (least ≤ ·) = true) :
    Leads text (.repeated p least most) fun s =>
      Pattern.times (fun t => t ||| step t) (spare text least most) (Pattern.times step least s) := by
  intro s hs j
  have hfirst : Within text (Pattern.times step least s) := by
    intro k hk
    obtain ⟨i, hi, hc⟩ := (h.times least hs k).mp hk
    exact hc.le_size (hs i hi)
  rw [h.collect _ hfirst]
  constructor
  · rintro ⟨k, hk, m, hm, hj⟩
    obtain ⟨i, hi, hc⟩ := (h.times least hs k).mp hk
    refine ⟨i, hi, (matches_repeated (hs i hi)).mpr ⟨least + m, by omega, ?_, chain_add.mpr ⟨k, hc, hj⟩⟩⟩
    cases most with
    | none => rfl
    | some n =>
      simp only [Option.all_some, decide_eq_true_eq] at hord ⊢
      have : m ≤ n - least := hm
      omega
  · rintro ⟨i, hi, hm⟩
    obtain ⟨n, hn, hmost, hc⟩ := (matches_repeated (hs i hi)).mp hm
    obtain ⟨k, hk, hj⟩ := hc.spare (hs i hi) hn hmost
    exact ⟨k, (h.times least hs k).mpr ⟨i, hi, hk⟩, hj⟩

/-! ### Reaching -/

mutual

/-- What is reached from a set of positions are the ends of the matches that start there. -/
theorem reach_leads : ∀ p : Pattern, p.ordered = true → Leads text p (reach text p)
  | .empty, _ => by
    intro s hs j
    simp only [reach]
    constructor
    · exact fun hj => ⟨j, hj, .empty (hs j hj)⟩
    · rintro ⟨i, hi, hm⟩
      cases hm
      exact hi
  | .set c, _ => by
    intro s hs j
    simp only [reach, Nat.testBit_shiftLeft, Nat.testBit_and, testBit_positions, Bool.and_eq_true,
      decide_eq_true_eq, Option.any_eq_true]
    constructor
    · rintro ⟨hj, hi, _, ch, hch, hc⟩
      have hm := Matches.set hch hc
      rw [Nat.sub_add_cancel hj] at hm
      exact ⟨j - 1, hi, hm⟩
    · rintro ⟨i, hi, hm⟩
      cases hm with
      | set hch hc => exact ⟨by omega, by simpa using hi, by simpa using hs i hi, _, by simpa using hch, hc⟩
  | .look l, _ => by
    intro s hs j
    simp only [reach, Nat.testBit_and, testBit_positions, Bool.and_eq_true, decide_eq_true_eq]
    constructor
    · rintro ⟨hj, hsize, hl⟩
      exact ⟨j, hj, .look hsize hl⟩
    · rintro ⟨i, hi, hm⟩
      cases hm with
      | look hsize hl => exact ⟨hi, hsize, hl⟩
  | .group p captures, ho => by
    intro s hs j
    simp only [reach]
    rw [reach_leads p ho s hs j]
    constructor
    · rintro ⟨i, hi, hm⟩
      exact ⟨i, hi, .group hm⟩
    · rintro ⟨i, hi, hm⟩
      cases hm with
      | group hm => exact ⟨i, hi, hm⟩
  | .concat ps, ho => fun s hs j => reachThrough_iff ps ho s hs j
  | .alternate ps, ho => by
    intro s hs j
    simp only [reach]
    rw [reachEither_iff ps ho s hs j]
    constructor
    · rintro ⟨i, hi, p, hp, hm⟩
      exact ⟨i, hi, .alternate hp hm⟩
    · rintro ⟨i, hi, hm⟩
      cases hm with
      | alternate hp hm => exact ⟨i, hi, _, hp, hm⟩
  | .repeated p least most, ho => by
    simp only [ordered, Bool.and_eq_true] at ho
    have hp := (reach_leads p ho.2).repeated ho.1
    cases most <;> exact hp

theorem reachThrough_iff : ∀ ps : List Pattern, orderedAll ps = true → ∀ s, Within text s → ∀ j,
    (reachThrough text ps s).testBit j = true ↔ ∃ i, s.testBit i = true ∧ Matches text (.concat ps) i j
  | [], _ => by
    intro s hs j
    simp only [reachThrough]
    constructor
    · exact fun hj => ⟨j, hj, .concatNil (hs j hj)⟩
    · rintro ⟨i, hi, hm⟩
      cases hm
      exact hi
  | p :: ps, ho => by
    intro s hs j
    simp only [orderedAll, Bool.and_eq_true] at ho
    have hp : Leads text p (reach text p) := reach_leads p ho.1
    simp only [reachThrough]
    rw [reachThrough_iff ps ho.2 _ (hp.within hs) j]
    constructor
    · rintro ⟨k, hk, hm⟩
      obtain ⟨i, hi, hik⟩ := (hp s hs k).mp hk
      exact ⟨i, hi, .concatCons hik hm⟩
    · rintro ⟨i, hi, hm⟩
      cases hm with
      | concatCons hik hm => exact ⟨_, (hp s hs _).mpr ⟨i, hi, hik⟩, hm⟩

theorem reachEither_iff : ∀ ps : List Pattern, orderedAll ps = true → ∀ s, Within text s → ∀ j,
    (reachEither text ps s).testBit j = true ↔ ∃ i, s.testBit i = true ∧ ∃ p ∈ ps, Matches text p i j
  | [], _ => by simp [reachEither]
  | p :: ps, ho => by
    intro s hs j
    simp only [orderedAll, Bool.and_eq_true] at ho
    simp only [reachEither, Nat.testBit_or, Bool.or_eq_true]
    rw [reach_leads p ho.1 s hs j, reachEither_iff ps ho.2 s hs j]
    constructor
    · rintro (⟨i, hi, hm⟩ | ⟨i, hi, q, hq, hm⟩)
      · exact ⟨i, hi, p, List.mem_cons_self .., hm⟩
      · exact ⟨i, hi, q, List.mem_cons_of_mem _ hq, hm⟩
    · rintro ⟨i, hi, q, hq, hm⟩
      rcases List.mem_cons.mp hq with rfl | hq
      · exact .inl ⟨i, hi, hm⟩
      · exact .inr ⟨i, hi, q, hq, hm⟩

end

/-- A pattern occurs in a text if it matches from some position to some other. -/
theorem occursIn_iff (ho : p.ordered = true) (value : String) :
    p.occursIn value = true ↔ ∃ i j, Matches value.toList.toArray p i j := by
  have hs : Within value.toList.toArray (positions value.toList.toArray.size fun _ => true) := by
    intro i hi
    simpa [testBit_positions] using hi
  have hreach := reach_leads p ho _ hs
  simp only [occursIn, bne_iff_ne]
  constructor
  · intro hne
    obtain ⟨j, hj⟩ := Nat.exists_testBit_of_ne_zero hne
    obtain ⟨i, _, hm⟩ := (hreach j).mp hj
    exact ⟨i, j, hm⟩
  · rintro ⟨i, j, hm⟩ hzero
    have hi : i ≤ value.toList.toArray.size := Nat.le_trans hm.le.1 hm.le.2
    have hj := (hreach j).mpr ⟨i, by simpa [testBit_positions] using hi, hm⟩
    rw [hzero, Nat.zero_testBit] at hj
    cases hj

end StageGraph.Pattern
