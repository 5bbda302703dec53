import StageGraph.Proofs.Deferred.Asking
import StageGraph.Proofs.Resolvable.Coming

/-! When the values on a shelf come.

A delay that was asked for is over when it is due, and any other one so many milliseconds from now; a shared value comes
when the tree does that it is (`comes`). On a shelf where shared values are made of earlier ones only, asking tells just
what has come by now, and leaves everything to come when it would have come (`ask_answers`). -/
namespace StageGraph

/-- When a value comes that is asked for from now on. -/
def Deferred.arrival (now : Nat) (comes : Nat → Arrival Value) : Deferred → Arrival Value
  | delay ms o due => some (max now (due.getD (now + ms)), o)
  | never _ => none
  | shared p _ => p.arrival now comes

/-- A delay that has not been asked for, or is not over. -/
def Deferred.restless (now : Nat) : Deferred → Bool
  | delay _ _ due => due.all (now < ·)
  | _ => false

namespace Shelf

variable {s s' s'' : Shelf} {n depth : Nat}

/-- When the value of a number comes. Shared values may nest `depth` deep. -/
def comes (s : Shelf) : Nat → Nat → Arrival Value
  | 0, _ => none
  | depth + 1, n => s.items[n]?.bind (Deferred.arrival s.clock (s.comes depth))

/-- Shared values are made of earlier ones. -/
def Ordered (s : Shelf) : Prop := ∀ p q, s.MadeOf p q → q < p

theorem comes_notBefore (depth : Nat) : ∀ n, (s.comes depth n).NotBefore s.clock := by
  induction depth with
  | zero => exact fun _ => Arrival.notBefore_none
  | succ depth ih =>
    intro n
    rw [comes]
    cases s.items[n]? with
    | none => exact Arrival.notBefore_none
    | some d =>
      cases d with
      | delay ms o due => exact Arrival.notBefore_some.mpr (Nat.le_max_left _ _)
      | never asked => exact Arrival.notBefore_none
      | shared p asked => exact Progress.arrival_notBefore p fun q _ => ih q

/-- What stands under a number comes when it does, by what is known of when earlier values come. -/
theorem arrival_congr {comes comes' : Nat → Arrival Value} (hordered : s.Ordered)
    (h : ∀ q, q < n → comes q = comes' q) (now : Nat) :
    s.items[n]?.bind (Deferred.arrival now comes) = s.items[n]?.bind (Deferred.arrival now comes') := by
  cases hitem : s.items[n]? with
  | none => rfl
  | some d =>
    cases d with
    | shared p asked => exact Progress.arrival_congr p fun q hq => h q (hordered n q ⟨_, _, hitem, hq⟩)
    | _ => rfl

/-- It does not matter how deep shared values may nest, as long as it is deep enough. -/
theorem comes_depth (hordered : s.Ordered) : ∀ {depth depth' n : Nat}, n < depth → n < depth' →
    s.comes depth n = s.comes depth' n := by
  intro depth
  induction depth with
  | zero => exact fun h => absurd h (Nat.not_lt_zero _)
  | succ depth ih =>
    intro depth' n h h'
    obtain ⟨depth', rfl⟩ := Nat.exists_eq_add_of_lt (Nat.zero_lt_of_lt h')
    rw [Nat.zero_add] at h' ⊢
    exact arrival_congr hordered (fun q hq => ih (by omega) (by omega)) _

/-- Whether the value of a number is a delay that can still be over some day. -/
def restless (s : Shelf) (n : Nat) : Bool := s.items[n]?.any (Deferred.restless s.clock)

/-- How things stand on a shelf after questions at one moment: everything comes when it would have come. -/
structure Meanwhile (s s' : Shelf) : Prop where
  clock : s'.clock = s.clock
  size : s'.items.size = s.items.size
  ordered : s'.Ordered
  comes : ∀ {depth n}, n < depth → s'.comes depth n = s.comes depth n
  restless : ∀ n, s'.restless n = true → s.restless n = true

namespace Meanwhile

theorem refl (h : s.Ordered) : s.Meanwhile s := ⟨rfl, rfl, h, fun _ => rfl, fun _ h => h⟩

theorem trans (h : s.Meanwhile s') (h' : s'.Meanwhile s'') : s.Meanwhile s'' where
  clock := h'.clock.trans h.clock
  size := h'.size.trans h.size
  ordered := h'.ordered
  comes hn := (h'.comes hn).trans (h.comes hn)
  restless n hn := h.restless n (h'.restless n hn)

/-- Everything comes when it would have come if each value does, by what is known of when the others come. -/
theorem of_items (hclock : s'.clock = s.clock) (hsize : s'.items.size = s.items.size) (hordered : s'.Ordered)
    (hitem : ∀ depth n, n ≤ depth →
      s'.items[n]?.bind (Deferred.arrival s.clock (s.comes depth)) = s.comes (depth + 1) n)
    (hrestless : ∀ n, s'.restless n = true → s.restless n = true) : s.Meanwhile s' := by
  refine ⟨hclock, hsize, hordered, @fun depth => ?_, hrestless⟩
  induction depth with
  | zero => exact fun h => absurd h (Nat.not_lt_zero _)
  | succ depth ih =>
    intro n hn
    rw [Shelf.comes, hclock, ← hitem depth n (Nat.le_of_lt_succ hn)]
    exact arrival_congr hordered (fun q hq => ih (by omega)) s.clock

theorem start (hordered : s.Ordered) (n : Nat) : s.Meanwhile (s.start n) := by
  refine of_items rfl start_size (fun p q h => hordered p q (start_madeOf h)) (fun depth k _ => ?_) fun k hk => ?_
  · rw [start_items, Shelf.comes]
    split
    · cases s.items[k]? with
      | none => rfl
      | some d => cases d <;> rfl
    · rfl
  · rw [Shelf.restless, start_items] at hk
    split at hk
    · rw [Shelf.restless]
      cases hitem : s.items[k]? with
      | none =>
        rw [hitem] at hk
        cases hk
      | some d =>
        rw [hitem] at hk
        cases d with
        | delay ms o due =>
          cases due with
          | none => rfl
          | some due => exact hk
        | _ => cases hk
    · exact hk

/-- A shared value may give way to what a look has left of it. -/
theorem put (hordered : s.Ordered) {p : Progress Nat} (hparts : ∀ q ∈ p.awaited, q < n) (hn : n ≤ depth)
    (hcomes : p.arrival s.clock (s.comes depth) = s.comes (depth + 1) n) (hsome : n < s.items.size) :
    s.Meanwhile (s.put n (.shared p true)) := by
  have hordered' : (s.put n (.shared p true)).Ordered := by
    intro k q h
    rcases put_madeOf h with ⟨rfl, hq⟩ | h
    · exact hparts q hq
    · exact hordered k q h
  refine of_items rfl (put_size _) hordered' (fun depth' k hk => ?_) fun k hk => ?_
  · rw [put_items, Shelf.comes]
    split
    · next hnk =>
      subst hnk
      rw [Array.getElem?_eq_getElem hsome, Option.map_some, ← Array.getElem?_eq_getElem hsome]
      show p.arrival s.clock (s.comes depth') = s.comes (depth' + 1) n
      rw [comes_depth hordered (Nat.lt_succ_of_le hk) (Nat.lt_succ_of_le hn), ← hcomes]
      refine Progress.arrival_congr p fun q hq => comes_depth hordered ?_ ?_
      · exact Nat.lt_of_lt_of_le (hparts q hq) hk
      · exact Nat.lt_of_lt_of_le (hparts q hq) hn
    · rfl
  · rw [Shelf.restless, put_items] at hk
    split at hk
    · cases hitem : s.items[k]? with
      | none =>
        rw [hitem] at hk
        cases hk
      | some d =>
        rw [hitem] at hk
        cases hk
    · exact hk

end Meanwhile

/-! ### Values that are on their way -/

/-- There is nothing under the number, or a value that never comes. -/
def Silent (s : Shelf) (n : Nat) : Prop := ∀ d ∈ s.items[n]?, ∃ asked, d = .never asked

theorem comes_silent (h : s.Silent n) : ∀ depth, s.comes depth n = none := by
  rintro (- | depth)
  · rfl
  · rw [comes]
    cases hitem : s.items[n]? with
    | none => rfl
    | some d =>
      obtain ⟨asked, rfl⟩ := h d hitem
      rfl

theorem comes_item {d : Deferred} (h : s.items[n]? = some d) (depth : Nat) :
    s.comes (depth + 1) n = d.arrival s.clock (s.comes depth) := by
  rw [comes, h]
  rfl

/-- A value that was asked for and has not come: it never comes, or its delay is running, or it is shared, was looked at
and is not decided, and all that it awaits is on its way. -/
inductive Afoot (s : Shelf) : Nat → Prop
  | never {n : Nat} (hsilent : s.Silent n) : Afoot s n
  | delay {n ms due : Nat} {o : Outcome} (hitem : s.items[n]? = some (.delay ms o (some due))) (hdue : s.clock < due) :
      Afoot s n
  | shared {n : Nat} {p : Progress Nat} {asked : Bool} (hitem : s.items[n]? = some (.shared p asked))
      (hsifted : p.Sifted) (hopen : p.outcome? = none) (hparts : ∀ q ∈ p.awaited, Afoot s q) : Afoot s n

/-- No delay that is running is over before a moment. -/
def QuietUntil (s : Shelf) (moment : Nat) : Prop :=
  ∀ (n ms : Nat) (o : Outcome) (due : Nat), s.items[n]? = some (.delay ms o (some due)) → s.clock < due → moment ≤ due

theorem quiet_next : s.QuietUntil (s.clock + 1) := fun _ _ _ _ _ hdue => hdue

namespace Afoot

/-- What is on its way does not come before the next delay is over. -/
theorem notBefore {moment : Nat} (h : s.Afoot n) (hlater : s.clock < moment) (hquiet : s.QuietUntil moment) :
    ∀ depth, (s.comes depth n).NotBefore moment := by
  induction h with
  | never hsilent =>
    intro depth
    rw [comes_silent hsilent]
    exact Arrival.notBefore_none
  | delay hitem hdue =>
    rintro (- | depth)
    · exact Arrival.notBefore_none
    · rw [comes_item hitem]
      exact Arrival.notBefore_some.mpr (Nat.le_trans (hquiet _ _ _ _ hitem hdue) (Nat.le_max_right _ _))
  | shared hitem hsifted hopen _ ih =>
    rintro (- | depth)
    · exact Arrival.notBefore_none
    · rw [comes_item hitem]
      exact Progress.arrival_open hlater hsifted hopen fun q hq => ih q hq depth

theorem told (h : s.Afoot n) (depth : Nat) : (s.comes depth n).told s.clock = none :=
  Arrival.told_before (h.notBefore (Nat.lt_succ_self _) quiet_next depth) (Nat.lt_succ_self _)

/-- What is on its way and comes, comes when a delay is over that is running. -/
theorem running (h : s.Afoot n) : ∀ {depth t : Nat}, (s.comes depth n).At t →
    ∃ (k ms : Nat) (o : Outcome), s.items[k]? = some (.delay ms o (some t)) ∧ s.clock < t := by
  induction h with
  | never hsilent =>
    intro depth t hat
    rw [comes_silent hsilent] at hat
    obtain ⟨o, ho⟩ := hat
    cases ho
  | @delay n ms due o hitem hdue =>
    rintro (- | depth) t ⟨o', ho⟩
    · cases ho
    · rw [comes_item hitem] at ho
      cases ho
      rw [Nat.max_eq_right (show s.clock ≤ (some due).getD (s.clock + ms) from Nat.le_of_lt hdue)]
      exact ⟨n, ms, _, hitem, hdue⟩
  | @shared n p asked hitem hsifted hopen hparts ih =>
    rintro (- | depth) t hat
    · obtain ⟨o, ho⟩ := hat
      cases ho
    · have hopen' := Progress.arrival_open (Nat.lt_succ_self s.clock) hsifted hopen fun q hq =>
        (hparts q hq).notBefore (Nat.lt_succ_self _) quiet_next depth
      rw [comes_item hitem] at hat
      rcases Progress.arrival_at hat with hnow | ⟨q, hq, hat⟩
      · obtain ⟨o, ho⟩ := hat
        exact absurd hnow (Nat.ne_of_gt (hopen' _ ho))
      · exact ih q hq hat

/-- **What is on its way comes when it would have come**, if time goes on until the next delay is over. -/
theorem pass {moment : Nat} (h : s.Afoot n) (hlater : s.clock < moment) (hquiet : s.QuietUntil moment) :
    ∀ depth, (s.pass moment).comes depth n = s.comes depth n := by
  induction h with
  | never hsilent =>
    intro depth
    rw [comes_silent hsilent, comes_silent (s := s.pass moment) hsilent]
  | @delay n ms due o hitem hdue =>
    rintro (- | depth)
    · rfl
    · rw [comes_item hitem, comes_item (s := s.pass moment) hitem]
      show some (max moment due, o) = some (max s.clock due, o)
      rw [Nat.max_eq_right (hquiet n ms o due hitem hdue), Nat.max_eq_right (Nat.le_of_lt hdue)]
  | @shared n p asked hitem hsifted hopen hparts ih =>
    rintro (- | depth)
    · rfl
    · have hnotBefore := fun q hq => (hparts q hq).notBefore hlater hquiet depth
      rw [comes_item hitem, comes_item (s := s.pass moment) hitem]
      show p.arrival moment ((s.pass moment).comes depth) = p.arrival s.clock (s.comes depth)
      rw [Progress.arrival_congr p fun q hq => ih q hq depth, Progress.arrival_later hlater p hsifted hnotBefore]
      exact Arrival.later_of_notBefore (Progress.arrival_open hlater hsifted hopen hnotBefore)

/-- To start a value changes nothing for those that are on their way. -/
theorem start (h : s.Afoot n) (k : Nat) : (s.start k).Afoot n := by
  induction h with
  | @never n hsilent =>
    refine .never fun d hd => ?_
    rw [Option.mem_def, start_items] at hd
    split at hd
    · obtain ⟨d', hd', rfl⟩ := Option.map_eq_some_iff.mp hd
      obtain ⟨asked, rfl⟩ := hsilent d' hd'
      exact ⟨true, rfl⟩
    · exact hsilent d hd
  | @delay n ms due o hitem hdue =>
    have hstarted : (s.start k).items[n]? = some (.delay ms o (some due)) := by
      rw [start_items, hitem]
      split <;> rfl
    exact .delay hstarted hdue
  | @shared n p asked hitem hsifted hopen _ ih =>
    have hstarted : (s.start k).items[n]? = some (.shared p (if k = n then true else asked)) := by
      rw [start_items, hitem]
      split <;> rfl
    exact .shared hstarted hsifted hopen ih

/-- A shared value that is put in the place of one on its way has to be on its way itself; then all others still are. -/
theorem put {p : Progress Nat} (hordered : s.Ordered)
    (hn : s.Afoot n → p.Sifted ∧ p.outcome? = none ∧ ∀ q ∈ p.awaited, q < n ∧ s.Afoot q) :
    ∀ k, s.Afoot k → (s.put n (.shared p true)).Afoot k := by
  intro k
  induction k using Nat.strongRecOn with
  | ind k ih =>
    intro h
    by_cases hk : n = k
    · subst hk
      obtain ⟨hsifted, hopen, hparts⟩ := hn h
      cases hitem : s.items[n]? with
      | none =>
        refine .never fun d hd => ?_
        rw [Option.mem_def, put_items, if_pos rfl, hitem] at hd
        cases hd
      | some d =>
        have hput : (s.put n (.shared p true)).items[n]? = some (.shared p true) := by
          rw [put_items, if_pos rfl, hitem, Option.map_some]
        exact .shared hput hsifted hopen fun q hq => ih q (hparts q hq).1 (hparts q hq).2
    · have hsame : (s.put n (.shared p true)).items[k]? = s.items[k]? := by rw [put_items, if_neg hk]
      cases h with
      | never hsilent =>
        refine .never fun d hd => hsilent d ?_
        rwa [← hsame]
      | delay hitem hdue => exact .delay (hsame.trans hitem) hdue
      | shared hitem hsifted hopen hparts =>
        exact .shared (hsame.trans hitem) hsifted hopen fun q hq => ih q (hordered k q ⟨_, _, hitem, hq⟩) (hparts q hq)

end Afoot

/-! ### A question -/

/-- How things stand on a shelf after questions at one moment: everything comes when it would have come, and what was on its
way is so still. -/
structure Answered (s s' : Shelf) : Prop extends s.Meanwhile s' where
  afoot : ∀ k, s.Afoot k → s'.Afoot k

theorem Answered.refl (h : s.Ordered) : s.Answered s := ⟨.refl h, fun _ h => h⟩

theorem Answered.trans (h : s.Answered s') (h' : s'.Answered s'') : s.Answered s'' :=
  ⟨h.toMeanwhile.trans h'.toMeanwhile, fun k hk => h'.afoot k (h.afoot k hk)⟩

/-- What questions do, as things stand on the shelf. -/
def questions : Course (StateM Shelf) { s : Shelf // s.Ordered } := Course.states @Answered.refl @Answered.trans

/-- What a look leaves, if those are asked that it awaits: all that it awaits still was asked, and is on its way. -/
theorem look_answers {ask : Nat → StateM Shelf (Poll Value)} {view : Nat → Poll Value} {p : Progress Nat}
    (hask : ∀ q ∈ p.awaited, ∀ s', s.Answered s' → s'.Answered (ask q s').2 ∧ (ask q s').1 = view q ∧
      ((ask q s').1 = none → (ask q s').2.Afoot q)) (hs' : s.Answered s') :
    s.Answered (p.look ask s').2 ∧ (p.look ask s').1 = p.look (m := Id) view ∧
      ∀ q ∈ (p.look ask s').1.awaited, q ∈ p.awaited ∧ (p.look ask s').2.Afoot q := by
  have hview : (Telling.keeping s.Answered).holds (p.look ask) fun r => r = p.look (m := Id) view :=
    Progress.look_view _ p fun q hq s' hs' => ⟨(hask q hq s' hs').2.1, hs'.trans (hask q hq s' hs').1⟩
  have hawaits : (Telling.keeping fun _ => True).holds (p.look ask) fun r => ∀ q ∈ r.awaited, q ∈ p.awaited :=
    Progress.look_awaits _ p fun q hq _ _ => ⟨fun _ => hq, trivial⟩
  have hafoot : questions.holds ⟨s', hs'.ordered⟩ (p.look ask) fun s r => ∀ q ∈ r.awaited, s.1.Afoot q := by
    refine Progress.look_throughout questions (fun s => Progress.lasting_awaits s.1.Afoot)
      (fun hlater hr q hq => hlater.afoot q (hr q hq)) p ⟨s', hs'.ordered⟩ fun q hq s'' hs'' => ?_
    obtain ⟨hkept, -, hafoot⟩ := hask q hq s'' (hs'.trans hs'')
    refine ⟨hkept.ordered, hkept, fun hnone k hk => ?_⟩
    rw [List.mem_singleton.mp hk]
    exact hafoot hnone
  obtain ⟨hsame, hanswered⟩ := hview s' hs'
  exact ⟨hanswered, hsame, fun q hq => ⟨(hawaits s' trivial).1 q hq, hafoot.2.2 q hq⟩⟩

/-- Who asks for a shared value has all of it asked for that was not there so far, and leaves what is missing still. -/
theorem ask_shared_answers {p : Progress Nat} {asked : Bool} (hordered : s.Ordered) (hn : n ≤ depth)
    (hitem : s.items[n]? = some (.shared p asked))
    (hask : ∀ q ∈ p.awaited, ∀ s', s.Answered s' → s'.Answered (ask depth q s').2 ∧
      (ask depth q s').1 = (s.comes depth q).told s.clock ∧ ((ask depth q s').1 = none → (ask depth q s').2.Afoot q)) :
    s.Answered (ask (depth + 1) n s).2 ∧ (ask (depth + 1) n s).1 = (s.comes (depth + 1) n).told s.clock ∧
      ((ask (depth + 1) n s).1 = none → (ask (depth + 1) n s).2.Afoot n) := by
  have hparts : ∀ q ∈ p.awaited, q < n := fun q hq => hordered n q ⟨_, _, hitem, hq⟩
  obtain ⟨hkept, hview, hleft⟩ := look_answers hask ⟨.start hordered n, fun k hk => hk.start n⟩
  rw [ask_shared hitem]
  generalize p.look (ask depth) (s.start n) = looked at hkept hview hleft
  have hcomes : s.comes (depth + 1) n = p.arrival s.clock (s.comes depth) := comes_item hitem depth
  obtain ⟨houtcome, hsame⟩ := Progress.look_arrival (fun _ => rfl) p fun q _ => s.comes_notBefore depth q
  rw [← hview, ← hcomes] at houtcome hsame
  have hsifted : looked.1.Sifted := by
    rw [hview]
    exact Progress.look_sifted Telling.plain (fun _ => trivial) p
  have hsome : n < looked.2.items.size := hkept.size.symm ▸ (Array.getElem?_eq_some_iff.mp hitem).choose
  have hput : looked.2.Meanwhile (looked.2.put n (.shared looked.1 true)) := by
    refine .put hkept.ordered (fun q hq => hparts q (hleft q hq).1) hn ?_ hsome
    rw [hkept.clock, hkept.comes (Nat.lt_succ_of_le hn), ← hsame]
    exact Progress.arrival_congr _ fun q hq => hkept.comes (Nat.lt_of_lt_of_le (hparts q (hleft q hq).1) hn)
  have hafoot : ∀ k, looked.2.Afoot k → (looked.2.put n (.shared looked.1 true)).Afoot k := by
    refine Afoot.put hkept.ordered fun hn' => ⟨hsifted, ?_, fun q hq => ⟨hparts q (hleft q hq).1, (hleft q hq).2⟩⟩
    rw [houtcome, ← hkept.comes (Nat.lt_succ_of_le hn), ← hkept.clock]
    exact hn'.told _
  refine ⟨hkept.trans ⟨hput, hafoot⟩, houtcome, fun hnone => ?_⟩
  have hleft' : (looked.2.put n (.shared looked.1 true)).items[n]? = some (.shared looked.1 true) := by
    rw [put_items, if_pos rfl, Array.getElem?_eq_getElem hsome, Option.map_some]
  exact .shared hleft' hsifted hnone fun q hq => hafoot q (hleft q hq).2

/-- **Asking tells just what has come by now**; what has not come is on its way then. -/
theorem ask_answers (depth : Nat) : ∀ {s : Shelf} {n : Nat}, s.Ordered → n < depth →
    s.Answered (ask depth n s).2 ∧ (ask depth n s).1 = (s.comes depth n).told s.clock ∧
      ((ask depth n s).1 = none → (ask depth n s).2.Afoot n) := by
  induction depth with
  | zero => exact fun _ h => absurd h (Nat.not_lt_zero _)
  | succ depth ih =>
    intro s n hordered hn
    have hstart : s.Answered (s.start n) := ⟨.start hordered n, fun k hk => hk.start n⟩
    cases hitem : s.items[n]? with
    | none =>
      have hsilent : s.Silent n := fun d hd => by
        rw [hitem] at hd
        cases hd
      rw [ask_missing hitem, comes_silent hsilent]
      exact ⟨hstart, rfl, fun _ => (Afoot.never hsilent).start n⟩
    | some d =>
      cases d with
      | never asked =>
        have hsilent : s.Silent n := fun d hd => by
          rw [hitem] at hd
          cases hd
          exact ⟨_, rfl⟩
        rw [ask_never hitem, comes_silent hsilent]
        exact ⟨hstart, rfl, fun _ => (Afoot.never hsilent).start n⟩
      | delay ms o due =>
        rw [ask_delay hitem, comes_item hitem]
        refine ⟨hstart, ?_, fun hnone => ?_⟩
        · simp only [Deferred.arrival, Arrival.told, Nat.max_le, Nat.le_refl, true_and]
        · have hrunning : (s.start n).items[n]? = some (.delay ms o (some (due.getD (s.clock + ms)))) := by
            rw [start_items, if_pos rfl, hitem]
            rfl
          refine .delay hrunning ?_
          rw [start_clock]
          split at hnone
          · cases hnone
          · next hlate => exact Nat.not_le.mp hlate
      | shared p asked =>
        refine ask_shared_answers hordered (Nat.le_of_lt_succ hn) hitem fun q hq s' hs' => ?_
        have hdepth : q < depth := Nat.lt_of_lt_of_le (hordered n q ⟨_, _, hitem, hq⟩) (Nat.le_of_lt_succ hn)
        obtain ⟨hkept, htold, hafoot⟩ := ih hs'.ordered hdepth
        exact ⟨hkept, by rw [htold, hs'.clock, hs'.comes hdepth], hafoot⟩

end Shelf
end StageGraph
