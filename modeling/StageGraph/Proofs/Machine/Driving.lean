import Mathlib.Data.List.Perm.Basic
import StageGraph.Machine.Drive

/-! Running a machine, round by round.

What one round comes to is said case by case. What every round keeps is kept all the while (`drive_keeps`), and if every
round ends or leaves less to go, waiting ends (`drive_comes_to`). -/
namespace StageGraph.Machine

variable {m : Machine} {choose : Choice} {goal : Awaited} {deadline : Option Nat} {fuel : Nat}

/-- What is asked for has come about. -/
theorem drive_outcome {o : Outcome} (h : (m.looked goal).standing goal = some o) :
    drive choose goal deadline (fuel + 1) m = (some (.outcome o), m.looked goal) := by
  simp only [drive, h]

/-- The deadline is there. -/
theorem drive_late (h : (m.looked goal).standing goal = none)
    (hlate : deadline.any (fun due => decide (due ≤ (m.looked goal).clock)) = true) :
    drive choose goal deadline (fuel + 1) m = (some .late, m.looked goal) := by
  simp only [drive, h, if_pos hlate]

/-- What waiting ends with, and how things stand then. -/
inductive Concluded (goal : Awaited) (deadline : Option Nat) : Option Verdict → Machine → Prop
  | unfinished (m : Machine) : Concluded goal deadline none m
  | outcome {m : Machine} {o : Outcome} : m.standing goal = some o → Concluded goal deadline (some (.outcome o)) m
  | late {m : Machine} {due : Nat} : m.standing goal = none → deadline = some due → due ≤ m.clock →
    Concluded goal deadline (some .late) m
  | stuck {m : Machine} : m.standing goal = none → m.ready = [] → m.nextMoment? goal deadline = none →
    Concluded goal deadline (some .stuck) m

/-- **Waiting ends with what has become of what is asked for**, or late, or when nothing can go on. -/
theorem drive_concluded (fuel : Nat) : ∀ m : Machine,
    Concluded goal deadline (drive choose goal deadline fuel m).1 (drive choose goal deadline fuel m).2 := by
  induction fuel with
  | zero => exact .unfinished
  | succ fuel ih =>
    intro m
    unfold drive
    simp only
    cases hstanding : (m.looked goal).standing goal with
    | some o => exact .outcome hstanding
    | none =>
      simp only
      split
      · next hlate =>
        cases deadline with
        | none => cases hlate
        | some due => exact .late hstanding rfl (of_decide_eq_true hlate)
      · split
        · next hready =>
          split
          · exact ih _
          · split
            · exact ih _
            · next hmoment => exact .stuck hstanding (List.isEmpty_iff.mp hready) hmoment
        · exact ih _

theorem drive_standing {o : Outcome} (h : (drive choose goal deadline fuel m).1 = some (.outcome o)) :
    (drive choose goal deadline fuel m).2.standing goal = some o := by
  have hends : Concluded goal deadline _ (drive choose goal deadline fuel m).2 := drive_concluded fuel m
  rw [h] at hends
  cases hends with
  | outcome hstanding => exact hstanding

/-- What a run has come to does not change with more fuel. -/
theorem drive_more {verdict : Verdict} (more : Nat) : ∀ {fuel : Nat} {m : Machine},
    (drive choose goal deadline fuel m).1 = some verdict →
      drive choose goal deadline (fuel + more) m = drive choose goal deadline fuel m
  | 0, _, h => by cases h
  | fuel + 1, m, h => by
    rw [Nat.add_right_comm]
    rw [drive] at h ⊢
    rw [drive]
    split
    · rfl
    · next hstanding =>
      rw [hstanding] at h
      simp only at h
      split
      · rfl
      · next hlate =>
        rw [if_neg hlate] at h
        split
        · next hready =>
          rw [if_pos hready] at h
          split
          · next hroom =>
            rw [if_pos hroom] at h
            exact drive_more more h
          · next hroom =>
            rw [if_neg hroom] at h
            split
            · next moment hmoment =>
              rw [hmoment] at h
              exact drive_more more h
            · rfl
        · next hready =>
          rw [if_neg hready] at h
          exact drive_more more h

variable (h : (m.looked goal).standing goal = none)
  (hlate : deadline.any (fun due => decide (due ≤ (m.looked goal).clock)) = false)
include h hlate

/-- Some tasks have their turns. -/
theorem drive_ready (hready : (m.looked goal).ready ≠ []) :
    drive choose goal deadline (fuel + 1) m =
      drive choose goal deadline fuel ((m.looked goal).advanceMany choose turnsPerLook) := by
  have hready' : (m.looked goal).ready.isEmpty = false := by simpa using hready
  simp only [drive, h, hlate, hready', Bool.false_eq_true, if_false]

/-- The look was not over. -/
theorem drive_crammed (hready : (m.looked goal).ready = []) (hroom : (m.looked goal).room = 0) :
    drive choose goal deadline (fuel + 1) m = drive choose goal deadline fuel (m.looked goal) := by
  simp only [drive, h, hlate, hready, List.isEmpty_nil, hroom, Bool.false_eq_true, if_false, if_true]

/-- Time passes. -/
theorem drive_idle (hready : (m.looked goal).ready = []) (hroom : (m.looked goal).room ≠ 0) {moment : Nat}
    (hmoment : (m.looked goal).nextMoment? goal deadline = some moment) :
    drive choose goal deadline (fuel + 1) m =
      drive choose goal deadline fuel { m.looked goal with clock := moment } := by
  simp only [drive, h, hlate, hready, List.isEmpty_nil, if_neg hroom, hmoment, Bool.false_eq_true, if_false, if_true]

/-- Nothing is left that could bring it about. -/
theorem drive_stuck (hready : (m.looked goal).ready = []) (hroom : (m.looked goal).room ≠ 0)
    (hmoment : (m.looked goal).nextMoment? goal deadline = none) :
    drive choose goal deadline (fuel + 1) m = (some .stuck, m.looked goal) := by
  simp only [drive, h, hlate, hready, List.isEmpty_nil, if_neg hroom, hmoment, Bool.false_eq_true, if_false, if_true]

omit h hlate

/-! ### Turns -/

theorem advance_idle (hready : m.ready = []) (choose : Choice) : m.advance choose = m := by
  unfold advance
  simp only [hready, List.getElem?_nil]

/-- If anybody is ready, one of them leaves the queue and has a turn, and then those wake that have cause to. -/
theorem advance_ready (hready : m.ready ≠ []) (choose : Choice) : ∃ k rest, (k :: rest).Perm m.ready ∧
    m.advance choose = ({ m with ready := rest }.turn k).wake := by
  have hplace : choose m % m.ready.length < m.ready.length := Nat.mod_lt _ (List.length_pos_iff.mpr hready)
  unfold advance
  generalize choose m % m.ready.length = place at hplace ⊢
  simp only [List.getElem?_eq_getElem hplace]
  exact ⟨m.ready[place], m.ready.eraseIdx place, List.getElem_cons_eraseIdx_perm hplace, rfl⟩

/-- What every turn keeps, and how it gets on, goes for several turns of those who are ready. -/
theorem advanceMany_steps {P : Machine → Prop} {R : Machine → Machine → Prop}
    (htrans : ∀ {m m' m''}, R m'' m' → R m' m → R m'' m)
    (hturn : ∀ {m}, P m → m.ready ≠ [] → P (m.advance choose) ∧ R (m.advance choose) m) (n : Nat) :
    ∀ {m : Machine}, P m → m.ready ≠ [] → P (m.advanceMany choose (n + 1)) ∧ R (m.advanceMany choose (n + 1)) m := by
  induction n with
  | zero =>
    intro m h hready
    unfold advanceMany
    rw [if_neg (by simpa using hready)]
    exact hturn h hready
  | succ n ih =>
    intro m h hready
    obtain ⟨hkept, hstep⟩ := hturn h hready
    unfold advanceMany
    rw [if_neg (by simpa using hready)]
    by_cases hnext : (m.advance choose).ready = []
    · unfold advanceMany
      rw [if_pos (by simpa using hnext)]
      exact ⟨hkept, hstep⟩
    · obtain ⟨hkept', hmore⟩ := ih hkept hnext
      exact ⟨hkept', htrans hmore hstep⟩

section

variable {P : Machine → Prop} (hlook : ∀ {m}, P m → P (m.looked goal)) (hturn : ∀ {m}, P m → P (m.advance choose))
  (hpass : ∀ {m : Machine} (moment : Nat), P m → P { m with clock := moment })

include hturn in
/-- What every turn keeps is kept by several. -/
theorem advanceMany_keeps (n : Nat) : ∀ {m : Machine}, P m → P (m.advanceMany choose n) := by
  induction n with
  | zero => exact id
  | succ n ih =>
    intro m hm
    unfold advanceMany
    split
    · exact hm
    · exact ih (hturn hm)

include hlook hturn hpass in
/-- What looks, turns and the clock keep is kept all the while something is waited for. -/
theorem drive_keeps (deadline : Option Nat) (fuel : Nat) : ∀ {m : Machine}, P m →
    P (drive choose goal deadline fuel m).2 := by
  induction fuel with
  | zero => exact id
  | succ fuel ih =>
    intro m hm
    have hlooked := hlook hm
    unfold drive
    simp only
    split
    · exact hlooked
    · split
      · exact hlooked
      · split
        · split
          · exact ih hlooked
          · split
            · exact ih (hpass _ hlooked)
            · exact hlooked
        · exact ih (advanceMany_keeps (P := P) hturn turnsPerLook hlooked)

end

/-- Waiting ends, if every round of it ends or leaves less to go. -/
theorem drive_comes_to {P : Machine → Prop} {R : Machine → Machine → Prop} {ends : Option Verdict → Prop}
    (hwf : WellFounded R)
    (hround : ∀ {m}, P m → (∃ verdict, ends verdict ∧ ∀ fuel, (drive choose goal deadline (fuel + 1) m).1 = verdict) ∨
      ∃ m', P m' ∧ R m' m ∧ ∀ fuel, drive choose goal deadline (fuel + 1) m = drive choose goal deadline fuel m')
    (m : Machine) : P m → ∃ enough, ∀ fuel, enough ≤ fuel → ends (drive choose goal deadline fuel m).1 := by
  induction m using hwf.induction with
  | _ m ih =>
    intro h
    rcases hround h with ⟨verdict, hends, hdrive⟩ | ⟨m', hkept, hless, hdrive⟩
    · refine ⟨1, fun fuel hfuel => ?_⟩
      obtain ⟨fuel, rfl⟩ := Nat.exists_eq_add_of_le' hfuel
      rw [hdrive]
      exact hends
    · obtain ⟨enough, henough⟩ := ih m' hless hkept
      refine ⟨enough + 1, fun fuel hfuel => ?_⟩
      obtain ⟨fuel, rfl⟩ := Nat.exists_eq_add_of_le' (Nat.le_trans (Nat.le_add_left 1 enough) hfuel)
      rw [hdrive]
      exact henough fuel (Nat.le_of_succ_le_succ hfuel)

theorem wake_eq (m : Machine) : m.wake =
    { m with ready := m.ready ++ m.blocked.filter m.stirred,
             blocked := m.blocked.filter fun k => !m.stirred k } := by
  unfold wake
  rw [List.partition_eq_filter_filter]
  rfl

/-- Nobody gets lost in the queue. -/
theorem wake_queue (m : Machine) : (m.wake.ready ++ m.wake.blocked).Perm (m.ready ++ m.blocked) := by
  have hperm : (m.blocked.filter m.stirred ++ m.blocked.filter fun k => !m.stirred k).Perm m.blocked :=
    List.filter_append_perm _ _
  rw [wake_eq, List.append_assoc]
  exact hperm.append_left m.ready

/-- Who has cause to look again does not stay aside. -/
theorem wake_still {m : Machine} {k : Nat} (hk : k ∈ m.wake.blocked) : m.wake.stirred k = false := by
  have hsame : m.wake.stirred k = m.stirred k := by
    rw [wake_eq]
    rfl
  rw [wake_eq] at hk
  rw [hsame]
  simpa using (List.mem_filter.mp hk).2

/-- The next moment is there before the deadline is over. -/
theorem nextMoment?_eq_some (goal : Awaited) {due : Nat} (h : m.clock < due) :
    ∃ moment, m.nextMoment? goal (some due) = some moment ∧ m.clock < moment ∧ moment ≤ due := by
  have hmin (moments : List Nat) (hdue : due ∈ moments) : ∃ moment,
      (moments.filter (m.clock < ·)).min? = some moment ∧ m.clock < moment ∧ moment ≤ due := by
    have hlater : due ∈ moments.filter (m.clock < ·) := List.mem_filter.mpr ⟨hdue, decide_eq_true h⟩
    obtain ⟨moment, hmoment⟩ := Option.isSome_iff_exists.mp (List.isSome_min?_of_mem hlater)
    obtain ⟨hmem, hle⟩ := List.min?_eq_some_iff.mp hmoment
    exact ⟨moment, hmoment, of_decide_eq_true (List.mem_filter.mp hmem).2, hle due hlater⟩
  exact hmin _ (List.mem_append_right _ (List.mem_singleton_self due))

/-- The next moment is no later than any moment that a task waits for. -/
theorem nextMoment?_le {moment due k : Nat} {t : Task} (h : m.nextMoment? goal deadline = some moment)
    (hk : k ∈ m.blocked) (ht : m.tasks[k]? = some t) (hdue : due ∈ t.phase.moments) (hlater : m.clock < due) :
    moment ≤ due := by
  refine (List.min?_eq_some_iff.mp h).2 due (List.mem_filter.mpr ⟨?_, decide_eq_true hlater⟩)
  refine List.mem_append_left _ (List.mem_append_left _ (List.mem_flatMap.mpr ⟨k, hk, ?_⟩))
  rw [ht]
  exact hdue

end StageGraph.Machine
