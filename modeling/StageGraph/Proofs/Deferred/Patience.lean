import Mathlib.Data.Finset.Card
import Mathlib.Data.Finset.Range
import StageGraph.Proofs.Deferred.Timetable
import StageGraph.Proofs.Resolvable.Routes

/-! Waiting on a shelf.

Whoever waits asks again whenever a delay is over, and every time there is one less that can still be over (`unrest`). So
waiting comes to an end, and what it comes to is what was to come from the beginning (`wait_ask`), for the end of a path
(`navigate_arrival`) and for a whole tree (`resolve_arrival`). What each number stands for is the same afterwards
(`Lasts`). -/
namespace StageGraph.Shelf

variable {s s' s'' : Shelf} {n depth moment : Nat}

/-! ### The next moment -/

theorem mem_moments {t : Nat} : t ∈ (s.items.toList.filterMap Deferred.moment?).filter (s.clock < ·) ↔
    s.clock < t ∧ ∃ (n ms : Nat) (o : Outcome), s.items[n]? = some (.delay ms o (some t)) := by
  rw [List.mem_filter, List.mem_filterMap, decide_eq_true_iff, and_comm, and_congr_right_iff]
  intro _
  constructor
  · rintro ⟨d, hd, hmoment⟩
    obtain ⟨n, hn⟩ := List.getElem?_of_mem hd
    cases d with
    | delay ms o due =>
      cases hmoment
      exact ⟨n, ms, o, by rwa [Array.getElem?_toList] at hn⟩
    | _ => cases hmoment
  · rintro ⟨n, ms, o, hitem⟩
    rw [← Array.getElem?_toList] at hitem
    exact ⟨_, List.mem_of_getElem? hitem, rfl⟩

theorem nextMoment?_some (h : s.nextMoment? = some moment) :
    s.clock < moment ∧ s.QuietUntil moment ∧
      ∃ (n ms : Nat) (o : Outcome), s.items[n]? = some (.delay ms o (some moment)) := by
  obtain ⟨hmem, hleast⟩ := List.min?_eq_some_iff.mp h
  obtain ⟨hlater, hitem⟩ := mem_moments.mp hmem
  exact ⟨hlater, fun n ms o due hdue hlate => hleast due (mem_moments.mpr ⟨hlate, n, ms, o, hdue⟩), hitem⟩

theorem nextMoment?_none (h : s.nextMoment? = none) {ms due : Nat} {o : Outcome}
    (hitem : s.items[n]? = some (.delay ms o (some due))) : due ≤ s.clock := by
  refine Nat.not_lt.mp fun hlate => ?_
  have hmem := mem_moments.mpr ⟨hlate, n, ms, o, hitem⟩
  rw [List.min?_eq_none_iff.mp h] at hmem
  cases hmem

/-! ### Delays that can still be over -/

/-- How many delays can still be over some day. -/
def unrest (s : Shelf) : Nat := ((Finset.range s.items.size).filter fun n => s.restless n = true).card

theorem unrest_le_size : s.unrest ≤ s.items.size :=
  (Finset.card_filter_le _ _).trans (Finset.card_range _).le

theorem Meanwhile.unrest_le (h : s.Meanwhile s') : s'.unrest ≤ s.unrest := by
  refine Finset.card_le_card fun n hn => ?_
  obtain ⟨hsize, hrestless⟩ := Finset.mem_filter.mp hn
  exact Finset.mem_filter.mpr ⟨h.size ▸ hsize, h.restless n hrestless⟩

/-- A delay that is running can still be over, until it is due. -/
theorem restless_running {ms due : Nat} {o : Outcome} (hitem : s.items[n]? = some (.delay ms o (some due))) :
    s.restless n = true ↔ s.clock < due := by
  rw [restless, hitem]
  exact decide_eq_true_iff

/-- When time goes on to the end of a delay, there is one less that can still be over. -/
theorem unrest_pass (hlater : s.clock < moment) {ms : Nat} {o : Outcome}
    (hitem : s.items[n]? = some (.delay ms o (some moment))) : (s.pass moment).unrest < s.unrest := by
  have hsubset : ((Finset.range s.items.size).filter fun n => (s.pass moment).restless n = true) ⊆
      (Finset.range s.items.size).filter fun n => s.restless n = true := by
    refine Finset.monotone_filter_right _ fun k _ hk => ?_
    rw [restless, show (s.pass moment).items = s.items from rfl] at hk
    rw [restless]
    cases hd : s.items[k]? with
    | none =>
      rw [hd] at hk
      cases hk
    | some d =>
      rw [hd] at hk
      cases d with
      | delay ms o due =>
        cases due with
        | none => rfl
        | some due => exact decide_eq_true (Nat.lt_trans hlater (of_decide_eq_true hk))
      | _ => cases hk
  have hsome : n < s.items.size := (Array.getElem?_eq_some_iff.mp hitem).choose
  refine Finset.card_lt_card ((Finset.ssubset_iff_of_subset hsubset).mpr ⟨n, ?_, fun hn => ?_⟩)
  · exact Finset.mem_filter.mpr ⟨Finset.mem_range.mpr hsome, (restless_running hitem).mpr hlater⟩
  · exact Nat.lt_irrefl _ ((restless_running (s := s.pass moment) hitem).mp (Finset.mem_filter.mp hn).2)

theorem nextMoment?_of_unrest (h : s.unrest = 0) : s.nextMoment? = none := by
  refine Option.eq_none_iff_forall_not_mem.mpr fun moment hmoment => ?_
  obtain ⟨hlater, -, n, ms, o, hitem⟩ := nextMoment?_some hmoment
  exact Nat.not_lt_zero _ (h ▸ unrest_pass hlater hitem)

/-! ### Waiting for a value -/

/-- What is on its way never comes if no delay is running. -/
theorem Afoot.stuck (h : s.Afoot n) (hnext : s.nextMoment? = none) (depth : Nat) : s.comes depth n = none := by
  refine Option.eq_none_iff_forall_not_mem.mpr fun c hc => ?_
  obtain ⟨k, ms, o, hitem, hlate⟩ := h.running ⟨c.2, hc⟩
  exact Nat.not_lt.mpr (nextMoment?_none hnext hitem) hlate

theorem ask_comes (hordered : s.Ordered) (hn : n < depth) {o : Outcome} (h : (ask depth n s).1 = some o) :
    s.comes depth n = some (s.clock, o) :=
  (Arrival.told_of_notBefore (s.comes_notBefore depth n)).mp ((ask_answers depth hordered hn).2.1.symm.trans h)

/-- **Waiting comes to what was to come**, however long it takes, and to nothing if that never comes. -/
theorem wait_ask (hn : n < depth) (fuel : Nat) : ∀ {s : Shelf}, s.Ordered → s.unrest ≤ fuel →
    (wait (ask depth n) fuel s).1 = (s.comes depth n).map Prod.snd := by
  induction fuel with
  | zero =>
    intro s hordered hfuel
    show (ask depth n s).1 = _
    cases h : (ask depth n s).1 with
    | some o => rw [ask_comes hordered hn h, Option.map_some]
    | none =>
      obtain ⟨hkept, -, hafoot⟩ := ask_answers depth hordered hn
      have hstill := nextMoment?_of_unrest (Nat.le_zero.mp (hkept.toMeanwhile.unrest_le.trans hfuel))
      rw [← hkept.comes hn, (hafoot h).stuck hstill, Option.map_none]
  | succ fuel ih =>
    intro s hordered hfuel
    cases h : (ask depth n s).1 with
    | some o => rw [wait_answered h, ask_comes hordered hn h, Option.map_some]
    | none =>
      obtain ⟨hkept, -, hafoot⟩ := ask_answers depth hordered hn
      have hafoot := hafoot h
      rw [← hkept.comes hn]
      cases hnext : (ask depth n s).2.nextMoment? with
      | some moment =>
        obtain ⟨hlater, hquiet, k, ms, o, hitem⟩ := nextMoment?_some hnext
        have hless := unrest_pass hlater hitem
        have hle := hkept.toMeanwhile.unrest_le
        rw [wait_pass h hnext, ← hafoot.pass hlater hquiet depth]
        exact ih hkept.ordered (by omega)
      | none =>
        rw [wait_stuck h hnext, hafoot.stuck hnext, Option.map_none]

/-- Who makes something of an answer waits for the answer. -/
theorem wait_map {α β : Type} {question : StateM Shelf (Poll α)} {make : Poll α → Poll β} (hnone : make none = none)
    (hsome : ∀ o, (make (some o)).isSome) (fuel : Nat) : ∀ s : Shelf,
    wait (do return make (← question)) fuel s = (make (wait question fuel s).1, (wait question fuel s).2) := by
  induction fuel with
  | zero => exact fun s => rfl
  | succ fuel ih =>
    intro s
    have hmake : ((do return make (← question) : StateM Shelf (Poll β)) s).1 = make (question s).1 := rfl
    have hshelf : ((do return make (← question) : StateM Shelf (Poll β)) s).2 = (question s).2 := rfl
    cases h : (question s).1 with
    | some o =>
      obtain ⟨o', ho⟩ := Option.isSome_iff_exists.mp (hsome o)
      rw [h, ho] at hmake
      rw [wait_answered h, wait_answered hmake, hshelf, ho]
    | none =>
      rw [h, hnone] at hmake
      cases hnext : (question s).2.nextMoment? with
      | some moment =>
        rw [wait_pass h hnext, wait_pass hmake (hshelf ▸ hnext), hshelf]
        exact ih _
      | none => rw [wait_stuck h hnext, wait_stuck hmake (hshelf ▸ hnext), hshelf, hnone]

/-- Who knows the answer has it, and if there is none, it is not there later either. -/
theorem wait_pure {α : Type} (answer : Poll α) (fuel : Nat) : ∀ s : Shelf, (wait (pure answer) fuel s).1 = answer := by
  induction fuel with
  | zero => exact fun s => rfl
  | succ fuel ih =>
    intro s
    have hpure : ((pure answer : StateM Shelf (Poll α)) s).1 = answer := rfl
    cases answer with
    | some o => rw [wait_answered hpure]
    | none =>
      cases hnext : s.nextMoment? with
      | some moment =>
        rw [wait_pass hpure hnext]
        exact ih _
      | none => rw [wait_stuck hpure hnext]

/-! ### What lasts -/

/-- How things stand on a shelf however long somebody has waited: each number stands for the value that it stood for. -/
structure Lasts (s s' : Shelf) : Prop where
  size : s'.items.size = s.items.size
  ordered : s'.Ordered
  value : ∀ {depth n}, n < depth → (s'.comes depth n).value? = (s.comes depth n).value?

theorem Lasts.refl (h : s.Ordered) : s.Lasts s := ⟨rfl, h, fun _ => rfl⟩

theorem Lasts.answered (h : s.Lasts s') (h' : s'.Answered s'') : s.Lasts s'' :=
  ⟨h'.size.trans h.size, h'.ordered, fun hn => (congrArg Arrival.value? (h'.comes hn)).trans (h.value hn)⟩

/-- When it is asked does not matter for what a number stands for. -/
theorem pass_value? (moment : Nat) : ∀ depth n, ((s.pass moment).comes depth n).value? = (s.comes depth n).value? := by
  intro depth
  induction depth with
  | zero => exact fun _ => rfl
  | succ depth ih =>
    intro n
    rw [comes, comes, show (s.pass moment).items = s.items from rfl]
    cases s.items[n]? with
    | none => rfl
    | some d =>
      cases d with
      | shared p asked =>
        show (p.arrival moment _).value? = (p.arrival s.clock _).value?
        rw [Progress.arrival_value?, Progress.arrival_value?]
        exact congrArg (Progress.value? · p) (funext ih)
      | _ => rfl

theorem Lasts.pass (h : s.Lasts s') (moment : Nat) : s.Lasts (s'.pass moment) :=
  ⟨h.size, h.ordered, fun hn => (pass_value? moment _ _).trans (h.value hn)⟩

/-- Whoever follows a path leaves a shelf where each number stands for the value that it stood for. -/
theorem navigate_lasts {r : Resolvable Nat} (path : Path) (hordered : s.Ordered)
    (hparts : ∀ p ∈ r.awaited, p < s.items.size) : s.Lasts (Shelf.navigate r path s).2 := by
  refine (wait_keeps (P := fun _ => True) (fun _ moment hs => hs.pass moment) ?_ trivial s.items.size s (.refl hordered)).2
  rw [Resolvable.navigate_gate]
  cases hgate : r.gate? path with
  | none => exact Telling.pure _ trivial
  | some gate =>
    obtain ⟨p, rest⟩ := gate
    have hp : p < s.depth := Nat.lt_succ_of_lt (hparts p (Resolvable.onPath_awaited (Resolvable.gate?_onPath path hgate)))
    exact Telling.bind (P := fun _ => True) _
      (fun s' hs' => ⟨trivial, hs'.answered (ask_answers _ hs'.ordered hp).1⟩) fun _ _ => Telling.pure _ trivial

/-! ### Paths and trees -/

/-- **Following a path leads to where it leads with all at hand** that comes some day. -/
theorem navigate_arrival {r : Resolvable Nat} (path : Path) (hordered : s.Ordered)
    (hparts : ∀ p ∈ r.awaited, p < s.items.size) : (Shelf.navigate r path s).1 =
      r.navigate (m := Id) (fun p => (s.comes s.depth p).map Prod.snd) path := by
  show (wait (r.navigate (ask s.depth) path) s.items.size s).1 = _
  refine Eq.trans ?_ (Resolvable.navigate_gate (m := Id) path r).symm
  rw [Resolvable.navigate_gate]
  cases hgate : r.gate? path with
  | none => exact wait_pure _ _ s
  | some gate =>
    obtain ⟨p, rest⟩ := gate
    have hp : p < s.depth := Nat.lt_succ_of_lt (hparts p (Resolvable.onPath_awaited (Resolvable.gate?_onPath path hgate)))
    rw [wait_map rfl (Resolvable.beyond_isSome rest), wait_ask hp s.items.size hordered unrest_le_size]
    rfl

theorem add_items (d : Deferred) (k : Nat) :
    (s.add d).2.items[k]? = if k = s.items.size then some d else s.items[k]? := Array.getElem?_push

/-- A tree may be put up that is made of what is there. -/
theorem add_ordered {r : Resolvable Nat} (hordered : s.Ordered) (hparts : ∀ p ∈ r.awaited, p < s.items.size) :
    (s.add (.sharing r)).2.Ordered := by
  rintro p q ⟨parts, asked, hitem, hq⟩
  rw [add_items] at hitem
  split at hitem
  · next hp =>
    cases hitem
    rw [Resolvable.progress_awaited] at hq
    exact hp ▸ hparts q hq
  · exact hordered p q ⟨parts, asked, hitem, hq⟩

/-- What is put up changes nothing for those before it. -/
theorem add_comes (d : Deferred) (hordered : s.Ordered) : ∀ {depth n}, n < depth → n < s.items.size →
    (s.add d).2.comes depth n = s.comes depth n := by
  intro depth
  induction depth with
  | zero => exact fun h => absurd h (Nat.not_lt_zero _)
  | succ depth ih =>
    intro n hn hsize
    rw [comes, comes, add_items, if_neg (Nat.ne_of_lt hsize)]
    exact arrival_congr hordered (fun q hq => ih (by omega) (by omega)) _

/-- **A tree comes to what was to come of it**, by when everything comes that it awaits. -/
theorem resolve_arrival {r : Resolvable Nat} (hordered : s.Ordered) (hparts : ∀ p ∈ r.awaited, p < s.items.size) :
    (Shelf.resolve r s).1 = (r.progress.arrival s.clock (s.comes s.depth)).map Prod.snd := by
  show (wait (ask (s.add (.sharing r)).2.depth s.items.size) (s.add (.sharing r)).2.items.size (s.add (.sharing r)).2).1 = _
  have hsize : (s.add (.sharing r)).2.items.size = s.items.size + 1 := Array.size_push _
  have hdepth : (s.add (.sharing r)).2.depth = s.items.size + 2 := congrArg (· + 1) hsize
  rw [wait_ask (by omega) _ (add_ordered hordered hparts) unrest_le_size, hdepth]
  have hitem : (s.add (.sharing r)).2.items[s.items.size]? = some (.sharing r) := by rw [add_items, if_pos rfl]
  rw [comes_item hitem]
  refine congrArg (Option.map Prod.snd) (Progress.arrival_congr r.progress fun p hp => ?_)
  rw [Resolvable.progress_awaited] at hp
  exact add_comes _ hordered (Nat.lt_succ_of_lt (hparts p hp)) (hparts p hp)

end StageGraph.Shelf
