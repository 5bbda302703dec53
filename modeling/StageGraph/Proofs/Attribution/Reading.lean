import StageGraph.Proofs.Attribution.Steps
import StageGraph.Proofs.Dataflow.Accord

/-! What readers are told can be accounted for.

A link that is looked up leads where its reference leads, or it is lost for a reason (`Sound.link`). What it tells is
what somebody it hears of came to, or else arises there and then (`Sound.link_tells`). Whoever looks lives, and so do
its keepers: what was forsaken by somebody who is over, was not by one of them (`Sound.slot_due`). And so with all that
a task waits for (`Sound.ask_tells`, `Sound.standing_tells`) and with the outputs of instances (`Sound.readOutput`). -/
namespace StageGraph

theorem OutputShape.tree_awaited (shape : OutputShape) : shape.tree.awaited = shape.paths := by
  cases shape with
  | single path => rfl
  | list paths => exact Resolvable.awaitedItems_pending paths
  | named entries => exact Resolvable.awaitedEntries_pending entries

namespace Machine

variable {m : Machine}

/-! ### Links -/

theorem named?_of_stageSlot? {name : String} {scope : List Nat} {s : Nat} (h : m.stageSlot? name scope = some s) :
    m.named? name scope = some s := by
  induction scope with
  | nil => cases h
  | cons p outer ih =>
    unfold stageSlot? at h
    unfold named?
    cases hp : m.instances[p]? with
    | none =>
      rw [hp] at h
      cases h
    | some i =>
      rw [hp] at h
      simp only at h ⊢
      split at h
      · cases hl : List.lookup name i.stages with
        | none =>
          rw [hl] at h
          exact ih h
        | some s' =>
          rw [hl] at h
          exact h
      · cases h

theorem unnamed_of_stageSlot? {name : String} {keepers scope : List Nat} (h : m.stageSlot? name scope = none)
    (hscope : ∀ q ∈ scope, q < m.instances.size) (hkeepers : ∀ q, m.Ended q → q ∉ keepers) :
    m.Unnamed name keepers scope := by
  induction scope with
  | nil => exact .nowhere
  | cons p outer ih =>
    obtain ⟨i, hp⟩ : ∃ i, m.instances[p]? = some i :=
      ⟨_, Array.getElem?_eq_getElem (hscope p List.mem_cons_self)⟩
    unfold stageSlot? at h
    rw [hp] at h
    simp only at h
    split at h
    · cases hl : List.lookup name i.stages with
      | none =>
        rw [hl] at h
        exact .outwards (isInstance_of_get hp) hl (ih h fun q hq => hscope q (List.mem_cons_of_mem _ hq))
      | some s =>
        rw [hl] at h
        cases h
    · next hover =>
      have hended : m.Ended p := ⟨i, hp, Bool.eq_false_iff.mpr hover⟩
      exact .ended (hkeepers p hended) hended

theorem Reads.isInstance {text : String} {a : Station} {r : Reader} (h : m.Reads text a r) :
    m.IsInstance r.number r.pipeline := by
  cases h with
  | stage _ hw _ => exact hw.isInstance
  | output hi _ => exact hi

/-- A reference is looked up by who reads by it. -/
theorem Sound.link (h : m.Sound) {a : Station} {r : Reader} {text : String} (hr : m.Reads text a r)
    (hlives : m.alive r.number = true) (blamed : Option Value) :
    m.LinkSound a r.number r.node (m.link (some r.number) r.headNode blamed text) ∧
      (m.link (some r.number) r.headNode blamed text).blamed = blamed := by
  have hkeepers (q : Nat) : m.Ended q → q ∉ r.pipeline.keepers := h.kept.not_ended hr.isInstance hlives
  have hscope := h.scopes hr.isInstance
  obtain ⟨jobs, output, alive, hi⟩ := hr.isInstance
  obtain ⟨i', hi', halive⟩ := alive_iff.mp hlives
  cases hi.symm.trans hi'
  obtain rfl : alive = true := halive
  unfold Machine.link
  rw [Option.bind_some, hi]
  simp only [if_true]
  unfold Machine.head?
  by_cases hhead : (Path.splitHead text).1 = Spec.inputHead
  · rw [if_pos hhead]
    refine ⟨.leads hr rfl rfl ?_, rfl⟩
    rw [base?, if_pos hhead]
  · rw [if_neg hhead]
    cases hs : m.stageSlot? (Path.splitHead text).1 r.pipeline.scope with
    | none =>
      have hunnamed := unnamed_of_stageSlot? hs hscope hkeepers
      exact ⟨.lost (Arises.missing hr hhead hunnamed), rfl⟩
    | some s =>
      refine ⟨.leads hr rfl rfl ?_, rfl⟩
      rw [base?, if_neg hhead, named?_of_stageSlot? hs]
      rfl

/-! ### What is told -/

/-- What a slot was left with is left, too, for somebody who lives. -/
theorem Sound.forsaken (h : m.Sound) {p s : Nat} {i : Instance} {f : Fault} (hi : m.IsInstance p i)
    (hlives : m.alive p = true) (hf : m.Forsaken [] s f) : m.Forsaken i.keepers s f := by
  cases hf with
  | ended _ hq hover hmem => exact .ended (h.kept.not_ended hi hlives hover) hq hover hmem
  | collapsed ht hr hbroken hs hq hi hmem => exact .collapsed ht hr hbroken hs hq hi hmem

/-- What is in a slot, for somebody who lives and reads it by a reference. -/
theorem Sound.slot_due (h : m.Sound) {a : Station} {r : Reader} {text : String} {base : Resolvable Nat}
    (hr : m.Reads text a r) (hlives : m.alive r.number = true) (hb : m.base? r.pipeline text = some base) {s : Nat}
    (hs : s ∈ base.awaited) {f : Fault} (hf : m.slot s = some (.error f)) : m.Due a (f.blame r.node) := by
  rcases h.slots hf with hleft | ⟨hfree, hdue⟩
  · have hnode : f.node = none := hleft.lost.1
    obtain ⟨cause, node⟩ := f
    subst hnode
    exact .inl (.ended hr hb hs hf (h.forsaken hr.isInstance hlives hleft))
  · have htraced : m.Traced (.slot s) f := hdue.traced hf
    rw [blame_of_node htraced.node]
    refine .inr ⟨_, ?_, htraced⟩
    have hbase := hb
    unfold base? at hbase
    split at hbase
    · -- inputs fail only when their pipelines end
      cases hbase
      obtain ⟨name, hname⟩ := h.inputs hr.isInstance s hs
      exact absurd ⟨_, _, name, hr.isInstance, hname⟩ hfree
    · obtain ⟨s', hs', rfl⟩ := Option.map_eq_some_iff.mp hbase
      rw [List.mem_singleton.mp hs]
      exact .reference hr hb

theorem receive_tells (m : Machine) (s : Nat) :
    (Telling.keeping (Taken m)).holds (receive s) fun told => ∀ o, told = some o → m.slot s = some o := by
  intro m' hm'
  refine ⟨fun o ho => ?_, hm'.trans ((receive_sees s).taken m')⟩
  rw [← hm'.slot s]
  exact told_of_receive ho

section

variable {M : Type → Type} [Monad M] (telling : Telling M) {slot : Nat → M (Poll Value)}
  (hslot : ∀ s, telling.holds (slot s) fun told => ∀ o, told = some o → m.slot s = some o)
include hslot

/-- What a link tells: a fault that its reader has reason to fail with once it is attributed. -/
theorem Sound.link_tells (h : m.Sound) {a : Station} {p : Nat} {node : Value} {l : Link}
    (hl : m.LinkSound a p node l) (hlives : m.alive p = true) :
    telling.holds (l.look slot) fun told => ∀ f, told = some (.error f) →
      ∃ f₀ : Fault, f = f₀.blame? l.blamed ∧ m.Due a (f₀.blame node) := by
  have hfinish {x : M (Poll Value)} {blamed : Option Value}
      (hx : telling.holds x (Progress.Tells fun f => m.Due a (f.blame node))) :
      telling.holds (x >>= fun found => pure (found.map (Except.mapError (Fault.blame? · blamed)))) fun told =>
        ∀ f, told = some (.error f) → ∃ f₀ : Fault, f = f₀.blame? blamed ∧ m.Due a (f₀.blame node) := by
    exact blamed_tells telling hx fun f₀ hf => ⟨f₀, rfl, hf⟩
  cases hl with
  | lost hf =>
    refine hfinish (x := pure (some (.error _))) (telling.pure fun f hf' => ?_)
    cases hf'
    exact .inl hf
  | @leads r text base blamed hr hp hnode hb =>
    subst hnode hp
    have hask (s : Nat) (hs : s ∈ base.awaited) : telling.holds (slot s) fun told =>
        (∀ v, told = some (.ok v) → m.valueAt? (.slot s) = some v) ∧
          Progress.Tells (fun f => m.Due a (f.blame r.node)) told := by
      refine telling.mono (hslot s) fun told ht => ⟨fun v hv => ?_, fun f hf => h.slot_due hr hlives hb hs (ht _ hf)⟩
      show (m.slot s).bind Except.toOption = some v
      rw [ht _ hv]
      rfl
    have hobtain := Resolvable.obtain?_tells telling hask base (Path.parse (Path.splitHead text).2) fun s hs => hs
    refine hfinish (telling.mono hobtain fun told ht f hf => ?_)
    rcases ht f hf with hdue | ⟨cause, rfl, hastray⟩
    · exact hdue
    · exact .inl (.strayed hr hb hastray)

/-- A task of a pipeline that lives reads by its links. -/
theorem Sound.argument_tells (h : m.Sound) {t : Task} {l : Link} (hl : m.ArgumentSound t (.link l))
    (hlives : ∀ p, t.pipeline = some p → m.alive p = true) :
    telling.holds (l.look slot) (Progress.Tells (m.FaultSound t)) := by
  obtain ⟨p, hp, hl, hblamed⟩ := hl
  refine telling.mono (h.link_tells telling hslot hl (hlives p hp)) fun told ht f hf => ?_
  obtain ⟨f₀, rfl, hdue⟩ := ht f hf
  rw [hblamed]
  exact hdue

end

/-- What an output failed with is traced. -/
theorem Sound.output_traced (h : m.Sound) {p : Nat} {f : Fault} (hf : m.Fails (.output p) f) :
    m.Traced (.output p) f := by
  have hstanding : m.standing (.output p) = some (.error f) := hf
  unfold standing at hstanding
  cases hi : m.instances[p]? with
  | none => simp [hi] at hstanding
  | some i =>
    have hsound := h.outputs hi
    cases ho : i.output with
    | known o =>
      simp only [hi, Option.map_some, ho] at hstanding
      cases hstanding
      rw [ho] at hsound
      exact Due.traced (hsound f rfl) hf
    | _ => simp [hi, ho] at hstanding

/-- What a function gave tells without anything being taken in. -/
theorem Sound.standing_tells (h : m.Sound) {k : Nat} {t : Task} {a : Awaited} (ha : m.PromiseSound k t a) :
    Progress.Tells (m.FaultSound t) (m.standing a) := by
  cases a with
  | link l => exact ha.elim
  | timer due o =>
    intro f hf
    simp only [standing] at hf
    split at hf
    · exact ha f (Option.some.inj hf)
    · cases hf
  | broken due =>
    intro f hf
    cases hf
  | output p =>
    intro f hf
    have htraced := h.output_traced hf
    show m.Due _ (f.blame t.node)
    rw [blame_of_node htraced.node]
    exact .inr ⟨_, ha, htraced⟩

/-- What an argument tells a task that looks at it, if its pipeline lives. -/
theorem Sound.ask_tells (h : m.Sound) {t : Task} {a : Awaited} (ha : m.ArgumentSound t a)
    (hlives : ∀ p, t.pipeline = some p → m.alive p = true) :
    (Telling.keeping (Taken m)).holds (ask a) (Progress.Tells (m.FaultSound t)) := by
  cases a with
  | link l => exact h.argument_tells (Telling.keeping (Taken m)) (receive_tells m) ha hlives
  | _ => exact ha.elim

/-- What has come about is what is known. -/
theorem Bears.standing_agrees {known : Station → Option Value} (hk : m.Bears known) (a : Awaited) :
    Agrees (Awaited.comesTo? known) a (m.standing a) := by
  have hslot (s : Nat) : Agrees (fun s => known (.slot s)) s (m.slot s) := hk (.slot s)
  cases a with
  | link l => exact linked_agrees l fun s _ => hslot s
  | timer due o => exact Machine.standing_agrees (a := .timer due o) trivial fun s _ => hslot s
  | broken due => exact nofun
  | output p => exact hk (.output p)

/-- What is told is what is known. -/
theorem Bears.ask_agrees {known : Station → Option Value} (hk : m.Bears known) (a : Awaited) :
    (Telling.keeping (Taken m)).holds (ask a) (Agrees (Awaited.comesTo? known) a) := by
  have hslot (s : Nat) : Agrees (fun s => known (.slot s)) s (m.slot s) := hk (.slot s)
  cases a with
  | link l => exact Link.look_agrees _ l fun s _ => receive_agrees (hslot s)
  | timer due o => exact Machine.ask_agrees (a := .timer due o) trivial fun s _ => hslot s
  | broken due => exact fun m' hm' => ⟨nofun, hm'⟩
  | output p =>
    intro m' hm'
    refine ⟨?_, hm'⟩
    have hsame : m'.standing (.output p) = m.standing (.output p) := by simp only [standing, hm'.instances]
    show Agrees _ _ (m'.standing (.output p))
    rw [hsame]
    exact hk (.output p)

/-! ### Outputs -/

/-- An output that is read for the first time. -/
theorem Sound.outputLinks (h : m.Sound) {p : Nat} {i : Instance} (hi : m.instances[p]? = some i)
    (halive : i.alive = true) : (m.outputLinks p i).every (m.Due (.output p)) fun l =>
      m.LinkSound (.output p) p i.spec.outputNode l ∧ l.blamed = some i.spec.outputNode := by
  refine Resolvable.progress_every _ fun l hl => ?_
  rw [Resolvable.map_awaited, OutputShape.tree_awaited] at hl
  obtain ⟨text, htext, rfl⟩ := List.mem_map.mp hl
  exact h.link (.output (isInstance_of_get hi) htext) (alive_iff.mpr ⟨i, hi, halive⟩) (some i.spec.outputNode)

/-- A look at an output that has not come about. -/
theorem Sound.lookOutput (h : m.Sound) {p : Nat} {i : Instance} (hi : m.instances[p]? = some i)
    (halive : i.alive = true) (hnot : m.standing (.output p) = none) {r : Progress Link}
    (hr : r.every (m.Due (.output p)) fun l =>
      m.LinkSound (.output p) p i.spec.outputNode l ∧ l.blamed = some i.spec.outputNode) :
    Onward m (m.lookOutput p r) := by
  have hlives : m.alive p = true := alive_iff.mpr ⟨i, hi, halive⟩
  have hask (l : Link) (hl : m.LinkSound (.output p) p i.spec.outputNode l ∧ l.blamed = some i.spec.outputNode) :
      (Telling.keeping (Taken m)).holds (l.look receive) (Progress.Tells (m.Due (.output p))) := by
    refine (Telling.keeping (Taken m)).mono (h.link_tells (Telling.keeping (Taken m)) (receive_tells m) hl.1 hlives)
      fun told ht f hf => ?_
    obtain ⟨f₀, rfl, hdue⟩ := ht f hf
    rw [hl.2]
    exact hdue
  have hlooked := Progress.look_every (Telling.keeping (Taken m)) hask r hr m (Taken.refl m)
  unfold Machine.lookOutput
  generalize r.look (Link.look receive) m = looked at hlooked ⊢
  obtain ⟨r', m'⟩ := looked
  obtain ⟨hevery, htaken⟩ := hlooked
  have hnext : Onward m m' := h.taken htaken
  have hinstances : m'.instances = m.instances := htaken.instances
  have hnot' : m'.standing (.output p) = none := by
    simp only [standing, hinstances] at hnot ⊢
    exact hnot
  have hset {output : Output} (ho : m.OutputSound p i.spec.outputNode output) :
      Onward m' (m'.setOutput p output) := by
    refine hnext.sound.setOutput hnot' fun i' hi' => ?_
    rw [hinstances, hi] at hi'
    cases hi'
    exact hnext.extends'.outputSound ho
  cases r' with
  | done o =>
    have hknown : Onward m' (m'.setOutput p (.known o)) := by
      refine hset fun f hf => ?_
      subst hf
      exact hevery
    exact hnext.trans (hknown.trans (hknown.sound.retire p))
  | pending l => exact hnext.trans (hset hevery)
  | parts whole items => exact hnext.trans (hset hevery)

/-- An output is read. -/
theorem Sound.readOutput (h : m.Sound) (p : Nat) : Onward m (m.readOutput p) := by
  unfold Machine.readOutput
  cases hi : m.instances[p]? with
  | none => exact Onward.refl h
  | some i =>
    have hsound := h.outputs hi
    simp only
    split
    · next halive =>
      cases ho : i.output with
      | unread => exact h.lookOutput hi halive (standing_unknown hi fun o => by simp [ho]) (h.outputLinks hi halive)
      | linked r =>
        rw [ho] at hsound
        exact h.lookOutput hi halive (standing_unknown hi fun o => by simp [ho]) hsound
      | known o => exact Onward.refl h
    · exact Onward.refl h

/-- What is awaited is read. -/
theorem Sound.read (h : m.Sound) (a : Awaited) : Onward m (m.read a) := by
  cases a with
  | output p => exact h.readOutput p
  | _ => exact Onward.refl h

theorem Sound.foldl_read (l : List Awaited) : ∀ {m : Machine}, m.Sound → Onward m (l.foldl Machine.read m) := by
  induction l with
  | nil => exact fun h => Onward.refl h
  | cons a rest ih => exact fun h => (h.read a).trans (ih (h.read a).sound)

end Machine
end StageGraph
