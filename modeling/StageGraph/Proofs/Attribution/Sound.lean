import StageGraph.Proofs.Attribution.Keepers

/-! Machines in which every failure can be accounted for.

`Sound` is the invariant: a fault in a slot is one that its stage has reason to fail with, or it was forsaken; what a
task or an output knows so far can be accounted for, and so can what it may still be told. Whoever reads lives, and so
do its keepers. The small steps of a machine keep this up and change nothing that matters for it (`Onward`). -/
namespace StageGraph

/-- The value of something awaited, with those that are known. -/
def Awaited.comesTo? (known : Station → Option Value) : Awaited → Option Value
  | .link l => l.value? fun s => known (.slot s)
  | .timer _ o => o.toOption
  | .broken _ => none
  | .output p => known (.output p)

namespace Machine

/-! ### The invariant -/

/-- A fault that is left when nothing will come any more. -/
def Lost (f : Fault) : Prop := f.node = none ∧ f.cause.ofEnd = true

theorem Forsaken.lost {m : Machine} {keepers : List Nat} {s : Nat} {f : Fault} (h : m.Forsaken keepers s f) :
    Lost f := by
  cases h with
  | ended _ _ _ hmem => exact ⟨rfl, abandoned_ofEnd hmem⟩
  | collapsed _ _ _ _ _ _ hmem => exact ⟨rfl, abandoned_ofEnd hmem⟩

variable (m : Machine)

/-- What is known goes with what has come about. -/
def Bears (known : Station → Option Value) : Prop := ∀ a, Agrees known a (m.outcome? a)

/-- The slot of a declared input. -/
def Bound (s : Nat) : Prop := ∃ p i name, m.IsInstance p i ∧ (name, s) ∈ i.bindings

/-- A link of a reader in a pipeline, whose failures its station has reason to fail with, attributed to a node. -/
inductive LinkSound (a : Station) (p : Nat) (node : Value) : Link → Prop
  | lost {f : Fault} {path : Path} {blamed : Option Value} : m.Arises a (f.blame node) →
    LinkSound a p node ⟨.error f, path, blamed⟩
  | leads {r : Reader} {text : String} {base : Resolvable Nat} {blamed : Option Value} : m.Reads text a r →
    r.number = p → r.node = node → m.base? r.pipeline text = some base →
      LinkSound a p node ⟨.ok base, Path.parse (Path.splitHead text).2, blamed⟩

/-- A link that a stage waits for, whose failures it has reason to fail with. -/
def ArgumentSound (t : Task) : Awaited → Prop
  | .link l => ∃ p, t.pipeline = some p ∧ m.LinkSound (.slot t.slot) p t.node l ∧ l.blamed = none
  | _ => False

/-- Something that a function gave, whose failures its stage has reason to fail with. -/
def PromiseSound (k : Nat) (t : Task) : Awaited → Prop
  | .link _ => False
  | .timer _ o => ∀ f, o = .error f → m.Due (.slot t.slot) (f.blame t.node)
  | .broken _ => ∃ r ms, m.Replied k t (.give r) ∧ .broken ms ∈ r.awaited
  | .output c => m.Hears (.output c) (.slot t.slot)

/-- A failure of a part, as a task comes to know it, is one that it has reason to fail with. -/
def FaultSound (t : Task) (f : Fault) : Prop := m.Due (.slot t.slot) (f.blame t.node)

/-- Once they are all there, arguments on their way are those that a stage has for its function. -/
def Gathers (t : Task) (names : List String) (args : List (Progress Awaited)) : Prop :=
  ∃ p i s, m.WorksFor t p i s ∧ s.positional = false ∧ names = s.args.map Prod.fst ∧
    ∀ known, m.Bears known → ∀ values, Progress.values? (Awaited.comesTo? known) args = some values →
      ∃ given, referred? (m.reads? known i) s.input = some given ∧
        values = s.written.map Prod.snd ++ given.map Prod.snd

/-- A result on its way is what the function gave. -/
def Settles (k : Nat) (t : Task) (result : Progress Awaited) : Prop :=
  ∃ r, m.Replied k t (.give r) ∧
    ∀ known, m.Bears known → result.value? (Awaited.comesTo? known) = r.value? (Promise.comesTo? known)

/-- What a task knows so far can be accounted for. -/
def PhaseSound (k : Nat) (t : Task) : Phase → Prop
  | .unstarted args positional => ∃ p i s, m.WorksFor t p i s ∧ args = s.args ∧ positional = s.positional
  | .gathering names args => m.Gathers t names args ∧ Progress.everyOfAll (m.FaultSound t) (m.ArgumentSound t) args
  | .resting _ next => m.Replied k t next
  | .settling result => m.Settles k t result ∧ result.every (m.FaultSound t) (m.PromiseSound k t)
  | .hanging => True
  | .finished => True

/-- What is known of an output so far can be accounted for. -/
def OutputSound (p : Nat) (node : Value) : Output → Prop
  | .unread => True
  | .linked r => r.every (m.Due (.output p)) fun l => m.LinkSound (.output p) p node l ∧ l.blamed = some node
  | .known o => ∀ f, o = .error f → m.Due (.output p) f

/-- Every failure can be accounted for. -/
structure Sound : Prop where
  phases {k : Nat} {t : Task} : m.tasks[k]? = some t → m.PhaseSound k t t.phase
  placed {k : Nat} {t : Task} : m.IsTask k t → ∃ p i s, m.WorksFor t p i s
  apart {k : Nat} {t : Task} : m.IsTask k t → t.slot < m.slots.size ∧ ¬m.Bound t.slot
  bounded {s : Nat} : m.Bound s → s < m.slots.size
  inputs {p : Nat} {i : Instance} : m.IsInstance p i → ∀ s ∈ i.input.awaited, ∃ name, (name, s) ∈ i.bindings
  scopes {p : Nat} {i : Instance} : m.IsInstance p i → ∀ q ∈ i.scope, q < m.instances.size
  slots {s : Nat} {f : Fault} : m.slot s = some (.error f) → m.Forsaken [] s f ∨ ¬m.Bound s ∧ m.Due (.slot s) f
  outputs {p : Nat} {i : Instance} : m.instances[p]? = some i → m.OutputSound p i.spec.outputNode i.output
  kept : m.Kept
  /-- The function of a task whose pipeline is over does nothing any more. -/
  quiet {k p : Nat} {t : Task} : m.tasks[k]? = some t → t.pipeline = some p → m.Ended p → t.phase.quiet = true

variable {m} {m' m'' : Machine}

/-! ### What goes on being accounted for -/

section

variable (h : m.Extends m')
include h

theorem Extends.bears {known : Station → Option Value} (hk : m'.Bears known) : m.Bears known :=
  fun a o ho => hk a o (h.outcome ho)

theorem Extends.linkSound {a : Station} {p : Nat} {node : Value} {l : Link} (hl : m.LinkSound a p node l) :
    m'.LinkSound a p node l := by
  cases hl with
  | lost hf => exact .lost (h.arises hf)
  | leads hr hp hnode hb => exact .leads (h.reads hr) hp hnode (h.base? hb)

theorem Extends.argumentSound {t : Task} {a : Awaited} (ha : m.ArgumentSound t a) : m'.ArgumentSound t a := by
  cases a with
  | link l =>
    obtain ⟨p, hp, hl, hblamed⟩ := ha
    exact ⟨p, hp, h.linkSound hl, hblamed⟩
  | _ => exact ha

theorem Extends.promiseSound {k : Nat} {t : Task} {a : Awaited} (ha : m.PromiseSound k t a) :
    m'.PromiseSound k t a := by
  cases a with
  | link l => exact ha
  | timer due o => exact fun f hf => h.due (ha f hf)
  | broken due =>
    obtain ⟨r, ms, hr, hbroken⟩ := ha
    exact ⟨r, ms, h.replied hr, hbroken⟩
  | output c => exact h.hears ha

theorem Extends.gathers {t : Task} {names : List String} {args : List (Progress Awaited)}
    (hg : m.Gathers t names args) : m'.Gathers t names args := by
  obtain ⟨p, i, s, hw, hpositional, hnames, hvalues⟩ := hg
  refine ⟨p, i, s, h.worksFor hw, hpositional, hnames, fun known hk values hv => ?_⟩
  obtain ⟨given, hgiven, heq⟩ := hvalues known (h.bears hk) values hv
  exact ⟨given, referred?_within (h.reads? (fun _ _ hs => hs) i) hgiven, heq⟩

theorem Extends.settles {k : Nat} {t : Task} {result : Progress Awaited} (hs : m.Settles k t result) :
    m'.Settles k t result := by
  obtain ⟨r, hr, hvalue⟩ := hs
  exact ⟨r, h.replied hr, fun known hk => hvalue known (h.bears hk)⟩

theorem Extends.phaseSound {k : Nat} {t : Task} {phase : Phase} (hp : m.PhaseSound k t phase) :
    m'.PhaseSound k t phase := by
  cases phase with
  | unstarted args positional =>
    obtain ⟨p, i, s, hw, hrest⟩ := hp
    exact ⟨p, i, s, h.worksFor hw, hrest⟩
  | gathering names args =>
    exact ⟨h.gathers hp.1, Progress.everyOfAll_mono (fun f hf => h.due hf) (fun a ha => h.argumentSound ha) args hp.2⟩
  | resting due next => exact h.replied hp
  | settling result =>
    exact ⟨h.settles hp.1, Progress.every_mono (fun f hf => h.due hf) (fun a ha => h.promiseSound ha) result hp.2⟩
  | hanging => exact trivial
  | finished => exact trivial

theorem Extends.outputSound {p : Nat} {node : Value} {output : Output} (ho : m.OutputSound p node output) :
    m'.OutputSound p node output := by
  cases output with
  | unread => exact trivial
  | linked r =>
    exact Progress.every_mono (fun f hf => h.due hf) (fun l hl => ⟨h.linkSound hl.1, hl.2⟩) r ho
  | known o => exact fun f hf => h.due (ho f hf)

end

/-! ### The phase of a task does not matter -/

section

variable {k : Nat} {t : Task} (phase : Phase)

theorem WorksFor.same {p : Nat} {i : Instance} {s : Stage} (h : m.WorksFor t p i s) :
    m.WorksFor { t with phase := phase } p i s :=
  ⟨h.pipeline, h.isInstance, h.declared, h.slot, h.node, h.inputNode⟩

theorem Replied.same {reply : Reply} (h : m.Replied k t reply) : m.Replied k { t with phase := phase } reply := by
  obtain ⟨c, ⟨args, ⟨p, i, s, given, hw, hgiven⟩, hbind⟩, hcarries⟩ := h
  exact ⟨c, ⟨args, ⟨p, i, s, given, hw.same phase, hgiven⟩, hbind⟩, hcarries⟩

theorem PhaseSound.same {q : Phase} (h : m.PhaseSound k t q) : m.PhaseSound k { t with phase := phase } q := by
  cases q with
  | unstarted args positional =>
    obtain ⟨p, i, s, hw, hrest⟩ := h
    exact ⟨p, i, s, hw.same phase, hrest⟩
  | gathering names args =>
    obtain ⟨⟨p, i, s, hw, hrest⟩, hevery⟩ := h
    exact ⟨⟨p, i, s, hw.same phase, hrest⟩, hevery⟩
  | resting due next => exact Replied.same phase h
  | settling result =>
    obtain ⟨⟨r, hr, hvalue⟩, hevery⟩ := h
    refine ⟨⟨r, hr.same phase, hvalue⟩, Progress.every_mono (fun _ hf => hf) (fun a ha => ?_) result hevery⟩
    cases a with
    | broken due =>
      obtain ⟨r', ms, hr', hbroken⟩ := ha
      exact ⟨r', ms, hr'.same phase, hbroken⟩
    | _ => exact ha
  | hanging => exact trivial
  | finished => exact trivial

end

/-- A machine that went on by moves, and in which every failure can be accounted for. -/
structure Onward (m m' : Machine) : Prop where
  sound : m'.Sound
  extends' : m.Extends m'
  moves : Moves m m'

theorem Onward.refl (h : m.Sound) : Onward m m := ⟨h, Extends.refl m, .refl⟩

theorem Onward.trans (h : Onward m m') (h' : Onward m' m'') : Onward m m'' :=
  ⟨h'.sound, h.extends'.trans h'.extends', h.moves.trans h'.moves⟩

/-- Nothing is new but phases, outcomes in slots and outputs, all of which can be accounted for. -/
theorem Sound.onward (h : m.Sound) (hmove : Move m m') (hsize : m'.slots.size = m.slots.size)
    (htask : ∀ {k t}, m'.tasks[k]? = some t → m.IsTask k t)
    (hinstance : ∀ {p i}, m'.instances[p]? = some i → m.IsInstance p i)
    (hphase : ∀ {k t}, m'.tasks[k]? = some t → m.tasks[k]? = some t ∨ m'.PhaseSound k t t.phase)
    (hslot : ∀ {s f}, m'.slot s = some (.error f) →
      m.slot s = some (.error f) ∨ m'.Forsaken [] s f ∨ ¬m.Bound s ∧ m'.Due (.slot s) f)
    (houtput : ∀ {p i}, m'.instances[p]? = some i →
      (∃ i', m.instances[p]? = some i' ∧ i'.spec = i.spec ∧ i'.output = i.output) ∨
        m'.OutputSound p i.spec.outputNode i.output) (hkept : m'.Kept)
    (hquiet : ∀ {k p : Nat} {t : Task}, m'.tasks[k]? = some t → t.pipeline = some p → m'.Ended p →
      t.phase.quiet = true) : Onward m m' := by
  have he : m.Extends m' := hmove.extends'
  have hback {p : Nat} {i : Instance} (hi : m'.IsInstance p i) : m.IsInstance p i := by
    obtain ⟨jobs, output, alive, hi⟩ := hi
    obtain ⟨jobs', output', alive', hi'⟩ := hinstance hi
    exact ⟨jobs', output', alive', hi'⟩
  have hbound {s : Nat} (hs : m'.Bound s) : m.Bound s := by
    obtain ⟨p, i, name, hi, hname⟩ := hs
    exact ⟨p, i, name, hback hi, hname⟩
  refine ⟨⟨fun {k t} ht => ?_, fun {k t} ht => ?_, fun {k t} ht => ?_, fun {s} hs => ?_,
    fun {p i} hi => h.inputs (hback hi), fun {p i} hi q hq => ?_, fun {s f} hs => ?_, fun {p i} hi => ?_, hkept,
    hquiet⟩, he, .single hmove⟩
  · rcases hphase ht with hold | hnew
    · exact he.phaseSound (h.phases hold)
    · exact hnew
  · obtain ⟨phase, ht⟩ := ht
    obtain ⟨phase', ht'⟩ := htask ht
    obtain ⟨p, i, s, hw⟩ := h.placed (k := k) (t := t) ⟨phase', ht'⟩
    exact ⟨p, i, s, he.worksFor hw⟩
  · obtain ⟨phase, ht⟩ := ht
    obtain ⟨phase', ht'⟩ := htask ht
    have hapart := h.apart (k := k) (t := t) ⟨phase', ht'⟩
    rw [hsize]
    exact ⟨hapart.1, fun hs => hapart.2 (hbound hs)⟩
  · rw [hsize]
    exact h.bounded (hbound hs)
  · have hq : q < m.instances.size := h.scopes (hback hi) q hq
    obtain ⟨jobs, output, alive, hj⟩ := he.isInstance ⟨_, _, _, Array.getElem?_eq_getElem hq⟩
    exact (Array.getElem?_eq_some_iff.mp hj).1
  · rcases hslot hs with hold | hleft | ⟨hfree, hdue⟩
    · exact (h.slots hold).imp he.forsaken fun ⟨hfree, hdue⟩ => ⟨fun hs => hfree (hbound hs), he.due hdue⟩
    · exact .inl hleft
    · exact .inr ⟨fun hs => hfree (hbound hs), hdue⟩
  · rcases houtput hi with ⟨i', hi', hspec, houtput⟩ | hnew
    · rw [← hspec, ← houtput]
      exact he.outputSound (h.outputs hi')
    · exact hnew

/-- A fault that a station fails with for a reason is traced. -/
theorem Due.traced {a : Station} {f : Fault} (h : m.Due a f) (hf : m.Fails a f) : m.Traced a f := by
  rcases h with harises | ⟨b, hhears, htraced⟩
  · exact .arose hf harises
  · exact .heard hf hhears htraced

end Machine
end StageGraph
