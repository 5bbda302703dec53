import StageGraph.Proofs.Choice.FirstMatch
import StageGraph.Proofs.Invocation.Contract

/-! Choices by pattern in a machine.

An invocation whose function replies at once with a value or a failure starts no child and has its result at once
(`Contract.answers`). One whose function replies with a child that it gives has what the child comes to as its result
(`Contract.delegates`). Since both choices by pattern go by one ruling, what `remap_regex` gives is what `case_regex` runs.
The main theorem is `first_match_wins`. -/
namespace StageGraph.Machine

open ControlFlow

variable {m : Machine} {k : Nat} {t : Task} {given : List (String × Resolvable Awaited)} {positional : Bool}
  {kept : List Nat} {call : Received} {spec : Spec} {input : Value}

/-- An invocation starts no child, and its result is there at once, unless its pipeline is over before. -/
structure Answers (m : Machine) (k : Nat) (t : Task) (o : Outcome) : Prop where
  childless : m.started k = []
  result : m.slot t.slot = some o ∨ m.Orphaned t ∧ m.Silent t

/-- An invocation starts one child, and its result is what the child comes to. -/
structure Delegates (m : Machine) (k : Nat) (t : Task) (spec : Spec) (input : Value) (c : Nat) : Prop where
  started : m.started k = [c]
  child : m.ChildOf k t spec c input
  /-- There is no result but the output or the failure of the child, unless the pipeline is over before. -/
  result {o : Outcome} : m.slot t.slot = some o → m.LeftIn t o ∨ m.standing (.output c) = some o
  /-- When nobody can move, there is a result just if the child has come to it. -/
  settled : m.Idle → m.Housed t → m.slot t.slot = m.outputNow? c

/-- A target is run as a pipeline, if it is an accepted spec whose functions are there. -/
def Runs (m : Machine) (k : Nat) (t : Task) (data target : Value) : Prop :=
  match Spec.parse target with
  | .error f => m.Answers k t (.error (f.blame t.node))
  | .ok spec =>
    match m.functionsOf spec with
    | .error f => m.Answers k t (.error (f.blame t.node))
    | .ok _ => ∃ c, m.Delegates k t spec data c

/-- What becomes of an invocation of `remap_regex`. -/
def Remaps (m : Machine) (k : Nat) (t : Task) (default : Value) : Ruling → Prop
  | .selects target => m.Answers k t (.ok target)
  | .unmatched => m.Answers k t (.ok default)
  | .invalid text => m.Answers k t (.error ⟨.execution ("invalid pattern " ++ Cause.quoted text), some t.node⟩)

/-- What becomes of an invocation of `case_regex` for a stage. -/
def Branches (m : Machine) (k : Nat) (t : Task) (value : String) (default data : Value) : Ruling → Prop
  | .selects target => m.Runs k t data target
  | .unmatched =>
    match default with
    | .null => m.Answers k t (.error
        ⟨.execution ("no pattern matched " ++ Cause.quoted value ++ " and there is no default branch"), some t.node⟩)
    | other => m.Runs k t data other
  | .invalid text => m.Answers k t (.error ⟨.execution ("invalid pattern " ++ Cause.quoted text), some t.node⟩)

/-! ### Replies of one kind -/

/-- A reply of which nothing is carried out has its end at once. -/
theorem Contract.answers (h : m.Contract k t given positional kept) (hcall : call ∈ m.callsOf k) {reply : Reply}
    (hreply : t.function.handler (m.seen t call.args) = reply)
    (honly : ∀ {reply'}, m.Performed k t reply (m.started k) kept reply' → m.started k = [] ∧ reply' = reply)
    (hprompt : reply.Prompt) {o : Outcome} (hends : ∀ {o'}, m.Concludes t reply o' → o' = o) : m.Answers k t o := by
  have hcalled : m.callsOf k ≠ [] := List.ne_nil_of_mem hcall
  have hreached {reply' : Reply} (hreached : m.Reached k t kept reply') : m.started k = [] ∧ reply' = reply := by
    have hperformed := (h.reached_iff hcall reply').mp hreached
    rw [hreply] at hperformed
    exact honly hperformed
  obtain ⟨reply', hreply', -, hthere⟩ := h.replied hcalled
  obtain ⟨hchildless, rfl⟩ := hreached hreply'
  have hsound : ¬m.BrokenDown k t given kept :=
    not_brokenDown hcalled fun hreply'' hbreaks => hbreaks.not_prompt ((hreached hreply'').2 ▸ hprompt)
  refine ⟨hchildless, ?_⟩
  cases ho : m.slot t.slot with
  | none =>
    have horphaned : m.Orphaned t := (hthere hprompt).resolve_left (by simp [ho])
    exact .inr ⟨horphaned, fun o' ho' => nomatch ho.symm.trans ho'⟩
  | some o' =>
    by_cases hleft : m.LeftIn t o'
    · refine .inr ⟨hleft.orphaned, fun o'' ho'' => ?_⟩
      cases ho.symm.trans ho''
      exact hleft
    · have hresult : ¬m.Forgone k t given kept o' := not_or.mpr ⟨hleft, fun hbroken => hsound hbroken.1⟩
      obtain ⟨reply'', hreply'', hconcludes⟩ := h.concludes hcalled ho hresult
      obtain ⟨-, rfl⟩ := hreached hreply''
      exact .inl (congrArg some (hends hconcludes))

theorem Performed.gave {r : Resolvable Promise} {cs : List Nat} {reply : Reply}
    (h : m.Performed k t (.give r) cs kept reply) : cs = [] ∧ reply = .give r := by
  cases h
  exact ⟨rfl, rfl⟩

theorem Performed.failed {e : Failure} {cs : List Nat} {reply : Reply} (h : m.Performed k t (.fail e) cs kept reply) :
    cs = [] ∧ reply = .fail e := by
  cases h
  exact ⟨rfl, rfl⟩

theorem Contract.answers_value (h : m.Contract k t given positional kept) (hcall : call ∈ m.callsOf k) {v : Value}
    (hreply : t.function.handler (m.seen t call.args) = .value v) (hany : t.function.output = .any) :
    m.Answers k t (.ok v) := by
  refine h.answers hcall hreply Performed.gave rfl fun hconcludes => ?_
  cases hconcludes with
  | returned hvalue =>
    cases hvalue
    rfl
  | unsuitable _ hcheck => simp [hany, ValueType.check] at hcheck
  | broken hp => cases hp

theorem Contract.answers_message (h : m.Contract k t given positional kept) (hcall : call ∈ m.callsOf k) {text : String}
    (hreply : t.function.handler (m.seen t call.args) = .fail (.ofMessage text)) :
    m.Answers k t (.error ⟨.execution text, some t.node⟩) := by
  refine h.answers hcall hreply Performed.failed trivial fun hconcludes => ?_
  cases hconcludes
  rfl

theorem Contract.answers_fault (h : m.Contract k t given positional kept) (hcall : call ∈ m.callsOf k) {f : Fault}
    (hreply : t.function.handler (m.seen t call.args) = .fail (.ofFault f)) : m.Answers k t (.error (f.blame t.node)) := by
  refine h.answers hcall hreply Performed.failed trivial fun hconcludes => ?_
  cases hconcludes
  rfl

/-! ### One child -/

/-- How far a reply with one child is carried out: it is not, or the child is given. -/
theorem Performed.child_cases {next : List Promise → Reply} (hnext : ∀ p, next [p] = .give (.pending p)) {cs : List Nat}
    {reply : Reply} (h : m.Performed k t (.spawn spec [input] next) cs kept reply) :
    cs = [] ∧ reply = .spawn spec [input] next ∨
      ∃ c, cs = [c] ∧ m.ChildOf k t spec c input ∧ reply = .give (.pending (.held c)) := by
  cases h with
  | here => exact .inl ⟨rfl, rfl⟩
  | @spawn _ _ _ children cs _ _ hchildren hperformed =>
    obtain ⟨c, hc⟩ : ∃ c, children = [c] := List.length_eq_one_iff.mp hchildren.length_eq
    subst hc
    have hchild : m.ChildOf k t spec c input := (List.forall₂_cons.mp hchildren).1
    rw [List.map_cons, List.map_nil, hnext] at hperformed
    cases hperformed
    exact .inr ⟨c, rfl, hchild, rfl⟩

/-- A child cannot be started if a function is missing. -/
theorem Contract.answers_unknown (h : m.Contract k t given positional kept) (hcall : call ∈ m.callsOf k)
    {next : List Promise → Reply} (hnext : ∀ p, next [p] = .give (.pending p))
    (hreply : t.function.handler (m.seen t call.args) = .spawn spec [input] next) {p : Nat} (hp : t.pipeline = some p)
    {f : Fault} (hunknown : m.functionsOf spec = .error f) : m.Answers k t (.error (f.blame t.node)) := by
  refine h.answers hcall hreply (fun hperformed => ?_) trivial fun hconcludes => ?_
  · rcases hperformed.child_cases hnext with hnone | ⟨c, -, ⟨⟨stages, hstages⟩, -⟩, -⟩
    · exact hnone
    · cases hunknown.symm.trans hstages
  · cases hconcludes with
    | unfit _ hmisfit =>
      cases hunknown.symm.trans (hmisfit.missing hp)
      rfl

/-- What a reply that gives a child ends with is what the child comes to. -/
theorem Concludes.child {c : Nat} {o : Outcome} (h : m.Concludes t (.give (.pending (.held c))) o) (hm : m.Grounded none)
    (hany : t.function.output = .any) : m.standing (.output c) = some o := by
  cases h with
  | @returned _ v hvalue =>
    have hv : m.valueAt? (.output c) = some v := hvalue
    obtain ⟨o, ho, hv⟩ := Option.bind_eq_some_iff.mp hv
    cases o with
    | ok w =>
      cases hv
      exact ho
    | error f => cases hv
  | unsuitable _ hcheck => simp [hany, ValueType.check] at hcheck
  | @broken _ promise f hmem hbreaks =>
    rw [List.mem_singleton.mp hmem] at hbreaks
    have hfails : m.standing (.output c) = some (.error f) := hbreaks
    -- an output fails with what is attributed already
    rw [blame_of_node (hm.output_node hfails)]
    exact hfails

/-- **A child that is given is all that the result is made of.** -/
theorem Contract.delegates (h : m.Contract k t given positional kept) (hm : m.Grounded none) (hcall : call ∈ m.callsOf k)
    {next : List Promise → Reply} (hnext : ∀ p, next [p] = .give (.pending p))
    (hreply : t.function.handler (m.seen t call.args) = .spawn spec [input] next) (hany : t.function.output = .any)
    {p : Nat} (hp : t.pipeline = some p) {stages : List (Stage × Function)} (hknown : m.functionsOf spec = .ok stages) :
    ∃ c, m.Delegates k t spec input c := by
  have hcalled : m.callsOf k ≠ [] := List.ne_nil_of_mem hcall
  have hcases {reply : Reply} (hreached : m.Reached k t kept reply) := by
    have hperformed := (h.reached_iff hcall reply).mp hreached
    rw [hreply] at hperformed
    exact hperformed.child_cases hnext
  obtain ⟨c, hstarted, hchild⟩ : ∃ c, m.started k = [c] ∧ m.ChildOf k t spec c input := by
    obtain ⟨reply, hreached, hhalts, -⟩ := h.replied hcalled
    rcases hcases hreached with ⟨-, rfl⟩ | ⟨c, hstarted, hchild, -⟩
    · obtain ⟨-, f, hmisfit⟩ := hhalts
      cases hknown.symm.trans (hmisfit.missing hp)
    · exact ⟨c, hstarted, hchild⟩
  have hgives {reply : Reply} (hreached : m.Reached k t kept reply) : reply = .give (.pending (.held c)) := by
    rcases hcases hreached with ⟨hnone, -⟩ | ⟨c', hone, -, rfl⟩
    · cases hnone.symm.trans hstarted
    · cases hone.symm.trans hstarted
      rfl
  have hsound : ¬m.BrokenDown k t given kept := by
    refine not_brokenDown hcalled fun hreached ⟨r, ms, heq, hmem⟩ => ?_
    cases (hgives hreached).symm.trans heq
    cases List.mem_singleton.mp hmem
  have hresult {o : Outcome} (ho : m.slot t.slot = some o) : m.LeftIn t o ∨ m.standing (.output c) = some o := by
    refine or_iff_not_imp_left.mpr fun hleft => ?_
    have hresult : ¬m.Forgone k t given kept o := not_or.mpr ⟨hleft, fun hbroken => hsound hbroken.1⟩
    obtain ⟨reply, hreached, hconcludes⟩ := h.concludes hcalled ho hresult
    rw [hgives hreached] at hconcludes
    exact hconcludes.child hm hany
  refine ⟨c, hstarted, hchild, hresult, fun hidle hlives => ?_⟩
  cases ho : m.slot t.slot with
  | some o =>
    have hstanding := (hresult ho).resolve_left fun hleft => hlives.not_orphaned hleft.orphaned
    exact (outputNow?_of_standing hstanding).symm
  | none =>
    rcases h.silence hidle hlives ho with ⟨hnone, -⟩ | ⟨reply, hreached, hpauses⟩ | hbroken
    · exact absurd hnone hcalled
    · rw [hgives hreached] at hpauses
      cases hpauses with
      | delays hmem => cases List.mem_singleton.mp hmem
      | breaksLater hmem => cases List.mem_singleton.mp hmem
      | awaits hmem hcome =>
        cases List.mem_singleton.mp hmem
        exact hcome.symm
    · exact absurd hbroken hsound

/-! ### Choices -/

/-- What `remap_regex` and `case_regex` see of the pipeline of a task. -/
theorem seen_owner (hwants : t.function.wantsPipeline = true) {p : Nat} {i : Instance} (hp : t.pipeline = some p)
    (hi : m.IsInstance p i) (args : Fields) : (m.seen t args).owner.isSome := by
  obtain ⟨jobs, output, alive, hget⟩ := hi
  simp [seen, hwants, hp, hget]

variable {value : String} {items : List (String × Value)} {ruling : Ruling}

theorem Contract.remaps (h : m.Contract k t given positional kept) (hcall : call ∈ m.callsOf k)
    (hremap : t.function = remapRegex) (hasks : Asks call.args value items) (hjudges : Judges value items ruling) :
    m.Remaps k t ((Fields.get? call.args "default").getD .null) ruling := by
  have hreply : t.function.handler (m.seen t call.args) =
      .ofExcept (ruling.remapped ((Fields.get? call.args "default").getD .null)) := by
    rw [hremap]
    exact remapRegex_replies (c := m.seen t call.args) hasks hjudges
  have hany : t.function.output = .any := by rw [hremap, remapRegex]
  cases ruling with
  | selects target => exact h.answers_value hcall hreply hany
  | unmatched => exact h.answers_value hcall hreply hany
  | invalid text => exact h.answers_message hcall hreply

theorem handler_of_case (hcase : t.function = caseRegex) (c : Call) : t.function.handler c = caseHandler c := by
  rw [hcase, caseRegex]

/-- Nothing is run if no target can be chosen. -/
theorem Contract.unbranched (h : m.Contract k t given positional kept) (hcall : call ∈ m.callsOf k)
    (hcase : t.function = caseRegex) {text : String} (hbranch : branch (m.seen t call.args) = .error (.ofMessage text)) :
    m.Answers k t (.error ⟨.execution text, some t.node⟩) := by
  have hhandler := handler_of_case hcase (m.seen t call.args)
  unfold caseHandler at hhandler
  rw [hbranch] at hhandler
  exact h.answers_message hcall hhandler

/-- A target that is chosen is run. -/
theorem Contract.runs (h : m.Contract k t given positional kept) (hm : m.Grounded none) (hcall : call ∈ m.callsOf k)
    (hcase : t.function = caseRegex) {p : Nat} (hp : t.pipeline = some p) {target : Value}
    (hbranch : branch (m.seen t call.args) = (Spec.parse target).mapError Failure.ofFault) :
    m.Runs k t ((Fields.get? call.args "data").getD .null) target := by
  have hhandler := handler_of_case hcase (m.seen t call.args)
  have hany : t.function.output = .any := by rw [hcase, caseRegex]
  unfold Runs
  unfold caseHandler at hhandler
  cases hparse : Spec.parse target with
  | error f =>
    rw [hbranch, hparse] at hhandler
    exact h.answers_fault hcall hhandler
  | ok spec =>
    rw [hbranch, hparse] at hhandler
    simp only
    cases hknown : m.functionsOf spec with
    | error f => exact h.answers_unknown hcall (fun _ => rfl) hhandler hp hknown
    | ok stages => exact h.delegates hm hcall (fun _ => rfl) hhandler hany hp hknown

theorem Contract.branches (h : m.Contract k t given positional kept) (hm : m.Grounded none) (hcall : call ∈ m.callsOf k)
    (hcase : t.function = caseRegex) {p : Nat} {i : Instance} (hp : t.pipeline = some p) (hi : m.IsInstance p i)
    (hasks : Asks call.args value items) (hjudges : Judges value items ruling) :
    m.Branches k t value ((Fields.get? call.args "default").getD .null) ((Fields.get? call.args "data").getD .null)
      ruling := by
  have howner : (m.seen t call.args).owner.isSome := seen_owner (by rw [hcase, caseRegex]) hp hi call.args
  have hbranch := caseRegex_replies (c := m.seen t call.args) hasks howner hjudges
  have hdefault : (m.seen t call.args).argOrNull "default" = (Fields.get? call.args "default").getD .null := rfl
  rw [hdefault] at hbranch
  cases ruling with
  | selects target => exact h.runs hm hcall hcase hp hbranch
  | invalid text => exact h.unbranched hcall hcase hbranch
  | unmatched =>
    generalize (Fields.get? call.args "default").getD .null = default at hbranch ⊢
    cases default with
    | null => exact h.unbranched hcall hcase hbranch
    | _ =>
      simp only [Branches]
      exact h.runs hm hcall hcase hp hbranch

theorem Contract.strays (h : m.Contract k t given positional kept) (hcall : call ∈ m.callsOf k)
    (hcase : t.function = caseRegex) (hp : t.pipeline = none) (hasks : Asks call.args value items) :
    m.Answers k t (.error ⟨.execution "case_regex needs its owning pipeline", some t.node⟩) := by
  have howner : (m.seen t call.args).owner.isNone = true := by simp [seen, hp]
  exact h.unbranched hcall hcase (branch_ownerless (c := m.seen t call.args) hasks howner)

/-- **The first match wins, and both choices by pattern go by it.** A list of patterns comes to exactly one ruling for a
value, which the search tells: all patterns up to the first one that does not miss are read and miss, and that one selects
its target or cannot be read, whatever comes after it. Now take any invocation of a choice by pattern that was called with
the value and the patterns, at any time after the call, whatever has happened. `remap_regex` starts no child, and its result
is the target, the default or null, or a failure that names the pattern. `case_regex` for a stage runs the same target, or
the default branch, and if there is none, or the pattern cannot be read, it fails without a child. A target that is no
accepted spec, or whose functions are missing, is a failure without a child as well; for any other exactly one child is
started, from that spec, with `data` as its input and in the scope of the stage's pipeline, and the result is its output or
its failure, unchanged. -/
theorem first_match_wins (value : String) (items : List (String × Value)) :
    ∃ ruling, (∀ r, Judges value items r ↔ r = ruling) ∧ firstMatch value items = ruling.told ∧
      ∀ {registry : Registry} {made m : Machine} {k : Nat} {t : Task} {args : List (String × Resolvable Source)}
        {positional : Bool} {call : Received}, Later { registry } made → made.tasks[k]? = some t →
        t.phase = .unstarted args positional → Later made m → call ∈ m.callsOf k → Asks call.args value items →
          (t.function = remapRegex → m.Remaps k t ((Fields.get? call.args "default").getD .null) ruling) ∧
          (t.function = caseRegex →
            (t.pipeline.isSome → m.Branches k t value ((Fields.get? call.args "default").getD .null)
              ((Fields.get? call.args "data").getD .null) ruling) ∧
            (t.pipeline = none →
              m.Answers k t (.error ⟨.execution "case_regex needs its owning pipeline", some t.node⟩))) := by
  obtain ⟨ruling, hruling, htold⟩ := firstMatch_judged value items
  refine ⟨ruling, hruling, htold, fun hmade ht hphase hlater hcall hasks => ?_⟩
  have hjudges : Judges value items ruling := (hruling ruling).mpr rfl
  have hground := Later.grounded hmade (grounded_empty _)
  have hm := Later.grounded hlater hground
  have hcalled : _ ≠ [] := List.ne_nil_of_mem hcall
  rcases Later.accounted hlater hground ht hphase with hunstarted | ⟨start, -, -, -, haccounted⟩
  · exact absurd (hm.fresh hunstarted nofun (by rw [hphase]; rfl)).calls hcalled
  · obtain ⟨kept, hcontract⟩ := haccounted.contract hm
    refine ⟨fun hremap => hcontract.remaps hcall hremap hasks hjudges, fun hcase => ⟨fun hp => ?_, fun hp => ?_⟩⟩
    · obtain ⟨p, hp⟩ := Option.isSome_iff_exists.mp hp
      obtain ⟨i, hi⟩ := haccounted.placed hcalled hp
      exact hcontract.branches hm hcall hcase hp hi hasks hjudges
    · exact hcontract.strays hcall hcase hp hasks

/-- A choice among pipelines, by patterns that are given. -/
def choosing : Value := .object
  [("input", .array [.string "data", .string "value", .string "items"]),
   ("stages", .array
     [.object [("name", .string "pick"), ("func", .string "case_regex"),
       ("input", .object
         [("data", .string "input.data"), ("value", .string "input.value"), ("items", .string "input.items")])]]),
   ("output", .string "pick")]

/-- A pattern that misses, one with a pipeline that gives its input, and one that cannot be read. -/
def choices : Value := .array
  [.array [.string "x", .null], .array [.string "a.*", .object [("output", .string "input")]], .array [.string "(", .null]]

def choiceRegistry : Registry := ⟨[("case_regex", caseRegex)]⟩

/-- The texts of the patterns of a call, if it is asked with a value. -/
def textsFor (value : String) (args : Fields) : Option (List String) :=
  if (Fields.get? args "value").bind Value.string? = some value then
    ((Fields.get? args "items").bind Value.pairs?).map fun items => items.map Prod.fst
  else none

/-- A target is an accepted spec, and its functions are there. -/
def runnable (m : Machine) (target : Value) : Bool :=
  match Spec.parse target with
  | .ok spec => (m.functionsOf spec).toBool
  | .error _ => false

/-- The integer that a poll gives. -/
def integer? (told : Poll Value) : Option Int :=
  match told with
  | some (.ok (.integer n)) => some n
  | _ => none

theorem runnable_runs {target data : Value} (hrunnable : m.runnable target = true) (h : m.Runs k t data target) :
    ∃ spec c, Spec.parse target = .ok spec ∧ m.Delegates k t spec data c := by
  unfold runnable at hrunnable
  unfold Runs at h
  cases hparse : Spec.parse target with
  | error f => simp [hparse] at hrunnable
  | ok spec =>
    rw [hparse] at h hrunnable
    cases hknown : m.functionsOf spec with
    | error f => simp [hknown, Except.toBool] at hrunnable
    | ok stages =>
      simp only [hknown] at h
      obtain ⟨c, hdelegates⟩ := h
      exact ⟨spec, c, rfl, hdelegates⟩

/-- The second pattern matches, and what its pipeline gives is the result; the third one is never read. -/
theorem second_branch_runs : ∃ made m t call items target spec data c, Later { registry := choiceRegistry } made ∧
    made.tasks[0]? = some t ∧ Later made m ∧ call ∈ m.callsOf 0 ∧ Asks call.args "abc" items ∧
      Judges "abc" items (.selects target) ∧ Pattern.whole? "(" = none ∧ items.map Prod.fst = ["x", "a.*", "("] ∧
        Spec.parse target = .ok spec ∧ m.Delegates 0 t spec data c ∧ integer? (m.slot 0) = some 7 := by
  obtain ⟨made, t, hbuild, ht, hcase, ⟨args, hphase⟩, hp⟩ : ∃ made t,
      build { registry := choiceRegistry } choosing Settings.default = .ok (0, made) ∧ made.tasks[0]? = some t ∧
        t.function = caseRegex ∧ (∃ args, t.phase = .unstarted args false) ∧ t.pipeline.isSome = true :=
    ⟨_, _, rfl, rfl, rfl, ⟨_, rfl⟩, rfl⟩
  obtain ⟨i, hi⟩ : ∃ i, made.instances[0]? = some i := by
    cases hbuild
    exact ⟨_, rfl⟩
  have hmade : Later { registry := choiceRegistry } made := .single (.build hbuild)
  have hstrides : Strides 0 made (drive inOrder (.output 0) none 3
      ((made.bindInputs i [.integer 7, .string "abc", choices]).start 0)).2 :=
    .head (.bind _ hi) (.head .start (drive_strides inOrder _ none 3 _))
  obtain ⟨htexts, hruns, hseven⟩ :
      let m := (drive inOrder (.output 0) none 3 ((made.bindInputs i [.integer 7, .string "abc", choices]).start 0)).2
      (m.callsOf 0).map (fun call => textsFor "abc" call.args) = [some ["x", "a.*", "("]] ∧
        (∀ call ∈ m.callsOf 0, ∀ items ∈ (Fields.get? call.args "items").bind Value.pairs?, ∀ e ∈ items[1]?,
          m.runnable e.2 = true) ∧ integer? (m.slot 0) = some 7 := by
    cases hbuild
    cases hi
    decide +kernel
  generalize (drive inOrder (.output 0) none 3
    ((made.bindInputs i [.integer 7, .string "abc", choices]).start 0)).2 = m at hstrides htexts hruns hseven
  obtain ⟨call, hcalls, htext⟩ : ∃ call, m.callsOf 0 = [call] ∧ textsFor "abc" call.args = some ["x", "a.*", "("] := by
    obtain ⟨call, rest, hcalls, htext, hrest⟩ := List.map_eq_cons_iff.mp htexts
    rw [List.map_eq_nil_iff.mp hrest] at hcalls
    exact ⟨call, hcalls, htext⟩
  have hcall : call ∈ m.callsOf 0 := by simp [hcalls]
  unfold textsFor at htext
  split at htext
  · next hvalue =>
    obtain ⟨items, hitems, hnames⟩ := Option.map_eq_some_iff.mp htext
    have hasks : Asks call.args "abc" items := ⟨hvalue, hitems⟩
    obtain ⟨⟨x, first⟩, rest, rfl, rfl, hrest⟩ := List.map_eq_cons_iff.mp hnames
    obtain ⟨⟨a, target⟩, rest', rfl, rfl, -⟩ := List.map_eq_cons_iff.mp hrest
    have hmisses : Misses "abc" "x" := by
      unfold Misses
      decide +kernel
    have hhits : Hits "abc" "a.*" := by
      unfold Hits
      decide +kernel
    have hjudges : Judges "abc" (("x", first) :: ("a.*", target) :: rest') (.selects target) := by
      have hsplit : ("x", first) :: ("a.*", target) :: rest' = [("x", first)] ++ ("a.*", target) :: rest' := rfl
      exact .selects hsplit (by simpa using hmisses) hhits
    obtain ⟨ruling, hruling, -, hall⟩ := first_match_wins "abc" (("x", first) :: ("a.*", target) :: rest')
    have hselects := (hruling _).mp hjudges
    subst hselects
    have hbranches := ((hall hmade ht hphase hstrides.later hcall hasks).2 hcase).1 hp
    have hrunnable : m.runnable target = true := hruns call hcall _ hitems ("a.*", target) rfl
    obtain ⟨spec, c, hparse, hdelegates⟩ := runnable_runs hrunnable hbranches
    exact ⟨made, m, t, call, _, target, spec, _, c, hmade, ht, hstrides.later, hcall, hasks, hjudges, by decide +kernel,
      hnames, hparse, hdelegates, hseven⟩
  · cases htext

end StageGraph.Machine
