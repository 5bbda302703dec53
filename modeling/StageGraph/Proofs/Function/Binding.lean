import StageGraph.Function
import StageGraph.Proofs.Value.Fields

/-! Binding arguments to declared parameters.

Binding goes through the parameters in the order of declaration, and it extends the arguments that it looks at by the
defaults of what is left out. Of parameters with different names none sees what another one added, so each is answered
from the arguments as they were supplied (`bindParams_append`): binding succeeds just if nothing is supplied without a
declaration and every parameter is served, it fails with what the first offender says, and it only ever adds
(`bindArguments_exact`).

Only what is supplied is checked. A parameter that is left out takes its default as it stands, so a handler is sure of
well-typed arguments just as far as the defaults that are used conform; binding the result once more tells them apart
(`bindArguments_typed_iff`). -/
namespace StageGraph

namespace Param
variable {p : Param} {args : Fields} {function : String}

/-- A parameter has what it asks for: a supplied value conforms, and one that is left out has a default. -/
structure Served (p : Param) (args : Fields) : Prop where
  conforms : ∀ v, Fields.get? args p.name = some v → p.type.check v = true
  present : Fields.get? args p.name = none → p.default.isSome = true

/-- What a parameter that is not served has to say. -/
inductive Offends (function : String) (args : Fields) (p : Param) : Cause → Prop where
  | unfit {v : Value} : Fields.get? args p.name = some v → p.type.check v = false →
    Offends function args p (.argumentType function p.name p.type.describe v.kindName)
  | missing : Fields.get? args p.name = none → p.default = none →
    Offends function args p (.missingArgument function p.name)

theorem served_or_offends (function : String) (p : Param) (args : Fields) :
    p.Served args ∨ ∃ cause, p.Offends function args cause := by
  cases hsupplied : Fields.get? args p.name with
  | none =>
    cases hdefault : p.default with
    | none => exact .inr ⟨_, .missing hsupplied hdefault⟩
    | some d => exact .inl ⟨by simp [hsupplied], by simp [hdefault]⟩
  | some v =>
    cases hcheck : p.type.check v with
    | false => exact .inr ⟨_, .unfit hsupplied hcheck⟩
    | true => exact .inl ⟨by simp [hsupplied, hcheck], by simp [hsupplied]⟩

/-- Only the value under the parameter's own name matters. -/
theorem served_congr {args' : Fields} (h : Fields.get? args' p.name = Fields.get? args p.name) :
    p.Served args' ↔ p.Served args := by
  constructor <;> intro hserved
  · exact ⟨fun v hv => hserved.conforms v (h ▸ hv), fun hnone => hserved.present (h ▸ hnone)⟩
  · exact ⟨fun v hv => hserved.conforms v (h ▸ hv), fun hnone => hserved.present (h ▸ hnone)⟩

theorem Offends.congr {args' : Fields} {cause : Cause} (h : Fields.get? args' p.name = Fields.get? args p.name)
    (hoffends : p.Offends function args cause) : p.Offends function args' cause := by
  cases hoffends with
  | unfit hsupplied hcheck => exact .unfit (h.trans hsupplied) hcheck
  | missing hsupplied hdefault => exact .missing (h.trans hsupplied) hdefault

/-- The defaults of the parameters that are left out, in the order of declaration. -/
def defaults (params : List Param) (args : Fields) : Fields :=
  (params.filter fun p => (Fields.get? args p.name).isNone).filterMap fun p => p.default.map fun d => (p.name, d)

theorem defaults_cons_supplied {v : Value} (rest : List Param) (h : Fields.get? args p.name = some v) :
    defaults (p :: rest) args = defaults rest args := by
  simp [defaults, h]

theorem defaults_cons_omitted {d : Value} (rest : List Param) (h : Fields.get? args p.name = none)
    (hdefault : p.default = some d) : defaults (p :: rest) args = (p.name, d) :: defaults rest args := by
  simp [defaults, h, hdefault]

theorem defaults_congr {params : List Param} {args' : Fields}
    (h : ∀ p ∈ params, Fields.get? args' p.name = Fields.get? args p.name) :
    defaults params args' = defaults params args := by
  have hfilter : (params.filter fun p => (Fields.get? args' p.name).isNone) =
      params.filter fun p => (Fields.get? args p.name).isNone :=
    List.filter_congr fun p hp => by rw [h p hp]
  simp [defaults, hfilter]

theorem names_of_defaults {params : List Param} {name : String} (h : name ∈ (defaults params args).map Prod.fst) :
    name ∈ params.map Param.name := by
  simp only [defaults, List.mem_map, List.mem_filterMap, List.mem_filter, Option.map_eq_some_iff] at h
  obtain ⟨field, ⟨p, ⟨hp, -⟩, d, -, rfl⟩, rfl⟩ := h
  exact List.mem_map_of_mem hp

end Param

namespace Function
variable {f : Function} {function : String} {args bound : Fields} {params : List Param}

/-! ### One parameter -/

theorem bindParams_supplied {p : Param} {v : Value} (rest : List Param)
    (hsupplied : Fields.get? args p.name = some v) (hcheck : p.type.check v = true) :
    bindParams function (p :: rest) args = bindParams function rest args := by
  simp [bindParams, hsupplied, hcheck]

theorem bindParams_omitted {p : Param} {d : Value} (rest : List Param)
    (homitted : Fields.get? args p.name = none) (hdefault : p.default = some d) :
    bindParams function (p :: rest) args = bindParams function rest (args ++ [(p.name, d)]) := by
  have hnew : p.name ∉ args.map Prod.fst := by
    rw [← Fields.get?_isSome, homitted]
    simp
  simp [bindParams, homitted, hdefault, Fields.insert_of_notMem hnew]

theorem bindParams_offends {p : Param} {cause : Cause} (rest : List Param) (h : p.Offends function args cause) :
    bindParams function (p :: rest) args = .error cause := by
  cases h with
  | unfit hsupplied hcheck => simp [bindParams, hsupplied, hcheck]
  | missing homitted hdefault => simp [bindParams, homitted, hdefault]

/-- What a parameter that lets the binding go on was: supplied and conforming, or left out and with a default. -/
theorem bindParams_cons {p : Param} {rest : List Param} (h : bindParams function (p :: rest) args = .ok bound) :
    (∃ v, Fields.get? args p.name = some v ∧ p.type.check v = true ∧ bindParams function rest args = .ok bound) ∨
      ∃ d, Fields.get? args p.name = none ∧ p.default = some d ∧
        bindParams function rest (args ++ [(p.name, d)]) = .ok bound := by
  rcases Param.served_or_offends function p args with hserved | ⟨cause, hoffends⟩
  · cases hsupplied : Fields.get? args p.name with
    | some v =>
      have hcheck := hserved.conforms v hsupplied
      exact .inl ⟨v, rfl, hcheck, bindParams_supplied rest hsupplied hcheck ▸ h⟩
    | none =>
      obtain ⟨d, hd⟩ := Option.isSome_iff_exists.mp (hserved.present hsupplied)
      exact .inr ⟨d, rfl, hd, bindParams_omitted rest hsupplied hd ▸ h⟩
  · rw [bindParams_offends rest hoffends] at h
    cases h

/-! ### Different names -/

/-- Parameters of different names that are all served have their defaults added, and nothing else happens. -/
theorem bindParams_append {front : List Param} (back : List Param) : ∀ {args : Fields},
    (front.map Param.name).Nodup → (∀ p ∈ front, p.Served args) →
      bindParams function (front ++ back) args = bindParams function back (args ++ Param.defaults front args) := by
  induction front with
  | nil =>
    intro args _ _
    simp [Param.defaults]
  | cons p rest ih =>
    intro args hdistinct hserved
    rw [List.map_cons, List.nodup_cons] at hdistinct
    have hp := hserved p List.mem_cons_self
    have hrest := fun q hq => hserved q (List.mem_cons_of_mem p hq)
    cases hsupplied : Fields.get? args p.name with
    | some v =>
      rw [List.cons_append, bindParams_supplied _ hsupplied (hp.conforms v hsupplied), ih hdistinct.2 hrest,
        Param.defaults_cons_supplied rest hsupplied]
    | none =>
      obtain ⟨d, hd⟩ := Option.isSome_iff_exists.mp (hp.present hsupplied)
      -- The default that is added is under another name than the parameters that are still to come.
      have hother : ∀ q ∈ rest, Fields.get? (args ++ [(p.name, d)]) q.name = Fields.get? args q.name := by
        intro q hq
        have hne : p.name ≠ q.name := fun heq => hdistinct.1 (heq ▸ List.mem_map_of_mem hq)
        exact Fields.get?_concat_of_ne args hne d
      have hrest' := fun q hq => (Param.served_congr (hother q hq)).mpr (hrest q hq)
      rw [List.cons_append, bindParams_omitted _ hsupplied hd, ih hdistinct.2 hrest', Param.defaults_congr hother,
        Param.defaults_cons_omitted rest hsupplied hd, List.append_assoc]
      rfl

/-- The first of some parameters that is not served, if there is one. -/
theorem first_offender (function : String) (params : List Param) (args : Fields) : (∀ p ∈ params, p.Served args) ∨
    ∃ front p back cause, params = front ++ p :: back ∧ (∀ q ∈ front, q.Served args) ∧
      p.Offends function args cause := by
  induction params with
  | nil => simp
  | cons p rest ih =>
    rcases Param.served_or_offends function p args with hserved | ⟨cause, hoffends⟩
    · rcases ih with hrest | ⟨front, q, back, cause, rfl, hfront, hq⟩
      · exact .inl (List.forall_mem_cons.mpr ⟨hserved, hrest⟩)
      · exact .inr ⟨p :: front, q, back, cause, rfl, List.forall_mem_cons.mpr ⟨hserved, hfront⟩, hq⟩
    · exact .inr ⟨[], p, rest, cause, rfl, by simp, hoffends⟩

theorem bindParams_served (hdistinct : (params.map Param.name).Nodup) (hserved : ∀ p ∈ params, p.Served args) :
    bindParams function params args = .ok (args ++ Param.defaults params args) := by
  have happend : bindParams function (params ++ []) args = bindParams function [] (args ++ Param.defaults params args) :=
    bindParams_append [] hdistinct hserved
  rwa [List.append_nil] at happend

theorem bindParams_first {front back : List Param} {p : Param} {cause : Cause}
    (hdistinct : ((front ++ p :: back).map Param.name).Nodup) (hfront : ∀ q ∈ front, q.Served args)
    (hoffends : p.Offends function args cause) : bindParams function (front ++ p :: back) args = .error cause := by
  rw [List.map_append, List.map_cons, List.nodup_append] at hdistinct
  have hnew : p.name ∉ (Param.defaults front args).map Prod.fst := fun hmem =>
    hdistinct.2.2 _ (Param.names_of_defaults hmem) _ List.mem_cons_self rfl
  have hsame : Fields.get? (args ++ Param.defaults front args) p.name = Fields.get? args p.name := by
    rw [Fields.get?_append, Fields.get?_eq_none.mpr hnew]
    exact Option.or_none
  rw [bindParams_append _ hdistinct.1 hfront]
  exact bindParams_offends back (hoffends.congr hsame)

/-- Nothing is supplied that is not declared, unless anything may be. -/
def Open (f : Function) (args : Fields) : Prop := f.extraArgs = true ∨ ∀ a ∈ args, f.declares a.1 = true

/-- The arguments are what a function asks for. -/
structure Accepts (f : Function) (args : Fields) : Prop where
  declared : f.Open args
  served : ∀ p ∈ f.params, p.Served args

/-- Why arguments are refused: the first that is not declared, in the order of the arguments; if there is none, the
first parameter that is not served, in the order of declaration. -/
inductive Refuses (f : Function) (args : Fields) : Cause → Prop where
  | undeclared {front back : Fields} {a : String × Value} : f.extraArgs = false → args = front ++ a :: back →
    (∀ b ∈ front, f.declares b.1 = true) → f.declares a.1 = false → Refuses f args (.unexpectedArgument f.name a.1)
  | unserved {front back : List Param} {p : Param} {cause : Cause} : f.Open args → f.params = front ++ p :: back →
    (∀ q ∈ front, q.Served args) → p.Offends f.name args cause → Refuses f args cause

theorem bindArguments_open (h : f.Open args) : f.bindArguments args = bindParams f.name f.params args := by
  have hnone : (if f.extraArgs = true then none else args.find? fun a => !f.declares a.1) = none := by
    rcases h with hextra | hdeclared
    · simp [hextra]
    · simpa using fun _ => hdeclared
  rw [bindArguments, hnone]

theorem bindArguments_undeclared {front back : Fields} {a : String × Value} (hstrict : f.extraArgs = false)
    (hargs : args = front ++ a :: back) (hfront : ∀ b ∈ front, f.declares b.1 = true)
    (ha : f.declares a.1 = false) : f.bindArguments args = .error (.unexpectedArgument f.name a.1) := by
  have hnone : (front.find? fun b => !f.declares b.1) = none := by simpa using hfront
  have hfind : (args.find? fun b => !f.declares b.1) = some a := by
    rw [hargs, List.find?_append, hnone]
    simp [ha]
  simp [bindArguments, hstrict, hfind]

theorem open_or_undeclared (f : Function) (args : Fields) : f.Open args ∨
    f.extraArgs = false ∧ ∃ front a back, args = front ++ a :: back ∧ (∀ b ∈ front, f.declares b.1 = true) ∧
      f.declares a.1 = false := by
  by_cases hextra : f.extraArgs = true
  · exact .inl (.inl hextra)
  · have hstrict : f.extraArgs = false := by simpa using hextra
    cases hfind : args.find? fun b => !f.declares b.1 with
    | none => exact .inl (.inr (by simpa using hfind))
    | some a =>
      obtain ⟨ha, front, back, hsplit, hfront⟩ := List.find?_eq_some_iff_append.mp hfind
      exact .inr ⟨hstrict, front, a, back, hsplit, by simpa using hfront, by simpa using ha⟩

/-- Arguments are accepted or refused, for a reason. -/
theorem accepts_or_refuses (f : Function) (args : Fields) : f.Accepts args ∨ ∃ cause, f.Refuses args cause := by
  rcases open_or_undeclared f args with hopen | ⟨hstrict, front, a, back, hargs, hfront, ha⟩
  · rcases first_offender f.name f.params args with hserved | ⟨front, p, back, cause, hsplit, hfront, hoffends⟩
    · exact .inl ⟨hopen, hserved⟩
    · exact .inr ⟨cause, .unserved hopen hsplit hfront hoffends⟩
  · exact .inr ⟨_, .undeclared hstrict hargs hfront ha⟩

theorem Accepts.bindArguments (hdistinct : (f.params.map Param.name).Nodup) (h : f.Accepts args) :
    f.bindArguments args = .ok (args ++ Param.defaults f.params args) := by
  rw [bindArguments_open h.declared]
  exact bindParams_served hdistinct h.served

theorem Refuses.bindArguments {cause : Cause} (hdistinct : (f.params.map Param.name).Nodup)
    (h : f.Refuses args cause) : f.bindArguments args = .error cause := by
  cases h with
  | undeclared hstrict hargs hfront ha => exact bindArguments_undeclared hstrict hargs hfront ha
  | unserved hopen hsplit hfront hoffends =>
    rw [bindArguments_open hopen, hsplit]
    exact bindParams_first (hsplit ▸ hdistinct) hfront hoffends

/-- **Binding is exact.** Of a function whose parameters have different names: arguments are bound just if nothing
undeclared is supplied, or anything may be, each supplied parameter conforms and each other one has a default; the
result is then what was supplied, as it was, and behind it the defaults of what was left out in the order of
declaration. Otherwise the error names the first undeclared argument in the order of the arguments, and if there is none
it is that of the first parameter in the order of declaration that is not served. -/
theorem bindArguments_exact (f : Function) (hdistinct : (f.params.map Param.name).Nodup) (args : Fields) :
    (∀ bound, f.bindArguments args = .ok bound ↔ f.Accepts args ∧ bound = args ++ Param.defaults f.params args) ∧
      ∀ cause, f.bindArguments args = .error cause ↔ f.Refuses args cause := by
  rcases accepts_or_refuses f args with haccepts | ⟨cause, hrefuses⟩
  · have hbound := haccepts.bindArguments hdistinct
    have hnever : ∀ cause, ¬f.Refuses args cause := by
      intro cause hrefuses
      have herror := hrefuses.bindArguments hdistinct
      simp [hbound] at herror
    simp [hbound, haccepts, hnever, eq_comm]
  · have herror := hrefuses.bindArguments hdistinct
    have hnever : ¬f.Accepts args := by
      intro haccepts
      have hbound := haccepts.bindArguments hdistinct
      simp [herror] at hbound
    have honly : ∀ other, f.Refuses args other ↔ cause = other := by
      intro other
      constructor
      · intro hother
        simpa [herror] using hother.bindArguments hdistinct
      · rintro rfl
        exact hrefuses
    simp [herror, hnever, honly]

/-- A function of a number and a factor that need not be given. -/
def scale : Function :=
  { name := "scale", params := [⟨"x", .integer, none⟩, ⟨"factor", .integer, some (.integer 3)⟩]
    handler := fun _ => .hang }

/-- The factor is left out, or an argument is not declared. -/
theorem scale_binds : (scale.params.map Param.name).Nodup ∧
    scale.bindArguments [("x", .integer 2)] = .ok [("x", .integer 2), ("factor", .integer 3)] ∧
    scale.bindArguments [("y", .null), ("x", .null)] = .error (.unexpectedArgument "scale" "y") := by
  have hdistinct : (scale.params.map Param.name).Nodup := by decide
  have hserved : ∀ p ∈ scale.params, p.Served [("x", .integer 2)] := by
    intro p hp
    simp only [scale, List.mem_cons, List.not_mem_nil, or_false] at hp
    rcases hp with rfl | rfl <;> constructor <;> simp [Fields.get?, List.lookup_cons, ValueType.check]
  have haccepts : scale.Accepts [("x", .integer 2)] := ⟨.inr (by decide), hserved⟩
  have hrefuses : scale.Refuses [("y", .null), ("x", .null)] (.unexpectedArgument "scale" "y") :=
    .undeclared rfl (List.nil_append [("y", .null), ("x", .null)]).symm (by simp) (by decide)
  exact ⟨hdistinct, ((bindArguments_exact scale hdistinct _).1 _).mpr ⟨haccepts, rfl⟩,
    ((bindArguments_exact scale hdistinct _).2 _).mpr hrefuses⟩

/-! ### Any names -/

/-- Binding adds fields under declared names and leaves the others as they are. -/
theorem bindParams_extends : ∀ {args : Fields}, bindParams function params args = .ok bound →
    ∃ more, bound = args ++ more ∧ ∀ a ∈ more, a.1 ∈ params.map Param.name := by
  induction params with
  | nil =>
    intro args h
    cases h
    exact ⟨[], by simp, by simp⟩
  | cons p rest ih =>
    intro args h
    rcases bindParams_cons h with ⟨v, -, -, hrest⟩ | ⟨d, -, -, hrest⟩
    · obtain ⟨more, hbound, hmore⟩ := ih hrest
      exact ⟨more, hbound, fun a ha => List.mem_cons_of_mem _ (hmore a ha)⟩
    · obtain ⟨more, hbound, hmore⟩ := ih hrest
      refine ⟨(p.name, d) :: more, by simp [hbound], ?_⟩
      simpa using fun a b hab => .inr (by simpa using hmore (a, b) hab)

theorem bindParams_keeps {name : String} {v : Value} (h : bindParams function params args = .ok bound)
    (hv : Fields.get? args name = some v) : Fields.get? bound name = some v := by
  obtain ⟨more, rfl, -⟩ := bindParams_extends h
  rw [Fields.get?_append, hv]
  rfl

/-- The value under a declared name was checked against the declaration, or it is the default that the first declaration
of the name gives to what is left out. -/
theorem bindParams_value {p : Param} : ∀ {params : List Param} {args : Fields},
    bindParams function params args = .ok bound → p ∈ params → ∃ v, Fields.get? bound p.name = some v ∧
      (p.type.check v = true ∨ Fields.get? args p.name = none ∧ p.default = some v ∧
        params.find? (fun q => q.name == p.name) = some p) := by
  intro params
  induction params with
  | nil => exact fun _ hp => absurd hp List.not_mem_nil
  | cons q rest ih =>
    intro args h hp
    rcases bindParams_cons h with ⟨w, hsupplied, hcheck, hrest⟩ | ⟨d, homitted, hdefault, hrest⟩
    · rcases List.mem_cons.mp hp with rfl | hp
      · exact ⟨w, bindParams_keeps hrest hsupplied, .inl hcheck⟩
      · obtain ⟨v, hv, hchecked | ⟨hnone, hd, hfirst⟩⟩ := ih hrest hp
        · exact ⟨v, hv, .inl hchecked⟩
        · have hne : q.name ≠ p.name := fun heq => by simp [heq, hnone] at hsupplied
          exact ⟨v, hv, .inr ⟨hnone, hd, by simpa [hne] using hfirst⟩⟩
    · rcases List.mem_cons.mp hp with rfl | hp
      · have hadded := Fields.get?_concat_self homitted d
        exact ⟨d, bindParams_keeps hrest hadded, .inr ⟨homitted, hdefault, by simp⟩⟩
      · obtain ⟨v, hv, hchecked | ⟨hnone, hd, hfirst⟩⟩ := ih hrest hp
        · exact ⟨v, hv, .inl hchecked⟩
        · have hne : q.name ≠ p.name := by
            intro heq
            rw [← heq, Fields.get?_concat_self homitted] at hnone
            cases hnone
          rw [Fields.get?_concat_of_ne args hne] at hnone
          exact ⟨v, hv, .inr ⟨hnone, hd, by simpa [hne] using hfirst⟩⟩

/-- What is left out takes the default of the first declaration of its name. -/
theorem bindParams_default {first : Param} : ∀ {params : List Param} {args : Fields},
    bindParams function params args = .ok bound → Fields.get? args first.name = none →
      params.find? (fun q => q.name == first.name) = some first →
        ∃ d, first.default = some d ∧ Fields.get? bound first.name = some d := by
  intro params
  induction params with
  | nil => exact fun _ _ hfirst => nomatch hfirst
  | cons q rest ih =>
    intro args h homitted hfirst
    by_cases hname : q.name = first.name
    · obtain rfl : q = first := by simpa [hname] using hfirst
      rcases bindParams_cons h with ⟨v, hsupplied, -, -⟩ | ⟨d, -, hdefault, hrest⟩
      · simp [homitted] at hsupplied
      · exact ⟨d, hdefault, bindParams_keeps hrest (Fields.get?_concat_self homitted d)⟩
    · have hlater : rest.find? (fun q => q.name == first.name) = some first := by simpa [hname] using hfirst
      rcases bindParams_cons h with ⟨v, -, -, hrest⟩ | ⟨d, -, -, hrest⟩
      · exact ih hrest homitted hlater
      · exact ih hrest ((Fields.get?_concat_of_ne args hname d).trans homitted) hlater

/-- Each declared parameter is there with a value of its type. -/
def Typed (params : List Param) (args : Fields) : Prop :=
  ∀ p ∈ params, ∃ v, Fields.get? args p.name = some v ∧ p.type.check v = true

/-- Binding has nothing to add just if everything is there and conforms. -/
theorem bindParams_self : bindParams function params args = .ok args ↔ Typed params args := by
  induction params with
  | nil => simp [bindParams, Typed]
  | cons p rest ih =>
    constructor
    · intro h
      rcases bindParams_cons h with ⟨v, hsupplied, hcheck, hrest⟩ | ⟨d, homitted, -, hrest⟩
      · exact List.forall_mem_cons.mpr ⟨⟨v, hsupplied, hcheck⟩, ih.mp hrest⟩
      · obtain ⟨more, hmore, -⟩ := bindParams_extends hrest
        have hlength := congrArg List.length hmore
        simp at hlength
    · intro h
      obtain ⟨⟨v, hsupplied, hcheck⟩, hrest⟩ := List.forall_mem_cons.mp h
      exact (bindParams_supplied rest hsupplied hcheck).trans (ih.mpr hrest)

theorem bindArguments_ok (h : f.bindArguments args = .ok bound) :
    f.Open args ∧ bindParams f.name f.params args = .ok bound := by
  rcases open_or_undeclared f args with hopen | ⟨hstrict, front, a, back, hargs, hfront, ha⟩
  · exact ⟨hopen, bindArguments_open hopen ▸ h⟩
  · rw [bindArguments_undeclared hstrict hargs hfront ha] at h
    cases h

/-- What is bound is still nothing but what is declared. -/
theorem bindArguments_stays_open (h : f.bindArguments args = .ok bound) : f.Open bound := by
  obtain ⟨hopen, hparams⟩ := bindArguments_ok h
  obtain ⟨more, rfl, hmore⟩ := bindParams_extends hparams
  rcases hopen with hextra | hdeclared
  · exact .inl hextra
  · refine .inr fun a ha => (List.mem_append.mp ha).elim (hdeclared a) fun ha => ?_
    simpa [declares] using hmore a ha

/-- The default of a declaration is used: the parameter is left out, and this is the first declaration of its name. -/
structure Uses (f : Function) (args : Fields) (p : Param) : Prop where
  omitted : Fields.get? args p.name = none
  first : f.params.find? (fun q => q.name == p.name) = some p

/-- The defaults that are used conform to their declarations. -/
def SoundDefaults (f : Function) (args : Fields) : Prop :=
  ∀ p, f.Uses args p → ∀ d, p.default = some d → p.type.check d = true

/-- **Handlers see well-typed arguments as far as the defaults are.** Whenever arguments are bound, everything supplied
is kept, the supplied parameters conform and every declared parameter is there; the names may repeat. All of them have a
value of their type just if the defaults that were used do, and just then binding the result again succeeds and changes
nothing. -/
theorem bindArguments_typed_iff (f : Function) (args bound : Fields) (h : f.bindArguments args = .ok bound) :
    (∀ name v, Fields.get? args name = some v → Fields.get? bound name = some v) ∧
      (∀ p ∈ f.params, ∀ v, Fields.get? args p.name = some v → p.type.check v = true) ∧
      (∀ p ∈ f.params, (Fields.get? bound p.name).isSome = true) ∧
      (Typed f.params bound ↔ f.SoundDefaults args) ∧
      (f.bindArguments bound = .ok bound ↔ f.SoundDefaults args) := by
  have hparams := (bindArguments_ok h).2
  have htyped : Typed f.params bound ↔ f.SoundDefaults args := by
    constructor
    · intro htyped p huses d hd
      obtain ⟨v, hv, hcheck⟩ := htyped p (List.mem_of_find?_eq_some huses.first)
      obtain ⟨d', hd', hbound⟩ := bindParams_default hparams huses.omitted huses.first
      obtain rfl : d' = d := Option.some.inj (hd'.symm.trans hd)
      obtain rfl : v = d' := Option.some.inj (hv.symm.trans hbound)
      exact hcheck
    · intro hsound p hp
      obtain ⟨v, hv, hchecked | ⟨homitted, hd, hfirst⟩⟩ := bindParams_value hparams hp
      · exact ⟨v, hv, hchecked⟩
      · exact ⟨v, hv, hsound p ⟨homitted, hfirst⟩ v hd⟩
  refine ⟨fun name v hv => bindParams_keeps hparams hv, ?_, ?_, htyped, ?_⟩
  · intro p hp v hv
    obtain ⟨w, hw, hchecked | ⟨homitted, -, -⟩⟩ := bindParams_value hparams hp
    · obtain rfl : v = w := Option.some.inj ((bindParams_keeps hparams hv).symm.trans hw)
      exact hchecked
    · simp [hv] at homitted
  · intro p hp
    obtain ⟨v, hv, -⟩ := bindParams_value hparams hp
    simp [hv]
  · rw [bindArguments_open (bindArguments_stays_open h), bindParams_self]
    exact htyped

/-- A function with a default that does not conform. -/
def lax : Function :=
  { name := "lax", params := [⟨"x", .integer, some (.string "three")⟩], handler := fun _ => .hang }

/-- The default is bound although it does not conform, and what is bound cannot be bound again. -/
theorem lax_binds : ¬lax.SoundDefaults [] ∧ ¬Typed lax.params [("x", .string "three")] ∧
    lax.bindArguments [] = .ok [("x", .string "three")] ∧
    lax.bindArguments [("x", .string "three")] ≠ .ok [("x", .string "three")] := by
  have hbound : lax.bindArguments [] = .ok [("x", .string "three")] := rfl
  have hunsound : ¬lax.SoundDefaults [] := by
    intro hsound
    have hcheck := hsound ⟨"x", .integer, some (.string "three")⟩ ⟨rfl, rfl⟩ (.string "three") rfl
    simp [ValueType.check] at hcheck
  obtain ⟨-, -, -, htyped, hagain⟩ := bindArguments_typed_iff lax [] _ hbound
  exact ⟨hunsound, htyped.not.mpr hunsound, hbound, hagain.not.mpr hunsound⟩

/-- What is bound need not be well typed, so binding twice is not always the same as binding once. -/
theorem binding_not_always_typed : ¬∀ (f : Function) (args bound : Fields), f.bindArguments args = .ok bound →
    Typed f.params bound ∧ f.bindArguments bound = .ok bound := by
  intro hall
  obtain ⟨v, hv, hcheck⟩ := (hall lax [] [("x", .string "three")] rfl).1 _ List.mem_cons_self
  obtain rfl : Value.string "three" = v := Option.some.inj hv
  simp [ValueType.check] at hcheck

end Function
end StageGraph
