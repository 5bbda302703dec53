import Mathlib.Data.List.Forall2
import Mathlib.Data.List.Sort
import StageGraph.Proofs.Machine.Blame

/-! The grammar of specs.

`Spec.Grammatical` says which documents are specs, field by field and without a parser: what may be left out, what has to
be a text, a list of texts or an object of texts. `Spec.Faithful` says what a spec has to hold for a document: everything
that is written there, in the order in which it is written. Reading succeeds with a spec if and only if the spec is
faithful to the document (`parse_eq_ok_iff`), for every part of a document in its turn. So the documents that can be
read are those of the grammar, and of the others a node is blamed that stands in them. The main theorem is
`parse_follows_grammar`. -/
namespace StageGraph

/-! ### Values of texts -/

namespace Value

/-- A list of texts. -/
def ofTexts (texts : List String) : Value := array (texts.map string)

/-- An object of texts. -/
def ofNamedTexts (entries : List (String × String)) : Value := object (entries.map fun e => (e.1, string e.2))

end Value

namespace Spec

/-! ### The grammar -/

/-- A stage as documents write it. -/
structure StageGrammar (node : Value) : Prop where
  name : ∃ name, node.field? "name" = some (.string name) ∧ '.' ∉ name.toList
  func : ∃ function, node.field? "func" = some (.string function)
  params (v : Value) : node.field? "params" = some v → (∃ fields, v = .object fields) ∨ ∃ items, v = .array items
  input (v : Value) : node.field? "input" = some v → (∃ entries, v = .ofNamedTexts entries) ∨ ∃ items, v = .array items

/-- A document that is a spec. -/
structure Grammatical (document : Value) : Prop where
  object : ∃ fields, document = .object fields
  input (v : Value) : document.field? "input" = some v → ∃ names, v = .ofTexts names
  stages (v : Value) : document.field? "stages" = some v → ∃ nodes, v = .array nodes ∧
    (∀ node ∈ nodes, StageGrammar node) ∧ (nodes.map (Value.field? · "name")).Nodup
  output : ∃ v, document.field? "output" = some v ∧
    ((∃ path, v = .string path) ∨ (∃ paths, v = .ofTexts paths) ∨ ∃ entries, v = .ofNamedTexts entries)

/-! ### What a spec holds of its document -/

/-- Names as they occur first, in order and without repetition. -/
structure FirstOf (names found : List String) : Prop where
  mem (name : String) : name ∈ found ↔ name ∈ names
  ordered : found.Pairwise fun a b => names.idxOf a < names.idxOf b

/-- A stage says what its node says. -/
structure FaithfulStage (node : Value) (s : Stage) : Prop where
  self : s.node = node
  name : node.field? "name" = some (.string s.name)
  undotted : '.' ∉ s.name.toList
  function : node.field? "func" = some (.string s.function)
  /-- The written arguments are the fields of `params`, and there are none without it or in a list. -/
  params : node.field? "params" = some (.object s.params) ∨
    s.params = [] ∧ (node.field? "params" = none ∨ ∃ items, node.field? "params" = some (.array items))
  /-- The referring arguments are the fields of `input`, and there are none without it or in a list. -/
  input : node.field? "input" = some (.ofNamedTexts s.input) ∨
    s.input = [] ∧ (node.field? "input" = none ∨ ∃ items, node.field? "input" = some (.array items))
  positional : s.positional = true ↔
    (∃ items, node.field? "params" = some (.array items)) ∨ ∃ items, node.field? "input" = some (.array items)
  inputNode : s.inputNode = (node.field? "input").getD node

end Spec

/-- An output as documents write it. -/
def OutputShape.written : OutputShape → Value
  | single path => .string path
  | list paths => .ofTexts paths
  | named entries => .ofNamedTexts entries

namespace Spec

/-- A spec says what its document says. -/
structure Faithful (spec : Spec) (document : Value) : Prop where
  object : ∃ fields, document = .object fields
  self : spec.document = document
  input : (∃ names, document.field? "input" = some (.ofTexts names) ∧ FirstOf names spec.input) ∨
    document.field? "input" = none ∧ spec.input = []
  inputNode : spec.inputNode = (document.field? "input").getD document
  /-- The stages are those of the list, in order. -/
  stages : (∃ nodes, document.field? "stages" = some (.array nodes) ∧ List.Forall₂ FaithfulStage nodes spec.stages) ∨
    document.field? "stages" = none ∧ spec.stages = []
  names : (spec.stages.map Stage.name).Nodup
  output : document.field? "output" = some spec.output.written
  outputNode : spec.outputNode = blamedFor document spec.output.written spec.output

/-! ### Texts -/

theorem reference_eq_ok_iff {node v : Value} {path : String} : reference node v = .ok path ↔ v = .string path := by
  constructor
  · intro h
    cases v with
    | string p =>
      cases h
      rfl
    | _ => cases h
  · rintro rfl
    rfl

/-- Reading item by item gives what writes the items back. -/
theorem mapM_eq_ok_iff {ε α β : Type} {f : α → Except ε β} {write : β → α} (h : ∀ a b, f a = .ok b ↔ a = write b)
    {l : List α} {l' : List β} : l.mapM f = .ok l' ↔ l = l'.map write := by
  constructor
  · intro hl
    have hall := forall₂_of_mapM hl
    clear hl
    induction hall with
    | nil => rfl
    | cons hb _ ih => rw [List.map_cons, ← ih, (h _ _).mp hb]
  · rintro rfl
    refine mapM_of_forall₂ ?_
    rw [List.forall₂_map_left_iff]
    exact List.forall₂_same.mpr fun b _ => (h _ _).mpr rfl

theorem paths_eq_ok_iff {node : Value} {items : List Value} {paths : List String} :
    items.mapM (reference node) = .ok paths ↔ items = paths.map .string :=
  mapM_eq_ok_iff fun _ _ => reference_eq_ok_iff

theorem references_eq_ok_iff {node : Value} {fields : Fields} {entries : List (String × String)} :
    references node fields = .ok entries ↔ fields = entries.map fun e => (e.1, .string e.2) := by
  refine mapM_eq_ok_iff fun field entry => ?_
  constructor
  · intro h
    obtain ⟨path, hpath, h⟩ := bind_eq_ok h
    cases h
    rw [← reference_eq_ok_iff.mp hpath]
  · rintro rfl
    rfl

/-- Only what was read without a fault is kept. -/
theorem map_eq_ok_iff {ε α β : Type} {x : Except ε α} {f : α → β} {b : β} :
    x.map f = .ok b ↔ ∃ a, x = .ok a ∧ f a = b := by
  cases x with
  | error e => exact ⟨nofun, nofun⟩
  | ok a =>
    constructor
    · intro h
      exact ⟨a, rfl, Except.ok.inj h⟩
    · rintro ⟨_, ha, rfl⟩
      cases ha
      rfl

/-! ### First occurrences -/

theorem mem_firstOccurrences {names : List String} {name : String} :
    name ∈ firstOccurrences names ↔ name ∈ names := by
  induction names with
  | nil => rfl
  | cons first rest ih =>
    by_cases hfirst : name = first <;> simp [firstOccurrences, ih, hfirst]

theorem firstOccurrences_ordered (names : List String) :
    (firstOccurrences names).Pairwise fun a b => names.idxOf a < names.idxOf b := by
  induction names with
  | nil => exact .nil
  | cons first rest ih =>
    have hlater {name : String} (hname : name ∈ (firstOccurrences rest).filter (· ≠ first)) : name ≠ first := by
      simpa using (List.mem_filter.mp hname).2
    refine .cons (fun name hname => ?_) ?_
    · rw [List.idxOf_cons_self, List.idxOf_cons_ne _ (hlater hname).symm]
      exact Nat.succ_pos _
    · refine (ih.filter _).imp_of_mem fun {a b} ha hb hlt => ?_
      rw [List.idxOf_cons_ne _ (hlater ha).symm, List.idxOf_cons_ne _ (hlater hb).symm]
      exact Nat.succ_lt_succ hlt

theorem firstOf_firstOccurrences (names : List String) : FirstOf names (firstOccurrences names) :=
  ⟨fun _ => mem_firstOccurrences, firstOccurrences_ordered names⟩

/-- What names occur, and in which order first, says which list they make. -/
theorem FirstOf.eq {names found found' : List String} (h : FirstOf names found) (h' : FirstOf names found') :
    found = found' := by
  have hnodup {l : List String} (hl : l.Pairwise fun a b => names.idxOf a < names.idxOf b) : l.Nodup :=
    hl.imp fun hlt heq => absurd (heq ▸ hlt) (Nat.lt_irrefl _)
  have hperm : found.Perm found' := (List.perm_ext_iff_of_nodup (hnodup h.ordered) (hnodup h'.ordered)).mpr fun name =>
    (h.mem name).trans (h'.mem name).symm
  exact hperm.eq_of_pairwise (fun a b _ _ hab hba => absurd (hab.trans hba) (Nat.lt_irrefl _)) h.ordered h'.ordered

theorem parseInput_eq_ok_iff {node : Value} {found : List String} :
    parseInput node = .ok found ↔ ∃ names, node = .ofTexts names ∧ FirstOf names found := by
  constructor
  · intro h
    cases node with
    | array items =>
      obtain ⟨names, hnames, h⟩ := bind_eq_ok h
      cases h
      refine ⟨names, congrArg Value.array ((mapM_eq_ok_iff fun item name => ?_).mp hnames), firstOf_firstOccurrences names⟩
      cases item <;> simp
    | _ => cases h
  · rintro ⟨names, rfl, hfound⟩
    rw [← (firstOf_firstOccurrences names).eq hfound]
    refine congrArg (· >>= fun names => pure (firstOccurrences names))
      ((mapM_eq_ok_iff fun item name => ?_).mpr (rfl : names.map Value.string = _))
    cases item <;> simp

/-! ### Stages -/

theorem textField_eq_ok_iff {node : Value} {fields : Fields} {key text : String} :
    textField node fields key = .ok text ↔ Fields.get? fields key = some (.string text) := by
  unfold textField
  constructor
  · intro h
    split at h
    · next hget =>
      cases h
      exact hget
    · cases h
  · intro h
    rw [h]

theorem parseParams_eq_ok_iff {node : Value} {fields params : Fields} {listed : Bool} :
    parseParams node fields = .ok (params, listed) ↔
      (Fields.get? fields "params" = some (.object params) ∨ params = [] ∧
        (Fields.get? fields "params" = none ∨ ∃ items, Fields.get? fields "params" = some (.array items))) ∧
      (listed = true ↔ ∃ items, Fields.get? fields "params" = some (.array items)) := by
  unfold parseParams
  cases hget : Fields.get? fields "params" with
  | none => cases listed <;> simp [eq_comm]
  | some v => cases v <;> cases listed <;> simp [eq_comm]

theorem parseReferences_eq_ok_iff {node inputNode : Value} {fields : Fields} {input : List (String × String)}
    {listed : Bool} : parseReferences node inputNode fields = .ok (input, listed) ↔
      (Fields.get? fields "input" = some (.ofNamedTexts input) ∨ input = [] ∧
        (Fields.get? fields "input" = none ∨ ∃ items, Fields.get? fields "input" = some (.array items))) ∧
      (listed = true ↔ ∃ items, Fields.get? fields "input" = some (.array items)) := by
  unfold parseReferences Value.ofNamedTexts
  cases hget : Fields.get? fields "input" with
  | none => cases listed <;> simp [eq_comm]
  | some v =>
    cases v with
    | object entries =>
      simp only [map_eq_ok_iff, references_eq_ok_iff]
      cases listed <;> simp
    | _ => cases listed <;> simp [eq_comm]

theorem parseStage_eq_ok_iff {node : Value} {s : Stage} : parseStage node = .ok s ↔ FaithfulStage node s := by
  constructor
  · intro h
    obtain ⟨fields, listed, inputListed, rfl, hname, hdot, hfunction, hparams, hinput, hpositional, hnode, hinputNode⟩ :=
      parseStage_eq_ok h
    obtain ⟨hparams, hlisted⟩ := parseParams_eq_ok_iff.mp hparams
    obtain ⟨hinput, hinputListed⟩ := parseReferences_eq_ok_iff.mp hinput
    refine ⟨hnode, textField_eq_ok_iff.mp hname, hdot, textField_eq_ok_iff.mp hfunction, hparams, hinput, ?_, hinputNode⟩
    rw [hpositional, Bool.or_eq_true, hlisted, hinputListed]
    rfl
  · intro h
    obtain ⟨hnode, hname, hdot, hfunction, hparams, hinput, hpositional, hinputNode⟩ := h
    cases node with
    | object fields =>
      classical
      obtain ⟨listed, hlisted⟩ : ∃ listed : Bool,
          listed = true ↔ ∃ items, Fields.get? fields "params" = some (.array items) :=
        ⟨decide _, decide_eq_true_iff⟩
      obtain ⟨inputListed, hinputListed⟩ : ∃ listed : Bool,
          listed = true ↔ ∃ items, Fields.get? fields "input" = some (.array items) :=
        ⟨decide _, decide_eq_true_iff⟩
      have hor : s.positional = (listed || inputListed) := by
        rw [Bool.eq_iff_iff, Bool.or_eq_true, hlisted, hinputListed]
        exact hpositional
      have hread : parseReferences (.object fields) ((Fields.get? fields "input").getD (.object fields)) fields =
          .ok (s.input, inputListed) := parseReferences_eq_ok_iff.mpr ⟨hinput, hinputListed⟩
      unfold parseStage
      simp only
      rw [textField_eq_ok_iff.mpr hname, textField_eq_ok_iff.mpr hfunction,
        parseParams_eq_ok_iff.mpr ⟨hparams, hlisted⟩]
      simp only [bind, Except.bind, List.contains_iff_mem, hdot, if_false, pure, Except.pure, hread]
      cases s
      simp_all [Value.field?, Value.object?]
    | _ => cases hname

theorem parseStages_eq_ok_iff {nodes : List Value} : ∀ {seen : List String} {stages : List Stage},
    parseStages seen nodes = .ok stages ↔ List.Forall₂ FaithfulStage nodes stages ∧
      (stages.map Stage.name).Nodup ∧ ∀ name ∈ stages.map Stage.name, name ∉ seen := by
  intro seen stages
  constructor
  · intro h
    obtain ⟨hread, hnames⟩ := parseStages_eq_ok h
    exact ⟨hread.imp fun _ _ => parseStage_eq_ok_iff.mp, hnames⟩
  · rintro ⟨hall, hnodup, hnew⟩
    induction hall generalizing seen with
    | nil => rfl
    | @cons node s rest stages hstage _ ih =>
      obtain ⟨hname, hnodup⟩ := List.nodup_cons.mp hnodup
      have hseen : seen.contains s.name = false := by simpa using hnew _ List.mem_cons_self
      have hrest : parseStages (s.name :: seen) rest = .ok stages := by
        refine ih hnodup fun name hmem hin => ?_
        rcases List.mem_cons.mp hin with rfl | hin
        · exact hname hmem
        · exact hnew name (List.mem_cons_of_mem _ hmem) hin
      unfold parseStages
      simp only [parseStage_eq_ok_iff.mpr hstage, hseen, hrest, bind, Except.bind, pure, Except.pure,
        Bool.false_eq_true, if_false]

/-! ### The parts of a document -/

theorem parseOutput_eq_ok_iff {document node outputNode : Value} {output : OutputShape} :
    parseOutput document node = .ok (output, outputNode) ↔
      node = output.written ∧ outputNode = blamedFor document output.written output := by
  constructor
  · intro h
    have hblamed := parseOutput_located h
    cases node with
    | string path =>
      cases h
      exact ⟨rfl, hblamed⟩
    | array items =>
      obtain ⟨paths, hpaths, h⟩ := map_eq_ok_iff.mp h
      cases h
      cases paths_eq_ok_iff.mp hpaths
      exact ⟨rfl, hblamed⟩
    | object fields =>
      obtain ⟨entries, hentries, h⟩ := map_eq_ok_iff.mp h
      cases h
      cases references_eq_ok_iff.mp hentries
      exact ⟨rfl, hblamed⟩
    | _ => cases h
  · rintro ⟨rfl, rfl⟩
    cases output with
    | single path => rfl
    | list paths => exact map_eq_ok_iff.mpr ⟨paths, paths_eq_ok_iff.mpr rfl, rfl⟩
    | named entries => exact map_eq_ok_iff.mpr ⟨entries, references_eq_ok_iff.mpr rfl, rfl⟩

theorem inputPart_eq_ok_iff {document inputNode : Value} {fields : Fields} {input : List String} :
    inputPart document fields = .ok (input, inputNode) ↔
      ((∃ names, Fields.get? fields "input" = some (.ofTexts names) ∧ FirstOf names input) ∨
        Fields.get? fields "input" = none ∧ input = []) ∧
      inputNode = (Fields.get? fields "input").getD document := by
  unfold inputPart
  cases Fields.get? fields "input" with
  | none => simp [eq_comm]
  | some node =>
    simp only [map_eq_ok_iff, parseInput_eq_ok_iff]
    simp [eq_comm]

theorem stagesPart_eq_ok_iff {fields : Fields} {stages : List Stage} : stagesPart fields = .ok stages ↔
    ((∃ nodes, Fields.get? fields "stages" = some (.array nodes) ∧ List.Forall₂ FaithfulStage nodes stages) ∨
      Fields.get? fields "stages" = none ∧ stages = []) ∧ (stages.map Stage.name).Nodup := by
  unfold stagesPart
  cases Fields.get? fields "stages" with
  | none =>
    constructor
    · intro h
      cases h
      exact ⟨.inr ⟨rfl, rfl⟩, List.nodup_nil⟩
    · rintro ⟨⟨_, hnone, _⟩ | ⟨_, rfl⟩, _⟩
      · cases hnone
      · rfl
  | some v =>
    cases v with
    | array nodes => simp [parseStages_eq_ok_iff]
    | _ => simp

/-- **Reading gives the specs that are faithful.** -/
theorem parse_eq_ok_iff {document : Value} {spec : Spec} : parse document = .ok spec ↔ spec.Faithful document := by
  constructor
  · intro h
    obtain ⟨fields, rfl, hdocument, hinput, hstages, houtput⟩ := parse_eq_ok h
    obtain ⟨hinput, hinputNode⟩ := inputPart_eq_ok_iff.mp hinput
    obtain ⟨hstages, hnames⟩ := stagesPart_eq_ok_iff.mp hstages
    unfold outputPart at houtput
    split at houtput
    · cases houtput
    · next node hnode =>
      obtain ⟨rfl, houtputNode⟩ := parseOutput_eq_ok_iff.mp houtput
      exact ⟨⟨fields, rfl⟩, hdocument, hinput, hinputNode, hstages, hnames, hnode, houtputNode⟩
  · rintro ⟨⟨fields, rfl⟩, hdocument, hinput, hinputNode, hstages, hnames, houtput, houtputNode⟩
    have hget : Fields.get? fields "output" = some spec.output.written := houtput
    have hread : outputPart (.object fields) fields = .ok (spec.output, spec.outputNode) := by
      unfold outputPart
      rw [hget]
      exact parseOutput_eq_ok_iff.mpr ⟨rfl, houtputNode⟩
    unfold parse
    simp only
    rw [inputPart_eq_ok_iff.mpr ⟨hinput, hinputNode⟩, stagesPart_eq_ok_iff.mpr ⟨hstages, hnames⟩]
    simp only [hread, bind, Except.bind, pure, Except.pure]
    rw [← hdocument]

/-! ### The grammar and the reader -/

theorem FaithfulStage.grammar {node : Value} {s : Stage} (h : FaithfulStage node s) : StageGrammar node where
  name := ⟨s.name, h.name, h.undotted⟩
  func := ⟨s.function, h.function⟩
  params v hv := by
    rcases h.params with hparams | ⟨-, hnone | ⟨items, hitems⟩⟩
    · exact .inl ⟨s.params, Option.some.inj (hv.symm.trans hparams)⟩
    · cases hv.symm.trans hnone
    · exact .inr ⟨items, Option.some.inj (hv.symm.trans hitems)⟩
  input v hv := by
    rcases h.input with hinput | ⟨-, hnone | ⟨items, hitems⟩⟩
    · exact .inl ⟨s.input, Option.some.inj (hv.symm.trans hinput)⟩
    · cases hv.symm.trans hnone
    · exact .inr ⟨items, Option.some.inj (hv.symm.trans hitems)⟩

/-- What the grammar lets a stage be can be read. -/
theorem StageGrammar.exists_stage {node : Value} (h : StageGrammar node) : ∃ s, FaithfulStage node s := by
  obtain ⟨⟨name, hname, hdot⟩, ⟨function, hfunction⟩, hparams, hinput⟩ := h
  obtain ⟨params, hparams⟩ : ∃ params : Fields, node.field? "params" = some (.object params) ∨ params = [] ∧
      (node.field? "params" = none ∨ ∃ items, node.field? "params" = some (.array items)) := by
    cases hget : node.field? "params" with
    | none => exact ⟨[], .inr ⟨rfl, .inl rfl⟩⟩
    | some v =>
      rcases hparams v hget with ⟨fields, rfl⟩ | ⟨items, rfl⟩
      · exact ⟨fields, .inl rfl⟩
      · exact ⟨[], .inr ⟨rfl, .inr ⟨items, rfl⟩⟩⟩
  obtain ⟨input, hinput⟩ : ∃ input, node.field? "input" = some (.ofNamedTexts input) ∨ input = [] ∧
      (node.field? "input" = none ∨ ∃ items, node.field? "input" = some (.array items)) := by
    cases hget : node.field? "input" with
    | none => exact ⟨[], .inr ⟨rfl, .inl rfl⟩⟩
    | some v =>
      rcases hinput v hget with ⟨entries, rfl⟩ | ⟨items, rfl⟩
      · exact ⟨entries, .inl rfl⟩
      · exact ⟨[], .inr ⟨rfl, .inr ⟨items, rfl⟩⟩⟩
  classical
  exact ⟨{ name, function, params, input, node
           positional := decide ((∃ items, node.field? "params" = some (.array items)) ∨
             ∃ items, node.field? "input" = some (.array items))
           inputNode := (node.field? "input").getD node },
    ⟨rfl, hname, hdot, hfunction, hparams, hinput, decide_eq_true_iff, rfl⟩⟩

theorem grammar_of_faithful {nodes : List Value} {stages : List Stage} (h : List.Forall₂ FaithfulStage nodes stages) :
    ∀ node ∈ nodes, StageGrammar node := by
  induction h with
  | nil => exact nofun
  | cons hs _ ih => exact List.forall_mem_cons.mpr ⟨hs.grammar, ih⟩

/-- Nodes that are stages by the grammar can be read in order. -/
theorem exists_stages {nodes : List Value} (h : ∀ node ∈ nodes, StageGrammar node) :
    ∃ stages, List.Forall₂ FaithfulStage nodes stages := by
  induction nodes with
  | nil => exact ⟨[], .nil⟩
  | cons node rest ih =>
    obtain ⟨hnode, hrest⟩ := List.forall_mem_cons.mp h
    obtain ⟨s, hs⟩ := hnode.exists_stage
    obtain ⟨stages, hstages⟩ := ih hrest
    exact ⟨s :: stages, .cons hs hstages⟩

theorem names_of_faithful {nodes : List Value} {stages : List Stage} (h : List.Forall₂ FaithfulStage nodes stages) :
    nodes.map (Value.field? · "name") = (stages.map Stage.name).map fun name => some (.string name) := by
  induction h with
  | nil => rfl
  | cons hs _ ih => rw [List.map_cons, List.map_cons, List.map_cons, ih, hs.name]

theorem names_nodup_iff {nodes : List Value} {stages : List Stage} (h : List.Forall₂ FaithfulStage nodes stages) :
    (nodes.map (Value.field? · "name")).Nodup ↔ (stages.map Stage.name).Nodup := by
  rw [names_of_faithful h]
  refine List.nodup_map_iff fun a b hab => ?_
  cases hab
  rfl

theorem Faithful.grammatical {spec : Spec} {document : Value} (h : spec.Faithful document) : Grammatical document where
  object := h.object
  input v hv := by
    rcases h.input with ⟨names, hnames, -⟩ | ⟨hnone, -⟩
    · exact ⟨names, Option.some.inj (hv.symm.trans hnames)⟩
    · cases hv.symm.trans hnone
  stages v hv := by
    rcases h.stages with ⟨nodes, hnodes, hall⟩ | ⟨hnone, -⟩
    · refine ⟨nodes, Option.some.inj (hv.symm.trans hnodes), fun node hnode => ?_, (names_nodup_iff hall).mpr h.names⟩
      exact grammar_of_faithful hall node hnode
    · cases hv.symm.trans hnone
  output := by
    refine ⟨spec.output.written, h.output, ?_⟩
    cases spec.output with
    | single path => exact .inl ⟨path, rfl⟩
    | list paths => exact .inr (.inl ⟨paths, rfl⟩)
    | named entries => exact .inr (.inr ⟨entries, rfl⟩)

/-- What the grammar lets a document be can be read. -/
theorem Grammatical.exists_spec {document : Value} (h : Grammatical document) : ∃ spec : Spec, spec.Faithful document := by
  obtain ⟨hobject, hinput, hstages, v, hv, houtput⟩ := h
  obtain ⟨input, hinput⟩ : ∃ input, (∃ names, document.field? "input" = some (.ofTexts names) ∧ FirstOf names input) ∨
      document.field? "input" = none ∧ input = [] := by
    cases hget : document.field? "input" with
    | none => exact ⟨[], .inr ⟨rfl, rfl⟩⟩
    | some node =>
      obtain ⟨names, rfl⟩ := hinput node hget
      exact ⟨firstOccurrences names, .inl ⟨names, rfl, firstOf_firstOccurrences names⟩⟩
  obtain ⟨stages, hstages, hnames⟩ : ∃ stages, ((∃ nodes, document.field? "stages" = some (.array nodes) ∧
      List.Forall₂ FaithfulStage nodes stages) ∨ document.field? "stages" = none ∧ stages = []) ∧
      (stages.map Stage.name).Nodup := by
    cases hget : document.field? "stages" with
    | none => exact ⟨[], .inr ⟨rfl, rfl⟩, List.nodup_nil⟩
    | some node =>
      obtain ⟨nodes, rfl, hall, hnodup⟩ := hstages node hget
      obtain ⟨stages, hstages⟩ := exists_stages hall
      exact ⟨stages, .inl ⟨nodes, rfl, hstages⟩, (names_nodup_iff hstages).mp hnodup⟩
  obtain ⟨output, rfl⟩ : ∃ output : OutputShape, v = output.written := by
    rcases houtput with ⟨path, rfl⟩ | ⟨paths, rfl⟩ | ⟨entries, rfl⟩
    · exact ⟨.single path, rfl⟩
    · exact ⟨.list paths, rfl⟩
    · exact ⟨.named entries, rfl⟩
  exact ⟨{ document, input, stages, output
           inputNode := (document.field? "input").getD document
           outputNode := blamedFor document output.written output },
    ⟨hobject, rfl, hinput, rfl, hstages, hnames, hv, rfl⟩⟩

/-! ### Faults of reading -/

/-- Whatever is misread, the structure of the document is at fault. -/
theorem Misread.structural {document : Value} {f : Fault} (h : Misread document f) : f.category = .structural := by
  cases h <;> rfl

/-- **Reading follows the grammar.** The documents of the grammar can be read, and no others. What is read from a
document is the spec that says what the document says. Of a document that cannot be read, the structure is at fault and
a node that stands in it is blamed. -/
theorem parse_follows_grammar (document : Value) :
    ((∃ spec, parse document = .ok spec) ↔ Grammatical document) ∧
    (∀ spec, parse document = .ok spec ↔ spec.Faithful document) ∧
    ∀ f, parse document = .error f → f.category = .structural ∧ f.Inside document := by
  refine ⟨⟨?_, fun h => ?_⟩, fun spec => parse_eq_ok_iff, fun f hf => ?_⟩
  · rintro ⟨spec, hspec⟩
    exact (parse_eq_ok_iff.mp hspec).grammatical
  · obtain ⟨spec, hspec⟩ := h.exists_spec
    exact ⟨spec, parse_eq_ok_iff.mpr hspec⟩
  · have hmisread : Misread document f := parse_misread document f hf
    exact ⟨hmisread.structural, hmisread.inside⟩

end Spec
end StageGraph
