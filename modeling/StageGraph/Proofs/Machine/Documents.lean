import Mathlib.Data.List.Forall2
import Mathlib.Data.List.Nodup
import StageGraph.Pipeline

/-! What documents are built from.

What reading and building come from is said once, part by part (`Spec.parse_eq_ok`, `build_eq_ok`). So in a document
that is read, names of stages and of inputs are declared once (`Spec.parse_nodup`), and the nodes that faults are
attributed to are places of the document (`Spec.parse_located`). An instance that is made of it has a function for every
stage (`functionsOf_eq`), and its run a value for every declared input (`matchInputs_length`). -/
namespace StageGraph

section

variable {ε α β : Type}

theorem bind_eq_ok {x : Except ε α} {f : α → Except ε β} {b : β} (h : (x >>= f) = .ok b) :
    ∃ a, x = .ok a ∧ f a = .ok b := by
  cases x with
  | error e => cases h
  | ok a => exact ⟨a, rfl, h⟩

theorem bind_eq_error {x : Except ε α} {f : α → Except ε β} {e : ε} (h : (x >>= f) = .error e) :
    x = .error e ∨ ∃ a, x = .ok a ∧ f a = .error e := by
  cases x with
  | error e' =>
    cases h
    exact .inl rfl
  | ok a => exact .inr ⟨a, rfl, h⟩

/-- What a list is made of, item by item. -/
theorem forall₂_of_mapM {f : α → Except ε β} : ∀ {l : List α} {l' : List β},
    l.mapM f = .ok l' → List.Forall₂ (fun a b => f a = .ok b) l l' := by
  intro l
  induction l with
  | nil =>
    intro l' h
    cases h
    exact .nil
  | cons a rest ih =>
    intro l' h
    rw [List.mapM_cons] at h
    obtain ⟨b, hb, h⟩ := bind_eq_ok h
    obtain ⟨more, hmore, h⟩ := bind_eq_ok h
    cases h
    exact .cons hb (ih hmore)

/-- What fails for a list fails for one of its items. -/
theorem exists_of_mapM_error {f : α → Except ε β} {e : ε} : ∀ {l : List α}, l.mapM f = .error e →
    ∃ a ∈ l, f a = .error e := by
  intro l
  induction l with
  | nil => exact nofun
  | cons a rest ih =>
    intro h
    rw [List.mapM_cons] at h
    rcases bind_eq_error h with hb | ⟨b, -, h⟩
    · exact ⟨a, List.mem_cons_self, hb⟩
    · rcases bind_eq_error h with hmore | ⟨more, -, h⟩
      · obtain ⟨a', ha', hf⟩ := ih hmore
        exact ⟨a', List.mem_cons_of_mem _ ha', hf⟩
      · cases h

/-- Of two lists that match, an item of the first has one of the second. -/
theorem exists_matching {R : α → β → Prop} {l : List α} {l' : List β} (h : List.Forall₂ R l l') {a : α}
    (ha : a ∈ l) : ∃ b ∈ l', R a b := by
  induction h with
  | nil => cases ha
  | cons hb _ ih =>
    rcases List.mem_cons.mp ha with rfl | ha
    · exact ⟨_, List.mem_cons_self, hb⟩
    · obtain ⟨b, hmem, hf⟩ := ih ha
      exact ⟨b, List.mem_cons_of_mem _ hmem, hf⟩

theorem exists_matched {R : α → β → Prop} {l : List α} {l' : List β} (h : List.Forall₂ R l l') {b : β}
    (hb : b ∈ l') : ∃ a ∈ l, R a b :=
  exists_matching (R := flip R) h.flip hb

theorem mapM_of_forall₂ {f : α → Except ε β} {l : List α} {l' : List β}
    (h : List.Forall₂ (fun a b => f a = .ok b) l l') : l.mapM f = .ok l' := by
  induction h with
  | nil => rfl
  | cons hb hrest ih =>
    rw [List.mapM_cons, hb, ih]
    rfl

end

namespace Spec

theorem firstOccurrences_nodup (names : List String) : (firstOccurrences names).Nodup := by
  induction names with
  | nil => exact List.nodup_nil
  | cons name rest ih =>
    refine List.nodup_cons.mpr ⟨fun hmem => ?_, ih.filter _⟩
    simpa using (List.mem_filter.mp hmem).2

theorem parseInput_nodup {node : Value} {names : List String} (h : parseInput node = .ok names) : names.Nodup := by
  unfold parseInput at h
  split at h
  · obtain ⟨found, -, h⟩ := bind_eq_ok h
    cases h
    exact firstOccurrences_nodup found
  · cases h

/-- What a stage is read from, field by field. -/
theorem parseStage_eq_ok {node : Value} {s : Stage} (h : parseStage node = .ok s) : ∃ fields listed inputListed,
    node = .object fields ∧ textField node fields "name" = .ok s.name ∧ '.' ∉ s.name.toList ∧
      textField node fields "func" = .ok s.function ∧ parseParams node fields = .ok (s.params, listed) ∧
      parseReferences node s.inputNode fields = .ok (s.input, inputListed) ∧
      s.positional = (listed || inputListed) ∧ s.node = node ∧
      s.inputNode = (Fields.get? fields "input").getD node := by
  unfold parseStage at h
  split at h
  · next fields =>
    obtain ⟨name, hname, h⟩ := bind_eq_ok h
    obtain ⟨function, hfunction, h⟩ := bind_eq_ok h
    split at h
    · cases h
    · next hdot =>
      obtain ⟨⟨params, listed⟩, hparams, h⟩ := bind_eq_ok h
      obtain ⟨⟨input, inputListed⟩, hinput, h⟩ := bind_eq_ok h
      cases h
      exact ⟨fields, listed, inputListed, rfl, hname, by simpa using hdot, hfunction, hparams, hinput, rfl, rfl, rfl⟩
  · cases h

/-- Stages are read one by one, each with a name of its own. -/
theorem parseStages_eq_ok {nodes : List Value} : ∀ {seen : List String} {stages : List Stage},
    parseStages seen nodes = .ok stages → List.Forall₂ (fun node s => parseStage node = .ok s) nodes stages ∧
      (stages.map Stage.name).Nodup ∧ ∀ name ∈ stages.map Stage.name, name ∉ seen := by
  induction nodes with
  | nil =>
    intro seen stages h
    cases h
    exact ⟨.nil, List.nodup_nil, nofun⟩
  | cons node rest ih =>
    intro seen stages h
    unfold parseStages at h
    obtain ⟨stage, hstage, h⟩ := bind_eq_ok h
    split at h
    · cases h
    · next hseen =>
      obtain ⟨more, hmore, h⟩ := bind_eq_ok h
      cases h
      obtain ⟨hread, hnodup, hnew⟩ := ih hmore
      refine ⟨.cons hstage hread, List.nodup_cons.mpr ⟨fun hmem => ?_, hnodup⟩, fun name hname => ?_⟩
      · exact hnew _ hmem List.mem_cons_self
      · rcases List.mem_cons.mp hname with rfl | hname
        · simpa using hseen
        · exact fun hmem => hnew _ hname (List.mem_cons_of_mem _ hmem)

theorem stagesPart_eq_ok {fields : Fields} {stages : List Stage} (h : stagesPart fields = .ok stages) :
    (∀ s ∈ stages, ∃ nodes, Fields.get? fields "stages" = some (.array nodes) ∧
      ∃ node ∈ nodes, parseStage node = .ok s) ∧ (stages.map Stage.name).Nodup := by
  unfold stagesPart at h
  split at h
  · cases h
    exact ⟨nofun, List.nodup_nil⟩
  · next nodes hnodes =>
    obtain ⟨hread, hnodup, -⟩ := parseStages_eq_ok h
    exact ⟨fun s hs => ⟨nodes, hnodes, exists_matched hread hs⟩, hnodup⟩
  · cases h

theorem inputPart_eq_ok {document inputNode : Value} {fields : Fields} {input : List String}
    (h : inputPart document fields = .ok (input, inputNode)) :
    input.Nodup ∧ inputNode = (Fields.get? fields "input").getD document := by
  unfold inputPart at h
  split at h
  · next hnone =>
    cases h
    exact ⟨List.nodup_nil, by rw [hnone]; rfl⟩
  · next node hnode =>
    cases hnames : parseInput node with
    | error f =>
      rw [hnames] at h
      cases h
    | ok names =>
      rw [hnames] at h
      cases h
      exact ⟨parseInput_nodup hnames, by rw [hnode]; rfl⟩

/-- What a document is made of, part by part. -/
theorem parse_eq_ok {document : Value} {spec : Spec} (h : parse document = .ok spec) : ∃ fields,
    document = .object fields ∧ spec.document = document ∧
      inputPart document fields = .ok (spec.input, spec.inputNode) ∧ stagesPart fields = .ok spec.stages ∧
      outputPart document fields = .ok (spec.output, spec.outputNode) := by
  unfold parse at h
  split at h
  · next fields =>
    obtain ⟨⟨input, inputNode⟩, hinput, h⟩ := bind_eq_ok h
    obtain ⟨stages, hstages, h⟩ := bind_eq_ok h
    obtain ⟨⟨output, outputNode⟩, houtput, h⟩ := bind_eq_ok h
    cases h
    exact ⟨fields, rfl, rfl, hinput, hstages, houtput⟩
  · cases h

/-- Names are declared once. -/
theorem parse_nodup {document : Value} {spec : Spec} (h : parse document = .ok spec) :
    spec.input.Nodup ∧ (spec.stages.map Stage.name).Nodup := by
  obtain ⟨fields, -, -, hinput, hstages, -⟩ := parse_eq_ok h
  exact ⟨(inputPart_eq_ok hinput).1, (stagesPart_eq_ok hstages).2⟩

/-- The node that faults of an output are attributed to, where the output is at a node of a document. -/
def blamedFor (document node : Value) : OutputShape → Value
  | .single _ => document
  | _ => node

/-- The nodes of a spec are places of its document: a stage is an item of its stages, the references of a stage are
in its `input`, and the output is the whole document if it is a single path. -/
structure Located (spec : Spec) (document : Value) : Prop where
  stage (s : Stage) : s ∈ spec.stages → ∃ nodes, document.field? "stages" = some (.array nodes) ∧ s.node ∈ nodes
  input (s : Stage) : s ∈ spec.stages → s.inputNode = (s.node.field? "input").getD s.node
  output : ∃ node, document.field? "output" = some node ∧ spec.outputNode = blamedFor document node spec.output

theorem parseStage_located {node : Value} {s : Stage} (h : parseStage node = .ok s) :
    s.node = node ∧ s.inputNode = (node.field? "input").getD node := by
  obtain ⟨fields, _, _, rfl, -, -, -, -, -, -, hnode, hinput⟩ := parseStage_eq_ok h
  exact ⟨hnode, hinput⟩

theorem parseOutput_located {document node outputNode : Value} {output : OutputShape}
    (h : parseOutput document node = .ok (output, outputNode)) : outputNode = blamedFor document node output := by
  cases node with
  | string path =>
    cases h
    rfl
  | array items =>
    change (items.mapM (reference (.array items))).map _ = _ at h
    cases hpaths : items.mapM (reference (.array items)) with
    | error f =>
      rw [hpaths] at h
      cases h
    | ok paths =>
      rw [hpaths] at h
      cases h
      rfl
  | object fields =>
    change (references (.object fields) fields).map _ = _ at h
    cases hentries : references (.object fields) fields with
    | error f =>
      rw [hentries] at h
      cases h
    | ok entries =>
      rw [hentries] at h
      cases h
      rfl
  | _ => cases h

/-- Faults are attributed to places of the document. -/
theorem parse_located {document : Value} {spec : Spec} (h : parse document = .ok spec) : spec.Located document := by
  obtain ⟨fields, rfl, -, -, hstages, houtput⟩ := parse_eq_ok h
  have hread := (stagesPart_eq_ok hstages).1
  refine ⟨fun s hs => ?_, fun s hs => ?_, ?_⟩
  · obtain ⟨nodes, hnodes, node, hnode, hstage⟩ := hread s hs
    exact ⟨nodes, hnodes, (parseStage_located hstage).1 ▸ hnode⟩
  · obtain ⟨_, _, node, _, hstage⟩ := hread s hs
    obtain ⟨rfl, hinput⟩ := parseStage_located hstage
    exact hinput
  · unfold outputPart at houtput
    split at houtput
    · cases houtput
    · next node hnode => exact ⟨node, hnode, parseOutput_located houtput⟩

/-- A stage can be read again from its node. -/
theorem parse_stage {document : Value} {spec : Spec} (h : parse document = .ok spec) {s : Stage}
    (hs : s ∈ spec.stages) : parseStage s.node = .ok s := by
  obtain ⟨fields, -, -, -, hstages, -⟩ := parse_eq_ok h
  obtain ⟨_, _, node, _, hstage⟩ := (stagesPart_eq_ok hstages).1 s hs
  rw [(parseStage_located hstage).1]
  exact hstage

/-- And its name has no dot. -/
theorem stage_undotted {document : Value} {spec : Spec} (h : parse document = .ok spec) {s : Stage}
    (hs : s ∈ spec.stages) : '.' ∉ s.name.toList := by
  obtain ⟨_, _, _, -, -, hdot, -⟩ := parseStage_eq_ok (parse_stage h hs)
  exact hdot

end Spec

namespace Machine

theorem functionOf_eq {m : Machine} {s : Stage} {sf : Stage × Function} (h : m.functionOf s = .ok sf) :
    sf.1 = s ∧ m.registry.get? sf.1.function = some sf.2 := by
  unfold functionOf at h
  split at h
  · next f hf =>
    cases h
    exact ⟨rfl, hf⟩
  · cases h

theorem functionsOf_eq {m : Machine} {spec : Spec} {stages : List (Stage × Function)}
    (h : m.functionsOf spec = .ok stages) :
    stages.map Prod.fst = spec.stages ∧ ∀ sf ∈ stages, m.registry.get? sf.1.function = some sf.2 := by
  have hall := forall₂_of_mapM h
  clear h
  generalize spec.stages = declared at hall ⊢
  induction hall with
  | nil => exact ⟨rfl, nofun⟩
  | cons hsf hrest ih =>
    obtain ⟨hfst, hget⟩ := functionOf_eq hsf
    refine ⟨by rw [List.map_cons, hfst, ih.1], fun sf hmem => ?_⟩
    rcases List.mem_cons.mp hmem with rfl | hmem
    · exact hget
    · exact ih.2 sf hmem

/-- A stage whose function is not there is blamed. -/
theorem functionsOf_error {m : Machine} {spec : Spec} {f : Fault} (h : m.functionsOf spec = .error f) :
    ∃ s ∈ spec.stages, m.registry.get? s.function = none ∧ f = ⟨.unknownFunction s.function, some s.node⟩ := by
  obtain ⟨s, hs, hf⟩ := exists_of_mapM_error h
  unfold functionOf at hf
  split at hf
  · cases hf
  · next hnone =>
    cases hf
    exact ⟨s, hs, hnone, rfl⟩

/-- What a pipeline is built from: the spec of its document, and a function for every stage. -/
theorem build_eq_ok {m m' : Machine} {document : Value} {settings : Settings} {p : Nat}
    (h : m.build document settings = .ok (p, m')) : ∃ spec stages, Spec.parse document = .ok spec ∧
      m.functionsOf spec = .ok stages ∧ p = m.instances.size ∧ m' = m.assembled spec { settings } stages := by
  obtain ⟨spec, hspec, h⟩ := bind_eq_ok h
  obtain ⟨stages, hstages, h⟩ := bind_eq_ok h
  cases h
  exact ⟨spec, stages, hspec, hstages, rfl, rfl⟩

/-- A document that nothing is built from cannot be read, or has a stage whose function is not there. -/
theorem build_eq_error {m : Machine} {document : Value} {settings : Settings} {f : Fault}
    (h : m.build document settings = .error f) : Spec.parse document = .error f ∨
      ∃ spec, Spec.parse document = .ok spec ∧ m.functionsOf spec = .error f := by
  rcases bind_eq_error h with hspec | ⟨spec, hspec, h⟩
  · exact .inl hspec
  · rcases bind_eq_error h with hstages | ⟨stages, -, h⟩
    · exact .inr ⟨spec, hspec, hstages⟩
    · cases h

/-- Building does not change which functions there are. -/
theorem registry_of_build {m m' : Machine} {document : Value} {settings : Settings} {p : Nat}
    (h : m.build document settings = .ok (p, m')) : m'.registry = m.registry := by
  obtain ⟨spec, stages, -, -, -, rfl⟩ := build_eq_ok h
  rfl

theorem matchInputs_length {spec : Spec} {supplied : List (String × Value)} {values : List Value}
    (h : matchInputs spec supplied = .ok values) : values.length = spec.input.length := by
  unfold matchInputs at h
  simp only at h
  split at h
  · exact (forall₂_of_mapM h).length_eq.symm
  · cases h

/-- Which values the inputs have depends on their names only. -/
theorem matchInputs_congr {spec spec' : Spec} (hinput : spec'.input = spec.input)
    {supplied : List (String × Value)} {values : List Value} (h : matchInputs spec supplied = .ok values) :
    matchInputs spec' supplied = .ok values := by
  unfold matchInputs at h ⊢
  simp only at h ⊢
  rw [hinput]
  split at h
  · next hcount =>
    rw [if_pos hcount]
    refine mapM_of_forall₂ ((forall₂_of_mapM h).imp fun name v hv => ?_)
    cases hget : Fields.get? (Fields.ofList supplied) name with
    | some w =>
      rw [hget] at hv
      exact hv
    | none =>
      rw [hget] at hv
      cases hv
  · cases h

end Machine
end StageGraph
