import StageGraph.Proofs.Machine.Documents
import StageGraph.Proofs.Value.Places

/-! What is blamed for a document that cannot be read, or of one that can.

Every way to read a part of a document that fails misreads it: it fails with one of three causes and blames a node
inside of the document (`Spec.Misread`), and so does every way that is put together from such (`FailsOnly.bind`). The
nodes that a spec keeps for later are inside its document as well (`parse_inside`). -/
namespace StageGraph

/-- A fault is attributed to a node inside a document. -/
def Fault.Inside (f : Fault) (document : Value) : Prop := ∃ node, f.node = some node ∧ document.Contains node

/-- What a computation fails with is attributed to a node inside a document. -/
def BlamesWithin {α : Type} (document : Value) (x : Except Fault α) : Prop := ∀ f, x = .error f → f.Inside document

/-- What holds of all that a computation fails with. -/
def FailsOnly {ε α : Type} (fault : ε → Prop) (x : Except ε α) : Prop := ∀ f, x = .error f → fault f

namespace FailsOnly

variable {ε α β : Type} {fault : ε → Prop}

theorem ok (a : α) : FailsOnly fault (.ok a) := nofun

theorem error {f : ε} (h : fault f) : FailsOnly fault (.error f : Except ε α) := by
  intro f' hf
  cases hf
  exact h

theorem bind {x : Except ε α} {next : α → Except ε β} (h : FailsOnly fault x)
    (h' : ∀ a, FailsOnly fault (next a)) : FailsOnly fault (x >>= next) := by
  intro f hf
  rcases bind_eq_error hf with hx | ⟨a, -, hnext⟩
  · exact h f hx
  · exact h' a f hnext

theorem map {x : Except ε α} (g : α → β) (h : FailsOnly fault x) : FailsOnly fault (x.map g) := by
  intro f hf
  cases x with
  | error f' =>
    cases hf
    exact h f rfl
  | ok a => cases hf

theorem mapM {g : α → Except ε β} {l : List α} (h : ∀ a ∈ l, FailsOnly fault (g a)) :
    FailsOnly fault (l.mapM g) := by
  intro f hf
  obtain ⟨a, ha, hf⟩ := exists_of_mapM_error hf
  exact h a ha f hf

end FailsOnly

namespace Spec

variable {document node : Value} {fields : Fields}

/-- How a document is misread, with the node of it that is blamed. -/
inductive Misread (document : Value) : Fault → Prop
  | invalid {message : String} {node : Value} : document.Contains node → Misread document (invalid message node)
  | name {name : String} {node : Value} : document.Contains node → Misread document ⟨.invalidStageName name, some node⟩
  | duplicate {name : String} {node : Value} : document.Contains node → Misread document ⟨.duplicateStage name, some node⟩

theorem Misread.inside {f : Fault} (h : Misread document f) : f.Inside document := by
  cases h with
  | invalid hnode => exact ⟨_, rfl, hnode⟩
  | name hnode => exact ⟨_, rfl, hnode⟩
  | duplicate hnode => exact ⟨_, rfl, hnode⟩

section

variable (h : document.Contains node)
include h

theorem reference_misread (v : Value) : FailsOnly (Misread document) (reference node v) := by
  unfold reference
  split
  · exact .ok _
  · exact .error (.invalid h)

theorem references_misread (fields : Fields) : FailsOnly (Misread document) (references node fields) :=
  .mapM fun field _ => (reference_misread h field.2).bind fun _ => .ok _

theorem parseInput_misread : FailsOnly (Misread document) (parseInput node) := by
  unfold parseInput
  split
  · refine (FailsOnly.mapM fun item _ => ?_).bind fun _ => .ok _
    split
    · exact .ok _
    · exact .error (.invalid h)
  · exact .error (.invalid h)

theorem textField_misread (fields : Fields) (key : String) :
    FailsOnly (Misread document) (textField node fields key) := by
  unfold textField
  split
  · exact .ok _
  · exact .error (.invalid h)

theorem parseParams_misread (fields : Fields) : FailsOnly (Misread document) (parseParams node fields) := by
  unfold parseParams
  split
  · exact .ok _
  · exact .ok _
  · exact .ok _
  · exact .error (.invalid h)

theorem parseReferences_misread {inputNode : Value} (hinput : document.Contains inputNode) (fields : Fields) :
    FailsOnly (Misread document) (parseReferences node inputNode fields) := by
  unfold parseReferences
  split
  · exact .ok _
  · exact (references_misread hinput _).map _
  · exact .ok _
  · exact .error (.invalid h)

theorem parseStage_misread : FailsOnly (Misread document) (parseStage node) := by
  unfold parseStage
  split
  · next fields =>
    refine (textField_misread h fields "name").bind fun name => ?_
    refine (textField_misread h fields "func").bind fun function => ?_
    split
    · exact .error (.name h)
    · refine (parseParams_misread h fields).bind fun params => ?_
      have hinput : document.Contains ((Fields.get? fields "input").getD (.object fields)) :=
        h.trans (.fieldOr (.object fields) "input")
      exact (parseReferences_misread h hinput fields).bind fun input => .ok _
  · exact .error (.invalid h)

theorem parseOutput_misread : FailsOnly (Misread document) (parseOutput document node) := by
  unfold parseOutput
  split
  · exact .ok _
  · exact (FailsOnly.mapM fun item _ => reference_misread h item).map _
  · exact (references_misread h _).map _
  · exact .error (.invalid h)

end

theorem parseStages_misread {nodes : List Value} : ∀ {seen : List String}, (∀ node ∈ nodes, document.Contains node) →
    FailsOnly (Misread document) (parseStages seen nodes) := by
  induction nodes with
  | nil => exact fun _ => .ok _
  | cons node rest ih =>
    intro seen h
    have hnode : document.Contains node := h node List.mem_cons_self
    unfold parseStages
    intro f hf
    rcases bind_eq_error hf with hstage | ⟨stage, hstage, hf⟩
    · exact parseStage_misread hnode f hstage
    · split at hf
      · cases hf
        exact .duplicate ((parseStage_located hstage).1 ▸ hnode)
      · have hrest : FailsOnly (Misread document) (parseStages (stage.name :: seen) rest) :=
          ih fun node hmem => h node (List.mem_cons_of_mem _ hmem)
        exact (hrest.bind fun _ => .ok _) f hf

/-- **A document that cannot be read is misread**, and a node inside of it is blamed. -/
theorem parse_misread (document : Value) : FailsOnly (Misread document) (parse document) := by
  unfold parse
  split
  · next fields =>
    have hinput : FailsOnly (Misread (.object fields)) (inputPart (.object fields) fields) := by
      unfold inputPart
      split
      · exact .ok _
      · next node hnode => exact (parseInput_misread (.entry hnode)).map _
    have hstages : FailsOnly (Misread (.object fields)) (stagesPart fields) := by
      unfold stagesPart
      split
      · exact .ok _
      · next nodes hnodes => exact parseStages_misread fun node hmem => Value.Contains.trans (.entry hnodes) (.item hmem)
      · next node _ hnode => exact .error (.invalid (.entry hnode))
    have houtput : FailsOnly (Misread (.object fields)) (outputPart (.object fields) fields) := by
      unfold outputPart
      split
      · exact .error (.invalid (.refl _))
      · next node hnode => exact parseOutput_misread (.entry hnode)
    exact hinput.bind fun _ => hstages.bind fun _ => houtput.bind fun _ => .ok _
  · exact .error (.invalid (.refl _))

theorem parse_blames (document : Value) : BlamesWithin document (parse document) :=
  fun f hf => (parse_misread document f hf).inside

/-- All nodes that a spec keeps are inside a document. -/
structure Inside (spec : Spec) (document : Value) : Prop where
  input : document.Contains spec.inputNode
  stage (s : Stage) : s ∈ spec.stages → document.Contains s.node
  references (s : Stage) : s ∈ spec.stages → document.Contains s.inputNode
  output : document.Contains spec.outputNode

theorem Inside.within {spec : Spec} {outer : Value} (h : spec.Inside document) (hin : outer.Contains document) :
    spec.Inside outer where
  input := hin.trans h.input
  stage s hs := hin.trans (h.stage s hs)
  references s hs := hin.trans (h.references s hs)
  output := hin.trans h.output

/-- A spec keeps nodes of the document that it is read from. -/
theorem parse_inside {spec : Spec} (h : parse document = .ok spec) : spec.Inside document := by
  have hlocated := parse_located h
  have hstage (s : Stage) (hs : s ∈ spec.stages) : document.Contains s.node := by
    obtain ⟨nodes, hnodes, hmem⟩ := hlocated.stage s hs
    exact Value.Contains.trans (.field hnodes) (.item hmem)
  refine ⟨?_, hstage, fun s hs => ?_, ?_⟩
  · obtain ⟨fields, rfl, -, hinput, -⟩ := parse_eq_ok h
    rw [(inputPart_eq_ok hinput).2]
    exact .fieldOr (.object fields) "input"
  · rw [hlocated.input s hs]
    exact (hstage s hs).trans (.fieldOr s.node "input")
  · obtain ⟨node, hnode, houtput⟩ := hlocated.output
    rw [houtput]
    unfold blamedFor
    split
    · exact .refl _
    · exact .field hnode

end Spec
end StageGraph
