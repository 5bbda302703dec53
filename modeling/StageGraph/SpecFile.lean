import StageGraph.Spec
import StageGraph.Value.Reader

/-! Specs in files: the bytes are read as text, the text as JSON, the document as a spec. -/
namespace StageGraph.SpecFile

/-- Why a file holds no spec. -/
inductive Rejection where
  /-- There is no file, or it is not text. -/
  | unreadable
  | notJson
  | notSpec (f : Fault)

/-- The message about the file at `path`; a fault speaks for itself. -/
def Rejection.message (path : String) : Rejection → String
  | unreadable => "failed to read spec file " ++ path
  | notJson => "spec file " ++ path ++ " is not valid JSON"
  | notSpec f => f.message

/-- Reads the contents of a file, if there is one. -/
def parse (contents : Option ByteArray) : Except Rejection Spec := do
  let some bytes := contents | throw .unreadable
  let some text := String.fromUTF8? bytes | throw .unreadable
  let some document := Value.ofText? text nestingBound | throw .notJson
  match Spec.parse document with
  | .ok spec => pure spec
  | .error f => throw (.notSpec f)

end StageGraph.SpecFile
