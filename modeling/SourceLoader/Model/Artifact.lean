import SourceLoader.Compile.Transform
import SourceLoader.Model.Field
import SourceLoader.Sources

/-!
# Models

What a cache keeps of a compilation, the full result of a compilation, and the source of a
module: each can be read from a mapping and written as one.
-/

namespace SourceLoader

/-- What is kept of a compiled source. -/
structure Artifact where
  dependencies : List String
  text : String
  lineMap : Option (List Int) := none
deriving DecidableEq, Repr

/-- A mapping with texts as keys. -/
def Data.record (fields : List (String × Data)) : Data :=
  .dict (fields.map fun f => (.text f.1, f.2))

/-- A line map as a value. -/
def Data.ofLineMap (map : Option (List Int)) : Data :=
  match map with
  | .none => .none
  | .some lines => .list (lines.map .int)

/-- Texts as a value. -/
def Data.ofTexts (ss : List String) : Data := .list (ss.map .text)

namespace Artifact

/-- The name of the model. -/
def title : String := "CompiledArtifact"

/-- The names of the fields. -/
def fields : List String := ["dependency_specifiers", "transformed_source", "line_map"]

/-- Reads the fields that compiled sources have. -/
def readFields (es : List (Data × Data)) :
    Model.Reading (List String × String × Option (List Int)) :=
  Model.both (Model.required "dependency_specifiers" (Model.list Model.text) es)
    (Model.both (Model.required "transformed_source" Model.text es)
      (Model.withDefault "line_map" (Model.optional (Model.list Model.integer)) none es))

/-- Reads an artifact. -/
def ofData : Data → Except Failure Artifact :=
  Model.ofDict title fun es =>
    match Model.both (readFields es) (Model.nothingElse fields es) with
    | .ok ((dependencies, text, lineMap), _) => .ok { dependencies, text, lineMap }
    | .error ms => .error ms

/-- An artifact as a mapping. -/
def toData (a : Artifact) : Data :=
  .record [("dependency_specifiers", .ofTexts a.dependencies),
    ("transformed_source", .text a.text), ("line_map", .ofLineMap a.lineMap)]

end Artifact

/-- The result of a compilation as a model. -/
structure TransformResult where
  artifact : Artifact
  warnings : List String := []
deriving DecidableEq, Repr

namespace TransformResult

/-- The name of the model. -/
def title : String := "TransformResult"

/-- The names of the fields. -/
def fields : List String := Artifact.fields ++ ["warnings"]

/-- Reads a result. -/
def ofData : Data → Except Failure TransformResult :=
  Model.ofDict title fun es =>
    let read := Model.both (Artifact.readFields es)
      (Model.withDefault "warnings" (Model.list Model.text) [] es)
    match Model.both read (Model.nothingElse fields es) with
    | .ok (((dependencies, text, lineMap), warnings), _) =>
      .ok { artifact := { dependencies, text, lineMap }, warnings }
    | .error ms => .error ms

/-- A result as a mapping. -/
def toData (r : TransformResult) : Data :=
  .record [("dependency_specifiers", .ofTexts r.artifact.dependencies),
    ("transformed_source", .text r.artifact.text), ("line_map", .ofLineMap r.artifact.lineMap),
    ("warnings", .ofTexts r.warnings)]

end TransformResult

/-- What is kept of a compiled source. -/
def Compiled.toArtifact (c : Compiled) : Artifact where
  dependencies := c.dependencies
  text := c.text
  lineMap := c.lineMap.map (·.map Int.ofNat)

namespace ModuleSource

/-- The name of the model. -/
def title : String := "ModuleSource"

/-- The names of the fields. -/
def fields : List String := ["text", "module_mode"]

/-- Reads a source. -/
def ofData : Data → Except Failure ModuleSource :=
  Model.ofDict title fun es =>
    let read := Model.both (Model.required "text" Model.text es)
      (Model.withDefault "module_mode" Model.truth true es)
    match Model.both read (Model.nothingElse fields es) with
    | .ok ((text, moduleMode), _) => .ok { text, moduleMode }
    | .error ms => .error ms

/-- A source as a mapping. -/
def toData (s : ModuleSource) : Data :=
  .record [("text", .text s.text), ("module_mode", .bool s.moduleMode)]

end ModuleSource

end SourceLoader
