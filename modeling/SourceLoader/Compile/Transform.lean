import SourceLoader.Compile.Check
import SourceLoader.Compile.DynamicImport
import SourceLoader.Compile.LineMap
import SourceLoader.Compile.Lowering
import SourceLoader.Compile.Pass
import SourceLoader.Diagnostic
import SourceLoader.Observe.Script

/-!
# Compiling one source

A source is read, its dynamic imports are renamed, the dependencies that it declares are
listed, its imports are lowered if it is a module, and the passes of the host change the tree in
turn. The tree that comes out is checked and written as text.

A syntax error of any step is shown to the sink as a diagnostic and logged before it goes on;
only when the text that was written is read again for the line map nobody is told. Remarks of
the parser and of the check are shown to the sink and logged one by one.
-/

namespace SourceLoader

/-- A source to be compiled, and how. -/
structure CompileRequest where
  file : String
  source : String
  /-- Imports are dependencies; otherwise they are left to the host. -/
  moduleMode : Bool
  passes : List Pass := []
  /-- Is there a sink for diagnostics and remarks? -/
  hasSink : Bool := true
  /-- Is a line map wanted? -/
  sourceMaps : Bool := false

/-- A compiled source. -/
structure Compiled where
  dependencies : List String
  text : String
  lineMap : Option (List Nat)
  /-- Remarks, in order. -/
  warnings : List String
deriving DecidableEq, Repr

namespace Compile

/-! ## Telling the host -/

/-- A call of the sink, if there is one. -/
def toSink (req : CompileRequest) (values : List String) : List Effect :=
  if req.hasSink then [.call (values.map .text)] else []

/-- How a syntax error is told. Without a place it is told of the start. -/
def report (req : CompileRequest) (step : String) (e : SyntaxError) : List Effect :=
  let known (n : Option Int) : Int := if n.getD 0 = 0 then 1 else n.getD 1
  let line := known e.line
  let column := known e.offset
  let diagnostic := Diagnostic.format e.fault.message req.file req.source line column
  toSink req ["error", step, diagnostic]
    ++ [.log ⟨.error, "module_syntax_error", [("stage", .text step), ("filename", .text req.file),
      ("line", .int line), ("column", .int column), ("message", .text e.fault.message)]⟩]

/-- How a failure of a step is told: syntax errors alone are. -/
def reportFailure (req : CompileRequest) (step : String) : Failure → List Effect
  | .rejected e => report req step e
  | _ => []

/-- The wording of a remark. -/
def describe (file : String) (w : Warning) : String :=
  let category := if w.remark.isDeprecation then "DeprecationWarning" else "SyntaxWarning"
  s!"{file}:{w.line}: {category}: {w.remark.message}"

/-- How a remark is told. -/
def tellWarning (req : CompileRequest) (message : String) : List Effect :=
  toSink req ["warn", "parse script", message]
    ++ [.log ⟨.warning, "compile_warning",
      [("filename", .text req.file), ("message", .text message)]⟩]

/-! ## Steps -/

/-- Reads the source. -/
def parse (req : CompileRequest) : Except Failure (Tree × List Warning) :=
  match Source.parse req.source with
  | .ok result => .ok result
  | .error e => .error (.ofParse req.file e)

/-- The built-in lowering of imports as a pass. -/
def lowering (req : CompileRequest) : Pass where
  apply t :=
    match Lowering.lower ⟨req.file, req.source⟩ t with
    | .ok t => .ok t
    | .error e => .error (.rejected e)

/-- All passes of a request. -/
def allPasses (req : CompileRequest) : List Pass :=
  if req.moduleMode then lowering req :: req.passes else req.passes

/-- Applies passes in turn. -/
def applyPasses : List Pass → Tree → Script Tree
  | [], t => .done t
  | p :: ps, t => do
    let t ← Script.mk (List.replicate p.pauses .pause) (p.apply t)
    applyPasses ps t

/-- Constants that are written like names. -/
def constantNames : List String := ["None", "True", "False"]

/-- The first variable of a tree that is named like a constant. -/
def constantName? (t : Tree) : Option String :=
  t.walkNodes.findSome? fun n =>
    match n.kind with
    | .name id _ => if constantNames.contains id then some id else none
    | _ => none

/-- The lines and columns of a place that can be compiled are below this. -/
def placeLimit : Nat := 0x80000000

/-- Are the lines and columns of a place small enough? -/
def placeFits (s : Span) : Bool :=
  s.line < placeLimit && s.column < placeLimit && s.endLine < placeLimit
    && s.endColumn < placeLimit

/-- Do the places of all nodes of a tree have small enough lines and columns? -/
def placesFit (t : Tree) : Bool := t.walkNodes.all fun n => n.span?.all placeFits

/-- Checks that a tree can be compiled. The result are remarks. -/
def check (req : CompileRequest) (t : Tree) : Except Failure (List Warning) :=
  if placesFit t then
    match constantName? t with
    | some name => .error (.constantName name)
    | none =>
      match Check.module t with
      | .ok warnings => .ok warnings
      | .error e => .error (.rejected (e.inFile req.file))
  else .error (.host "OverflowError" "Python int too large to convert to C int")

/-- Changes and checks a tree that was read. -/
def change (req : CompileRequest) (t : Tree) : Script (Tree × List Warning) := do
  let t ← applyPasses (allPasses req) t
  let t := t.fillSpans
  let warnings ← Script.ofExcept (check req t)
  return (t, warnings)

/-- Writes a tree. -/
def print (t : Tree) : Except Failure String :=
  match t.print with
  | .ok s => .ok s
  | .error fault => .error (.unprintable fault)

/-- The line map of a text that was written. -/
def mapLines (t : Tree) (text : String) : Except Failure (List Nat) :=
  match LineMap.build t text with
  | .ok map => .ok map
  | .error (.unreadable e) => .error (.ofParse "<unknown>" e)
  | .error .lineOutOfRange => .error .lineOutOfRange

/-- Writes a checked tree, with a line map if it is wanted. -/
def finish (req : CompileRequest) (t : Tree) : Except Failure (String × Option (List Nat)) := do
  let text ← print t
  if req.sourceMaps then return (text, some (← mapLines t text)) else return (text, none)

/-- The steps of a compilation. -/
def steps (req : CompileRequest) : Script Compiled := do
  let (t, remarks) ← (Script.ofExcept (parse req)).onFailure (reportFailure req "parse script")
  let t := DynamicImport.rename t
  let dependencies := Dependencies.ofTree req.moduleMode t
  let (t, more) ← (change req t).onFailure (reportFailure req "transform script")
  let warnings := (remarks ++ more).map (describe req.file)
  Script.mk (warnings.flatMap (tellWarning req)) (.ok ())
  let (text, lineMap) ← Script.ofExcept (finish req t)
  return { dependencies, text, lineMap, warnings }

end Compile

/-- Compiles a source. -/
def compile (req : CompileRequest) : Script Compiled := do
  let compiled ← (Compile.steps req).stage "modloom.transform"
    [("modloom.filename", .text req.file), ("modloom.module_mode", .bool req.moduleMode)]
  Script.emit (.log ⟨.debug, "module_transformed", [("filename", .text req.file),
    ("dependencies", .int compiled.dependencies.length),
    ("passes", .int (Compile.allPasses req).length)]⟩)
  return compiled

end SourceLoader
