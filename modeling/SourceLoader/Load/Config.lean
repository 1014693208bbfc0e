import SourceLoader.Compile.Transform
import SourceLoader.Resolve

/-!
# Configurations of loads

Under a configuration a host loads modules: how specifiers are resolved, which registry they go
to, where compiled sources are kept, and how sources are compiled.
-/

namespace SourceLoader

/-- How specifiers are resolved. -/
inductive Resolver where
  /-- As paths and dotted names relative to the file. -/
  | relative
  /-- A fixed text stands in front of every specifier. -/
  | prefixed (front : String)
  /-- Only the specifiers of a table are known. -/
  | table (paths : List (String × String))
  /-- Some other rule of the host, which goes by the file and the specifier alone. -/
  | rule (path : String → String → Except Failure String)

/-- The path that a specifier in a file stands for. -/
def Resolver.apply (r : Resolver) (file specifier : String) : Except Failure String :=
  match r with
  | relative => .ok (resolve file specifier)
  | prefixed front => .ok (front ++ specifier)
  | table paths =>
    match paths.lookup specifier with
    | some path => .ok path
    | none => .error (.host "KeyError" specifier)
  | rule path => path file specifier

/-- A configuration. -/
structure LoadConfig where
  resolver : Resolver := .relative
  /-- The tag of the version, which compiled sources are kept under. -/
  version : String := "test"
  sourceMaps : Bool := false
  passes : List Pass := []
  hasSink : Bool := true
  /-- The name of the store that compiled sources are kept in. -/
  store : Option String := none

/-- The request to compile a source under a configuration. -/
def LoadConfig.request (c : LoadConfig) (file source : String) (moduleMode : Bool) :
    CompileRequest where
  file := file
  source := source
  moduleMode := moduleMode
  passes := c.passes
  hasSink := c.hasSink
  sourceMaps := c.sourceMaps

end SourceLoader
