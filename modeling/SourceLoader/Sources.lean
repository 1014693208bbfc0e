import SourceLoader.Observe.Script
import SourceLoader.Path
import SourceLoader.Text.Encoding
import SourceLoader.Text.Lines

/-!
# Sources

Where the text of a module comes from: a table of texts, or files of a directory tree. Files
are read relative to the root of the tree, decoded, and their line ends are unified.
-/

namespace SourceLoader

/-- The text of a module, and how it is to be read. -/
structure ModuleSource where
  text : String
  /-- Imports are dependencies; otherwise they are left to the host. -/
  moduleMode : Bool := true
deriving DecidableEq, Repr

/-- The files of a directory tree, by path from its root. -/
structure FileTree where
  files : List (List String × List UInt8) := []

namespace FileTree

/-- The parts of a path, without empty ones and steps to the same directory. -/
def partsOf (path : String) : List String :=
  ((Path.parts '/' path.toList).map String.ofList).filter fun p => p ≠ "" && p ≠ "."

/-- The tree with these files. -/
def ofList (files : List (String × List UInt8)) : FileTree :=
  ⟨files.map fun f => (partsOf f.1, f.2)⟩

/-- What the system is asked for: the parts of a path joined again. -/
def shownPath (path : String) : String :=
  let joined := "/".intercalate (partsOf path)
  if path.toList.head? = some '/' then "/" ++ joined
  else if joined = "" then "." else joined

/-- Is there a file of this path? -/
def isFile (t : FileTree) (path : List String) : Bool := t.files.any (·.1 = path)

/-- Is there a directory of this path? -/
def isDirectory (t : FileTree) (path : List String) : Bool :=
  path.isEmpty || t.files.any fun f => path.isPrefixOf f.1 && path.length < f.1.length

/-- Follows a path from a directory. The result is the place that it leads to. -/
def follow (t : FileTree) : List String → List String → Except FileFault (List String)
  | place, [] => .ok place
  | place, step :: rest =>
    if t.isFile place then .error .notDirectory
    else if !t.isDirectory place then .error .missing
    else if step = ".." then
      if place.isEmpty then .error .missing else follow t place.dropLast rest
    else follow t (place ++ [step]) rest

/-- The bytes of a file. -/
def read (t : FileTree) (path : String) : Except FileFault (List UInt8) := do
  if path.toList.head? = some '/' then throw .missing
  let place ← t.follow [] (partsOf path)
  match t.files.find? (·.1 = place) with
  | some f => return f.2
  | none => if t.isDirectory place then throw .isDirectory else throw .missing

end FileTree

/-- Where sources come from. -/
inductive SourceProvider where
  /-- A table of sources by path. -/
  | table (sources : List (String × ModuleSource))
  | files (tree : FileTree) (moduleMode : Bool) (encoding : String)

namespace SourceProvider

/-- Reads and decodes a file. -/
def readFile (tree : FileTree) (moduleMode : Bool) (encoding path : String) :
    Script ModuleSource :=
  if path.toList.contains '\x00' then .failing (.host "ValueError" "embedded null byte")
  else
    match Encoding.ofName? encoding with
    | none => .failing (.host "LookupError" s!"unknown encoding: {encoding}")
    | some e =>
      match tree.read path with
      | .error .missing =>
        let f := Failure.sourceNotFound path (some .missing)
        ⟨[.log (.ofDetails f (Failure.file .missing (FileTree.shownPath path)).message)],
          .error f⟩
      | .error fault => .failing (.file fault (FileTree.shownPath path))
      | .ok bytes =>
        match e.decode bytes with
        | .error fault => .failing (.undecodable fault)
        | .ok chars => .done ⟨String.ofList (Text.unifyNewlines chars), moduleMode⟩

/-- Looks up the source of a path. -/
def get (provider : SourceProvider) (path : String) : Script ModuleSource :=
  match provider with
  | table sources =>
    match sources.find? (·.1 = path) with
    | some (_, source) => .done source
    | none => .failing (.sourceNotFound path)
  | files tree moduleMode encoding => readFile tree moduleMode encoding path

end SourceProvider

end SourceLoader
