import SourceLoader.Path

/-!
# Resolving specifiers

A specifier names a module from within a file:

* with a slash it is a path, relative to the directory of the file or absolute;
* with points in front it is a dotted path: one point is the directory of the file, each
  further point its parent, and names separated by points lead down to a source file;
* any other specifier is the bare name of a module that a host has registered.
-/

namespace SourceLoader.Resolve

/-- The suffix of source files. -/
def suffix : List Char := ['.', 'p', 'y']

/-- The directory `steps` levels above a directory. -/
def climb : Nat → List Char → List Char
  | 0, base => base
  | steps + 1, base => climb steps (Path.directoryChars base)

/-- The path of a dotted specifier with `level` points in front. -/
def dotted (base : List Char) (level : Nat) (names : List Char) : List Char :=
  let base := climb (level - 1) base
  if names.isEmpty then (if base.isEmpty then ['/'] else base)
  else (Path.parts '.' names).foldl Path.joinChars base ++ suffix

/-- The path that a specifier in a file stands for, as characters. -/
def chars (file specifier : List Char) : List Char :=
  let base := Path.directoryChars file
  if specifier.contains '/' then Path.normalizeChars (Path.joinChars base specifier)
  else
    match specifier with
    | '.' :: _ =>
      let names := specifier.dropWhile (· = '.')
      dotted base (specifier.length - names.length) names
    | _ => specifier

end SourceLoader.Resolve

namespace SourceLoader

/-- The path that a specifier in a file stands for. -/
def resolve (file specifier : String) : String :=
  String.ofList (Resolve.chars file.toList specifier.toList)

end SourceLoader
