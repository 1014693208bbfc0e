/-!
# Paths

Paths are texts whose parts are separated by slashes. They are taken apart and put together
without looking at any file. A path that begins with exactly two slashes keeps both when it is
normalised; every other absolute path begins with one.
-/

namespace SourceLoader.Path

/-- What stands up to and with the last slash, and what stands behind it. -/
def split (path : List Char) : List Char × List Char :=
  let name := (path.reverse.takeWhile (· ≠ '/')).reverse
  (path.take (path.length - name.length), name)

/-- The part of a path without slashes at its end, unless it consists of slashes. -/
def trimSlashes (path : List Char) : List Char :=
  if path.all (· = '/') then path else (path.reverse.dropWhile (· = '/')).reverse

/-- The directory of a path. -/
def directoryChars (path : List Char) : List Char := trimSlashes (split path).1

/-- A path below a base. An absolute path stays as it is. -/
def joinChars (base path : List Char) : List Char :=
  match path with
  | '/' :: _ => path
  | _ => if base.isEmpty || base.getLast? = some '/' then base ++ path else base ++ '/' :: path

/-- The parts between the slashes of a text. -/
def parts (separator : Char) : List Char → List (List Char)
  | [] => [[]]
  | c :: cs =>
    if c = separator then [] :: parts separator cs
    else
      match parts separator cs with
      | p :: ps => (c :: p) :: ps
      | [] => [[c]]

/-- The slashes at the start that a normalised path keeps. -/
def rootLength : List Char → Nat
  | '/' :: '/' :: '/' :: _ => 1
  | '/' :: '/' :: _ => 2
  | '/' :: _ => 1
  | _ => 0

/-- Adds a part to a normalised path; `kept` are its parts, last one first. A step up takes back
the last part, unless that is a step up too. There is no way up from a root. -/
def addPart (absolute : Bool) (kept : List (List Char)) (part : List Char) : List (List Char) :=
  if part = [] || part = ['.'] then kept
  else if part = ['.', '.'] then
    match kept with
    | [] => if absolute then [] else [part]
    | last :: rest => if last = ['.', '.'] then part :: kept else rest
  else part :: kept

/-- Puts parts together. -/
def unparts (separator : Char) : List (List Char) → List Char
  | [] => []
  | [p] => p
  | p :: ps => p ++ separator :: unparts separator ps

/-- A path without empty parts, without `.`, and with `..` only at the start of a relative
path. A path ends at a NUL character. -/
def normalizeChars (path : List Char) : List Char :=
  let root := rootLength path
  let kept := (parts '/' path).foldl (addPart (root > 0)) []
  let result := (List.replicate root '/' ++ unparts '/' kept.reverse).takeWhile (· ≠ '\x00')
  if result.isEmpty then ['.'] else result

/-- A text as the result of a function on characters. -/
def onChars (f : List Char → List Char) (s : String) : String := String.ofList (f s.toList)

/-- The directory of a path. -/
def directory : String → String := onChars directoryChars

/-- A path below a base. -/
def join (base path : String) : String := String.ofList (joinChars base.toList path.toList)

/-- A path in normal form. -/
def normalize : String → String := onChars normalizeChars

/-- The last part of a path. -/
def baseName : String → String := onChars fun p => (split p).2

/-- A file name without what stands from its last point on. Points at the start of the name do
not count. -/
def stemChars (name : List Char) : List Char :=
  let points := name.takeWhile (· = '.')
  let rest := name.drop points.length
  if rest.contains '.' then
    points ++ ((rest.reverse.dropWhile (· ≠ '.')).drop 1).reverse
  else name

/-- A file name without its suffix. -/
def stem : String → String := onChars stemChars

end SourceLoader.Path
