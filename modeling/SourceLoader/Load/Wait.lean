import SourceLoader.Text.CodePoint

/-!
# Who waits for whom

While a module is being loaded it may wait for others. `Waits` notes for each module that is
being loaded the paths that it has asked for. A wait that would close a ring could never end;
`Waits.cycle?` finds the ring before the wait begins. It goes through the notes depth first with
the trail that led to each path, and looks at each path at most once.
-/

namespace SourceLoader

/-- The paths that a module has asked for, by the path of the module. -/
abbrev Waits := List (String × List String)

namespace Waits

/-- What a module has asked for. -/
def of (w : Waits) (path : String) : List String := (w.lookup path).getD []

/-- Notes that a module asks for a path. -/
def add (requester path : String) : Waits → Waits
  | [] => [(requester, [path])]
  | (p, ps) :: rest =>
    if p = requester then (p, if ps.contains path then ps else ps ++ [path]) :: rest
    else (p, ps) :: add requester path rest

/-- Forgets what a module has asked for. -/
def drop (w : Waits) (path : String) : Waits := w.filter (·.1 ≠ path)

/-- How many notes there are. -/
def count (w : Waits) : Nat := (w.flatMap (·.2)).length

/-- Searches for `goal`. `stack` holds the paths that are left to look at, each with the trail
to it, `seen` the paths that were looked at. -/
def search (w : Waits) (isLoading : String → Bool) (goal : String) :
    Nat → List (String × List String) → List String → Option (List String)
  | 0, _, _ => none
  | _ + 1, [], _ => none
  | fuel + 1, (path, trail) :: stack, seen =>
    if path = goal then some trail
    else if seen.contains path then search w isLoading goal fuel stack seen
    else
      let found := ((w.of path).filter isLoading).map fun next => (next, trail ++ [next])
      search w isLoading goal fuel (found.reverse ++ stack) (path :: seen)

/-- The ring that would close if `requester` waited for `path`: `requester`, then `path`, and so
on along the notes back to `requester`. Every step of the search takes a path from the stack, and
each note puts at most one onto it. -/
def cycle? (w : Waits) (isLoading : String → Bool) (path requester : String) :
    Option (List String) :=
  search w isLoading requester (w.count + 2) [(path, [requester, path])] []

end Waits

end SourceLoader
