import SourceLoader.Syntax.Grammar.Rules

/-!
# From source to tree

`Source.parse` reads a whole source. It yields the tree with the remarks that were made on the
way, first one first, or the error that the source is rejected with.
-/

namespace SourceLoader

/-- Why no tree could be read. -/
inductive ParseFailure where
  /-- The source holds a NUL character. -/
  | nullCharacter
  | rejected (error : SyntaxError)

namespace Source

/-- Reads a source. -/
def parse (source : String) : Except ParseFailure (Tree × List Warning) :=
  if source.toList.contains '\x00' then .error .nullCharacter
  else
    let state := ParseState.ofSource source
    match Parser.read (Grammar.module (Grammar.rules (Grammar.depthFor state.limit))) state with
    | .ok (tree, warnings) => .ok (tree, warnings.reverse)
    | .error e => .error (.rejected e)

end Source

end SourceLoader
