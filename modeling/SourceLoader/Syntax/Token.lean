/-!
# Tokens

What the lexer hands to the grammar.
-/

namespace SourceLoader

/-- The kinds of tokens. -/
inductive TokenKind where
  | name
  | keyword
  | number
  | string
  | punct
  | newline
  | indent
  | dedent
  | finish
deriving DecidableEq, Repr, Inhabited

/-- A token with its place. Columns count bytes; a token without text of its own has no
column. `depth` is the number of parentheses that are open behind the token. -/
structure Token where
  kind : TokenKind
  text : String
  line : Nat
  column : Option Nat
  endLine : Nat
  endColumn : Nat
  depth : Nat
deriving Repr, Inhabited

namespace Token

/-- The words that cannot be names. -/
def keywords : List String :=
  ["False", "None", "True", "and", "as", "assert", "async", "await", "break", "class",
    "continue", "def", "del", "elif", "else", "except", "finally", "for", "from", "global",
    "if", "import", "in", "is", "lambda", "nonlocal", "not", "or", "pass", "raise", "return",
    "try", "while", "with", "yield"]

/-- Punctuation of three characters. -/
def threeChars : List String := ["**=", "//=", "<<=", ">>=", "..."]

/-- Punctuation of two characters. -/
def twoChars : List String :=
  ["!=", "%=", "&=", "**", "*=", "+=", "-=", "->", "//", "/=", ":=", "<<", "<=", "<>", "==",
    ">=", ">>", "@=", "^=", "|="]

/-- Does the token stand for layout only? -/
def isLayout (t : Token) : Bool :=
  match t.kind with
  | .newline | .indent | .dedent | .finish => true
  | _ => false

end Token

end SourceLoader
