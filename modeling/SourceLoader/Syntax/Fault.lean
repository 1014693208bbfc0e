/-!
# What is wrong with a source

Every way in which a source can be rejected is one constructor, and `Fault.message` is the one
place where the faults are worded. Faults of the lexer come first, then those of string
literals, of the grammar, of names and scopes, of control flow, of patterns, and of imports.
-/

namespace SourceLoader

/-- The kinds of compound statements that own an indented block. -/
inductive BlockOwner where
  | statement (keyword : String)
  | functionDefinition
  | classDefinition
deriving DecidableEq, Repr

namespace BlockOwner

/-- How a message names the owner. -/
def title : BlockOwner → String
  | .statement keyword => s!"'{keyword}' statement"
  | .functionDefinition => "function definition"
  | .classDefinition => "class definition"

end BlockOwner

/-- The class of the exception that reports a fault. -/
inductive FaultClass where
  | grammar
  | indentation
  | tabs
deriving DecidableEq, Repr

/-- Why a source is rejected. -/
inductive Fault where
  -- the lexer
  | invalidLiteral (sort : String)
  | invalidDigit (digit : Char) (sort : String)
  | leadingZeros
  | unterminatedString (detected : Nat)
  | unterminatedTripleString (detected : Nat)
  | tooManyParentheses
  | unmatchedClosing (closing : Char)
  | mismatchedClosing (closing opening : Char) (openingLine : Option Nat)
  | invalidCharacter (c : Char)
  | nonPrintable (c : Char)
  | neverClosed (opening : Char)
  | badUnindent
  | mixedTabs
  | indentedTooDeep
  | badContinuation
  | unexpectedEnd
  | unexpectedIndent
  | unexpectedUnindent
  -- string literals
  | mixedBytes
  | nonAsciiBytes
  | unicodeEscape (first last : Nat) (reason : String)
  | unicodeEscapeByte (position : Nat) (reason : String)
  | byteEscape (position : Nat)
  | emptyExpression
  | expressionRequired (before : Char)
  | hugeInteger (digits : Nat)
  | fieldBackslash
  | fieldComment
  | fieldTooManyParentheses
  | fieldUnmatched (c : Char)
  | fieldMismatched (closing opening : Char)
  | fieldUnterminated
  | fieldNestedTooDeeply
  | fieldConversion
  | fieldExpectsBrace
  | singleBrace
  | formatEnd
  -- the grammar
  | invalidSyntax
  | expectedToken (token : String)
  | expectedBlock
  | expectedBlockAfter (owner : BlockOwner) (line : Nat)
  | forgottenComma
  | maybeComparison
  | cannotAssign (what : String)
  | cannotAssignHere (what : String)
  | cannotDelete (what : String)
  | cannotWalrus (what : String)
  | illegalAugmented (what : String)
  | onlySingleTarget (what : String)
  | illegalAnnotationTarget
  | yieldNotAssignable
  | missingCallParentheses (function : String)
  | expectedElse
  | unparenthesizedGenerator
  | iterableAfterMapping
  | positionalAfterKeyword
  | positionalAfterUnpacking
  | keywordEquals
  | defaultThenPlain
  | missingDefault
  | parenthesizedParameters (inLambda : Bool)
  | slashNeedsArgument
  | slashTwice
  | slashAfterStar
  | commaBetweenSlashAndStar
  | bareStarNeedsNames
  | starDefault
  | starTwice
  | mappingDefault
  | afterMapping
  | starredHere
  | doubleStarredHere
  | starredInComprehension
  | mappingInComprehension
  | unparenthesizedTarget
  | starredValue
  | missingValue
  | missingColon
  | trailingComma
  | expectedHandler
  | mixedHandlers
  | unparenthesizedExceptions
  | expectedExceptionType
  | wildcardTarget
  | invalidPatternTarget
  | positionalAfterKeywordPattern
  | realRequired
  | imaginaryRequired
  -- names and scopes
  | duplicateArgument (name : String)
  | assignedBefore (name : String) (declaration : String)
  | usedBefore (name : String) (declaration : String)
  | annotatedDeclared (name : String) (declaration : String)
  | parameterDeclared (name : String) (declaration : String)
  | nonlocalAndGlobal (name : String)
  | nonlocalAtModule
  | noNonlocalBinding (name : String)
  | comprehensionInClass
  | comprehensionRebinds (name : String)
  | comprehensionInnerTarget (name : String)
  | walrusInIterable
  | forbiddenInComprehension (what : String) (comprehension : String)
  | forbiddenInHint (what : String)
  | starImportInside
  -- control flow and calls
  | returnOutside
  | returnValueInAsyncGenerator
  | breakOutside
  | continueOutside
  | jumpInExceptStar
  | defaultExceptNotLast
  | yieldOutside
  | yieldFromInAsync
  | awaitOutside
  | awaitOutsideAsync
  | asyncForOutside
  | asyncWithOutside
  | asyncComprehensionOutside
  | repeatedKeyword (name : String)
  | starredOutsideList
  | twoStarred
  | tooManyStarred
  | starredTargetAlone
  | tooManyBlocks
  -- patterns
  | twoStarredPatterns
  | reboundInPattern (name : String)
  | wildcardNotLast
  | captureNotLast (name : String)
  | alternativeNames
  | repeatedAttribute (name : String)
  | repeatedKey (key : String)
  | tooManyStarredPatterns
  | patternValue
  | patternKey
  -- imports
  | futureNotFirst
  | unknownFeature (name : String)
  | braces
  | dottedImport (name : String)
  | relativeStar (dots : String)
  -- raised by a syntax pass or by a running module
  | custom (class_ : FaultClass) (message : String)
  -- a fault of the expression in a replacement field
  | inField (fault : Fault)
deriving DecidableEq, Repr

namespace Fault

/-- Which exception reports the fault. -/
def faultClass : Fault → FaultClass
  | .mixedTabs => .tabs
  | .badUnindent | .indentedTooDeep | .unexpectedIndent | .unexpectedUnindent
  | .expectedBlock | .expectedBlockAfter _ _ => .indentation
  | .inField fault => fault.faultClass
  | .custom class_ _ => class_
  | _ => .grammar

/-- The hexadecimal digits of a code point, at least four. -/
def hex4 (c : Char) : String :=
  let digits := (Nat.toDigits 16 c.toNat).map Char.toUpper
  String.ofList (List.replicate (4 - digits.length) '0' ++ digits)

/-- The wording of a fault. -/
def message : Fault → String
  | .invalidLiteral sort => s!"invalid {sort} literal"
  | .invalidDigit digit sort => s!"invalid digit '{digit}' in {sort} literal"
  | .leadingZeros =>
    "leading zeros in decimal integer literals are not permitted; "
      ++ "use an 0o prefix for octal integers"
  | .unterminatedString line => s!"unterminated string literal (detected at line {line})"
  | .unterminatedTripleString line =>
    s!"unterminated triple-quoted string literal (detected at line {line})"
  | .tooManyParentheses => "too many nested parentheses"
  | .unmatchedClosing c => s!"unmatched '{c}'"
  | .mismatchedClosing c o none =>
    s!"closing parenthesis '{c}' does not match opening parenthesis '{o}'"
  | .mismatchedClosing c o (some line) =>
    s!"closing parenthesis '{c}' does not match opening parenthesis '{o}' on line {line}"
  | .invalidCharacter c => s!"invalid character '{c}' (U+{hex4 c})"
  | .nonPrintable c => s!"invalid non-printable character U+{hex4 c}"
  | .neverClosed c => s!"'{c}' was never closed"
  | .badUnindent => "unindent does not match any outer indentation level"
  | .mixedTabs => "inconsistent use of tabs and spaces in indentation"
  | .indentedTooDeep => "too many levels of indentation"
  | .badContinuation => "unexpected character after line continuation character"
  | .unexpectedEnd => "unexpected EOF while parsing"
  | .unexpectedIndent => "unexpected indent"
  | .unexpectedUnindent => "unexpected unindent"
  | .mixedBytes => "cannot mix bytes and nonbytes literals"
  | .nonAsciiBytes => "bytes can only contain ASCII literal characters"
  | .unicodeEscape first last reason =>
    s!"(unicode error) 'unicodeescape' codec can't decode bytes in position {first}-{last}: "
      ++ reason
  | .unicodeEscapeByte position reason =>
    s!"(unicode error) 'unicodeescape' codec can't decode byte 0x5c in position {position}: "
      ++ reason
  | .byteEscape position => s!"(value error) invalid \\x escape at position {position}"
  | .emptyExpression => "f-string: empty expression not allowed"
  | .expressionRequired c => s!"f-string: expression required before '{c}'"
  | .hugeInteger digits =>
    s!"Exceeds the limit (4300 digits) for integer string conversion: value has {digits} digits; "
      ++ "use sys.set_int_max_str_digits() to increase the limit - Consider hexadecimal for huge "
      ++ "integer literals to avoid decimal conversion limits."
  | .fieldBackslash => "f-string expression part cannot include a backslash"
  | .fieldComment => "f-string expression part cannot include '#'"
  | .fieldTooManyParentheses => "f-string: too many nested parenthesis"
  | .fieldUnmatched c => s!"f-string: unmatched '{c}'"
  | .fieldMismatched c o =>
    s!"f-string: closing parenthesis '{c}' does not match opening parenthesis '{o}'"
  | .fieldUnterminated => "f-string: unterminated string"
  | .fieldNestedTooDeeply => "f-string: expressions nested too deeply"
  | .fieldConversion => "f-string: invalid conversion character: expected 's', 'r', or 'a'"
  | .fieldExpectsBrace => "f-string: expecting '\x7d'"
  | .singleBrace => "f-string: single '\x7d' is not allowed"
  | .formatEnd => "f-string: unexpected end of string"
  | .invalidSyntax => "invalid syntax"
  | .expectedToken token => s!"expected '{token}'"
  | .expectedBlock => "expected an indented block"
  | .expectedBlockAfter owner line =>
    s!"expected an indented block after {owner.title} on line {line}"
  | .forgottenComma => "invalid syntax. Perhaps you forgot a comma?"
  | .maybeComparison => "invalid syntax. Maybe you meant '==' or ':=' instead of '='?"
  | .cannotAssign what => s!"cannot assign to {what}"
  | .cannotAssignHere what =>
    s!"cannot assign to {what} here. Maybe you meant '==' instead of '='?"
  | .cannotDelete what => s!"cannot delete {what}"
  | .cannotWalrus what => s!"cannot use assignment expressions with {what}"
  | .illegalAugmented what => s!"'{what}' is an illegal expression for augmented assignment"
  | .onlySingleTarget what => s!"only single target (not {what}) can be annotated"
  | .illegalAnnotationTarget => "illegal target for annotation"
  | .yieldNotAssignable => "assignment to yield expression not possible"
  | .missingCallParentheses function =>
    s!"Missing parentheses in call to '{function}'. Did you mean {function}(...)?"
  | .expectedElse => "expected 'else' after 'if' expression"
  | .unparenthesizedGenerator => "Generator expression must be parenthesized"
  | .iterableAfterMapping => "iterable argument unpacking follows keyword argument unpacking"
  | .positionalAfterKeyword => "positional argument follows keyword argument"
  | .positionalAfterUnpacking => "positional argument follows keyword argument unpacking"
  | .keywordEquals => "expression cannot contain assignment, perhaps you meant \"==\"?"
  | .defaultThenPlain => "non-default argument follows default argument"
  | .missingDefault => "expected default value expression"
  | .parenthesizedParameters false => "Function parameters cannot be parenthesized"
  | .parenthesizedParameters true => "Lambda expression parameters cannot be parenthesized"
  | .slashNeedsArgument => "at least one argument must precede /"
  | .slashTwice => "/ may appear only once"
  | .slashAfterStar => "/ must be ahead of *"
  | .commaBetweenSlashAndStar => "expected comma between / and *"
  | .bareStarNeedsNames => "named arguments must follow bare *"
  | .starDefault => "var-positional argument cannot have default value"
  | .starTwice => "* argument may appear only once"
  | .mappingDefault => "var-keyword argument cannot have default value"
  | .afterMapping => "arguments cannot follow var-keyword argument"
  | .starredHere => "cannot use starred expression here"
  | .doubleStarredHere => "cannot use double starred expression here"
  | .starredInComprehension => "iterable unpacking cannot be used in comprehension"
  | .mappingInComprehension => "dict unpacking cannot be used in dict comprehension"
  | .unparenthesizedTarget => "did you forget parentheses around the comprehension target?"
  | .starredValue => "cannot use a starred expression in a dictionary value"
  | .missingValue => "expression expected after dictionary key and ':'"
  | .missingColon => "':' expected after dictionary key"
  | .trailingComma => "trailing comma not allowed without surrounding parentheses"
  | .expectedHandler => "expected 'except' or 'finally' block"
  | .mixedHandlers => "cannot have both 'except' and 'except*' on the same 'try'"
  | .unparenthesizedExceptions => "multiple exception types must be parenthesized"
  | .expectedExceptionType => "expected one or more exception types"
  | .wildcardTarget => "cannot use '_' as a target"
  | .invalidPatternTarget => "invalid pattern target"
  | .positionalAfterKeywordPattern => "positional patterns follow keyword patterns"
  | .realRequired => "real number required in complex literal"
  | .imaginaryRequired => "imaginary number required in complex literal"
  | .duplicateArgument name => s!"duplicate argument '{name}' in function definition"
  | .assignedBefore name declaration =>
    s!"name '{name}' is assigned to before {declaration} declaration"
  | .usedBefore name declaration =>
    s!"name '{name}' is used prior to {declaration} declaration"
  | .annotatedDeclared name declaration => s!"annotated name '{name}' can't be {declaration}"
  | .parameterDeclared name declaration => s!"name '{name}' is parameter and {declaration}"
  | .nonlocalAndGlobal name => s!"name '{name}' is nonlocal and global"
  | .nonlocalAtModule => "nonlocal declaration not allowed at module level"
  | .noNonlocalBinding name => s!"no binding for nonlocal '{name}' found"
  | .comprehensionInClass =>
    "assignment expression within a comprehension cannot be used in a class body"
  | .comprehensionRebinds name =>
    s!"assignment expression cannot rebind comprehension iteration variable '{name}'"
  | .comprehensionInnerTarget name =>
    s!"comprehension inner loop cannot rebind assignment expression target '{name}'"
  | .walrusInIterable =>
    "assignment expression cannot be used in a comprehension iterable expression"
  | .forbiddenInComprehension what comprehension => s!"'{what}' inside {comprehension}"
  | .forbiddenInHint what => s!"{what} cannot be used within an annotation"
  | .starImportInside => "import * only allowed at module level"
  | .returnOutside => "'return' outside function"
  | .returnValueInAsyncGenerator => "'return' with value in async generator"
  | .breakOutside => "'break' outside loop"
  | .continueOutside => "'continue' not properly in loop"
  | .jumpInExceptStar => "'break', 'continue' and 'return' cannot appear in an except* block"
  | .defaultExceptNotLast => "default 'except:' must be last"
  | .yieldOutside => "'yield' outside function"
  | .yieldFromInAsync => "'yield from' inside async function"
  | .awaitOutside => "'await' outside function"
  | .awaitOutsideAsync => "'await' outside async function"
  | .asyncForOutside => "'async for' outside async function"
  | .asyncWithOutside => "'async with' outside async function"
  | .asyncComprehensionOutside =>
    "asynchronous comprehension outside of an asynchronous function"
  | .repeatedKeyword name => s!"keyword argument repeated: {name}"
  | .starredOutsideList => "can't use starred expression here"
  | .twoStarred => "multiple starred expressions in assignment"
  | .tooManyStarred => "too many expressions in star-unpacking assignment"
  | .starredTargetAlone => "starred assignment target must be in a list or tuple"
  | .tooManyBlocks => "too many statically nested blocks"
  | .twoStarredPatterns => "multiple starred names in sequence pattern"
  | .reboundInPattern name => s!"multiple assignments to name '{name}' in pattern"
  | .wildcardNotLast => "wildcard makes remaining patterns unreachable"
  | .captureNotLast name => s!"name capture '{name}' makes remaining patterns unreachable"
  | .alternativeNames => "alternative patterns bind different names"
  | .repeatedAttribute name => s!"attribute name repeated in class pattern: {name}"
  | .repeatedKey key => s!"mapping pattern checks duplicate key ({key})"
  | .tooManyStarredPatterns => "too many expressions in star-unpacking sequence pattern"
  | .patternValue => "patterns may only match literals and attribute lookups"
  | .patternKey => "mapping pattern keys may only match literals and attribute lookups"
  | .futureNotFirst => "from __future__ imports must occur at the beginning of the file"
  | .unknownFeature name => s!"future feature {name} is not defined"
  | .braces => "not a chance"
  | .dottedImport name =>
    s!"dotted import '{name}' needs an alias in module mode (import {name} as <name>)"
  | .relativeStar dots => s!"'from {dots} import *' is not supported in module mode"
  | .custom _ message => message
  | .inField fault => s!"f-string: {fault.message}"

end Fault

/-- A rejected source: the fault and where it is. Lines and offsets count from one, in
characters; the last two fields are known only for faults of the library's own. -/
structure SyntaxError where
  fault : Fault
  file : Option String
  line : Option Int
  offset : Option Int
  endLine : Option Int := none
  endOffset : Option Int := none
  text : Option String := none
deriving Repr

namespace SyntaxError

/-- The same error, said to be in `file` unless it names a file. -/
def inFile (e : SyntaxError) (file : String) : SyntaxError := { e with file := some (e.file.getD file) }

/-- What stands behind the last slash of a path. -/
def baseName (path : String) : String :=
  String.ofList (path.toList.reverse.takeWhile (· ≠ '/')).reverse

/-- The wording of the error with its place, as far as it is known. -/
def summary (e : SyntaxError) : String :=
  match e.file, e.line with
  | some file, some line => s!"{e.fault.message} ({baseName file}, line {line})"
  | some file, none => s!"{e.fault.message} ({baseName file})"
  | none, some line => s!"{e.fault.message} (line {line})"
  | none, none => e.fault.message

end SyntaxError

end SourceLoader
