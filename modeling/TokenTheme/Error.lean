import TokenTheme.Json.Shape
/-!
# Errors

Everything that can go wrong while themes and grammars are loaded and while lines are tokenized,
with the wording of each. `isLoad` tells the two times apart.
-/
namespace TokenTheme

inductive FileError where
  | notFound
  | isDirectory
  | notText
  | other (message : String)
  deriving DecidableEq, Inhabited

def FileError.message : FileError → String
  | .notFound => "No such file or directory (os error 2)"
  | .isDirectory => "Is a directory (os error 21)"
  | .notText => "stream did not contain valid UTF-8"
  | .other message => message

namespace Json

inductive Failure where
  | endOfInput
  | malformed
  /-- The value, found at a known place of a text, has the wrong shape. -/
  | mismatchAt (cause : Mismatch)
  | mismatch (cause : Mismatch)
  | unreadable (cause : FileError)
  deriving DecidableEq, Inhabited

def Failure.ofStop : Stop → Failure
  | .endOfInput => .endOfInput
  | .malformed => .malformed
  | .mismatch cause => .mismatchAt cause

def Failure.message : Failure → String
  | .endOfInput => "unexpected end of input"
  | .malformed => "malformed text"
  | .mismatchAt cause => cause.message
  | .mismatch cause => cause.message
  | .unreadable cause => cause.message

end Json

/-- Why a theme or a grammar could not be loaded, or a line not be tokenized. -/
inductive Error where
  | file (cause : FileError)
  /-- A theme, grammar or setting is no JSON, or none of the right shape. -/
  | json (failure : Json.Failure)
  | invalidColor (text reason : String)
  /-- No grammar is known by that scope name. -/
  | unknownGrammar (scopeName : String)
  /-- The definition of a grammar was refused. -/
  | invalidGrammar (scopeName reason : String)
  /-- The regex engine could not be set up. -/
  | engineUnavailable (message : String)
  | invalidPattern (message : String)
  /-- The construction of a provider went away without a result. -/
  | constructionAborted (scopeName : String)
  /-- The state did not come from this grammar. -/
  | foreignState (message : String)
  | lineFailed (message : String)
  deriving DecidableEq, Inhabited

namespace Error

def message : Error → String
  | .file cause => "I/O error: " ++ cause.message
  | .json failure => "JSON parsing error: " ++ failure.message
  | .invalidColor text reason => s!"invalid hex color '{text}': {reason}"
  | .unknownGrammar name => s!"no grammar found for scope '{name}'"
  | .invalidGrammar name reason => s!"failed to compile grammar '{name}': {reason}"
  | .engineUnavailable message => "regex engine initialization error: " ++ message
  | .invalidPattern message => "regex compilation error: " ++ message
  | .constructionAborted name => s!"construction of the tokens provider for '{name}' was aborted"
  | .foreignState message => "invalid continuation state: " ++ message
  | .lineFailed message => "tokenization error: " ++ message

/-- Whether the error arises while something is loaded, and not while a line is tokenized. -/
def isLoad : Error → Bool
  | .foreignState _ | .lineFailed _ => false
  | _ => true

/-- Whether the error was caused by another one that it holds. -/
def hasCause : Error → Bool
  | .file _ | .json _ => true
  | _ => false

def ofMismatch (cause : Json.Mismatch) : Error :=
  .json (.mismatch cause)

def ofStop (stop : Json.Stop) : Error :=
  .json (.ofStop stop)

end Error

namespace Json.Shape

variable {α : Type}

def accept (shape : Shape α) (j : Json) : Except Error α :=
  (shape.decode j).mapError .ofMismatch

def acceptText (shape : Shape α) (text : String) : Except Error α :=
  (shape.ofText text).mapError .ofStop

end Json.Shape

end TokenTheme
