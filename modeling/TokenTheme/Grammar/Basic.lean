import TokenTheme.Line.Token
import TokenTheme.Theme.Snapshot
/-!
# Grammars

A grammar splits a line into tokens and gives each its scopes, the outermost first. It can also
give them packed attributes in the style of a theme, which most grammars leave to the theme.
-/
namespace TokenTheme

inductive Fault where
  /-- It gives an error, and other lines can be tried all the same. -/
  | refused (error : Error)
  /-- It is led to a rule that it does not have, and breaks off. -/
  | broken (rule : Nat)
  deriving DecidableEq, Inhabited

structure Grammar where
  scopeName : String
  /-- The tokens of a line that begins in a state. -/
  tokenize : String → LineState → Except Fault (Line (List String))
  /-- The same with attributes, by a theme and the number of the language. -/
  encode : Snapshot → UInt8 → String → LineState → Except Fault (Line Attributes)

/-- A grammar that leaves the attributes to the theme. -/
def Grammar.ofScopes (scopeName : String)
    (tokenize : String → LineState → Except Fault (Line (List String))) : Grammar where
  scopeName := scopeName
  tokenize := tokenize
  encode theme language line state :=
    (tokenize line state).map (·.map fun scopes => theme.encodeScopes scopes language)

end TokenTheme
