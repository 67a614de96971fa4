/-!
# Scopes and classes

A scope is a dotted name, from the general to the particular; its last segment usually names the
language. A token has a stack of scopes, the innermost last, and a theme knows some classes.
`resolveClass` picks one of these: it walks the scopes from the innermost outwards and cuts each
at its dots, and tries every proper beginning first with the segment of the language in the place
of what was cut off, then alone.
-/
namespace TokenTheme.Scope

/-- The places before a dot, from the last dot on; `before` is what stands in front, last
character first. -/
def cuts (before : List Char) : List Char → List (List Char)
  | [] => []
  | c :: rest =>
    if c = '.' then cuts (c :: before) rest ++ [before.reverse] else cuts (c :: before) rest

/-- The proper beginnings of a scope that end before a dot, the longest first. -/
def beginnings (scope : String) : List String :=
  (cuts [] scope.toList).map String.ofList

/-- What follows the last dot, or the whole scope if it has none. -/
def lastSegment (scope : String) : String :=
  String.ofList (scope.toList.reverse.takeWhile (· ≠ '.')).reverse

def segments (scope : String) : List (List Char) :=
  scope.toList.splitOn '.'

def candidates (scopes : List String) : List String :=
  match scopes.getLast? with
  | none => []
  | some innermost =>
    scopes.reverse.flatMap fun scope =>
      (beginnings scope).flatMap fun b => [b ++ "." ++ lastSegment innermost, b]

def resolveClass (known : List String) (scopes : List String) : String :=
  ((candidates scopes).find? (known.contains ·)).getD ""

end TokenTheme.Scope
