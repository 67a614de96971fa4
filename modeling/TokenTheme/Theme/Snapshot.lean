import TokenTheme.Scope
import TokenTheme.Theme.Converted
import TokenTheme.Theme.Palette
/-!
# Snapshots

A snapshot is everything that is derived from one version of the theme. It packs the style of a
stack of scopes into attributes, and leads from attributes back to a color and from there to a
class.
-/
namespace TokenTheme

/-- One version of the theme with its palette and the classes of its colors. -/
structure Snapshot where
  version : Nat
  theme : Theme
  palette : Palette
  classMap : ClassMap
  deriving DecidableEq

namespace Snapshot

/-- The snapshot before any theme, without a palette. -/
instance : Inhabited Snapshot := ⟨⟨0, default, .empty, .empty⟩⟩

def ofTheme (theme : Theme) (version : Nat) : Snapshot where
  version := version
  theme := theme
  palette := .ofRules theme.rules
  classMap := .ofRules theme.rules

def ofSource (source : ThemeSource) (version : Nat) : Snapshot :=
  ofTheme (.ofSource source) version

def ignored (s : Snapshot) : List LogEntry :=
  Palette.ignored s.theme.rules ++ ClassMap.ignored s.theme.rules

def knownClasses (s : Snapshot) : List String :=
  s.theme.rules.map (·.token)

/-- The first rule of a class. -/
def ruleFor? (s : Snapshot) (token : String) : Option Rule :=
  s.theme.rules.find? (·.token = token)

/-- The classes whose rules apply to a stack of scopes, the most particular first: from the
innermost scope outwards each scope and its beginnings, and last the empty class. -/
def applicable (scopes : List String) : List String :=
  scopes.reverse.flatMap (fun scope => scope :: Scope.beginnings scope) ++ [""]

def matchingRules (s : Snapshot) (scopes : List String) : List Rule :=
  (applicable scopes).filterMap s.ruleFor?

def idOf? (s : Snapshot) (text : Option String) : Option Nat :=
  (Rule.colorOf text).bind s.palette.idOf?

/-- The kind of token that the segments of a scope name first. -/
def kindOfSegments : List (List Char) → Option TokenKind
  | [] => none
  | segment :: rest =>
    if segment = "comment".toList then some .comment
    else if segment = "string".toList then some .string
    else if segment = "regex".toList then some .regex
    else kindOfSegments rest

/-- The kind of token that a scope says. Embedded text is of no special kind. -/
def kindOfScope (scope : String) : Option TokenKind :=
  if "meta.embedded".toList.isPrefixOf scope.toList then some .other
  else kindOfSegments (Scope.segments scope)

/-- The kind of token by the innermost scope that says one. -/
def kindOf (scopes : List String) : TokenKind :=
  (scopes.reverse.findSome? kindOfScope).getD .other

/-- The style of a stack of scopes: each of foreground, background and font style comes from the
most particular rule that sets it. -/
def encodeScopes (s : Snapshot) (scopes : List String) (language : UInt8) : Attributes :=
  let rules := s.matchingRules scopes
  .encode language (kindOf scopes) false
    ((rules.findSome? fun r => r.fontStyle.map FontStyle.ofText).getD .empty)
    ((rules.findSome? fun r => s.idOf? r.foreground).getD 0).toUInt32
    ((rules.findSome? fun r => s.idOf? r.background).getD 0).toUInt32

/-- The class of a token: the one its foreground belongs to. -/
def classOf (s : Snapshot) (a : Attributes) : String :=
  ((s.palette.foreground? a).bind s.classMap.get?).getD ""

def resolveClass (s : Snapshot) (scopes : List String) : String :=
  Scope.resolveClass s.knownClasses scopes

end Snapshot

end TokenTheme
