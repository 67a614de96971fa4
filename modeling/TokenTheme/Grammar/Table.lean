import TokenTheme.Grammar.Basic
/-!
# Grammars given by tables

A grammar that knows some lines by heart: a row says which tokens a line has in a state, and in
which state it ends.
-/
namespace TokenTheme

/-- The style of a token in a row: attributes, or scopes to be encoded. -/
inductive PackedStyle where
  | attributes (word : UInt32)
  | scopes (scopes : List String)
  deriving DecidableEq, Inhabited

structure TableRow where
  line : String
  /-- The name that the state holds; none for the initial state. -/
  state : Option String
  /-- The failure to answer with in the place of tokens. -/
  error : Option String
  ending : Ending
  tokens : List (Token (List String))
  packed : List (Token PackedStyle)
  deriving DecidableEq, Inhabited

structure TableGrammar where
  scopeName : String
  rows : List TableRow
  /-- The name that messages give to the states of such a grammar. -/
  stateName : String
  deriving DecidableEq, Inhabited

namespace TableGrammar

def row (g : TableGrammar) (line : String) (state : LineState) : Except Error TableRow := do
  let name ← state.remembered g.stateName Memory.name?
  match g.rows.find? fun r => r.line = line && r.state = name with
  | none => throw (.lineFailed ("no row for " ++ line))
  | some r =>
    match r.error with
    | some message => throw (.lineFailed message)
    | none => return r

def tokenize (g : TableGrammar) (line : String) (state : LineState) :
    Except Fault (Line (List String)) := do
  let r ← (g.row line state).mapError .refused
  return ⟨r.tokens, r.ending⟩

/-- The attributes of a style; scopes are encoded for the language after the given one. -/
def attributesOf (theme : Snapshot) (language : UInt8) : PackedStyle → Attributes
  | .attributes word => ⟨word⟩
  | .scopes scopes => theme.encodeScopes scopes (language + 1)

def encode (g : TableGrammar) (theme : Snapshot) (language : UInt8) (line : String)
    (state : LineState) : Except Fault (Line Attributes) := do
  let r ← (g.row line state).mapError .refused
  return ⟨r.packed.map (·.map (attributesOf theme language)), r.ending⟩

def toGrammar (g : TableGrammar) (isPacked : Bool) : Grammar :=
  if isPacked then ⟨g.scopeName, g.tokenize, g.encode⟩ else .ofScopes g.scopeName g.tokenize

end TableGrammar

end TokenTheme
