import TokenTheme.Grammar.Basic
import TokenTheme.Log
import TokenTheme.Options
import TokenTheme.Text.Lines
/-!
# Providers

A provider tokenizes the lines of one language and gives each token the class that it is colored
by. Classes come from the theme of the moment, of which one snapshot serves a whole line. Tokens
are never moved, merged or split on the way from the grammar.
-/
namespace TokenTheme

structure Provider where
  grammar : Grammar
  options : Options

structure EditorLine where
  tokens : List (Token String)
  /-- The state to tokenize the next line in. -/
  state : LineState
  /-- Why the grammar failed on the line, if it did. -/
  failure : Option Error
  deriving DecidableEq, Inhabited

namespace Provider

/-- The class of a token by its scopes. Without a theme it is the innermost scope, or none. -/
def classOf (p : Provider) (theme : Option Snapshot) (scopes : List String) : String :=
  match theme with
  | some s => s.resolveClass scopes
  | none => if p.options.fallback then scopes.getLast?.getD "" else ""

def encode (p : Provider) (theme : Option Snapshot) (line : String) (state : LineState) :
    Except Fault (Line Attributes) :=
  p.grammar.encode (theme.getD default) p.options.language line state

def tokenize? (p : Provider) (theme : Option Snapshot) (line : String) (state : LineState) :
    Except Fault (Line String) :=
  match p.options.mode with
  | .scopes => (p.grammar.tokenize line state).map (·.map (p.classOf theme))
  | .encoded => (p.encode theme line state).map (·.map (theme.getD default).classOf)

/-- The tokens of a line on which the grammar failed: one of the default class. -/
def plain (line : String) : List (Token String) :=
  if line.isEmpty then [] else [⟨0, ""⟩]

/-- The classified tokens of a line. Where the grammar fails the line is plain and the state stays
as it is, so that the next lines are tokenized all the same; a grammar that breaks off takes the
provider with it. A new state takes the given number. -/
def tokenize (p : Provider) (theme : Option Snapshot) (serial : Nat) (line : String)
    (state : LineState) : Option EditorLine :=
  match p.tokenize? theme line state with
  | .ok l => some ⟨l.tokens, l.ending.state state serial, none⟩
  | .error (.refused e) => some ⟨plain line, state, some e⟩
  | .error (.broken _) => none

/-- Lines one after the other; the states that they make are numbered from `serial` on. -/
def tokenizeFrom (p : Provider) (theme : Option Snapshot) (serial : Nat) (state : LineState) :
    List String → Option (List EditorLine)
  | [] => some []
  | line :: rest => do
    let l ← p.tokenize theme serial line state
    return l :: (← p.tokenizeFrom theme (serial + 1) l.state rest)

def tokenizeText (p : Provider) (theme : Option Snapshot) (serial : Nat) (text : String) :
    Option (List EditorLine) :=
  p.tokenizeFrom theme serial .initial (Text.lines text)

def log (p : Provider) (lines : List EditorLine) : List LogEntry :=
  lines.filterMap fun l => l.failure.map (.lineFailed p.grammar.scopeName)

def describe (p : Provider) (themed : Bool) : String :=
  s!"TokensProvider \x7b scope_name: {Text.quoted p.grammar.scopeName}, " ++
    s!"options: {p.options.describe}, themed: {themed} \x7d"

end Provider

end TokenTheme
