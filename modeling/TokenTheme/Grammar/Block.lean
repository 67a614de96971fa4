import TokenTheme.Grammar.Basic
import TokenTheme.Regex.Engine
/-!
# Grammars of patterns and blocks

A grammar of rules in a flat list. A rule is a pattern for a token, or a block that reaches from an
opening pattern to a closing one, over several lines if need be. Outside of blocks the opening
patterns of all rules are sought together; inside one only its closing pattern is.
-/
namespace TokenTheme

structure RuleDefinition where
  pattern : Option String := none
  opening : Option String := none
  closing : Option String := none
  name : String := ""
  deriving DecidableEq, Inhabited

def RuleDefinition.shape : Json.Shape RuleDefinition :=
  .record "FakePattern" {} [
    .of "match" .optionalByName (.nullable .string) fun pattern r => { r with pattern },
    .of "begin" .optionalByName (.nullable .string) fun opening r => { r with opening },
    .of "end" .optionalByName (.nullable .string) fun closing r => { r with closing },
    .of "name" .required .string fun name r => { r with name }]

/-- The pattern that a rule starts with; a rule has either a pattern of its own or both an opening
and a closing one. -/
def RuleDefinition.start? (r : RuleDefinition) : Option String :=
  match r.pattern, r.opening, r.closing with
  | some pattern, none, _ => some pattern
  | none, some opening, some _ => some opening
  | _, _, _ => none

structure GrammarDefinition where
  scopeName : String := ""
  rules : List RuleDefinition := []
  deriving DecidableEq, Inhabited

def GrammarDefinition.shape : Json.Shape GrammarDefinition :=
  .record "FakeGrammarJson" {} [
    .of "scopeName" .required .string fun scopeName g => { g with scopeName },
    .of "patterns" .required (.list RuleDefinition.shape) fun rules g => { g with rules }]

structure BlockRule where
  scopes : List String
  /-- What ends the block that the rule opens, if it opens one. -/
  closing : Option Regex.Scanner
  deriving Inhabited

structure BlockGrammar where
  scopeName : String
  opening : Regex.Scanner
  rules : List BlockRule
  /-- The name that messages give to the states of such a grammar. -/
  stateName : String
  deriving Inhabited

namespace BlockGrammar

/-- The patterns that the rules start with, or the error of the first rule without one. -/
def starts (scopeName : String) (rules : List RuleDefinition) : Except Error (List String) :=
  rules.mapM fun r =>
    match r.start? with
    | some pattern => .ok pattern
    | none => .error (.invalidGrammar scopeName s!"rule {r.name} needs either match or begin/end")

def compileRule (library : Regex.Library) (r : RuleDefinition) : Except Error BlockRule := do
  let closing ← r.closing.mapM fun closing => library.scanner [closing]
  return ⟨Text.words r.name, closing⟩

/-- The grammar of a definition. All rules are looked at before the first pattern is compiled, and
the opening patterns are compiled before the closing ones. -/
def compile (library : Regex.Library) (stateName : String) (d : GrammarDefinition) :
    Except Error BlockGrammar := do
  let opening ← library.scanner (← starts d.scopeName d.rules)
  let rules ← d.rules.mapM (compileRule library)
  return ⟨d.scopeName, opening, rules, stateName⟩

def ofJson (library : Regex.Library) (stateName : String) (j : Json) :
    Except Error BlockGrammar := do
  compile library stateName (← GrammarDefinition.shape.accept j)

structure Progress where
  position : Nat
  inside : Option Nat
  /-- The tokens so far, the last one first. -/
  tokens : List (Token (List String))
  deriving DecidableEq, Inhabited

def Progress.push (p : Progress) (scopes : List String) : Progress :=
  { p with tokens := ⟨p.position, scopes⟩ :: p.tokens }

def scopesOf (g : BlockGrammar) (rule : BlockRule) : List String :=
  g.scopeName :: rule.scopes

/-- The rest of the block of a rule, up to its closing pattern or the end of the line. -/
def stepInside (g : BlockGrammar) (line : String) (rule : BlockRule) (p : Progress) : Progress :=
  match (rule.closing.getD .empty).find line p.position with
  | some m => { p.push (g.scopesOf rule) with position := m.span.stop, inside := none }
  | none => { p.push (g.scopesOf rule) with position := line.utf8ByteSize }

/-- Adds the token of a match of a rule, after one for the text before it that no rule is for. -/
def apply (g : BlockGrammar) (rule : BlockRule) (m : Regex.Match) (p : Progress) : Progress :=
  let p := if p.position < m.span.start then p.push [g.scopeName] else p
  { ({ p with position := m.span.start }).push (g.scopesOf rule) with
    position := m.span.stop
    inside := if rule.closing.isSome then some m.index else none }

/-- The next match of a rule, or the rest of the line if there is none. A rule that matches nothing
would be found again and again, so it is an error. -/
def stepOutside (g : BlockGrammar) (line : String) (p : Progress) : Except Fault Progress :=
  match g.opening.find line p.position with
  | none => .ok { p.push [g.scopeName] with position := line.utf8ByteSize }
  | some m =>
    if m.span.start = m.span.stop then
      .error (.refused (.lineFailed s!"empty match for rule {m.index} at {m.span.start}"))
    else
      match g.rules[m.index]? with
      | none => .error (.broken m.index)
      | some rule => .ok (g.apply rule m p)

def step (g : BlockGrammar) (line : String) (p : Progress) : Except Fault Progress :=
  match p.inside with
  | none => g.stepOutside line p
  | some index =>
    match g.rules[index]? with
    | none => .error (.broken index)
    | some rule => .ok (g.stepInside line rule p)

/-- Steps until the end of the line; `fuel` bounds their number. -/
def run (g : BlockGrammar) (line : String) : (fuel : Nat) → Progress → Except Fault Progress
  | 0, p => .ok p
  | fuel + 1, p => do
    if line.utf8ByteSize ≤ p.position then return p
    g.run line fuel (← g.step line p)

def ending (before inside : Option Nat) : Ending :=
  match inside with
  | none => .initial
  | some index => if before = some index then .unchanged else .made (.block index)

/-- The tokens of a line. Every second step takes a byte at least, so two steps for each byte are
enough. -/
def tokenize (g : BlockGrammar) (line : String) (state : LineState) :
    Except Fault (Line (List String)) := do
  let before ← (state.remembered g.stateName Memory.block?).mapError .refused
  let p ← g.run line (2 * line.utf8ByteSize) ⟨0, before, []⟩
  return ⟨p.tokens.reverse, ending before p.inside⟩

def toGrammar (g : BlockGrammar) : Grammar := .ofScopes g.scopeName g.tokenize

end BlockGrammar

end TokenTheme
