import Mathlib
import TokenTheme.Proofs.Grammar.States
/-!
# Patterns compiled anew

A line can be tokenized by the definition of a grammar alone, with every pattern compiled when it is
needed. Between the lines of a text this comes to the same as with the grammar that was compiled
once (`Reachable.tokenize_definition`): a pattern that was compiled before is compiled again to the
same scanner, and no block is open whose rule has no closing pattern.
-/
namespace TokenTheme

namespace GrammarDefinition

open BlockGrammar

variable (d : GrammarDefinition) (library : Regex.Library) (opening : Regex.Scanner) (line : String)

/-- The grammar as a step outside of blocks sees it: of closing patterns only that they are there. -/
def outline : BlockGrammar where
  scopeName := d.scopeName
  opening := opening
  rules := d.rules.map fun r => ⟨Text.words r.name, r.closing.map fun _ => .empty⟩
  stateName := ""

/-- One step, which compiles the closing pattern of an open block, or the empty one for a rule that
has none. -/
def step (p : Progress) : Except Fault Progress :=
  match p.inside with
  | none => (d.outline opening).stepOutside line p
  | some index =>
    match d.rules[index]? with
    | none => .error (.broken index)
    | some r => do
      let closing ← (library.scanner [r.closing.getD ""]).mapError .refused
      return (d.outline opening).stepInside line ⟨Text.words r.name, some closing⟩ p

def run : (fuel : Nat) → Progress → Except Fault Progress
  | 0, p => .ok p
  | fuel + 1, p => do
    if line.utf8ByteSize ≤ p.position then return p
    run fuel (← d.step library opening line p)

def tokenize (stateName : String) (state : LineState) : Except Fault (Line (List String)) := do
  let before ← (state.remembered stateName Memory.block?).mapError .refused
  let texts ← (starts d.scopeName d.rules).mapError .refused
  let opening ← (library.scanner texts).mapError .refused
  let p ← d.run library opening line (2 * line.utf8ByteSize) ⟨0, before, []⟩
  return ⟨p.tokens.reverse, ending before p.inside⟩

end GrammarDefinition

namespace BlockGrammar

variable {library : Regex.Library} {stateName : String} {d : GrammarDefinition} {g : BlockGrammar}
  {line : String} {state : LineState} {p : Progress}

theorem compileRule_ok {r : RuleDefinition} {rule : BlockRule}
    (ok : compileRule library r = .ok rule) :
    rule.scopes = Text.words r.name ∧
      (r.closing = none ∧ rule.closing = none ∨ ∃ text closing, r.closing = some text ∧
        rule.closing = some closing ∧ library.scanner [text] = .ok closing) := by
  obtain ⟨closing, compiled, ok⟩ := bind_ok ok
  cases ok
  refine ⟨rfl, ?_⟩
  cases closes : r.closing with
  | none =>
    rw [closes] at compiled
    cases compiled
    exact .inl ⟨rfl, rfl⟩
  | some text =>
    rw [closes] at compiled
    obtain ⟨scanner, made, rfl⟩ := map_ok compiled
    exact .inr ⟨text, scanner, rfl, rfl, made⟩

structure Holds (library : Regex.Library) (d : GrammarDefinition) (g : BlockGrammar) : Prop where
  scopeName : g.scopeName = d.scopeName
  opening : ∃ texts, starts d.scopeName d.rules = .ok texts ∧
    library.scanner texts = .ok g.opening
  rules : ∀ i : Nat, d.rules[i]? = none ∧ g.rules[i]? = none ∨
    ∃ r rule, d.rules[i]? = some r ∧ g.rules[i]? = some rule ∧ compileRule library r = .ok rule

theorem holds_of_compile (compiled : compile library stateName d = .ok g) :
    Holds library d g ∧ g.stateName = stateName := by
  obtain ⟨texts, start, compiled⟩ := bind_ok compiled
  obtain ⟨opening, opened, compiled⟩ := bind_ok compiled
  obtain ⟨rules, ruled, compiled⟩ := bind_ok compiled
  cases compiled
  exact ⟨⟨rfl, ⟨texts, start, opened⟩, getElem?_of_mapM_ok ruled⟩, rfl⟩

section Holds

variable (holds : Holds library d g)
include holds

theorem stepOutside_outline : (d.outline g.opening).stepOutside line p = g.stepOutside line p := by
  obtain ⟨scopeName, -, rules⟩ := holds
  unfold stepOutside
  rw [show (d.outline g.opening).opening = g.opening from rfl]
  cases g.opening.find line p.position with
  | none => simp only [GrammarDefinition.outline, scopeName]
  | some m =>
    simp only [GrammarDefinition.outline, List.getElem?_map]
    rcases rules m.index with ⟨absent, absent'⟩ | ⟨r, rule, defined, ruled, compiled⟩
    · simp only [absent, absent', Option.map_none]
    · obtain ⟨scopes, closing⟩ := compileRule_ok compiled
      have closes : r.closing.isSome = rule.closing.isSome := by
        rcases closing with ⟨open', open''⟩ | ⟨text, scanner, named, closed, -⟩
        · rw [open', open'']
          rfl
        · rw [named, closed]
          rfl
      simp only [defined, ruled, Option.map_some, apply, scopesOf, scopeName, scopes,
        Option.isSome_map, closes]

theorem step_definition (closable : g.Closable p.inside) :
    d.step library g.opening line p = g.step line p := by
  unfold GrammarDefinition.step step
  cases inside : p.inside with
  | none => exact stepOutside_outline holds
  | some index =>
    obtain ⟨rule, closing, ruled, closes⟩ := closable index inside
    rcases holds.rules index with ⟨-, absent⟩ | ⟨r, rule', defined, ruled', compiled⟩
    · cases ruled.symm.trans absent
    · cases ruled.symm.trans ruled'
      obtain ⟨scopes, ⟨-, open'⟩ | ⟨text, closing', named, closes', made⟩⟩ := compileRule_ok compiled
      · cases closes.symm.trans open'
      · cases closes.symm.trans closes'
        simp only [defined, ruled, named, Option.getD_some, made]
        show Except.ok _ = Except.ok _
        simp only [stepInside, scopesOf, scopes, closes, GrammarDefinition.outline,
          holds.scopeName, Option.getD_some]

theorem run_definition {fuel : Nat} (closable : g.Closable p.inside) :
    d.run library g.opening line fuel p = g.run line fuel p := by
  induction fuel generalizing p with
  | zero => rfl
  | succ fuel ih =>
    unfold GrammarDefinition.run run
    split
    · rfl
    · rename_i early
      rw [step_definition holds closable]
      cases moved : g.step line p with
      | error f => rfl
      | ok next =>
        have moves : g.Moves line p next := ⟨Nat.lt_of_not_le early, moved⟩
        exact ih (closable_of_passes (.single moves) closable)

end Holds

/-- Between the lines of a text it makes no difference that patterns are compiled once. -/
theorem Reachable.tokenize_definition (reached : g.Reachable state)
    (compiled : compile library stateName d = .ok g) :
    d.tokenize library line stateName state = g.tokenize line state := by
  obtain ⟨holds, rfl⟩ := holds_of_compile compiled
  obtain ⟨texts, start, opened⟩ := holds.opening
  unfold GrammarDefinition.tokenize tokenize
  rw [reached.remembered, start]
  show ((library.scanner texts).mapError _).bind _ = (g.run line _ ⟨0, state.block?, []⟩).bind _
  rw [opened]
  show (d.run library g.opening line _ ⟨0, state.block?, []⟩).bind _ = _
  rw [run_definition holds reached.closable]

end BlockGrammar

end TokenTheme
