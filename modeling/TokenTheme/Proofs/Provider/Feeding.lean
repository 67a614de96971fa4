import Mathlib
import TokenTheme.Proofs.Grammar.Anew
import TokenTheme.Proofs.Provider.Lines
/-!
# States that are fed back

A host gives each line the state in which the line before it ended, whether that line was tokenized
or failed. From such a state a grammar never comes to a rule that it does not have, nor to a block
that it cannot close, and a line fails only where a rule matches nothing.
-/
namespace TokenTheme.Provider

open BlockGrammar

/-- The states that lines are given, one after the other. Options and theme may differ at each
line. -/
inductive Fed (g : BlockGrammar) : LineState → Prop where
  | initial : Fed g .initial
  | line {state : LineState} {l : EditorLine} (options : Options) (theme : Option Snapshot)
      (serial : Nat) (line : String) : Fed g state →
      (Provider.mk g.toGrammar options).tokenize theme serial line state = some l → Fed g l.state

variable {g : BlockGrammar} {state : LineState}

/-- A line that fails passes its state on, so nothing but lines with tokens makes states. -/
theorem reachable_of_fed (fed : Fed g state) : g.Reachable state := by
  induction fed with
  | initial => exact .initial
  | @line state l options theme serial line _ given ih =>
    obtain ⟨classify, same⟩ := tokenize_toGrammar g options theme serial line state
    rw [same] at given
    cases made : g.tokenize line state with
    | ok l' =>
      rw [made] at given
      cases given
      exact .line serial ih made
    | error f =>
      rw [made] at given
      cases f with
      | refused e =>
        cases given
        exact ih
      | broken index => cases given

/-- A state that is fed back is the initial one or holds a block that its rule can close, and so
does every moment of the line that it is given to. The line comes to the same if its patterns are
compiled anew, and it fails if and only if outside of blocks a match of nothing is found. -/
theorem fed_safe {library : Regex.Library} {stateName : String} {j : Json}
    (accepted : ofJson library stateName j = .ok g) (fed : Fed g state) :
    (state = .initial ∨ ∃ serial index rule closing, state = .made serial (.block index) ∧
      g.rules[index]? = some rule ∧ rule.closing = some closing) ∧
    ∃ d, GrammarDefinition.shape.accept j = .ok d ∧ ∀ line,
      (∀ p, Relation.ReflTransGen (g.Moves line) (begin state) p → g.Closable p.inside) ∧
      d.tokenize library line stateName state = g.tokenize line state ∧
      ∀ f, g.tokenize line state = .error f ↔
        ∃ p m, Relation.ReflTransGen (g.Moves line) (begin state) p ∧ g.Stumbles line p m ∧
          f = .refused (.lineFailed s!"empty match for rule {m.index} at {m.span.start}") := by
  have reached := reachable_of_fed fed
  constructor
  · rcases reached.cases with initial | ⟨serial, index, rule, same, ruled, closes⟩
    · exact .inl initial
    · obtain ⟨closing, closes⟩ := Option.isSome_iff_exists.mp closes
      exact .inr ⟨serial, index, rule, closing, same, ruled, closes⟩
  · obtain ⟨d, defined, compiled⟩ := bind_ok accepted
    refine ⟨d, defined, fun line => ⟨?_, ?_, ?_⟩⟩
    · intro p passes
      exact closable_of_passes passes reached.closable
    · exact reached.tokenize_definition compiled
    · intro f
      exact reached.tokenize_error_iff (indexed_of_ofJson accepted)

def starred : Json := Sample.grammar "s" [Sample.block "<" ">" "x", Sample.rule "y*" "y"]

theorem fed_safe_starred :
    ofJson .standard "block" starred = .ok (compiled starred) ∧
    Fed (compiled starred) (.made 0 (.block 0)) ∧
    (LineState.made 0 (.block 0) = .initial ∨
      ∃ serial index rule closing, LineState.made 0 (.block 0) = .made serial (.block index) ∧
        (compiled starred).rules[index]? = some rule ∧ rule.closing = some closing) ∧
    ∃ d, GrammarDefinition.shape.accept starred = .ok d ∧ ∀ line,
      (∀ p, Relation.ReflTransGen ((compiled starred).Moves line) (begin (.made 0 (.block 0))) p →
        (compiled starred).Closable p.inside) ∧
      d.tokenize .standard line "block" (.made 0 (.block 0)) =
        (compiled starred).tokenize line (.made 0 (.block 0)) ∧
      ∀ f, (compiled starred).tokenize line (.made 0 (.block 0)) = .error f ↔
        ∃ p m, Relation.ReflTransGen ((compiled starred).Moves line)
            (begin (.made 0 (.block 0))) p ∧ (compiled starred).Stumbles line p m ∧
          f = .refused (.lineFailed s!"empty match for rule {m.index} at {m.span.start}") := by
  have accepted : ofJson .standard "block" starred = .ok (compiled starred) :=
    eq_ok_getD (by decide +kernel)
  -- The line "z" fails in the initial state, which is passed on; the block is opened in "y<".
  have failing : (Provider.mk (compiled starred).toGrammar {}).tokenize none 0 "z" .initial =
      some ⟨[⟨0, ""⟩], .initial, some (.lineFailed "empty match for rule 1 at 0")⟩ := by
    decide +kernel
  have opening : (Provider.mk (compiled starred).toGrammar {}).tokenize none 0 "y<" .initial =
      some ⟨[⟨0, "y"⟩, ⟨1, "x"⟩], .made 0 (.block 0), none⟩ := by
    decide +kernel
  have fed : Fed (compiled starred) (.made 0 (.block 0)) :=
    .line {} none 0 "y<" (.line {} none 0 "z" .initial failing) opening
  exact ⟨accepted, fed, fed_safe accepted fed⟩

end TokenTheme.Provider
