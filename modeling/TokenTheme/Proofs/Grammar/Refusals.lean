import Mathlib
import TokenTheme.Proofs.Grammar.Anew
import TokenTheme.Provider.Source
/-!
# Definitions and lines that are refused

A definition is refused if and only if something is wrong with it (`Faulty`), and then its grammar
is said to be wrong. A grammar that was made refuses lines for other reasons than that, as all its
patterns are known to be right: it does so for a foreign state and for a line that fails.
-/
namespace TokenTheme

namespace BlockGrammar

variable {library : Regex.Library} {stateName : String} {j : Json} {d : GrammarDefinition}
  {g : BlockGrammar} {e : Error}

/-! ### Definitions -/

/-- What can be wrong with the definition of a grammar, with the error for it. -/
inductive Faulty (library : Regex.Library) (j : Json) : Error → Prop where
  | shape {e : Error} : GrammarDefinition.shape.accept j = .error e → Faulty library j e
  | rule {d : GrammarDefinition} {r : RuleDefinition} :
      GrammarDefinition.shape.accept j = .ok d → r ∈ d.rules → r.start? = none →
      Faulty library j
        (.invalidGrammar d.scopeName s!"rule {r.name} needs either match or begin/end")
  | opening {d : GrammarDefinition} {e : Error} : GrammarDefinition.shape.accept j = .ok d →
      library.scanner (d.rules.filterMap RuleDefinition.start?) = .error e → Faulty library j e
  | closing {d : GrammarDefinition} {r : RuleDefinition} {text : String} {e : Error} :
      GrammarDefinition.shape.accept j = .ok d → r ∈ d.rules → r.closing = some text →
      library.scanner [text] = .error e → Faulty library j e

theorem starts_ok {scopeName : String} {rules : List RuleDefinition} {texts : List String}
    (ok : starts scopeName rules = .ok texts) :
    texts = rules.filterMap RuleDefinition.start? ∧ ∀ r ∈ rules, r.start? ≠ none := by
  induction rules generalizing texts with
  | nil =>
    cases ok
    exact ⟨rfl, nofun⟩
  | cons r rest ih =>
    unfold starts at ok
    rw [List.mapM_cons] at ok
    obtain ⟨text, first, ok⟩ := bind_ok ok
    obtain ⟨others, each, ok⟩ := bind_ok ok
    cases ok
    obtain ⟨rfl, all⟩ := ih each
    cases start : r.start? with
    | none => simp [start] at first
    | some pattern =>
      simp only [start, Except.ok.injEq] at first
      refine ⟨by rw [List.filterMap_cons_some start, first], ?_⟩
      intro r' member
      rcases List.mem_cons.mp member with rfl | member
      · simp [start]
      · exact all r' member

theorem starts_error {scopeName : String} {rules : List RuleDefinition}
    (failed : starts scopeName rules = .error e) :
    ∃ r ∈ rules, r.start? = none ∧
      e = .invalidGrammar scopeName s!"rule {r.name} needs either match or begin/end" := by
  obtain ⟨r, member, failed⟩ := mem_of_mapM_error failed
  refine ⟨r, member, ?_⟩
  cases start : r.start? with
  | none =>
    simp only [start, Except.error.injEq] at failed
    exact ⟨rfl, failed.symm⟩
  | some pattern => simp [start] at failed

theorem compileRule_error {r : RuleDefinition} (failed : compileRule library r = .error e) :
    ∃ text, r.closing = some text ∧ library.scanner [text] = .error e := by
  rcases bind_error failed with refused | ⟨closing, -, done⟩
  · cases closes : r.closing with
    | none =>
      rw [closes] at refused
      cases refused
    | some text =>
      refine ⟨text, rfl, ?_⟩
      rw [closes] at refused
      cases made : library.scanner [text] with
      | error e' =>
        simp [Option.mapM, made] at refused
        rw [refused]
      | ok scanner => simp [Option.mapM, made] at refused
  · cases done

theorem faulty_of_ofJson (failed : ofJson library stateName j = .error e) :
    Faulty library j e := by
  -- In the order of the compiler: the shape, all rules, the opening patterns, the closing ones.
  rcases bind_error failed with mismatch | ⟨d, accepted, failed⟩
  · exact .shape mismatch
  rcases bind_error failed with missing | ⟨texts, start, failed⟩
  · obtain ⟨r, member, none_, rfl⟩ := starts_error missing
    exact .rule accepted member none_
  obtain ⟨rfl, -⟩ := starts_ok start
  rcases bind_error failed with unopened | ⟨opening, -, failed⟩
  · exact .opening accepted unopened
  rcases bind_error failed with unclosed | ⟨rules, -, done⟩
  · obtain ⟨r, member, refused⟩ := mem_of_mapM_error unclosed
    obtain ⟨text, closes, refused⟩ := compileRule_error refused
    exact .closing accepted member closes refused
  · cases done

theorem not_faulty_of_ofJson (made : ofJson library stateName j = .ok g) :
    ¬ Faulty library j e := by
  obtain ⟨d, accepted, compiled⟩ := bind_ok made
  obtain ⟨texts, start, compiled⟩ := bind_ok compiled
  obtain ⟨opening, opened, compiled⟩ := bind_ok compiled
  obtain ⟨rules, ruled, -⟩ := bind_ok compiled
  obtain ⟨rfl, all⟩ := starts_ok start
  intro faulty
  cases faulty with
  | shape mismatch => cases accepted.symm.trans mismatch
  | rule accepted' member missing =>
    cases accepted.symm.trans accepted'
    exact all _ member missing
  | opening accepted' refused =>
    cases accepted.symm.trans accepted'
    cases opened.symm.trans refused
  | closing accepted' member closes refused =>
    cases accepted.symm.trans accepted'
    obtain ⟨rule, compiled⟩ := ok_of_mapM_ok ruled member
    obtain ⟨-, ⟨open_, -⟩ | ⟨text, closing, closes', -, made⟩⟩ := compileRule_ok compiled
    · cases closes.symm.trans open_
    · cases closes.symm.trans closes'
      cases made.symm.trans refused

theorem ofDefinition_ok {d : Definition} {grammar : Grammar}
    (made : ofDefinition stateName library d = .ok grammar) :
    ∃ g, ofJson library stateName d.raw = .ok g ∧ grammar = g.toGrammar := by
  unfold ofDefinition at made
  split at made
  · rename_i g compiled
    cases made
    exact ⟨g, compiled, rfl⟩
  · cases made
  · cases made

theorem ofDefinition_error {d : Definition} (failed : ofDefinition stateName library d = .error e) :
    ∃ cause name reason, Faulty library d.raw cause ∧ e = .invalidGrammar name reason ∧
      (e = cause ∨ name = d.scopeName ∧ reason = cause.message) := by
  unfold ofDefinition at failed
  split at failed
  · cases failed
  · rename_i name reason refused
    cases failed
    exact ⟨_, name, reason, faulty_of_ofJson refused, rfl, .inl rfl⟩
  · rename_i cause _ refused
    cases failed
    exact ⟨cause, d.scopeName, cause.message, faulty_of_ofJson refused, rfl, .inr ⟨rfl, rfl⟩⟩

theorem ofDefinition_cases (stateName : String) (library : Regex.Library) (d : Definition) :
    (∃ grammar, ofDefinition stateName library d = .ok grammar ∧
        ∀ cause, ¬ Faulty library d.raw cause) ∨
      ∃ cause name reason, Faulty library d.raw cause ∧
        ofDefinition stateName library d = .error (.invalidGrammar name reason) := by
  cases made : ofDefinition stateName library d with
  | ok grammar =>
    obtain ⟨g, compiled, -⟩ := ofDefinition_ok made
    exact .inl ⟨grammar, rfl, fun cause => not_faulty_of_ofJson compiled⟩
  | error e =>
    obtain ⟨cause, name, reason, faulty, rfl, -⟩ := ofDefinition_error made
    exact .inr ⟨cause, name, reason, faulty, rfl⟩

theorem scanner_standard_error_iff {texts : List String} :
    (∃ e, Regex.Library.standard.scanner texts = .error e) ↔
      ∃ text ∈ texts, ∃ e, Regex.Pattern.ofText text = .error e := by
  constructor
  · rintro ⟨e, failed⟩
    obtain ⟨cause, failed, -⟩ := mapError_error failed
    cases each : texts.mapM Regex.Pattern.ofText with
    | ok patterns =>
      simp [Regex.Scanner.ofTexts, each] at failed
    | error fault =>
      obtain ⟨text, member, invalid⟩ := mem_of_mapM_error each
      exact ⟨text, member, fault, invalid⟩
  · rintro ⟨text, member, fault, invalid⟩
    cases made : Regex.Library.standard.scanner texts with
    | error e => exact ⟨e, rfl⟩
    | ok scanner =>
      obtain ⟨patterns, each, -⟩ := map_ok (mapError_ok made)
      obtain ⟨pattern, valid⟩ := ok_of_mapM_ok each member
      cases valid.symm.trans invalid

/-- With the standard library a definition of the right shape is wrong if and only if one of its
rules is: it has no pattern to start with, or one of its patterns is invalid. -/
theorem faulty_standard_iff (accepted : GrammarDefinition.shape.accept j = .ok d) :
    (∃ e, Faulty .standard j e) ↔
      ∃ r ∈ d.rules, r.start? = none ∨
        ∃ text, (r.start? = some text ∨ r.closing = some text) ∧
          ∃ e, Regex.Pattern.ofText text = .error e := by
  constructor
  · rintro ⟨e, faulty⟩
    cases faulty with
    | shape mismatch => cases accepted.symm.trans mismatch
    | rule accepted' member missing =>
      cases accepted.symm.trans accepted'
      exact ⟨_, member, .inl missing⟩
    | opening accepted' refused =>
      cases accepted.symm.trans accepted'
      obtain ⟨text, member, invalid⟩ := scanner_standard_error_iff.mp ⟨e, refused⟩
      obtain ⟨r, member, start⟩ := List.mem_filterMap.mp member
      exact ⟨r, member, .inr ⟨text, .inl start, invalid⟩⟩
    | closing accepted' member closes refused =>
      cases accepted.symm.trans accepted'
      obtain ⟨text, single, invalid⟩ := scanner_standard_error_iff.mp ⟨e, refused⟩
      obtain rfl := List.mem_singleton.mp single
      exact ⟨_, member, .inr ⟨_, .inr closes, invalid⟩⟩
  · rintro ⟨r, member, missing | ⟨text, start | closes, invalid⟩⟩
    · exact ⟨_, .rule accepted member missing⟩
    · have among := List.mem_filterMap.mpr ⟨r, member, start⟩
      obtain ⟨e, refused⟩ := scanner_standard_error_iff.mpr ⟨text, among, invalid⟩
      exact ⟨e, .opening accepted refused⟩
    · have single := List.mem_singleton_self text
      obtain ⟨e, refused⟩ := scanner_standard_error_iff.mpr ⟨text, single, invalid⟩
      exact ⟨e, .closing accepted member closes refused⟩

/-! ### Lines -/

variable {line : String} {state : LineState}

/-- The states that a grammar is to answer for: those between the lines of a text, and those that
hold something other than a block. -/
inductive Suited (g : BlockGrammar) : LineState → Prop where
  | reachable {state : LineState} : g.Reachable state → g.Suited state
  | foreign {serial : Nat} {memory : Memory} : memory.block? = none → g.Suited (.made serial memory)

theorem tokenize_definition_foreign {serial : Nat} {memory : Memory}
    (foreign : memory.block? = none) :
    d.tokenize library line stateName (.made serial memory) =
      .error (.refused (.foreignState ("expected a state of type " ++ stateName))) := by
  -- The state is looked at before any pattern is compiled.
  unfold GrammarDefinition.tokenize
  rw [LineState.remembered_foreign foreign]
  rfl

theorem Suited.tokenize_definition (suited : g.Suited state)
    (compiled : compile library stateName d = .ok g) :
    d.tokenize library line stateName state = g.tokenize line state := by
  cases suited with
  | reachable reached => exact reached.tokenize_definition compiled
  | foreign foreign =>
    obtain ⟨-, rfl⟩ := holds_of_compile compiled
    rw [tokenize_definition_foreign foreign, tokenize_foreign foreign]

/-- An error for a line is none of loading, as no pattern is refused any more. -/
theorem Suited.tokenize_error (suited : g.Suited state) (indexed : g.Indexed) {f : Fault}
    (failed : g.tokenize line state = .error f) :
    ∃ message, f = .refused (.foreignState message) ∨ f = .refused (.lineFailed message) := by
  cases suited with
  | reachable reached =>
    obtain ⟨message, rfl⟩ := reached.tokenize_error indexed failed
    exact ⟨message, .inr rfl⟩
  | foreign foreign =>
    rw [tokenize_foreign foreign] at failed
    cases failed
    exact ⟨_, .inl rfl⟩

end BlockGrammar

/-- The grammar that compiles the patterns of its definition anew for every line. -/
def GrammarDefinition.toGrammar (d : GrammarDefinition) (library : Regex.Library)
    (stateName : String) : Grammar :=
  .ofScopes d.scopeName fun line state => d.tokenize library line stateName state

end TokenTheme
