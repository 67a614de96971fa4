import Mathlib
import TokenTheme.Proofs.Grammar.Closing
import TokenTheme.Proofs.Grammar.Refusals
/-!
# Rules that open blocks

A rule is given by a pattern of its own, or by an opening and a closing pattern. It opens blocks if
and only if it is given a closing pattern, which those of the second kind have; but one of the first
kind may be given a closing pattern too, and then each of its matches opens a block as well.
-/
namespace TokenTheme

namespace RuleDefinition

variable {r : RuleDefinition}

def IsPattern (r : RuleDefinition) : Prop := r.pattern.isSome ∧ r.opening = none

def IsBlock (r : RuleDefinition) : Prop :=
  r.pattern = none ∧ r.opening.isSome ∧ r.closing.isSome

theorem start?_ne_none_iff : r.start? ≠ none ↔ r.IsPattern ∨ r.IsBlock := by
  obtain ⟨pattern, opening, closing, name⟩ := r
  cases pattern <;> cases opening <;> cases closing <;> simp [start?, IsPattern, IsBlock]

theorem IsPattern.not_isBlock (isPattern : r.IsPattern) : ¬ r.IsBlock := by
  rintro ⟨none_, -⟩
  have some_ := isPattern.1
  rw [none_] at some_
  cases some_

theorem closing_iff_isBlock_iff (given : r.IsPattern ∨ r.IsBlock) :
    (r.closing.isSome ↔ r.IsBlock) ↔ ¬ (r.IsPattern ∧ r.closing.isSome) := by
  constructor
  · rintro alike ⟨isPattern, closes⟩
    exact isPattern.not_isBlock (alike.mp closes)
  · intro apart
    refine ⟨fun closes => ?_, fun isBlock => isBlock.2.2⟩
    exact given.resolve_left fun isPattern => apart ⟨isPattern, closes⟩

end RuleDefinition

namespace BlockGrammar

variable {library : Regex.Library} {stateName : String} {j : Json} {d : GrammarDefinition}
  {g : BlockGrammar} {line : String} {state : LineState} {index : Nat} {p q : Progress}

def Closes (d : GrammarDefinition) (index : Nat) : Prop :=
  ∃ r, d.rules[index]? = some r ∧ r.closing.isSome

/-- What is made of a rule: its scopes, and a closing pattern if and only if it is given one. -/
structure Makes (library : Regex.Library) (r : RuleDefinition) (rule : BlockRule) : Prop where
  given : r.IsPattern ∨ r.IsBlock
  scopes : rule.scopes = Text.words r.name
  closing : rule.closing.isSome ↔ r.closing.isSome
  scanner : ∀ text, r.closing = some text →
    ∃ closing, library.scanner [text] = .ok closing ∧ rule.closing = some closing

theorem makes_of_compileRule {r : RuleDefinition} {rule : BlockRule} (started : r.start? ≠ none)
    (compiled : compileRule library r = .ok rule) : Makes library r rule := by
  have given := RuleDefinition.start?_ne_none_iff.mp started
  obtain ⟨scopes, ⟨open_, open'⟩ | ⟨text, closing, closes, closes', made⟩⟩ := compileRule_ok compiled
  · exact ⟨given, scopes, by simp [open_, open'], by simp [open_]⟩
  · refine ⟨given, scopes, by simp [closes, closes'], ?_⟩
    intro text' same
    cases closes.symm.trans same
    exact ⟨closing, made, closes'⟩

theorem makes_of_compile (compiled : compile library stateName d = .ok g) :
    g.rules.length = d.rules.length ∧
      ∀ (i : Nat) (r : RuleDefinition), d.rules[i]? = some r →
        ∃ rule, g.rules[i]? = some rule ∧ Makes library r rule := by
  obtain ⟨texts, start, compiled⟩ := bind_ok compiled
  obtain ⟨opening, -, compiled⟩ := bind_ok compiled
  obtain ⟨rules, ruled, compiled⟩ := bind_ok compiled
  cases compiled
  refine ⟨length_of_mapM_ok ruled, ?_⟩
  intro i r defined
  rcases getElem?_of_mapM_ok ruled i with ⟨absent, -⟩ | ⟨r', rule, defined', made, compiled⟩
  · cases defined.symm.trans absent
  · cases defined.symm.trans defined'
    have started := (starts_ok start).2 r (List.mem_of_getElem? defined)
    exact ⟨rule, made, makes_of_compileRule started compiled⟩

theorem closing_isSome_iff (compiled : compile library stateName d = .ok g) :
    (∃ rule, g.rules[index]? = some rule ∧ rule.closing.isSome) ↔ Closes d index := by
  obtain ⟨length, makes⟩ := makes_of_compile compiled
  constructor
  · rintro ⟨rule, ruled, closes⟩
    have bound := (List.getElem?_eq_some_iff.mp ruled).1
    have defined := List.getElem?_eq_getElem (length ▸ bound : index < d.rules.length)
    obtain ⟨rule', ruled', made⟩ := makes index _ defined
    cases ruled.symm.trans ruled'
    exact ⟨_, defined, made.closing.mp closes⟩
  · rintro ⟨r, defined, closes⟩
    obtain ⟨rule, ruled, made⟩ := makes index r defined
    exact ⟨rule, ruled, made.closing.mpr closes⟩

/-! ### Steps -/

theorem inside_of_matched {m : Regex.Match} (moves : g.Moves line p q) (outside : p.inside = none)
    (found : g.opening.find line p.position = some m) :
    ∃ rule, g.rules[m.index]? = some rule ∧
      q.tokens.head? = some ⟨m.span.start, g.scopesOf rule⟩ ∧
      q.inside = if rule.closing.isSome then some m.index else none := by
  cases way_of_moves moves with
  | inside inside _ => cases outside.symm.trans inside
  | rest _ missed => cases found.symm.trans missed
  | @matched m' rule _ found' _ ruled =>
    cases found.symm.trans found'
    exact ⟨rule, ruled, rfl, rfl⟩

theorem tokens_of_inside (moves : g.Moves line p q) (inside : p.inside = some index) :
    ∃ rule, g.rules[index]? = some rule ∧
      q.tokens = ⟨p.position, g.scopesOf rule⟩ :: p.tokens := by
  cases way_of_moves moves with
  | @inside index' rule inside' ruled =>
    cases inside.symm.trans inside'
    refine ⟨rule, ruled, ?_⟩
    unfold stepInside
    split <;> rfl
  | rest outside _ => cases inside.symm.trans outside
  | matched outside _ _ _ => cases inside.symm.trans outside

structure Matched (g : BlockGrammar) (line : String) (state : LineState) (m : Regex.Match)
    (p q : Progress) : Prop where
  passes : Relation.ReflTransGen (g.Moves line) (begin state) p
  outside : p.inside = none
  found : g.opening.find line p.position = some m
  moves : g.Moves line p q

/-- What comes after a match of a rule that opens a block: the token of the block, or the end of the
line inside of it. -/
inductive Continues (g : BlockGrammar) (line : String) (index : Nat) (q : Progress) : Prop where
  | token {next : Progress} {rule : BlockRule} : g.Moves line q next →
      g.rules[index]? = some rule → q.inside = some index →
      next.tokens = ⟨q.position, g.scopesOf rule⟩ :: q.tokens → Continues g line index q
  | line : line.utf8ByteSize ≤ q.position → q.inside = some index → Continues g line index q

theorem Continues.inside (continues : g.Continues line index q) : q.inside = some index := by
  cases continues with
  | token _ _ inside _ => exact inside
  | line _ inside => exact inside

theorem continues_of_inside {rule : BlockRule} (ruled : g.rules[index]? = some rule)
    (inside : q.inside = some index) : g.Continues line index q := by
  rcases Nat.lt_or_ge q.position line.utf8ByteSize with early | atEnd
  · have moves : g.Moves line q (g.stepInside line rule q) :=
      ⟨early, by simp only [step, inside, ruled]⟩
    obtain ⟨rule', ruled', tokens⟩ := tokens_of_inside moves inside
    exact .token moves ruled' inside tokens
  · exact .line atEnd inside

theorem continues_iff (compiled : compile library stateName d = .ok g) {m : Regex.Match}
    (matched : g.Matched line state m p q) :
    g.Continues line m.index q ↔ Closes d m.index := by
  obtain ⟨rule, ruled, -, inside⟩ :=
    inside_of_matched matched.moves matched.outside matched.found
  rw [← closing_isSome_iff compiled]
  constructor
  · intro continues
    have opened := inside.symm.trans continues.inside
    split at opened
    · rename_i closes
      exact ⟨rule, ruled, closes⟩
    · cases opened
  · rintro ⟨rule', ruled', closes⟩
    cases ruled.symm.trans ruled'
    rw [if_pos closes] at inside
    exact continues_of_inside ruled inside

/-- At every moment of a text the open block is one of a rule that is given a closing pattern. -/
theorem closes_of_passes (compiled : compile library stateName d = .ok g)
    (reached : g.Reachable state)
    (passes : Relation.ReflTransGen (g.Moves line) (begin state) q)
    (inside : q.inside = some index) : Closes d index := by
  obtain ⟨rule, closing, ruled, closes⟩ := closable_of_passes passes reached.closable index inside
  rw [← closing_isSome_iff compiled]
  exact ⟨rule, ruled, by rw [closes]; rfl⟩

/-- How the rules of a grammar come from its definition, and which of them open blocks. -/
structure OpensByClosing (library : Regex.Library) (d : GrammarDefinition) (g : BlockGrammar) :
    Prop where
  length : g.rules.length = d.rules.length
  rules : ∀ (i : Nat) (r : RuleDefinition), d.rules[i]? = some r →
    ∃ rule, g.rules[i]? = some rule ∧ Makes library r rule
  /-- A closing pattern means that a rule is given as a block, unless a pattern is given one. -/
  blocks : ∀ (i : Nat) (r : RuleDefinition) (rule : BlockRule),
    d.rules[i]? = some r → g.rules[i]? = some rule →
      ((rule.closing.isSome ↔ r.IsBlock) ↔ ¬ (r.IsPattern ∧ r.closing.isSome))
  /-- In a text a match of a rule gives a token of the rule. It goes on as a block of the rule, or
  the line ends inside of it, if and only if the rule is given a closing pattern. -/
  continued : ∀ state line m p q, g.Reachable state → g.Matched line state m p q →
    (∃ rule, g.rules[m.index]? = some rule ∧
      q.tokens.head? = some ⟨m.span.start, g.scopesOf rule⟩) ∧
    (g.Continues line m.index q ↔ Closes d m.index)
  /-- Neither in the course of a line nor between two lines is the block of another rule open. -/
  inside : ∀ state line p i, g.Reachable state →
    Relation.ReflTransGen (g.Moves line) (begin state) p → p.inside = some i → Closes d i
  between : ∀ state i, g.Reachable state → state.block? = some i → Closes d i

/-- Of a definition that is accepted, the rules with a closing pattern are those that open blocks,
in whichever way they are given. -/
theorem opensByClosing_of_ofJson (accepted : ofJson library stateName j = .ok g) :
    ∃ d, GrammarDefinition.shape.accept j = .ok d ∧ OpensByClosing library d g := by
  obtain ⟨d, defined, compiled⟩ := bind_ok accepted
  obtain ⟨length, rules⟩ := makes_of_compile compiled
  refine ⟨d, defined, {
    length := length
    rules := rules
    blocks := ?_
    continued := ?_
    inside := fun state line p i reached passes => closes_of_passes compiled reached passes
    between := ?_ }⟩
  · intro i r rule defined ruled
    obtain ⟨rule', ruled', made⟩ := rules i r defined
    cases ruled.symm.trans ruled'
    rw [made.closing]
    exact RuleDefinition.closing_iff_isBlock_iff made.given
  · intro state line m p q _ matched
    obtain ⟨rule, ruled, token, -⟩ :=
      inside_of_matched matched.moves matched.outside matched.found
    exact ⟨⟨rule, ruled, token⟩, continues_iff compiled matched⟩
  · intro state i reached inside
    have here : Relation.ReflTransGen (g.Moves "") (begin state) (begin state) := .refl
    exact closes_of_passes compiled reached here inside

/-- A pattern that is given a closing pattern. -/
def closedPattern : Json :=
  Sample.grammar "s"
    [.object [("end", .string "b"), ("match", .string "a"), ("name", .string "x")]]

/-- The rule is a pattern and not a block, and a block is open behind its match all the same: the
rest of the line is taken for it, and so is the next line. -/
theorem opensByClosing_closedPattern :
    ∃ g d, ofJson .standard "block" closedPattern = .ok g ∧
      GrammarDefinition.shape.accept closedPattern = .ok d ∧
      OpensByClosing .standard d g ∧
      (∃ r, d.rules[0]? = some r ∧ r.IsPattern ∧ ¬ r.IsBlock ∧ r.closing.isSome) ∧
      g.tokenize "ac" .initial = .ok ⟨[⟨0, ["s", "x"]⟩, ⟨1, ["s", "x"]⟩], .made (.block 0)⟩ := by
  have accepted : ofJson .standard "block" closedPattern =
      .ok ((ofJson .standard "block" closedPattern).toOption.getD default) :=
    eq_ok_getD (by decide +kernel)
  obtain ⟨d, defined, opens⟩ := opensByClosing_of_ofJson accepted
  have read : GrammarDefinition.shape.accept closedPattern =
      .ok ⟨"s", [⟨some "a", none, some "b", "x"⟩]⟩ := by
    decide +kernel
  cases defined.symm.trans read
  have isPattern : RuleDefinition.IsPattern ⟨some "a", none, some "b", "x"⟩ := ⟨rfl, rfl⟩
  exact ⟨_, _, accepted, defined, opens, ⟨_, rfl, isPattern, isPattern.not_isBlock, rfl⟩,
    by decide +kernel⟩

end BlockGrammar

end TokenTheme
