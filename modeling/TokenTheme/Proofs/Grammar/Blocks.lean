import Mathlib
import TokenTheme.Proofs.Grammar.States
/-!
# Lines that begin in a block

A state that holds a block is taken for one of the own states of a grammar, whichever grammar made
it: only the number of the rule is in it.
-/
namespace TokenTheme.BlockGrammar

variable {g : BlockGrammar} {line : String}

/-- What a grammar may make of a line in a state that holds the block of a rule. Nothing but the
number of the rule tells whether the grammar breaks off, and nothing but an empty match is an
error. -/
inductive Resumes (g : BlockGrammar) (line : String) (index : Nat) :
    Except Fault (Line (List String)) → Prop where
  | blank : line = "" → g.Resumes line index (.ok ⟨[], .unchanged⟩)
  | missing : line ≠ "" → g.rules.length ≤ index → g.Resumes line index (.error (.broken index))
  | entered {rule : BlockRule} {l : Line (List String)} : line ≠ "" →
      g.rules[index]? = some rule → l.tokens.head? = some ⟨0, g.scopesOf rule⟩ →
      g.Resumes line index (.ok l)
  | failed {rule : BlockRule} {message : String} : line ≠ "" → g.rules[index]? = some rule →
      g.Resumes line index (.error (.refused (.lineFailed message)))

theorem tokenize_block_blank (serial index : Nat) :
    g.tokenize "" (.made serial (.block index)) = .ok ⟨[], .unchanged⟩ := by
  have same : ending (some index) (some index) = .unchanged := if_pos rfl
  rw [← same]
  rfl

theorem tokenize_block_missing (serial : Nat) {index : Nat} (long : 0 < line.utf8ByteSize)
    (absent : g.rules.length ≤ index) :
    g.tokenize line (.made serial (.block index)) = .error (.broken index) := by
  obtain ⟨fuel, allowed⟩ := Nat.exists_eq_add_of_lt (Nat.mul_pos Nat.two_pos long)
  have first : g.step line ⟨0, some index, []⟩ = .error (.broken index) := by
    simp only [step, List.getElem?_eq_none absent]
  have stopped : g.run line (2 * line.utf8ByteSize) ⟨0, some index, []⟩ =
      .error (.broken index) := by
    rw [allowed, Nat.zero_add]
    unfold run
    rw [if_neg (Nat.not_le.mpr long), first]
    rfl
  show (g.run line (2 * line.utf8ByteSize) ⟨0, some index, []⟩).bind _ = _
  rw [stopped]
  rfl

theorem head?_tokenize_block {serial index : Nat} {rule : BlockRule} {l : Line (List String)}
    (long : 0 < line.utf8ByteSize) (ruled : g.rules[index]? = some rule)
    (ok : g.tokenize line (.made serial (.block index)) = .ok l) :
    l.tokens.head? = some ⟨0, g.scopesOf rule⟩ := by
  obtain ⟨p, passes, atEnd, rfl⟩ := passes_of_tokenize ok
  rcases passes.cases_head with rfl | ⟨next, moves, passes⟩
  · exact absurd atEnd (Nat.not_le.mpr long)
  · have first : next = g.stepInside line rule ⟨0, some index, []⟩ := by
      have moved := moves.2
      unfold step at moved
      simp only [begin, LineState.block?, LineState.get?, Memory.block?, ruled] at moved
      exact (Except.ok.inj moved).symm
    have pushed : next.tokens = [⟨0, g.scopesOf rule⟩] := by
      rw [first]
      unfold stepInside
      split <;> rfl
    have kept := suffix_of_passes passes
    rw [pushed, ← List.reverse_prefix] at kept
    obtain ⟨rest, same⟩ := kept
    rw [← same]
    rfl

theorem resumes_tokenize (indexed : g.Indexed) (line : String) (serial index : Nat) :
    g.Resumes line index (g.tokenize line (.made serial (.block index))) := by
  by_cases blank : line = ""
  · subst blank
    rw [tokenize_block_blank]
    exact .blank rfl
  · have long : 0 < line.utf8ByteSize :=
      Nat.pos_of_ne_zero (mt String.utf8ByteSize_eq_zero_iff.mp blank)
    rcases Nat.lt_or_ge index g.rules.length with present | absent
    · have ruled := List.getElem?_eq_getElem present
      cases made : g.tokenize line (.made serial (.block index)) with
      | ok l => exact .entered blank ruled (head?_tokenize_block long ruled made)
      | error f =>
        have known : g.Known (LineState.made serial (.block index)).block? := by
          intro index' same
          obtain rfl : index = index' := Option.some.inj same
          exact present
        rcases tokenize_error indexed known made with
          ⟨-, serial', memory, same, foreign⟩ | ⟨p, m, -, -, rfl⟩
        · cases same
          cases foreign
        · exact .failed blank ruled
    · rw [tokenize_block_missing serial long absent]
      exact .missing blank absent

end TokenTheme.BlockGrammar
