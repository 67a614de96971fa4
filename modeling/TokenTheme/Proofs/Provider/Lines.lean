import Mathlib
import TokenTheme.Proofs.Grammar.Blocks
import TokenTheme.Proofs.Grammar.Partition
import TokenTheme.Provider.Basic
import TokenTheme.Sample
/-!
# Lines of a provider

A provider whose grammar leaves attributes to the theme gives every token of the grammar a class,
by its scopes alone, and makes a plain line of an error.
-/
namespace TokenTheme

def EditorLine.starts (l : EditorLine) : List Nat := l.tokens.map (·.start)

namespace Provider

open BlockGrammar

theorem tokenize_toGrammar (g : BlockGrammar) (options : Options) (theme : Option Snapshot)
    (serial : Nat) (line : String) (state : LineState) :
    ∃ classify : List String → String,
      (Provider.mk g.toGrammar options).tokenize theme serial line state =
        match g.tokenize line state with
        | .ok l => some ⟨(l.map classify).tokens, l.ending.state state serial, none⟩
        | .error (.refused e) => some ⟨plain line, state, some e⟩
        | .error (.broken _) => none := by
  cases mode : options.mode with
  | scopes =>
    refine ⟨(Provider.mk g.toGrammar options).classOf theme, ?_⟩
    simp only [tokenize, tokenize?, mode, toGrammar, Grammar.ofScopes]
    rcases g.tokenize line state with (e | index) | l <;> rfl
  | encoded =>
    let s := theme.getD default
    refine ⟨fun scopes => s.classOf (s.encodeScopes scopes options.language), ?_⟩
    simp only [tokenize, tokenize?, mode, encode, toGrammar, Grammar.ofScopes]
    rcases g.tokenize line state with (e | index) | l
    · rfl
    · rfl
    · simp [Except.map, Line.map, Token.map, s]

theorem partition_plain (line : String) : Partition line ((plain line).map (·.start)) := by
  by_cases blank : line = ""
  · subst blank
    exact ⟨.nil (Nat.le_refl _), .nil⟩
  · have long : 0 < line.utf8ByteSize :=
      Nat.pos_of_ne_zero (mt String.utf8ByteSize_eq_zero_iff.mp blank)
    refine ⟨⟨?_, ?_, ?_⟩, ?_⟩ <;> simp [plain, blank, long]

/-- The tokens of a line cover it, with or without a theme and in both modes. They partition it if
and only if the grammar fails, and the line is plain, or no step stalls: a block must not be closed
by an empty match in the very place where its token starts. -/
theorem partition_tokenize {library : Regex.Library} {stateName : String} {j : Json}
    {g : BlockGrammar} (accepted : ofJson library stateName j = .ok g) {state : LineState}
    (reached : g.Reachable state) (options : Options) (theme : Option Snapshot) (serial : Nat)
    (line : String) :
    ∃ l, (Provider.mk g.toGrammar options).tokenize theme serial line state = some l ∧
      Covers 0 line.utf8ByteSize l.starts ∧
      (Partition line l.starts ↔ l.failure.isSome ∨ g.Flows line (begin state)) := by
  obtain ⟨classify, same⟩ := tokenize_toGrammar g options theme serial line state
  rw [same]
  cases made : g.tokenize line state with
  | ok l =>
    obtain ⟨covers, strict⟩ := covers_tokenize made
    rw [← l.starts_map classify] at covers strict
    exact ⟨_, rfl, covers, strict.trans (by simp)⟩
  | error f =>
    obtain ⟨message, rfl⟩ := reached.tokenize_error (indexed_of_ofJson accepted) made
    have plain := partition_plain line
    exact ⟨_, rfl, plain.1, iff_of_true plain (.inl rfl)⟩

def compiled (j : Json) : BlockGrammar := (ofJson .standard "block" j).toOption.getD default

/-- A block that is closed in front of a letter that it does not take. -/
def lookahead : Json := Sample.grammar "s" [Sample.block "a" "(?=b)" "x"]

theorem partition_tokenize_lookahead :
    ofJson .standard "block" lookahead = .ok (compiled lookahead) ∧
      (compiled lookahead).Reachable .initial ∧
      ∃ l, (Provider.mk (compiled lookahead).toGrammar {}).tokenize none 0 "ab" .initial = some l ∧
        Covers 0 "ab".utf8ByteSize l.starts ∧
        (Partition "ab" l.starts ↔
          l.failure.isSome ∨ (compiled lookahead).Flows "ab" (begin .initial)) := by
  have accepted : ofJson .standard "block" lookahead = .ok (compiled lookahead) :=
    eq_ok_getD (by decide +kernel)
  exact ⟨accepted, .initial, partition_tokenize accepted .initial {} none 0 "ab"⟩

/-- The block is closed where its token starts, so two tokens start there. -/
example : ((Provider.mk (compiled lookahead).toGrammar {}).tokenize none 0 "ab" .initial).map
    (·.starts) = some [0, 1, 1] := by
  decide +kernel

/-- No grammar refuses a state that another one has made. It goes on inside its own rule of that
number, closable or not, and breaks off if there is none; refused are the states alone that hold
something other than a block. -/
theorem tokenize_foreign_block {g h : BlockGrammar} {library : Regex.Library} {stateName : String}
    {j : Json} (accepted : ofJson library stateName j = .ok h) {state : LineState}
    (reached : g.Reachable state) (later : state ≠ .initial) (options : Options)
    (theme : Option Snapshot) (serial : Nat) (line : String) :
    (∀ other, (∃ message, h.tokenize line other = .error (.refused (.foreignState message))) ↔
        ∃ serial' memory, other = .made serial' memory ∧ memory.block? = none) ∧
      ∃ made index, state = .made made (.block index) ∧
        h.Resumes line index (h.tokenize line state) ∧
        ((Provider.mk h.toGrammar options).tokenize theme serial line state = none ↔
          line ≠ "" ∧ h.rules.length ≤ index) := by
  refine ⟨fun other => foreignState_iff, ?_⟩
  rcases reached.cases with initial | ⟨made, index, -, rfl, -⟩
  · exact absurd initial later
  have resumes := resumes_tokenize (indexed_of_ofJson accepted) line made index
  refine ⟨made, index, rfl, resumes, ?_⟩
  obtain ⟨classify, same⟩ :=
    tokenize_toGrammar h options theme serial line (.made made (.block index))
  rw [same]
  generalize h.tokenize line (.made made (.block index)) = outcome at resumes
  cases resumes with
  | blank blank => simp [blank]
  | missing long absent => simp [long, absent]
  | entered long ruled =>
    have present := (List.getElem?_eq_some_iff.mp ruled).1
    simp [present]
  | failed long ruled =>
    have present := (List.getElem?_eq_some_iff.mp ruled).1
    simp [present]

/-- A comment of a script goes on as a string of data, which nothing can close. -/
theorem tokenize_foreign_block_comment :
    ofJson .standard "block" Sample.dataGrammar = .ok (compiled Sample.dataGrammar) ∧
      (compiled Sample.scriptGrammar).Reachable (.made 0 (.block 0)) ∧
      LineState.made 0 (.block 0) ≠ .initial ∧
      (∀ other, (∃ message, (compiled Sample.dataGrammar).tokenize "x" other =
          .error (.refused (.foreignState message))) ↔
        ∃ serial memory, other = .made serial memory ∧ memory.block? = none) ∧
      ∃ made index, LineState.made 0 (.block 0) = .made made (.block index) ∧
        (compiled Sample.dataGrammar).Resumes "x" index
          ((compiled Sample.dataGrammar).tokenize "x" (.made 0 (.block 0))) ∧
        ((Provider.mk (compiled Sample.dataGrammar).toGrammar {}).tokenize none 0 "x"
            (.made 0 (.block 0)) = none ↔
          "x" ≠ "" ∧ (compiled Sample.dataGrammar).rules.length ≤ index) := by
  have accepted : ofJson .standard "block" Sample.dataGrammar =
      .ok (compiled Sample.dataGrammar) :=
    eq_ok_getD (by decide +kernel)
  have comment : (compiled Sample.scriptGrammar).tokenize "/*" .initial =
      .ok ⟨[⟨0, ["source.ts", "comment.block.ts"]⟩], .made (.block 0)⟩ := by
    decide +kernel
  have reached : (compiled Sample.scriptGrammar).Reachable (.made 0 (.block 0)) :=
    .line 0 .initial comment
  exact ⟨accepted, reached, nofun,
    tokenize_foreign_block accepted reached nofun {} none 0 "x"⟩

end Provider

end TokenTheme
