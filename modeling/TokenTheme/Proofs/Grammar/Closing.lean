import Mathlib
import TokenTheme.Proofs.Grammar.Partition
import TokenTheme.Proofs.Regex.Search
import TokenTheme.Sample
/-!
# Blocks that stay open

A line ends inside of a block if nothing that closes the block stands behind the place where the
line came into it last. It ends inside of it as well if that place is the end of the line, since the
closing pattern is not looked for there: a block that opens last in its line, or that goes on in an
empty line, stays open even if its closing pattern matches the end of a line.
-/
namespace TokenTheme.BlockGrammar

variable {g : BlockGrammar} {line : String} {state : LineState} {index offset : Nat}
  {p q r : Progress}

def closing? (g : BlockGrammar) (index : Nat) : Option Regex.Scanner :=
  g.rules[index]? >>= BlockRule.closing

/-- A line comes into the block of a rule at a byte: at its start if the block was open before, and
behind each match that opens the block. -/
inductive Enters (g : BlockGrammar) (line : String) (state : LineState) :
    (index offset : Nat) → Prop where
  | resumed {index : Nat} : state.block? = some index → g.Enters line state index 0
  | opened {p q : Progress} {m : Regex.Match} :
      Relation.ReflTransGen (g.Moves line) (begin state) p → p.inside = none →
      g.opening.find line p.position = some m → g.Moves line p q → q.inside = some m.index →
      g.Enters line state m.index m.span.stop

structure EntersLast (g : BlockGrammar) (line : String) (state : LineState) (index offset : Nat) :
    Prop where
  enters : g.Enters line state index offset
  last : ∀ index' offset', g.Enters line state index' offset' → offset' ≤ offset

/-! ### Steps in and out of blocks -/

theorem closing?_of_closable {inside : Option Nat} (closable : g.Closable inside)
    (same : inside = some index) : ∃ closing, g.closing? index = some closing := by
  obtain ⟨rule, closing, ruled, closes⟩ := closable index same
  exact ⟨closing, Option.bind_eq_some_iff.mpr ⟨rule, ruled, closes⟩⟩

theorem inside_of_moves {closing : Regex.Scanner} (moves : g.Moves line p q)
    (inside : p.inside = some index) (closes : g.closing? index = some closing) :
    closing.Matches line p.position ∧ q.inside = none ∨
      ¬ closing.Matches line p.position ∧ q.inside = some index ∧
        q.position = line.utf8ByteSize := by
  obtain ⟨rule, ruled, closed⟩ := Option.bind_eq_some_iff.mp closes
  cases way_of_moves moves with
  | inside inside' ruled' =>
    cases inside.symm.trans inside'
    cases ruled.symm.trans ruled'
    rw [← Regex.Scanner.find_isSome_iff]
    unfold stepInside
    rw [closed, Option.getD_some]
    cases closing.find line p.position with
    | some m => exact .inl ⟨rfl, rfl⟩
    | none => exact .inr ⟨by simp, inside, rfl⟩
  | rest outside _ => cases inside.symm.trans outside
  | matched outside _ _ _ => cases inside.symm.trans outside

theorem opening_of_moves (moves : g.Moves line p q) (outside : p.inside = none)
    (inside : q.inside = some index) :
    ∃ m, g.opening.find line p.position = some m ∧ m.index = index ∧ m.span.stop = q.position := by
  cases way_of_moves moves with
  | inside inside' _ => cases outside.symm.trans inside'
  | rest _ _ => cases outside.symm.trans inside
  | @matched m rule _ found _ _ =>
    refine ⟨m, found, ?_, rfl⟩
    simp only [apply] at inside
    split at inside
    · exact Option.some.inj inside
    · cases inside

theorem Enters.place (enters : g.Enters line state index offset) :
    ∃ q, Relation.ReflTransGen (g.Moves line) (begin state) q ∧ q.inside = some index ∧
      q.position = offset := by
  cases enters with
  | resumed inside => exact ⟨begin state, .refl, inside, rfl⟩
  | @opened p q m passes outside found moves inside =>
    obtain ⟨m', found', -, here⟩ := opening_of_moves moves outside inside
    cases found.symm.trans found'
    exact ⟨q, passes.tail moves, inside, here.symm⟩

/-! ### Whole lines -/

theorem position_le_of_passes (passes : Relation.ReflTransGen (g.Moves line) p q) :
    p.position ≤ q.position := by
  induction passes with
  | refl => exact Nat.le_refl _
  | tail _ moves ih => exact Nat.le_trans ih (advance_of_moves moves).forward

theorem position_bounded (passes : Relation.ReflTransGen (g.Moves line) (begin state) q) :
    q.position ≤ line.utf8ByteSize := by
  rcases passes.cases_tail with rfl | ⟨p, -, moves⟩
  · exact Nat.zero_le _
  · exact (advance_of_moves moves).bounded

theorem eq_of_passes_of_atEnd (atEnd : line.utf8ByteSize ≤ p.position)
    (passes : Relation.ReflTransGen (g.Moves line) p q) : p = q := by
  rcases passes.cases_head with same | ⟨next, ⟨early, -⟩, -⟩
  · exact same
  · exact absurd early (Nat.not_lt.mpr atEnd)

theorem passes_total (passes : Relation.ReflTransGen (g.Moves line) r p)
    (passes' : Relation.ReflTransGen (g.Moves line) r q) :
    Relation.ReflTransGen (g.Moves line) p q ∨ Relation.ReflTransGen (g.Moves line) q p :=
  Relation.ReflTransGen.total_of_right_unique (fun _ _ _ => moves_unique) passes passes'

theorem entered_of_passes (closable : g.Closable state.block?)
    (passes : Relation.ReflTransGen (g.Moves line) (begin state) q)
    (inside : q.inside = some index) :
    ∃ entry, Relation.ReflTransGen (g.Moves line) (begin state) entry ∧
      g.Enters line state index entry.position ∧
      (entry = q ∨ g.Moves line entry q ∧ entry.inside = some index ∧
        q.position = line.utf8ByteSize) := by
  induction passes generalizing index with
  | refl => exact ⟨begin state, .refl, .resumed inside, .inl rfl⟩
  | @tail p q passes moves ih =>
    cases came : p.inside with
    | none =>
      obtain ⟨m, found, rfl, here⟩ := opening_of_moves moves came inside
      exact ⟨q, passes.tail moves, here ▸ .opened passes came found moves inside, .inl rfl⟩
    | some index' =>
      obtain ⟨closing, closes⟩ := closing?_of_closable (closable_of_passes passes closable) came
      rcases inside_of_moves moves came closes with ⟨-, left⟩ | ⟨-, stayed, atEnd⟩
      · cases left.symm.trans inside
      · cases stayed.symm.trans inside
        obtain ⟨entry, before, enters, rfl | ⟨-, -, ended⟩⟩ := ih came
        · exact ⟨entry, before, enters, .inr ⟨moves, came, atEnd⟩⟩
        · exact absurd moves.1 (Nat.not_lt.mpr (Nat.le_of_eq ended.symm))

/-- Where a line comes into a block in which it goes on to its end, it comes into the last one. -/
theorem Enters.le_of_moves {index' : Nat} (enters : g.Enters line state index' offset)
    (passes : Relation.ReflTransGen (g.Moves line) (begin state) p) (moves : g.Moves line p r)
    (inside : p.inside = some index) (stayed : r.inside = some index)
    (atEnd : line.utf8ByteSize ≤ r.position) : offset ≤ p.position := by
  cases enters with
  | resumed _ => exact Nat.zero_le _
  | @opened x y m passes' outside found moves' entered =>
    -- A step outside of blocks is made before this place, as none is made behind it.
    rcases passes_total passes' passes with onward | back
    · rcases onward.cases_head with rfl | ⟨next, moves'', onward⟩
      · cases outside.symm.trans inside
      · cases moves_unique moves' moves''
        obtain ⟨m', found', -, here⟩ := opening_of_moves moves' outside entered
        cases found.symm.trans found'
        exact here ▸ position_le_of_passes onward
    · rcases back.cases_head with rfl | ⟨next, moves'', back⟩
      · cases outside.symm.trans inside
      · cases moves_unique moves moves''
        cases eq_of_passes_of_atEnd atEnd back
        cases outside.symm.trans stayed

/-- A line ends inside of the block of a rule if and only if it comes into that block last, and
either does so at its very end or nothing that closes the block matches from there on. -/
theorem stays_open_iff (reached : g.Reachable state) {l : Line (List String)}
    (ok : g.tokenize line state = .ok l) (serial index : Nat) :
    (l.ending.state state serial).block? = some index ↔
      ∃ offset closing, g.EntersLast line state index offset ∧
        g.closing? index = some closing ∧
        (offset = line.utf8ByteSize ∨ ¬ closing.Matches line offset) := by
  obtain ⟨p, passes, atEnd, rfl⟩ := passes_of_tokenize ok
  rw [block?_ending_state]
  constructor
  · intro inside
    have closable := closable_of_passes passes reached.closable
    obtain ⟨closing, closes⟩ := closing?_of_closable closable inside
    obtain ⟨entry, before, enters, rfl | ⟨moves, entered, -⟩⟩ :=
      entered_of_passes reached.closable passes inside
    · refine ⟨entry.position, closing, ⟨enters, fun _ _ other => ?_⟩, closes, .inl ?_⟩
      · obtain ⟨q, passes', -, rfl⟩ := other.place
        exact Nat.le_trans (position_bounded passes') atEnd
      · exact Nat.le_antisymm (position_bounded passes) atEnd
    · refine ⟨entry.position, closing, ⟨enters, fun _ _ other => ?_⟩, closes, .inr ?_⟩
      · exact other.le_of_moves before moves entered inside atEnd
      · rcases inside_of_moves moves entered closes with ⟨-, left⟩ | ⟨unmatched, -⟩
        · cases left.symm.trans inside
        · exact unmatched
  · rintro ⟨offset, closing, ⟨enters, -⟩, closes, stays⟩
    obtain ⟨q, passes', inside, rfl⟩ := enters.place
    rcases passes_total passes' passes with onward | back
    · rcases onward.cases_head with rfl | ⟨next, moves, onward⟩
      · exact inside
      · have unmatched := stays.resolve_left (Nat.ne_of_lt moves.1)
        rcases inside_of_moves moves inside closes with ⟨matched, -⟩ | ⟨-, stayed, ended⟩
        · exact absurd matched unmatched
        · cases eq_of_passes_of_atEnd (Nat.le_of_eq ended.symm) onward
          exact stayed
    · cases eq_of_passes_of_atEnd atEnd back
      exact inside

/-- A grammar for comments that reach to the end of their line. -/
def lineComments : BlockGrammar :=
  let definition := Sample.grammar "s" [Sample.block "//" "$" "comment.line"]
  (ofJson .standard "block" definition).toOption.getD default

/-- A comment with nothing in it stays open although the end of its line closes it. -/
theorem stays_open_iff_lineComments :
    ofJson .standard "block" (Sample.grammar "s" [Sample.block "//" "$" "comment.line"]) =
        .ok lineComments ∧
      lineComments.Reachable .initial ∧
      ∃ l closing, lineComments.tokenize "//" .initial = .ok l ∧
        (l.ending.state .initial 0).block? = some 0 ∧
        lineComments.EntersLast "//" .initial 0 "//".utf8ByteSize ∧
        lineComments.closing? 0 = some closing ∧ closing.Matches "//" "//".utf8ByteSize := by
  have tokenized : lineComments.tokenize "//" .initial =
      .ok ⟨[⟨0, ["s", "comment.line"]⟩], .made (.block 0)⟩ := by
    decide +kernel
  have found : ∀ start ≤ 2,
      ((lineComments.closing? 0).bind fun closing => closing.find "//" start).isSome := by
    decide +kernel
  have inside : LineState.block? (.made 0 (.block 0)) = some 0 := rfl
  obtain ⟨offset, closing, entered, closes, stays⟩ :=
    (stays_open_iff .initial tokenized 0 0).mp inside
  have matched (start : Nat) (early : start ≤ 2) : closing.Matches "//" start := by
    have somewhere := found start early
    rw [closes] at somewhere
    exact Regex.Scanner.find_isSome_iff.mp somewhere
  obtain ⟨q, passes, -, rfl⟩ := entered.enters.place
  have here := stays.resolve_right (not_not_intro (matched _ (position_bounded passes)))
  have accepted : ofJson .standard "block" (Sample.grammar "s" [Sample.block "//" "$" "comment.line"])
      = .ok lineComments := eq_ok_getD (a := default) (by decide +kernel)
  exact ⟨accepted, .initial, _, closing, tokenized, inside, here ▸ entered, closes,
    matched 2 (Nat.le_refl 2)⟩

/-- With something behind it that is in the comment, the end of the line closes it. -/
example : lineComments.tokenize "// x" .initial =
    .ok ⟨[⟨0, ["s", "comment.line"]⟩, ⟨2, ["s", "comment.line"]⟩], .initial⟩ := by
  decide +kernel

end TokenTheme.BlockGrammar
