import Mathlib
import TokenTheme.Proofs.Grammar.States
/-!
# Tokens partition their line

The tokens of a line start with the line, stand in order and end with it. They start in different
places unless a step stalls: then the token of a block that is closed where it starts is followed
by another one in the same place.
-/
namespace TokenTheme

/-- Tokens that start in the given places reach from `start` to `stop`; some may be empty. -/
structure Covers (start stop : Nat) (starts : List Nat) : Prop where
  first : starts.head? = if start < stop then some start else none
  ordered : starts.Pairwise (· ≤ ·)
  bounded : ∀ s ∈ starts, s < stop

def Partition (line : String) (starts : List Nat) : Prop :=
  Covers 0 line.utf8ByteSize starts ∧ starts.Pairwise (· < ·)

namespace Covers

variable {start stop : Nat} {starts : List Nat}

theorem nil (done : stop ≤ start) : Covers start stop [] :=
  ⟨by simp [Nat.not_lt.mpr done], .nil, by simp⟩

theorem start_le (covers : Covers start stop starts) : ∀ s ∈ starts, start ≤ s := by
  intro s member
  obtain ⟨first, ordered, -⟩ := covers
  cases starts with
  | nil => cases member
  | cons t rest =>
    rw [List.head?_cons] at first
    split at first
    · cases first
      rcases List.mem_cons.mp member with rfl | later
      · exact Nat.le_refl _
      · exact (List.pairwise_cons.mp ordered).1 s later
    · cases first

section Glue

variable {middle : Nat} {later : List Nat} (early : start < stop) (forward : start ≤ middle)
  (between : ∀ s ∈ later, start < s ∧ s < middle) (increasing : later.Pairwise (· < ·))
  (rest : Covers middle stop starts)
include early forward between increasing rest

/-- A first token and the ones behind it, in front of tokens that go on from there. -/
theorem glue (bounded : middle ≤ stop) : Covers start stop (start :: (later ++ starts)) := by
  refine ⟨by simp [early], ?_, ?_⟩
  · refine List.pairwise_cons.mpr ⟨?_, List.pairwise_append.mpr ⟨?_, rest.ordered, ?_⟩⟩
    · intro s member
      rcases List.mem_append.mp member with near | far
      · exact Nat.le_of_lt (between s near).1
      · exact Nat.le_trans forward (rest.start_le s far)
    · exact increasing.imp Nat.le_of_lt
    · intro s near t far
      exact Nat.le_trans (Nat.le_of_lt (between s near).2) (rest.start_le t far)
  · intro s member
    rcases List.mem_cons.mp member with rfl | member
    · exact early
    · rcases List.mem_append.mp member with near | far
      · exact Nat.lt_of_lt_of_le (between s near).2 bounded
      · exact rest.bounded s far

theorem pairwise_glue :
    (start :: (later ++ starts)).Pairwise (· < ·) ↔
      middle ≠ start ∧ starts.Pairwise (· < ·) := by
  rw [List.pairwise_cons, List.pairwise_append]
  constructor
  · rintro ⟨least, -, strict, -⟩
    refine ⟨?_, strict⟩
    rintro rfl
    have first := rest.first
    rw [if_pos early] at first
    have member := List.mem_append_right later (List.mem_of_mem_head? first)
    exact Nat.lt_irrefl _ (least _ member)
  · rintro ⟨moved, strict⟩
    refine ⟨?_, increasing, strict, ?_⟩
    · intro s member
      rcases List.mem_append.mp member with near | far
      · exact (between s near).1
      · have least := rest.start_le s far
        omega
    · intro s near t far
      exact Nat.lt_of_lt_of_le (between s near).2 (rest.start_le t far)

end Glue

end Covers

namespace BlockGrammar

variable {g : BlockGrammar} {line : String} {p q r : Progress}

theorem moves_unique (moves : g.Moves line p q) (moves' : g.Moves line p r) : q = r :=
  Except.ok.inj (moves.2.symm.trans moves'.2)

/-- The steps from a place on stall nowhere. -/
def Flows (g : BlockGrammar) (line : String) (p : Progress) : Prop :=
  ∀ q, Relation.ReflTransGen (g.Moves line) p q → ¬ g.Stalls line q

theorem flows_iff_of_moves (moves : g.Moves line p q) :
    g.Flows line p ↔ ¬ g.Stalls line p ∧ g.Flows line q := by
  constructor
  · intro flows
    exact ⟨flows p .refl, fun x passes => flows x (.head moves passes)⟩
  · rintro ⟨here, flows⟩ x passes
    rcases passes.cases_head with rfl | ⟨next, moves', passes⟩
    · exact here
    · exact flows x (moves_unique moves moves' ▸ passes)

theorem flows_of_atEnd (atEnd : line.utf8ByteSize ≤ p.position) : g.Flows line p := by
  intro q passes stalls
  rcases passes.cases_head with rfl | ⟨next, ⟨early, -⟩, -⟩
  · exact absurd stalls.1 (Nat.not_lt.mpr atEnd)
  · exact absurd early (Nat.not_lt.mpr atEnd)

/-- From any place on, the tokens reach to the end of the line, and start in different places if
and only if no step stalls. -/
theorem starts_of_passes (passes : Relation.ReflTransGen (g.Moves line) p r)
    (atEnd : line.utf8ByteSize ≤ r.position) :
    ∃ starts, r.starts = p.starts ++ starts ∧ Covers p.position line.utf8ByteSize starts ∧
      (starts.Pairwise (· < ·) ↔ g.Flows line p) := by
  -- From the front, since what a stall does shows only in the steps behind it.
  induction passes using Relation.ReflTransGen.head_induction_on with
  | refl =>
    refine ⟨[], by simp, .nil atEnd, ?_⟩
    exact iff_of_true .nil (flows_of_atEnd atEnd)
  | @head p q moves _ ih =>
    obtain ⟨starts, added, covers, strict⟩ := ih
    have advance := advance_of_moves moves
    obtain ⟨later, pushed, increasing, between⟩ := advance.starts
    refine ⟨p.position :: (later ++ starts), ?_, ?_, ?_⟩
    · rw [added, pushed, List.append_assoc, List.cons_append]
    · exact covers.glue moves.1 advance.forward between increasing advance.bounded
    · rw [covers.pairwise_glue moves.1 advance.forward between increasing,
        flows_iff_of_moves moves, strict, ne_eq, advance.stays]

theorem covers_tokenize {state : LineState} {l : Line (List String)}
    (ok : g.tokenize line state = .ok l) :
    Covers 0 line.utf8ByteSize l.starts ∧
      (Partition line l.starts ↔ g.Flows line (begin state)) := by
  obtain ⟨p, passes, atEnd, rfl⟩ := passes_of_tokenize ok
  obtain ⟨starts, added, covers, strict⟩ := starts_of_passes passes atEnd
  have same : Line.starts ⟨p.tokens.reverse, ending state.block? p.inside⟩ = starts := by
    rw [Line.starts, List.map_reverse]
    exact added
  rw [same]
  exact ⟨covers, (and_iff_right covers).trans strict⟩

/-- Nothing stalls in the lines of a text if every closing pattern takes something. -/
theorem Reachable.flows {state : LineState} (reached : g.Reachable state)
    (taking : ∀ rule ∈ g.rules, ∀ closing, rule.closing = some closing →
      ∀ text start m, closing.find text start = some m → start < m.span.stop) :
    g.Flows line (begin state) := by
  rintro q passes ⟨-, index, rule, m, inside, ruled, found, same⟩
  obtain ⟨rule', closing, ruled', closed⟩ :=
    closable_of_passes passes reached.closable index inside
  obtain rfl : rule = rule' := Option.some.inj (ruled.symm.trans ruled')
  rw [closed, Option.getD_some] at found
  have forward := taking rule (List.mem_of_getElem? ruled) closing closed _ _ m found
  omega

end BlockGrammar

end TokenTheme
