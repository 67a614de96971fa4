import Mathlib
import TokenTheme.Grammar.Block
import TokenTheme.Proofs.Regex.Range
/-!
# The steps of a line

What one step of a grammar of patterns and blocks does to the tokens, the position and the open
block, and that the bound on the number of steps is never met. `Moves` is a step without the bound,
so that what holds of every step holds of every line by induction on its steps.
-/
namespace TokenTheme.BlockGrammar

/-- Every opening pattern is the one of a rule. -/
def Indexed (g : BlockGrammar) : Prop := g.opening.patterns.length = g.rules.length

theorem indexed_of_compile {library : Regex.Library} {stateName : String} {d : GrammarDefinition}
    {g : BlockGrammar} (compiled : compile library stateName d = .ok g) : g.Indexed := by
  obtain ⟨texts, start, compiled⟩ := bind_ok compiled
  obtain ⟨opening, opened, compiled⟩ := bind_ok compiled
  obtain ⟨rules, ruled, compiled⟩ := bind_ok compiled
  cases compiled
  exact (library.length_eq opened).trans
    ((length_of_mapM_ok start).trans (length_of_mapM_ok ruled).symm)

theorem indexed_of_ofJson {library : Regex.Library} {stateName : String} {j : Json}
    {g : BlockGrammar} (accepted : ofJson library stateName j = .ok g) : g.Indexed := by
  obtain ⟨d, -, compiled⟩ := bind_ok accepted
  exact indexed_of_compile compiled

def Progress.starts (p : Progress) : List Nat := (p.tokens.map (·.start)).reverse

theorem Progress.starts_push (p : Progress) (scopes : List String) :
    (p.push scopes).starts = p.starts ++ [p.position] := by
  simp [starts, push]

/-- Before the end of the line the closing pattern of the open block matches nothing, in the very
place where the token starts that it is to end. -/
def Stalls (g : BlockGrammar) (line : String) (p : Progress) : Prop :=
  p.position < line.utf8ByteSize ∧
    ∃ index rule m, p.inside = some index ∧ g.rules[index]? = some rule ∧
      (rule.closing.getD .empty).find line p.position = some m ∧ m.span.stop = p.position

def Moves (g : BlockGrammar) (line : String) (p q : Progress) : Prop :=
  p.position < line.utf8ByteSize ∧ g.step line p = .ok q

/-- What a step leads to: the place behind the rest of a block, the end of a line in which no rule
matches any more, or the place behind a match. -/
inductive Way (g : BlockGrammar) (line : String) (p : Progress) : Progress → Prop where
  | inside {index : Nat} {rule : BlockRule} : p.inside = some index →
      g.rules[index]? = some rule → g.Way line p (g.stepInside line rule p)
  | rest : p.inside = none → g.opening.find line p.position = none →
      g.Way line p { p.push [g.scopeName] with position := line.utf8ByteSize }
  | matched {m : Regex.Match} {rule : BlockRule} : p.inside = none →
      g.opening.find line p.position = some m → m.span.start ≠ m.span.stop →
      g.rules[m.index]? = some rule → g.Way line p (g.apply rule m p)

/-- How many steps are left at most. A step that stays where it is leaves its block, and the next
one then takes a byte at least. -/
def remaining (line : String) (p : Progress) : Nat :=
  2 * (line.utf8ByteSize - p.position) - (if p.inside.isNone then 1 else 0)

/-- What a step does. It adds a token in its place, and perhaps another one behind that; it goes
forward unless it stalls; a block that it opens has a rule that can close it. -/
structure Advance (g : BlockGrammar) (line : String) (p q : Progress) : Prop where
  kept : p.tokens <:+ q.tokens
  starts : ∃ later, q.starts = p.starts ++ p.position :: later ∧ later.Pairwise (· < ·) ∧
    ∀ s ∈ later, p.position < s ∧ s < q.position
  forward : p.position ≤ q.position
  bounded : q.position ≤ line.utf8ByteSize
  stays : q.position = p.position ↔ g.Stalls line p
  nearer : remaining line q < remaining line p
  opens : ∀ index, q.inside = some index →
    p.inside = some index ∨ ∃ rule, g.rules[index]? = some rule ∧ rule.closing.isSome

section Step

variable {g : BlockGrammar} {line : String} {p q : Progress}

theorem stalls_iff_of_inside {index : Nat} {rule : BlockRule}
    (early : p.position < line.utf8ByteSize) (inside : p.inside = some index)
    (ruled : g.rules[index]? = some rule) :
    g.Stalls line p ↔ ∃ m, (rule.closing.getD .empty).find line p.position = some m ∧
      m.span.stop = p.position := by
  constructor
  · rintro ⟨-, index', rule', m, inside', ruled', found, same⟩
    obtain rfl : index = index' := Option.some.inj (inside.symm.trans inside')
    obtain rfl : rule = rule' := Option.some.inj (ruled.symm.trans ruled')
    exact ⟨m, found, same⟩
  · rintro ⟨m, found, same⟩
    exact ⟨early, index, rule, m, inside, ruled, found, same⟩

theorem not_stalls_of_outside (outside : p.inside = none) : ¬ g.Stalls line p := by
  rintro ⟨-, index, rule, m, inside, -⟩
  cases outside.symm.trans inside

theorem advance_stepInside {index : Nat} {rule : BlockRule}
    (early : p.position < line.utf8ByteSize) (inside : p.inside = some index)
    (ruled : g.rules[index]? = some rule) : g.Advance line p (g.stepInside line rule p) := by
  have stalled := stalls_iff_of_inside early inside ruled
  unfold stepInside
  cases found : (rule.closing.getD .empty).find line p.position with
  | some m =>
    obtain ⟨-, later, range, bounded⟩ := Regex.Scanner.find_some found
    have forward : p.position ≤ m.span.stop := Nat.le_trans later range
    exact {
      kept := List.suffix_cons _ _
      starts := ⟨[], p.starts_push _, .nil, by simp⟩
      forward := forward
      bounded := bounded
      stays := by simp [stalled, found]
      nearer := by simp [remaining, inside]; omega
      opens := by simp }
  | none =>
    exact {
      kept := List.suffix_cons _ _
      starts := ⟨[], p.starts_push _, .nil, by simp⟩
      forward := Nat.le_of_lt early
      bounded := Nat.le_refl _
      stays := by simp [stalled, found, Nat.ne_of_gt early]
      nearer := by simp [remaining, inside]; omega
      opens := fun index same => .inl same }

theorem starts_apply (rule : BlockRule) (m : Regex.Match) (later : p.position ≤ m.span.start) :
    (g.apply rule m p).starts = p.starts ++ p.position ::
      if p.position < m.span.start then [m.span.start] else [] := by
  unfold apply
  split
  · simp [Progress.starts, Progress.push]
  · have here : m.span.start = p.position := by omega
    simp [Progress.starts, Progress.push, here]

theorem advance_apply {m : Regex.Match} {rule : BlockRule} (outside : p.inside = none)
    (found : g.opening.find line p.position = some m) (taken : m.span.start ≠ m.span.stop)
    (ruled : g.rules[m.index]? = some rule) : g.Advance line p (g.apply rule m p) := by
  obtain ⟨-, later, range, bounded⟩ := Regex.Scanner.find_some found
  have far : p.position < m.span.stop := by omega
  refine {
    kept := ?_
    starts := ⟨_, starts_apply rule m later, ?_, ?_⟩
    forward := Nat.le_of_lt far
    bounded := bounded
    stays := by simp [apply, not_stalls_of_outside outside, Nat.ne_of_gt far]
    nearer := ?_
    opens := ?_ }
  · unfold apply
    split
    · exact (List.suffix_cons _ _).trans (List.suffix_cons _ _)
    · exact List.suffix_cons _ _
  · split
    · exact List.pairwise_singleton _ _
    · exact .nil
  · intro s member
    split at member
    · rename_i gap
      obtain rfl := List.mem_singleton.mp member
      exact ⟨gap, by simp only [apply]; omega⟩
    · cases member
  · simp only [remaining, apply, outside]
    split <;> simp <;> omega
  · intro index same
    right
    simp only [apply] at same
    split at same
    · rename_i closable
      obtain rfl : m.index = index := Option.some.inj same
      exact ⟨rule, ruled, closable⟩
    · cases same

theorem advance_rest (early : p.position < line.utf8ByteSize) (outside : p.inside = none) :
    g.Advance line p { p.push [g.scopeName] with position := line.utf8ByteSize } where
  kept := List.suffix_cons _ _
  starts := ⟨[], p.starts_push _, .nil, by simp⟩
  forward := Nat.le_of_lt early
  bounded := Nat.le_refl _
  stays := by simp [not_stalls_of_outside outside, Nat.ne_of_gt early]
  nearer := by simp [remaining, Progress.push, outside]; omega
  opens := fun index same => .inl same

theorem way_of_moves (moves : g.Moves line p q) : g.Way line p q := by
  have moved := moves.2
  unfold step at moved
  split at moved
  · rename_i outside
    unfold stepOutside at moved
    split at moved
    · rename_i missed
      cases moved
      exact .rest outside missed
    · rename_i m found
      split at moved
      · cases moved
      · rename_i taken
        split at moved
        · cases moved
        · rename_i rule ruled
          cases moved
          exact .matched outside found taken ruled
  · rename_i index inside
    split at moved
    · cases moved
    · rename_i rule ruled
      cases moved
      exact .inside inside ruled

theorem advance_of_moves (moves : g.Moves line p q) : g.Advance line p q := by
  cases way_of_moves moves with
  | inside inside ruled => exact advance_stepInside moves.1 inside ruled
  | rest outside _ => exact advance_rest moves.1 outside
  | matched outside found taken ruled => exact advance_apply outside found taken ruled

def Known (g : BlockGrammar) (inside : Option Nat) : Prop :=
  ∀ index, inside = some index → index < g.rules.length

/-- Before the end of the line and outside of blocks the search finds a match of nothing. -/
structure Stumbles (g : BlockGrammar) (line : String) (p : Progress) (m : Regex.Match) : Prop where
  early : p.position < line.utf8ByteSize
  outside : p.inside = none
  found : g.opening.find line p.position = some m
  nothing : m.span.start = m.span.stop

def emptyMatch (m : Regex.Match) : Fault :=
  .refused (.lineFailed s!"empty match for rule {m.index} at {m.span.start}")

/-- A grammar never comes to a rule that it does not have; its steps fail for an empty match only. -/
theorem step_error_iff {f : Fault} (indexed : g.Indexed) (known : g.Known p.inside)
    (early : p.position < line.utf8ByteSize) :
    g.step line p = .error f ↔ ∃ m, g.Stumbles line p m ∧ f = emptyMatch m := by
  constructor
  · intro failed
    unfold step at failed
    cases inside : p.inside with
    | none =>
      simp only [inside, stepOutside] at failed
      split at failed
      · cases failed
      · rename_i m found
        split at failed
        · rename_i nothing
          cases failed
          exact ⟨m, ⟨early, inside, found, nothing⟩, rfl⟩
        · have bound : m.index < g.rules.length := indexed ▸ (Regex.Scanner.find_some found).1
          simp only [List.getElem?_eq_getElem bound] at failed
          cases failed
    | some index =>
      simp only [inside, List.getElem?_eq_getElem (known index inside)] at failed
      cases failed
  · rintro ⟨m, ⟨-, outside, found, nothing⟩, rfl⟩
    unfold step stepOutside
    simp only [outside, found, if_pos nothing]
    rfl

/-! ### Whole lines -/

theorem moves_of_run {fuel : Nat} (enough : remaining line p ≤ fuel)
    (ran : g.run line fuel p = .ok q) :
    Relation.ReflTransGen (g.Moves line) p q ∧ line.utf8ByteSize ≤ q.position := by
  induction fuel generalizing p with
  | zero =>
    -- No step is left, which can only be so at the end of the line.
    cases ran
    refine ⟨.refl, ?_⟩
    unfold remaining at enough
    split at enough <;> omega
  | succ fuel ih =>
    unfold run at ran
    split at ran
    · rename_i atEnd
      cases ran
      exact ⟨.refl, atEnd⟩
    · rename_i early
      obtain ⟨next, moved, ran⟩ := bind_ok ran
      have moves : g.Moves line p next := ⟨Nat.lt_of_not_le early, moved⟩
      have nearer := (advance_of_moves moves).nearer
      obtain ⟨onward, atEnd⟩ := ih (by omega) ran
      exact ⟨.head moves onward, atEnd⟩

theorem remaining_pos (early : p.position < line.utf8ByteSize) : 0 < remaining line p := by
  unfold remaining
  split <;> omega

theorem run_error_iff {fuel : Nat} {f : Fault} (enough : remaining line p ≤ fuel) :
    g.run line fuel p = .error f ↔
      ∃ last, Relation.ReflTransGen (g.Moves line) p last ∧
        last.position < line.utf8ByteSize ∧ g.step line last = .error f := by
  constructor
  · intro failed
    clear enough
    induction fuel generalizing p with
    | zero => cases failed
    | succ fuel ih =>
      unfold run at failed
      split at failed
      · cases failed
      · rename_i early
        rcases bind_error failed with now | ⟨next, moved, failed⟩
        · exact ⟨p, .refl, Nat.lt_of_not_le early, now⟩
        · obtain ⟨last, onward, failed⟩ := ih failed
          exact ⟨last, .head ⟨Nat.lt_of_not_le early, moved⟩ onward, failed⟩
  · rintro ⟨last, passes, early, failed⟩
    -- The steps are the same ones, and the bound is not met on the way.
    induction passes using Relation.ReflTransGen.head_induction_on generalizing fuel with
    | refl =>
      have left := remaining_pos early
      obtain ⟨fuel, rfl⟩ := Nat.exists_eq_succ_of_ne_zero (Nat.ne_of_gt (Nat.lt_of_lt_of_le left enough))
      unfold run
      rw [if_neg (Nat.not_le.mpr early), failed]
      rfl
    | @head p next moves _ ih =>
      have nearer := (advance_of_moves moves).nearer
      obtain ⟨fuel, rfl⟩ := Nat.exists_eq_succ_of_ne_zero
        (Nat.ne_of_gt (Nat.lt_of_lt_of_le (remaining_pos moves.1) enough))
      unfold run
      rw [if_neg (Nat.not_le.mpr moves.1), moves.2]
      exact ih (by omega)

theorem suffix_of_passes (passes : Relation.ReflTransGen (g.Moves line) p q) :
    p.tokens <:+ q.tokens := by
  induction passes with
  | refl => exact List.suffix_refl _
  | tail _ moves ih => exact ih.trans (advance_of_moves moves).kept

/-- A block that is open in the end was open from the start, or has a rule that can close it. -/
theorem opens_of_passes (passes : Relation.ReflTransGen (g.Moves line) p q) {index : Nat}
    (inside : q.inside = some index) :
    p.inside = some index ∨ ∃ rule, g.rules[index]? = some rule ∧ rule.closing.isSome := by
  induction passes with
  | refl => exact .inl inside
  | tail _ moves ih =>
    rcases (advance_of_moves moves).opens index inside with kept | opened
    · exact ih kept
    · exact .inr opened

theorem known_of_passes (passes : Relation.ReflTransGen (g.Moves line) p q)
    (known : g.Known p.inside) : g.Known q.inside := by
  intro index inside
  rcases opens_of_passes passes inside with kept | ⟨rule, ruled, -⟩
  · exact known index kept
  · exact (List.getElem?_eq_some_iff.mp ruled).1

end Step

end TokenTheme.BlockGrammar
