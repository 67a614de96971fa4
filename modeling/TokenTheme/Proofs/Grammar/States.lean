import Mathlib
import TokenTheme.Proofs.Grammar.Steps
/-!
# States between lines

The states of a text in a grammar of patterns and blocks: every line begins in the state in which
the one before it ended. Such a state is the initial one or holds a block that can be closed.
-/
namespace TokenTheme

namespace LineState

def block? (s : LineState) : Option Nat := s.get? Memory.block?

variable {α : Type} {kind : String} {select : Memory → Option α} {s : LineState}

theorem remembered_ok {found : Option α} (ok : s.remembered kind select = .ok found) :
    found = s.get? select := by
  cases s with
  | initial => exact (Except.ok.inj ok).symm
  | made serial memory =>
    cases selected : select memory with
    | none => simp [remembered, selected] at ok
    | some a =>
      simp only [remembered, selected, Except.ok.injEq] at ok
      exact ok.symm.trans selected.symm

theorem remembered_foreign {serial : Nat} {memory : Memory} (foreign : select memory = none) :
    (made serial memory).remembered kind select =
      .error (.foreignState ("expected a state of type " ++ kind)) := by
  simp only [remembered, foreign]

theorem remembered_error {e : Error} (failed : s.remembered kind select = .error e) :
    e = .foreignState ("expected a state of type " ++ kind) ∧
      ∃ serial memory, s = .made serial memory ∧ select memory = none := by
  cases s with
  | initial => cases failed
  | made serial memory =>
    cases selected : select memory with
    | none =>
      simp only [remembered, selected, Except.error.injEq] at failed
      exact ⟨failed.symm, serial, memory, rfl, selected⟩
    | some a => simp [remembered, selected] at failed

end LineState

namespace BlockGrammar

variable {g : BlockGrammar} {line : String} {state : LineState}

def begin (state : LineState) : Progress := ⟨0, state.block?, []⟩

theorem enough_begin : remaining line (begin state) ≤ 2 * line.utf8ByteSize := by
  simp only [remaining, begin]
  omega

theorem block?_ending_state (inside : Option Nat) (serial : Nat) :
    ((ending state.block? inside).state state serial).block? = inside := by
  cases inside with
  | none => rfl
  | some index =>
    by_cases kept : state.block? = some index
    · have stays : ending state.block? (some index) = .unchanged := if_pos kept
      rw [stays]
      exact kept
    · have made : ending state.block? (some index) = .made (.block index) := if_neg kept
      rw [made]
      rfl

theorem passes_of_tokenize {l : Line (List String)} (ok : g.tokenize line state = .ok l) :
    ∃ p, Relation.ReflTransGen (g.Moves line) (begin state) p ∧
      line.utf8ByteSize ≤ p.position ∧ l = ⟨p.tokens.reverse, ending state.block? p.inside⟩ := by
  obtain ⟨before, read, ok⟩ := bind_ok ok
  obtain ⟨p, ran, ok⟩ := bind_ok ok
  cases ok
  obtain rfl := LineState.remembered_ok (mapError_ok read)
  obtain ⟨passes, atEnd⟩ := moves_of_run enough_begin ran
  exact ⟨p, passes, atEnd, rfl⟩

theorem tokenize_error {f : Fault} (indexed : g.Indexed) (known : g.Known state.block?)
    (failed : g.tokenize line state = .error f) :
    (f = .refused (.foreignState ("expected a state of type " ++ g.stateName)) ∧
        ∃ serial memory, state = .made serial memory ∧ memory.block? = none) ∨
      ∃ p m, Relation.ReflTransGen (g.Moves line) (begin state) p ∧ g.Stumbles line p m ∧
        f = emptyMatch m := by
  rcases bind_error failed with unread | ⟨before, read, failed⟩
  · obtain ⟨e, refused, rfl⟩ := mapError_error unread
    obtain ⟨rfl, foreign⟩ := LineState.remembered_error refused
    exact .inl ⟨rfl, foreign⟩
  · obtain rfl := LineState.remembered_ok (mapError_ok read)
    rcases bind_error failed with stopped | ⟨p, -, done⟩
    · obtain ⟨last, passes, early, failed⟩ := (run_error_iff enough_begin).mp stopped
      obtain ⟨m, stumbles, same⟩ :=
        (step_error_iff indexed (known_of_passes passes known) early).mp failed
      exact .inr ⟨last, m, passes, stumbles, same⟩
    · cases done

theorem step_ne_foreignState {p : Progress} {message : String} :
    g.step line p ≠ .error (.refused (.foreignState message)) := by
  intro failed
  unfold step at failed
  cases inside : p.inside with
  | none =>
    simp only [inside, stepOutside] at failed
    split at failed
    · cases failed
    · split at failed
      · cases failed
      · split at failed <;> cases failed
  | some index =>
    simp only [inside] at failed
    split at failed <;> cases failed

theorem tokenize_foreign {serial : Nat} {memory : Memory} (foreign : memory.block? = none) :
    g.tokenize line (.made serial memory) =
      .error (.refused (.foreignState ("expected a state of type " ++ g.stateName))) := by
  unfold tokenize
  rw [LineState.remembered_foreign foreign]
  rfl

/-- A state is refused if and only if it holds something other than a block. -/
theorem foreignState_iff :
    (∃ message, g.tokenize line state = .error (.refused (.foreignState message))) ↔
      ∃ serial memory, state = .made serial memory ∧ memory.block? = none := by
  constructor
  · rintro ⟨message, failed⟩
    rcases bind_error failed with unread | ⟨before, read, failed⟩
    · obtain ⟨e, refused, -⟩ := mapError_error unread
      exact (LineState.remembered_error refused).2
    · obtain rfl := LineState.remembered_ok (mapError_ok read)
      rcases bind_error failed with stopped | ⟨p, -, done⟩
      · obtain ⟨last, -, -, failed⟩ := (run_error_iff enough_begin).mp stopped
        exact absurd failed step_ne_foreignState
      · cases done
  · rintro ⟨serial, memory, rfl, foreign⟩
    exact ⟨_, tokenize_foreign foreign⟩

/-- The states between the lines of a text. -/
inductive Reachable (g : BlockGrammar) : LineState → Prop where
  | initial : g.Reachable .initial
  | line {state : LineState} {line : String} {l : Line (List String)} (serial : Nat) :
      g.Reachable state → g.tokenize line state = .ok l →
      g.Reachable (l.ending.state state serial)

theorem Reachable.cases (reached : g.Reachable state) :
    state = .initial ∨ ∃ serial index rule, state = .made serial (.block index) ∧
      g.rules[index]? = some rule ∧ rule.closing.isSome := by
  induction reached with
  | initial => exact .inl rfl
  | @line state line l serial _ ok ih =>
    obtain ⟨p, passes, -, rfl⟩ := passes_of_tokenize ok
    cases inside : p.inside with
    | none => exact .inl rfl
    | some index =>
      by_cases same : state.block? = some index
      · simp only [ending, same, if_true, Ending.state]
        exact ih
      · rcases opens_of_passes passes inside with kept | ⟨rule, opened⟩
        · exact absurd kept same
        · right
          simp only [ending, same, if_false, Ending.state]
          exact ⟨serial, index, rule, rfl, opened⟩

theorem Reachable.remembered (reached : g.Reachable state) (kind : String) :
    state.remembered kind Memory.block? = .ok state.block? := by
  rcases reached.cases with rfl | ⟨serial, index, rule, rfl, -⟩ <;> rfl

def Closable (g : BlockGrammar) (inside : Option Nat) : Prop :=
  ∀ index, inside = some index →
    ∃ rule closing, g.rules[index]? = some rule ∧ rule.closing = some closing

theorem Closable.known {inside : Option Nat} (closable : g.Closable inside) : g.Known inside := by
  intro index same
  obtain ⟨rule, -, ruled, -⟩ := closable index same
  exact (List.getElem?_eq_some_iff.mp ruled).1

theorem Reachable.closable (reached : g.Reachable state) : g.Closable state.block? := by
  intro index inside
  rcases reached.cases with rfl | ⟨serial, index', rule, rfl, ruled, closes⟩
  · cases inside
  · obtain rfl : index' = index := Option.some.inj inside
    obtain ⟨closing, closes⟩ := Option.isSome_iff_exists.mp closes
    exact ⟨rule, closing, ruled, closes⟩

theorem closable_of_passes {p q : Progress} (passes : Relation.ReflTransGen (g.Moves line) p q)
    (closable : g.Closable p.inside) : g.Closable q.inside := by
  intro index inside
  rcases opens_of_passes passes inside with kept | ⟨rule, ruled, closes⟩
  · exact closable index kept
  · obtain ⟨closing, closes⟩ := Option.isSome_iff_exists.mp closes
    exact ⟨rule, closing, ruled, closes⟩

/-- A line of a text gives tokens, or fails for an empty match that is found outside of blocks. -/
theorem Reachable.tokenize_error_iff (reached : g.Reachable state) (indexed : g.Indexed)
    {f : Fault} :
    g.tokenize line state = .error f ↔
      ∃ p m, Relation.ReflTransGen (g.Moves line) (begin state) p ∧ g.Stumbles line p m ∧
        f = emptyMatch m := by
  constructor
  · intro failed
    rcases tokenize_error indexed reached.closable.known failed with ⟨-, foreign⟩ | stumbled
    · obtain ⟨serial, memory, rfl, unblocked⟩ := foreign
      rcases reached.cases with same | ⟨serial, index, rule, same, -⟩
      · cases same
      · cases same
        cases unblocked
    · exact stumbled
  · rintro ⟨p, m, passes, stumbles, rfl⟩
    have known := known_of_passes passes reached.closable.known
    have failed := (step_error_iff indexed known stumbles.early).mpr ⟨m, stumbles, rfl⟩
    have stopped : g.run line (2 * line.utf8ByteSize) (begin state) = .error (emptyMatch m) :=
      (run_error_iff enough_begin).mpr ⟨p, passes, stumbles.early, failed⟩
    unfold tokenize
    rw [reached.remembered]
    show (g.run line (2 * line.utf8ByteSize) (begin state)).bind _ = _
    rw [stopped]
    rfl

theorem Reachable.tokenize_error (reached : g.Reachable state) (indexed : g.Indexed) {f : Fault}
    (failed : g.tokenize line state = .error f) : ∃ message, f = .refused (.lineFailed message) := by
  obtain ⟨p, m, -, -, rfl⟩ := (reached.tokenize_error_iff indexed).mp failed
  exact ⟨_, rfl⟩

end BlockGrammar

end TokenTheme
