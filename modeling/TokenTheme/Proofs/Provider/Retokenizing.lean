import Mathlib
import TokenTheme.Proofs.Provider.Styling
/-!
# Where retokenizing may stop

After an edit a host tokenizes the lines again until a line ends in the very state that it had
ended in before. A line ends in the state that it began in exactly if the same block is open, and
what follows depends on the open block alone, so the lines behind that one need not be looked at.
-/
namespace TokenTheme

namespace LineState

/-- The number under which a state was made. It tells states that exist together apart. -/
def serial? : LineState → Option Nat
  | initial => none
  | made serial _ => some serial

theorem serial?_eq_none {s : LineState} (none : s.serial? = none) : s = .initial := by
  cases s with
  | initial => rfl
  | made serial memory => cases none

end LineState

/-- What an editor shows of a line: its tokens, and why it failed if it did. -/
def EditorLine.shown (l : EditorLine) : List (Token String) × Option Error := (l.tokens, l.failure)

namespace BlockGrammar

variable {g : BlockGrammar} {line : String} {state state' : LineState}

/-! ### The state after a line -/

theorem serial?_ending_state (reached : g.Reachable state) (inside : Option Nat) {serial : Nat}
    (fresh : state.serial? ≠ some serial) :
    ((ending state.block? inside).state state serial).serial? = state.serial? ↔
      inside = state.block? := by
  cases inside with
  | none =>
    have initial : ((ending state.block? none).state state serial) = .initial := rfl
    rw [initial]
    rcases reached.cases with rfl | ⟨made, index, -, rfl, -⟩
    · exact iff_of_true rfl rfl
    · exact iff_of_false nofun nofun
  | some index =>
    by_cases kept : state.block? = some index
    · have stays : ending state.block? (some index) = .unchanged := if_pos kept
      rw [stays]
      exact iff_of_true rfl kept.symm
    · have made : ending state.block? (some index) = .made (.block index) := if_neg kept
      rw [made]
      exact iff_of_false (Ne.symm fresh) (Ne.symm kept)

/-- Between lines the open block is all that a state remembers. -/
theorem Reachable.memory?_eq (reached : g.Reachable state) :
    state.memory? = state.block?.map .block := by
  rcases reached.cases with rfl | ⟨serial, index, -, rfl, -⟩ <;> rfl

/-! ### Lines one after the other -/

def follow (g : BlockGrammar) (serial : Nat) (line : String) (state : LineState) : LineState :=
  match g.tokenize line state with
  | .ok l => l.ending.state state serial
  | .error _ => state

def after (g : BlockGrammar) (serial : Nat) (state : LineState) : List String → LineState
  | [] => state
  | line :: rest => g.after (serial + 1) (g.follow serial line state) rest

def trace (g : BlockGrammar) (serial : Nat) (state : LineState) :
    List String → List (Except Fault (List (Token (List String))) × LineState)
  | [] => []
  | line :: rest =>
    ((g.tokenize line state).map (·.tokens), g.follow serial line state) ::
      g.trace (serial + 1) (g.follow serial line state) rest

/-- Whatever lines come next, they come out the same in both states: with the same tokens and the
same blocks open, and with the same classes for an editor. -/
structure Interchangeable (g : BlockGrammar) (s s' : LineState) : Prop where
  scopes : ∀ serial serial' lines,
    (g.trace serial s lines).map (fun e => (e.1, e.2.block?)) =
      (g.trace serial' s' lines).map fun e => (e.1, e.2.block?)
  classes : ∀ options theme serial serial' lines,
    ((Provider.mk g.toGrammar options).tokenizeFrom theme serial s lines).map
        (·.map EditorLine.shown) =
      ((Provider.mk g.toGrammar options).tokenizeFrom theme serial' s' lines).map
        (·.map EditorLine.shown)

section Congruence

variable (same : state.memory? = state'.memory?)
include same

theorem block?_congr : state.block? = state'.block? := by
  cases state with
  | initial =>
    cases state' with
    | initial => rfl
    | made serial memory => cases same
  | made serial memory =>
    cases state' with
    | initial => cases same
    | made serial' memory' =>
      cases same
      rfl

theorem memory?_follow (serial serial' : Nat) (line : String) :
    (g.follow serial line state).memory? = (g.follow serial' line state').memory? := by
  unfold follow
  rw [← g.tokenize_congr same]
  split
  · exact LineState.memory?_ending same _ serial serial'
  · exact same

theorem trace_congr (serial serial' : Nat) (lines : List String) :
    (g.trace serial state lines).map (fun e => (e.1, e.2.block?)) =
      (g.trace serial' state' lines).map fun e => (e.1, e.2.block?) := by
  induction lines generalizing state state' serial serial' with
  | nil => rfl
  | cons line rest ih =>
    have next := memory?_follow (g := g) same serial serial' line
    have block := block?_congr next
    unfold trace
    rw [List.map_cons, List.map_cons, ih next, g.tokenize_congr same, block]

theorem tokenize?_congr (options : Options) (theme : Option Snapshot) (line : String) :
    let p : Provider := ⟨g.toGrammar, options⟩
    p.tokenize? theme line state = p.tokenize? theme line state' := by
  have tokens := g.tokenize_congr same line
  unfold Provider.tokenize? Provider.encode
  simp only [toGrammar, Grammar.ofScopes, tokens]

theorem tokenize_congr_shown (options : Options) (theme : Option Snapshot)
    (serial serial' : Nat) (line : String) :
    let p : Provider := ⟨g.toGrammar, options⟩
    (p.tokenize theme serial line state = none ∧ p.tokenize theme serial' line state' = none) ∨
      ∃ l l', p.tokenize theme serial line state = some l ∧
        p.tokenize theme serial' line state' = some l' ∧ l.shown = l'.shown ∧
        l.state.memory? = l'.state.memory? := by
  intro p
  have given : p.tokenize? theme line state = p.tokenize? theme line state' :=
    tokenize?_congr same options theme line
  unfold Provider.tokenize
  rw [← given]
  rcases p.tokenize? theme line state with (e | index) | l
  · exact .inr ⟨_, _, rfl, rfl, rfl, same⟩
  · exact .inl ⟨rfl, rfl⟩
  · exact .inr ⟨_, _, rfl, rfl, rfl, LineState.memory?_ending same l.ending serial serial'⟩

theorem tokenizeFrom_congr_shown (options : Options) (theme : Option Snapshot)
    (serial serial' : Nat) (lines : List String) :
    let p : Provider := ⟨g.toGrammar, options⟩
    (p.tokenizeFrom theme serial state lines).map (·.map EditorLine.shown) =
      (p.tokenizeFrom theme serial' state' lines).map (·.map EditorLine.shown) := by
  intro p
  induction lines generalizing state state' serial serial' with
  | nil => rfl
  | cons line rest ih =>
    unfold Provider.tokenizeFrom
    rcases tokenize_congr_shown same options theme serial serial' line with
      ⟨broken, broken'⟩ | ⟨l, l', given, given', shown, next⟩
    · rw [broken, broken']
      rfl
    · have later := ih next (serial + 1) (serial' + 1)
      have front (l : EditorLine) (ls : Option (List EditorLine)) :
          (ls.bind fun ls => some (l :: ls)).map (·.map EditorLine.shown) =
            (ls.map (·.map EditorLine.shown)).map (l.shown :: ·) := by
        cases ls <;> rfl
      rw [given, given']
      refine (front l _).trans (Eq.trans ?_ (front l' _).symm)
      rw [shown, later]

theorem interchangeable_of_memory? : g.Interchangeable state state' :=
  ⟨trace_congr same, fun options theme => tokenizeFrom_congr_shown same options theme⟩

end Congruence

/-! ### Edits -/

theorem after_cases (serial : Nat) (state : LineState) (lines : List String) :
    g.after serial state lines = state ∨ g.after serial state lines = .initial ∨
      ∃ made memory, g.after serial state lines = .made made memory ∧ serial ≤ made ∧
        made < serial + lines.length := by
  induction lines generalizing serial state with
  | nil => exact .inl rfl
  | cons line rest ih =>
    have first : g.follow serial line state = state ∨ g.follow serial line state = .initial ∨
        ∃ memory, g.follow serial line state = .made serial memory := by
      unfold follow
      split
      · rename_i l _
        cases l.ending with
        | initial => exact .inr (.inl rfl)
        | unchanged => exact .inl rfl
        | made memory => exact .inr (.inr ⟨memory, rfl⟩)
      · exact .inl rfl
    rcases ih (serial + 1) (g.follow serial line state) with kept | initial | ⟨made, memory, same, low, high⟩
    · rcases first with stays | initial | ⟨memory, new⟩
      · exact .inl (kept.trans stays)
      · exact .inr (.inl (kept.trans initial))
      · exact .inr (.inr ⟨serial, memory, kept.trans new, Nat.le_refl _, by simp⟩)
    · exact .inr (.inl initial)
    · exact .inr (.inr ⟨made, memory, same, by omega, by rw [List.length_cons]; omega⟩)

theorem eq_of_serial? {s : LineState} {old new : List String} {n m : Nat}
    (earlier : ∀ made, s.serial? = some made → made < n) (later : n + old.length ≤ m)
    (same : (g.after n s old).serial? = (g.after m s new).serial?) :
    g.after n s old = g.after m s new := by
  -- The old lines made their states from n on, the new ones from m on: a state that either of them
  -- made has a number that the other one cannot have come to.
  rcases after_cases (g := g) n s old with kept | initial | ⟨made, memory, held, low, high⟩
  · rw [kept] at same ⊢
    rcases after_cases (g := g) m s new with kept' | initial | ⟨made, memory, held, low, -⟩
    · exact kept'.symm
    · rw [initial] at same ⊢
      exact LineState.serial?_eq_none same
    · rw [held] at same
      have bound := earlier made same
      omega
  · rw [initial] at same ⊢
    exact (LineState.serial?_eq_none same.symm).symm
  · rw [held] at same
    rcases after_cases (g := g) m s new with kept' | initial | ⟨made', memory', held', low', -⟩
    · rw [kept'] at same
      have bound := earlier made same.symm
      omega
    · rw [initial] at same
      cases same
    · rw [held'] at same
      cases same
      omega

/-- A line ends in the very state that it began in if and only if the same block is open. States
with the same block open are interchangeable; so if edited lines end in the very state in which
the lines ended that stood in their place, all lines behind them keep their tokens. -/
theorem interchangeable_after (g : BlockGrammar) :
    (∀ state line l serial, g.Reachable state → g.tokenize line state = .ok l →
      state.serial? ≠ some serial →
      ∃ last, Relation.ReflTransGen (g.Moves line) (begin state) last ∧
        line.utf8ByteSize ≤ last.position ∧
        (l.ending.state state serial).block? = last.inside ∧
        ((l.ending.state state serial).serial? = state.serial? ↔ last.inside = state.block?)) ∧
    (∀ state state', g.Reachable state → g.Reachable state' → state.block? = state'.block? →
      g.Interchangeable state state') ∧
    ∀ (before : LineState) (old new : List String) (n m : Nat),
      (∀ made, before.serial? = some made → made < n) → n + old.length ≤ m →
      (g.after n before old).serial? = (g.after m before new).serial? →
      g.Interchangeable (g.after n before old) (g.after m before new) := by
  refine ⟨?_, ?_, ?_⟩
  · intro state line l serial reached ok fresh
    obtain ⟨last, passes, atEnd, rfl⟩ := passes_of_tokenize ok
    exact ⟨last, passes, atEnd, block?_ending_state last.inside serial,
      serial?_ending_state reached last.inside fresh⟩
  · intro state state' reached reached' same
    have memory : state.memory? = state'.memory? := by
      rw [reached.memory?_eq, reached'.memory?_eq, same]
    exact interchangeable_of_memory? memory
  · intro before old new n m earlier later same
    have one := eq_of_serial? earlier later same
    exact interchangeable_of_memory? (congrArg LineState.memory? one)

/-- A block is closed and opened again in one line, which is then replaced by two lines inside of
that block. -/
theorem interchangeable_after_reopened :
    let g := Provider.compiled Provider.starred
    let state := LineState.made 0 (.block 0)
    let l : Line (List String) := ⟨[⟨0, ["s", "x"]⟩, ⟨1, ["s", "x"]⟩], .unchanged⟩
    g.Reachable state ∧ g.tokenize "><" state = .ok l ∧ state.serial? ≠ some 1 ∧
    (∃ last, Relation.ReflTransGen (g.Moves "><") (begin state) last ∧
      "><".utf8ByteSize ≤ last.position ∧
      (l.ending.state state 1).block? = last.inside ∧
      ((l.ending.state state 1).serial? = state.serial? ↔ last.inside = state.block?)) ∧
    (∀ made, state.serial? = some made → made < 1) ∧ 1 + ["><"].length ≤ 2 ∧
    (g.after 1 state ["><"]).serial? = (g.after 2 state ["a", ""]).serial? ∧
    g.Interchangeable (g.after 1 state ["><"]) (g.after 2 state ["a", ""]) := by
  intro g state l
  have opened : g.tokenize "<" .initial = .ok ⟨[⟨0, ["s", "x"]⟩], .made (.block 0)⟩ := by
    decide +kernel
  have reached : g.Reachable state := .line 0 .initial opened
  have reopened : g.tokenize "><" state = .ok l := by
    decide +kernel
  have numbered : ∀ made, state.serial? = some made → made < 1 := by
    rintro made ⟨⟩
    decide
  have same : (g.after 1 state ["><"]).serial? = (g.after 2 state ["a", ""]).serial? := by
    decide +kernel
  obtain ⟨ends, -, edits⟩ := interchangeable_after g
  exact ⟨reached, reopened, nofun, ends state "><" l 1 reached reopened nofun, numbered, by decide,
    same, edits state ["><"] ["a", ""] 1 2 numbered (by decide) same⟩

end BlockGrammar

end TokenTheme
