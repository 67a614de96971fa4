import Mathlib
import TokenTheme.Proofs.Grammar.Partition
import TokenTheme.Sample
/-!
# The loop of a line

A line is gone through step by step until its end. A step may stay where it is, if a block is closed
by an empty match, but it leaves the block then, and the step after it takes a character at least.
So the loop ends by itself: no line takes more than two steps for each byte
(`ends_tokenize`), and no more than two tokens start in one place.
-/
namespace TokenTheme

namespace Text.Cursor

theorem isValid_offset {c : Cursor} {s : String} (inText : c.text = s.toList) :
    String.Pos.Raw.IsValid s ⟨c.offset⟩ := by
  refine String.Pos.Raw.isValid_iff_exists_append.mpr
    ⟨.ofList c.before.reverse, .ofList c.after, ?_, ?_⟩
  · rw [← String.ofList_append]
    exact (congrArg String.ofList inText).trans String.ofList_toList |>.symm
  · have counted : (String.ofList c.before.reverse).utf8ByteSize = c.offset := by
      rw [utf8ByteSize_ofList, byteLength_reverse, c.offset_eq]
    exact String.Pos.Raw.ext counted.symm

end Text.Cursor

theorem Regex.Scanner.isValid_of_find {s : Scanner} {text : String} {start : Nat} {m : Match}
    (found : s.find text start = some m) :
    String.Pos.Raw.IsValid text ⟨m.span.start⟩ ∧ String.Pos.Raw.IsValid text ⟨m.span.stop⟩ := by
  obtain ⟨c, sought, matched⟩ := Option.bind_eq_some_iff.mp found
  obtain ⟨entered, -⟩ := Text.Cursor.seek?_some sought
  obtain ⟨d, moved, here⟩ := Text.Cursor.reaches_of_firstSome matched
  obtain ⟨-, -, first, last, later, between, range⟩ := firstAt_some here
  have inText : first.text = text.toList := ((entered.trans moved).trans later).text
  rw [range]
  exact ⟨first.isValid_offset inText, last.isValid_offset (between.text.trans inText)⟩

namespace BlockGrammar

variable {g : BlockGrammar} {line : String} {p q : Progress} {n : Nat}
  {outcome : Except Fault Progress}

/-- How many steps the loop of a line begins from a place on if nothing bounds their number, and
what comes of them. -/
inductive Loops (g : BlockGrammar) (line : String) :
    Nat → Progress → Except Fault Progress → Prop where
  | done {p : Progress} : line.utf8ByteSize ≤ p.position → g.Loops line 0 p (.ok p)
  | failed {p : Progress} {f : Fault} : p.position < line.utf8ByteSize →
      g.step line p = .error f → g.Loops line 1 p (.error f)
  | next {n : Nat} {p q : Progress} {outcome : Except Fault Progress} : g.Moves line p q →
      g.Loops line n q outcome → g.Loops line (n + 1) p outcome

/-! ### Steps -/

theorem Loops.unique {n' : Nat} {outcome' : Except Fault Progress}
    (loops : g.Loops line n p outcome) (loops' : g.Loops line n' p outcome') :
    n' = n ∧ outcome' = outcome := by
  induction loops generalizing n' with
  | done atEnd =>
    cases loops' with
    | done _ => exact ⟨rfl, rfl⟩
    | failed early _ => omega
    | next moves _ => exact absurd moves.1 (Nat.not_lt.mpr atEnd)
  | failed early failed =>
    cases loops' with
    | done atEnd => omega
    | failed _ failed' =>
      cases failed'.symm.trans failed
      exact ⟨rfl, rfl⟩
    | next moves _ => cases failed.symm.trans moves.2
  | next moves _ ih =>
    cases loops' with
    | done atEnd => exact absurd moves.1 (Nat.not_lt.mpr atEnd)
    | failed _ failed => cases failed.symm.trans moves.2
    | next moves' loops' =>
      cases moves_unique moves moves'
      obtain ⟨count, same⟩ := ih loops'
      exact ⟨congrArg (· + 1) count, same⟩

theorem Loops.le_remaining (loops : g.Loops line n p outcome) : n ≤ remaining line p := by
  induction loops with
  | done _ => exact Nat.zero_le _
  | failed early _ => exact remaining_pos early
  | next moves _ ih =>
    have nearer := (advance_of_moves moves).nearer
    omega

theorem loops_of_run {fuel : Nat} (enough : remaining line p ≤ fuel) :
    ∃ n, g.Loops line n p (g.run line fuel p) := by
  induction fuel generalizing p with
  | zero =>
    have atEnd : line.utf8ByteSize ≤ p.position := by
      by_contra early
      have left := remaining_pos (Nat.lt_of_not_le early)
      omega
    exact ⟨0, .done atEnd⟩
  | succ fuel ih =>
    unfold run
    split
    · rename_i atEnd
      exact ⟨0, .done atEnd⟩
    · rename_i early
      have early := Nat.lt_of_not_le early
      cases moved : g.step line p with
      | error f => exact ⟨1, .failed early moved⟩
      | ok next =>
        have moves : g.Moves line p next := ⟨early, moved⟩
        have nearer := (advance_of_moves moves).nearer
        obtain ⟨n, loops⟩ := ih (p := next) (by omega)
        exact ⟨n + 1, .next moves loops⟩

/-! ### Places -/

structure Orderly (line : String) (p : Progress) : Prop where
  bounded : p.position ≤ line.utf8ByteSize
  whole : String.Pos.Raw.IsValid line ⟨p.position⟩
  ordered : p.starts.Pairwise (· ≤ ·)
  passed : ∀ s ∈ p.starts, s ≤ p.position
  within : ∀ s ∈ p.starts, s < line.utf8ByteSize ∧ String.Pos.Raw.IsValid line ⟨s⟩
  shared : ∀ s, p.starts.count s ≤ 2
  /-- No token starts here yet inside of a block, and outside of blocks one at most. -/
  fresh : p.starts.count p.position ≤ if p.inside.isSome then 0 else 1

theorem orderly_begin (state : LineState) : Orderly line (begin state) where
  bounded := Nat.zero_le _
  whole := String.Pos.Raw.isValid_zero
  ordered := .nil
  passed := nofun
  within := nofun
  shared _ := Nat.zero_le _
  fresh := Nat.zero_le _

theorem isValid_of_moves (moves : g.Moves line p q)
    (whole : String.Pos.Raw.IsValid line ⟨p.position⟩) :
    String.Pos.Raw.IsValid line ⟨q.position⟩ ∧
      ∀ s ∈ q.starts, s ∈ p.starts ∨ s < line.utf8ByteSize ∧ String.Pos.Raw.IsValid line ⟨s⟩ := by
  have atEnd : String.Pos.Raw.IsValid line ⟨line.utf8ByteSize⟩ := String.Pos.Raw.isValid_rawEndPos
  have pushed (scopes : List String) : ∀ s ∈ (p.push scopes).starts,
      s ∈ p.starts ∨ s < line.utf8ByteSize ∧ String.Pos.Raw.IsValid line ⟨s⟩ := by
    intro s member
    rw [p.starts_push] at member
    rcases List.mem_append.mp member with earlier | here
    · exact .inl earlier
    · obtain rfl := List.mem_singleton.mp here
      exact .inr ⟨moves.1, whole⟩
  cases way_of_moves moves with
  | inside _ _ =>
    unfold stepInside
    split
    · rename_i m found
      exact ⟨(Regex.Scanner.isValid_of_find found).2, pushed _⟩
    · exact ⟨atEnd, pushed _⟩
  | rest _ _ => exact ⟨atEnd, pushed _⟩
  | @matched m rule _ found taken _ =>
    obtain ⟨-, later, range, bounded⟩ := Regex.Scanner.find_some found
    obtain ⟨start, stop⟩ := Regex.Scanner.isValid_of_find found
    refine ⟨stop, ?_⟩
    intro s member
    rw [starts_apply rule m later] at member
    rcases List.mem_append.mp member with earlier | added
    · exact .inl earlier
    · rcases List.mem_cons.mp added with rfl | behind
      · exact .inr ⟨moves.1, whole⟩
      · split at behind
        · obtain rfl := List.mem_singleton.mp behind
          exact .inr ⟨by omega, start⟩
        · cases behind

theorem leaves_of_stays (moves : g.Moves line p q) (stays : q.position = p.position) :
    p.inside.isSome ∧ q.inside = none := by
  have nearer := (advance_of_moves moves).nearer
  have early := moves.1
  unfold remaining at nearer
  rw [stays] at nearer
  cases inside : p.inside with
  | none =>
    simp only [inside, Option.isNone_none, if_true] at nearer
    split at nearer <;> omega
  | some index =>
    cases left : q.inside with
    | none => exact ⟨rfl, rfl⟩
    | some index' => simp [inside, left] at nearer

/-- In front of a place no number is held more than twice, and the place itself once at most; then
no number is held more than twice with the place and increasing numbers behind it. -/
theorem count_le_two {starts later : List Nat} {position : Nat}
    (twice : ∀ s, starts.count s ≤ 2) (once : starts.count position ≤ 1)
    (passed : ∀ s ∈ starts, s ≤ position) (behind : ∀ s ∈ later, position < s)
    (increasing : later.Pairwise (· < ·)) (s : Nat) :
    (starts ++ position :: later).count s ≤ 2 := by
  rw [List.count_append, List.count_cons]
  rcases Nat.lt_trichotomy s position with before | rfl | after
  · have absent : later.count s = 0 :=
      List.count_eq_zero.mpr fun member => Nat.lt_asymm before (behind s member)
    have held := twice s
    simp [absent, Nat.ne_of_gt before, held]
  · have absent : later.count s = 0 :=
      List.count_eq_zero.mpr fun member => Nat.lt_irrefl s (behind s member)
    simp [absent, once]
  · have absent : starts.count s = 0 :=
      List.count_eq_zero.mpr fun member => Nat.not_le.mpr after (passed s member)
    have single : later.count s ≤ 1 := List.nodup_iff_count_le_one.mp increasing.nodup s
    simp [absent, Nat.ne_of_lt after]
    omega

theorem le_position_of_moves (moves : g.Moves line p q) (passed : ∀ s ∈ p.starts, s ≤ p.position) :
    ∀ s ∈ q.starts, s ≤ q.position := by
  obtain ⟨later, pushed, -, between⟩ := (advance_of_moves moves).starts
  have forward := (advance_of_moves moves).forward
  intro s member
  rw [pushed] at member
  rcases List.mem_append.mp member with earlier | added
  · exact Nat.le_trans (passed s earlier) forward
  · rcases List.mem_cons.mp added with rfl | member
    · exact forward
    · exact Nat.le_of_lt (between s member).2

/-- A step that goes on leaves no token in the place that it comes to; one that stays where it is
leaves the token of its block there, which is then closed. -/
theorem fresh_of_moves (moves : g.Moves line p q) (passed : ∀ s ∈ p.starts, s ≤ p.position)
    (fresh : p.starts.count p.position ≤ if p.inside.isSome then 0 else 1) :
    q.starts.count q.position ≤ if q.inside.isSome then 0 else 1 := by
  obtain ⟨later, pushed, -, between⟩ := (advance_of_moves moves).starts
  rcases Nat.eq_or_lt_of_le (advance_of_moves moves).forward with stays | onward
  · obtain ⟨inside, left⟩ := leaves_of_stays moves stays.symm
    have single : later = [] := by
      refine List.eq_nil_iff_forall_not_mem.mpr fun s member => ?_
      have strict := between s member
      omega
    rw [if_pos inside] at fresh
    rw [pushed, single, ← stays, left, List.count_append]
    simpa using fresh
  · have absent : q.starts.count q.position = 0 := by
      refine List.count_eq_zero.mpr fun member => ?_
      rw [pushed] at member
      rcases List.mem_append.mp member with earlier | added
      · have reached := passed _ earlier
        omega
      · rcases List.mem_cons.mp added with here | member
        · omega
        · exact Nat.lt_irrefl _ (between _ member).2
    rw [absent]
    exact Nat.zero_le _

theorem orderly_of_moves (moves : g.Moves line p q) (orderly : Orderly line p) :
    Orderly line q := by
  obtain ⟨later, pushed, increasing, between⟩ := (advance_of_moves moves).starts
  obtain ⟨whole, valid⟩ := isValid_of_moves moves orderly.whole
  have behind : ∀ s ∈ later, p.position < s := fun s member => (between s member).1
  have once : p.starts.count p.position ≤ 1 :=
    Nat.le_trans orderly.fresh (by split <;> omega)
  refine {
    bounded := (advance_of_moves moves).bounded
    whole := whole
    ordered := ?_
    passed := le_position_of_moves moves orderly.passed
    within := ?_
    shared := ?_
    fresh := fresh_of_moves moves orderly.passed orderly.fresh }
  · rw [pushed]
    refine List.pairwise_append.mpr ⟨orderly.ordered, List.pairwise_cons.mpr ⟨?_, ?_⟩, ?_⟩
    · exact fun s member => Nat.le_of_lt (behind s member)
    · exact increasing.imp Nat.le_of_lt
    · intro s earlier t added
      have reached := orderly.passed s earlier
      rcases List.mem_cons.mp added with rfl | member
      · exact reached
      · exact Nat.le_trans reached (Nat.le_of_lt (behind t member))
  · intro s member
    rcases valid s member with earlier | new
    · exact orderly.within s earlier
    · exact new
  · rw [pushed]
    exact count_le_two orderly.shared once orderly.passed behind increasing

theorem orderly_of_passes {state : LineState}
    (passes : Relation.ReflTransGen (g.Moves line) (begin state) p) : Orderly line p := by
  induction passes with
  | refl => exact orderly_begin state
  | tail _ moves ih => exact orderly_of_moves moves ih

/-! ### Whole lines -/

structure Ends (g : BlockGrammar) (line : String) (state : LineState) (n : Nat)
    (outcome : Except Fault Progress) : Prop where
  loops : g.Loops line n (begin state) outcome
  only : ∀ n' outcome', g.Loops line n' (begin state) outcome' → n' = n ∧ outcome' = outcome
  bounded : n ≤ 2 * line.utf8ByteSize
  tokenize : g.tokenize line state =
    outcome.map fun p => ⟨p.tokens.reverse, ending state.block? p.inside⟩
  unbroken : ∀ index, outcome ≠ .error (.broken index)

theorem ends_tokenize {library : Regex.Library} {stateName : String} {j : Json}
    (accepted : ofJson library stateName j = .ok g) {state : LineState}
    (reached : g.Reachable state) (line : String) :
    (∃ n outcome, g.Ends line state n outcome) ∧
    ∀ p, Relation.ReflTransGen (g.Moves line) (begin state) p →
      Orderly line p ∧ ∀ q, g.Moves line p q → p.position ≤ q.position := by
  constructor
  · have enough : remaining line (begin state) ≤ 2 * line.utf8ByteSize := enough_begin
    obtain ⟨n, loops⟩ := loops_of_run (g := g) enough
    have result : g.tokenize line state =
        (g.run line (2 * line.utf8ByteSize) (begin state)).map
          fun p => ⟨p.tokens.reverse, ending state.block? p.inside⟩ := by
      unfold tokenize
      rw [reached.remembered]
      rfl
    refine ⟨n, _, {
      loops := loops
      only := fun _ _ loops' => loops.unique loops'
      bounded := Nat.le_trans loops.le_remaining enough
      tokenize := result
      unbroken := ?_ }⟩
    intro index broken
    rw [broken] at result
    obtain ⟨message, same⟩ := reached.tokenize_error (indexed_of_ofJson accepted) result
    cases same
  · intro p passes
    exact ⟨orderly_of_passes passes, fun q moves => (advance_of_moves moves).forward⟩

/-- A block that is closed in front of the very letter that opens it. -/
def hesitant : Json := Sample.grammar "s" [Sample.block "b" "(?=b)" "x"]

/-- Each letter takes two steps: one that closes the block and one that opens it again. -/
theorem ends_tokenize_hesitant :
    ∃ g, ofJson .standard "block" hesitant = .ok g ∧ g.Reachable (.made 0 (.block 0)) ∧
      (g.tokenize "bb" (.made 0 (.block 0))).map Line.starts = .ok [0, 0, 1, 1] ∧
      (∃ n outcome, g.Ends "bb" (.made 0 (.block 0)) n outcome) ∧
      ∀ p, Relation.ReflTransGen (g.Moves "bb") (begin (.made 0 (.block 0))) p →
        Orderly "bb" p ∧ ∀ q, g.Moves "bb" p q → p.position ≤ q.position := by
  let g : BlockGrammar := (ofJson .standard "block" hesitant).toOption.getD default
  have accepted : ofJson .standard "block" hesitant = .ok g := eq_ok_getD (by decide +kernel)
  have opened : g.tokenize "b" .initial = .ok ⟨[⟨0, ["s", "x"]⟩], .made (.block 0)⟩ := by
    decide +kernel
  have reached : g.Reachable (.made 0 (.block 0)) := .line 0 .initial opened
  exact ⟨g, accepted, reached, by decide +kernel, ends_tokenize accepted reached "bb"⟩

end BlockGrammar

end TokenTheme
