import Mathlib
import TokenTheme.Proofs.Provider.Feeding
import TokenTheme.Proofs.Provider.Retokenizing
/-!
# Lines that leave no trace

A text is tokenized line by line, each line from the state that the one before it ended in. A line
that is empty or fails passes its state on, so without it the lines behind it come out the same. Only
the states that they make have other numbers, in the same order.
-/
namespace TokenTheme

namespace Text

/-! ### Texts of lines -/

def ofLines (terminator : String) (lines : List String) : String :=
  String.join (lines.map (· ++ terminator))

structure Unbroken (line : String) : Prop where
  feed : '\n' ∉ line.toList
  back : line.toList.getLast? ≠ some '\r'

instance (line : String) : Decidable (Unbroken line) :=
  decidable_of_iff ('\n' ∉ line.toList ∧ line.toList.getLast? ≠ some '\r')
    ⟨fun ⟨feed, back⟩ => ⟨feed, back⟩, fun ⟨feed, back⟩ => ⟨feed, back⟩⟩

theorem linesFrom_append {chars : List Char} (feed : '\n' ∉ chars) (line rest : List Char) :
    linesFrom line (chars ++ rest) = linesFrom (chars.reverse ++ line) rest := by
  induction chars generalizing line with
  | nil => rfl
  | cons c chars ih =>
    obtain ⟨other, feed⟩ := not_or.mp (mt List.mem_cons.mpr feed)
    rw [List.cons_append, linesFrom, if_neg (Ne.symm other), ih feed, List.reverse_cons,
      List.append_assoc, List.singleton_append]

theorem closeLine_reverse {chars : List Char} (back : chars.getLast? ≠ some '\r') :
    closeLine chars.reverse = chars := by
  rw [← List.head?_reverse] at back
  unfold closeLine
  split
  · rename_i line same
    rw [same] at back
    exact absurd rfl back
  · exact List.reverse_reverse chars

theorem linesFrom_terminated {terminator line : String}
    (ends : terminator = "\n" ∨ terminator = "\r\n") (unbroken : Unbroken line)
    (rest : List Char) :
    linesFrom [] (line.toList ++ (terminator.toList ++ rest)) =
      line.toList :: linesFrom [] rest := by
  rw [linesFrom_append unbroken.feed, List.append_nil]
  rcases ends with rfl | rfl
  · show closeLine line.toList.reverse :: _ = _
    rw [closeLine_reverse unbroken.back]
    rfl
  · show line.toList.reverse.reverse :: _ = _
    rw [List.reverse_reverse]
    rfl

theorem lines_ofLines {terminator : String} (ends : terminator = "\n" ∨ terminator = "\r\n")
    {lines : List String} (unbroken : ∀ line ∈ lines, Unbroken line) :
    Text.lines (ofLines terminator lines) = lines := by
  induction lines with
  | nil => rfl
  | cons line rest ih =>
    obtain ⟨first, later⟩ := List.forall_mem_cons.mp unbroken
    have text : (ofLines terminator (line :: rest)).toList =
        line.toList ++ (terminator.toList ++ (ofLines terminator rest).toList) := by
      simp [ofLines, String.toList_join]
    rw [Text.lines, text, linesFrom_terminated ends first, List.map_cons, String.ofList_toList]
    exact congrArg (line :: ·) (ih later)

end Text

/-! ### Other numbers for states -/

namespace LineState

def renumber (f : Nat → Nat) : LineState → LineState
  | initial => initial
  | made serial memory => made (f serial) memory

variable {f f' : Nat → Nat}

theorem memory?_renumber (f : Nat → Nat) (s : LineState) : (s.renumber f).memory? = s.memory? := by
  cases s <;> rfl

theorem renumber_congr {s : LineState} (same : ∀ n, s.serial? = some n → f n = f' n) :
    s.renumber f = s.renumber f' := by
  cases s with
  | initial => rfl
  | made serial memory => rw [renumber, renumber, same serial rfl]

theorem renumber_ending (f : Nat → Nat) (ending : Ending) (s : LineState) (serial : Nat) :
    (ending.state s serial).renumber f = ending.state (s.renumber f) (f serial) := by
  cases ending <;> rfl

theorem serial?_ending {s : LineState} {serial : Nat} (bound : ∀ n, s.serial? = some n → n < serial)
    (ending : Ending) {n : Nat} (numbered : (ending.state s serial).serial? = some n) :
    n < serial + 1 := by
  cases ending with
  | initial => cases numbered
  | unchanged => exact Nat.lt_succ_of_lt (bound n numbered)
  | made memory =>
    cases numbered
    exact Nat.lt_succ_self serial

end LineState

def EditorLine.renumber (f : Nat → Nat) (l : EditorLine) : EditorLine :=
  { l with state := l.state.renumber f }

/-- A renumbering that keeps to `old` below `bound`, and gives the numbers from there on others in
the same order, from `least` on. -/
structure Renumbers (old f : Nat → Nat) (bound least : Nat) : Prop where
  below : ∀ n < bound, f n = old n
  above : ∀ n, bound ≤ n → least ≤ f n
  increasing : ∀ m n, bound ≤ m → m < n → f m < f n

namespace Renumbers

variable {old f : Nat → Nat} {bound least : Nat}

theorem shift (old : Nat → Nat) (bound least : Nat) :
    Renumbers old (fun n => if n < bound then old n else least + n) bound least where
  below n low := if_pos low
  above n high := by
    rw [if_neg (Nat.not_lt.mpr high)]
    exact Nat.le_add_right least n
  increasing m n high less := by
    rw [if_neg (Nat.not_lt.mpr high), if_neg (Nat.not_lt.mpr (high.trans less.le))]
    exact Nat.add_lt_add_left less least

theorem skip (r : Renumbers old f bound (least + 1)) : Renumbers old f bound least where
  below := r.below
  above n high := Nat.le_of_succ_le (r.above n high)
  increasing := r.increasing

theorem take (r : Renumbers (Function.update old bound least) f (bound + 1) (least + 1)) :
    Renumbers old f bound least := by
  have here : f bound = least := by
    rw [r.below bound (Nat.lt_succ_self bound), Function.update_self]
  refine ⟨fun n low => ?_, fun n high => ?_, fun m n high less => ?_⟩
  · rw [r.below n (Nat.lt_succ_of_lt low), Function.update_of_ne (Nat.ne_of_lt low)]
  · rcases high.eq_or_lt with rfl | high
    · exact here.ge
    · exact Nat.le_of_succ_le (r.above n high)
  · rcases high.eq_or_lt with rfl | high
    · rw [here]
      exact r.above n less
    · exact r.increasing m n high less

theorem strictMono (r : Renumbers id f bound bound) : StrictMono f := by
  intro m n less
  rcases Nat.lt_or_ge m bound with low | high
  · rw [r.below m low, id]
    rcases Nat.lt_or_ge n bound with low' | high'
    · rwa [r.below n low']
    · exact low.trans_le (r.above n high')
  · exact r.increasing m n high less

end Renumbers

/-! ### Documents -/

structure Passage where
  line : String
  before : LineState
  result : EditorLine

def Passage.renumber (f : Nat → Nat) (e : Passage) : Passage :=
  { e with before := e.before.renumber f, result := e.result.renumber f }

namespace Provider

open BlockGrammar

/-- Each line is tokenized from the state that the one before it ended in; the states that lines
make are numbered from `serial` on. -/
inductive Folds (p : Provider) (theme : Option Snapshot) :
    (serial : Nat) → LineState → List Passage → Prop where
  | nil {serial : Nat} {state : LineState} : p.Folds theme serial state []
  | cons {serial : Nat} {line : String} {state : LineState} {l : EditorLine}
      {rest : List Passage} : p.tokenize theme serial line state = some l →
      p.Folds theme (serial + 1) l.state rest → p.Folds theme serial state (⟨line, state, l⟩ :: rest)

/-- An empty line, or one that the grammar fails on. -/
def Transparent (p : Provider) (theme : Option Snapshot) (e : Passage) : Prop :=
  e.line = "" ∨ ∃ f, p.tokenize? theme e.line e.before = .error f

inductive Thinned (p : Provider) (theme : Option Snapshot) :
    List Passage → List Passage → Prop where
  | nil : p.Thinned theme [] []
  | keep (e : Passage) {all kept : List Passage} :
      p.Thinned theme all kept → p.Thinned theme (e :: all) (e :: kept)
  | drop {e : Passage} {all kept : List Passage} : p.Transparent theme e →
      p.Thinned theme all kept → p.Thinned theme (e :: all) kept

/-- The text of the lines, with either terminator, is tokenized line by line. -/
structure Tokenizes (p : Provider) (theme : Option Snapshot) (serial : Nat) (lines : List String)
    (passages : List Passage) : Prop where
  folds : p.Folds theme serial .initial passages
  each : passages.map (·.line) = lines
  feed : p.tokenizeText theme serial (Text.ofLines "\n" lines) = some (passages.map (·.result))
  back : p.tokenizeText theme serial (Text.ofLines "\r\n" lines) = some (passages.map (·.result))

section

variable {p : Provider} {theme : Option Snapshot} {serial : Nat} {state : LineState}
  {line : String} {l : EditorLine}

theorem Folds.tokenizeFrom {passages : List Passage} (folds : p.Folds theme serial state passages) :
    p.tokenizeFrom theme serial state (passages.map (·.line)) =
      some (passages.map (·.result)) := by
  induction folds with
  | nil => rfl
  | cons given _ ih =>
    rw [List.map_cons, List.map_cons, Provider.tokenizeFrom, given, Option.bind_eq_bind,
      Option.bind_some, ih]
    rfl

theorem Folds.tokenizes {passages : List Passage} (folds : p.Folds theme serial .initial passages)
    (unbroken : ∀ line ∈ passages.map (·.line), Text.Unbroken line) :
    p.Tokenizes theme serial (passages.map (·.line)) passages := by
  refine ⟨folds, rfl, ?_, ?_⟩
  · rw [tokenizeText, Text.lines_ofLines (.inl rfl) unbroken, folds.tokenizeFrom]
  · rw [tokenizeText, Text.lines_ofLines (.inr rfl) unbroken, folds.tokenizeFrom]

theorem Thinned.sublist {all kept : List Passage} (thinned : p.Thinned theme all kept) :
    kept.Sublist all := by
  induction thinned with
  | nil => exact .slnil
  | keep e _ ih => exact ih.cons_cons e
  | drop _ _ ih => exact ih.cons _

theorem state_of_tokenize (given : p.tokenize theme serial line state = some l) :
    ∃ ending : Ending, l.state = ending.state state serial := by
  unfold tokenize at given
  split at given
  · cases given
    exact ⟨_, rfl⟩
  · cases given
    exact ⟨.unchanged, rfl⟩
  · cases given

end

variable {g : BlockGrammar} {options : Options} {theme : Option Snapshot} {serial : Nat}
  {state : LineState} {line : String} {l : EditorLine}

/-- A grammar does not look at the numbers of states. -/
theorem tokenize_renumber (g : BlockGrammar) (options : Options) (theme : Option Snapshot)
    (f : Nat → Nat) (serial : Nat) (line : String) (state : LineState) :
    (Provider.mk g.toGrammar options).tokenize theme (f serial) line (state.renumber f) =
      ((Provider.mk g.toGrammar options).tokenize theme serial line state).map
        (·.renumber f) := by
  unfold tokenize
  rw [tokenize?_congr (LineState.memory?_renumber f state)]
  rcases (Provider.mk g.toGrammar options).tokenize? theme line state with (e | index) | l
  · rfl
  · rfl
  · simp [EditorLine.renumber, LineState.renumber_ending]

theorem state_of_blank
    (given : (Provider.mk g.toGrammar options).tokenize theme serial "" state = some l) :
    l.state = state := by
  obtain ⟨classify, same⟩ := tokenize_toGrammar g options theme serial "" state
  rw [same] at given
  cases state with
  | initial =>
    cases given
    rfl
  | made made memory =>
    cases memory with
    | block index =>
      rw [tokenize_block_blank] at given
      cases given
      rfl
    | name | number | text =>
      cases given
      rfl

theorem state_of_transparent
    (given : (Provider.mk g.toGrammar options).tokenize theme serial line state = some l)
    (transparent : (Provider.mk g.toGrammar options).Transparent theme ⟨line, state, l⟩) :
    l.state = state := by
  rcases transparent with blank | ⟨f, failed⟩
  · obtain rfl : line = "" := blank
    exact state_of_blank given
  · unfold tokenize at given
    rw [failed] at given
    cases f with
    | refused e =>
      cases given
      rfl
    | broken index => cases given

theorem Folds.transparent {passages : List Passage}
    (folds : (Provider.mk g.toGrammar options).Folds theme serial state passages) :
    ∀ e ∈ passages, (Provider.mk g.toGrammar options).Transparent theme e →
      e.result.state = e.before := by
  induction folds with
  | nil => exact fun _ member => nomatch member
  | cons given _ ih => exact List.forall_mem_cons.mpr ⟨state_of_transparent given, ih⟩

theorem exists_folds {library : Regex.Library} {stateName : String} {j : Json}
    (accepted : ofJson library stateName j = .ok g) (fed : Fed g state) (options : Options)
    (theme : Option Snapshot) (serial : Nat) (lines : List String) :
    ∃ passages, (Provider.mk g.toGrammar options).Folds theme serial state passages ∧
      passages.map (·.line) = lines := by
  induction lines generalizing state serial with
  | nil => exact ⟨[], .nil, rfl⟩
  | cons line rest ih =>
    obtain ⟨l, given, -, -⟩ :=
      partition_tokenize accepted (reachable_of_fed fed) options theme serial line
    obtain ⟨passages, folds, same⟩ := ih (.line options theme serial line fed given) (serial + 1)
    exact ⟨_, .cons given folds, congrArg (line :: ·) same⟩

/-- The lines that are kept begin in the states that they began in before, but for the numbers. -/
theorem folds_of_thinned {passages kept : List Passage} {old : Nat → Nat} {state' : LineState}
    {bound : Nat} (folds : (Provider.mk g.toGrammar options).Folds theme serial state passages)
    (thinned : (Provider.mk g.toGrammar options).Thinned theme passages kept)
    (same : state = state'.renumber old) (low : ∀ n, state'.serial? = some n → n < bound) :
    ∃ passages' f, (Provider.mk g.toGrammar options).Folds theme bound state' passages' ∧
      Renumbers old f bound serial ∧ kept = passages'.map (·.renumber f) := by
  induction thinned generalizing serial state state' old bound with
  | nil => exact ⟨[], _, .nil, .shift old bound serial, rfl⟩
  | drop transparent _ ih =>
    cases folds with
    | cons given folds =>
      have stays := state_of_transparent given transparent
      obtain ⟨passages', f, folds', numbers, rfl⟩ := ih folds (stays.trans same) low
      exact ⟨passages', f, folds', numbers.skip, rfl⟩
  | keep _ _ ih =>
    cases folds with
    | @cons _ line _ l _ given folds =>
      -- The kept line had the number `serial` and now has `bound`; no state has that number yet.
      have same : state = state'.renumber (Function.update old bound serial) := by
        rw [same]
        refine LineState.renumber_congr fun n numbered => ?_
        rw [Function.update_of_ne (Nat.ne_of_lt (low n numbered))]
      have renumbered := tokenize_renumber g options theme (Function.update old bound serial) bound
        line state'
      rw [Function.update_self, ← same, given] at renumbered
      obtain ⟨l', given', rfl⟩ := Option.map_eq_some_iff.mp renumbered.symm
      obtain ⟨ending, ends⟩ := state_of_tokenize given'
      have low' : ∀ n, l'.state.serial? = some n → n < bound + 1 := by
        rw [ends]
        exact fun n => LineState.serial?_ending low ending
      obtain ⟨passages', f, folds', numbers, rfl⟩ := ih folds rfl low'
      have states {s : LineState} (low : ∀ n, s.serial? = some n → n < bound + 1) :
          s.renumber (Function.update old bound serial) = s.renumber f :=
        LineState.renumber_congr fun n numbered => (numbers.below n (low n numbered)).symm
      refine ⟨⟨line, state', l'⟩ :: passages', f, .cons given' folds', numbers.take, ?_⟩
      rw [same, states fun n numbered => Nat.lt_succ_of_lt (low n numbered), EditorLine.renumber,
        states low']
      rfl

/-- A text with either terminator has one result for each line, each from the state that the line
before it ended in, and a line that is empty or fails keeps that state. Leaving out any of these
lines changes nothing in the others but the numbers of the states that they make. -/
theorem tokenizes_thinned {library : Regex.Library} {stateName : String} {j : Json}
    (accepted : ofJson library stateName j = .ok g) (options : Options) (theme : Option Snapshot)
    (serial : Nat) (lines : List String) (unbroken : ∀ line ∈ lines, Text.Unbroken line) :
    let p : Provider := ⟨g.toGrammar, options⟩
    ∃ passages, p.Tokenizes theme serial lines passages ∧
      (∀ e ∈ passages, p.Transparent theme e → e.result.state = e.before) ∧
      ∀ kept, p.Thinned theme passages kept → ∃ passages' f, StrictMono f ∧
        p.Tokenizes theme serial (kept.map (·.line)) passages' ∧
        kept = passages'.map (·.renumber f) := by
  intro p
  obtain ⟨passages, folds, rfl⟩ := exists_folds accepted .initial options theme serial lines
  refine ⟨passages, folds.tokenizes unbroken, folds.transparent, fun kept thinned => ?_⟩
  have initial : LineState.initial = LineState.initial.renumber id := rfl
  have low : ∀ n, LineState.initial.serial? = some n → n < serial := nofun
  obtain ⟨passages', f, folds', numbers, rfl⟩ := folds_of_thinned folds thinned initial low
  have same : (passages'.map (·.renumber f)).map (·.line) = passages'.map (·.line) := by
    rw [List.map_map]
    rfl
  have unbroken' : ∀ line ∈ passages'.map (·.line), Text.Unbroken line := by
    rw [← same]
    exact fun line member => unbroken line ((thinned.sublist.map _).subset member)
  refine ⟨passages', f, numbers.strictMono, ?_, rfl⟩
  rw [same]
  exact folds'.tokenizes unbroken'

/-- A line fails outside of blocks and another one inside of a block, with an empty line between. -/
theorem tokenizes_thinned_starred :
    let g := compiled starred
    let p : Provider := ⟨g.toGrammar, {}⟩
    let lines := ["z", "y<", "", "a", ">z", ">y"]
    ofJson .standard "block" starred = .ok g ∧ (∀ line ∈ lines, Text.Unbroken line) ∧
    ∃ passages, p.Tokenizes none 0 lines passages ∧
      (∀ e ∈ passages, p.Transparent none e → e.result.state = e.before) ∧
      ∀ kept, p.Thinned none passages kept → ∃ passages' f, StrictMono f ∧
        p.Tokenizes none 0 (kept.map (·.line)) passages' ∧
        kept = passages'.map (·.renumber f) := by
  intro g p lines
  have accepted : ofJson .standard "block" starred = .ok g := eq_ok_getD (by decide +kernel)
  have unbroken : ∀ line ∈ lines, Text.Unbroken line := by
    decide
  exact ⟨accepted, unbroken, tokenizes_thinned accepted {} none 0 lines unbroken⟩

/-- Without the lines that fail and the empty one the block goes on under another number. -/
example :
    let p : Provider := ⟨(compiled starred).toGrammar, {}⟩
    let states (text : String) := (p.tokenizeText none 0 text).map (·.map (·.state))
    let (s, s') := (LineState.made 1 (.block 0), LineState.made 0 (.block 0))
    states "z\ny<\n\n>z\na" = some [.initial, s, s, s, s] ∧ states "y<\na" = some [s', s'] := by
  decide +kernel

end Provider

end TokenTheme
