import Mathlib
import TokenTheme.Proofs.Provider.Feeding
import TokenTheme.Proofs.Provider.OneTheme
/-!
# Styling does not show in outlines

The outline of a line is what is left without classes: where its tokens start, how it ends, and
why it failed if it did. Providers of one grammar give every text the same outlines, whatever their
options and their themes, and whenever a theme is replaced. A text in one theme is a text in which
it is never replaced (`tokenizeFrom_eq`).
-/
namespace TokenTheme

variable {α β : Type}

/-- A line without the values of its tokens. -/
def Line.outline (l : Line α) : Line Unit := l.map fun _ => ()

theorem Line.outline_map (f : α → β) (l : Line α) : (l.map f).outline = l.outline := by
  simp [outline, map, Token.map]

theorem map_outline_map {ε : Type} (f : α → β) (x : Except ε (Line α)) :
    (x.map (·.map f)).map Line.outline = x.map Line.outline := by
  cases x with
  | error e => rfl
  | ok l => exact congrArg Except.ok (l.outline_map f)

namespace LineState

/-- What the state remembers, whatever its number. -/
def memory? (s : LineState) : Option Memory := s.get? some

variable {s s' : LineState}

theorem remembered_congr (same : s.memory? = s'.memory?) (kind : String)
    (select : Memory → Option α) : s.remembered kind select = s'.remembered kind select := by
  cases s with
  | initial =>
    cases s' with
    | initial => rfl
    | made serial memory => cases same
  | made serial memory =>
    cases s' with
    | initial => cases same
    | made serial' memory' =>
      cases same
      rfl

theorem memory?_ending (same : s.memory? = s'.memory?) (ending : Ending) (serial serial' : Nat) :
    (ending.state s serial).memory? = (ending.state s' serial').memory? := by
  cases ending with
  | initial => rfl
  | unchanged => exact same
  | made memory => rfl

end LineState

theorem BlockGrammar.tokenize_congr (g : BlockGrammar) {state state' : LineState}
    (same : state.memory? = state'.memory?) (line : String) :
    g.tokenize line state = g.tokenize line state' := by
  unfold tokenize
  rw [LineState.remembered_congr same]

/-- An editor's line without its classes and without the number of its state. -/
def EditorLine.outline (l : EditorLine) : List Nat × Option Memory × Option Error :=
  (l.starts, l.state.memory?, l.failure)

namespace Provider

open BlockGrammar

/-- Lines one after the other, each in the theme of its moment. -/
def tokenizeUnder (p : Provider) (themes : Nat → Option Snapshot) (serial : Nat)
    (state : LineState) : List String → Option (List EditorLine)
  | [] => some []
  | line :: rest => do
    let l ← p.tokenize (themes serial) serial line state
    return l :: (← p.tokenizeUnder themes (serial + 1) l.state rest)

theorem tokenizeFrom_eq (p : Provider) (theme : Option Snapshot) (serial : Nat)
    (state : LineState) (lines : List String) :
    p.tokenizeFrom theme serial state lines =
      p.tokenizeUnder (fun _ => theme) serial state lines := by
  induction lines generalizing serial state with
  | nil => rfl
  | cons line rest ih =>
    unfold tokenizeFrom tokenizeUnder
    simp only [ih]

variable {g : BlockGrammar} {state state' : LineState}

theorem outline_encode (options : Options) (theme : Option Snapshot) (line : String)
    (state : LineState) :
    ((Provider.mk g.toGrammar options).encode theme line state).map Line.outline =
      (g.tokenize line state).map Line.outline :=
  map_outline_map _ _

theorem outline_tokenize? (options : Options) (theme : Option Snapshot) (line : String)
    (state : LineState) :
    ((Provider.mk g.toGrammar options).tokenize? theme line state).map Line.outline =
      (g.tokenize line state).map Line.outline := by
  unfold tokenize?
  split
  · exact map_outline_map _ _
  · rw [map_outline_map, outline_encode]

theorem outline_tokenize (indexed : g.Indexed) (reached : g.Reachable state)
    (same : state.memory? = state'.memory?) (o o' : Options) (theme theme' : Option Snapshot)
    (serial serial' : Nat) (line : String) :
    ∃ l l', (Provider.mk g.toGrammar o).tokenize theme serial line state = some l ∧
      (Provider.mk g.toGrammar o').tokenize theme' serial' line state' = some l' ∧
      l.outline = l'.outline ∧ g.Reachable l.state := by
  obtain ⟨classify, given⟩ := tokenize_toGrammar g o theme serial line state
  obtain ⟨classify', given'⟩ := tokenize_toGrammar g o' theme' serial' line state'
  rw [← g.tokenize_congr same] at given'
  rw [given, given']
  cases made : g.tokenize line state with
  | ok l =>
    refine ⟨_, _, rfl, rfl, ?_, .line serial reached made⟩
    have starts : (l.map classify).starts = (l.map classify').starts := by
      rw [Line.starts_map, Line.starts_map]
    have memory := LineState.memory?_ending same l.ending serial serial'
    exact Prod.ext starts (Prod.ext memory rfl)
  | error f =>
    obtain ⟨message, rfl⟩ := reached.tokenize_error indexed made
    exact ⟨_, _, rfl, rfl, Prod.ext rfl (Prod.ext same rfl), reached⟩

theorem outline_tokenizeUnder (indexed : g.Indexed) (o o' : Options)
    (themes themes' : Nat → Option Snapshot) (serial serial' : Nat) (lines : List String)
    (reached : g.Reachable state) (same : state.memory? = state'.memory?) :
    ∃ ls ls',
      (Provider.mk g.toGrammar o).tokenizeUnder themes serial state lines = some ls ∧
      (Provider.mk g.toGrammar o').tokenizeUnder themes' serial' state' lines = some ls' ∧
      ls.map EditorLine.outline = ls'.map EditorLine.outline ∧ ∀ l ∈ ls, g.Reachable l.state := by
  induction lines generalizing state state' serial serial' with
  | nil => exact ⟨[], [], rfl, rfl, rfl, by simp⟩
  | cons line rest ih =>
    obtain ⟨l, l', given, given', outline, next⟩ :=
      outline_tokenize indexed reached same o o' (themes serial) (themes' serial') serial serial' line
    have same' : l.state.memory? = l'.state.memory? := (Prod.mk.inj (Prod.mk.inj outline).2).1
    obtain ⟨ls, ls', after, after', outlines, others⟩ :=
      ih (serial + 1) (serial' + 1) next same'
    refine ⟨l :: ls, l' :: ls', ?_, ?_, ?_, ?_⟩
    · simp [tokenizeUnder, given, after]
    · simp [tokenizeUnder, given', after']
    · rw [List.map_cons, List.map_cons, outline, outlines]
    · exact List.forall_mem_cons.mpr ⟨next, others⟩

structure SameOutlines (p q : Provider) : Prop where
  /-- A line in states with one memory. -/
  lines : ∀ theme theme' line state state', state.memory? = state'.memory? →
    (p.tokenize? theme line state).map Line.outline =
      (q.tokenize? theme' line state').map Line.outline
  /-- A line with packed attributes. -/
  packed : ∀ theme theme' line state state', state.memory? = state'.memory? →
    (p.encode theme line state).map Line.outline =
      (q.tokenize? theme' line state').map Line.outline
  /-- The lines of a text. Each has a theme of its own, if any, and none breaks off. -/
  texts : ∀ themes themes' serial serial' lines, ∃ ls ls',
    p.tokenizeUnder themes serial .initial lines = some ls ∧
    q.tokenizeUnder themes' serial' .initial lines = some ls' ∧
    ls.map EditorLine.outline = ls'.map EditorLine.outline ∧
    ∀ l ∈ ls, l.state = .initial ∨ ∃ made index, l.state = .made made (.block index)
  /-- A call during which the theme may be replaced at any time. -/
  calls : ∀ k source events, ∀ r ∈ ((Editing.start source).run p k events).results,
    ∀ theme' state', r.state.memory? = state'.memory? →
    r.result.map Line.outline = (q.tokenize? theme' r.line state').map Line.outline

/-- Options and themes change nothing but classes. Those of packed attributes are what the one
theme decodes that encoded them. -/
theorem sameOutlines_toGrammar {library : Regex.Library} {stateName : String} {j : Json}
    (accepted : ofJson library stateName j = .ok g) (o o' : Options) :
    SameOutlines ⟨g.toGrammar, o⟩ ⟨g.toGrammar, o'⟩ ∧
    (o.mode = .encoded → ∀ theme line state,
      (Provider.mk g.toGrammar o).tokenize? theme line state =
        ((Provider.mk g.toGrammar o).encode theme line state).map
          (·.map (theme.getD default).classOf)) := by
  have any : ∀ theme theme' line state state', state.memory? = state'.memory? →
      ((Provider.mk g.toGrammar o).tokenize? theme line state).map Line.outline =
        ((Provider.mk g.toGrammar o').tokenize? theme' line state').map Line.outline := by
    intro theme theme' line state state' same
    rw [outline_tokenize?, outline_tokenize?, g.tokenize_congr same]
  refine ⟨⟨any, ?_, ?_, ?_⟩, ?_⟩
  · intro theme theme' line state state' same
    rw [outline_encode, outline_tokenize?, g.tokenize_congr same]
  · intro themes themes' serial serial' lines
    obtain ⟨ls, ls', given, given', outlines, reached⟩ :=
      outline_tokenizeUnder (indexed_of_ofJson accepted) o o' themes themes' serial serial' lines
        .initial rfl
    refine ⟨ls, ls', given, given', outlines, ?_⟩
    intro l member
    rcases (reached l member).cases with initial | ⟨made, index, -, same, -⟩
    · exact .inl initial
    · exact .inr ⟨made, index, same⟩
  · intro k source events r member theme' state' same
    obtain ⟨-, -, given⟩ := (Editing.kept_start _ k source events).results r member
    rw [given]
    exact any _ _ _ _ _ same
  · intro mode theme line state
    unfold tokenize?
    simp only [mode]

/-- A provider without classes of its own, and one that packs attributes. -/
theorem sameOutlines_toGrammar_starred :
    let o : Options := { mode := .encoded, language := 7, fallback := false }
    ofJson .standard "block" starred = .ok (compiled starred) ∧
    SameOutlines ⟨(compiled starred).toGrammar, o⟩ ⟨(compiled starred).toGrammar, {}⟩ ∧
    o.mode = .encoded ∧ ∀ theme line state,
      (Provider.mk (compiled starred).toGrammar o).tokenize? theme line state =
        ((Provider.mk (compiled starred).toGrammar o).encode theme line state).map
          (·.map (theme.getD default).classOf) := by
  intro o
  have accepted : ofJson .standard "block" starred = .ok (compiled starred) :=
    eq_ok_getD (by decide +kernel)
  obtain ⟨outlines, decoded⟩ := sameOutlines_toGrammar accepted o {}
  exact ⟨accepted, outlines, rfl, decoded rfl⟩

/-- A block goes on into the second line, which alone has a theme; the third line fails. -/
example : ((Provider.mk (compiled starred).toGrammar {}).tokenizeUnder
    (fun moment => if moment = 1 then some (.ofSource Sample.darkTheme 0) else none) 0 .initial
    ["y<", "a>y", "z"]).map (·.map EditorLine.outline) =
      some [([0, 1], some (.block 0), none), ([0, 2], none, none),
        ([0], none, some (.lineFailed "empty match for rule 1 at 0"))] := by
  decide +kernel

end Provider

end TokenTheme
