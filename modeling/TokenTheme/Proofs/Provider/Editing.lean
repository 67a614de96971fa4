import Mathlib
import TokenTheme.Proofs.Theme.Traffic
import TokenTheme.Provider.Basic
/-!
# Lines while the theme changes

A provider tokenizes line after line in the theme of a channel, while calls to the theme service and
publications go on. A call asks the grammar, takes the snapshot of the moment and then classifies one
token after the other; with packed attributes the snapshot comes first, since the grammar needs it.
Anything may happen to the theme between two of these steps. `kept_run` says that the result of a
call is what `tokenize?` gives for one snapshot, and that the channel had this snapshot at a moment
between the beginning and the end of the call; `run_tokenize`, that a call returns.
-/
namespace TokenTheme

inductive Style where
  | scopes (scopes : List String)
  | packed (attributes : Attributes)

def Provider.classify (p : Provider) (theme : Snapshot) : Style → String
  | .scopes scopes => p.classOf (some theme) scopes
  | .packed attributes => theme.classOf attributes

namespace Editing

inductive Stage where
  | begun
  /-- The grammar has given scopes, and the theme is not looked at yet. -/
  | answered (l : Line (List String))
  /-- The snapshot is taken, and the grammar is not asked yet. -/
  | themed (theme : Snapshot)
  /-- Of the tokens some are left; those that are done stand in reverse. -/
  | classifying (theme : Snapshot) (left : List (Token Style)) (done : List (Token String))
      (ending : Ending)
  /-- There is a result. If the grammar failed before the theme was looked at, the snapshot is the
  one of that moment. -/
  | finished (theme : Snapshot) (result : Except Fault (Line String))

structure Call where
  line : String
  state : LineState
  /-- The moment after its beginning. -/
  begun : Nat
  stage : Stage

structure Result where
  line : String
  state : LineState
  begun : Nat
  /-- The moment after its end. -/
  ended : Nat
  theme : Snapshot
  result : Except Fault (Line String)

inductive Event where
  /-- Something happens to the theme. -/
  | theme (event : Traffic.Event)
  /-- A call begins, if the channel is there and no other call is under way. -/
  | tokenize (line : String) (state : LineState)
  /-- The call that is under way makes a step. -/
  | work

end Editing

/-- A provider at work. Moments are counted by events. -/
structure Editing where
  traffic : Traffic
  moment : Nat := 0
  call : Option Editing.Call := none
  /-- The calls that have returned, the last first. -/
  results : List Editing.Result := []

namespace Editing

variable (p : Provider) (k : Nat)

def current (s : Editing) : Option Snapshot := (s.traffic.service.channel? k).map (·.snapshot)

/-- A step of a call, at a moment when the channel has the snapshot `now`. -/
def advance (now : Snapshot) (line : String) (state : LineState) : Stage → Stage
  | .begun =>
    match p.options.mode with
    | .scopes =>
      match p.grammar.tokenize line state with
      | .ok l => .answered l
      | .error f => .finished now (.error f)
    | .encoded => .themed now
  | .answered l => .classifying now (l.map Style.scopes).tokens [] l.ending
  | .themed theme =>
    match p.encode (some theme) line state with
    | .ok l => .classifying theme (l.map Style.packed).tokens [] l.ending
    | .error f => .finished theme (.error f)
  | .classifying theme (t :: left) done ending =>
    .classifying theme left (t.map (p.classify theme) :: done) ending
  | .classifying theme [] done ending => .finished theme (.ok ⟨done.reverse, ending⟩)
  | .finished theme result => .finished theme result

def work (s : Editing) (c : Call) (now : Snapshot) : Option Call × List Result :=
  match c.stage with
  | .finished theme result =>
    (none, ⟨c.line, c.state, c.begun, s.moment + 1, theme, result⟩ :: s.results)
  | stage => (some { c with stage := advance p now c.line c.state stage }, s.results)

def act (s : Editing) : Event → Editing
  | .theme event => { s with traffic := s.traffic.step event }
  | .tokenize line state =>
    match s.call, s.current k with
    | none, some _ => { s with call := some ⟨line, state, s.moment + 1, .begun⟩ }
    | _, _ => s
  | .work =>
    match s.call, s.current k with
    | some c, some now => { s with call := (work p s c now).1, results := (work p s c now).2 }
    | _, _ => s

def step (s : Editing) (event : Event) : Editing :=
  { act p k s event with moment := s.moment + 1 }

def run (s : Editing) (events : List Event) : Editing := events.foldl (step p k) s

/-! ### What a call gives -/

/-- The channel had a snapshot at a moment from `begun` to `ended`. -/
def Seen (shown : Nat → Option Snapshot) (begun ended : Nat) (theme : Snapshot) : Prop :=
  ∃ n, begun ≤ n ∧ n ≤ ended ∧ shown n = some theme

/-- A call, at a moment, is on the way to what `tokenize?` gives for the snapshot that it has taken. -/
inductive Right (p : Provider) (shown : Nat → Option Snapshot) (moment : Nat) (line : String)
    (state : LineState) (begun : Nat) : Stage → Prop where
  | begun : Right p shown moment line state begun .begun
  | answered {l : Line (List String)} : p.options.mode = .scopes →
      p.grammar.tokenize line state = .ok l → Right p shown moment line state begun (.answered l)
  | themed {theme : Snapshot} : p.options.mode = .encoded → Seen shown begun moment theme →
      Right p shown moment line state begun (.themed theme)
  | classifying {theme : Snapshot} {left : List (Token Style)} {done : List (Token String)}
      {ending : Ending} : Seen shown begun moment theme →
      p.tokenize? (some theme) line state =
        .ok ⟨done.reverse ++ left.map (·.map (p.classify theme)), ending⟩ →
      Right p shown moment line state begun (.classifying theme left done ending)
  | finished {theme : Snapshot} {result : Except Fault (Line String)} :
      Seen shown begun moment theme → result = p.tokenize? (some theme) line state →
      Right p shown moment line state begun (.finished theme result)

variable {p k} {shown : Nat → Option Snapshot} {m : Nat} {s : Editing} {line : String}
  {state : LineState} {begun : Nat} {stage : Stage}

theorem Seen.later {theme : Snapshot} {n : Nat} (seen : Seen shown begun m theme) (later : m ≤ n) :
    Seen shown begun n theme := by
  obtain ⟨i, first, last, same⟩ := seen
  exact ⟨i, first, Nat.le_trans last later, same⟩

theorem Right.later (right : Right p shown m line state begun stage) :
    Right p shown (m + 1) line state begun stage := by
  cases right with
  | begun => exact .begun
  | answered mode made => exact .answered mode made
  | themed mode seen => exact .themed mode (seen.later (Nat.le_succ m))
  | classifying seen given => exact .classifying (seen.later (Nat.le_succ m)) given
  | finished seen given => exact .finished (seen.later (Nat.le_succ m)) given

theorem right_advance {now : Snapshot} (right : Right p shown m line state begun stage)
    (early : begun ≤ m) (showing : shown m = some now) :
    Right p shown m line state begun (advance p now line state stage) := by
  have seen : Seen shown begun m now := ⟨m, early, Nat.le_refl m, showing⟩
  cases right with
  | begun =>
    simp only [advance]
    cases mode : p.options.mode with
    | scopes =>
      cases made : p.grammar.tokenize line state with
      | ok l => exact .answered mode made
      | error f =>
        refine .finished seen ?_
        simp only [Provider.tokenize?, mode, made]
        rfl
    | encoded => exact .themed mode seen
  | answered mode made =>
    refine .classifying seen ?_
    simp only [Provider.tokenize?, mode, made]
    simp [Except.map, Line.map, Token.map, Provider.classify]
  | themed mode seen =>
    rename_i theme
    simp only [advance]
    cases made : p.encode (some theme) line state with
    | ok l =>
      refine .classifying seen ?_
      simp only [Provider.tokenize?, mode, made]
      simp [Except.map, Line.map, Token.map, Provider.classify]
    | error f =>
      refine .finished seen ?_
      simp only [Provider.tokenize?, mode, made]
      rfl
  | @classifying theme left done ending seen given =>
    cases left with
    | nil => exact .finished seen (by simp [given])
    | cons t left => exact .classifying seen (by simp [given])
  | finished seen given => exact .finished seen given

structure Kept (p : Provider) (k : Nat) (shown : Nat → Option Snapshot) (s : Editing) : Prop where
  now : shown s.moment = s.current k
  call : ∀ c, s.call = some c → c.begun ≤ s.moment ∧
    Right p shown s.moment c.line c.state c.begun c.stage ∧ ∀ r ∈ s.results, r.ended ≤ c.begun
  results : ∀ r ∈ s.results, r.ended ≤ s.moment ∧ Seen shown r.begun r.ended r.theme ∧
    r.result = p.tokenize? (some r.theme) r.line r.state
  order : s.results.Pairwise fun later earlier => earlier.ended ≤ later.begun

theorem results_later (kept : Kept p k shown s) : ∀ r ∈ s.results, r.ended ≤ s.moment + 1 ∧
    Seen shown r.begun r.ended r.theme ∧ r.result = p.tokenize? (some r.theme) r.line r.state := by
  intro r member
  obtain ⟨ended, result⟩ := kept.results r member
  exact ⟨Nat.le_succ_of_le ended, result⟩

theorem kept_of_same {traffic : Traffic} (kept : Kept p k shown s)
    (now : shown (s.moment + 1) = Editing.current k { s with traffic := traffic }) :
    Kept p k shown { s with traffic := traffic, moment := s.moment + 1 } := by
  refine ⟨now, ?_, results_later kept, kept.order⟩
  intro c calling
  obtain ⟨early, right, after⟩ := kept.call c calling
  exact ⟨Nat.le_succ_of_le early, right.later, after⟩

theorem work_of_unfinished {c : Call} {now : Snapshot}
    (unfinished : ∀ theme result, c.stage ≠ .finished theme result) :
    work p s c now =
      (some { c with stage := advance p now c.line c.state c.stage }, s.results) := by
  unfold work
  split
  · rename_i theme result finished
    exact absurd finished (unfinished theme result)
  · rfl

theorem kept_work {c : Call} {now : Snapshot} (kept : Kept p k shown s) (calling : s.call = some c)
    (showing : s.current k = some now) (next : shown (s.moment + 1) = s.current k) :
    Kept p k shown
      { s with
        moment := s.moment + 1
        call := (work p s c now).1
        results := (work p s c now).2 } := by
  obtain ⟨early, right, after⟩ := kept.call c calling
  by_cases finished : ∃ theme result, c.stage = .finished theme result
  · obtain ⟨theme, result, finished⟩ := finished
    rw [finished] at right
    cases right with
    | finished seen given =>
      have returned : work p s c now =
          (none, ⟨c.line, c.state, c.begun, s.moment + 1, theme, result⟩ :: s.results) := by
        simp only [work, finished]
      rw [returned]
      refine ⟨next, ?_, ?_, List.pairwise_cons.mpr ⟨after, kept.order⟩⟩
      · intro c' none
        cases none
      · intro r member
        rcases List.mem_cons.mp member with rfl | before
        · exact ⟨Nat.le_refl _, seen.later (Nat.le_succ _), given⟩
        · exact results_later kept r before
  · push Not at finished
    rw [work_of_unfinished finished]
    refine ⟨next, ?_, results_later kept, kept.order⟩
    rintro c' same
    cases same
    have still := right_advance right early (kept.now.trans showing)
    exact ⟨Nat.le_succ_of_le early, still.later, after⟩

theorem kept_step {event : Event} (kept : Kept p k shown s)
    (next : shown (s.moment + 1) = (step p k s event).current k) :
    Kept p k shown (step p k s event) := by
  have idle : step p k s event = { s with moment := s.moment + 1 } →
      Kept p k shown (step p k s event) := by
    intro same
    rw [same] at next ⊢
    exact kept_of_same kept next
  cases event with
  | theme event => exact kept_of_same kept next
  | tokenize line state =>
    cases calling : s.call with
    | some c => exact idle (by simp only [step, act, calling])
    | none =>
      cases showing : s.current k with
      | none => exact idle (by simp only [step, act, calling, showing])
      | some now =>
        have same : step p k s (.tokenize line state) =
            { s with
              moment := s.moment + 1
              call := some ⟨line, state, s.moment + 1, .begun⟩ } := by
          simp only [step, act, calling, showing]
        rw [same] at next ⊢
        refine ⟨next, ?_, results_later kept, kept.order⟩
        rintro c same
        cases same
        exact ⟨Nat.le_refl _, .begun, fun r member => (results_later kept r member).1⟩
  | work =>
    cases calling : s.call with
    | none => exact idle (by simp only [step, act, calling])
    | some c =>
      cases showing : s.current k with
      | none => exact idle (by simp only [step, act, calling, showing])
      | some now =>
        have same : step p k s .work =
            { s with
              moment := s.moment + 1
              call := (work p s c now).1
              results := (work p s c now).2 } := by
          simp only [step, act, calling, showing]
        rw [same] at next ⊢
        exact kept_work kept calling showing next

theorem kept_run {events : List Event} (kept : Kept p k shown s)
    (history : ∀ n ≤ events.length, shown (s.moment + n) = (s.run p k (events.take n)).current k) :
    Kept p k shown (s.run p k events) := by
  induction events generalizing s with
  | nil => exact kept
  | cons event rest ih =>
    have next : shown (s.moment + 1) = (step p k s event).current k :=
      history 1 (Nat.le_add_left 1 _)
    refine ih (kept_step kept next) ?_
    intro n inside
    have later := history (n + 1) (Nat.succ_le_succ inside)
    rw [List.take_succ_cons] at later
    have moment : (step p k s event).moment + n = s.moment + (n + 1) := by
      show s.moment + 1 + n = _
      omega
    rw [moment, later]
    rfl

/-! ### The theme from moment to moment -/

theorem traffic_step (event : Event) :
    (step p k s event).traffic = s.traffic ∨
      ∃ e, event = .theme e ∧ (step p k s event).traffic = s.traffic.step e := by
  cases event with
  | theme e => exact .inr ⟨e, rfl, rfl⟩
  | tokenize line state =>
    left
    simp only [step, act]
    split <;> rfl
  | work =>
    left
    simp only [step, act]
    split <;> rfl

theorem traffic_run (events : List Event) :
    ∃ es, (s.run p k events).traffic = s.traffic.run es := by
  induction events generalizing s with
  | nil => exact ⟨[], rfl⟩
  | cons event rest ih =>
    obtain ⟨es, same⟩ := ih (s := step p k s event)
    rcases traffic_step (p := p) (k := k) (s := s) event with kept | ⟨e, -, moved⟩
    · exact ⟨es, same.trans (by rw [kept])⟩
    · exact ⟨e :: es, same.trans (by rw [moved]; rfl)⟩

theorem current_run (events : List Event) {theme : Snapshot} (showing : s.current k = some theme) :
    ∃ later, (s.run p k events).current k = some later ∧ theme.version ≤ later.version := by
  obtain ⟨c, there, rfl⟩ := Option.map_eq_some_iff.mp showing
  obtain ⟨es, same⟩ := traffic_run (p := p) (k := k) (s := s) events
  obtain ⟨d, found, later⟩ := Traffic.channel_run es there
  refine ⟨d.snapshot, ?_, later⟩
  unfold current
  rw [same, found, Option.map_some]

/-! ### Calls that nothing interrupts -/

/-- What is left of a call: the parts of its way, and in the last of them the tokens. -/
def Stage.rank : Stage → Nat ×ₗ Nat
  | .begun => toLex (3, 0)
  | .answered _ => toLex (2, 0)
  | .themed _ => toLex (2, 0)
  | .classifying _ left _ _ => toLex (1, left.length)
  | .finished _ _ => toLex (0, 0)

theorem rank_advance {now : Snapshot} (unfinished : ∀ theme result, stage ≠ .finished theme result) :
    (advance p now line state stage).rank < stage.rank := by
  cases stage with
  | begun =>
    simp only [advance]
    split
    · split <;> exact Prod.Lex.toLex_lt_toLex.mpr (.inl (by decide))
    · exact Prod.Lex.toLex_lt_toLex.mpr (.inl (by decide))
  | answered l => exact Prod.Lex.toLex_lt_toLex.mpr (.inl Nat.one_lt_two)
  | themed theme =>
    simp only [advance]
    split
    · exact Prod.Lex.toLex_lt_toLex.mpr (.inl Nat.one_lt_two)
    · exact Prod.Lex.toLex_lt_toLex.mpr (.inl Nat.two_pos)
  | classifying theme left done ending =>
    cases left with
    | nil => exact Prod.Lex.toLex_lt_toLex.mpr (.inl (by decide))
    | cons t left => exact Prod.Lex.toLex_lt_toLex.mpr (.inr ⟨rfl, Nat.lt_succ_self _⟩)
  | finished theme result => exact absurd rfl (unfinished theme result)

theorem returns {c : Call} {now : Snapshot} (calling : s.call = some c)
    (showing : s.current k = some now) (early : c.begun ≤ m)
    (right : Right p (fun _ => some now) m c.line c.state c.begun c.stage) :
    ∃ n ended, s.run p k (List.replicate n .work) =
      { s with
        moment := s.moment + n
        call := none
        results := ⟨c.line, c.state, c.begun, ended, now,
          p.tokenize? (some now) c.line c.state⟩ :: s.results } := by
  obtain ⟨rank, ranked⟩ : ∃ rank, c.stage.rank = rank := ⟨_, rfl⟩
  induction rank using WellFoundedLT.induction generalizing s c with
  | ind rank ih =>
    have stepped : step p k s .work =
        { s with
          moment := s.moment + 1
          call := (work p s c now).1
          results := (work p s c now).2 } := by
      simp only [step, act, calling, showing]
    by_cases finished : ∃ theme result, c.stage = .finished theme result
    · obtain ⟨theme, result, finished⟩ := finished
      rw [finished] at right
      cases right with
      | finished seen given =>
        obtain ⟨_, -, -, shown⟩ := seen
        cases shown
        refine ⟨1, s.moment + 1, ?_⟩
        show step p k s .work = _
        rw [stepped]
        simp only [work, finished, given]
    · push Not at finished
      rw [work_of_unfinished finished] at stepped
      have lower : (advance p now c.line c.state c.stage).rank < rank :=
        ranked ▸ rank_advance finished
      have calling' : (step p k s .work).call =
          some { c with stage := advance p now c.line c.state c.stage } := by
        rw [stepped]
      have showing' : (step p k s .work).current k = some now := by
        rw [stepped]
        exact showing
      obtain ⟨n, ended, ran⟩ :=
        ih _ lower calling' showing' early (right_advance right early rfl) rfl
      refine ⟨n + 1, ended, ?_⟩
      show (step p k s .work).run p k (List.replicate n .work) = _
      rw [ran, stepped]
      simp only [Editing.mk.injEq, and_true, true_and]
      omega

/-- A call that nothing interrupts gives what `tokenize?` gives for the snapshot of the moment. -/
theorem run_tokenize {now : Snapshot} (idle : s.call = none) (showing : s.current k = some now)
    (line : String) (state : LineState) :
    ∃ n ended, s.run p k (.tokenize line state :: List.replicate n .work) =
      { s with
        moment := s.moment + 1 + n
        results := ⟨line, state, s.moment + 1, ended, now,
          p.tokenize? (some now) line state⟩ :: s.results } := by
  have begun : step p k s (.tokenize line state) =
      { s with
        moment := s.moment + 1
        call := some ⟨line, state, s.moment + 1, .begun⟩ } := by
    simp only [step, act, idle, showing]
  have calling : (step p k s (.tokenize line state)).call =
      some ⟨line, state, s.moment + 1, .begun⟩ := by
    rw [begun]
  have showing' : (step p k s (.tokenize line state)).current k = some now := by
    rw [begun]
    exact showing
  obtain ⟨n, ended, ran⟩ := returns (p := p) calling showing' (Nat.le_refl _) .begun
  refine ⟨n, ended, ?_⟩
  show (step p k s (.tokenize line state)).run p k (List.replicate n .work) = _
  rw [ran, begun, ← idle]

end Editing

end TokenTheme
