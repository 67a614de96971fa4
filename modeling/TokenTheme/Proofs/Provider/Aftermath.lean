import Mathlib
import TokenTheme.Proofs.Provider.Abandoning
import TokenTheme.Proofs.Provider.Latest
/-!
# What a construction leaves that goes away

A construction that goes away without a result leaves its entry behind. Whoever waits for it is told,
and if he finds the entry he removes the entry of the name. He has looked whether it is the one he
waited for, but that is another step: if somebody else has removed it in between, a newer one may have
come in its place. As long as the entry is there every new request finds it and is told the same; from
then on the requests have constructions that were started since.
-/
namespace TokenTheme.Session

variable {s t : Session} {scopeName : String} {number : Nat} {event : Event} {i : Nat} {r : Request}

def Gone (s : Session) (scopeName : String) (number : Nat) : Prop :=
  s.cache.constructions[number]? = some ⟨scopeName, .gone⟩

def Notices (s : Session) (number : Nat) (event : Event) : Prop :=
  ∃ i r, event = .poll i ∧ s.requests[i]? = some r ∧ r.number = number

inductive Noticed (number : Nat) : Session → List Event → Prop where
  | now {s : Session} {event : Event} {rest : List Event} : s.Notices number event →
      Noticed number s (event :: rest)
  | later {s : Session} {event : Event} {rest : List Event} :
      Noticed number (s.step event) rest → Noticed number s (event :: rest)

/-! ### Those who wait -/

theorem gone_run (events : List Event) (gone : s.Gone scopeName number) :
    (s.run events).Gone scopeName number :=
  ended_run events gone rfl

theorem told_of_gone (safe : s.Safe) (gone : s.Gone scopeName number) (member : r ∈ s.requests)
    (waits : r.number = number) : r = ⟨scopeName, number, r.reply⟩ ∧
      ∀ reply, r.reply = some reply → reply = .error (.constructionAborted scopeName) := by
  obtain ⟨stage, constructed, answered⟩ := safe.waits r member
  rw [waits] at constructed
  cases gone.symm.trans constructed
  refine ⟨by rw [← waits], fun reply given => ?_⟩
  exact (Option.some.inj (answered reply given)).symm

theorem requests_clear (found : s.requests[i]? = some r) (clears : i ∈ s.clearing) :
    (s.step (.clear i)).requests[i]? =
      some ⟨r.scopeName, r.number, some (.error (.constructionAborted r.scopeName))⟩ := by
  rw [step_clear_of_mem found clears]
  exact List.getElem?_set_self (List.getElem?_eq_some_iff.mp found).1

theorem requests_of_gone (safe : s.Safe) (gone : s.Gone scopeName number)
    (found : s.requests[i]? = some r) (waits : r.number = number) :
    ((s.step (.poll i)).step (.clear i)).requests[i]? =
      some ⟨scopeName, number, some (.error (.constructionAborted scopeName))⟩ := by
  obtain ⟨same, told⟩ := told_of_gone safe gone (List.mem_of_getElem? found) waits
  by_cases clears : i ∈ s.clearing
  · have idle : s.awaits i = false := by simp [awaits, clears]
    rw [step_poll_of_not_awaits idle, requests_clear found clears, same]
  · cases given : r.reply with
    | some reply =>
      have idle : s.awaits i = false := by simp [awaits, found, given]
      rw [step_poll_of_not_awaits idle, step_clear_of_not_mem clears, found, same, given,
        told reply given]
    | none =>
      rw [given] at same
      rw [same] at found
      rw [step_poll_of_awaits found clears]
      split
      · exact requests_clear (s := { s with clearing := i :: s.clearing }) found List.mem_cons_self
      · rw [step_clear_of_not_mem (s := { s with requests := s.requests.set i _ }) clears,
          List.getElem?_set_self (List.getElem?_eq_some_iff.mp found).1, Cache.reply?, gone]
        rfl

/-! ### The entry that is left -/

/-- A request that is about to remove an entry since this poll has found that of its construction. -/
theorem entered_of_clears (safe : s.Safe) (found : s.requests[i]? = some r)
    (before : i ∉ s.clearing) (after : i ∈ (s.step (.poll i)).clearing) :
    (r.scopeName, r.number) ∈ s.cache.entries := by
  rcases clearing_of_step _ after with old | ⟨-, name, m, found', stranded⟩
  · exact absurd old before
  · cases found.symm.trans found'
    exact safe.cache.owns_iff.mp (Bool.and_eq_true_iff.mp stranded).2

/-- The entry of a construction that went away is there, and nobody is about to remove an entry of its
name. -/
structure Lingers (scopeName : String) (number : Nat) (s : Session) : Prop where
  safe : s.Safe
  gone : s.Gone scopeName number
  entered : (scopeName, number) ∈ s.cache.entries
  clearing : ∀ i ∈ s.clearing, ∀ r, s.requests[i]? = some r → r.scopeName ≠ scopeName
  withdraws : ∀ (m : Nat) stage, s.cache.constructions[m]? = some ⟨scopeName, stage⟩ → ¬ stage.withdraws

section Lingers

variable (lingers : Lingers scopeName number s)
include lingers

theorem Lingers.stays (event : Event) : s.removed? event ≠ some scopeName := by
  intro removes
  cases event with
  | ask name => cases removes
  | poll i => cases removes
  | clear i =>
    rw [removed?] at removes
    split at removes
    · rename_i clears
      obtain ⟨r, found, named⟩ := Option.map_eq_some_iff.mp removes
      exact lingers.clearing i clears r found named
    · cases removes
  | work m act =>
    cases act with
    | withdraw =>
      obtain ⟨⟨name, stage⟩, found, removes⟩ := Option.bind_eq_some_iff.mp removes
      dsimp only at removes
      split at removes
      · rename_i withdraws
        cases removes
        exact lingers.withdraws m stage found withdraws
      · cases removes
    | _ => cases removes

theorem Lingers.entered_step (event : Event) :
    (scopeName, number) ∈ (s.step event).cache.entries :=
  (mem_entries_step_iff event (List.getElem?_eq_some_iff.mp lingers.gone).1).mpr
    ⟨lingers.entered, lingers.stays event⟩

theorem Lingers.clearing_step (unnoticed : ¬ s.Notices number event) {i : Nat} {r : Request}
    (clears : i ∈ (s.step event).clearing) (found : (s.step event).requests[i]? = some r) :
    r.scopeName ≠ scopeName := by
  rcases clearing_of_step event clears with before | ⟨rfl, name, m, waiting, stranded⟩
  · obtain ⟨name, m, earlier, -⟩ := lingers.safe.clearing i before
    cases (requests_step_of_clearing event earlier clears).symm.trans found
    exact lingers.clearing i before _ earlier
  · cases (requests_step_of_clearing _ waiting clears).symm.trans found
    rintro rfl
    -- It has found its own entry, which is then that of the construction that went away.
    have own := lingers.safe.cache.owns_iff.mp (Bool.and_eq_true_iff.mp stranded).2
    exact unnoticed ⟨i, _, rfl, waiting, lingers.safe.cache.eq_of_mem own lingers.entered⟩

theorem Lingers.withdraws_step (event : Event) {m : Nat} {stage : Stage}
    (found : (s.step event).cache.constructions[m]? = some ⟨scopeName, stage⟩) :
    ¬ stage.withdraws := by
  intro withdraws
  rcases constructions_of_step event found with ⟨old, before⟩ | ⟨-, -, -, new⟩
  · have still := lingers.withdraws m old before
    have changed : stage ≠ old := by
      rintro rfl
      exact still withdraws
    obtain ⟨act, rfl, turn⟩ := turn_of_change before found changed
    cases stage with
    | failing error owned =>
      obtain rfl : owned = true := withdraws
      have own := lingers.safe.cache.owns_iff.mp (turn.owned error true rfl).symm
      obtain rfl := lingers.safe.cache.eq_of_mem own lingers.entered
      cases lingers.gone.symm.trans before
      cases turn.next.reply?_eq_none scopeName m
    | _ => cases withdraws
  · obtain rfl : stage = .started := new
    cases withdraws

theorem lingers_step (unnoticed : ¬ s.Notices number event) :
    Lingers scopeName number (s.step event) where
  safe := step_safe event lingers.safe
  gone := ended_step event lingers.gone rfl
  entered := lingers.entered_step event
  clearing _ clears _ found := lingers.clearing_step unnoticed clears found
  withdraws _ _ found := lingers.withdraws_step event found

end Lingers

theorem lingers_run {events : List Event} (lingers : Lingers scopeName number s)
    (unnoticed : ¬ Noticed number s events) : Lingers scopeName number (s.run events) := by
  induction events generalizing s with
  | nil => exact lingers
  | cons event rest ih =>
    have here : ¬ s.Notices number event := fun notices => unnoticed (.now notices)
    exact ih (lingers_step lingers here) fun noticed => unnoticed (.later noticed)

/-! ### All together -/

/-- What comes after a construction that has just gone away, whatever is done then. -/
structure Aftermath (s : Session) (scopeName : String) (number : Nat) : Prop where
  /-- Nobody who waits has an answer yet, or has found that there is none to come. -/
  waiting : ∀ (i : Nat) r, s.requests[i]? = some r → r.number = number →
    r.reply = none ∧ i ∉ s.clearing
  /-- Whoever waits, or comes to wait, is told that the construction was aborted and nothing else,
  and is told so when polled. -/
  told : ∀ after i r, (s.run after).requests[i]? = some r → r.number = number →
    (∀ reply, r.reply = some reply → reply = .error (.constructionAborted scopeName)) ∧
    (((s.run after).step (.poll i)).step (.clear i)).requests[i]? =
      some ⟨scopeName, number, some (.error (.constructionAborted scopeName))⟩
  /-- The entry is there until the entry of the name is removed, and not after that. -/
  entry : ∀ after, (s.run after).cache.entries.lookup scopeName = some number ↔
    s.cache.entries.lookup scopeName = some number ∧ ¬ Removed scopeName s after
  /-- If no other construction of the name has gone away, the entry is there and stays as long as
  nobody who waits is polled. -/
  left : (∀ m, s.Gone scopeName m → m = number) → ∀ after, ¬ Noticed number s after →
    (s.run after).cache.entries.lookup scopeName = some number
  /-- As long as the entry is there, a new request has the construction that went away. -/
  joined : ∀ after, (s.run after).cache.entries.lookup scopeName = some number →
    ((s.run after).step (.ask scopeName)).requests =
      (s.run after).requests ++ [⟨scopeName, number, none⟩]
  /-- Once it is not, new requests have constructions that were started since it went away, or the one
  that had the entry by then. -/
  renewed : ∀ after later i r, (s.run after).cache.entries.lookup scopeName ≠ some number →
    ((s.run after).run later).requests[i]? = some r → (s.run after).requests.length ≤ i →
      r.scopeName = scopeName → r.number ≠ number ∧
        (s.cache.constructions.length ≤ r.number ∨
          s.cache.entries.lookup scopeName = some r.number)
  /-- Whoever waits and finds the entry removes the entry that the name has later. It is the one he has
  found unless an entry of the name was removed in between, and otherwise another one, if any. No
  other name is touched. -/
  taken : ∀ after between i r, (s.run after).requests[i]? = some r → r.number = number →
    i ∉ (s.run after).clearing → i ∈ ((s.run after).step (.poll i)).clearing →
      let found := (s.run after).step (.poll i)
      ((found.run between).cache.entries.lookup scopeName = some number ↔
          ¬ Removed scopeName found between) ∧
        (i ∈ (found.run between).clearing → ∀ name,
          ((found.run between).step (.clear i)).cache.entries.lookup name =
            if name = scopeName then none else (found.run between).cache.entries.lookup name)

section Aftermath

variable (safe : s.Safe) (gone : s.Gone scopeName number)
include safe gone

theorem lookup_run_iff (events : List Event) :
    (s.run events).cache.entries.lookup scopeName = some number ↔
      s.cache.entries.lookup scopeName = some number ∧ ¬ Removed scopeName s events := by
  rw [Cache.lookup_eq_some_iff (run_safe events safe).cache, Cache.lookup_eq_some_iff safe.cache]
  exact mem_entries_run_iff events (List.getElem?_eq_some_iff.mp gone).1

theorem renewed_of_missing (after : List Event)
    (missing : (s.run after).cache.entries.lookup scopeName ≠ some number) :
    Renewed (fun m => m ≠ number ∧ (s.cache.constructions.length ≤ m ∨
        s.cache.entries.lookup scopeName = some m))
      (s.run after).requests.length scopeName (s.run after) := by
  have start : Renewed (fun m => s.cache.constructions.length ≤ m ∨
      s.cache.entries.lookup scopeName = some m) s.requests.length scopeName s := by
    refine ⟨fun m later => .inl later, ?_, ?_⟩
    · intro m entered
      exact .inr (lookup_of_mem safe.cache.keys entered)
    · intro i r found later
      exact absurd (List.getElem?_eq_some_iff.mp found).1 (Nat.not_lt.mpr later)
  have later := renewed_run after start
  have old := (List.getElem?_eq_some_iff.mp (gone_run after gone)).1
  refine ⟨fun m new => ⟨by omega, later.new m new⟩, ?_, ?_⟩
  · intro m entered
    refine ⟨?_, later.entries m entered⟩
    rintro rfl
    exact missing (lookup_of_mem (run_safe after safe).cache.keys entered)
  · intro i r found new
    exact absurd (List.getElem?_eq_some_iff.mp found).1 (Nat.not_lt.mpr new)

theorem taken_of_gone (between : List Event) (found : s.requests[i]? = some r)
    (waits : r.number = number) (before : i ∉ s.clearing)
    (clears : i ∈ (s.step (.poll i)).clearing) :
    (((s.step (.poll i)).run between).cache.entries.lookup scopeName = some number ↔
        ¬ Removed scopeName (s.step (.poll i)) between) ∧
      (i ∈ ((s.step (.poll i)).run between).clearing → ∀ name,
        (((s.step (.poll i)).run between).step (.clear i)).cache.entries.lookup name =
          if name = scopeName then none
          else ((s.step (.poll i)).run between).cache.entries.lookup name) := by
  have entered := entered_of_clears safe found before clears
  obtain ⟨same, -⟩ := told_of_gone safe gone (List.mem_of_getElem? found) waits
  rw [same] at found entered
  constructor
  · rw [lookup_run_iff (step_safe _ safe) (ended_step _ gone rfl) between, cache_poll]
    exact and_iff_right (lookup_of_mem safe.cache.keys entered)
  · intro still name
    obtain ⟨reply, polled⟩ := requests_step (.poll i) found
    obtain ⟨reply, later⟩ := requests_run between polled
    rw [step_clear_of_mem later still]
    exact lookup_filter_ne scopeName

end Aftermath

theorem aftermath_of_gone (safe : s.Safe) (gone : s.Gone scopeName number)
    (waiting : ∀ (i : Nat) r, s.requests[i]? = some r → r.number = number →
      r.reply = none ∧ i ∉ s.clearing)
    (left : (∀ m, s.Gone scopeName m → m = number) → Lingers scopeName number s) :
    Aftermath s scopeName number where
  waiting := waiting
  told := by
    intro after i r found waits
    have later := run_safe after safe
    have still := gone_run after gone
    exact ⟨(told_of_gone later still (List.mem_of_getElem? found) waits).2,
      requests_of_gone later still found waits⟩
  entry := lookup_run_iff safe gone
  left := by
    intro only after unnoticed
    have lingers := lingers_run (left only) unnoticed
    exact lookup_of_mem lingers.safe.cache.keys lingers.entered
  joined := by
    intro after read
    simp only [step, Cache.request_of_lookup read]
  renewed := by
    intro after later i r missing found new named
    exact (renewed_run later (renewed_of_missing safe gone after missing)).asked i r found new named
  taken := by
    intro after between i r found waits before clears
    exact taken_of_gone (run_safe after safe) (gone_run after gone) between found waits before clears

/-- The first construction of a name that goes away leaves its entry, and nobody is about to remove an
entry of that name. -/
theorem lingers_of_turn {act : Cache.Act} {old : Stage} (safe : s.Safe)
    (entered : ¬ s.Away scopeName → s.cache.Entered scopeName)
    (turn : s.cache.Turn (s.step (.work number act)).cache number scopeName old .gone)
    (unfinished : old.unfinished)
    (only : ∀ m, (s.step (.work number act)).Gone scopeName m → m = number) :
    Lingers scopeName number (s.step (.work number act)) := by
  have present : ¬ s.Away scopeName := by
    rintro ⟨m, gone⟩
    obtain rfl := only m (ended_step _ gone rfl)
    cases turn.found.symm.trans gone
    cases unfinished
  have there := entered present
  have own := there number old turn.found (Stage.hopeful_of_unfinished unfinished)
  refine {
    safe := step_safe _ safe
    gone := turn.constructions_self
    entered := turn.mem_entries.mpr ⟨own, ?_⟩
    clearing := ?_
    withdraws := ?_ }
  · rintro ⟨withdraws, -⟩
    have next := turn.next
    cases next with
    | abandoned running =>
      rw [Stage.not_withdraws_of_running running] at withdraws
      cases withdraws
  · rintro i clears r found rfl
    exact present (away_of_clearing safe clears found)
  · intro m stage found withdraws
    by_cases same : m = number
    · subst same
      cases turn.constructions_self.symm.trans found
      cases withdraws
    · rw [turn.constructions_of_ne same] at found
      have other := there m stage found (Stage.hopeful_of_withdraws withdraws)
      exact same (safe.cache.eq_of_mem other own)

/-- However a construction goes away, and whenever it does, those who wait for it are told. A later
request is told so too as long as the entry is there, and that is as long as nobody who waits is
polled, if nothing else of the name has gone away. -/
theorem aftermath_step (source : Source) (compiler : Compiler) (engine : Regex.Engine)
    (options : Options) {events : List Event}
    (unfinished : ((fresh source compiler engine options).run events).Unfinished scopeName number)
    (gone : (((fresh source compiler engine options).run events).step event).Gone scopeName
      number) :
    Aftermath (((fresh source compiler engine options).run events).step event) scopeName number := by
  have start := safe_fresh source compiler engine options
  have safe := run_safe events start
  obtain ⟨old, constructed, unfinished⟩ := unfinished
  have changed : Stage.gone ≠ old := by
    rintro rfl
    cases unfinished
  obtain ⟨act, rfl, turn⟩ := turn_of_change constructed gone changed
  refine aftermath_of_gone (step_safe _ safe) gone ?_ ?_
  · intro i r found waits
    obtain ⟨stage, constructed', answered⟩ := safe.waits r (List.mem_of_getElem? found)
    rw [waits] at constructed'
    cases constructed.symm.trans constructed'
    refine ⟨Option.eq_none_iff_forall_ne_some.mpr fun reply given => ?_, fun clears => ?_⟩
    · cases (turn.next.reply?_eq_none r.scopeName r.number).symm.trans (answered reply given)
    · obtain ⟨name, m, found', away⟩ := safe.clearing i clears
      cases found.symm.trans found'
      obtain rfl : m = number := waits
      cases constructed.symm.trans away
      exact changed rfl
  · exact lingers_of_turn safe
      (fun present => entered_run events start present nofun) turn unfinished

def begun : List Event := [.ask "source.json", .work 0 .begin, .work 0 .prepare]

/-- The compiler goes away, and before the first request is polled there comes another one. It
has the construction that went away, and a third one does not. -/
def joining : List Event :=
  [.work 0 .compile, .ask "source.json", .poll 0, .clear 0, .ask "source.json"]

/-- Two requests wait when the construction goes away. Both find its entry, and the second one removes
an entry that was made since. -/
def racing : List Event :=
  [.ask "source.json", .work 0 .compile, .poll 0, .poll 1, .clear 0, .ask "source.json", .clear 1]

theorem aftermath_step_begun :
    ((fresh reliable fragile .standard {}).run begun).Unfinished "source.json" 0 ∧
      (((fresh reliable fragile .standard {}).run begun).step (.work 0 .compile)).Gone
        "source.json" 0 ∧
      Aftermath (((fresh reliable fragile .standard {}).run begun).step (.work 0 .compile))
        "source.json" 0 ∧
      (((fresh reliable fragile .standard {}).run begun).run joining).requests.map (·.number) =
        [0, 0, 1] ∧
      (((fresh reliable fragile .standard {}).run begun).run (racing.take 6)).cache.entries =
        [("source.json", 1)] ∧
      (((fresh reliable fragile .standard {}).run begun).run racing).cache.entries = [] := by
  have unfinished : ((fresh reliable fragile .standard {}).run begun).Unfinished "source.json" 0 :=
    ⟨.ready ⟨"source.json", Sample.dataGrammar⟩ .standard, rfl, rfl⟩
  have gone : (((fresh reliable fragile .standard {}).run begun).step (.work 0 .compile)).Gone
      "source.json" 0 := rfl
  exact ⟨unfinished, gone, aftermath_step reliable fragile .standard {} unfinished gone,
    by decide +kernel, by decide +kernel, by decide +kernel⟩

end TokenTheme.Session
