import Mathlib
import TokenTheme.Proofs.Provider.Progress
import TokenTheme.Proofs.Provider.Removals
import TokenTheme.Proofs.Provider.SingleFlight
/-!
# Abandoned requests

A request that waits may be given up, and is not polled any more. Two runs are compared, one in
which requests are given up and one in which all of them are kept. Unless a construction goes away
that one of them waited for, nothing else shows that they are gone (`unnoticed_run`): the cache is
the same at every step and so are the answers to all others. The request for a construction that
went away does matter, as its entry is removed by those who wait. A construction comes to its end
also if nobody is left who waits for it (`Attended.ends`).
-/
namespace TokenTheme

/-- A request for a provider that has its entry is given it at once, and starts and loads nothing. -/
theorem Cache.request_of_built {c : Cache} {scopeName : String} {number : Nat} {p : Provider}
    (safe : c.Safe) (entered : (scopeName, number) ∈ c.entries)
    (built : c.constructions[number]? = some ⟨scopeName, .done (.ok p)⟩) :
    (c.request scopeName).1 = number ∧
      (c.request scopeName).2.constructions = c.constructions ∧
      (c.request scopeName).2.loads = c.loads ∧
      (c.request scopeName).2.answer scopeName number =
        (some (.ok ⟨number, p⟩), (c.request scopeName).2) := by
  rw [request_of_lookup (lookup_of_mem safe.keys entered)]
  refine ⟨rfl, rfl, rfl, ?_⟩
  unfold answer tell
  rw [built]
  rfl

namespace Session

variable {s : Session} {i : Nat} {scopeName : String} {number : Nat}

/-- A request waits for an answer, and is not about to remove an entry. -/
def awaits (s : Session) (i : Nat) : Bool :=
  (s.requests[i]?).any (·.reply.isNone) && decide (i ∉ s.clearing)

theorem awaits_iff : s.awaits i = true ↔
    i ∉ s.clearing ∧ ∃ scopeName number, s.requests[i]? = some ⟨scopeName, number, none⟩ := by
  rcases found : s.requests[i]? with - | ⟨scopeName, number, - | reply⟩ <;> simp [awaits, found]

theorem step_poll_of_not_awaits (idle : s.awaits i = false) : s.step (.poll i) = s := by
  rcases s.poll_cases i with same | ⟨scopeName, number, found, free, -⟩
  · exact same
  · rw [awaits_iff.mpr ⟨free, scopeName, number, found⟩] at idle
    cases idle

theorem step_poll_of_awaits (found : s.requests[i]? = some ⟨scopeName, number, none⟩)
    (free : i ∉ s.clearing) :
    s.step (.poll i) =
      if s.cache.stranded scopeName number then { s with clearing := i :: s.clearing }
      else { s with
        requests := s.requests.set i ⟨scopeName, number, s.cache.reply? scopeName number⟩ } := by
  simp only [step, found, if_neg free]

def made (s : Session) : List (String × Nat) := s.requests.map fun r => (r.scopeName, r.number)

theorem map_set_reply {requests : List Request} {r : Request} (found : requests[i]? = some r)
    (reply : Option Reply) :
    (requests.set i ⟨r.scopeName, r.number, reply⟩).map (fun r => (r.scopeName, r.number)) =
      requests.map fun r => (r.scopeName, r.number) := by
  obtain ⟨bound, value⟩ := List.getElem?_eq_some_iff.mp found
  apply List.ext_getElem?
  intro j
  by_cases own : i = j
  · subst own
    simp [bound, value]
  · simp [List.getElem?_set_ne own]

theorem made_poll (s : Session) (i : Nat) : (s.step (.poll i)).made = s.made := by
  rcases s.poll_cases i with same | ⟨scopeName, number, found, -, ⟨-, same⟩ | ⟨-, same⟩⟩
  · rw [same]
  · rw [same]
    rfl
  · rw [same]
    exact map_set_reply found _

theorem made_clear (s : Session) (i : Nat) : (s.step (.clear i)).made = s.made := by
  rcases s.clear_cases i with same | ⟨r, found, -, same⟩
  · rw [same]
  · rw [same]
    exact map_set_reply found _

inductive Move where
  | go (event : Event)
  /-- A request that waits is given up. -/
  | drop (request : Nat)
  deriving DecidableEq

def Move.event? : Move → Option Event
  | go event => some event
  | drop _ => none

structure Attended where
  session : Session
  dropped : List Nat := []

namespace Attended

/-- A request that was given up is not polled any more. -/
def step (a : Attended) : Move → Attended
  | .drop i => if a.session.awaits i then { a with dropped := i :: a.dropped } else a
  | .go (.poll i) =>
    if i ∈ a.dropped then a else { a with session := a.session.step (.poll i) }
  | .go event => { a with session := a.session.step event }

def run (a : Attended) (moves : List Move) : Attended := moves.foldl step a

def lost (a : Attended) : Bool :=
  a.dropped.any fun i => (a.session.requests[i]?).any fun r =>
    (a.session.cache.constructions[r.number]?).any (·.stage.isGone)

variable {a : Attended}

theorem lost_iff : a.lost = true ↔ ∃ i ∈ a.dropped, ∃ r, a.session.requests[i]? = some r ∧
    ∃ scopeName, a.session.cache.constructions[r.number]? = some ⟨scopeName, .gone⟩ := by
  simp only [lost, List.any_eq_true, Option.any_eq_true, Stage.isGone_iff]
  constructor
  · rintro ⟨i, dropped, r, found, ⟨scopeName, stage⟩, constructed, rfl⟩
    exact ⟨i, dropped, r, found, scopeName, constructed⟩
  · rintro ⟨i, dropped, r, found, scopeName, constructed⟩
    exact ⟨i, dropped, r, found, _, constructed, rfl⟩

/-! ### What is done in the session -/

/-- The events of the session that a move comes to: itself, or none. -/
def effect (a : Attended) : Move → List Event
  | .drop _ => []
  | .go (.poll i) => if i ∈ a.dropped then [] else [.poll i]
  | .go event => [event]

def effects (a : Attended) : List Move → List Event
  | [] => []
  | m :: rest => a.effect m ++ (a.step m).effects rest

theorem session_step (a : Attended) (m : Move) :
    (a.step m).session = a.session.run (a.effect m) := by
  rcases m with (scopeName | i | i | ⟨number, act⟩) | i
  · rfl
  · simp only [step, effect]
    split <;> rfl
  · rfl
  · rfl
  · simp only [step, effect]
    split <;> rfl

theorem session_run (a : Attended) (moves : List Move) :
    (a.run moves).session = a.session.run (a.effects moves) := by
  induction moves generalizing a with
  | nil => rfl
  | cons m rest ih =>
    rw [effects, run_append, ← session_step]
    exact ih (a.step m)

theorem dropped_step (m : Move) {i : Nat} (dropped : i ∈ a.dropped) : i ∈ (a.step m).dropped := by
  rcases m with (scopeName | j | j | ⟨number, act⟩) | j
  · exact dropped
  · simp only [step]
    split <;> exact dropped
  · exact dropped
  · exact dropped
  · simp only [step]
    split
    · exact List.mem_cons_of_mem _ dropped
    · exact dropped

theorem lost_step (m : Move) (lost : a.lost = true) : (a.step m).lost = true := by
  obtain ⟨i, dropped, r, found, scopeName, constructed⟩ := lost_iff.mp lost
  obtain ⟨reply, kept⟩ := requests_run (a.effect m) found
  have gone := ended_run (a.effect m) constructed rfl
  rw [← session_step] at kept gone
  exact lost_iff.mpr ⟨i, dropped_step m dropped, _, kept, scopeName, gone⟩

theorem lost_run (moves : List Move) (lost : a.lost = true) : (a.run moves).lost = true := by
  induction moves generalizing a with
  | nil => exact lost
  | cons m rest ih => exact ih (lost_step m lost)

/-! ### Endless runs -/

def after (a : Attended) (schedule : Nat → Move) : Nat → Attended
  | 0 => a
  | n + 1 => (a.after schedule n).step (schedule n)

/-- A step that stays due is made some time. -/
def Fair (a : Attended) (schedule : Nat → Move) (number : Nat) : Prop :=
  ∀ act n, ∃ m, n ≤ m ∧ ((a.after schedule m).session.due number ≠ some act ∨
    schedule m = .go (.work number act))

variable {schedule : Nat → Move} {n : Nat} {stage : Stage}

theorem passed_after {m : Nat} (later : n ≤ m)
    (found : (a.after schedule n).session.cache.constructions[number]? = some ⟨scopeName, stage⟩) :
    ∃ new, (a.after schedule m).session.cache.constructions[number]? = some ⟨scopeName, new⟩ ∧
      (new = stage ∨ stage.passed < new.passed) := by
  induction m, later using Nat.le_induction with
  | base => exact ⟨stage, found, .inl rfl⟩
  | succ m later ih =>
    obtain ⟨middle, kept, before⟩ := ih
    obtain ⟨new, kept, after⟩ := passed_run ((a.after schedule m).effect (schedule m)) kept
    rw [← session_step] at kept
    refine ⟨new, kept, ?_⟩
    rcases before with rfl | before
    · exact after
    · rcases after with rfl | after
      · exact .inr before
      · exact .inr (before.trans after)

theorem passes (fair : a.Fair schedule number)
    (found : (a.after schedule n).session.cache.constructions[number]? = some ⟨scopeName, stage⟩)
    {act : Cache.Act} (due : stage.due = some act) :
    ∃ m new, (a.after schedule m).session.cache.constructions[number]? = some ⟨scopeName, new⟩ ∧
      stage.passed < new.passed := by
  obtain ⟨m, later, turn⟩ := fair act n
  obtain ⟨new, kept, rfl | passed⟩ := passed_after later found
  · have still : (a.after schedule m).session.due number = some act := by
      rw [Session.due, kept]
      exact due
    rcases turn with early | made
    · exact absurd still early
    · obtain ⟨next, moved, passed⟩ := passed_due kept still
      refine ⟨m + 1, next, ?_, passed⟩
      rw [after, made]
      exact moved
  · exact ⟨m, new, kept, passed⟩

/-- A construction whose steps are made comes to its end, whoever waits for it or does not. -/
theorem ends (fair : a.Fair schedule number)
    (found : (a.after schedule n).session.cache.constructions[number]? = some ⟨scopeName, stage⟩) :
    ∃ m last, (a.after schedule m).session.cache.constructions[number]? = some ⟨scopeName, last⟩ ∧
      ((∃ result, last = .done result) ∨ last = .gone) := by
  -- The steps that are left become fewer with every one that is made.
  induction left : 5 - stage.passed using Nat.strong_induction_on generalizing n stage with
  | _ left ih =>
    cases due : stage.due with
    | none => exact ⟨n, stage, found, Stage.ended_of_not_due due⟩
    | some act =>
      obtain ⟨m, new, kept, passed⟩ := passes fair found due
      have bound := new.passed_le
      exact ih (5 - new.passed) (by omega) kept rfl

end Attended

/-- A session shows nothing of the requests that were given up in another one: the caches are the
same, with all that was started, loaded, compiled and set up; the same requests were made and found
the same constructions; and those that were not given up have the same answers. -/
structure Unnoticed (a : Attended) (s : Session) : Prop where
  cache : a.session.cache = s.cache
  made : a.session.made = s.made
  answers : ∀ i, i ∉ a.dropped → a.session.requests[i]? = s.requests[i]?
  clearing : a.session.clearing = s.clearing
  /-- None of those that were given up has an entry to remove. -/
  idle : ∀ i ∈ a.dropped, i ∉ s.clearing

section Unnoticed

variable {a : Attended} (same : Unnoticed a s)
include same

theorem Unnoticed.length : a.session.requests.length = s.requests.length := by
  have made := congrArg List.length same.made
  simpa [Session.made] using made

theorem unnoticed_ask (scopeName : String) :
    Unnoticed (a.step (.go (.ask scopeName))) (s.step (.ask scopeName)) where
  cache := by simp only [Attended.step, step, same.cache]
  made := by
    have made := same.made
    simp only [Session.made] at made
    simp only [Attended.step, step, same.cache, Session.made, List.map_append, made]
  answers := by
    intro i kept
    have before := same.answers i kept
    simp only [Attended.step, step, same.cache]
    rw [List.getElem?_append, List.getElem?_append, before, same.length]
  clearing := same.clearing
  idle := same.idle

theorem unnoticed_work (number : Nat) (act : Cache.Act) :
    Unnoticed (a.step (.go (.work number act))) (s.step (.work number act)) where
  cache := by simp only [Attended.step, step, same.cache]
  made := same.made
  answers := same.answers
  clearing := same.clearing
  idle := same.idle

theorem unnoticed_poll (kept : i ∉ a.dropped) :
    Unnoticed (a.step (.go (.poll i))) (s.step (.poll i)) := by
  have moved : a.step (.go (.poll i)) = { a with session := a.session.step (.poll i) } := by
    simp only [Attended.step, kept, if_false]
  have alike : a.session.awaits i = s.awaits i := by
    unfold awaits
    rw [same.answers i kept, same.clearing]
  have made := (made_poll a.session i).trans (same.made.trans (made_poll s i).symm)
  rw [moved]
  cases waits : s.awaits i with
  | false =>
    rw [step_poll_of_not_awaits waits, step_poll_of_not_awaits (alike.trans waits)]
    exact same
  | true =>
    obtain ⟨free, scopeName, number, found⟩ := awaits_iff.mp waits
    rw [step_poll_of_awaits found free] at made ⊢
    rw [step_poll_of_awaits ((same.answers i kept).trans found) (same.clearing ▸ free),
      same.cache] at made ⊢
    split at made
    · rename_i stranded
      rw [if_pos stranded, if_pos stranded]
      refine ⟨rfl, made, same.answers, congrArg (i :: ·) same.clearing, ?_⟩
      intro j dropped clears
      rcases List.mem_cons.mp clears with rfl | before
      · exact kept dropped
      · exact same.idle j dropped before
    · rename_i stays
      rw [if_neg stays, if_neg stays]
      refine ⟨rfl, made, ?_, same.clearing, same.idle⟩
      intro j others
      simp only [List.getElem?_set, same.length, same.answers j others]

/-- A poll that only the other run makes changes nothing but the answer of the request itself,
unless its construction has gone away. -/
theorem unnoticed_poll_dropped (dropped : i ∈ a.dropped) (kept : a.lost = false) :
    Unnoticed a (s.step (.poll i)) := by
  have made := same.made.trans (made_poll s i).symm
  rcases s.poll_cases i with idle | ⟨scopeName, number, found, -, ⟨stranded, -⟩ | ⟨-, answered⟩⟩
  · rw [idle]
    exact same
  · have pairs := congrArg (·[i]?) same.made
    simp only [Session.made, List.getElem?_map, found, Option.map_some] at pairs
    obtain ⟨r, there, pair⟩ := Option.map_eq_some_iff.mp pairs
    cases pair
    obtain ⟨⟨name, stage⟩, constructed, gone⟩ :=
      (Option.any_eq_true ..).mp (Bool.and_eq_true_iff.mp stranded).1
    obtain rfl := Stage.isGone_iff.mp gone
    have away : a.lost = true :=
      Attended.lost_iff.mpr ⟨i, dropped, r, there, name, same.cache ▸ constructed⟩
    rw [kept] at away
    cases away
  · rw [answered] at made ⊢
    refine ⟨same.cache, made, ?_, same.clearing, same.idle⟩
    intro j others
    have different : i ≠ j := by
      rintro rfl
      exact others dropped
    rw [List.getElem?_set_ne different]
    exact same.answers j others

theorem unnoticed_clear (i : Nat) :
    Unnoticed (a.step (.go (.clear i))) (s.step (.clear i)) := by
  show Unnoticed { a with session := a.session.step (.clear i) } _
  by_cases clears : i ∈ s.clearing
  · have kept : i ∉ a.dropped := fun dropped => same.idle i dropped clears
    have made := (made_clear a.session i).trans (same.made.trans (made_clear s i).symm)
    have alike := same.answers i kept
    rcases found : s.requests[i]? with - | r
    · simpa only [step, alike, found] using same
    · simp only [step, alike, found, same.clearing, if_pos clears, same.cache] at made ⊢
      refine ⟨rfl, made, ?_, rfl, ?_⟩
      · intro j others
        simp only [List.getElem?_set, same.length, same.answers j others]
      · intro j dropped still
        exact same.idle j dropped (List.mem_filter.mp still).1
  · rw [step_clear_of_not_mem clears, step_clear_of_not_mem (same.clearing ▸ clears)]
    exact same

theorem unnoticed_drop (i : Nat) : Unnoticed (a.step (.drop i)) s := by
  simp only [Attended.step]
  split
  · rename_i waits
    refine ⟨same.cache, same.made, ?_, same.clearing, ?_⟩
    · intro j kept
      exact same.answers j fun old => kept (List.mem_cons_of_mem _ old)
    · intro j dropped
      rcases List.mem_cons.mp dropped with rfl | old
      · exact same.clearing ▸ (awaits_iff.mp waits).1
      · exact same.idle j old
  · exact same

theorem unnoticed_step (m : Move) (kept : (a.step m).lost = false) :
    Unnoticed (a.step m) (s.run m.event?.toList) := by
  rcases m with (scopeName | i | i | ⟨number, act⟩) | i
  · exact unnoticed_ask same scopeName
  · by_cases dropped : i ∈ a.dropped
    · have stays : a.step (.go (.poll i)) = a := by simp only [Attended.step, dropped, if_true]
      rw [stays] at kept ⊢
      exact unnoticed_poll_dropped same dropped kept
    · exact unnoticed_poll same dropped
  · exact unnoticed_clear same i
  · exact unnoticed_work same number act
  · exact unnoticed_drop same i

theorem unnoticed_run (moves : List Move) (kept : (a.run moves).lost = false) :
    Unnoticed (a.run moves) (s.run (moves.filterMap Move.event?)) := by
  induction moves generalizing a s with
  | nil => exact same
  | cons m rest ih =>
    -- What is lost stays lost, so nothing is lost up to here.
    have here : (a.step m).lost = false := by
      cases lost : (a.step m).lost with
      | false => rfl
      | true => exact absurd (Attended.lost_run rest lost) (Bool.eq_false_iff.mp kept)
    have next := ih (unnoticed_step same m here) kept
    rw [← run_append] at next
    cases m <;> exact next

end Unnoticed

/-- A request for the scope name is given the provider at once. Nothing is started or loaded. -/
def Serves (s : Session) (scopeName : String) (number : Nat) (provider : Provider) : Prop :=
  (s.cache.request scopeName).1 = number ∧
    (s.cache.request scopeName).2.constructions = s.cache.constructions ∧
    (s.cache.request scopeName).2.loads = s.cache.loads ∧
    (s.cache.request scopeName).2.answer scopeName number =
      (some (.ok ⟨number, provider⟩), (s.cache.request scopeName).2)

structure Carried (a : Attended) : Prop where
  /-- A construction comes to its end, also if nobody waits for it. -/
  completes : ∀ scopeName number stage schedule,
    a.session.cache.constructions[number]? = some ⟨scopeName, stage⟩ →
      a.Fair schedule number →
        ∃ n last, (a.after schedule n).session.cache.constructions[number]? =
            some ⟨scopeName, last⟩ ∧
          ((∃ result, last = .done result) ∨ last = .gone)
  /-- A provider is given to every request from then on, if nothing of its name had gone away before
  it was there. -/
  served : ∀ scopeName number provider after,
    a.session.cache.constructions[number]? = some ⟨scopeName, .done (.ok provider)⟩ →
      ¬ a.session.Away scopeName → Serves (a.run after).session scopeName number provider
  /-- If something had gone away it is given as long as nobody removes its entry. -/
  kept : ∀ scopeName number provider after,
    (a.run after).session.cache.constructions[number]? = some ⟨scopeName, .done (.ok provider)⟩ →
      (scopeName, number) ∈ a.session.cache.entries →
        ¬ Removed scopeName a.session (a.effects after) →
          Serves (a.run after).session scopeName number provider

theorem carried_of_safe {a : Attended} (safe : a.session.Safe)
    (entered : ∀ scopeName, ¬ a.session.Away scopeName → a.session.cache.Entered scopeName) :
    Carried a where
  completes _ number _ schedule found fair :=
    have start : (a.after schedule 0).session.cache.constructions[number]? = _ := found
    Attended.ends fair start
  served := by
    intro scopeName number provider after built present
    have lasting := lasting_run (a.effects after)
      (lasting_of_built safe present (entered scopeName present) built)
    rw [← Attended.session_run] at lasting
    exact Cache.request_of_built lasting.safe.cache lasting.entered lasting.built
  kept := by
    intro scopeName number provider after built there kept
    have later := run_safe (a.effects after) safe
    obtain ⟨stage, made, -⟩ := safe.cache.held scopeName number there
    have still := (mem_entries_run_iff (a.effects after)
      (List.getElem?_eq_some_iff.mp made).1).mpr ⟨there, kept⟩
    rw [← Attended.session_run] at later still
    exact Cache.request_of_built later.cache still built

/-- Requests may be given up at any time. As long as no construction goes away that one of them
waited for, nothing else shows it at any step, whatever becomes of the other constructions. -/
theorem abandoned_unnoticed (source : Source) (compiler : Compiler) (engine : Regex.Engine)
    (options : Options) {moves : List Move}
    (kept : (Attended.run ⟨fresh source compiler engine options, []⟩ moves).lost = false) :
    (∀ before, before <+: moves →
      Unnoticed (Attended.run ⟨fresh source compiler engine options, []⟩ before)
        ((fresh source compiler engine options).run (before.filterMap Move.event?))) ∧
      Carried (Attended.run ⟨fresh source compiler engine options, []⟩ moves) := by
  have start : Unnoticed ⟨fresh source compiler engine options, []⟩
      (fresh source compiler engine options) :=
    ⟨rfl, rfl, fun _ _ => rfl, rfl, nofun⟩
  have safe := safe_fresh source compiler engine options
  constructor
  · rintro before ⟨after, rfl⟩
    have here : (Attended.run ⟨fresh source compiler engine options, []⟩ before).lost = false := by
      rw [Attended.run, List.foldl_append] at kept
      cases lost : (Attended.run ⟨fresh source compiler engine options, []⟩ before).lost with
      | false => rfl
      | true => exact absurd (Attended.lost_run after lost) (Bool.eq_false_iff.mp kept)
    exact unnoticed_run start before here
  · have ran := Attended.session_run ⟨fresh source compiler engine options, []⟩ moves
    refine carried_of_safe (ran ▸ run_safe _ safe) ?_
    rw [ran]
    intro scopeName present
    exact entered_run _ safe present nofun

def reliable : Source where
  load _ scopeName := .ok ⟨scopeName, Sample.dataGrammar⟩

/-- A compiler that goes away with the first construction. -/
def fragile : Compiler where
  compile number library d :=
    if number = 0 then .gone else .done (BlockGrammar.ofDefinition "block" library d)

/-- One construction goes away while a request waits for it, and another one is completed after the
only request for it was given up. -/
def deserted : List Move :=
  [.go (.ask "source.ts"), .go (.ask "source.json"), .go (.work 0 .begin), .go (.work 0 .prepare),
    .go (.work 1 .begin), .drop 1, .go (.work 0 .compile), .go (.work 1 .prepare), .go (.poll 0),
    .go (.clear 0), .go (.poll 1), .go (.work 1 .compile), .go (.ask "source.json"), .go (.poll 2)]

theorem abandoned_unnoticed_deserted :
    (Attended.run ⟨fresh reliable fragile .standard {}, []⟩ deserted).lost = false ∧
      (∀ before, before <+: deserted →
        Unnoticed (Attended.run ⟨fresh reliable fragile .standard {}, []⟩ before)
          ((fresh reliable fragile .standard {}).run (before.filterMap Move.event?))) ∧
      Carried (Attended.run ⟨fresh reliable fragile .standard {}, []⟩ deserted) ∧
      (Attended.run ⟨fresh reliable fragile .standard {}, []⟩ deserted).session.requests.map
          (fun r => (r.number, r.reply.map (·.toOption.isSome))) =
        [(0, some false), (1, none), (1, some true)] := by
  have kept : (Attended.run ⟨fresh reliable fragile .standard {}, []⟩ deserted).lost = false := by
    decide +kernel
  obtain ⟨unnoticed, carried⟩ := abandoned_unnoticed reliable fragile .standard {} kept
  exact ⟨kept, unnoticed, carried, by decide +kernel⟩

def bereft : List Move :=
  [.go (.ask "source.json"), .go (.work 0 .begin), .go (.work 0 .prepare), .drop 0,
    .go (.work 0 .compile), .go (.poll 0), .go (.clear 0), .go (.ask "source.json"), .go (.poll 1)]

/-- Nobody removes the entry, so the next request finds it and is told that the construction was
aborted; had the first one been kept, the next would start anew. -/
theorem abandoned_noticed :
    (Attended.run ⟨fresh reliable fragile .standard {}, []⟩ (bereft.take 7)).session.cache.contains
        "source.json" = true ∧
      ((fresh reliable fragile .standard {}).run
        ((bereft.take 7).filterMap Move.event?)).cache.contains "source.json" = false ∧
      ¬ ∀ (source : Source) (compiler : Compiler) (engine : Regex.Engine) (options : Options)
        (moves : List Move),
        Unnoticed (Attended.run ⟨fresh source compiler engine options, []⟩ moves)
          ((fresh source compiler engine options).run (moves.filterMap Move.event?)) := by
  refine ⟨by decide +kernel, by decide +kernel, ?_⟩
  intro never
  have same := never reliable fragile .standard {} bereft
  have numbers := congrArg (·.map Prod.snd) same.made
  have joined : (Attended.run ⟨fresh reliable fragile .standard {}, []⟩ bereft).session.made.map
      Prod.snd = [0, 0] := by
    decide +kernel
  have anew : ((fresh reliable fragile .standard {}).run
      (bereft.filterMap Move.event?)).made.map Prod.snd = [0, 1] := by
    decide +kernel
  simp [joined, anew] at numbers

end Session

end TokenTheme
