import Mathlib
import TokenTheme.Proofs.Provider.Entries
/-!
# Sessions of a cache

A session is a cache with all requests that were made to it. Requests are made and polled, and
constructions make their steps, in any order. A request that is given up is one that is not polled
any more.
-/
namespace TokenTheme

structure Session where
  cache : Cache
  requests : List Request := []
  /-- Requests that have found the entry of a construction that went away. They remove the entry of
  the name next. -/
  clearing : List Nat := []

namespace Session

inductive Event where
  /-- A new request is polled for the first time. -/
  | ask (scopeName : String)
  /-- A request that waits is polled again. -/
  | poll (request : Nat)
  /-- A request that has found the entry of a construction that went away goes on from there. -/
  | clear (request : Nat)
  /-- A construction makes a step. -/
  | work (number : Nat) (act : Cache.Act)
  deriving DecidableEq

def step (s : Session) : Event → Session
  | .ask scopeName =>
    let (number, cache) := s.cache.request scopeName
    { s with cache, requests := s.requests ++ [⟨scopeName, number, none⟩] }
  | .poll i =>
    match s.requests[i]? with
    | some ⟨scopeName, number, none⟩ =>
      if i ∈ s.clearing then s
      else if s.cache.stranded scopeName number then { s with clearing := i :: s.clearing }
      else
        { s with
          requests := s.requests.set i ⟨scopeName, number, s.cache.reply? scopeName number⟩ }
    | _ => s
  | .clear i =>
    match s.requests[i]? with
    | some ⟨scopeName, number, _⟩ =>
      if i ∈ s.clearing then
        { cache := s.cache.remove scopeName
          requests := s.requests.set i
            ⟨scopeName, number, some (.error (.constructionAborted scopeName))⟩
          clearing := s.clearing.filter (· ≠ i) }
      else s
    | none => s
  | .work number act => { s with cache := s.cache.act number act }

def run (s : Session) (events : List Event) : Session := events.foldl step s

def Calm (events : List Event) : Prop := ∀ number, .work number .abort ∉ events

def fresh (source : Source) (compiler : Compiler) (engine : Regex.Engine) (options : Options) :
    Session :=
  { cache := { source, compiler, engine, options } }

/-- A request has a construction of its scope name, whose result it has if it has an answer. -/
def Waits (c : Cache) (r : Request) : Prop :=
  ∃ stage, c.constructions[r.number]? = some ⟨r.scopeName, stage⟩ ∧
    ∀ reply, r.reply = some reply → stage.reply? r.scopeName r.number = some reply

structure Safe (s : Session) : Prop where
  cache : s.cache.Safe
  waits : ∀ r ∈ s.requests, Waits s.cache r
  clearing : ∀ i ∈ s.clearing, ∃ scopeName number,
    s.requests[i]? = some ⟨scopeName, number, none⟩ ∧
      s.cache.constructions[number]? = some ⟨scopeName, .gone⟩

variable {s : Session}

theorem safe_fresh (source : Source) (compiler : Compiler) (engine : Regex.Engine)
    (options : Options) : (fresh source compiler engine options).Safe := by
  refine ⟨⟨.nil, ?_, ?_⟩, ?_, ?_⟩ <;> simp [fresh]

/-! ### Steps -/

/-- A poll matters only to a request that waits. If its construction went away and left its entry then
the request is about to remove that, and is answered otherwise if there is an answer. -/
theorem poll_cases (s : Session) (i : Nat) :
    s.step (.poll i) = s ∨ ∃ scopeName number,
      s.requests[i]? = some ⟨scopeName, number, none⟩ ∧ i ∉ s.clearing ∧
        (s.cache.stranded scopeName number = true ∧
            s.step (.poll i) = { s with clearing := i :: s.clearing } ∨
          s.cache.stranded scopeName number = false ∧
            s.step (.poll i) = { s with
              requests := s.requests.set i
                ⟨scopeName, number, s.cache.reply? scopeName number⟩ }) := by
  rcases found : s.requests[i]? with - | ⟨scopeName, number, - | reply⟩
  · exact .inl (by simp only [step, found])
  · by_cases clears : i ∈ s.clearing
    · exact .inl (by simp only [step, found, if_pos clears])
    · refine .inr ⟨scopeName, number, rfl, clears, ?_⟩
      cases stranded : s.cache.stranded scopeName number with
      | true => exact .inl ⟨rfl, by simp only [step, found, if_neg clears, stranded, if_true]⟩
      | false =>
        refine .inr ⟨rfl, ?_⟩
        simp only [step, found, if_neg clears, stranded, Bool.false_eq_true, if_false]
  · exact .inl (by simp only [step, found])

/-- A request that goes on from an entry it has found removes the one that there is now, and is told
that its construction was aborted. -/
theorem step_clear_of_mem {i : Nat} {r : Request} (found : s.requests[i]? = some r)
    (clears : i ∈ s.clearing) :
    s.step (.clear i) = {
      cache := s.cache.remove r.scopeName
      requests := s.requests.set i
        ⟨r.scopeName, r.number, some (.error (.constructionAborted r.scopeName))⟩
      clearing := s.clearing.filter (· ≠ i) } := by
  simp only [step, found, if_pos clears]

theorem step_clear_of_not_mem {i : Nat} (free : i ∉ s.clearing) : s.step (.clear i) = s := by
  rcases found : s.requests[i]? with - | r
  · simp only [step, found]
  · simp only [step, found, if_neg free]

theorem clear_cases (s : Session) (i : Nat) :
    s.step (.clear i) = s ∨ ∃ r, s.requests[i]? = some r ∧ i ∈ s.clearing ∧
      s.step (.clear i) = {
        cache := s.cache.remove r.scopeName
        requests := s.requests.set i
          ⟨r.scopeName, r.number, some (.error (.constructionAborted r.scopeName))⟩
        clearing := s.clearing.filter (· ≠ i) } := by
  rcases found : s.requests[i]? with - | r
  · exact .inl (by simp only [step, found])
  · by_cases clears : i ∈ s.clearing
    · exact .inr ⟨r, rfl, clears, step_clear_of_mem found clears⟩
    · exact .inl (step_clear_of_not_mem clears)

theorem cache_poll (s : Session) (i : Nat) : (s.step (.poll i)).cache = s.cache := by
  rcases s.poll_cases i with same | ⟨scopeName, number, -, -, ⟨-, same⟩ | ⟨-, same⟩⟩ <;> rw [same]

theorem cache_clear (s : Session) (i : Nat) :
    (s.step (.clear i)).cache = s.cache ∨ ∃ r, s.requests[i]? = some r ∧ i ∈ s.clearing ∧
      (s.step (.clear i)).cache = s.cache.remove r.scopeName := by
  rcases s.clear_cases i with same | ⟨r, found, clears, same⟩
  · exact .inl (by rw [same])
  · exact .inr ⟨r, found, clears, by rw [same]⟩

theorem constructions_clear (s : Session) (i : Nat) :
    (s.step (.clear i)).cache.constructions = s.cache.constructions := by
  rcases s.cache_clear i with same | ⟨r, -, -, same⟩ <;> rw [same]
  rfl

theorem constructions_ask (scopeName : String) {number : Nat} {k : Construction}
    (found : s.cache.constructions[number]? = some k) :
    (s.step (.ask scopeName)).cache.constructions[number]? = some k := by
  cases read : s.cache.entries.lookup scopeName with
  | some n =>
    simp only [step, Cache.request_of_lookup read]
    exact found
  | none =>
    obtain ⟨-, -, constructions, -, -⟩ := Cache.request_of_missing read
    simp only [step, constructions]
    rw [List.getElem?_append_left (List.getElem?_eq_some_iff.mp found).1, found]

theorem constructions_step (event : Event) {number : Nat} {scopeName : String} {stage : Stage}
    (found : s.cache.constructions[number]? = some ⟨scopeName, stage⟩) :
    ∃ later, (s.step event).cache.constructions[number]? = some ⟨scopeName, later⟩ ∧
      (later = stage ∨ stage.Next later) := by
  cases event with
  | ask scopeName' => exact ⟨stage, constructions_ask scopeName' found, .inl rfl⟩
  | poll i => exact ⟨stage, s.cache_poll i ▸ found, .inl rfl⟩
  | clear i => exact ⟨stage, s.constructions_clear i ▸ found, .inl rfl⟩
  | work n act =>
    rcases Cache.turn_act (c := s.cache) n act with same | ⟨scopeName', old, new, turn, -⟩
    · refine ⟨stage, ?_, .inl rfl⟩
      simp only [step, same]
      exact found
    · by_cases own : number = n
      · subst own
        cases found.symm.trans turn.found
        exact ⟨new, turn.constructions_self, .inr turn.next⟩
      · exact ⟨stage, (turn.constructions_of_ne own).trans found, .inl rfl⟩

theorem ended_step (event : Event) {number : Nat} {scopeName : String} {stage : Stage}
    {reply : Reply} (found : s.cache.constructions[number]? = some ⟨scopeName, stage⟩)
    (ended : stage.reply? scopeName number = some reply) :
    (s.step event).cache.constructions[number]? = some ⟨scopeName, stage⟩ := by
  obtain ⟨later, kept, rfl | next⟩ := constructions_step event found
  · exact kept
  · have unanswered := next.reply?_eq_none scopeName number
    cases ended.symm.trans unanswered

theorem ended_run (events : List Event) {number : Nat} {scopeName : String} {stage : Stage}
    {reply : Reply} (found : s.cache.constructions[number]? = some ⟨scopeName, stage⟩)
    (ended : stage.reply? scopeName number = some reply) :
    (s.run events).cache.constructions[number]? = some ⟨scopeName, stage⟩ := by
  induction events generalizing s with
  | nil => exact found
  | cons event rest ih => exact ih (ended_step event found ended)

theorem turn_of_change {event : Event} {number : Nat} {scopeName : String} {old new : Stage}
    (before : s.cache.constructions[number]? = some ⟨scopeName, old⟩)
    (after : (s.step event).cache.constructions[number]? = some ⟨scopeName, new⟩)
    (changed : new ≠ old) :
    ∃ act, event = .work number act ∧
      s.cache.Turn (s.step event).cache number scopeName old new := by
  have moved : (s.step event).cache.constructions[number]? ≠ some ⟨scopeName, old⟩ := by
    intro same
    cases same.symm.trans after
    exact changed rfl
  cases event with
  | ask scopeName' => exact absurd (constructions_ask scopeName' before) moved
  | poll i => exact absurd (s.cache_poll i ▸ before) moved
  | clear i => exact absurd (s.constructions_clear i ▸ before) moved
  | work n act =>
    rcases Cache.turn_act (c := s.cache) n act with same | ⟨scopeName', old', new', turn, -⟩
    · simp only [step, same] at moved
      exact absurd before moved
    · by_cases own : number = n
      · subst own
        cases before.symm.trans turn.found
        cases after.symm.trans turn.constructions_self
        exact ⟨act, rfl, turn⟩
      · exact absurd ((turn.constructions_of_ne own).trans before) moved

/-- Nothing but a request that finds no entry starts a construction. -/
theorem length_step (s : Session) (event : Event) :
    (s.step event).cache.constructions.length = s.cache.constructions.length ∨
      ∃ scopeName, event = .ask scopeName ∧ s.cache.entries.lookup scopeName = none ∧
        (s.step event).cache.constructions = s.cache.constructions ++ [⟨scopeName, .started⟩] := by
  cases event with
  | ask scopeName =>
    cases read : s.cache.entries.lookup scopeName with
    | some number =>
      left
      simp only [step, Cache.request_of_lookup read]
      rfl
    | none =>
      obtain ⟨-, -, constructions, -, -⟩ := Cache.request_of_missing read
      exact .inr ⟨scopeName, rfl, read, by simp only [step, constructions]⟩
  | poll i => exact .inl (by rw [cache_poll])
  | clear i => exact .inl (by rw [constructions_clear])
  | work number act =>
    left
    rcases Cache.turn_act (c := s.cache) number act with same | ⟨scopeName, old, new, turn, -⟩
    · simp only [step, same]
    · simp only [step, turn.constructions, List.length_set]

theorem length_le_step (s : Session) (event : Event) :
    s.cache.constructions.length ≤ (s.step event).cache.constructions.length := by
  rcases s.length_step event with same | ⟨name, -, -, added⟩
  · exact Nat.le_of_eq same.symm
  · rw [added, List.length_append]
    exact Nat.le_add_right _ _

theorem constructions_of_step (event : Event) {m : Nat} {k : Construction}
    (found : (s.step event).cache.constructions[m]? = some k) :
    (∃ stage, s.cache.constructions[m]? = some ⟨k.scopeName, stage⟩) ∨
      m = s.cache.constructions.length ∧ event = .ask k.scopeName ∧
        s.cache.entries.lookup k.scopeName = none ∧ k.stage = .started := by
  rcases Nat.lt_or_ge m s.cache.constructions.length with bound | beyond
  · have before := List.getElem?_eq_getElem bound
    obtain ⟨later, kept, -⟩ := constructions_step event before
    cases kept.symm.trans found
    exact .inl ⟨_, before⟩
  · right
    have inside := (List.getElem?_eq_some_iff.mp found).1
    rcases s.length_step event with same | ⟨scopeName, rfl, missing, added⟩
    · omega
    · rw [added, List.length_append, List.length_singleton] at inside
      obtain rfl : m = s.cache.constructions.length := by omega
      rw [added, List.getElem?_concat_length] at found
      cases found
      exact ⟨rfl, rfl, missing, rfl⟩

theorem requests_step (event : Event) {i : Nat} {r : Request} (found : s.requests[i]? = some r) :
    ∃ reply, (s.step event).requests[i]? = some ⟨r.scopeName, r.number, reply⟩ := by
  have inside := (List.getElem?_eq_some_iff.mp found).1
  have answered {j : Nat} {r' : Request} (reply : Option Reply) (found' : s.requests[j]? = some r') :
      ∃ reply', (s.requests.set j ⟨r'.scopeName, r'.number, reply⟩)[i]? =
        some ⟨r.scopeName, r.number, reply'⟩ := by
    by_cases own : j = i
    · subst own
      cases found.symm.trans found'
      exact ⟨reply, List.getElem?_set_self inside⟩
    · exact ⟨r.reply, (List.getElem?_set_ne own).trans found⟩
  cases event with
  | ask scopeName =>
    refine ⟨r.reply, ?_⟩
    simp only [step]
    rw [List.getElem?_append_left inside, found]
  | poll j =>
    rcases s.poll_cases j with same | ⟨scopeName, number, waiting, -, ⟨-, same⟩ | ⟨-, same⟩⟩
    · exact ⟨r.reply, by rw [same, found]⟩
    · exact ⟨r.reply, by rw [same, found]⟩
    · rw [same]
      exact answered _ waiting
  | clear j =>
    rcases s.clear_cases j with same | ⟨r', found', -, same⟩
    · exact ⟨r.reply, by rw [same, found]⟩
    · rw [same]
      exact answered _ found'
  | work n act => exact ⟨r.reply, found⟩

theorem cache_step_safe (event : Event) (safe : s.Safe) : (s.step event).cache.Safe := by
  cases event with
  | ask scopeName => exact Cache.safe_request scopeName safe.cache
  | poll i =>
    rw [cache_poll]
    exact safe.cache
  | clear i =>
    rcases s.cache_clear i with same | ⟨r, -, -, same⟩
    · rw [same]
      exact safe.cache
    · rw [same]
      exact Cache.safe_remove r.scopeName safe.cache
  | work number act =>
    rcases Cache.turn_act (c := s.cache) number act with same | ⟨scopeName, old, new, turn, -⟩
    · simp only [step, same]
      exact safe.cache
    · exact Cache.safe_of_turn turn safe.cache

theorem requests_ask (s : Session) (scopeName : String) :
    ∃ number, (s.step (.ask scopeName)).requests = s.requests ++ [⟨scopeName, number, none⟩] ∧
      (scopeName, number) ∈ (s.step (.ask scopeName)).cache.entries ∧
      (s.cache.entries.lookup scopeName = some number ∨
        s.cache.entries.lookup scopeName = none ∧ number = s.cache.constructions.length) := by
  cases read : s.cache.entries.lookup scopeName with
  | some number =>
    refine ⟨number, ?_, ?_, .inl rfl⟩
    · simp only [step, Cache.request_of_lookup read]
    · simp only [step, Cache.request_of_lookup read]
      exact mem_of_lookup read
  | none =>
    obtain ⟨number, entries, -, -, -⟩ := Cache.request_of_missing read
    refine ⟨s.cache.constructions.length, ?_, ?_, .inr ⟨rfl, rfl⟩⟩
    · simp only [step, number]
    · simp only [step, entries]
      exact List.mem_cons_self

theorem waits_step (event : Event) {r : Request} (waits : Waits s.cache r) :
    Waits (s.step event).cache r := by
  obtain ⟨stage, constructed, answered⟩ := waits
  obtain ⟨later, kept, same | next⟩ := constructions_step event constructed
  · exact ⟨later, kept, same ▸ answered⟩
  · refine ⟨later, kept, ?_⟩
    intro reply given
    cases (next.reply?_eq_none _ _).symm.trans (answered reply given)

theorem waits_step_safe (event : Event) (safe : s.Safe) :
    ∀ r ∈ (s.step event).requests, Waits (s.step event).cache r := by
  have cache := cache_step_safe event safe
  intro r member
  cases event with
  | ask scopeName =>
    obtain ⟨number, requests, entered, -⟩ := s.requests_ask scopeName
    rw [requests] at member
    rcases List.mem_append.mp member with before | last
    · exact waits_step _ (safe.waits r before)
    · obtain rfl := List.mem_singleton.mp last
      obtain ⟨stage, constructed, -⟩ := cache.held scopeName number entered
      exact ⟨stage, constructed, nofun⟩
  | poll i =>
    rcases s.poll_cases i with same | ⟨scopeName, number, waiting, -, ⟨-, same⟩ | ⟨-, same⟩⟩
    · rw [same] at member ⊢
      exact safe.waits r member
    · rw [same] at member ⊢
      exact safe.waits r member
    · rw [same] at member ⊢
      rcases List.mem_or_eq_of_mem_set member with before | rfl
      · exact safe.waits r before
      · obtain ⟨stage, constructed, -⟩ := safe.waits _ (List.mem_of_getElem? waiting)
        refine ⟨stage, constructed, ?_⟩
        intro reply given
        simp only [Cache.reply?, constructed, Option.bind_some] at given
        exact given
  | clear i =>
    rcases s.clear_cases i with same | ⟨r', found, clears, same⟩
    · rw [same] at member ⊢
      exact safe.waits r member
    · rw [same] at member ⊢
      rcases List.mem_or_eq_of_mem_set member with before | rfl
      · exact safe.waits r before
      · obtain ⟨scopeName, number, found', gone⟩ := safe.clearing i clears
        cases found.symm.trans found'
        exact ⟨.gone, gone, fun reply given => given⟩
  | work number act => exact waits_step (.work number act) (safe.waits r member)

/-- Only a poll that finds the entry of a construction that went away leads to a removal. -/
theorem clearing_of_step (event : Event) {i : Nat} (clears : i ∈ (s.step event).clearing) :
    i ∈ s.clearing ∨ event = .poll i ∧ ∃ scopeName number,
      s.requests[i]? = some ⟨scopeName, number, none⟩ ∧
        s.cache.stranded scopeName number = true := by
  cases event with
  | ask name => exact .inl clears
  | work n act => exact .inl clears
  | clear j =>
    rcases s.clear_cases j with same | ⟨r, -, -, same⟩
    · exact .inl (same ▸ clears)
    · rw [same] at clears
      exact .inl (List.mem_filter.mp clears).1
  | poll j =>
    rcases s.poll_cases j with same | ⟨scopeName, number, waiting, -, ⟨stranded, same⟩ | ⟨-, same⟩⟩
    · exact .inl (same ▸ clears)
    · rw [same] at clears
      rcases List.mem_cons.mp clears with rfl | before
      · exact .inr ⟨rfl, scopeName, number, waiting, stranded⟩
      · exact .inl before
    · rw [same] at clears
      exact .inl clears

/-- Until the removal a request stays as it is. -/
theorem requests_step_of_clearing (event : Event) {i : Nat} {r : Request}
    (found : s.requests[i]? = some r) (clears : i ∈ (s.step event).clearing) :
    (s.step event).requests[i]? = some r := by
  cases event with
  | ask name =>
    simp only [step]
    rw [List.getElem?_append_left (List.getElem?_eq_some_iff.mp found).1, found]
  | work n act => exact found
  | clear j =>
    rcases s.clear_cases j with same | ⟨r', -, -, same⟩
    · rw [same, found]
    · rw [same] at clears ⊢
      have different := of_decide_eq_true (List.mem_filter.mp clears).2
      exact (List.getElem?_set_ne (Ne.symm different)).trans found
  | poll j =>
    rcases s.poll_cases j with same | ⟨scopeName, number, -, free, ⟨-, same⟩ | ⟨-, same⟩⟩
    · rw [same, found]
    · rw [same, found]
    · rw [same] at clears ⊢
      have different : j ≠ i := by
        rintro rfl
        exact free clears
      exact (List.getElem?_set_ne different).trans found

/-- Whoever removes an entry has found a construction of that name that went away. -/
theorem clearing_step_safe (event : Event) (safe : s.Safe) :
    ∀ i ∈ (s.step event).clearing, ∃ scopeName number,
      (s.step event).requests[i]? = some ⟨scopeName, number, none⟩ ∧
        (s.step event).cache.constructions[number]? = some ⟨scopeName, .gone⟩ := by
  intro i clears
  rcases clearing_of_step event clears with before | ⟨rfl, scopeName, number, waiting, stranded⟩
  · obtain ⟨scopeName, number, found, gone⟩ := safe.clearing i before
    exact ⟨scopeName, number, requests_step_of_clearing event found clears,
      ended_step event gone rfl⟩
  · obtain ⟨stage, constructed, -⟩ := safe.waits _ (List.mem_of_getElem? waiting)
    have away := (Bool.and_eq_true_iff.mp stranded).1
    rw [constructed, Option.any_some, Stage.isGone_iff] at away
    exact ⟨scopeName, number, requests_step_of_clearing _ waiting clears,
      ended_step _ (away ▸ constructed) rfl⟩

theorem step_safe (event : Event) (safe : s.Safe) : (s.step event).Safe :=
  ⟨cache_step_safe event safe, waits_step_safe event safe, clearing_step_safe event safe⟩

theorem run_append (s : Session) (first second : List Event) :
    s.run (first ++ second) = (s.run first).run second := List.foldl_append

theorem run_safe (events : List Event) (safe : s.Safe) : (s.run events).Safe := by
  induction events generalizing s with
  | nil => exact safe
  | cons event rest ih => exact ih (step_safe event safe)

/-! ### Scope names of which nothing has gone away -/

/-- A construction of the scope name has gone away. -/
def Away (s : Session) (scopeName : String) : Prop :=
  ∃ number : Nat, s.cache.constructions[number]? = some ⟨scopeName, .gone⟩

variable {scopeName : String}

theorem away_step (event : Event) (away : s.Away scopeName) : (s.step event).Away scopeName :=
  away.imp fun _ gone => ended_step event gone rfl

theorem away_run (events : List Event) (away : s.Away scopeName) :
    (s.run events).Away scopeName :=
  away.imp fun _ gone => ended_run events gone rfl

/-- Only where a construction has gone away somebody is about to remove an entry of its name. -/
theorem away_of_clearing {i : Nat} {r : Request} (safe : s.Safe) (clears : i ∈ s.clearing)
    (found : s.requests[i]? = some r) : s.Away r.scopeName := by
  obtain ⟨name, number, found', gone⟩ := safe.clearing i clears
  cases found.symm.trans found'
  exact ⟨number, gone⟩

/-- As long as nothing of the name goes away, no entry of it is removed but by its construction. -/
theorem entered_step (event : Event) (safe : s.Safe) (present : ¬ (s.step event).Away scopeName)
    (entered : s.cache.Entered scopeName) : (s.step event).cache.Entered scopeName := by
  cases event with
  | ask name => exact Cache.entered_request name entered
  | poll i =>
    rw [cache_poll]
    exact entered
  | clear i =>
    rcases s.cache_clear i with same | ⟨r, found, clears, same⟩
    · rw [same]
      exact entered
    · have other : r.scopeName ≠ scopeName := by
        rintro rfl
        exact present (away_step _ (away_of_clearing safe clears found))
      rw [same]
      intro number stage constructed hopeful
      exact Cache.mem_entries_remove.mpr ⟨entered number stage constructed hopeful, Ne.symm other⟩
  | work number act =>
    rcases Cache.turn_act (c := s.cache) number act with same | ⟨name, old, new, turn, -⟩
    · simp only [step, same]
      exact entered
    · exact Cache.entered_of_turn turn safe.cache entered

theorem entered_run (events : List Event) (safe : s.Safe) (present : ¬ (s.run events).Away scopeName)
    (entered : s.cache.Entered scopeName) : (s.run events).cache.Entered scopeName := by
  induction events generalizing s with
  | nil => exact entered
  | cons event rest ih =>
    have here : ¬ (s.step event).Away scopeName := fun away => present (away_run rest away)
    exact ih (step_safe event safe) present (entered_step event safe here entered)

end Session

end TokenTheme
