import Mathlib
import TokenTheme.Proofs.Provider.Calling
import TokenTheme.Proofs.Regex.SetUp
import TokenTheme.Sample
/-!
# Caches that share an engine

Several caches may have one engine, whose library the host may ask for too. The calls for it come in
any order, between all that the caches do. One caller at a time sets the engine up, while others
wait; a call ends when the library is there or when the caller's own attempt has failed. The engine
is set up once: what each call is given, and what each construction goes on with, is told by the
first attempt that succeeds.
-/
namespace TokenTheme

open Regex (Library Engine)
open Regex.Engine (FailsBefore First)

def Session.on (s : Session) (engine : Engine) : Session :=
  { s with cache := { s.cache with engine } }

/-- Who calls for the library: the host, or a construction of one of the caches. -/
inductive Caller where
  | host (call : Nat)
  | construction (cache number : Nat)
  deriving DecidableEq

structure Caller.Call where
  caller : Caller
  result : Except Error Library

def Caller.Call.failed (c : Caller.Call) : Bool := c.result.toOption.isNone

structure Shared where
  engine : Engine
  sessions : List Session
  /-- Who is about to set up the engine. -/
  attempt : Option Caller := none
  /-- The calls that have ended, in the order in which they did so. -/
  calls : List Caller.Call := []

namespace Shared

inductive Event where
  /-- A caller begins to set up the engine. -/
  | attempt (caller : Caller)
  /-- A call of the host ends. -/
  | host (call : Nat)
  /-- Something happens in the session of a cache. -/
  | cache (k : Nat) (event : Session.Event)
  deriving DecidableEq

def session? (h : Shared) (k : Nat) : Option Session := (h.sessions[k]?).map (·.on h.engine)

/-- The host may call at any time, a construction when it has loaded its definition. -/
def calling (h : Shared) : Caller → Bool
  | .host _ => true
  | .construction k number => (h.session? k).any fun s => (s.cache.loaded? number).isSome

/-- How often the engine was tried to be set up, with the attempt that is under way. -/
def tries (h : Shared) : Nat := h.engine.attempts + h.attempt.isSome.toNat

/-- A call can end once the library is there, or with the attempt that the caller makes itself. -/
def served (h : Shared) (caller : Caller) : Bool := h.engine.isReady || h.attempt == some caller

def serve (h : Shared) (caller : Caller) : Shared :=
  { h with
    engine := h.engine.ready.2
    attempt := none
    calls := h.calls ++ [⟨caller, h.engine.ready.1⟩] }

def put (h : Shared) (k : Nat) (s : Session) : Shared :=
  { h with engine := s.cache.engine, sessions := h.sessions.set k s }

/-- A construction would go away while it sets up the engine. It does nothing else in the meantime,
so it does not go away then. -/
def interrupts (h : Shared) (k : Nat) : Session.Event → Bool
  | .work number .abort => h.attempt == some (.construction k number)
  | _ => false

/-- An event that cannot happen at the moment changes nothing. -/
def step (h : Shared) : Event → Shared
  | .attempt caller =>
    if h.engine.isReady = false ∧ h.attempt = none ∧ h.calling caller then
      { h with attempt := some caller }
    else h
  | .host call => if h.served (.host call) then h.serve (.host call) else h
  | .cache k event =>
    match h.session? k with
    | none => h
    | some s =>
      match s.caller? event with
      | some number =>
        if h.served (.construction k number) then
          (h.serve (.construction k number)).put k (s.step event)
        else h
      | none => if h.interrupts k event then h else h.put k (s.step event)

def run (h : Shared) (events : List Event) : Shared := events.foldl step h

def fresh (setUp : Nat → Except Error Library) (caches : List (Source × Compiler × Options)) :
    Shared where
  engine := .unset setUp
  sessions := caches.map fun (source, compiler, options) =>
    Session.fresh source compiler (.unset setUp) options

variable {setUp : Nat → Except Error Library} {h h' : Shared} {k : Nat} {s : Session}

/-! ### Steps -/

inductive Way (h : Shared) : Shared → Prop where
  | idle : Way h h
  | attempt {caller : Caller} : h.engine.library = none → h.attempt = none → h.calling caller →
      Way h { h with attempt := some caller }
  | host {call : Nat} : h.served (.host call) → Way h (h.serve (.host call))
  | construction {k number : Nat} {s : Session} {definition : Definition} :
      h.session? k = some s → s.cache.loaded? number = some definition →
      h.served (.construction k number) →
      Way h { h.serve (.construction k number) with
        sessions := h.sessions.set k (s.step (.work number .prepare)) }
  | session {k : Nat} {s : Session} {event : Session.Event} : h.session? k = some s →
      s.caller? event = none → h.interrupts k event = false →
      Way h { h with sessions := h.sessions.set k (s.step event) }

theorem library_eq_none_iff (e : Engine) : e.isReady = false ↔ e.library = none := by
  rw [Engine.isReady, Option.isSome_eq_false_iff, Option.isNone_iff_eq_none]

theorem session?_eq_some (found : h.session? k = some s) :
    ∃ s', h.sessions[k]? = some s' ∧ s = s'.on h.engine := by
  obtain ⟨s', held, same⟩ := Option.map_eq_some_iff.mp found
  exact ⟨s', held, same.symm⟩

theorem eq_of_session? {s' : Session} (found : h.session? k = some s)
    (held : h.sessions[k]? = some s') : s = s'.on h.engine := by
  obtain ⟨_, held', same⟩ := session?_eq_some found
  cases held.symm.trans held'
  exact same

theorem lt_of_session? (found : h.session? k = some s) : k < h.sessions.length := by
  obtain ⟨s', found, -⟩ := session?_eq_some found
  exact (List.getElem?_eq_some_iff.mp found).1

theorem engine_of_session? (found : h.session? k = some s) : s.cache.engine = h.engine := by
  obtain ⟨s', -, rfl⟩ := session?_eq_some found
  rfl

theorem put_of_engine (same : s.cache.engine = h.engine) :
    h.put k s = { h with sessions := h.sessions.set k s } := by
  rw [put, same]

theorem way_step (h : Shared) (event : Event) : h.Way (h.step event) := by
  cases event with
  | attempt caller =>
    simp only [step]
    split
    · rename_i begins
      obtain ⟨unset, idle, calling⟩ := begins
      exact .attempt ((library_eq_none_iff _).mp unset) idle calling
    · exact .idle
  | host call =>
    simp only [step]
    split
    · rename_i served
      exact .host served
    · exact .idle
  | cache k event =>
    simp only [step]
    split
    · exact .idle
    · rename_i s found
      split
      · rename_i number calls
        obtain ⟨rfl, definition, loaded⟩ := Session.caller?_eq_some calls
        split
        · rename_i served
          have engine := (Cache.prepare_of_loaded loaded).1
          rw [engine_of_session? found] at engine
          rw [put_of_engine engine]
          exact .construction found loaded served
        · exact .idle
      · rename_i silent
        split
        · exact .idle
        · rename_i goes
          have engine := Session.engine_step silent
          rw [engine_of_session? found] at engine
          rw [put_of_engine engine]
          exact .session found silent (Bool.eq_false_iff.mpr goes)

/-! ### What was given -/

/-- A construction has come as far as it may with what its call was given. -/
def Received (sessions : List Session) (c : Caller.Call) : Prop :=
  ∀ k number, c.caller = .construction k number →
    ∃ s scopeName stage, sessions[k]? = some s ∧
      s.cache.constructions[number]? = some ⟨scopeName, stage⟩ ∧
      Stage.After s.cache.compiler number c.result stage

theorem received_step (found : h.session? k = some s) (event : Session.Event) {c : Caller.Call}
    (received : Received h.sessions c) : Received (h.sessions.set k (s.step event)) c := by
  intro k' number calls
  obtain ⟨s', scopeName, stage, found', constructed, given⟩ := received k' number calls
  by_cases own : k = k'
  · subst own
    obtain rfl := eq_of_session? found found'
    refine ⟨(s'.on h.engine).step event, scopeName, ?_⟩
    obtain ⟨later, kept, on_⟩ := Session.leads_step (s := s'.on h.engine) event constructed
    have compiler := (Session.kept_step event (.refl (s'.on h.engine).cache)).compiler
    refine ⟨later, List.getElem?_set_self (lt_of_session? found), kept, ?_⟩
    rw [compiler]
    rcases on_ with rfl | leads
    · exact given
    · exact Cache.after_of_leads leads given
  · exact ⟨s', scopeName, stage, (List.getElem?_set_ne own).trans found', constructed, given⟩

theorem received_call {number : Nat} {definition : Definition} (found : h.session? k = some s)
    (loaded : s.cache.loaded? number = some definition) :
    Received (h.sessions.set k (s.step (.work number .prepare)))
      ⟨.construction k number, h.engine.ready.1⟩ := by
  intro k' number' same
  cases same
  obtain ⟨-, scopeName, constructed⟩ := Cache.prepare_of_loaded loaded
  rw [engine_of_session? found] at constructed
  exact ⟨_, scopeName, _, List.getElem?_set_self (lt_of_session? found), constructed,
    Stage.after_ofCall _ _ _ _ _⟩

theorem not_called {number : Nat} {definition : Definition} (found : h.session? k = some s)
    (loaded : s.cache.loaded? number = some definition) {c : Caller.Call}
    (received : Received h.sessions c) : c.caller ≠ .construction k number := by
  intro called
  obtain ⟨s', scopeName, stage, found', constructed, given⟩ := received k number called
  obtain rfl := eq_of_session? found found'
  obtain ⟨scopeName', count, loading, -⟩ := Cache.loaded?_eq_some loaded
  have same : s'.cache.constructions[number]? = some ⟨scopeName', .loading count⟩ := loading
  cases constructed.symm.trans same
  -- Nothing that a call may be given leads to a construction that still loads.
  generalize c.result = result at given
  cases given

/-- Whoever is about to set up the engine still waits for the library, whatever else happens. -/
theorem calling_step (found : h.session? k = some s) {event : Session.Event}
    (silent : s.caller? event = none) {caller : Caller} (attempts : h.attempt = some caller)
    (goes : h.interrupts k event = false) (calling : h.calling caller) :
    Shared.calling { h with sessions := h.sessions.set k (s.step event) } caller := by
  cases caller with
  | host call => rfl
  | construction k' number =>
    obtain ⟨s', found', loaded⟩ := (Option.any_eq_true ..).mp calling
    obtain ⟨definition, loaded⟩ := Option.isSome_iff_exists.mp loaded
    by_cases own : k = k'
    · subst own
      cases found.symm.trans found'
      have other : event ≠ .work number .prepare := by
        rintro rfl
        simp [Session.caller?, loaded] at silent
      have stays : event ≠ .work number .abort := by
        rintro rfl
        simp [interrupts, attempts] at goes
      have still := Session.loaded?_step loaded other stays
      simp only [Shared.calling, session?, List.getElem?_set_self (lt_of_session? found),
        Option.map_some, Option.any_some]
      exact Option.isSome_iff_exists.mpr ⟨definition, still⟩
    · simp only [Shared.calling, session?, List.getElem?_set_ne own]
      exact calling

/-! ### Runs -/

structure Safe (setUp : Nat → Except Error Library) (h : Shared) : Prop where
  engine : h.engine = (Engine.unset setUp).after h.calls.length
  given : ∀ i c, h.calls[i]? = some c → c.result = (Engine.unset setUp).given i
  count : h.engine.attempts = h.calls.countP (·.failed) + h.engine.isReady.toNat
  unset : h.attempt ≠ none → h.engine.library = none
  calling : ∀ caller, h.attempt = some caller → h.calling caller
  received : ∀ c ∈ h.calls, Received h.sessions c
  once : h.calls.Pairwise fun c c' => c.caller = c'.caller → ∃ call, c.caller = .host call

theorem safe_fresh (setUp : Nat → Except Error Library)
    (caches : List (Source × Compiler × Options)) : (fresh setUp caches).Safe setUp where
  engine := rfl
  given _ _ found := by cases found
  count := rfl
  unset := absurd rfl
  calling _ attempts := by cases attempts
  received _ member := by cases member
  once := .nil

theorem safe_serve {caller : Caller} {sessions : List Session} (safe : h.Safe setUp)
    (new : ∀ c ∈ h.calls, c.caller = caller → ∃ call, c.caller = .host call)
    (kept : ∀ c, Received h.sessions c → Received sessions c)
    (received : Received sessions ⟨caller, h.engine.ready.1⟩) :
    Safe setUp { h.serve caller with sessions } where
  engine := by
    simp only [serve, List.length_append, List.length_singleton, Engine.after, ← safe.engine]
  given := by
    intro i c found
    simp only [serve] at found
    rcases Nat.lt_or_ge i h.calls.length with earlier | last
    · rw [List.getElem?_append_left earlier] at found
      exact safe.given i c found
    · rw [List.getElem?_append_right last, List.getElem?_singleton] at found
      split at found
      · cases found
        have here : i = h.calls.length := by omega
        rw [here, Engine.given, ← safe.engine]
      · cases found
  count := by
    have counted := safe.count
    have more := Engine.attempts_ready h.engine
    have last : Caller.Call.failed ⟨caller, h.engine.ready.1⟩ =
        h.engine.ready.1.toOption.isNone := rfl
    simp only [serve, List.countP_append, List.countP_singleton, last]
    cases failed : h.engine.ready.1.toOption.isNone with
    | true =>
      simp only [failed, Bool.toNat_true] at more
      simp only [if_true]
      omega
    | false =>
      simp only [failed, Bool.toNat_false] at more
      simp only [Bool.false_eq_true, if_false]
      omega
  unset := absurd rfl
  calling := nofun
  received := by
    intro c member
    rcases List.mem_append.mp member with before | last
    · exact kept c (safe.received c before)
    · obtain rfl := List.mem_singleton.mp last
      exact received
  once := by
    refine List.pairwise_append.mpr ⟨safe.once, List.pairwise_singleton _ _, ?_⟩
    intro c member c' last
    obtain rfl := List.mem_singleton.mp last
    exact new c member

theorem safe_way (way : h.Way h') (safe : h.Safe setUp) : h'.Safe setUp := by
  cases way with
  | idle => exact safe
  | attempt unset idle calling =>
    exact { safe with
      unset := fun _ => unset
      calling := fun caller same => by
        cases same
        exact calling
      received := safe.received }
  | host served =>
    refine safe_serve safe (fun c _ same => ⟨_, same⟩) (fun c received => received) ?_
    intro k number same
    cases same
  | construction found loaded served =>
    refine safe_serve safe ?_ (fun c received => received_step found _ received)
      (received_call found loaded)
    intro c member same
    exact absurd same (not_called found loaded (safe.received c member))
  | session found silent goes =>
    exact {
      engine := safe.engine
      given := safe.given
      count := safe.count
      unset := safe.unset
      calling := fun caller attempts =>
        calling_step found silent attempts goes (safe.calling caller attempts)
      received := fun c member => received_step found _ (safe.received c member)
      once := safe.once }

theorem safe_run (events : List Event) (safe : h.Safe setUp) : (h.run events).Safe setUp := by
  induction events generalizing h with
  | nil => exact safe
  | cons event rest ih => exact ih (safe_way (way_step h event) safe)

theorem Safe.library_iff (safe : h.Safe setUp) {library : Library} :
    h.engine.library = some library ↔ ∃ n < h.calls.length, First setUp n library := by
  rw [safe.engine]
  exact Engine.library_after_iff

/-- As long as there is no library every call has failed. -/
theorem Safe.failsBefore (safe : h.Safe setUp) (unset : h.engine.library = none) :
    FailsBefore setUp h.calls.length := by
  rcases Engine.failsBefore_or_first setUp h.calls.length with fails | ⟨n, bound, library, first⟩
  · exact fails
  · rw [safe.library_iff.mpr ⟨n, bound, first⟩] at unset
    cases unset

theorem Safe.ready_of_attempt (safe : h.Safe setUp) (attempts : h.attempt ≠ none) :
    h.engine.ready.1 = setUp h.calls.length := by
  rw [← Engine.given_of_failsBefore (safe.failsBefore (safe.unset attempts)), Engine.given,
    ← safe.engine]

/-- While the engine is being set up nobody is served but the one who does that. -/
theorem Safe.eq_of_served (safe : h.Safe setUp) {caller caller' : Caller}
    (attempts : h.attempt = some caller) (served : h.served caller') : caller' = caller := by
  have unset := safe.unset (attempts ▸ Option.some_ne_none caller)
  simp only [Shared.served, Engine.isReady, unset, attempts, Option.isSome_none, Bool.false_or,
    beq_iff_eq, Option.some.injEq] at served
  exact served.symm

/-- An attempt goes on, or it ends together with the call of the one who made it, who is given what
came of it. -/
theorem Safe.attempt_way (safe : h.Safe setUp) {caller : Caller}
    (attempts : h.attempt = some caller) (way : h.Way h') :
    h'.attempt = some caller ∧ h'.engine = h.engine ∧ h'.calls = h.calls ∨
      h'.attempt = none ∧ h'.calls = h.calls ++ [⟨caller, setUp h.calls.length⟩] := by
  have outcome := safe.ready_of_attempt (attempts ▸ Option.some_ne_none caller)
  cases way with
  | idle => exact .inl ⟨attempts, rfl, rfl⟩
  | attempt _ idle _ => cases idle.symm.trans attempts
  | host served =>
    obtain rfl := safe.eq_of_served attempts served
    exact .inr ⟨rfl, by simp only [serve, outcome]⟩
  | construction _ _ served =>
    obtain rfl := safe.eq_of_served attempts served
    exact .inr ⟨rfl, by simp only [serve, outcome]⟩
  | session _ _ _ => exact .inl ⟨attempts, rfl, rfl⟩

theorem Safe.attempt_ends (safe : h.Safe setUp) {caller : Caller}
    (attempts : h.attempt = some caller) : ∃ event, (h.step event).attempt = none := by
  have served : h.served caller := by simp [Shared.served, attempts]
  cases caller with
  | host call => exact ⟨.host call, by simp only [step, served, if_true, serve]⟩
  | construction k number =>
    obtain ⟨s, found, loaded⟩ := (Option.any_eq_true ..).mp (safe.calling _ attempts)
    refine ⟨.cache k (.work number .prepare), ?_⟩
    simp only [step, found, Session.caller?, loaded, if_true, served, put, serve]

/-- Once there is a library every call can end, and is given it. -/
theorem calls_of_library {library : Library} (held : h.engine.library = some library) :
    (∀ call, (h.step (.host call)).calls = h.calls ++ [⟨.host call, .ok library⟩]) ∧
      ∀ k number, h.calling (.construction k number) →
        (h.step (.cache k (.work number .prepare))).calls =
          h.calls ++ [⟨.construction k number, .ok library⟩] := by
  have given : h.engine.ready.1 = .ok library := by rw [Engine.ready, held]
  have served (caller : Caller) : h.served caller := by simp [Shared.served, Engine.isReady, held]
  constructor
  · intro call
    simp only [step, served, if_true, serve, given]
  · intro k number calling
    obtain ⟨s, found, loaded⟩ := (Option.any_eq_true ..).mp calling
    simp only [step, found, Session.caller?, loaded, if_true, served, put, serve, given]

/-- What is known at every moment of an engine that is shared. -/
structure SetUpOnce (setUp : Nat → Except Error Library) (h : Shared) : Prop where
  /-- Up to the first success each call is given what came of an attempt of its own. -/
  tried : ∀ i c, h.calls[i]? = some c → FailsBefore setUp i → c.result = setUp i
  /-- From then on every call is given the library of that success. -/
  kept : ∀ n library, First setUp n library → ∀ i c, n ≤ i → h.calls[i]? = some c →
    c.result = .ok library
  /-- The engine is ready from then on and not before. -/
  ready : ∀ library, h.engine.library = some library ↔
    ∃ n < h.calls.length, First setUp n library
  /-- As long as all attempts fail there was one for each call, and one more if it is under way. -/
  failing : FailsBefore setUp h.calls.length →
    h.tries = h.calls.length + h.attempt.isSome.toNat
  /-- After the first success there is no attempt any more. -/
  succeeded : ∀ n library, First setUp n library → n < h.calls.length →
    h.tries = n + 1 ∧ h.attempt = none
  /-- Once it is ready every call ends as soon as it is made, and is given the library. -/
  served : ∀ library, h.engine.library = some library →
    (∀ call, (h.step (.host call)).calls = h.calls ++ [⟨.host call, .ok library⟩]) ∧
      ∀ k number, h.calling (.construction k number) →
        (h.step (.cache k (.work number .prepare))).calls =
          h.calls ++ [⟨.construction k number, .ok library⟩]
  /-- Until then whoever calls can make an attempt, if there is none under way. -/
  begins : ∀ caller, h.engine.library = none → h.attempt = none → h.calling caller →
    (h.step (.attempt caller)).attempt = some caller
  count : h.tries =
    h.calls.countP (·.failed) + h.engine.isReady.toNat + h.attempt.isSome.toNat
  /-- An attempt that is under way keeps all others from the engine until it ends, and it can end:
  the one who makes it is given what comes of it. -/
  own : ∀ caller, h.attempt = some caller →
    (∀ event, (h.step event).attempt = some caller ∧ (h.step event).engine = h.engine ∧
        (h.step event).calls = h.calls ∨
      (h.step event).attempt = none ∧
        (h.step event).calls = h.calls ++ [⟨caller, setUp h.calls.length⟩]) ∧
    ∃ event, (h.step event).attempt = none
  /-- What a construction goes on with is what its call was given. -/
  received : ∀ c ∈ h.calls, Received h.sessions c
  /-- No construction calls twice. -/
  once : h.calls.Pairwise fun c c' => c.caller = c'.caller → ∃ call, c.caller = .host call

/-- However often an engine fails to be set up, and whoever asks for its library: it is set up once,
by the first attempt that succeeds. -/
theorem setUpOnce_run (setUp : Nat → Except Error Library)
    (caches : List (Source × Compiler × Options)) (events : List Event) :
    SetUpOnce setUp ((fresh setUp caches).run events) := by
  have safe := safe_run events (safe_fresh setUp caches)
  generalize (fresh setUp caches).run events = h at safe
  refine {
    tried := fun i c found fails =>
      (safe.given i c found).trans (Engine.given_of_failsBefore fails)
    kept := fun n library first i c later found =>
      (safe.given i c found).trans (Engine.given_of_first first later)
    ready := fun library => safe.library_iff
    failing := ?_
    succeeded := ?_
    served := fun library => calls_of_library
    begins := fun caller unset idle calling => by
      simp only [step, library_eq_none_iff, unset, idle, calling, and_self, if_true]
    count := by rw [tries, safe.count]
    own := fun caller attempts => ⟨fun event => safe.attempt_way attempts (way_step h event),
      safe.attempt_ends attempts⟩
    received := safe.received
    once := safe.once }
  · intro fails
    rw [tries, safe.engine, Engine.after_of_failsBefore fails]
  · intro n library first later
    have idle : h.attempt = none := by
      by_contra attempts
      have unset := safe.unset attempts
      rw [safe.library_iff.mpr ⟨n, later, first⟩] at unset
      cases unset
    rw [tries, safe.engine, Engine.after_of_first first later, idle]
    exact ⟨rfl, rfl⟩

def stubborn (attempt : Nat) : Except Error Library :=
  if attempt = 0 then .error (.engineUnavailable "not yet") else .ok .standard

/-- Constructions of two caches and the host call, while the first of them sets up the engine. -/
def crowd : List Event :=
  [.cache 0 (.ask "source.json"), .cache 1 (.ask "source.json"), .cache 0 (.work 0 .begin),
    .cache 1 (.work 0 .begin), .attempt (.construction 0 0), .attempt (.host 0),
    .cache 1 (.work 0 .prepare), .cache 0 (.work 0 .prepare), .host 0,
    .attempt (.construction 1 0), .cache 1 (.work 0 .prepare), .host 0]

example :
    let source : Source := { load := fun _ name => .ok ⟨name, Sample.dataGrammar⟩ }
    let cache := (source, Compiler.blocks "block", ({} : Options))
    let h := (fresh stubborn [cache, cache]).run crowd
    h.calls.map (fun c => (c.caller, c.failed)) =
        [(.construction 0 0, true), (.construction 1 0, false), (.host 0, false)] ∧
      h.tries = 2 := by
  decide +kernel

end Shared

end TokenTheme
