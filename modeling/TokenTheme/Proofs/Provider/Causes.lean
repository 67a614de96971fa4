import Mathlib
import TokenTheme.Proofs.Provider.Progress
/-!
# Causes of results

Every result of a construction comes from somewhere: from a load that failed, from an engine that
could not be set up, or from what the compiler made of a definition that was loaded. What a request
is answered is such a result, unless its construction went away (`cause_of_reply`). A definition
that the compiler refuses has no other outcome than that (`refused_run`).
-/
namespace TokenTheme

namespace Regex.Engine

variable {e : Engine} {result : Except Error Library}

/-- What may come of an engine: its library, or the outcome of an attempt at setting it up. -/
def Yields (e : Engine) (result : Except Error Library) : Prop :=
  (∃ library, e.library = some library ∧ result = .ok library) ∨ ∃ n, e.setUp n = result

theorem yields_ready (e : Engine) : e.Yields e.ready.1 := by
  unfold ready
  split
  · rename_i library held
    exact .inl ⟨library, held, rfl⟩
  · right
    refine ⟨e.attempts, ?_⟩
    split <;> assumption

theorem yields_of_ready (yields : e.ready.2.Yields result) : e.Yields result := by
  unfold ready at yields
  split at yields
  · exact yields
  · rename_i empty
    split at yields
    · rename_i library made
      rcases yields with ⟨library', held, rfl⟩ | attempt
      · cases held
        exact .inr ⟨e.attempts, made⟩
      · exact .inr attempt
    · exact yields

end Regex.Engine

namespace Cache

variable {b c d : Cache} {number : Nat} {scopeName : String} {old new : Stage}

/-- A cache goes on with the same source, compiler and options, and with the same engine, or one
that has been asked for its library. -/
structure Kept (b c : Cache) : Prop where
  source : c.source = b.source
  compiler : c.compiler = b.compiler
  options : c.options = b.options
  engine : ∀ result, c.engine.Yields result → b.engine.Yields result

theorem Kept.refl (c : Cache) : c.Kept c := ⟨rfl, rfl, rfl, fun _ yields => yields⟩

theorem Kept.trans (first : b.Kept c) (second : c.Kept d) : b.Kept d where
  source := second.source.trans first.source
  compiler := second.compiler.trans first.compiler
  options := second.options.trans first.options
  engine result yields := first.engine result (second.engine result yields)

theorem Kept.publish (kept : b.Kept c) (result : Except Error Provider) :
    b.Kept (c.publish scopeName number result) := by
  cases result <;> exact ⟨kept.source, kept.compiler, kept.options, kept.engine⟩

theorem kept_request (c : Cache) (scopeName : String) : c.Kept (c.request scopeName).2 := by
  unfold request
  split <;> exact ⟨rfl, rfl, rfl, fun _ yields => yields⟩

theorem kept_prepare (c : Cache) (number : Nat) : c.Kept (c.prepare number) := by
  -- Once there is a definition the engine is asked, whatever comes of it.
  have asked : c.Kept { c.tell c.engine.log with engine := c.engine.ready.2 } :=
    ⟨rfl, rfl, rfl, fun _ yields => Regex.Engine.yields_of_ready yields⟩
  unfold prepare
  split
  · split
    · exact (Kept.refl c).publish _
    · simp only
      split
      · exact asked.publish _
      · exact ⟨asked.source, asked.compiler, asked.options, asked.engine⟩
  · exact .refl c

theorem kept_compile (c : Cache) (number : Nat) : c.Kept (c.compile number) := by
  unfold compile
  split
  · rename_i scopeName definition library found
    have counted : c.Kept (if c.compiler.counts definition then
        { c with compiled := c.compiled + 1 } else c) := by
      split <;> exact ⟨rfl, rfl, rfl, fun _ yields => yields⟩
    simp only
    split
    · exact counted.publish _
    · exact ⟨counted.source, counted.compiler, counted.options, counted.engine⟩
  · exact .refl c

theorem kept_act (c : Cache) (number : Nat) (a : Act) : c.Kept (c.act number a) := by
  cases a with
  | prepare => exact c.kept_prepare number
  | compile => exact c.kept_compile number
  | begin =>
    simp only [act, begin]
    split <;> exact ⟨rfl, rfl, rfl, fun _ yields => yields⟩
  | withdraw =>
    simp only [act, withdraw]
    split
    · split <;> exact ⟨rfl, rfl, rfl, fun _ yields => yields⟩
    · exact .refl c
  | announce =>
    simp only [act, announce]
    split <;> exact ⟨rfl, rfl, rfl, fun _ yields => yields⟩
  | abort =>
    simp only [act, abort]
    split <;> exact ⟨rfl, rfl, rfl, fun _ yields => yields⟩

/-- Where the result of a construction comes from, in a cache that began as `b`. -/
inductive Cause (b : Cache) (number : Nat) (scopeName : String) : Except Error Provider → Prop where
  | unloaded {count : Nat} {error : Error} : b.source.load count scopeName = .error error →
      b.Cause number scopeName (.error error)
  | unready {error : Error} : b.engine.Yields (.error error) →
      b.Cause number scopeName (.error error)
  | unmade {count : Nat} {definition : Definition} {library : Regex.Library} {error : Error} :
      b.source.load count scopeName = .ok definition → b.engine.Yields (.ok library) →
      b.compiler.compile number library definition = .done (.error error) →
      b.Cause number scopeName (.error error)
  | made {count : Nat} {definition : Definition} {library : Regex.Library} {grammar : Grammar} :
      b.source.load count scopeName = .ok definition → b.engine.Yields (.ok library) →
      b.compiler.compile number library definition = .done (.ok grammar) →
      b.Cause number scopeName (.ok ⟨grammar, b.options⟩)

inductive Founded (b : Cache) (number : Nat) (scopeName : String) : Stage → Prop where
  | started : b.Founded number scopeName .started
  | loading {count : Nat} : b.Founded number scopeName (.loading count)
  | ready {count : Nat} {definition : Definition} {library : Regex.Library} :
      b.source.load count scopeName = .ok definition → b.engine.Yields (.ok library) →
      b.Founded number scopeName (.ready definition library)
  | failing {error : Error} {owned : Bool} : b.Cause number scopeName (.error error) →
      b.Founded number scopeName (.failing error owned)
  | failed {error : Error} : b.Cause number scopeName (.error error) →
      b.Founded number scopeName (.failed error)
  | done {result : Except Error Provider} : b.Cause number scopeName result →
      b.Founded number scopeName (.done result)
  | gone : b.Founded number scopeName .gone

theorem founded_of_leads (kept : b.Kept c) (leads : c.Leads number scopeName old new)
    (founded : b.Founded number scopeName old) : b.Founded number scopeName new := by
  have yields := kept.engine _ c.engine.yields_ready
  cases leads with
  | load => exact .loading
  | loaded load made => exact .ready (kept.source ▸ load) (made ▸ yields)
  | unloaded load => exact .failing (.unloaded (kept.source ▸ load))
  | unready made => exact .failing (.unready (made ▸ yields))
  | made compiled =>
    cases founded with
    | ready load given =>
      rw [kept.options]
      exact .done (.made load given (kept.compiler ▸ compiled))
  | unmade compiled =>
    cases founded with
    | ready load given => exact .failing (.unmade load given (kept.compiler ▸ compiled))
  | withdrawn =>
    cases founded with
    | failing cause => exact .failed cause
  | told =>
    cases founded with
    | failed cause => exact .done cause
  | abandoned running => exact .gone

inductive Refused (definition : Definition) (library : Regex.Library) (error : Error) :
    Stage → Prop where
  | ready : Refused definition library error (.ready definition library)
  | failing {owned : Bool} : Refused definition library error (.failing error owned)
  | failed : Refused definition library error (.failed error)
  | told : Refused definition library error (.done (.error error))
  | gone : Refused definition library error .gone

theorem refused_of_leads {definition : Definition} {library : Regex.Library} {error : Error}
    (refuses : c.compiler.compile number library definition = .done (.error error))
    (leads : c.Leads number scopeName old new) (refused : Refused definition library error old) :
    Refused definition library error new := by
  cases refused with
  | ready =>
    cases leads with
    | made compiled => cases refuses.symm.trans compiled
    | unmade compiled =>
      cases refuses.symm.trans compiled
      exact .failing
    | abandoned running => exact .gone
  | failing =>
    cases leads with
    | withdrawn => exact .failed
    | abandoned running => exact .gone
  | failed =>
    cases leads with
    | told => exact .told
    | abandoned running => exact .gone
  | told =>
    cases leads with
    | abandoned running => cases running
  | gone =>
    cases leads with
    | abandoned running => exact .gone

end Cache

namespace Session

variable {s : Session} {b : Cache}

theorem kept_step (event : Event) (kept : b.Kept s.cache) : b.Kept (s.step event).cache := by
  cases event with
  | ask scopeName => exact kept.trans (s.cache.kept_request scopeName)
  | work number act => exact kept.trans (s.cache.kept_act number act)
  | poll i =>
    rw [cache_poll]
    exact kept
  | clear i =>
    rcases s.cache_clear i with same | ⟨r, -, -, same⟩
    · rw [same]
      exact kept
    · rw [same]
      exact ⟨kept.source, kept.compiler, kept.options, kept.engine⟩

theorem kept_run (events : List Event) (kept : b.Kept s.cache) : b.Kept (s.run events).cache := by
  induction events generalizing s with
  | nil => exact kept
  | cons event rest ih => exact ih (kept_step event kept)

structure Founded (b : Cache) (s : Session) : Prop where
  kept : b.Kept s.cache
  founded : ∀ number scopeName stage,
    s.cache.constructions[number]? = some ⟨scopeName, stage⟩ → b.Founded number scopeName stage

theorem founded_fresh (source : Source) (compiler : Compiler) (engine : Regex.Engine)
    (options : Options) :
    Founded (fresh source compiler engine options).cache
      (fresh source compiler engine options) := by
  refine ⟨.refl _, ?_⟩
  intro number scopeName stage found
  simp [fresh] at found

theorem founded_step (event : Event) (founded : Founded b s) : Founded b (s.step event) where
  kept := kept_step event founded.kept
  founded := by
    intro number scopeName stage found
    rcases constructions_of_step event found with ⟨old, before⟩ | ⟨-, -, -, new⟩
    · have known := founded.founded number scopeName old before
      obtain ⟨later, after, same | leads⟩ := leads_step event before
      · cases after.symm.trans found
        exact same ▸ known
      · cases after.symm.trans found
        exact Cache.founded_of_leads founded.kept leads known
    · obtain rfl : stage = .started := new
      exact .started

theorem founded_run (events : List Event) (founded : Founded b s) : Founded b (s.run events) := by
  induction events generalizing s with
  | nil => exact founded
  | cons event rest ih => exact ih (founded_step event founded)

theorem cause_of_reply (founded : Founded b s) (safe : s.Safe) {r : Request} {reply : Reply}
    (member : r ∈ s.requests) (given : r.reply = some reply) :
    reply = .error (.constructionAborted r.scopeName) ∨
      ∃ result, b.Cause r.number r.scopeName result ∧ reply = result.map (⟨r.number, ·⟩) := by
  obtain ⟨stage, constructed, answered⟩ := safe.waits r member
  have said := answered reply given
  have known := founded.founded r.number r.scopeName stage constructed
  cases known with
  | done cause => exact .inr ⟨_, cause, (Option.some.inj said).symm⟩
  | gone => exact .inl (Option.some.inj said).symm
  | _ => cases said

theorem refused_run (events : List Event) {number : Nat} {scopeName : String} {stage : Stage}
    {definition : Definition} {library : Regex.Library} {error : Error} (kept : b.Kept s.cache)
    (refuses : b.compiler.compile number library definition = .done (.error error))
    (found : s.cache.constructions[number]? = some ⟨scopeName, stage⟩)
    (refused : Cache.Refused definition library error stage) :
    ∃ later, (s.run events).cache.constructions[number]? = some ⟨scopeName, later⟩ ∧
      Cache.Refused definition library error later := by
  induction events generalizing s stage with
  | nil => exact ⟨stage, found, refused⟩
  | cons event rest ih =>
    have next := kept_step event kept
    obtain ⟨later, after, stays | leads⟩ := leads_step event found
    · exact ih next after (stays ▸ refused)
    · rw [← kept.compiler] at refuses
      exact ih next after (Cache.refused_of_leads refuses leads refused)

/-- Whoever waits for a definition that the compiler refuses is told why, unless the construction
goes away. -/
theorem reply_of_refused (events : List Event) {number : Nat} {scopeName : String}
    {definition : Definition} {library : Regex.Library} {error : Error} (safe : s.Safe)
    (kept : b.Kept s.cache)
    (refuses : b.compiler.compile number library definition = .done (.error error))
    (found : s.cache.constructions[number]? = some ⟨scopeName, .ready definition library⟩)
    {r : Request} {reply : Reply} (member : r ∈ (s.run events).requests)
    (waits : r.number = number) (given : r.reply = some reply) :
    reply = .error error ∨ reply = .error (.constructionAborted scopeName) := by
  obtain ⟨stage, constructed, answered⟩ := (run_safe events safe).waits r member
  obtain ⟨later, after, refused⟩ := refused_run events kept refuses found .ready
  rw [waits] at constructed
  cases constructed.symm.trans after
  have said := answered reply given
  cases refused with
  | told => exact .inl (Option.some.inj said).symm
  | gone => exact .inr (Option.some.inj said).symm
  | _ => cases said

end Session

end TokenTheme
