import Mathlib
import TokenTheme.Proofs.Provider.Causes
/-!
# Constructions that call for the library

A construction that has loaded its definition asks the engine for the library. That is one of its
steps, and the only one that has to do with the engine. It goes on with what it is given, which can
be told from its stage ever after.
-/
namespace TokenTheme

open Regex (Library)

namespace Stage

def ofCall (definition : Definition) (owned : Bool) : Except Error Library → Stage
  | .ok library => .ready definition library
  | .error error => .failing error owned

/-- How far a construction may come with what its call was given. -/
inductive After (compiler : Compiler) (number : Nat) : Except Error Library → Stage → Prop where
  | refusing {error : Error} {owned : Bool} :
      After compiler number (.error error) (.failing error owned)
  | refused {error : Error} : After compiler number (.error error) (.failed error)
  | refusedTold {error : Error} : After compiler number (.error error) (.done (.error error))
  | ready {definition : Definition} {library : Library} :
      After compiler number (.ok library) (.ready definition library)
  | made {definition : Definition} {library : Library} {grammar : Grammar} {options : Options} :
      compiler.compile number library definition = .done (.ok grammar) →
      After compiler number (.ok library) (.done (.ok ⟨grammar, options⟩))
  | unmaking {definition : Definition} {library : Library} {error : Error} {owned : Bool} :
      compiler.compile number library definition = .done (.error error) →
      After compiler number (.ok library) (.failing error owned)
  | unmade {definition : Definition} {library : Library} {error : Error} :
      compiler.compile number library definition = .done (.error error) →
      After compiler number (.ok library) (.failed error)
  | unmadeTold {definition : Definition} {library : Library} {error : Error} :
      compiler.compile number library definition = .done (.error error) →
      After compiler number (.ok library) (.done (.error error))
  | gone {library : Library} : After compiler number (.ok library) .gone

theorem after_ofCall (compiler : Compiler) (number : Nat) (definition : Definition) (owned : Bool)
    (result : Except Error Library) :
    After compiler number result (ofCall definition owned result) := by
  cases result with
  | ok library => exact .ready
  | error error => exact .refusing

end Stage

namespace Cache

variable {c : Cache} {number : Nat} {scopeName : String} {old new : Stage}
  {definition : Definition}

/-- The definition that a construction has loaded, which asks for the library next. -/
def loaded? (c : Cache) (number : Nat) : Option Definition :=
  match c.constructions[number]? with
  | some ⟨scopeName, .loading count⟩ => (c.source.load count scopeName).toOption
  | _ => none

theorem loaded?_eq_some (loaded : c.loaded? number = some definition) :
    ∃ scopeName count, c.constructions[number]? = some ⟨scopeName, .loading count⟩ ∧
      c.source.load count scopeName = .ok definition := by
  unfold loaded? at loaded
  split at loaded
  · rename_i scopeName count found
    exact ⟨scopeName, count, found, toOption_eq_some_iff.mp loaded⟩
  · cases loaded

/-- A construction that has loaded its definition asks the engine for the library, and goes on with
what it is given. -/
theorem prepare_of_loaded (loaded : c.loaded? number = some definition) :
    (c.prepare number).engine = c.engine.ready.2 ∧
      ∃ scopeName, (c.prepare number).constructions[number]? = some ⟨scopeName,
        .ofCall definition (c.owns scopeName number) c.engine.ready.1⟩ := by
  obtain ⟨scopeName, count, found, load⟩ := loaded?_eq_some loaded
  simp only [prepare, found, load]
  cases made : c.engine.ready.1 with
  | error e =>
    dsimp only
    exact ⟨rfl, scopeName, found_publish ⟨rfl, rfl, rfl, rfl⟩ found (.error e)⟩
  | ok library =>
    dsimp only
    exact ⟨rfl, scopeName, found_setStage rfl found _⟩

theorem engine_publish (c : Cache) (scopeName : String) (number : Nat)
    (result : Except Error Provider) : (c.publish scopeName number result).engine = c.engine := by
  cases result <;> rfl

theorem engine_prepare (unloaded : c.loaded? number = none) :
    (c.prepare number).engine = c.engine := by
  unfold prepare
  split
  · rename_i scopeName count found
    cases load : c.source.load count scopeName with
    | error e => exact engine_publish c scopeName number _
    | ok definition => simp [loaded?, found, load, Except.toOption] at unloaded
  · rfl

theorem engine_compile (c : Cache) (number : Nat) : (c.compile number).engine = c.engine := by
  unfold compile
  split
  · dsimp only
    split
    · rw [engine_publish]
      split <;> rfl
    · unfold setStage
      dsimp only
      split <;> rfl
  · rfl

theorem engine_act {a : Act} (other : a ≠ .prepare) : (c.act number a).engine = c.engine := by
  cases a with
  | prepare => exact absurd rfl other
  | compile => exact engine_compile c number
  | begin =>
    simp only [act, begin]
    split <;> rfl
  | withdraw =>
    simp only [act, withdraw]
    split
    · split <;> rfl
    · rfl
  | announce =>
    simp only [act, announce]
    split <;> rfl
  | abort =>
    simp only [act, abort]
    split <;> rfl

theorem after_of_leads {result : Except Error Library}
    (leads : c.Leads number scopeName old new) (given : Stage.After c.compiler number result old) :
    Stage.After c.compiler number result new := by
  cases given with
  | refusing =>
    cases leads with
    | withdrawn => exact .refused
    | abandoned running => cases running
  | refused =>
    cases leads with
    | told => exact .refusedTold
    | abandoned running => cases running
  | ready =>
    cases leads with
    | made compiled => exact .made compiled
    | unmade compiled => exact .unmaking compiled
    | abandoned _ => exact .gone
  | unmaking compiled =>
    cases leads with
    | withdrawn => exact .unmade compiled
    | abandoned running => cases running
  | unmade compiled =>
    cases leads with
    | told => exact .unmadeTold compiled
    | abandoned running => cases running
  | refusedTold | made _ | unmadeTold _ | gone =>
    cases leads with
    | abandoned running => cases running

end Cache

namespace Session

variable {s : Session} {event : Event} {number : Nat} {definition : Definition}

def caller? (s : Session) : Event → Option Nat
  | .work number .prepare => if (s.cache.loaded? number).isSome then some number else none
  | _ => none

theorem caller?_eq_some (calls : s.caller? event = some number) :
    event = .work number .prepare ∧ ∃ definition, s.cache.loaded? number = some definition := by
  unfold caller? at calls
  split at calls
  · split at calls
    · rename_i loaded
      cases calls
      exact ⟨rfl, Option.isSome_iff_exists.mp loaded⟩
    · cases calls
  · cases calls

/-- Nothing that happens without a call has to do with the engine. -/
theorem engine_step (silent : s.caller? event = none) :
    (s.step event).cache.engine = s.cache.engine := by
  cases event with
  | ask scopeName =>
    simp only [step, Cache.request]
    split <;> rfl
  | poll i => rw [cache_poll]
  | clear i =>
    rcases s.cache_clear i with same | ⟨r, -, -, same⟩
    · rw [same]
    · rw [same]
      rfl
  | work number act =>
    by_cases asks : act = .prepare
    · subst asks
      have unloaded : s.cache.loaded? number = none := by simpa [caller?] using silent
      exact Cache.engine_prepare unloaded
    · exact Cache.engine_act asks

theorem loaded?_step (loaded : s.cache.loaded? number = some definition)
    (other : event ≠ .work number .prepare) (stays : event ≠ .work number .abort) :
    (s.step event).cache.loaded? number = some definition := by
  obtain ⟨scopeName, count, found, load⟩ := Cache.loaded?_eq_some loaded
  obtain ⟨later, kept, -⟩ := constructions_step event found
  have source := (kept_step event (.refl s.cache)).source
  by_cases same : later = .loading count
  · subst same
    simp only [Cache.loaded?, kept, source, load]
    rfl
  · obtain ⟨act, rfl, -⟩ := turn_of_change found kept same
    have early : (Stage.loading count).due ≠ some act := by
      rintro due
      cases due
      exact other rfl
    have left : act ≠ .abort := by
      rintro rfl
      exact stays rfl
    have still : (s.step (.work number act)).cache = s.cache :=
      Cache.act_of_not_due found early left
    rw [still, found] at kept
    cases kept
    exact absurd rfl same

end Session

end TokenTheme
