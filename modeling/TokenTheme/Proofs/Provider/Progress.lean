import Mathlib
import TokenTheme.Proofs.Provider.Session
/-!
# Progress of constructions

What a step of a construction comes from: what the source has loaded, what the engine and what the
compiler have answered. In every stage but the last one there is a step that is due, and it leads on.
-/
namespace TokenTheme

def Cache.Act.steps : List Cache.Act := [.begin, .prepare, .compile, .withdraw, .announce]

namespace Stage

def passed : Stage → Nat
  | started => 0
  | loading _ => 1
  | ready _ _ => 2
  | failing .. => 3
  | failed _ => 4
  | done _ | gone => 5

def due : Stage → Option Cache.Act
  | started => some .begin
  | loading _ => some .prepare
  | ready _ _ => some .compile
  | failing .. => some .withdraw
  | failed _ => some .announce
  | done _ | gone => none

theorem Next.passed_lt {old new : Stage} (next : old.Next new) : old.passed < new.passed := by
  cases next with
  | abandoned running =>
    cases old with
    | done result => cases running
    | gone => cases running
    | _ => simp [passed]
  | _ => simp [passed]

theorem passed_le (stage : Stage) : stage.passed ≤ 5 := by
  cases stage <;> simp [passed]

theorem ended_of_not_due {stage : Stage} (idle : stage.due = none) :
    (∃ result, stage = done result) ∨ stage = gone := by
  cases stage with
  | done result => exact .inl ⟨result, rfl⟩
  | gone => exact .inr rfl
  | _ => cases idle

end Stage

namespace Cache

variable {c : Cache} {number : Nat} {scopeName : String} {old : Stage}

/-- The ways on from one stage to another, with what each comes from. -/
inductive Leads (c : Cache) (number : Nat) (scopeName : String) : Stage → Stage → Prop where
  | load : c.Leads number scopeName .started (.loading c.loads)
  | loaded {count : Nat} {definition : Definition} {library : Regex.Library} :
      c.source.load count scopeName = .ok definition → c.engine.ready.1 = .ok library →
      c.Leads number scopeName (.loading count) (.ready definition library)
  | unloaded {count : Nat} {error : Error} : c.source.load count scopeName = .error error →
      c.Leads number scopeName (.loading count) (.failing error (c.owns scopeName number))
  | unready {count : Nat} {error : Error} : c.engine.ready.1 = .error error →
      c.Leads number scopeName (.loading count) (.failing error (c.owns scopeName number))
  | made {definition : Definition} {library : Regex.Library} {grammar : Grammar} :
      c.compiler.compile number library definition = .done (.ok grammar) →
      c.Leads number scopeName (.ready definition library) (.done (.ok ⟨grammar, c.options⟩))
  | unmade {definition : Definition} {library : Regex.Library} {error : Error} :
      c.compiler.compile number library definition = .done (.error error) →
      c.Leads number scopeName (.ready definition library)
        (.failing error (c.owns scopeName number))
  | withdrawn {error : Error} {owned : Bool} :
      c.Leads number scopeName (.failing error owned) (.failed error)
  | told {error : Error} : c.Leads number scopeName (.failed error) (.done (.error error))
  | abandoned {stage : Stage} : stage.running → c.Leads number scopeName stage .gone

theorem Leads.next {new : Stage} (leads : c.Leads number scopeName old new) : old.Next new := by
  cases leads with
  | load => exact .load
  | loaded => exact .loaded
  | unloaded => exact .loadFailed
  | unready => exact .loadFailed
  | made => exact .made
  | unmade => exact .makeFailed
  | withdrawn => exact .withdrawn
  | told => exact .told
  | abandoned running => exact .abandoned running

theorem found_setStage {b : Cache} (same : b.constructions = c.constructions)
    (found : c.constructions[number]? = some ⟨scopeName, old⟩) (new : Stage) :
    (b.setStage number new).constructions[number]? = some ⟨scopeName, new⟩ := by
  rw [← same] at found
  rw [constructions_setStage found,
    List.getElem?_set_self (List.getElem?_eq_some_iff.mp found).1]

theorem found_publish {b : Cache} (alike : b.Alike c)
    (found : c.constructions[number]? = some ⟨scopeName, old⟩) (result : Except Error Provider) :
    (b.publish scopeName number result).constructions[number]? =
      some ⟨scopeName, c.published scopeName number result⟩ := by
  cases result with
  | ok p => exact found_setStage (b := b.tell _) alike.constructions found _
  | error e =>
    rw [publish, alike.owns]
    exact found_setStage (b := b.tell _) alike.constructions found _

/-- The step that is due leads on. -/
theorem leads_due {a : Act} (found : c.constructions[number]? = some ⟨scopeName, old⟩)
    (due : old.due = some a) :
    ∃ new, (c.act number a).constructions[number]? = some ⟨scopeName, new⟩ ∧
      c.Leads number scopeName old new := by
  cases old with
  | started =>
    cases due
    refine ⟨.loading c.loads, ?_, .load⟩
    simp only [act, begin, found]
    exact found_setStage rfl found _
  | loading count =>
    cases due
    simp only [act, prepare, found]
    cases load : c.source.load count scopeName with
    | error e => exact ⟨_, found_publish ⟨rfl, rfl, rfl, rfl⟩ found _, .unloaded load⟩
    | ok definition =>
      cases made : c.engine.ready.1 with
      | error e =>
        refine ⟨_, ?_, .unready made⟩
        dsimp only
        exact found_publish ⟨rfl, rfl, rfl, rfl⟩ found (.error e)
      | ok library =>
        refine ⟨.ready definition library, ?_, .loaded load made⟩
        dsimp only
        exact found_setStage rfl found _
  | ready definition library =>
    cases due
    simp only [act, compile, found]
    -- Whether the definition is counted makes no difference to what comes of it.
    obtain ⟨b, counted, alike, options⟩ : ∃ b : Cache,
        (if c.compiler.counts definition then { c with compiled := c.compiled + 1 } else c) = b ∧
          b.Alike c ∧ b.options = c.options := by
      split <;> exact ⟨_, rfl, ⟨rfl, rfl, rfl, rfl⟩, rfl⟩
    rw [counted, alike.compiler, options]
    cases made : c.compiler.compile number library definition with
    | gone => exact ⟨.gone, found_setStage alike.constructions found _, .abandoned rfl⟩
    | done result =>
      cases result with
      | error e => exact ⟨_, found_publish alike found _, .unmade made⟩
      | ok grammar => exact ⟨_, found_publish alike found _, .made made⟩
  | failing e owned =>
    cases due
    refine ⟨.failed e, ?_, .withdrawn⟩
    simp only [act, withdraw, found]
    cases owned with
    | true => exact found_setStage (b := c.remove scopeName) rfl found _
    | false => exact found_setStage rfl found _
  | failed e =>
    cases due
    refine ⟨.done (.error e), ?_, .told⟩
    simp only [act, announce, found]
    exact found_setStage rfl found _
  | done result => cases due
  | gone => cases due

/-- A step that is not due changes nothing, unless the construction is made to go away. -/
theorem act_of_not_due {a : Act} (found : c.constructions[number]? = some ⟨scopeName, old⟩)
    (early : old.due ≠ some a) (stays : a ≠ .abort) : c.act number a = c := by
  cases a with
  | abort => exact absurd rfl stays
  | begin => cases old <;> simp_all [act, begin, Stage.due]
  | prepare => cases old <;> simp_all [act, prepare, Stage.due]
  | compile => cases old <;> simp_all [act, compile, Stage.due]
  | withdraw => cases old <;> simp_all [act, withdraw, Stage.due]
  | announce => cases old <;> simp_all [act, announce, Stage.due]

theorem leads_abort (found : c.constructions[number]? = some ⟨scopeName, old⟩) :
    ∃ new, (c.act number .abort).constructions[number]? = some ⟨scopeName, new⟩ ∧
      (new = old ∨ c.Leads number scopeName old new) := by
  have away := found_setStage rfl found .gone
  by_cases running : old.running
  · have left : c.act number .abort = c.setStage number .gone := by
      cases old <;> simp_all [act, abort, Stage.running]
    exact ⟨.gone, left ▸ away, .inr (.abandoned running)⟩
  · have stays : c.act number .abort = c := by
      cases old <;> simp_all [act, abort, Stage.running]
    exact ⟨old, stays.symm ▸ found, .inl rfl⟩

theorem leads_act (a : Act) (found : c.constructions[number]? = some ⟨scopeName, old⟩) :
    ∃ new, (c.act number a).constructions[number]? = some ⟨scopeName, new⟩ ∧
      (new = old ∨ c.Leads number scopeName old new) := by
  by_cases due : old.due = some a
  · obtain ⟨new, moved, leads⟩ := leads_due found due
    exact ⟨new, moved, .inr leads⟩
  · by_cases away : a = .abort
    · subst away
      exact leads_abort found
    · rw [act_of_not_due found due away]
      exact ⟨old, found, .inl rfl⟩

end Cache

namespace Session

variable {s : Session} {scopeName : String} {number : Nat} {stage : Stage}

def works (number : Nat) : List Event := Cache.Act.steps.map (.work number)

theorem passed_step (event : Event)
    (found : s.cache.constructions[number]? = some ⟨scopeName, stage⟩) :
    ∃ later, (s.step event).cache.constructions[number]? = some ⟨scopeName, later⟩ ∧
      (later = stage ∨ stage.passed < later.passed) := by
  obtain ⟨later, kept, same | next⟩ := constructions_step event found
  · exact ⟨later, kept, .inl same⟩
  · exact ⟨later, kept, .inr next.passed_lt⟩

theorem passed_run (events : List Event)
    (found : s.cache.constructions[number]? = some ⟨scopeName, stage⟩) :
    ∃ later, (s.run events).cache.constructions[number]? = some ⟨scopeName, later⟩ ∧
      (later = stage ∨ stage.passed < later.passed) := by
  induction events generalizing s stage with
  | nil => exact ⟨stage, found, .inl rfl⟩
  | cons event rest ih =>
    obtain ⟨middle, kept, before⟩ := passed_step event found
    obtain ⟨later, kept, after⟩ := ih kept
    refine ⟨later, kept, ?_⟩
    rcases before with rfl | before <;> rcases after with rfl | after
    · exact .inl rfl
    · exact .inr after
    · exact .inr before
    · exact .inr (before.trans after)

def due (s : Session) (number : Nat) : Option Cache.Act :=
  s.cache.constructions[number]?.bind (·.stage.due)

/-- The step that is due has not come before, and leads on. -/
theorem passed_due {act : Cache.Act}
    (found : s.cache.constructions[number]? = some ⟨scopeName, stage⟩)
    (due : s.due number = some act) :
    ∃ later, (s.step (.work number act)).cache.constructions[number]? = some ⟨scopeName, later⟩ ∧
      stage.passed < later.passed := by
  rw [Session.due, found, Option.bind_some] at due
  obtain ⟨later, kept, leads⟩ := Cache.leads_due found due
  exact ⟨later, kept, leads.next.passed_lt⟩

theorem leads_step (event : Event)
    (found : s.cache.constructions[number]? = some ⟨scopeName, stage⟩) :
    ∃ later, (s.step event).cache.constructions[number]? = some ⟨scopeName, later⟩ ∧
      (later = stage ∨ s.cache.Leads number scopeName stage later) := by
  obtain ⟨later, kept, -⟩ := constructions_step event found
  by_cases same : later = stage
  · exact ⟨later, kept, .inl same⟩
  · obtain ⟨act, rfl, -⟩ := turn_of_change found kept same
    obtain ⟨new, moved, leads⟩ := Cache.leads_act act found
    cases moved.symm.trans kept
    exact ⟨later, kept, leads⟩

end Session

end TokenTheme
