import Mathlib
import TokenTheme.Provider.Cache
/-!
# Steps of constructions

The stages of a construction and the ways on from one to another. Every step of a construction is a
`Turn`: it changes the stage of that construction, and if it failed and has found its own entry then
the step after that takes away the entry of the name.
-/
namespace TokenTheme

namespace Stage

/-- Nothing has come of it yet, and it may still go away. -/
def running : Stage → Bool
  | started | loading _ | ready _ _ => true
  | failing .. | failed _ | done _ | gone => false

/-- There is no result yet that anybody could see. -/
def unfinished : Stage → Bool
  | started | loading _ | ready _ _ | failing .. => true
  | failed _ | done _ | gone => false

/-- There is no result yet, or there is a provider. -/
def hopeful : Stage → Bool
  | started | loading _ | ready _ _ | failing .. | done (.ok _) => true
  | failed _ | done (.error _) | gone => false

/-- It failed, and the entry of its name is what it removes next. -/
def withdraws : Stage → Bool
  | failing _ owned => owned
  | _ => false

/-- It failed, and removes nothing any more. -/
def fallen : Stage → Bool
  | failed _ | done (.error _) => true
  | _ => false

def isGone : Stage → Bool
  | gone => true
  | _ => false

theorem isGone_iff {stage : Stage} : stage.isGone = true ↔ stage = gone := by
  cases stage <;> simp [isGone]

def reply? (scopeName : String) (number : Nat) : Stage → Option Reply
  | done result => some (result.map (⟨number, ·⟩))
  | gone => some (.error (.constructionAborted scopeName))
  | _ => none

inductive Next : Stage → Stage → Prop where
  | load {count : Nat} : Next started (loading count)
  | loaded {count : Nat} {definition : Definition} {library : Regex.Library} :
      Next (loading count) (ready definition library)
  | loadFailed {count : Nat} {error : Error} {owned : Bool} :
      Next (loading count) (failing error owned)
  | made {definition : Definition} {library : Regex.Library} {provider : Provider} :
      Next (ready definition library) (done (.ok provider))
  | makeFailed {definition : Definition} {library : Regex.Library} {error : Error} {owned : Bool} :
      Next (ready definition library) (failing error owned)
  | withdrawn {error : Error} {owned : Bool} : Next (failing error owned) (failed error)
  | told {error : Error} : Next (failed error) (done (.error error))
  | abandoned {stage : Stage} : stage.running → Next stage gone

def begun : Stage → Bool
  | started => false
  | _ => true

theorem hopeful_of_unfinished {stage : Stage} (unfinished : stage.unfinished) :
    stage.hopeful := by
  cases stage <;> first | rfl | cases unfinished

theorem fallen_of_not_hopeful {stage : Stage} (hopeless : ¬ stage.hopeful) (present : stage ≠ gone) :
    stage.fallen := by
  cases stage with
  | done result => cases result <;> simp_all [hopeful, fallen]
  | _ => simp_all [hopeful, fallen]

theorem not_withdraws_of_fallen {stage : Stage} (fallen : stage.fallen) :
    stage.withdraws = false := by
  cases stage <;> first | rfl | cases fallen

theorem hopeful_of_withdraws {stage : Stage} (withdraws : stage.withdraws) : stage.hopeful := by
  cases stage <;> first | rfl | cases withdraws

theorem not_withdraws_of_running {stage : Stage} (running : stage.running) :
    stage.withdraws = false := by
  cases stage <;> first | rfl | cases running

namespace Next

variable {old new : Stage}

theorem hopeful_of_hopeful (next : old.Next new) (hopeful : new.hopeful) : old.hopeful := by
  cases next <;> first | rfl | cases hopeful

theorem not_withdraws_of_hopeful (next : old.Next new) (hopeful : new.hopeful) :
    old.withdraws = false := by
  cases next <;> first | rfl | cases hopeful

theorem fallen (next : old.Next new) (failed : old.fallen) : new.fallen := by
  cases next with
  | told => rfl
  | abandoned running => cases old <;> simp_all [Stage.running, Stage.fallen]
  | _ => cases failed

theorem begun (next : old.Next new) : new.begun := by
  cases next <;> rfl

theorem reply?_eq_none (next : old.Next new) (scopeName : String) (number : Nat) :
    old.reply? scopeName number = none := by
  cases next with
  | abandoned running => cases old <;> first | rfl | cases running
  | _ => rfl

theorem outcome (next : old.Next new) (hopeful : old.hopeful) :
    new.hopeful ∨ new = gone ∨ ∃ error owned, old = failing error owned := by
  cases next <;> simp_all [Stage.hopeful]

end Next

end Stage

namespace Cache

variable {c d : Cache} {number : Nat} {scopeName : String} {old new : Stage}

/-- A construction goes on from one stage to another. One that fails looks for its entry, and removes
what entry there is in the step after that; nothing is said of the engine and of what is told. -/
structure Turn (c d : Cache) (number : Nat) (scopeName : String) (old new : Stage) : Prop where
  found : c.constructions[number]? = some ⟨scopeName, old⟩
  next : old.Next new
  constructions : d.constructions = c.constructions.set number ⟨scopeName, new⟩
  owned : ∀ error owned, new = .failing error owned → owned = c.owns scopeName number
  entries : d.entries =
    if old.withdraws then c.entries.filter (·.1 ≠ scopeName) else c.entries
  loads : new ≠ .gone → d.loads + old.begun.toNat = c.loads + new.begun.toNat
  compiler : d.compiler = c.compiler

theorem constructions_setStage (found : c.constructions[number]? = some ⟨scopeName, old⟩) :
    (c.setStage number new).constructions = c.constructions.set number ⟨scopeName, new⟩ := by
  apply List.ext_getElem?
  intro m
  obtain ⟨bound, value⟩ := List.getElem?_eq_some_iff.mp found
  unfold setStage
  rw [List.getElem?_modify, List.getElem?_set]
  by_cases same : number = m
  · subst same
    simp [bound, value]
  · simp [same]

structure Alike (b c : Cache) : Prop where
  constructions : b.constructions = c.constructions
  entries : b.entries = c.entries
  loads : b.loads = c.loads
  compiler : b.compiler = c.compiler

theorem turn_setStage {b : Cache} (alike : b.Alike c)
    (found : c.constructions[number]? = some ⟨scopeName, old⟩) (next : old.Next new)
    (begun : new ≠ .gone → old.begun) (stays : old.withdraws = false)
    (owned : ∀ error owned, new = .failing error owned → owned = c.owns scopeName number) :
    c.Turn (b.setStage number new) number scopeName old new where
  found := found
  next := next
  owned := owned
  constructions := by
    rw [← alike.constructions] at found ⊢
    exact constructions_setStage found
  entries := by
    rw [stays, ← alike.entries]
    rfl
  loads present := by
    rw [begun present, next.begun, ← alike.loads]
    rfl
  compiler := alike.compiler

theorem Alike.tell {b : Cache} (alike : b.Alike c) (entries : List LogEntry) :
    (b.tell entries).Alike c :=
  ⟨alike.constructions, alike.entries, alike.loads, alike.compiler⟩

theorem Alike.owns {b : Cache} (alike : b.Alike c) : b.owns scopeName number = c.owns scopeName number := by
  rw [Cache.owns, Cache.owns, alike.entries]

def published (c : Cache) (scopeName : String) (number : Nat) : Except Error Provider → Stage
  | .ok p => .done (.ok p)
  | .error e => .failing e (c.owns scopeName number)

theorem turn_publish {b : Cache} {result : Except Error Provider} (alike : b.Alike c)
    (found : c.constructions[number]? = some ⟨scopeName, old⟩)
    (next : old.Next (c.published scopeName number result)) (running : old.running)
    (begun : old.begun) :
    c.Turn (b.publish scopeName number result) number scopeName old
      (c.published scopeName number result) := by
  have stays := Stage.not_withdraws_of_running running
  cases result with
  | ok p => exact turn_setStage (alike.tell _) found next (fun _ => begun) stays nofun
  | error e =>
    rw [publish, alike.owns]
    refine turn_setStage (alike.tell _) found next (fun _ => begun) stays ?_
    intro error owned same
    cases same
    rfl

theorem published_ne_gone (result : Except Error Provider) :
    c.published scopeName number result ≠ .gone := by
  cases result <;> nofun

theorem turn_begin (number : Nat) :
    c.begin number = c ∨
      ∃ scopeName old new, c.Turn (c.begin number) number scopeName old new ∧ new ≠ .gone := by
  unfold begin
  split
  · rename_i scopeName found
    right
    refine ⟨scopeName, .started, .loading c.loads, ?_, nofun⟩
    exact {
      found := found
      next := .load
      owned := nofun
      constructions := constructions_setStage found
      entries := rfl
      loads := fun _ => rfl
      compiler := rfl }
  · exact .inl rfl

theorem turn_prepare (number : Nat) :
    c.prepare number = c ∨
      ∃ scopeName old new, c.Turn (c.prepare number) number scopeName old new ∧ new ≠ .gone := by
  unfold prepare
  split
  · rename_i scopeName count found
    right
    refine ⟨scopeName, .loading count, ?_⟩
    split
    · exact ⟨_, turn_publish ⟨rfl, rfl, rfl, rfl⟩ found .loadFailed rfl rfl, nofun⟩
    · simp only
      split
      · exact ⟨_, turn_publish ⟨rfl, rfl, rfl, rfl⟩ found .loadFailed rfl rfl, nofun⟩
      · exact ⟨_, turn_setStage ⟨rfl, rfl, rfl, rfl⟩ found .loaded (fun _ => rfl) rfl nofun, nofun⟩
  · exact .inl rfl

theorem turn_compile (number : Nat) :
    c.compile number = c ∨
      ∃ scopeName old new, c.Turn (c.compile number) number scopeName old new ∧
        (new = .gone → ∃ library definition,
          c.compiler.compile number library definition = .gone) := by
  unfold compile
  split
  · rename_i scopeName definition library found
    right
    refine ⟨scopeName, .ready definition library, ?_⟩
    have alike : (if c.compiler.counts definition then
        { c with compiled := c.compiled + 1 } else c).Alike c := by
      split <;> exact ⟨rfl, rfl, rfl, rfl⟩
    simp only
    split
    · rename_i result _
      refine ⟨_, turn_publish alike found ?_ rfl rfl,
        fun same => absurd same (published_ne_gone _)⟩
      cases result with
      | ok g => exact .made
      | error e => exact .makeFailed
    · rename_i gone
      rw [alike.compiler] at gone
      exact ⟨_, turn_setStage alike found (.abandoned rfl) (fun _ => rfl) rfl nofun,
        fun _ => ⟨library, definition, gone⟩⟩
  · exact .inl rfl

theorem turn_withdraw (number : Nat) :
    c.withdraw number = c ∨
      ∃ scopeName old new, c.Turn (c.withdraw number) number scopeName old new ∧ new ≠ .gone := by
  unfold withdraw
  split
  · rename_i scopeName e owned found
    right
    refine ⟨scopeName, .failing e owned, .failed e, ?_, nofun⟩
    have same : (if owned then c.remove scopeName else c).constructions = c.constructions := by
      split <;> rfl
    exact {
      found := found
      next := .withdrawn
      owned := nofun
      constructions := by
        rw [← same] at found ⊢
        exact constructions_setStage found
      entries := by
        cases owned <;> rfl
      loads := fun _ => by
        cases owned <;> rfl
      compiler := by
        cases owned <;> rfl }
  · exact .inl rfl

theorem turn_announce (number : Nat) :
    c.announce number = c ∨
      ∃ scopeName old new, c.Turn (c.announce number) number scopeName old new ∧ new ≠ .gone := by
  unfold announce
  split
  · rename_i scopeName e found
    exact .inr ⟨scopeName, _, _,
      turn_setStage ⟨rfl, rfl, rfl, rfl⟩ found .told (fun _ => rfl) rfl nofun, nofun⟩
  · exact .inl rfl

theorem turn_abort (number : Nat) :
    c.abort number = c ∨
      ∃ scopeName old new, c.Turn (c.abort number) number scopeName old new := by
  unfold abort
  split
  · rename_i scopeName found
    exact .inr ⟨scopeName, _, _,
      turn_setStage ⟨rfl, rfl, rfl, rfl⟩ found (.abandoned rfl) (absurd rfl) rfl nofun⟩
  · rename_i scopeName count found
    exact .inr ⟨scopeName, _, _,
      turn_setStage ⟨rfl, rfl, rfl, rfl⟩ found (.abandoned rfl) (absurd rfl) rfl nofun⟩
  · rename_i scopeName definition library found
    exact .inr ⟨scopeName, _, _,
      turn_setStage ⟨rfl, rfl, rfl, rfl⟩ found (.abandoned rfl) (absurd rfl) rfl nofun⟩
  · exact .inl rfl

inductive Act where
  | begin
  | prepare
  | compile
  | withdraw
  | announce
  /-- It goes away. -/
  | abort
  deriving DecidableEq

def act (c : Cache) (number : Nat) : Act → Cache
  | .begin => c.begin number
  | .prepare => c.prepare number
  | .compile => c.compile number
  | .withdraw => c.withdraw number
  | .announce => c.announce number
  | .abort => c.abort number

/-- A construction goes away only if it is made to, or if the compiler does. -/
theorem turn_act (number : Nat) (a : Act) :
    c.act number a = c ∨
      ∃ scopeName old new, c.Turn (c.act number a) number scopeName old new ∧
        (new = .gone → a = .abort ∨ ∃ library definition,
          c.compiler.compile number library definition = .gone) := by
  cases a with
  | begin =>
    rcases c.turn_begin number with same | ⟨scopeName, old, new, turn, present⟩
    · exact .inl same
    · exact .inr ⟨scopeName, old, new, turn, fun gone => absurd gone present⟩
  | prepare =>
    rcases c.turn_prepare number with same | ⟨scopeName, old, new, turn, present⟩
    · exact .inl same
    · exact .inr ⟨scopeName, old, new, turn, fun gone => absurd gone present⟩
  | compile =>
    rcases c.turn_compile number with same | ⟨scopeName, old, new, turn, left⟩
    · exact .inl same
    · exact .inr ⟨scopeName, old, new, turn, fun gone => .inr (left gone)⟩
  | withdraw =>
    rcases c.turn_withdraw number with same | ⟨scopeName, old, new, turn, present⟩
    · exact .inl same
    · exact .inr ⟨scopeName, old, new, turn, fun gone => absurd gone present⟩
  | announce =>
    rcases c.turn_announce number with same | ⟨scopeName, old, new, turn, present⟩
    · exact .inl same
    · exact .inr ⟨scopeName, old, new, turn, fun gone => absurd gone present⟩
  | abort =>
    rcases c.turn_abort number with same | ⟨scopeName, old, new, turn⟩
    · exact .inl same
    · exact .inr ⟨scopeName, old, new, turn, fun _ => .inl rfl⟩

end Cache

end TokenTheme
