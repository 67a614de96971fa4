import Mathlib
import TokenTheme.Proofs.Provider.Progress
import TokenTheme.Proofs.Provider.SingleFlight
/-!
# Removals

What becomes of an entry. It stays until the entry of its name is removed, by whoever has found an
entry of that name to be his own before; what is removed is the entry that there is by then
(`mem_entries_run_iff`).
-/
namespace TokenTheme

namespace Cache

variable {c : Cache} {number : Nat} {scopeName : String} {old : Stage}

theorem entries_withdraw (found : c.constructions[number]? = some ⟨scopeName, old⟩)
    (withdraws : old.withdraws) : (c.withdraw number).entries = (c.remove scopeName).entries := by
  cases old with
  | failing error owned =>
    obtain rfl : owned = true := withdraws
    simp only [withdraw, found, if_true]
    rfl
  | _ => cases withdraws

/-- The only step of a construction that removes an entry is the one that is due then. -/
theorem act_of_withdraws {a : Act} (found : c.constructions[number]? = some ⟨scopeName, old⟩)
    (withdraws : old.withdraws) (other : a ≠ .withdraw) : c.act number a = c := by
  cases old with
  | failing error owned =>
    by_cases away : a = .abort
    · subst away
      simp only [act, abort, found]
    · refine act_of_not_due found ?_ away
      rintro due
      cases due
      exact other rfl
  | _ => cases withdraws

end Cache

namespace Session

variable {s : Session} {event : Event} {scopeName : String} {number : Nat}

def removed? (s : Session) : Event → Option String
  | .clear i => if i ∈ s.clearing then (s.requests[i]?).map (·.scopeName) else none
  | .work number .withdraw =>
    (s.cache.constructions[number]?).bind fun k =>
      if k.stage.withdraws then some k.scopeName else none
  | _ => none

/-- In the course of the events an entry of the scope name is removed. -/
inductive Removed (scopeName : String) : Session → List Event → Prop where
  | now {s : Session} {event : Event} {rest : List Event} : s.removed? event = some scopeName →
      Removed scopeName s (event :: rest)
  | later {s : Session} {event : Event} {rest : List Event} :
      Removed scopeName (s.step event) rest → Removed scopeName s (event :: rest)

theorem removed_cons_iff {rest : List Event} :
    Removed scopeName s (event :: rest) ↔
      s.removed? event = some scopeName ∨ Removed scopeName (s.step event) rest := by
  constructor
  · intro removed
    cases removed with
    | now here => exact .inl here
    | later removed => exact .inr removed
  · rintro (here | removed)
    · exact .now here
    · exact .later removed

theorem mem_entries_work (number : Nat) (act : Cache.Act) {entry : String × Nat} :
    entry ∈ (s.step (.work number act)).cache.entries ↔
      entry ∈ s.cache.entries ∧ s.removed? (.work number act) ≠ some entry.1 := by
  show entry ∈ (s.cache.act number act).entries ↔ _
  by_cases withdraws : ∃ scopeName old,
      s.cache.constructions[number]? = some ⟨scopeName, old⟩ ∧ old.withdraws
  · obtain ⟨scopeName, old, found, withdraws⟩ := withdraws
    by_cases own : act = .withdraw
    · subst own
      have removes : s.removed? (.work number .withdraw) = some scopeName := by
        simp [removed?, found, withdraws]
      rw [Cache.act, Cache.entries_withdraw found withdraws, Cache.mem_entries_remove, removes]
      simp [eq_comm]
    · have stays : s.removed? (.work number act) = none := by
        cases act <;> first | rfl | exact absurd rfl own
      rw [Cache.act_of_withdraws found withdraws own, stays]
      simp
  · have stays : s.removed? (.work number act) = none := by
      cases act with
      | withdraw =>
        rw [removed?, Option.bind_eq_none_iff]
        rintro ⟨scopeName, old⟩ found
        exact if_neg fun removes => withdraws ⟨scopeName, old, found, removes⟩
      | _ => rfl
    rw [stays]
    rcases Cache.turn_act (c := s.cache) number act with same | ⟨scopeName, old, new, turn, -⟩
    · simp [same]
    · rw [turn.mem_entries]
      have kept : ¬ old.withdraws := fun removes => withdraws ⟨scopeName, old, turn.found, removes⟩
      simp [kept]

theorem mem_entries_step_iff (event : Event) (made : number < s.cache.constructions.length) :
    (scopeName, number) ∈ (s.step event).cache.entries ↔
      (scopeName, number) ∈ s.cache.entries ∧ s.removed? event ≠ some scopeName := by
  cases event with
  | ask name =>
    cases read : s.cache.entries.lookup name with
    | some m => simp [step, Cache.request_of_lookup read, removed?, Cache.tell]
    | none =>
      obtain ⟨-, entries, -, -, -⟩ := Cache.request_of_missing read
      have other : number ≠ s.cache.constructions.length := Nat.ne_of_lt made
      simp [step, entries, removed?, other]
  | poll i => simp [cache_poll, removed?]
  | clear i =>
    by_cases clears : i ∈ s.clearing
    · cases found : s.requests[i]? with
      | none => simp [step, removed?, found]
      | some r =>
        rw [step_clear_of_mem found clears, Cache.mem_entries_remove]
        simp [removed?, clears, found, eq_comm]
    · rw [step_clear_of_not_mem clears]
      simp [removed?, clears]
  | work n act => exact mem_entries_work n act

/-- An entry that is there stays until the entry of its name is removed, and does not come back. -/
theorem mem_entries_run_iff (events : List Event)
    (made : number < s.cache.constructions.length) :
    (scopeName, number) ∈ (s.run events).cache.entries ↔
      (scopeName, number) ∈ s.cache.entries ∧ ¬ Removed scopeName s events := by
  induction events generalizing s with
  | nil => exact (and_iff_left nofun).symm
  | cons event rest ih =>
    have later := ih (Nat.lt_of_lt_of_le made (s.length_le_step event))
    show _ ∈ ((s.step event).run rest).cache.entries ↔ _
    rw [later, mem_entries_step_iff event made, removed_cons_iff, not_or, and_assoc]

end Session

end TokenTheme
