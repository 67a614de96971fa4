import Mathlib
import TokenTheme.Regex.Engine
/-!
# Calls for a library

What an engine gives to those who ask for its library one after the other. Every call makes an
attempt of its own until one succeeds, and is given what came of it; from then on there is no
attempt any more, and every call is given the library of the first success.
-/
namespace TokenTheme.Regex.Engine

variable {setUp : Nat → Except Error Library} {library : Library} {calls n : Nat}

def unset (setUp : Nat → Except Error Library) : Engine := { setUp }

def after (e : Engine) : (calls : Nat) → Engine
  | 0 => e
  | calls + 1 => (e.after calls).ready.2

def given (e : Engine) (calls : Nat) : Except Error Library := (e.after calls).ready.1

def FailsBefore (setUp : Nat → Except Error Library) (n : Nat) : Prop :=
  ∀ m < n, ∃ error, setUp m = .error error

structure First (setUp : Nat → Except Error Library) (n : Nat) (library : Library) : Prop where
  made : setUp n = .ok library
  fails : FailsBefore setUp n

theorem FailsBefore.mono (fails : FailsBefore setUp calls) (earlier : n ≤ calls) :
    FailsBefore setUp n :=
  fun m bound => fails m (Nat.lt_of_lt_of_le bound earlier)

theorem First.not_failsBefore (first : First setUp n library) (later : n < calls) :
    ¬ FailsBefore setUp calls := by
  intro fails
  obtain ⟨error, failed⟩ := fails n later
  cases first.made.symm.trans failed

theorem failsBefore_or_first (setUp : Nat → Except Error Library) (calls : Nat) :
    FailsBefore setUp calls ∨ ∃ n < calls, ∃ library, First setUp n library := by
  induction calls with
  | zero => exact .inl nofun
  | succ calls ih =>
    rcases ih with fails | ⟨n, bound, library, first⟩
    · cases made : setUp calls with
      | error error =>
        refine .inl fun m bound => ?_
        rcases Nat.lt_succ_iff_lt_or_eq.mp bound with earlier | rfl
        · exact fails m earlier
        · exact ⟨error, made⟩
      | ok library => exact .inr ⟨calls, Nat.lt_succ_self calls, library, made, fails⟩
    · exact .inr ⟨n, Nat.lt_succ_of_lt bound, library, first⟩

theorem after_of_failsBefore (fails : FailsBefore setUp calls) :
    (unset setUp).after calls = { setUp, library := none, attempts := calls } := by
  induction calls with
  | zero => rfl
  | succ calls ih =>
    obtain ⟨error, failed⟩ := fails calls (Nat.lt_succ_self calls)
    rw [after, ih (fails.mono (Nat.le_succ calls))]
    simp only [ready, failed]

/-- The first success is kept, and nothing is attempted after it. -/
theorem after_of_first (first : First setUp n library) (later : n < calls) :
    (unset setUp).after calls = { setUp, library := some library, attempts := n + 1 } := by
  induction calls, later using Nat.le_induction with
  | base =>
    rw [after, after_of_failsBefore first.fails]
    simp only [ready, first.made]
  | succ calls _ ih => rw [after, ih, ready]

/-- Up to the first success each call is given what came of its own attempt. -/
theorem given_of_failsBefore (fails : FailsBefore setUp n) : (unset setUp).given n = setUp n := by
  rw [given, after_of_failsBefore fails]
  cases made : setUp n <;> simp only [ready, made]

theorem given_of_first (first : First setUp n library) (later : n ≤ calls) :
    (unset setUp).given calls = .ok library := by
  rcases Nat.eq_or_lt_of_le later with rfl | later
  · rw [given_of_failsBefore first.fails, first.made]
  · rw [given, after_of_first first later, ready]

theorem library_after_iff :
    ((unset setUp).after calls).library = some library ↔ ∃ n < calls, First setUp n library := by
  rcases failsBefore_or_first setUp calls with fails | ⟨n, later, library', first⟩
  · rw [after_of_failsBefore fails]
    refine iff_of_false nofun ?_
    rintro ⟨n, later, first⟩
    exact first.not_failsBefore later fails
  · rw [after_of_first first later]
    constructor
    · intro same
      cases same
      exact ⟨n, later, first⟩
    · rintro ⟨m, -, first'⟩
      -- Of two first successes neither comes before the other.
      rcases Nat.lt_trichotomy m n with earlier | rfl | earlier
      · exact absurd first.fails (first'.not_failsBefore earlier)
      · cases first.made.symm.trans first'.made
        rfl
      · exact absurd first'.fails (first.not_failsBefore earlier)

/-- A call either fails, or leaves the engine ready; it makes an attempt if the engine was not. -/
theorem attempts_ready (e : Engine) :
    e.ready.2.attempts + e.isReady.toNat =
      e.attempts + e.ready.1.toOption.isNone.toNat + e.ready.2.isReady.toNat := by
  unfold ready isReady
  cases held : e.library with
  | some library => simp [held, Except.toOption]
  | none => cases made : e.setUp e.attempts <;> simp [Except.toOption]

end TokenTheme.Regex.Engine
