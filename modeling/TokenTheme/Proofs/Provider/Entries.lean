import Mathlib
import TokenTheme.Proofs.Dict
import TokenTheme.Proofs.Provider.Steps
/-!
# Entries and constructions

The invariant that ties the entries of the cache to its constructions, and what a request and an
answer do to both.
-/
namespace TokenTheme.Cache

variable {c d : Cache} {number : Nat} {scopeName : String} {old new : Stage}

/-- A scope name has one entry at most, of a construction of that name which has not failed. One that
has not found its entry has none. -/
structure Safe (c : Cache) : Prop where
  keys : (c.entries.map Prod.fst).Nodup
  held : ∀ scopeName number, (scopeName, number) ∈ c.entries →
    ∃ stage, c.constructions[number]? = some ⟨scopeName, stage⟩ ∧
      (stage.hopeful ∨ stage = .gone)
  disowned : ∀ scopeName number error,
    c.constructions[number]? = some ⟨scopeName, .failing error false⟩ →
      (scopeName, number) ∉ c.entries

/-- A construction of a scope name has its entry if there is something to be hoped for of it. -/
def Entered (c : Cache) (scopeName : String) : Prop :=
  ∀ number stage, c.constructions[number]? = some ⟨scopeName, stage⟩ →
    stage.hopeful → (scopeName, number) ∈ c.entries

theorem Safe.owns_iff (safe : c.Safe) :
    c.owns scopeName number = true ↔ (scopeName, number) ∈ c.entries := by
  rw [owns, beq_iff_eq]
  exact ⟨mem_of_lookup, lookup_of_mem safe.keys⟩

theorem Safe.eq_of_mem (safe : c.Safe) {m : Nat} (first : (scopeName, m) ∈ c.entries)
    (second : (scopeName, number) ∈ c.entries) : m = number :=
  Option.some.inj ((lookup_of_mem safe.keys first).symm.trans (lookup_of_mem safe.keys second))

theorem mem_entries_remove {entry : String × Nat} :
    entry ∈ (c.remove scopeName).entries ↔ entry ∈ c.entries ∧ entry.1 ≠ scopeName := by
  simp [remove]

theorem Turn.mem_entries (turn : c.Turn d number scopeName old new) {entry : String × Nat} :
    entry ∈ d.entries ↔ entry ∈ c.entries ∧ ¬ (old.withdraws ∧ entry.1 = scopeName) := by
  rw [turn.entries]
  split
  · rename_i withdraws
    simp [withdraws]
  · rename_i stays
    simp [stays]

theorem Turn.constructions_of_ne (turn : c.Turn d number scopeName old new) {m : Nat}
    (other : m ≠ number) : d.constructions[m]? = c.constructions[m]? := by
  rw [turn.constructions, List.getElem?_set_ne (Ne.symm other)]

theorem Turn.constructions_self (turn : c.Turn d number scopeName old new) :
    d.constructions[number]? = some ⟨scopeName, new⟩ := by
  rw [turn.constructions, List.getElem?_set_self (List.getElem?_eq_some_iff.mp turn.found).1]

theorem Turn.sublist (turn : c.Turn d number scopeName old new) : d.entries.Sublist c.entries := by
  rw [turn.entries]
  split
  · exact List.filter_sublist
  · exact List.Sublist.refl _

theorem safe_of_turn (turn : c.Turn d number scopeName old new) (safe : c.Safe) : d.Safe where
  keys := safe.keys.sublist (turn.sublist.map Prod.fst)
  held := by
    intro scopeName' m member
    obtain ⟨present, kept⟩ := turn.mem_entries.mp member
    obtain ⟨stage, constructed, hopeful⟩ := safe.held scopeName' m present
    by_cases own : m = number
    · subst own
      have same := Option.some.inj (constructed.symm.trans turn.found)
      cases same
      refine ⟨new, turn.constructions_self, ?_⟩
      rcases hopeful with hopeful | rfl
      · rcases turn.next.outcome hopeful with still | gone | ⟨error, owned, rfl⟩
        · exact .inl still
        · exact .inr gone
        · -- It has found its entry and removed it, or there was none.
          cases owned with
          | true => exact absurd ⟨rfl, rfl⟩ kept
          | false => exact absurd present (safe.disowned scopeName m error constructed)
      · have next := turn.next
        cases next with
        | abandoned running => cases running
    · exact ⟨stage, (turn.constructions_of_ne own).trans constructed, hopeful⟩
  disowned := by
    intro scopeName' m error constructed member
    have present := turn.sublist.subset member
    by_cases own : m = number
    · subst own
      cases turn.constructions_self.symm.trans constructed
      rw [← safe.owns_iff, ← turn.owned error false rfl] at present
      cases present
    · rw [turn.constructions_of_ne own] at constructed
      exact safe.disowned scopeName' m error constructed present

theorem entered_of_turn {name : String} (turn : c.Turn d number scopeName old new) (safe : c.Safe)
    (entered : c.Entered name) : d.Entered name := by
  intro m stage constructed hopeful
  by_cases own : m = number
  · subst own
    have same := Option.some.inj (turn.constructions_self.symm.trans constructed)
    cases same
    have before := entered m old turn.found (turn.next.hopeful_of_hopeful hopeful)
    refine turn.mem_entries.mpr ⟨before, ?_⟩
    simp [turn.next.not_withdraws_of_hopeful hopeful]
  · rw [turn.constructions_of_ne own] at constructed
    have before := entered m stage constructed hopeful
    refine turn.mem_entries.mpr ⟨before, ?_⟩
    rintro ⟨withdraws, rfl⟩
    -- What is removed is its own entry, which is not that of another construction.
    have still := Stage.hopeful_of_withdraws withdraws
    exact own (safe.eq_of_mem before (entered number old turn.found still))

theorem request_of_lookup (found : c.entries.lookup scopeName = some number) :
    c.request scopeName = (number, c.tell [.providerShared scopeName]) := by
  unfold request
  rw [found]

theorem request_of_missing (missing : c.entries.lookup scopeName = none) :
    (c.request scopeName).1 = c.constructions.length ∧
      (c.request scopeName).2.entries = (scopeName, c.constructions.length) :: c.entries ∧
      (c.request scopeName).2.constructions = c.constructions ++ [⟨scopeName, .started⟩] ∧
      (c.request scopeName).2.loads = c.loads ∧
      (c.request scopeName).2.compiler = c.compiler := by
  unfold request
  rw [missing]
  exact ⟨rfl, rfl, rfl, rfl, rfl⟩

theorem constructions_of_request {scopeName' : String} {stage : Stage}
    (missing : c.entries.lookup scopeName = none)
    (found : (c.request scopeName).2.constructions[number]? = some ⟨scopeName', stage⟩) :
    c.constructions[number]? = some ⟨scopeName', stage⟩ ∨
      number = c.constructions.length ∧ scopeName' = scopeName ∧ stage = .started := by
  obtain ⟨-, -, constructions, -, -⟩ := request_of_missing missing
  rw [constructions] at found
  rcases Nat.lt_or_ge number c.constructions.length with bound | beyond
  · rw [List.getElem?_append_left bound] at found
    exact .inl found
  · rw [List.getElem?_append_right beyond, List.getElem?_singleton] at found
    split at found
    · rename_i last
      cases found
      exact .inr ⟨by omega, rfl, rfl⟩
    · cases found

theorem safe_request (scopeName : String) (safe : c.Safe) : (c.request scopeName).2.Safe := by
  cases read : c.entries.lookup scopeName with
  | some number =>
    rw [request_of_lookup read]
    exact ⟨safe.keys, safe.held, safe.disowned⟩
  | none =>
    obtain ⟨-, entries, constructions, -, -⟩ := request_of_missing read
    refine ⟨?_, ?_, ?_⟩
    · rw [entries, List.map_cons, List.nodup_cons]
      refine ⟨?_, safe.keys⟩
      intro member
      obtain ⟨⟨taken, number⟩, present, same⟩ := List.mem_map.mp member
      obtain rfl : taken = scopeName := same
      cases read.symm.trans (lookup_of_mem safe.keys present)
    · intro scopeName' m member
      rw [entries] at member
      rw [constructions]
      rcases List.mem_cons.mp member with same | present
      · cases same
        exact ⟨.started, by simp, .inl rfl⟩
      · obtain ⟨stage, constructed, hopeful⟩ := safe.held scopeName' m present
        have bound := (List.getElem?_eq_some_iff.mp constructed).1
        exact ⟨stage, (List.getElem?_append_left bound).trans constructed, hopeful⟩
    · intro scopeName' m error constructed member
      rcases constructions_of_request read constructed with before | ⟨-, -, new⟩
      · rw [entries] at member
        rcases List.mem_cons.mp member with same | present
        · cases same
          exact absurd (List.getElem?_eq_some_iff.mp before).1 (Nat.lt_irrefl _)
        · exact safe.disowned scopeName' m error before present
      · cases new

theorem entered_request {name : String} (scopeName : String) (entered : c.Entered name) :
    (c.request scopeName).2.Entered name := by
  intro m stage constructed hopeful
  cases read : c.entries.lookup scopeName with
  | some number =>
    rw [request_of_lookup read] at constructed ⊢
    exact entered m stage constructed hopeful
  | none =>
    obtain ⟨-, entries, -, -, -⟩ := request_of_missing read
    rw [entries]
    rcases constructions_of_request read constructed with before | ⟨rfl, rfl, -⟩
    · exact List.mem_cons_of_mem _ (entered m stage before hopeful)
    · exact List.mem_cons_self

theorem safe_remove (scopeName : String) (safe : c.Safe) : (c.remove scopeName).Safe where
  keys := safe.keys.sublist (List.filter_sublist.map Prod.fst)
  held scopeName' m member := safe.held scopeName' m (mem_entries_remove.mp member).1
  disowned scopeName' m error constructed member :=
    safe.disowned scopeName' m error constructed (mem_entries_remove.mp member).1

/-! ### Answers -/

def reply? (c : Cache) (scopeName : String) (number : Nat) : Option Reply :=
  c.constructions[number]?.bind (·.stage.reply? scopeName number)

/-- The construction went away and its entry is still there. -/
def stranded (c : Cache) (scopeName : String) (number : Nat) : Bool :=
  c.constructions[number]?.any (·.stage.isGone) && c.owns scopeName number

/-- An answer is told by the stage of the construction. The entry of one that went away is removed by
the way, if it is still there. -/
theorem answer_eq (c : Cache) (scopeName : String) (number : Nat) :
    c.answer scopeName number = (c.reply? scopeName number,
      if c.stranded scopeName number then c.remove scopeName else c) := by
  unfold answer reply? stranded
  rcases found : c.constructions[number]? with - | ⟨scopeName', stage⟩
  · rfl
  · cases stage <;> simp [Stage.reply?, Stage.isGone, forget]

end TokenTheme.Cache
