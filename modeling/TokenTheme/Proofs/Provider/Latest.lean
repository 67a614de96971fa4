import Mathlib
import TokenTheme.Proofs.Provider.SingleFlight
/-!
# Entries of the latest constructions

Which scope names have an entry, in every order of requests and constructions. It is those whose
construction that was started last has no result yet or has given a provider, so the names that the
cache contains are the ones in hand. A construction that ends takes no other entry away than its
own.
-/
namespace TokenTheme

theorem Stage.hopeful_iff {stage : Stage} :
    stage.hopeful ↔ stage.unfinished ∨ ∃ p, stage = .done (.ok p) := by
  cases stage with
  | done result => cases result <;> simp [hopeful, unfinished]
  | _ => simp [hopeful, unfinished]

namespace Cache

variable {c d : Cache} {scopeName : String} {number : Nat} {stage : Stage}

structure Latest (c : Cache) (scopeName : String) (number : Nat) (stage : Stage) : Prop where
  found : c.constructions[number]? = some ⟨scopeName, stage⟩
  last : ∀ m k, c.constructions[m]? = some k → k.scopeName = scopeName → m ≤ number

/-- A provider is built or being built: the latest construction has no result yet, or a good one. -/
def InHand (c : Cache) (scopeName : String) : Prop :=
  ∃ number stage, c.Latest scopeName number stage ∧
    (stage.unfinished ∨ ∃ p, stage = .done (.ok p))

theorem lookup_eq_some_iff (safe : c.Safe) :
    c.entries.lookup scopeName = some number ↔ (scopeName, number) ∈ c.entries :=
  ⟨mem_of_lookup, lookup_of_mem safe.keys⟩

theorem contains_iff (safe : c.Safe) :
    c.contains scopeName = true ↔ ∃ number, (scopeName, number) ∈ c.entries := by
  unfold contains
  rw [Option.isSome_iff_exists]
  exact exists_congr fun number => lookup_eq_some_iff safe

theorem entries_announce (c : Cache) (number : Nat) :
    (c.announce number).entries = c.entries := by
  unfold announce
  split <;> rfl

end Cache

namespace Session

variable {s : Session} {scopeName : String} {number : Nat}

def Newest (s : Session) : Prop :=
  ∀ scopeName number, (scopeName, number) ∈ s.cache.entries →
    ∀ m k, s.cache.constructions[m]? = some k → k.scopeName = scopeName → m ≤ number

theorem newest_step (event : Event) (newest : s.Newest) : (s.step event).Newest := by
  intro scopeName number entered m k found named
  have inside := (List.getElem?_eq_some_iff.mp found).1
  rcases constructions_of_step event found with ⟨stage, before⟩ | ⟨here, rfl, missing, -⟩
  · rcases entries_of_step event entered with old | new
    · exact newest scopeName number old m _ before named
    · -- The entry is the one of a construction that is started now, so it comes last.
      have earlier := (List.getElem?_eq_some_iff.mp before).1
      omega
  · rcases entries_of_step _ entered with old | new
    · have found_entry := List.lookup_eq_none_iff.mp missing _ old
      simp [named] at found_entry
    · omega

theorem newest_run (events : List Event) (newest : s.Newest) : (s.run events).Newest := by
  induction events generalizing s with
  | nil => exact newest
  | cons event rest ih => exact ih (newest_step event newest)

/-- Where nothing goes away, an entry is one of a construction that is the latest of its scope name
and has not failed. -/
theorem latest_of_entry (safe : s.Safe) (newest : s.Newest) (intact : s.Intact)
    (entered : (scopeName, number) ∈ s.cache.entries) :
    ∃ stage, s.cache.Latest scopeName number stage ∧ stage.hopeful := by
  obtain ⟨stage, found, hopeful | gone⟩ := safe.cache.held scopeName number entered
  · exact ⟨stage, ⟨found, newest scopeName number entered⟩, hopeful⟩
  · exact absurd gone (intact.present _ (List.mem_of_getElem? found))

theorem inHand_iff (safe : s.Safe) (newest : s.Newest) (intact : s.Intact) :
    s.cache.InHand scopeName ↔ ∃ number, (scopeName, number) ∈ s.cache.entries := by
  constructor
  · rintro ⟨number, stage, latest, good⟩
    have hopeful := Stage.hopeful_iff.mpr good
    exact ⟨number, intact.entered scopeName number stage latest.found hopeful⟩
  · rintro ⟨number, entered⟩
    obtain ⟨stage, latest, hopeful⟩ := latest_of_entry safe newest intact entered
    exact ⟨number, stage, latest, Stage.hopeful_iff.mp hopeful⟩

theorem length_eq_ncard (safe : s.Safe) (newest : s.Newest) (intact : s.Intact) :
    s.cache.length = {scopeName | s.cache.InHand scopeName}.ncard := by
  have names : {scopeName | s.cache.InHand scopeName} =
      ((s.cache.entries.map Prod.fst).toFinset : Set String) := by
    ext scopeName
    simp [inHand_iff safe newest intact]
  rw [names, Set.ncard_coe_finset, List.toFinset_card_of_nodup safe.cache.keys, List.length_map]
  rfl

theorem lookup_work_of_ne (safe : s.Safe) (intact : s.Intact) (act : Cache.Act) {m : Nat}
    (other : m ≠ number) :
    (s.step (.work number act)).cache.entries.lookup scopeName = some m ↔
      s.cache.entries.lookup scopeName = some m := by
  have later := step_safe (.work number act) safe
  rw [Cache.lookup_eq_some_iff later.cache, Cache.lookup_eq_some_iff safe.cache]
  rcases Cache.turn_act (c := s.cache) number act with same | ⟨name, old, new, turn, -⟩
  · simp only [step, same]
  · rw [show (s.step (.work number act)).cache = s.cache.act number act from rfl, turn.mem_entries]
    refine and_iff_left_of_imp fun entered => ?_
    rintro ⟨withdraws, rfl⟩
    have own := intact.entered _ _ _ turn.found (Stage.hopeful_of_withdraws withdraws)
    exact other (safe.cache.eq_of_mem entered own)

theorem entries_of_success {event : Event} {p : Provider}
    (unfinished : s.Unfinished scopeName number)
    (built : (s.step event).cache.constructions[number]? = some ⟨scopeName, .done (.ok p)⟩) :
    (s.step event).cache.entries = s.cache.entries := by
  obtain ⟨old, found, open_⟩ := unfinished
  have changed : Stage.done (.ok p) ≠ old := by
    rintro rfl
    cases open_
  obtain ⟨act, rfl, turn⟩ := turn_of_change found built changed
  rw [turn.entries, turn.next.not_withdraws_of_hopeful rfl]
  rfl

theorem lookup_of_failure {event : Event} (safe : s.Safe) (intact : s.Intact)
    (unfinished : s.Unfinished scopeName number)
    (failed : (s.step event).Failed scopeName number) (other : String) :
    (s.step event).cache.entries.lookup other =
      if other = scopeName then none else s.cache.entries.lookup other := by
  obtain ⟨-, entries⟩ := removed_of_failure safe intact unfinished failed
  rw [entries, lookup_filter_ne]

/-- What holds of the entries at a moment, and what the end of a construction does to them. -/
structure Tidy (s : Session) : Prop where
  /-- A scope name has an entry if and only if its latest construction has no result yet or has
  succeeded. -/
  present : ∀ scopeName, s.cache.contains scopeName = true ↔ s.cache.InHand scopeName
  /-- An entry is that of the latest construction, and never one with an error. -/
  own : ∀ scopeName number, s.cache.entries.lookup scopeName = some number →
    ∃ stage, s.cache.Latest scopeName number stage ∧
      (stage.unfinished ∨ ∃ p, stage = .done (.ok p))
  length : s.cache.length = {scopeName | s.cache.InHand scopeName}.ncard
  /-- Whatever step a construction makes, the entries of all other ones stay. -/
  others : ∀ number act scopeName m, m ≠ number →
    ((s.step (.work number act)).cache.entries.lookup scopeName = some m ↔
      s.cache.entries.lookup scopeName = some m)
  succeeded : ∀ event scopeName number p, s.Unfinished scopeName number →
    (s.step event).cache.constructions[number]? = some ⟨scopeName, .done (.ok p)⟩ →
      (s.step event).cache.entries = s.cache.entries
  failed : ∀ event scopeName number, s.Unfinished scopeName number →
    (s.step event).Failed scopeName number → ∀ other,
      (s.step event).cache.entries.lookup other =
        if other = scopeName then none else s.cache.entries.lookup other
  /-- To tell of a failure changes no entry, not even one that was made for the name since. -/
  told : ∀ number, (s.step (.work number .announce)).cache.entries = s.cache.entries

/-- At every moment of a session in which nothing goes away the entries are those of the providers
that are built or being built. -/
theorem tidy_run (source : Source) {compiler : Compiler} (steady : Steady compiler)
    (engine : Regex.Engine) (options : Options) {events : List Event} (calm : Calm events) :
    Tidy ((fresh source compiler engine options).run events) := by
  have safe := run_safe events (safe_fresh source compiler engine options)
  have newest : ((fresh source compiler engine options).run events).Newest :=
    newest_run events (by simp [Newest, fresh])
  have intact := intact_run calm (safe_fresh source compiler engine options)
    (intact_fresh source steady engine options)
  refine {
    present := by
      intro scopeName
      rw [inHand_iff safe newest intact]
      exact Cache.contains_iff safe.cache
    own := ?_
    length := length_eq_ncard safe newest intact
    others := fun number act scopeName m => lookup_work_of_ne safe intact act
    succeeded := fun event scopeName number p => entries_of_success
    failed := fun event scopeName number => lookup_of_failure safe intact
    told := fun number => Cache.entries_announce _ number }
  intro scopeName number read
  have entered := mem_of_lookup read
  obtain ⟨stage, latest, hopeful⟩ := latest_of_entry safe newest intact entered
  exact ⟨stage, latest, Stage.hopeful_iff.mp hopeful⟩

theorem steady_blocks (stateName : String) : Steady (.blocks stateName) := by
  intro number library definition gone
  cases gone

/-- A construction fails, and before that is told another one of its name is under way. -/
def overtaken : List Event :=
  [.ask "source.json", .ask "source.ts", .work 0 .begin, .work 0 .prepare, .work 0 .withdraw,
    .ask "source.json", .work 0 .announce, .work 1 .begin, .work 2 .begin, .work 2 .prepare,
    .work 2 .compile]

theorem tidy_run_overtaken :
    Steady (.blocks "block") ∧ Calm overtaken ∧
      Tidy ((fresh flaky (.blocks "block") .standard {}).run overtaken) ∧
      ((fresh flaky (.blocks "block") .standard {}).run overtaken).cache.entries =
        [("source.json", 2), ("source.ts", 1)] := by
  have calm : Calm overtaken := by
    intro number
    simp [overtaken]
  exact ⟨steady_blocks "block", calm, tidy_run flaky (steady_blocks "block") .standard {} calm,
    by decide +kernel⟩

end Session

end TokenTheme
