import Mathlib
import TokenTheme.Proofs.Provider.Session
import TokenTheme.Sample
/-!
# One construction at a time

However requests and constructions take turns, a scope name has one construction without a result
at most. Its result is the answer to those who found or started it and to nobody else: a provider is
there for good, and a failure is forgotten before the next request.
-/
namespace TokenTheme.Session

variable {s t : Session} {scopeName : String} {number : Nat}

def Unfinished (s : Session) (scopeName : String) (number : Nat) : Prop :=
  ∃ stage, s.cache.constructions[number]? = some ⟨scopeName, stage⟩ ∧ stage.unfinished

/-- The construction has failed. It may be that nobody has been told yet. -/
def Failed (s : Session) (scopeName : String) (number : Nat) : Prop :=
  ∃ error, s.cache.constructions[number]? = some ⟨scopeName, .failed error⟩ ∨
    s.cache.constructions[number]? = some ⟨scopeName, .done (.error error)⟩

/-! ### Sessions in which nothing goes away -/

def Steady (compiler : Compiler) : Prop :=
  ∀ number library definition, compiler.compile number library definition ≠ .gone

/-- Where nothing goes away nobody removes an entry but the construction that it is of, and every
construction that was begun has loaded once. -/
structure Intact (s : Session) : Prop where
  steady : Steady s.cache.compiler
  present : ∀ k ∈ s.cache.constructions, k.stage ≠ .gone
  clearing : s.clearing = []
  entered : ∀ scopeName, s.cache.Entered scopeName
  loads : s.cache.loads = s.cache.constructions.countP (·.stage.begun)

theorem intact_fresh (source : Source) {compiler : Compiler} (steady : Steady compiler)
    (engine : Regex.Engine) (options : Options) : (fresh source compiler engine options).Intact :=
  ⟨steady, by simp [fresh], rfl, by simp [fresh, Cache.Entered], rfl⟩

theorem loads_of_turn {c d : Cache} {old new : Stage} (turn : c.Turn d number scopeName old new)
    (present : new ≠ .gone) (loads : c.loads = c.constructions.countP (·.stage.begun)) :
    d.loads = d.constructions.countP (·.stage.begun) := by
  have balance := turn.loads present
  obtain ⟨bound, value⟩ := List.getElem?_eq_some_iff.mp turn.found
  rw [turn.constructions, List.countP_set bound, value]
  rw [loads, turn.next.begun] at balance
  cases begun : old.begun with
  | false =>
    rw [begun] at balance
    simpa [begun, turn.next.begun] using balance
  | true =>
    have some_begun : 0 < c.constructions.countP (·.stage.begun) :=
      List.countP_pos_iff.mpr ⟨_, List.mem_of_getElem? turn.found, begun⟩
    rw [begun] at balance
    simp only [Bool.toNat_true, Nat.add_right_cancel_iff] at balance
    simp only [turn.next.begun, if_true]
    omega

theorem intact_ask (scopeName : String) (intact : s.Intact) : (s.step (.ask scopeName)).Intact := by
  obtain ⟨steady, present, clearing, entered, loads⟩ := intact
  have entered' := fun name => Cache.entered_request scopeName (entered name)
  cases read : s.cache.entries.lookup scopeName with
  | some number =>
    simp only [step, Cache.request_of_lookup read] at entered' ⊢
    exact ⟨steady, present, clearing, entered', loads⟩
  | none =>
    obtain ⟨-, -, constructions, same, compiler⟩ := Cache.request_of_missing read
    simp only [step]
    refine ⟨?_, ?_, clearing, entered', ?_⟩
    · rw [compiler]
      exact steady
    · rw [constructions]
      intro k member
      rcases List.mem_append.mp member with before | new
      · exact present k before
      · obtain rfl := List.mem_singleton.mp new
        intro gone
        cases gone
    · rw [same, constructions, List.countP_append, loads]
      rfl

theorem intact_work {number : Nat} {act : Cache.Act} (calm : act ≠ .abort) (safe : s.Safe)
    (intact : s.Intact) : (s.step (.work number act)).Intact := by
  rcases Cache.turn_act (c := s.cache) number act with same | ⟨scopeName, old, new, turn, left⟩
  · simp only [step, same]
    exact intact
  · have stays : new ≠ .gone := by
      intro gone
      rcases left gone with rfl | ⟨library, definition, lost⟩
      · exact calm rfl
      · exact intact.steady number library definition lost
    refine ⟨?_, ?_, intact.clearing,
      fun name => Cache.entered_of_turn turn safe.cache (intact.entered name),
      loads_of_turn turn stays intact.loads⟩
    · simp only [step, turn.compiler]
      exact intact.steady
    · simp only [step, turn.constructions]
      intro k member
      rcases List.mem_or_eq_of_mem_set member with before | rfl
      · exact intact.present k before
      · exact stays

theorem intact_step {event : Event} (calm : ∀ number, event ≠ .work number .abort) (safe : s.Safe)
    (intact : s.Intact) : (s.step event).Intact := by
  cases event with
  | ask scopeName => exact intact_ask scopeName intact
  | poll i =>
    rcases s.poll_cases i with same | ⟨scopeName, number, -, -, ⟨stranded, -⟩ | ⟨-, same⟩⟩
    · rw [same]
      exact intact
    · obtain ⟨k, found, gone⟩ := (Option.any_eq_true ..).mp (Bool.and_eq_true_iff.mp stranded).1
      exact absurd (Stage.isGone_iff.mp gone) (intact.present k (List.mem_of_getElem? found))
    · rw [same]
      exact ⟨intact.steady, intact.present, intact.clearing, intact.entered, intact.loads⟩
  | clear i =>
    rcases s.clear_cases i with same | ⟨r, -, clears, -⟩
    · rw [same]
      exact intact
    · rw [intact.clearing] at clears
      cases clears
  | work number act => exact intact_work (fun same => calm number (same ▸ rfl)) safe intact

theorem intact_run {events : List Event} (calm : Calm events) (safe : s.Safe) (intact : s.Intact) :
    (s.run events).Intact := by
  induction events generalizing s with
  | nil => exact intact
  | cons event rest ih =>
    have first : ∀ number, event ≠ .work number .abort := by
      rintro number rfl
      exact calm number List.mem_cons_self
    exact ih (fun number member => calm number (List.mem_cons_of_mem _ member))
      (step_safe event safe) (intact_step first safe intact)

theorem one_unfinished {m n : Nat} (safe : s.Safe) (intact : s.Intact)
    (first : s.Unfinished scopeName m) (second : s.Unfinished scopeName n) : m = n := by
  obtain ⟨stage, constructed, unfinished⟩ := first
  obtain ⟨stage', constructed', unfinished'⟩ := second
  exact safe.cache.eq_of_mem
    (intact.entered _ _ _ constructed (Stage.hopeful_of_unfinished unfinished))
    (intact.entered _ _ _ constructed' (Stage.hopeful_of_unfinished unfinished'))

theorem requests_run (events : List Event) {i : Nat} {r : Request}
    (found : s.requests[i]? = some r) :
    ∃ reply, (s.run events).requests[i]? = some ⟨r.scopeName, r.number, reply⟩ := by
  induction events generalizing s r with
  | nil => exact ⟨r.reply, found⟩
  | cons event rest ih =>
    obtain ⟨reply, kept⟩ := requests_step event found
    obtain ⟨reply', kept⟩ := ih kept
    exact ⟨reply', kept⟩

/-! ### Providers -/

/-- A provider is there with its entry, which nobody removes: all other constructions of its scope name
have failed. Since a certain moment no other one was started and no request was given another one. -/
structure Lasting (constructed requested : Nat) (scopeName : String) (number : Nat) (provider : Provider)
    (s : Session) : Prop where
  safe : s.Safe
  built : s.cache.constructions[number]? = some ⟨scopeName, .done (.ok provider)⟩
  entered : (scopeName, number) ∈ s.cache.entries
  fallen : ∀ m stage, m ≠ number → s.cache.constructions[m]? = some ⟨scopeName, stage⟩ →
    stage.fallen
  undisturbed : ∀ i ∈ s.clearing, ∀ r, s.requests[i]? = some r → r.scopeName ≠ scopeName
  started : ∀ m k, s.cache.constructions[m]? = some k → k.scopeName = scopeName →
    m < constructed
  asked : ∀ i r, s.requests[i]? = some r → requested ≤ i → r.scopeName = scopeName →
    r.number = number

theorem requests_of_step (event : Event) {i : Nat} {r : Request}
    (found : (s.step event).requests[i]? = some r) :
    (∃ reply, s.requests[i]? = some ⟨r.scopeName, r.number, reply⟩) ∨
      event = .ask r.scopeName ∧
        (s.cache.entries.lookup r.scopeName = some r.number ∨
          s.cache.entries.lookup r.scopeName = none ∧
            r.number = s.cache.constructions.length) := by
  rcases Nat.lt_or_ge i s.requests.length with bound | beyond
  · have before := List.getElem?_eq_getElem bound
    obtain ⟨reply, kept⟩ := requests_step event before
    cases kept.symm.trans found
    exact .inl ⟨_, before⟩
  · right
    have inside := (List.getElem?_eq_some_iff.mp found).1
    cases event with
    | ask scopeName =>
      obtain ⟨number, requests, -, taken⟩ := s.requests_ask scopeName
      rw [requests, List.length_append, List.length_singleton] at inside
      obtain rfl : i = s.requests.length := by omega
      rw [requests, List.getElem?_concat_length] at found
      cases found
      exact ⟨rfl, taken⟩
    | poll j =>
      rcases s.poll_cases j with same | ⟨scopeName, number, -, -, ⟨-, same⟩ | ⟨-, same⟩⟩
      · rw [same] at inside
        omega
      · rw [same] at inside
        exact absurd inside (Nat.not_lt.mpr beyond)
      · rw [same, List.length_set] at inside
        omega
    | clear j =>
      rcases s.clear_cases j with same | ⟨r', -, -, same⟩
      · rw [same] at inside
        omega
      · rw [same, List.length_set] at inside
        omega
    | work number act =>
      have bound : i < s.requests.length := inside
      omega

section Lasting

variable {constructed requested : Nat} {provider : Provider}
  (lasting : Lasting constructed requested scopeName number provider s)
include lasting

theorem Lasting.lookup : s.cache.entries.lookup scopeName = some number :=
  lookup_of_mem lasting.safe.cache.keys lasting.entered

theorem Lasting.entered_step (event : Event) :
    (scopeName, number) ∈ (s.step event).cache.entries := by
  have entered := lasting.entered
  cases event with
  | ask name =>
    cases read : s.cache.entries.lookup name with
    | some m =>
      simp only [step, Cache.request_of_lookup read]
      exact entered
    | none =>
      obtain ⟨-, entries, -, -, -⟩ := Cache.request_of_missing read
      simp only [step, entries]
      exact List.mem_cons_of_mem _ entered
  | poll i =>
    rw [cache_poll]
    exact entered
  | clear i =>
    rcases s.cache_clear i with same | ⟨r, found, clears, same⟩
    · rw [same]
      exact entered
    · rw [same, Cache.mem_entries_remove]
      exact ⟨entered, Ne.symm (lasting.undisturbed i clears r found)⟩
  | work m act =>
    rcases Cache.turn_act (c := s.cache) m act with same | ⟨name, old, new, turn, -⟩
    · simp only [step, same]
      exact entered
    · refine turn.mem_entries.mpr ⟨entered, ?_⟩
      rintro ⟨withdraws, rfl⟩
      -- The provider has been made, and the others have no entry to remove any more.
      by_cases own : m = number
      · subst own
        cases lasting.built.symm.trans turn.found
        cases withdraws
      · rw [Stage.not_withdraws_of_fallen (lasting.fallen m old own turn.found)] at withdraws
        cases withdraws

theorem Lasting.fallen_step (event : Event) {m : Nat} {stage : Stage} (other : m ≠ number)
    (found : (s.step event).cache.constructions[m]? = some ⟨scopeName, stage⟩) : stage.fallen := by
  rcases constructions_of_step event found with ⟨old, before⟩ | ⟨-, -, missing, -⟩
  · have fallen := lasting.fallen m old other before
    obtain ⟨later, after, rfl | next⟩ := constructions_step event before
    · cases after.symm.trans found
      exact fallen
    · cases after.symm.trans found
      exact next.fallen fallen
  · cases lasting.lookup.symm.trans missing

theorem Lasting.undisturbed_step (event : Event) {i : Nat} {r : Request}
    (clears : i ∈ (s.step event).clearing) (found : (s.step event).requests[i]? = some r) :
    r.scopeName ≠ scopeName := by
  obtain ⟨name, m, found', gone⟩ := (step_safe event lasting.safe).clearing i clears
  cases found.symm.trans found'
  rintro rfl
  -- Nothing of this name has gone away.
  by_cases own : m = number
  · subst own
    cases (ended_step event lasting.built rfl).symm.trans gone
  · cases lasting.fallen_step event own gone

end Lasting

theorem lasting_step (event : Event) {constructed requested : Nat} {provider : Provider}
    (lasting : Lasting constructed requested scopeName number provider s) :
    Lasting constructed requested scopeName number provider (s.step event) where
  safe := step_safe event lasting.safe
  built := ended_step event lasting.built rfl
  entered := lasting.entered_step event
  fallen _ _ other found := lasting.fallen_step event other found
  undisturbed _ clears _ found := lasting.undisturbed_step event clears found
  started := by
    intro m k found named
    rcases constructions_of_step event found with ⟨stage, before⟩ | ⟨-, -, missing, -⟩
    · exact lasting.started m _ before named
    · rw [named, lasting.lookup] at missing
      cases missing
  asked := by
    intro i r found later named
    rcases requests_of_step event found with ⟨reply, before⟩ | ⟨-, joined | ⟨missing, -⟩⟩
    · have same := lasting.asked i _ before later named
      exact same
    · rw [named, lasting.lookup] at joined
      exact (Option.some.inj joined).symm
    · rw [named, lasting.lookup] at missing
      cases missing

theorem lasting_run (events : List Event) {constructed requested : Nat} {provider : Provider}
    (lasting : Lasting constructed requested scopeName number provider s) :
    Lasting constructed requested scopeName number provider (s.run events) := by
  induction events generalizing s with
  | nil => exact lasting
  | cons event rest ih => exact ih (lasting_step event lasting)

/-! ### Failures -/

/-- Since a certain moment every request for a scope name has one of certain constructions. Among them
are all that are still to be started. -/
structure Renewed (fit : Nat → Prop) (requested : Nat) (scopeName : String) (s : Session) : Prop where
  new : ∀ m, s.cache.constructions.length ≤ m → fit m
  entries : ∀ m, (scopeName, m) ∈ s.cache.entries → fit m
  asked : ∀ i r, s.requests[i]? = some r → requested ≤ i → r.scopeName = scopeName →
    fit r.number

theorem entries_of_step (event : Event) {m : Nat}
    (entered : (scopeName, m) ∈ (s.step event).cache.entries) :
    (scopeName, m) ∈ s.cache.entries ∨ m = s.cache.constructions.length := by
  cases event with
  | ask scopeName' =>
    cases read : s.cache.entries.lookup scopeName' with
    | some number =>
      simp only [step, Cache.request_of_lookup read] at entered
      exact .inl entered
    | none =>
      obtain ⟨-, entries, -, -, -⟩ := Cache.request_of_missing read
      simp only [step, entries] at entered
      rcases List.mem_cons.mp entered with new | before
      · cases new
        exact .inr rfl
      · exact .inl before
  | poll i =>
    rw [cache_poll] at entered
    exact .inl entered
  | clear i =>
    left
    rcases s.cache_clear i with same | ⟨r, -, -, same⟩
    · exact same ▸ entered
    · rw [same] at entered
      exact (Cache.mem_entries_remove.mp entered).1
  | work number act =>
    left
    rcases Cache.turn_act (c := s.cache) number act with same | ⟨scopeName, old, new, turn, -⟩
    · simp only [step, same] at entered
      exact entered
    · exact (turn.mem_entries.mp entered).1

theorem renewed_step (event : Event) {fit : Nat → Prop} {requested : Nat}
    (renewed : Renewed fit requested scopeName s) :
    Renewed fit requested scopeName (s.step event) where
  new m later := renewed.new m ((s.length_le_step event).trans later)
  entries := by
    intro m entered
    rcases entries_of_step event entered with before | rfl
    · exact renewed.entries m before
    · exact renewed.new _ (Nat.le_refl _)
  asked := by
    intro i r found later named
    rcases requests_of_step event found with ⟨reply, before⟩ | ⟨-, joined | ⟨-, new⟩⟩
    · have still := renewed.asked i _ before later named
      exact still
    · rw [named] at joined
      exact renewed.entries _ (mem_of_lookup joined)
    · rw [new]
      exact renewed.new _ (Nat.le_refl _)

theorem renewed_run (events : List Event) {fit : Nat → Prop} {requested : Nat}
    (renewed : Renewed fit requested scopeName s) :
    Renewed fit requested scopeName (s.run events) := by
  induction events generalizing s with
  | nil => exact renewed
  | cons event rest ih => exact ih (renewed_step event renewed)

/-- A construction has failed by a step of its own, the one that is for its entry. -/
theorem turn_of_failure {event : Event} (unfinished : s.Unfinished scopeName number)
    (failed : (s.step event).Failed scopeName number) :
    ∃ act error owned, event = .work number act ∧
      s.cache.Turn (s.step event).cache number scopeName (.failing error owned) (.failed error) := by
  obtain ⟨old, constructed, unfinished⟩ := unfinished
  obtain ⟨error, failed | failed⟩ := failed
  · have changed : Stage.failed error ≠ old := by
      rintro rfl
      cases unfinished
    obtain ⟨act, rfl, turn⟩ := turn_of_change constructed failed changed
    have next := turn.next
    cases next with
    | withdrawn => exact ⟨act, error, _, rfl, turn⟩
  · have changed : Stage.done (.error error) ≠ old := by
      rintro rfl
      cases unfinished
    obtain ⟨act, rfl, turn⟩ := turn_of_change constructed failed changed
    -- What is told had failed before.
    have next := turn.next
    cases next with
    | told => cases unfinished

/-- Where nothing goes away a construction that fails finds its own entry, and removes no other. -/
theorem removed_of_failure {event : Event} (safe : s.Safe) (intact : s.Intact)
    (unfinished : s.Unfinished scopeName number)
    (failed : (s.step event).Failed scopeName number) :
    (∃ act, event = .work number act) ∧
      (s.step event).cache.entries = s.cache.entries.filter (·.1 ≠ scopeName) := by
  obtain ⟨act, error, owned, rfl, turn⟩ := turn_of_failure unfinished failed
  refine ⟨⟨act, rfl⟩, ?_⟩
  rw [turn.entries]
  cases owned with
  | true => rfl
  | false =>
    have entered := intact.entered _ _ _ turn.found rfl
    exact absurd entered (safe.cache.disowned _ _ _ turn.found)

theorem renewed_of_failure {event : Event} (safe : s.Safe) (intact : s.Intact)
    (unfinished : s.Unfinished scopeName number)
    (failed : (s.step event).Failed scopeName number) :
    Renewed ((s.step event).cache.constructions.length ≤ ·) s.requests.length scopeName
      (s.step event) := by
  obtain ⟨⟨act, rfl⟩, entries⟩ := removed_of_failure safe intact unfinished failed
  refine ⟨fun m later => later, ?_, ?_⟩
  · intro m entered
    rw [entries] at entered
    simp at entered
  · intro i r found later
    have inside : i < s.requests.length := (List.getElem?_eq_some_iff.mp found).1
    omega

/-! ### All together -/

/-- What a session can count on at a moment, whatever comes after it. -/
structure SingleFlight (s : Session) : Prop where
  /-- Of a scope name one construction at most has no result yet. -/
  one : ∀ scopeName m n, s.Unfinished scopeName m → s.Unfinished scopeName n → m = n
  /-- A request that is made now has the construction of the entry that it finds or makes. If it is
  answered it is given the result of that construction. -/
  answered : ∀ scopeName after, Calm after →
    ∃ number reply, (s.step (.ask scopeName)).cache.entries.lookup scopeName = some number ∧
      ((s.step (.ask scopeName)).run after).requests[s.requests.length]? =
        some ⟨scopeName, number, reply⟩ ∧
      ∀ answer, reply = some answer →
        ∃ result, ((s.step (.ask scopeName)).run after).cache.constructions[number]? =
            some ⟨scopeName, .done result⟩ ∧
          answer = result.map (⟨number, ·⟩)
  /-- A provider that is there is given to every request from now on. No construction of its scope
  name is started any more, and none begins to load. -/
  permanent : ∀ scopeName number provider after,
    s.cache.constructions[number]? = some ⟨scopeName, .done (.ok provider)⟩ →
      (∀ i r, (s.run after).requests[i]? = some r → s.requests.length ≤ i →
        r.scopeName = scopeName →
          r.number = number ∧ ∀ answer, r.reply = some answer → answer = .ok ⟨number, provider⟩) ∧
      (s.run after).cache.answer scopeName number =
        (some (.ok ⟨number, provider⟩), (s.run after).cache) ∧
      ∀ m stage, (s.run after).cache.constructions[m]? = some ⟨scopeName, stage⟩ →
        m < s.cache.constructions.length ∧ (s.run after).cache.begin m = (s.run after).cache
  /-- A construction that fails now is not the one of any later request; each of them has one that
  was started after the failure. -/
  renewed : ∀ event after scopeName number, s.Unfinished scopeName number →
    (s.step event).Failed scopeName number →
      ∀ i r, ((s.step event).run after).requests[i]? = some r → s.requests.length ≤ i →
        r.scopeName = scopeName →
          r.number ≠ number ∧ (s.step event).cache.constructions.length ≤ r.number
  /-- A construction loads once, in its first step. -/
  loaded : s.cache.loads = s.cache.constructions.countP (·.stage.begun) ∧
    ((∀ k ∈ s.cache.constructions, k.stage.begun) →
      s.cache.loads = s.cache.constructions.length)

theorem answered_of_safe (safe : s.Safe) (intact : s.Intact) (scopeName : String)
    {after : List Event} (calm : Calm after) :
    ∃ number reply, (s.step (.ask scopeName)).cache.entries.lookup scopeName = some number ∧
      ((s.step (.ask scopeName)).run after).requests[s.requests.length]? =
        some ⟨scopeName, number, reply⟩ ∧
      ∀ answer, reply = some answer →
        ∃ result, ((s.step (.ask scopeName)).run after).cache.constructions[number]? =
            some ⟨scopeName, .done result⟩ ∧
          answer = result.map (⟨number, ·⟩) := by
  have asked := step_safe (.ask scopeName) safe
  have later := run_safe after asked
  have first : ∀ number, Event.ask scopeName ≠ .work number .abort := by
    intro number same
    cases same
  have present := (intact_run calm asked (intact_step first safe intact)).present
  obtain ⟨number, requests, entered, -⟩ := s.requests_ask scopeName
  have made : (s.step (.ask scopeName)).requests[s.requests.length]? =
      some ⟨scopeName, number, none⟩ := by
    rw [requests, List.getElem?_concat_length]
  obtain ⟨reply, kept⟩ := requests_run after made
  refine ⟨number, reply, lookup_of_mem asked.cache.keys entered, kept, ?_⟩
  intro answer given
  obtain ⟨stage, constructed, answered⟩ := later.waits _ (List.mem_of_getElem? kept)
  have result := answered answer given
  cases stage with
  | done result' => exact ⟨result', constructed, (Option.some.inj result).symm⟩
  | gone => exact absurd rfl (present _ (List.mem_of_getElem? constructed))
  | _ => cases result

theorem lasting_of_built {provider : Provider} (safe : s.Safe) (present : ¬ s.Away scopeName)
    (entered : s.cache.Entered scopeName)
    (built : s.cache.constructions[number]? = some ⟨scopeName, .done (.ok provider)⟩) :
    Lasting s.cache.constructions.length s.requests.length scopeName number provider s where
  safe := safe
  built := built
  entered := entered _ _ built rfl
  fallen := by
    intro m stage other found
    by_cases hopeful : stage.hopeful
    · have own := entered _ _ built rfl
      exact absurd (safe.cache.eq_of_mem (entered _ _ found hopeful) own) other
    · refine Stage.fallen_of_not_hopeful hopeful ?_
      rintro rfl
      exact present ⟨m, found⟩
  undisturbed := by
    rintro i clears r found rfl
    exact present (away_of_clearing safe clears found)
  started _ _ found _ := (List.getElem?_eq_some_iff.mp found).1
  asked _ _ found later _ :=
    absurd (List.getElem?_eq_some_iff.mp found).1 (Nat.not_lt.mpr later)

section Lasting

variable {constructed requested : Nat} {provider : Provider}
  (lasting : Lasting constructed requested scopeName number provider s)
include lasting

theorem Lasting.reply {i : Nat} {r : Request} (found : s.requests[i]? = some r)
    (later : requested ≤ i) (named : r.scopeName = scopeName) :
    r.number = number ∧ ∀ answer, r.reply = some answer → answer = .ok ⟨number, provider⟩ := by
  have same := lasting.asked i r found later named
  refine ⟨same, ?_⟩
  intro answer given
  obtain ⟨stage, waited, answered⟩ := lasting.safe.waits r (List.mem_of_getElem? found)
  have result := answered answer given
  rw [same, lasting.built] at waited
  cases waited
  rw [same] at result
  exact (Option.some.inj result).symm

theorem Lasting.answer :
    s.cache.answer scopeName number = (some (.ok ⟨number, provider⟩), s.cache) := by
  unfold Cache.answer
  rw [lasting.built]
  rfl

/-- No other construction of the name has a first step to make. -/
theorem Lasting.begin_eq {m : Nat} {stage : Stage}
    (found : s.cache.constructions[m]? = some ⟨scopeName, stage⟩) : s.cache.begin m = s.cache := by
  unfold Cache.begin
  split
  · rename_i scopeName' waiting
    cases found.symm.trans waiting
    by_cases own : m = number
    · subst own
      cases found.symm.trans lasting.built
    · cases lasting.fallen m _ own found
  · rfl

end Lasting

/-- However requests are made and polled while constructions load, compile, fail and succeed, a
scope name has one construction at a time, and its result is for those who found or started it. -/
theorem single_flight (source : Source) {compiler : Compiler} (steady : Steady compiler)
    (engine : Regex.Engine) (options : Options) {events : List Event} (calm : Calm events) :
    SingleFlight ((fresh source compiler engine options).run events) := by
  have safe := run_safe events (safe_fresh source compiler engine options)
  have intact := intact_run calm (safe_fresh source compiler engine options)
    (intact_fresh source steady engine options)
  refine {
    one := fun scopeName m n => one_unfinished safe intact
    answered := fun scopeName after => answered_of_safe safe intact scopeName
    permanent := ?_
    renewed := ?_
    loaded := ⟨intact.loads, fun begun => intact.loads.trans (List.countP_eq_length.mpr begun)⟩ }
  · intro scopeName number provider after built
    have present : ¬ ((fresh source compiler engine options).run events).Away scopeName :=
      fun ⟨_, gone⟩ => intact.present _ (List.mem_of_getElem? gone) rfl
    have lasting := lasting_run after
      (lasting_of_built safe present (intact.entered scopeName) built)
    refine ⟨fun i r => lasting.reply, lasting.answer, ?_⟩
    intro m stage found
    exact ⟨lasting.started m _ found rfl, lasting.begin_eq found⟩
  · intro event after scopeName number unfinished failed i r found later named
    have renewed := renewed_run after (renewed_of_failure safe intact unfinished failed)
    have least := renewed.asked i r found later named
    obtain ⟨error, failed | failed⟩ := failed
    · have old := (List.getElem?_eq_some_iff.mp failed).1
      exact ⟨by omega, least⟩
    · have old := (List.getElem?_eq_some_iff.mp failed).1
      exact ⟨by omega, least⟩

def flaky : Source where
  load count scopeName :=
    if count = 0 then .error (.unknownGrammar scopeName) else .ok ⟨scopeName, Sample.dataGrammar⟩

/-- Two requests share a construction that fails, and two later ones another that succeeds. -/
def retry : List Event :=
  [.ask "source.json", .ask "source.json", .work 0 .begin, .work 0 .prepare, .work 0 .withdraw,
    .ask "source.json", .work 0 .announce, .poll 0, .poll 1, .work 1 .begin, .work 1 .prepare,
    .work 1 .compile, .ask "source.json", .poll 2, .poll 3]

theorem single_flight_retry :
    Steady (.blocks "block") ∧ Calm retry ∧
      SingleFlight ((fresh flaky (.blocks "block") .standard {}).run retry) ∧
      ((fresh flaky (.blocks "block") .standard {}).run retry).requests.map
          (fun r => (r.number, r.reply.map (·.toOption.isSome))) =
        [(0, some false), (0, some false), (1, some true), (1, some true)] := by
  have steady : Steady (.blocks "block") := by
    intro number library definition gone
    cases gone
  have calm : Calm retry := by
    intro number
    simp [retry]
  exact ⟨steady, calm, single_flight flaky steady .standard {} calm, by decide +kernel⟩

end TokenTheme.Session
