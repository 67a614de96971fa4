import Mathlib
import TokenTheme.Proofs.Provider.Session
/-!
# Whole requests as runs

Requests that are made at a time and all answered are a run of a session, in which every
construction makes its steps once and nobody interferes between the two steps of a removal.
-/
namespace TokenTheme.Session

variable {c : Cache} {requests : List Request} {i : Nat} {scopeName : String} {number : Nat}

theorem Calm.append {first second : List Event} (calm : Calm first) (calm' : Calm second) :
    Calm (first ++ second) := by
  intro number member
  rcases List.mem_append.mp member with early | late
  · exact calm number early
  · exact calm' number late

theorem calm_poll_clear (i : Nat) : Calm [.poll i, .clear i] := by
  intro number
  simp

/-- A request that is polled and goes on at once is answered, if there is an answer. -/
theorem run_poll_clear (found : requests[i]? = some ⟨scopeName, number, none⟩) :
    (Session.mk c requests []).run [.poll i, .clear i] =
      ⟨(c.answer scopeName number).2,
        requests.set i ⟨scopeName, number, (c.answer scopeName number).1⟩, []⟩ := by
  rw [c.answer_eq]
  cases stranded : c.stranded scopeName number with
  | true =>
    have told : c.reply? scopeName number = some (.error (.constructionAborted scopeName)) := by
      obtain ⟨k, constructed, gone⟩ :=
        (Option.any_eq_true ..).mp (Bool.and_eq_true_iff.mp stranded).1
      rw [Cache.reply?, constructed, Option.bind_some, Stage.isGone_iff.mp gone]
      rfl
    simp [run, step, found, stranded, told]
  | false =>
    have polled : (Session.mk c requests []).step (.poll i) =
        ⟨c, requests.set i ⟨scopeName, number, c.reply? scopeName number⟩, []⟩ := by
      simp [step, found, stranded]
    show ((Session.mk c requests []).step (.poll i)).step (.clear i) = _
    rw [polled]
    rcases Session.clear_cases ⟨c, _, []⟩ i with same | ⟨r, -, clears, -⟩
    · exact same
    · cases clears

theorem run_ask_poll_clear (c : Cache) (requests : List Request) (scopeName : String) :
    (Session.mk c requests []).run
        [.ask scopeName, .poll requests.length, .clear requests.length] =
      ⟨((c.request scopeName).2.answer scopeName (c.request scopeName).1).2,
        requests ++ [⟨scopeName, (c.request scopeName).1,
          ((c.request scopeName).2.answer scopeName (c.request scopeName).1).1⟩], []⟩ := by
  have asked : (Session.mk c requests []).step (.ask scopeName) =
      ⟨(c.request scopeName).2, requests ++ [⟨scopeName, (c.request scopeName).1, none⟩], []⟩ := rfl
  show ((Session.mk c requests []).step (.ask scopeName)).run
    [.poll requests.length, .clear requests.length] = _
  rw [asked, run_poll_clear (List.getElem?_concat_length)]
  simp

theorem run_requestAll (scopeNames : List String) (c : Cache) (requests : List Request) :
    ∃ events, Calm events ∧ (Session.mk c requests []).run events =
      ⟨(c.requestAll scopeNames).2, requests ++ (c.requestAll scopeNames).1, []⟩ := by
  induction scopeNames generalizing c requests with
  | nil => exact ⟨[], nofun, by simp [run, Cache.requestAll]⟩
  | cons scopeName rest ih =>
    obtain ⟨events, calm, ran⟩ := ih ((c.request scopeName).2.answer scopeName
      (c.request scopeName).1).2 (requests ++ [⟨scopeName, (c.request scopeName).1,
        ((c.request scopeName).2.answer scopeName (c.request scopeName).1).1⟩])
    refine ⟨[.ask scopeName, .poll requests.length, .clear requests.length] ++ events,
      .append ?_ calm, ?_⟩
    · intro number
      simp
    · rw [run_append, run_ask_poll_clear, ran]
      simp [Cache.requestAll]

theorem run_begin (numbers : List Nat) (s : Session) :
    s.run (numbers.map (.work · .begin)) =
      { s with cache := numbers.foldl Cache.begin s.cache } := by
  induction numbers generalizing s with
  | nil => rfl
  | cons number rest ih => exact ih _

def finishes (number : Nat) : List Event :=
  [.work number .prepare, .work number .compile, .work number .withdraw, .work number .announce]

theorem run_finish (numbers : List Nat) (s : Session) :
    s.run (numbers.flatMap finishes) =
      { s with cache := numbers.foldl Cache.finish s.cache } := by
  induction numbers generalizing s with
  | nil => rfl
  | cons number rest ih => exact ih _

theorem run_settle (s : Session) :
    ∃ events, Calm events ∧ s.run events = { s with cache := s.cache.settle } := by
  refine ⟨s.cache.numbers.map (.work · .begin) ++ s.cache.numbers.flatMap finishes, ?_, ?_⟩
  · intro number
    simp [finishes]
  · rw [run_append, run_begin, run_finish]
    rfl

theorem run_answerAll (waiting before : List Request) (c : Cache) :
    ∃ events answered, Calm events ∧
      (Session.mk c (before ++ waiting) []).run events =
        ⟨(c.answerAll waiting).2, before ++ answered, []⟩ ∧
      answered.filterMap (·.reply) = (c.answerAll waiting).1 := by
  induction waiting generalizing before c with
  | nil => exact ⟨[], [], nofun, rfl, rfl⟩
  | cons r rest ih =>
    obtain ⟨scopeName, number, reply⟩ := r
    cases reply with
    | some reply =>
      obtain ⟨events, answered, calm, ran, replies⟩ :=
        ih (before ++ [⟨scopeName, number, some reply⟩]) c
      refine ⟨events, ⟨scopeName, number, some reply⟩ :: answered, calm, ?_, ?_⟩
      · simpa [Cache.answerAll] using ran
      · simp [Cache.answerAll, replies]
    | none =>
      obtain ⟨events, answered, calm, ran, replies⟩ :=
        ih (before ++ [⟨scopeName, number, (c.answer scopeName number).1⟩])
          (c.answer scopeName number).2
      refine ⟨[.poll before.length, .clear before.length] ++ events,
        ⟨scopeName, number, (c.answer scopeName number).1⟩ :: answered,
        (calm_poll_clear _).append calm, ?_, ?_⟩
      · have waiting : (before ++ ⟨scopeName, number, none⟩ :: rest)[before.length]? =
            some ⟨scopeName, number, none⟩ := by simp
        rw [run_append, run_poll_clear waiting]
        simpa [Cache.answerAll] using ran
      · rw [List.filterMap_cons]
        cases given : (c.answer scopeName number).1 <;> simp [Cache.answerAll, replies, given]

/-- Several requests at a time are a run, after which those that are answered have the answers that
were given. -/
theorem run_getAll (c : Cache) (scopeNames : List String) :
    ∃ events, Calm events ∧ ((Session.mk c [] []).run events).cache = (c.getAll scopeNames).2 ∧
      ((Session.mk c [] []).run events).requests.filterMap (·.reply) =
        (c.getAll scopeNames).1 := by
  obtain ⟨asked, calm, made⟩ := run_requestAll scopeNames c []
  obtain ⟨worked, calm', settled⟩ := run_settle ((Session.mk c [] []).run asked)
  obtain ⟨polled, answered, calm'', ran, replies⟩ := run_answerAll
    (c.requestAll scopeNames).1 [] (c.requestAll scopeNames).2.settle
  refine ⟨asked ++ worked ++ polled, (calm.append calm').append calm'', ?_⟩
  rw [run_append, run_append, settled, made]
  rw [List.nil_append, List.nil_append] at ran
  simp only [List.nil_append, ran]
  exact ⟨rfl, replies⟩

end TokenTheme.Session
