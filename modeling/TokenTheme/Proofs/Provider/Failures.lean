import Mathlib
import TokenTheme.Json.Writer
import TokenTheme.Proofs.Grammar.Refusals
import TokenTheme.Proofs.Provider.Causes
import TokenTheme.Sample
/-!
# Errors of loading and errors of lines

A request fails with an error of loading, and a provider that was made fails on a line with an error
of another kind (`errors_apart`). The two are told apart by `Error.isLoad`. That a provider compiles
its patterns for every line does not mix them: they were all compiled when it was made.
-/
namespace TokenTheme

variable {e : Error}

/-! ### Loads -/

theorem Definition.isLoad_of_ofText {scopeName text : String}
    (failed : Definition.ofText scopeName text = .error e) : e.isLoad = true := by
  unfold ofText at failed
  cases read : (Json.ofText text).mapError Error.ofStop with
  | ok j =>
    rw [read] at failed
    cases failed
  | error cause =>
    rw [read] at failed
    obtain ⟨stop, -, rfl⟩ := mapError_error read
    cases failed
    rfl

theorem Definition.isLoad_of_ofFile {scopeName : String} {file : File}
    (failed : Definition.ofFile scopeName file = .error e) : e.isLoad = true := by
  cases file with
  | missing =>
    cases failed
    rfl
  | directory =>
    cases failed
    rfl
  | bytes content =>
    simp only [ofFile] at failed
    split at failed
    · exact isLoad_of_ofText failed
    · cases failed
      rfl

inductive Source.Stored : Source → Prop where
  | memory (texts : List (String × String)) (failures delay : Nat) :
      (Source.memory texts failures delay).Stored
  | files (files : List (String × File)) : (Source.files files).Stored

theorem Source.Stored.isLoad {source : Source} {count : Nat} {scopeName : String}
    (stored : source.Stored) (failed : source.load count scopeName = .error e) :
    e.isLoad = true := by
  cases stored with
  | memory texts failures delay =>
    simp only [Source.memory] at failed
    split at failed
    · cases failed
      rfl
    · split at failed
      · exact Definition.isLoad_of_ofText failed
      · cases failed
        rfl
  | files files =>
    simp only [Source.files] at failed
    split at failed
    · exact Definition.isLoad_of_ofFile failed
    · cases failed
      rfl

/-! ### Lines -/

namespace Provider

variable {p : Provider} {scopeName : String} {theme : Option Snapshot} {line : String}
  {state : LineState} {f : Fault}
  {tokenize tokenize' : String → LineState → Except Fault (Line (List String))}

theorem fault_of_ofScopes (scopes : p.grammar = .ofScopes scopeName tokenize)
    (failed : p.tokenize? theme line state = .error f ∨ p.encode theme line state = .error f) :
    tokenize line state = .error f := by
  simp only [tokenize?, encode, scopes, Grammar.ofScopes] at failed
  cases made : tokenize line state with
  | ok l =>
    simp only [made] at failed
    rcases failed with failed | failed
    · split at failed <;> cases failed
    · cases failed
  | error cause =>
    simp only [made, Except.map] at failed
    have same : cause = f := by
      rcases failed with failed | failed
      · split at failed <;> exact Except.error.inj failed
      · exact Except.error.inj failed
    rw [same]

theorem tokenize?_ofScopes {options : Options}
    (same : tokenize line state = tokenize' line state) :
    (Provider.mk (.ofScopes scopeName tokenize) options).tokenize? theme line state =
      (Provider.mk (.ofScopes scopeName tokenize') options).tokenize? theme line state := by
  simp only [tokenize?, encode, Grammar.ofScopes, same]
  rfl

theorem encode_ofScopes {options : Options}
    (same : tokenize line state = tokenize' line state) :
    (Provider.mk (.ofScopes scopeName tokenize) options).encode theme line state =
      (Provider.mk (.ofScopes scopeName tokenize') options).encode theme line state := by
  simp only [encode, Grammar.ofScopes, same]

/-- On a line a provider does the same as with patterns compiled anew, and its errors are not those
of loading. It does not break off either. -/
structure Settled (p : Provider) (anew : Grammar) (theme : Option Snapshot) (line : String)
    (state : LineState) : Prop where
  tokenizes : (Provider.mk anew p.options).tokenize? theme line state =
    p.tokenize? theme line state
  encodes : (Provider.mk anew p.options).encode theme line state = p.encode theme line state
  fails : ∀ f, p.tokenize? theme line state = .error f ∨ p.encode theme line state = .error f →
    ∃ e message, f = .refused e ∧ (e = .foreignState message ∨ e = .lineFailed message) ∧
      e.isLoad = false

theorem settled_of_compile {library : Regex.Library} {stateName : String} {d : GrammarDefinition}
    {g : BlockGrammar} (compiled : BlockGrammar.compile library stateName d = .ok g)
    (suited : g.Suited state) (options : Options) (theme : Option Snapshot) (line : String) :
    (Provider.mk g.toGrammar options).Settled (d.toGrammar library stateName) theme line state := by
  have same : d.tokenize library line stateName state = g.tokenize line state :=
    suited.tokenize_definition compiled
  have named := (BlockGrammar.holds_of_compile compiled).1.scopeName
  refine ⟨?_, ?_, ?_⟩
  · unfold GrammarDefinition.toGrammar BlockGrammar.toGrammar
    rw [named]
    exact tokenize?_ofScopes same
  · unfold GrammarDefinition.toGrammar BlockGrammar.toGrammar
    rw [named]
    exact encode_ofScopes same
  · intro f failed
    have failed := fault_of_ofScopes rfl failed
    obtain ⟨message, rfl | rfl⟩ :=
      suited.tokenize_error (BlockGrammar.indexed_of_compile compiled) failed
    · exact ⟨_, message, rfl, .inl rfl, rfl⟩
    · exact ⟨_, message, rfl, .inr rfl, rfl⟩

end Provider

namespace Session

structure Apart (source : Source) (stateName : String) (options : Options) (start : Session)
    (events : List Event) : Prop where
  /-- A request fails with an error of loading. -/
  loading : ∀ r ∈ (start.run events).requests, ∀ e, r.reply = some (.error e) → e.isLoad = true
  /-- The compiler refuses a definition if and only if something is wrong with it. -/
  compiling : ∀ library definition,
    (∃ grammar, BlockGrammar.ofDefinition stateName library definition = .ok grammar ∧
        ∀ cause, ¬ BlockGrammar.Faulty library definition.raw cause) ∨
      ∃ cause name reason, BlockGrammar.Faulty library definition.raw cause ∧
        BlockGrammar.ofDefinition stateName library definition =
          .error (.invalidGrammar name reason)
  /-- Those who wait for such a definition are told so, if the construction does not go away. -/
  refusing : ∀ before, before <+: events → ∀ number scopeName definition library cause,
    (start.run before).cache.constructions[number]? =
        some ⟨scopeName, .ready definition library⟩ →
      BlockGrammar.Faulty library definition.raw cause →
        ∃ name reason,
          BlockGrammar.ofDefinition stateName library definition =
              .error (.invalidGrammar name reason) ∧
            ∀ r ∈ (start.run events).requests, r.number = number →
              ∀ reply, r.reply = some reply → reply = .error (.invalidGrammar name reason) ∨
                reply = .error (.constructionAborted scopeName)
  /-- A provider was made of a definition with which nothing is wrong. -/
  tokenizing : ∀ r ∈ (start.run events).requests, ∀ made, r.reply = some (.ok made) →
    ∃ count definition library d g,
      source.load count r.scopeName = .ok definition ∧
        GrammarDefinition.shape.accept definition.raw = .ok d ∧
        BlockGrammar.compile library stateName d = .ok g ∧
        made.provider = ⟨g.toGrammar, options⟩ ∧
        ∀ state, g.Suited state → ∀ theme line,
          made.provider.Settled (d.toGrammar library stateName) theme line state

section Apart

variable {source : Source} {stateName : String} {engine : Regex.Engine} {options : Options}
  {number : Nat} {scopeName : String}

theorem isLoad_of_cause (stored : source.Stored)
    (setUp : ∀ n e, engine.setUp n = .error e → ∃ message, e = .engineUnavailable message)
    (cause : (fresh source (.blocks stateName) engine options).cache.Cause number scopeName
      (.error e)) : e.isLoad = true := by
  cases cause with
  | unloaded load => exact stored.isLoad load
  | unready yields =>
    rcases yields with ⟨library, -, impossible⟩ | ⟨n, failed⟩
    · cases impossible
    · obtain ⟨message, rfl⟩ := setUp n e failed
      rfl
  | unmade load yields refused =>
    have refused := Compilation.done.inj refused
    obtain ⟨-, name, reason, -, rfl, -⟩ := BlockGrammar.ofDefinition_error refused
    rfl

theorem compiled_of_cause {p : Provider}
    (cause : (fresh source (.blocks stateName) engine options).cache.Cause number scopeName
      (.ok p)) :
    ∃ count definition library d g, source.load count scopeName = .ok definition ∧
      GrammarDefinition.shape.accept definition.raw = .ok d ∧
      BlockGrammar.compile library stateName d = .ok g ∧ p = ⟨g.toGrammar, options⟩ := by
  cases cause with
  | made load yields made =>
    obtain ⟨g, ok, rfl⟩ := BlockGrammar.ofDefinition_ok (Compilation.done.inj made)
    obtain ⟨d, accepted, compiled⟩ := bind_ok ok
    exact ⟨_, _, _, d, g, load, accepted, compiled, rfl⟩

/-- Errors of loading and errors of lines do not mix. -/
theorem errors_apart (stored : source.Stored)
    (setUp : ∀ n e, engine.setUp n = .error e → ∃ message, e = .engineUnavailable message)
    (stateName : String) (options : Options) (events : List Event) :
    Apart source stateName options (fresh source (.blocks stateName) engine options) events := by
  have start := founded_fresh source (.blocks stateName) engine options
  have safe := safe_fresh source (.blocks stateName) engine options
  have founded := founded_run events start
  have safe_later := run_safe events safe
  refine ⟨?_, BlockGrammar.ofDefinition_cases stateName, ?_, ?_⟩
  · intro r member e given
    rcases cause_of_reply founded safe_later member given with aborted | ⟨result, cause, same⟩
    · cases aborted
      rfl
    · cases result with
      | error e' =>
        cases same
        exact isLoad_of_cause stored setUp cause
      | ok p => cases same
  · rintro before ⟨after, rfl⟩ number scopeName definition library cause found faulty
    rcases BlockGrammar.ofDefinition_cases stateName library definition with
      ⟨-, -, right⟩ | ⟨-, name, reason, -, refused⟩
    · exact absurd faulty (right cause)
    · refine ⟨name, reason, refused, ?_⟩
      intro r member waits reply given
      rw [run_append] at member
      exact reply_of_refused after (run_safe before safe) (kept_run before start.kept)
        (congrArg Compilation.done refused) found member waits given
  · intro r member made given
    rcases cause_of_reply founded safe_later member given with aborted | ⟨result, cause, same⟩
    · cases aborted
    · cases result with
      | error e => cases same
      | ok p =>
        cases same
        obtain ⟨count, definition, library, d, g, load, accepted, compiled, rfl⟩ :=
          compiled_of_cause cause
        refine ⟨count, definition, library, d, g, load, accepted, compiled, rfl, ?_⟩
        intro state suited theme line
        exact Provider.settled_of_compile compiled suited options theme line

end Apart

def failure? (r : Request) : Option Error :=
  match r.reply with
  | some (.error e) => some e
  | _ => none

/-- Texts of two grammars, of which the second has a rule with an opening pattern alone. The first
load fails. -/
def shaky : Source :=
  .memory [("data", (Sample.grammar "data" [Sample.rule "a" "x"]).write),
    ("rule",
      (Sample.grammar "rule" [.object [("begin", .string "a"), ("name", .string "x")]]).write)]
    1 0

def slow : Regex.Engine where
  setUp attempt := if attempt = 0 then .error (.engineUnavailable "missing") else .ok .standard

/-- Requests that are made one after the other, each with all that its construction does. -/
def attempts (scopeNames : List String) : List Event :=
  scopeNames.zipIdx.flatMap fun (scopeName, i) => .ask scopeName :: works i ++ [.poll i]

theorem errors_apart_attempts :
    shaky.Stored ∧
      (∀ n e, slow.setUp n = .error e → ∃ message, e = .engineUnavailable message) ∧
      ((fresh shaky (.blocks "block") slow {}).run
          (attempts ["data", "data", "data", "rule", "text"])).requests.map failure? =
        [some (.file (.other "network unreachable")), some (.engineUnavailable "missing"), none,
          some (.invalidGrammar "rule" "rule x needs either match or begin/end"),
          some (.unknownGrammar "text")] ∧
      Apart shaky "block" {} (fresh shaky (.blocks "block") slow {})
        (attempts ["data", "data", "data", "rule", "text"]) := by
  have stored : shaky.Stored := .memory _ 1 0
  have setUp : ∀ n e, slow.setUp n = .error e → ∃ message, e = .engineUnavailable message := by
    intro n e failed
    simp only [slow] at failed
    split at failed
    · cases failed
      exact ⟨_, rfl⟩
    · cases failed
  have failures : ((fresh shaky (.blocks "block") slow {}).run
      (attempts ["data", "data", "data", "rule", "text"])).requests.map failure? =
        [some (.file (.other "network unreachable")), some (.engineUnavailable "missing"), none,
          some (.invalidGrammar "rule" "rule x needs either match or begin/end"),
          some (.unknownGrammar "text")] := by
    decide +kernel
  exact ⟨stored, setUp, failures, errors_apart stored setUp "block" {} _⟩

end Session

end TokenTheme
