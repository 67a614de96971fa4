import TokenTheme.Provider.Basic
import TokenTheme.Provider.Source
/-!
# The cache of providers

There is one provider for each scope name, made when it is first asked for. A request that finds
no entry makes one and starts a construction; a request that finds an entry waits for the
construction of that entry. A construction goes on whether somebody waits for it or not. One that
fails removes its own entry before the failure is seen, so the next request starts anew; the entry
of one that went away is removed by a request that waits for it. To remove an entry takes two steps:
a look whether it is still the own one, and then the removal of whatever entry the name has.

The cache is a machine whose steps are those of requests and constructions. They may come in any
order; `settle` does all that is left to do, in the order in which the constructions were started.
-/
namespace TokenTheme

/-- How far a construction has come. -/
inductive Stage where
  /-- It was started and has done nothing yet. -/
  | started
  /-- It is loading the definition, with so many loads before it. -/
  | loading (count : Nat)
  /-- It has a definition and a library to compile it by. -/
  | ready (definition : Definition) (library : Regex.Library)
  /-- It failed and has looked whether the entry of its name is its own. If so it removes that next. -/
  | failing (error : Error) (owned : Bool)
  /-- It failed and is done with its entry, but nobody has been told. -/
  | failed (error : Error)
  | done (result : Except Error Provider)
  | gone

structure Construction where
  scopeName : String
  stage : Stage

structure Provided where
  number : Nat
  provider : Provider

abbrev Reply := Except Error Provided

/-- A request that was made, with the number of the construction that it found or started, and with
its answer once it has one. -/
structure Request where
  scopeName : String
  number : Nat
  reply : Option Reply

/-- Providers by scope name, built or being built. -/
structure Cache where
  source : Source
  compiler : Compiler
  engine : Regex.Engine
  options : Options
  /-- The number of the construction of each entry. -/
  entries : List (String × Nat) := []
  constructions : List Construction := []
  loads : Nat := 0
  compiled : Nat := 0
  /-- What was worth telling, the last first. -/
  log : List LogEntry := []

namespace Cache

def contains (c : Cache) (scopeName : String) : Bool := (c.entries.lookup scopeName).isSome

def length (c : Cache) : Nat := c.entries.length

def isEmpty (c : Cache) : Bool := c.entries.isEmpty

def tell (c : Cache) (entries : List LogEntry) : Cache :=
  { c with log := entries.reverse ++ c.log }

def setStage (c : Cache) (number : Nat) (stage : Stage) : Cache :=
  { c with constructions := c.constructions.modify number ({ · with stage }) }

def owns (c : Cache) (scopeName : String) (number : Nat) : Bool :=
  c.entries.lookup scopeName == some number

/-- Removes the entry of a scope name, whichever it is. -/
def remove (c : Cache) (scopeName : String) : Cache :=
  { c with entries := c.entries.filter (·.1 ≠ scopeName) }

/-- Looks whether the entry of a scope name is that of the given construction, and removes it then if
nothing happens in between. -/
def forget (c : Cache) (scopeName : String) (number : Nat) : Cache :=
  if c.owns scopeName number then c.remove scopeName else c

/-! ### Steps of requests -/

/-- A request is made: it finds the construction of an entry, or starts one with an entry. -/
def request (c : Cache) (scopeName : String) : Nat × Cache :=
  match c.entries.lookup scopeName with
  | some number => (number, c.tell [.providerShared scopeName])
  | none =>
    let number := c.constructions.length
    (number, { c.tell [.providerStarted scopeName] with
      entries := (scopeName, number) :: c.entries
      constructions := c.constructions ++ [⟨scopeName, .started⟩] })

/-- A request that waits for a construction is answered, if that has ended. -/
def answer (c : Cache) (scopeName : String) (number : Nat) : Option Reply × Cache :=
  match c.constructions[number]? with
  | some ⟨_, .done result⟩ => (some (result.map (⟨number, ·⟩)), c)
  | some ⟨_, .gone⟩ =>
    (some (.error (.constructionAborted scopeName)), c.forget scopeName number)
  | _ => (none, c)

/-! ### Steps of constructions -/

def begin (c : Cache) (number : Nat) : Cache :=
  match c.constructions[number]? with
  | some ⟨_, .started⟩ =>
    { c.setStage number (.loading c.loads) with loads := c.loads + 1 }
  | _ => c

/-- A construction has a result. A provider is there for everybody; after a failure the entry is
looked for, and it is removed before the failure is told. -/
def publish (c : Cache) (scopeName : String) (number : Nat) : Except Error Provider → Cache
  | .ok p => (c.tell [.providerReady scopeName]).setStage number (.done (.ok p))
  | .error e =>
    (c.tell [.providerFailed scopeName e]).setStage number (.failing e (c.owns scopeName number))

/-- The load of a construction has ended. If there is a definition, the engine is made ready. -/
def prepare (c : Cache) (number : Nat) : Cache :=
  match c.constructions[number]? with
  | some ⟨scopeName, .loading count⟩ =>
    match c.source.load count scopeName with
    | .error e => c.publish scopeName number (.error e)
    | .ok d =>
      let (library, engine) := c.engine.ready
      let c := { c.tell c.engine.log with engine }
      match library with
      | .error e => c.publish scopeName number (.error e)
      | .ok library => c.setStage number (.ready d library)
  | _ => c

def compile (c : Cache) (number : Nat) : Cache :=
  match c.constructions[number]? with
  | some ⟨scopeName, .ready d library⟩ =>
    let c := if c.compiler.counts d then { c with compiled := c.compiled + 1 } else c
    match c.compiler.compile number library d with
    | .done result => c.publish scopeName number (result.map (⟨·, c.options⟩))
    | .gone => c.setStage number .gone
  | _ => c

def withdraw (c : Cache) (number : Nat) : Cache :=
  match c.constructions[number]? with
  | some ⟨scopeName, .failing e owned⟩ =>
    (if owned then c.remove scopeName else c).setStage number (.failed e)
  | _ => c

def announce (c : Cache) (number : Nat) : Cache :=
  match c.constructions[number]? with
  | some ⟨_, .failed e⟩ => c.setStage number (.done (.error e))
  | _ => c

def finish (c : Cache) (number : Nat) : Cache :=
  (((c.prepare number).compile number).withdraw number).announce number

def abort (c : Cache) (number : Nat) : Cache :=
  match c.constructions[number]? with
  | some ⟨_, .started⟩ | some ⟨_, .loading _⟩ | some ⟨_, .ready _ _⟩ => c.setStage number .gone
  | _ => c

/-! ### Whole requests -/

def numbers (c : Cache) : List Nat := List.range c.constructions.length

def beginAll (c : Cache) : Cache := c.numbers.foldl begin c

def settle (c : Cache) : Cache := c.numbers.foldl finish c.beginAll

/-- Requests are made one after the other. Each is answered at once if it finds a construction that
has ended, so the next one may already find the entry of an aborted construction gone. -/
def requestAll (c : Cache) : List String → List Request × Cache
  | [] => ([], c)
  | scopeName :: rest =>
    let (number, c) := c.request scopeName
    let (reply, c) := c.answer scopeName number
    let (requests, c) := c.requestAll rest
    (⟨scopeName, number, reply⟩ :: requests, c)

/-- Requests that still wait are answered one after the other, those that can be. -/
def answerAll (c : Cache) : List Request → List Reply × Cache
  | [] => ([], c)
  | ⟨_, _, some reply⟩ :: rest =>
    let (replies, c) := c.answerAll rest
    (reply :: replies, c)
  | ⟨scopeName, number, none⟩ :: rest =>
    let (reply, c) := c.answer scopeName number
    let (replies, c) := c.answerAll rest
    (reply.toList ++ replies, c)

def getAll (c : Cache) (scopeNames : List String) : List Reply × Cache :=
  let (requests, c) := c.requestAll scopeNames
  c.settle.answerAll requests

/-- One request that waits for `limit` at most: its answer, if there is one by then, and the cache
at that time. A limit of nothing leaves only what is there already; a construction needs the time
of its load, and has ended before a limit that is longer than that. -/
def getWithin (c : Cache) (scopeName : String) (limit : Nat) : Option Reply × Cache :=
  let (number, c) := c.request scopeName
  match c.answer scopeName number with
  | (some reply, c) => (some reply, c)
  | (none, c) =>
    if limit = 0 then (none, c)
    else if limit ≤ c.source.delay then (none, c.beginAll)
    else c.settle.answer scopeName number

def load (c : Cache) (scopeName : String) : Except Error Definition × Cache :=
  (c.source.load c.loads scopeName, { c with loads := c.loads + 1 })

def describe (c : Cache) : String :=
  s!"TokensProviderCache \x7b providers: {c.length}, options: {c.options.describe}, " ++
    s!"regex: {c.engine.describe} \x7d"

end Cache

end TokenTheme
