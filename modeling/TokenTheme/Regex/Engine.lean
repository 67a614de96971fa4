import TokenTheme.Log
import TokenTheme.Regex.Scanner
/-!
# The regex engine

An engine is set up when it is first asked for, and then kept. Setting it up may fail; the next
one who asks tries again.
-/
namespace TokenTheme.Regex

/-- What makes scanners. A scanner has a pattern for each text. -/
structure Library where
  scanner : List String → Except Error Scanner
  length_eq : ∀ {texts s}, scanner texts = .ok s → s.patterns.length = texts.length

namespace Library

/-- The wording of a fault in one of several patterns. -/
def refusal (count : Nat) (e : PatternError) : String :=
  s!"Failed to compile pattern set with {count} patterns: Error(OnigError({e.code}), {e.message})"

/-- The library of an engine that reads patterns in the given way. -/
def ofReader (read : String → Except PatternError Pattern) : Library where
  scanner texts := (Scanner.ofTexts read texts).mapError fun e =>
    .invalidPattern (refusal texts.length e)
  length_eq {texts s} made := by
    cases given : Scanner.ofTexts read texts with
    | error e =>
      rw [given] at made
      cases made
    | ok s' =>
      rw [given] at made
      cases made
      exact Scanner.length_ofTexts given

def standard : Library := ofReader Pattern.ofText

end Library

/-- An engine and its library, once there is one. -/
structure Engine where
  /-- The outcome of each attempt at setting it up, counted from 0. -/
  setUp : Nat → Except Error Library
  library : Option Library := none
  attempts : Nat := 0

namespace Engine

def standard : Engine := { setUp := fun _ => .ok .standard }

def isReady (e : Engine) : Bool := e.library.isSome

/-- The library, after an attempt at setting it up if there is none yet. -/
def ready (e : Engine) : Except Error Library × Engine :=
  match e.library with
  | some library => (.ok library, e)
  | none =>
    match e.setUp e.attempts with
    | .ok library => (.ok library, { e with library := some library, attempts := e.attempts + 1 })
    | .error error => (.error error, { e with attempts := e.attempts + 1 })

def log (e : Engine) : List LogEntry :=
  if e.isReady then [] else [.engineStarting]

def describe (e : Engine) : String := s!"RegexRuntime \x7b ready: {e.isReady} \x7d"

end Engine

end TokenTheme.Regex
