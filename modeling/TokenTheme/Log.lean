import TokenTheme.Error
import TokenTheme.Text.Quoted
/-!
# Log entries

What is worth telling while themes change, providers are built and lines are tokenized.
-/
namespace TokenTheme

inductive LogEntry where
  /-- A rule's color that is no color. -/
  | ignoredColor (text : String) (error : Error)
  | themeSet (name : Option String) (listeners : Nat)
  | snapshotPublished (version rules colors : Nat)
  | engineStarting
  /-- A request found a provider that is built or being built. -/
  | providerShared (scopeName : String)
  | providerStarted (scopeName : String)
  | providerReady (scopeName : String)
  | providerFailed (scopeName : String) (error : Error)
  | lineFailed (scopeName : String) (error : Error)
  deriving DecidableEq, Inhabited

namespace LogEntry

def isWarning : LogEntry → Bool
  | .providerFailed .. | .lineFailed .. => true
  | _ => false

def text : LogEntry → String
  | .ignoredColor text error => s!"Ignoring theme color {Text.quoted text}: {error.message}"
  | .themeSet name listeners =>
    s!"Theme {Text.quotedOption name} set, notifying {listeners} listener(s)"
  | .snapshotPublished version rules colors =>
    s!"Published theme snapshot v{version} ({rules} rules, {colors} palette colors)"
  | .engineStarting => "Initializing regex engine"
  | .providerShared name => s!"Tokens provider for {name} found in cache or being built"
  | .providerStarted name => s!"Building tokens provider for {name}"
  | .providerReady name => s!"Tokens provider for {name} is ready"
  | .providerFailed name error =>
    s!"Failed to build the tokens provider for {name}: {error.message}"
  | .lineFailed name error =>
    s!"Failed to tokenize a line with {name}, using the default class: {error.message}"

def line (entry : LogEntry) : String :=
  (if entry.isWarning then "WARN " else "DEBUG ") ++ entry.text

end LogEntry

end TokenTheme
