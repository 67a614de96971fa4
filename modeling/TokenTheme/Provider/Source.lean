import TokenTheme.Grammar.Block
import TokenTheme.Theme.Source
/-!
# Where grammars come from

A source gives the definition of a grammar by its scope name, as a value that a compiler has yet to
make sense of.
-/
namespace TokenTheme

/-- The definition of a grammar under the scope name that was asked for. -/
structure Definition where
  scopeName : String
  raw : Json

namespace Definition

def ofText (scopeName text : String) : Except Error Definition :=
  ((Json.ofText text).mapError .ofStop).map (⟨scopeName, ·⟩)

/-- A definition from a file, which is read as a whole before it is looked at. -/
def ofFile (scopeName : String) : File → Except Error Definition
  | .missing => .error (.file .notFound)
  | .directory => .error (.file .isDirectory)
  | .bytes content =>
    match String.fromUTF8? ⟨content.toArray⟩ with
    | some text => ofText scopeName text
    | none => .error (.file .notText)

end Definition

structure Source where
  /-- The outcome of a load, given how many were made before it. -/
  load : Nat → String → Except Error Definition
  delay : Nat := 0

namespace Source

/-- Texts in memory, after some loads that fail. -/
def memory (texts : List (String × String)) (failures delay : Nat) : Source where
  load count scopeName :=
    if count < failures then .error (.file (.other "network unreachable"))
    else
      match texts.lookup scopeName with
      | some text => Definition.ofText scopeName text
      | none => .error (.unknownGrammar scopeName)
  delay := delay

def files (files : List (String × File)) : Source where
  load _ scopeName :=
    match files.lookup scopeName with
    | some file => Definition.ofFile scopeName file
    | none => .error (.unknownGrammar scopeName)

end Source

inductive Compilation where
  /-- A grammar, or the reason why there is none. -/
  | done (result : Except Error Grammar)
  | gone

structure Compiler where
  /-- The outcome for a definition, given the number of the construction that asks for it. -/
  compile : Nat → Regex.Library → Definition → Compilation
  /-- Whether the compiler itself looks at a definition; some are settled before it. -/
  counts : Definition → Bool := fun _ => true

/-- The grammar of a definition with patterns and blocks. Whatever is wrong with it is wrong with
the grammar of that scope name. -/
def BlockGrammar.ofDefinition (stateName : String) (library : Regex.Library) (d : Definition) :
    Except Error Grammar :=
  match BlockGrammar.ofJson library stateName d.raw with
  | .ok g => .ok g.toGrammar
  | .error (.invalidGrammar scopeName reason) => .error (.invalidGrammar scopeName reason)
  | .error e => .error (.invalidGrammar d.scopeName e.message)

def Compiler.blocks (stateName : String) : Compiler where
  compile _ library d := .done (BlockGrammar.ofDefinition stateName library d)

end TokenTheme
