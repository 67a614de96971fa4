import TokenTheme.Error
/-!
# Line states

What a grammar has to remember from one line to the next, such as a comment that goes on. Every
text starts in the initial state. Any other state is made by a grammar at the end of a line and
has a serial number: two states are equal when they are the very same one.
-/
namespace TokenTheme

inductive Memory where
  | block (rule : Nat)
  | name (name : String)
  | number (value : Nat)
  | text (value : String)
  deriving DecidableEq, Inhabited

inductive LineState where
  | initial
  | made (serial : Nat) (memory : Memory)
  deriving DecidableEq, Inhabited

namespace Memory

def block? : Memory → Option Nat
  | .block rule => some rule
  | _ => none

def name? : Memory → Option String
  | .name held => some held
  | _ => none

def number? : Memory → Option Nat
  | .number value => some value
  | _ => none

def text? : Memory → Option String
  | .text value => some value
  | _ => none

end Memory

namespace LineState

def isInitial : LineState → Bool
  | initial => true
  | made .. => false

/-- What the state remembers, if it is of the kind that `select` picks. -/
def get? {α : Type} (select : Memory → Option α) : LineState → Option α
  | initial => none
  | made _ memory => select memory

/-- What a grammar finds in a state: nothing in the initial one, its own memory, or else an error
that names the kind of memory that was expected. -/
def remembered {α : Type} (kind : String) (select : Memory → Option α) :
    LineState → Except Error (Option α)
  | initial => .ok none
  | made _ memory =>
    match select memory with
    | some a => .ok (some a)
    | none => .error (.foreignState ("expected a state of type " ++ kind))

def describeInitial : String := "StateStack(INITIAL)"

end LineState

/-- How a line ends: in the initial state, in the state that it began with, or in a new one. -/
inductive Ending where
  | initial
  | unchanged
  | made (memory : Memory)
  deriving DecidableEq, Inhabited

/-- The state after a line that began in `state`; a new one takes the given number. -/
def Ending.state (ending : Ending) (state : LineState) (serial : Nat) : LineState :=
  match ending with
  | initial => .initial
  | unchanged => state
  | made memory => .made serial memory

end TokenTheme
