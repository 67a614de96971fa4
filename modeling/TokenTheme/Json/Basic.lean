import TokenTheme.Dict
/-!
# JSON values

A value keeps the members of its objects as they were written. `collect` brings it into the form
in which each name stands once, with its last value, and names ascend; two values that say the
same then are equal.
-/
namespace TokenTheme

namespace Json

/-- A number: a 64-bit integer, signed or not, or a double given by its bits. -/
inductive Number where
  | integer (value : Int)
  | real (bits : UInt64)
  deriving DecidableEq, Inhabited, Repr

end Json

inductive Json where
  | null
  | bool (value : Bool)
  | number (value : Json.Number)
  | string (value : String)
  | array (items : List Json)
  | object (members : List (String × Json))
  deriving Inhabited, BEq, Repr

namespace Json

def ofDict (d : Dict Json) : Json :=
  .object d.entries

def ofInt (i : Int) : Json :=
  .number (.integer i)

def ofNat (n : Nat) : Json :=
  .number (.integer n)

def ofOption : Option Json → Json
  | none => .null
  | some j => j

mutual

/-- Each name once, with its last value, names ascending, at every depth. -/
def collect : Json → Json
  | .array items => .array (collectItems items)
  | .object members => ofDict (collectMembers members .empty)
  | .null => .null
  | .bool b => .bool b
  | .number n => .number n
  | .string s => .string s

def collectItems : List Json → List Json
  | [] => []
  | item :: rest => collect item :: collectItems rest

def collectMembers : List (String × Json) → Dict Json → Dict Json
  | [], d => d
  | (name, value) :: rest, d => collectMembers rest (d.insert name (collect value))

end

def string? : Json → Option String
  | .string s => some s
  | _ => none

def items? : Json → Option (List Json)
  | .array items => some items
  | _ => none

def members? : Json → Option (List (String × Json))
  | .object members => some members
  | _ => none

def get? (j : Json) (name : String) : Option Json :=
  j.members?.bind (·.lookup name)

end Json

end TokenTheme
