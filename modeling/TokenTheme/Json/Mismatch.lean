import TokenTheme.Json.Basic
import TokenTheme.Json.Real
import TokenTheme.Text.Quoted
/-!
# Values of the wrong shape

Why a well-formed value was refused, and the wording of it.
-/
namespace TokenTheme.Json

inductive Found where
  | null
  | bool (value : Bool)
  | number (value : Number)
  | string (value : String)
  | sequence
  | map
  deriving DecidableEq, Inhabited

def found : Json → Found
  | .null => .null
  | .bool b => .bool b
  | .number n => .number n
  | .string s => .string s
  | .array _ => .sequence
  | .object _ => .map

def Found.text : Found → String
  | .null => "null"
  | .bool b => s!"boolean `{b}`"
  | .number (.integer i) => s!"integer `{i}`"
  | .number (.real bits) => s!"floating point `{Real.text bits}`"
  | .string s => "string " ++ Text.quoted s
  | .sequence => "sequence"
  | .map => "map"

inductive Expected where
  | string
  | bool
  | byte
  | sequence
  | map
  | unit
  | variant
  | variantName
  | record (name : String)
  deriving DecidableEq, Inhabited

def Expected.text : Expected → String
  | .string => "a string"
  | .bool => "a boolean"
  | .byte => "u8"
  | .sequence => "a sequence"
  | .map => "a map"
  | .unit => "unit"
  | .variant => "string or map"
  | .variantName => "variant identifier"
  | .record name => "struct " ++ name

inductive Mismatch where
  | kind (found : Found) (expected : Expected)
  | range (value : Int) (expected : Expected)
  /-- An object that names no variant, or more than one. -/
  | ambiguous
  | variant (name : String) (known : List String)
  /-- A record without a field that it needs. -/
  | missing (field : String)
  /-- A record with two values for a field. -/
  | duplicate (field : String)
  /-- An array that ends before the field at `index`. -/
  | short (index : Nat) (record : String) (fields : Nat)
  /-- An array with more items than the record has fields. -/
  | long (length : Nat)
  /-- A value that fits none of the shapes of a type. -/
  | shapeless (type : String)
  deriving DecidableEq, Inhabited

/-- The names of the variants of a type, the way a message lists them. -/
def knownVariants : List String → String
  | [] => "there are no variants"
  | [a] => s!"expected `{a}`"
  | [a, b] => s!"expected `{a}` or `{b}`"
  | names => "expected one of " ++ ", ".intercalate (names.map fun n => s!"`{n}`")

def Mismatch.message : Mismatch → String
  | .kind found expected => s!"invalid type: {found.text}, expected {expected.text}"
  | .range value expected => s!"invalid value: integer `{value}`, expected {expected.text}"
  | .ambiguous => "invalid value: map, expected map with a single key"
  | .variant name known => s!"unknown variant `{name}`, {knownVariants known}"
  | .missing field => s!"missing field `{field}`"
  | .duplicate field => s!"duplicate field `{field}`"
  | .short index record fields =>
    s!"invalid length {index}, expected struct {record} with {fields} " ++
      if fields = 1 then "element" else "elements"
  | .long length => s!"invalid length {length}, expected fewer elements in array"
  | .shapeless type => "data did not match any variant of untagged enum " ++ type

end TokenTheme.Json
