import TokenTheme.Json.Basic
import TokenTheme.Json.Real
import TokenTheme.Text.Hex
/-!
# Writing JSON text

A value is written without blanks. Quotes, backslashes and controls in strings are escaped; every
other character stands for itself.
-/
namespace TokenTheme.Json

def escapeChar (c : Char) : String :=
  if c = '"' then "\\\""
  else if c = '\\' then "\\\\"
  else if c = '\n' then "\\n"
  else if c = '\r' then "\\r"
  else if c = '\t' then "\\t"
  else if c.toNat < 0x10 then "\\u000" ++ Text.hexText c.toNat
  else if c.toNat < 0x20 then "\\u00" ++ Text.hexText c.toNat
  else c.toString

def writeString (s : String) : String :=
  "\"" ++ String.join (s.toList.map escapeChar) ++ "\""

def Number.text : Number → String
  | .integer i => toString i
  | .real bits => Real.text bits

mutual

def write : Json → String
  | .null => "null"
  | .bool b => toString b
  | .number n => n.text
  | .string s => writeString s
  | .array items => "[" ++ ",".intercalate (writeItems items) ++ "]"
  | .object members => "\x7b" ++ ",".intercalate (writeMembers members) ++ "\x7d"

def writeItems : List Json → List String
  | [] => []
  | item :: rest => write item :: writeItems rest

def writeMembers : List (String × Json) → List String
  | [] => []
  | (name, value) :: rest => (writeString name ++ ":" ++ write value) :: writeMembers rest

end

end TokenTheme.Json
