import TokenTheme.Text.Hex
import TokenTheme.Text.Unprintable
/-!
# Quoted text

The form in which messages and log lines show a text: between quotes, with quotes, backslashes and
the common controls behind a backslash and every hidden character by its code point.
-/
namespace TokenTheme.Text

def escape (c : Char) : String :=
  if c = '\x00' then "\\0"
  else if c = '\t' then "\\t"
  else if c = '\r' then "\\r"
  else if c = '\n' then "\\n"
  else if c = '\\' then "\\\\"
  else if c = '"' then "\\\""
  else if isHidden c then "\\u\x7b" ++ hexText c.toNat ++ "\x7d"
  else c.toString

def quoted (s : String) : String :=
  "\"" ++ String.join (s.toList.map escape) ++ "\""

/-- An optional text, shown with the word that says whether it is there. -/
def quotedOption : Option String → String
  | none => "None"
  | some s => "Some(" ++ quoted s ++ ")"

end TokenTheme.Text
