import TokenTheme.Json.Shape
/-!
# Theme rules

A rule gives a style to one class. The rule of the empty class holds the defaults.
-/
namespace TokenTheme

/-- The style of one class; what is absent is left to other rules. -/
structure Rule where
  token : String := ""
  foreground : Option String := none
  background : Option String := none
  fontStyle : Option String := none
  deriving DecidableEq, Inhabited

namespace Rule

/-- A rule as a record. Of its style, values that are no strings count as absent. -/
def shape : Json.Shape Rule :=
  .record "ThemeRule" {} [
    .of "token" .optional .string fun token r => { r with token },
    .of "foreground" .optional .lenientString fun foreground r => { r with foreground },
    .of "background" .optional .lenientString fun background r => { r with background },
    .of "fontStyle" .optional .lenientString fun fontStyle r => { r with fontStyle }]

def member (name : String) : Option String → List (String × Json)
  | none => []
  | some text => [(name, .string text)]

def toJson (r : Rule) : Json :=
  .object (("token", .string r.token) :: member "foreground" r.foreground ++
    member "background" r.background ++ member "fontStyle" r.fontStyle)

end Rule

end TokenTheme
