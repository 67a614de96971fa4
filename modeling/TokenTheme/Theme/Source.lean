import TokenTheme.Error
import TokenTheme.Theme.Base
import TokenTheme.Text.Blank
/-!
# Themes as they are written

A theme is written in one of two forms. An editor theme names its base palette and lists rules,
each for one class. A token color theme lists entries that give settings to any number of scopes.
Which form a text has is seen from its shape.
-/
namespace TokenTheme

structure Settings where
  foreground : Option String := none
  background : Option String := none
  fontStyle : Option String := none
  deriving DecidableEq, Inhabited

namespace Settings

def shape : Json.Shape Settings :=
  .record "TokenColorSettings" {} [
    .of "foreground" .optional .lenientString fun foreground s => { s with foreground },
    .of "background" .optional .lenientString fun background s => { s with background },
    .of "fontStyle" .optional .lenientString fun fontStyle s => { s with fontStyle }]

/-- The color that a text sets; the word for taking over the color around it sets none. -/
def ownColor (text : Option String) : Option String :=
  text.filter (· ≠ "inherit")

end Settings

structure TokenColor where
  name : Option String := none
  /-- The scopes as they are listed; an entry without them holds default settings. -/
  scope : Option (List String) := none
  settings : Settings := {}
  deriving DecidableEq, Inhabited

namespace TokenColor

/-- The scopes that a value lists: a string is one, items that are no strings are dropped, and
values of other kinds list none. -/
def scopesOf : Json → Option (List String)
  | .null => none
  | .string s => some [s]
  | .array items => some (items.filterMap Json.string?)
  | _ => some []

def shape : Json.Shape TokenColor :=
  .record "TokenColorRule" {} [
    .of "name" .optional .lenientString fun name t => { t with name },
    .of "scope" .optional (.map scopesOf .any) fun scope t => { t with scope },
    .of "settings" .optional Settings.shape fun settings t => { t with settings }]

def split (listed : String) : List String :=
  ((listed.toList.splitOn ',').map Text.trim).filter (!·.isEmpty) |>.map String.ofList

def selectors (t : TokenColor) : List String :=
  (t.scope.getD []).flatMap split

end TokenColor

/-- A theme that gives settings to scopes. -/
structure TokenColorTheme where
  name : Option String := none
  kind : Option String := none
  colors : Dict Json := .empty
  tokenColors : List TokenColor := []
  deriving Inhabited

def TokenColorTheme.shape : Json.Shape TokenColorTheme :=
  .record "TextMateTheme" {} [
    .of "name" .optional (.nullable .string) fun name t => { t with name },
    .of "type" .optional (.nullable .string) fun kind t => { t with kind },
    .of "colors" .optional (.dict .any) fun colors t => { t with colors },
    .of "tokenColors" .required (.list TokenColor.shape) fun tokenColors t =>
      { t with tokenColors }]

structure EditorTheme where
  base : Base := default
  /-- Whether the rules of the base palette apply below its own. -/
  inherit : Bool := false
  rules : List Rule := []
  colors : Dict Json := .empty
  deriving Inhabited

def EditorTheme.shape : Json.Shape EditorTheme :=
  .record "StandaloneThemeData" {} [
    .of "base" .required Base.shape fun base t => { t with base },
    .of "inherit" .required .bool fun inherit t => { t with inherit },
    .of "rules" .required (.list Rule.shape) fun rules t => { t with rules },
    .of "colors" .optional (.dict .any) fun colors t => { t with colors }]

inductive File where
  | missing
  | directory
  | bytes (content : List UInt8)
  deriving DecidableEq, Inhabited

inductive ThemeSource where
  | editor (theme : EditorTheme)
  | tokenColors (theme : TokenColorTheme)
  deriving Inhabited

namespace ThemeSource

def name : ThemeSource → Option String
  | editor _ => none
  | tokenColors theme => theme.name

/-- The form that fits a value; where both do, it is an editor theme. -/
def decode (j : Json) : Except Json.Mismatch ThemeSource :=
  match EditorTheme.shape.decode j with
  | .ok theme => .ok (editor theme)
  | .error _ =>
    match TokenColorTheme.shape.decode j with
    | .ok theme => .ok (tokenColors theme)
    | .error _ => .error (.shapeless "ThemeInput")

def ofJson (j : Json) : Except Error ThemeSource :=
  (decode j).mapError .ofMismatch

/-- The theme of a text given as bytes. The whole value is read before its form is looked at, and
what follows it after that. -/
def ofBytes (bytes : List UInt8) : Except Error ThemeSource := do
  let (j, rest) ← ((Json.Reader.value Json.maxDepth).run bytes).mapError .ofStop
  let theme ← ofJson j
  let _ ← (Json.Reader.finish.run rest).mapError Error.ofStop
  return theme

def ofText (text : String) : Except Error ThemeSource :=
  ofBytes text.toUTF8.toList

/-- The theme in a file, which is opened before it is read. -/
def ofFile : File → Except Error ThemeSource
  | .missing => .error (.file .notFound)
  | .directory => .error (.json (.unreadable .isDirectory))
  | .bytes content => ofBytes content

end ThemeSource

end TokenTheme
