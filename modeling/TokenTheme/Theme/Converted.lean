import TokenTheme.Theme.Source
/-!
# Converted themes

Both forms of a theme come down to one: a list of rules, each for one class, in which an earlier
rule wins over a later one; the base palette; and the colors of the editor. Nothing is refused on
the way: what makes no sense is kept as it is or replaced by a default.
-/
namespace TokenTheme

structure Theme where
  base : Base
  inherit : Bool
  rules : List Rule
  colors : Dict String
  foreground : Color
  background : Color
  deriving DecidableEq

namespace Theme

/-- A color of the editor, under its full name or, failing that, its short one. -/
def editorColor (colors : Dict String) (name : String) : Option Color :=
  (colors.get? ("editor." ++ name) <|> colors.get? name).bind fun text =>
    (Color.ofHex text).toOption

def ofRules (base : Base) (inherit : Bool) (rules : List Rule) (colors : Dict Json) : Theme :=
  let colors := colors.filterMap Json.string?
  { base, inherit, rules, colors
    foreground := (editorColor colors "foreground").getD base.foreground
    background := (editorColor colors "background").getD base.background }

instance : Inhabited Theme := ⟨ofRules default false [] .empty⟩

/-- The rule that an entry makes for one class. -/
def ruleOf (settings : Settings) (token : String) : Rule where
  token := token
  foreground := Settings.ownColor settings.foreground
  background := Settings.ownColor settings.background
  fontStyle := settings.fontStyle

/-- The classes that an entry makes rules for: its scopes. An entry without scopes, or with texts
that hold none, is for the empty class; one that lists no text at all is for nothing. -/
def classesOf (entry : TokenColor) : List String :=
  match entry.scope with
  | none => [""]
  | some [] => []
  | some _ => if entry.selectors.isEmpty then [""] else entry.selectors

def rulesOf (entry : TokenColor) : List Rule :=
  (classesOf entry).map (ruleOf entry.settings)

def ofTokenColors (t : TokenColorTheme) : Theme :=
  ofRules ((t.kind.map Base.ofKind).getD default) false (t.tokenColors.flatMap rulesOf) t.colors

def ofEditor (t : EditorTheme) : Theme :=
  ofRules t.base t.inherit (if t.inherit then t.rules ++ t.base.rules else t.rules) t.colors

def ofSource : ThemeSource → Theme
  | .editor t => ofEditor t
  | .tokenColors t => ofTokenColors t

/-- The theme in the form of an editor theme. -/
def toJson (t : Theme) : Json :=
  .object [("base", .string t.base.name), ("inherit", .bool t.inherit),
    ("rules", .array (t.rules.map Rule.toJson)),
    ("colors", .ofDict (t.colors.filterMap (some ∘ .string)))]

end Theme

end TokenTheme
