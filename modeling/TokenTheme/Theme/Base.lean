import TokenTheme.Color
import TokenTheme.Theme.Rule
/-!
# Base palettes

The four palettes that a theme can build on, with their default colors and their rules.
-/
namespace TokenTheme

inductive Base where
  | light
  | dark
  | contrastDark
  | contrastLight
  deriving DecidableEq

namespace Base

instance : Inhabited Base := ⟨dark⟩

def table : List (String × Base) :=
  [("vs", light), ("vs-dark", dark), ("hc-black", contrastDark), ("hc-light", contrastLight)]

def name : Base → String
  | light => "vs"
  | dark => "vs-dark"
  | contrastDark => "hc-black"
  | contrastLight => "hc-light"

def shape : Json.Shape Base := .variant table

/-- The palette for a kind of theme, in small letters. -/
def ofLowerKind : String → Base
  | "light" | "vs" => light
  | "hc" | "hc-black" | "hcdark" | "hc-dark" | "highcontrast" => contrastDark
  | "hclight" | "hc-light" | "highcontrastlight" => contrastLight
  | _ => dark

/-- The palette for a kind of theme, whose letters may be of any case; dark for unknown kinds. -/
def ofKind (kind : String) : Base :=
  ofLowerKind (kind.map Char.toLower)

def foreground : Base → Color
  | light => .rgb 0x00 0x00 0x00
  | dark => .rgb 0xD4 0xD4 0xD4
  | contrastDark => .rgb 0xFF 0xFF 0xFF
  | contrastLight => .rgb 0x29 0x29 0x29

def background : Base → Color
  | light => .rgb 0xFF 0xFF 0xFE
  | dark => .rgb 0x1E 0x1E 0x1E
  | contrastDark => .rgb 0x00 0x00 0x00
  | contrastLight => .rgb 0xFF 0xFF 0xFF

def colored (token color : String) : Rule :=
  { token, foreground := some color }

def styled (token style : String) : Rule :=
  { token, fontStyle := some style }

def lightRules : List Rule := [
  colored "invalid" "cd3131", styled "emphasis" "italic", styled "strong" "bold",
  colored "variable" "001188", colored "variable.predefined" "4864AA",
  colored "constant" "dd0000", colored "comment" "008000", colored "number" "098658",
  colored "number.hex" "3030c0", colored "regexp" "800000", colored "annotation" "808080",
  colored "type" "008080", colored "delimiter" "000000", colored "tag" "800000",
  colored "metatag" "e00000", colored "key" "863B00", colored "attribute.name" "FF0000",
  colored "attribute.value" "0451A5", colored "string" "A31515", colored "keyword" "0000FF",
  colored "keyword.flow" "AF00DB", colored "operator.sql" "778899"]

def darkRules : List Rule := [
  colored "invalid" "f44747", styled "emphasis" "italic", styled "strong" "bold",
  colored "variable" "74B0DF", colored "variable.predefined" "4864AA",
  colored "variable.parameter" "9CDCFE", colored "constant" "569CD6", colored "comment" "608B4E",
  colored "number" "B5CEA8", colored "number.hex" "5BB498", colored "regexp" "B46695",
  colored "annotation" "cc6666", colored "type" "3DC9B0", colored "delimiter" "DCDCDC",
  colored "tag" "569CD6", colored "metatag" "DD6A6F", colored "key" "9CDCFE",
  colored "attribute.name" "9CDCFE", colored "attribute.value" "CE9178",
  colored "string" "CE9178", colored "keyword" "569CD6", colored "keyword.flow" "C586C0",
  colored "operator.sql" "778899"]

def contrastDarkRules : List Rule := [
  colored "invalid" "f44747", styled "emphasis" "italic", styled "strong" "bold",
  colored "variable" "1AEBFF", colored "variable.parameter" "9CDCFE", colored "constant" "569CD6",
  colored "comment" "008000", colored "number" "FFFFFF", colored "regexp" "C0C0C0",
  colored "annotation" "569CD6", colored "type" "3DC9B0", colored "delimiter" "FFFF00",
  colored "tag" "569CD6", colored "metatag" "1AEBFF", colored "key" "9CDCFE",
  colored "attribute.name" "569CD6", colored "attribute.value" "3FF23F",
  colored "string" "CE9178", colored "keyword" "569CD6", colored "keyword.flow" "C586C0"]

def contrastLightRules : List Rule := [
  colored "invalid" "B5200D", styled "emphasis" "italic", styled "strong" "bold",
  colored "variable" "264F70", colored "variable.predefined" "4864AA",
  colored "constant" "dd0000", colored "comment" "008000", colored "number" "098658",
  colored "number.hex" "3030c0", colored "regexp" "800000", colored "annotation" "808080",
  colored "type" "008080", colored "delimiter" "000000", colored "tag" "800000",
  colored "key" "863B00", colored "attribute.name" "264F78", colored "attribute.value" "0451A5",
  colored "string" "A31515", colored "keyword" "0000FF", colored "keyword.flow" "AF00DB"]

/-- The rules of a palette below its default rule. -/
def ownRules : Base → List Rule
  | light => lightRules
  | dark => darkRules
  | contrastDark => contrastDarkRules
  | contrastLight => contrastLightRules

def rules (b : Base) : List Rule :=
  { foreground := some b.foreground.toHex, background := some b.background.toHex } :: b.ownRules

end Base

end TokenTheme
