import TokenTheme.Theme.Source
/-!
# Samples

A dark theme, a theme for strings alone, and the definitions of two small grammars: one for
scripts with functions, strings and comments, one for data.
-/
namespace TokenTheme.Sample

def entry (scope : Option String) (settings : Settings) : TokenColor :=
  { scope := scope.map ([·]), settings }

def colored (scope color : String) : TokenColor :=
  entry (some scope) { foreground := some color }

def darkTheme : ThemeSource := .tokenColors
  { name := some "Dark+ (sample)"
    kind := some "dark"
    colors := .ofList [
      ("editor.foreground", .string "#D4D4D4"), ("editor.background", .string "#1E1E1E")]
    tokenColors := [
      entry none { foreground := some "#D4D4D4", background := some "#1E1E1E" },
      entry (some "comment") { foreground := some "#6A9955", fontStyle := some "italic" },
      colored "string" "#CE9178",
      colored "keyword.control" "#C586C0",
      colored "storage.type.function" "#569CD6",
      colored "storage.type" "#569CD6",
      colored "variable.parameter" "#9CDCFE",
      colored "variable" "#9CDCFE",
      colored "entity.name.function" "#DCDCAA",
      colored "constant.numeric" "#B5CEA8"] }

def stringTheme (color : String) : ThemeSource := .tokenColors
  { name := some "strings only", tokenColors := [colored "string" color] }

def rule (pattern name : String) : Json :=
  .object [("match", .string pattern), ("name", .string name)]

def block (opening closing name : String) : Json :=
  .object [("begin", .string opening), ("end", .string closing), ("name", .string name)]

def grammar (scopeName : String) (rules : List Json) : Json :=
  .object [("patterns", .array rules), ("scopeName", .string scopeName)]

/-- A grammar for scripts: function declarations, strings and comments. -/
def scriptGrammar : Json := grammar "source.ts" [
  block "/\\*" "\\*/" "comment.block.ts",
  rule "//.*$" "comment.line.double-slash.ts",
  rule "\\bfunction\\b" "meta.function.ts storage.type.function.ts",
  rule "\\breturn\\b" "keyword.control.flow.ts",
  rule "\"[^\"]*\"" "string.quoted.double.ts",
  rule "[()\x7b\x7d]" "meta.brace.ts",
  rule "[A-Za-z_$][\\w$]*" "variable.other.readwrite.ts"]

/-- A grammar for data: strings and numbers. -/
def dataGrammar : Json := grammar "source.json" [
  rule "\"[^\"]*\"" "string.quoted.double.json",
  rule "-?\\d+" "constant.numeric.json"]

end TokenTheme.Sample
