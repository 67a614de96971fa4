import TokenTheme.Json.Shape
/-!
# Options of a provider

How tokens get their classes: by their scopes, or by packed attributes and the color in them.
-/
namespace TokenTheme

inductive Mode where
  /-- By its scopes, among the classes that the theme knows. -/
  | scopes
  /-- By its packed attributes, of which the foreground is traced back to a class. -/
  | encoded
  deriving DecidableEq, Inhabited

structure Options where
  mode : Mode := .scopes
  /-- The language written into packed attributes. -/
  language : UInt8 := 0
  /-- Whether a token has its innermost scope as class where there is no theme. -/
  fallback : Bool := true
  deriving DecidableEq, Inhabited

def Mode.table : List (String × Mode) :=
  [("scopes", .scopes), ("encoded", .encoded)]

def Mode.name : Mode → String
  | .scopes => "scopes"
  | .encoded => "encoded"

namespace Options

/-- Options as a record whose fields may all be left out. -/
def shape : Json.Shape Options :=
  .record "ProviderOptions" {} [
    .of "mode" .optional (.variant Mode.table) fun mode o => { o with mode },
    .of "languageId" .optional .byte fun language o => { o with language },
    .of "fallbackToInnermostScope" .optional .bool fun fallback o => { o with fallback }]

def toJson (o : Options) : Json :=
  .object [("mode", .string o.mode.name), ("languageId", .ofNat o.language.toNat),
    ("fallbackToInnermostScope", .bool o.fallback)]

def describe (o : Options) : String :=
  let mode := match o.mode with
    | .scopes => "Scopes"
    | .encoded => "Encoded"
  s!"ProviderOptions \x7b mode: {mode}, language_id: {o.language}, " ++
    s!"fallback_to_innermost_scope: {o.fallback} \x7d"

end Options

end TokenTheme
