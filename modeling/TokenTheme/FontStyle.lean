import TokenTheme.Json.Shape
import TokenTheme.Text.Blank
/-!
# Font styles

A font style is a set of flags, one bit each. Its text lists the names of flags between blanks, in
any order; other words in it say nothing.
-/
namespace TokenTheme

structure FontStyle where
  bits : UInt8
  deriving DecidableEq, Inhabited

namespace FontStyle

def empty : FontStyle := ⟨0⟩

def italic : FontStyle := ⟨1⟩

def bold : FontStyle := ⟨2⟩

def underline : FontStyle := ⟨4⟩

def strikethrough : FontStyle := ⟨8⟩

def ofBits (bits : UInt8) : FontStyle := ⟨bits &&& 15⟩

def isEmpty (s : FontStyle) : Bool := s.bits == 0

def contains (s t : FontStyle) : Bool := (s.bits &&& t.bits) == t.bits

def insert (s t : FontStyle) : FontStyle := ⟨s.bits ||| t.bits⟩

/-- The flag that a word names; none for any other word. -/
def ofWord : String → FontStyle
  | "italic" => italic
  | "bold" => bold
  | "underline" => underline
  | "strikethrough" => strikethrough
  | _ => empty

def ofText (text : String) : FontStyle :=
  (Text.words text).foldl (fun s word => s.insert (ofWord word)) empty

/-- A font style as a record of its bits, of which any may be set. -/
def shape : Json.Shape FontStyle :=
  .record "FontStyle" empty [.of "bits" .required .byte fun bits _ => ⟨bits⟩]

end FontStyle

end TokenTheme
