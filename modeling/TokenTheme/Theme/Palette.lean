import TokenTheme.Attributes
import TokenTheme.Color
import TokenTheme.Log
import TokenTheme.Theme.Rule
/-!
# Palettes and the classes of colors

The colors of a list of rules are numbered in the order in which they first appear, from 1 on.
Number 0 is never a color: it stands for the default. A second table leads back from a color to
the class of the first rule that has it as foreground. A text that is no color is passed over.
-/
namespace TokenTheme

namespace Rule

/-- The color of a text, if it is one. -/
def colorOf (text : Option String) : Option Color :=
  text.bind fun text => (Color.ofHex text).toOption

def colors (r : Rule) : List Color :=
  [r.foreground, r.background].filterMap colorOf

/-- The entry for a text that is no color. -/
def ignored (text : Option String) : Option LogEntry :=
  match text with
  | none => none
  | some text =>
    match Color.ofHex text with
    | .ok _ => none
    | .error error => some (.ignoredColor text error)

end Rule

structure Palette where
  /-- The color of each number. -/
  slots : List (Option Color)
  deriving DecidableEq

namespace Palette

def empty : Palette := ⟨[]⟩

/-- Gives a color the next number, unless it has one. -/
def insert (p : Palette) (c : Color) : Palette :=
  if some c ∈ p.slots then p else ⟨p.slots ++ [some c]⟩

def ofRules (rules : List Rule) : Palette :=
  (rules.flatMap Rule.colors).foldl insert ⟨[none]⟩

def get? (p : Palette) (id : Nat) : Option Color :=
  p.slots[id]?.join

/-- The foreground of a token; none if it is the default or has no such number. -/
def foreground? (p : Palette) (a : Attributes) : Option Color :=
  p.get? a.foreground.toNat

def idOf? (p : Palette) (c : Color) : Option Nat :=
  p.slots.idxOf? (some c)

/-- How many numbers there are, with the one for the default. -/
def length (p : Palette) : Nat := p.slots.length

def isEmpty (p : Palette) : Bool := p.length ≤ 1

def colors (p : Palette) : List Color := p.slots.filterMap id

/-- The entries for the texts of rules that take no number. -/
def ignored (rules : List Rule) : List LogEntry :=
  rules.flatMap fun r => [r.foreground, r.background].filterMap Rule.ignored

end Palette

structure ClassMap where
  entries : List (Color × String)
  deriving DecidableEq

namespace ClassMap

def empty : ClassMap := ⟨[]⟩

def get? (m : ClassMap) (c : Color) : Option String := m.entries.lookup c

/-- Gives a color to a class, unless another has it. -/
def claim (m : ClassMap) (c : Color) (token : String) : ClassMap :=
  match m.get? c with
  | some _ => m
  | none => ⟨m.entries ++ [(c, token)]⟩

/-- The map in which each color belongs to the class of the first rule that has it as foreground. -/
def ofRules (rules : List Rule) : ClassMap :=
  rules.foldl (fun m r =>
    match Rule.colorOf r.foreground with
    | some c => m.claim c r.token
    | none => m) empty

def ofText? (m : ClassMap) (text : String) : Option String :=
  (Rule.colorOf (some text)).bind m.get?

def length (m : ClassMap) : Nat := m.entries.length

def isEmpty (m : ClassMap) : Bool := m.entries.isEmpty

/-- The entries for the foregrounds of rules that are no colors. -/
def ignored (rules : List Rule) : List LogEntry :=
  rules.filterMap fun r => Rule.ignored r.foreground

end ClassMap

end TokenTheme
