import TokenTheme.Regex.Forward
import TokenTheme.Results
/-!
# Scanners

A scanner looks for several patterns at once. It tries them all at each place in turn, so of all
matches it finds the one from the first place; of those from the same place, the one of the pattern
that stands first. How the patterns match is up to the engine that made them.
-/
namespace TokenTheme.Regex

structure Match where
  index : Nat
  /-- The span of the match, then those of the groups. -/
  captures : List (Option Span)
  deriving DecidableEq, Inhabited

def Match.span (m : Match) : Span := (m.captures.head?.join).getD ⟨0, 0⟩

structure Scanner where
  patterns : List Pattern
  deriving Inhabited

namespace Scanner

/-- The scanner for the given patterns as an engine reads them, or the fault in the first one that
has any. -/
def ofTexts {ε : Type} (read : String → Except ε Pattern) (texts : List String) :
    Except ε Scanner :=
  Scanner.mk <$> texts.mapM read

theorem length_ofTexts {ε : Type} {read : String → Except ε Pattern} {texts : List String}
    {s : Scanner} (made : ofTexts read texts = .ok s) : s.patterns.length = texts.length := by
  obtain ⟨patterns, each, same⟩ := map_ok made
  rw [← same, length_of_mapM_ok each]

def empty : Scanner := ⟨[default]⟩

/-- The first pattern, counted from `index`, that matches at a place. -/
def firstAt (index : Nat) (patterns : List Pattern) (c : Text.Cursor) : Option Match :=
  match patterns with
  | [] => none
  | p :: rest =>
    match p.matchAt? c with
    | some captures => some ⟨index, captures⟩
    | none => firstAt (index + 1) rest c

def findFrom (s : Scanner) (c : Text.Cursor) : Option Match :=
  c.firstSome (firstAt 0 s.patterns)

/-- The first match that starts at byte `start` or after it. -/
def find (s : Scanner) (text : String) (start : Nat) : Option Match :=
  ((Text.Cursor.start text.toList).seek? start).bind s.findFrom

def describe (s : Scanner) : String := s!"OnigScanner({s.patterns.length} patterns)"

end Scanner

end TokenTheme.Regex
