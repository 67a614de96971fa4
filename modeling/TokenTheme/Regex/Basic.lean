import TokenTheme.Regex.Case
import TokenTheme.Regex.Property
import TokenTheme.Text.Blank
/-!
# Regular expressions

The expressions that patterns stand for, and the sets of characters in them.
-/
namespace TokenTheme

namespace Regex

inductive CharSet where
  | none
  | range (low high : Char)
  | digit
  | space
  | word
  /-- Word characters outside of brackets. -/
  | wordAlone
  | union (s t : CharSet)
  | inter (s t : CharSet)
  | compl (s : CharSet)
  /-- The characters that are the same as a member up to case. -/
  | fold (s : CharSet)
  deriving DecidableEq, Inhabited

namespace CharSet

def has : CharSet → Char → Bool
  | none, _ => false
  | range low high, c => low ≤ c && c ≤ high
  | digit, c => isDigit c
  | space, c => Text.isBlank c
  | word, c => isWord c
  | wordAlone, c => isWordOrNumber c
  | union s t, c => s.has c || t.has c
  | inter s t, c => s.has c && t.has c
  | compl s, c => !s.has c
  | fold s, c => (variants c).any s.has

def single (c : Char) : CharSet := range c c

end CharSet

inductive Place where
  | textStart
  | textEnd
  /-- The end, or before a line feed at the end. -/
  | lastLineEnd
  | lineStart
  | lineEnd
  /-- Between a word character and one that is none, or not there. -/
  | wordEdge
  | noWordEdge
  deriving DecidableEq, Inhabited

end Regex

inductive Regex where
  | empty
  | set (s : Regex.CharSet)
  | seq (a b : Regex)
  /-- The first that leads to a match. -/
  | alt (a b : Regex)
  /-- What is matched is kept under a number. -/
  | group (number : Nat) (r : Regex)
  /-- So many times in a row. -/
  | times (count : Nat) (r : Regex)
  /-- At most so many times in a row; as often as possible, or as rarely as possible. -/
  | upTo (count : Nat) (greedy : Bool) (r : Regex)
  /-- Any number of times in a row. -/
  | star (greedy : Bool) (r : Regex)
  /-- Matched in the first way that fits, and no other. -/
  | atomic (r : Regex)
  /-- Whether the text from here on starts with a match must be as wanted. -/
  | ahead (wanted : Bool) (r : Regex)
  /-- Whether the text up to here ends with a match must be as wanted. -/
  | behind (wanted : Bool) (r : Regex)
  /-- The text of a group once more, up to case if so said. -/
  | again (fold : Bool) (number : Nat)
  | place (p : Regex.Place)
  /-- The match is taken to begin here. -/
  | keep
  deriving DecidableEq, Inhabited

namespace Regex

/-- Whether an expression only says something about a place. -/
def isPlace : Regex → Bool
  | place _ | ahead .. | behind .. | keep => true
  | _ => false

/-- From `low` to `high` times, or without an upper bound. -/
def between (low : Nat) (high : Option Nat) (greedy : Bool) (r : Regex) : Regex :=
  match high with
  | none => seq (times low r) (star greedy r)
  | some high => seq (times low r) (upTo (high - low) greedy r)

/-- The largest group number that is asked for again. -/
def againBound : Regex → Nat
  | again _ number => number
  | seq a b | alt a b => max a.againBound b.againBound
  | group _ r | times _ r | upTo _ _ r | star _ r | atomic r | ahead _ r | behind _ r =>
    r.againBound
  | empty | set _ | place _ | keep => 0

end Regex

end TokenTheme
