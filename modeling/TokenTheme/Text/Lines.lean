/-!
# Lines

A line ends at a line feed, or at a carriage return followed by one; the end of the text ends the
last line, unless nothing follows the last line feed.
-/
namespace TokenTheme.Text

/-- A line given last character first, without the carriage return of its terminator. -/
def closeLine : List Char → List Char
  | '\r' :: line => line.reverse
  | line => line.reverse

/-- The lines of the rest of a text; `line` holds the current one so far, last character first. -/
def linesFrom (line : List Char) : List Char → List (List Char)
  | [] => if line.isEmpty then [] else [line.reverse]
  | c :: rest =>
    if c = '\n' then closeLine line :: linesFrom [] rest else linesFrom (c :: line) rest

def lines (s : String) : List String :=
  (linesFrom [] s.toList).map String.ofList

end TokenTheme.Text
