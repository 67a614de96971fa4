import TokenTheme.Regex.Pattern
import TokenTheme.Text.Cursor
/-!
# Matching

A match is sought by going through an expression and asking, at each choice, whether the rest can
go on from there; the first way that leads to the end is the match. The rest is a continuation,
so an expression is matched by recursion on it alone.
-/
namespace TokenTheme

structure Span where
  start : Nat
  stop : Nat
  deriving DecidableEq, Inhabited

namespace Regex

/-- How far a match has come: the place, the place where it is taken to begin, and the groups matched
so far as pairs of places. -/
structure Progress where
  cursor : Text.Cursor
  kept : Text.Cursor
  groups : List (Option (Text.Cursor × Text.Cursor))
  deriving DecidableEq, Inhabited

abbrev Continuation := Progress → Option Progress

def wordAfter (c : Text.Cursor) : Bool :=
  match c.after with
  | x :: _ => isWordOrNumber x
  | [] => false

/-- Whether a word character comes last. -/
def wordBefore (c : Text.Cursor) : Bool :=
  match c.before with
  | x :: _ => isWordOrNumber x
  | [] => false

/-- Whether a condition holds at a place. A line starts at the start of the text and after a line
feed that does not end the text; it ends before a line feed and at the end of the text. -/
def Place.holds (p : Place) (c : Text.Cursor) : Bool :=
  match p with
  | .textStart => c.before.isEmpty
  | .textEnd => c.after.isEmpty
  | .lastLineEnd => c.after.isEmpty || c.after == ['\n']
  | .lineStart => c.before.isEmpty || (c.before.head? == some '\n' && !c.after.isEmpty)
  | .lineEnd => c.after.isEmpty || c.after.head? == some '\n'
  | .wordEdge => wordBefore c != wordAfter c
  | .noWordEdge => wordBefore c == wordAfter c

def pass (fold : Bool) : List Char → Text.Cursor → Option Text.Cursor
  | [], c => some c
  | x :: rest, c =>
    match c.next? with
    | some (y, d) => if (if fold then sameLetter x y else x == y) then pass fold rest d else none
    | none => none

/-- What matches an expression from a place on, ahead of a continuation. -/
abbrev Matcher := Progress → Continuation → Option Progress

/-- One way or, failing that, the other; the second one first if `first` is false. -/
def either (first : Bool) (one other : Unit → Option Progress) : Option Progress :=
  if first then (one ()).orElse other else (other ()).orElse one

def exactly (body : Matcher) : Nat → Matcher
  | 0, p, k => k p
  | n + 1, p, k => body p fun q => exactly body n q k

def atMost (body : Matcher) (greedy : Bool) : Nat → Matcher
  | 0, p, k => k p
  | n + 1, p, k => either greedy (fun _ => body p fun q => atMost body greedy n q k) fun _ => k p

/-- Any number of times. A round that takes nothing is the last, so no more than `fuel` rounds are
needed, one more than there are characters left. -/
def many (body : Matcher) (greedy : Bool) : (fuel : Nat) → Matcher
  | 0, p, k => k p
  | n + 1, p, k =>
    either greedy
      (fun _ => body p fun q =>
        if q.cursor.offset = p.cursor.offset then k q else many body greedy n q k)
      fun _ => k p

def exec : Regex → Matcher
  | .empty, p, k => k p
  | .set s, p, k =>
    match p.cursor.next? with
    | some (c, next) => if s.has c then k { p with cursor := next } else none
    | none => none
  | .seq a b, p, k => exec a p fun q => exec b q k
  | .alt a b, p, k => (exec a p k).orElse fun _ => exec b p k
  | .group number r, p, k =>
    exec r p fun q => k { q with groups := q.groups.set (number - 1) (some (p.cursor, q.cursor)) }
  | .times count r, p, k => exactly (exec r) count p k
  | .upTo count greedy r, p, k => atMost (exec r) greedy count p k
  | .star greedy r, p, k => many (exec r) greedy (p.cursor.after.length + 1) p k
  | .atomic r, p, k =>
    match exec r p some with
    | some q => k q
    | none => none
  | .ahead wanted r, p, k =>
    match exec r p some with
    | some q => if wanted then k { p with groups := q.groups } else none
    | none => if wanted then none else k p
  | .behind wanted r, p, k =>
    let ending (c : Text.Cursor) : Option Progress :=
      exec r { p with cursor := c } fun q =>
        if q.cursor.offset = p.cursor.offset then some q else none
    match p.cursor.lastSome ending with
    | some q => if wanted then k { p with groups := q.groups } else none
    | none => if wanted then none else k p
  | .again fold number, p, k =>
    match p.groups[number - 1]?.join with
    | some (start, stop) =>
      match pass fold (start.upTo stop) p.cursor with
      | some next => k { p with cursor := next }
      | none => none
    | none => none
  | .place condition, p, k => if condition.holds p.cursor then k p else none
  | .keep, p, k => k { p with kept := p.cursor }

def span (start stop : Text.Cursor) : Span := ⟨start.offset, stop.offset⟩

end Regex

end TokenTheme
