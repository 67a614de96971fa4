import TokenTheme.Regex.Basic
import TokenTheme.Text.Hex
/-!
# Patterns

The text of a regular expression and how it is read. Reading goes from left to right and stops at
the first fault. A setting in parentheses, such as the one for case, holds up to the end of the
group that it stands in, alternatives included.
-/
namespace TokenTheme.Regex

inductive PatternError where
  | endAtEscape
  | endInClass
  | emptyClass
  | endOfRangeIsSet
  | strayRange
  | nothingToRepeat
  | cannotRepeat
  | strayClose
  | unclosedGroup
  | endInGroup
  | unknownOption
  | tooManyRepeats
  | emptyRange
  | unknownGroup
  /-- Something that is not to be had here. -/
  | unsupported
  deriving DecidableEq, Inhabited

namespace PatternError

def code : PatternError → Int
  | unsupported => -2
  | endInClass => -103
  | emptyClass => -102
  | endAtEscape => -104
  | endOfRangeIsSet => -110
  | strayRange => -112
  | nothingToRepeat => -113
  | cannotRepeat => -114
  | strayClose => -116
  | unclosedGroup => -117
  | endInGroup => -118
  | unknownOption => -119
  | tooManyRepeats => -201
  | emptyRange => -203
  | unknownGroup => -208

def message : PatternError → String
  | unsupported => "no support in this configuration"
  | endInClass => "premature end of char-class"
  | emptyClass => "empty char-class"
  | endAtEscape => "end pattern at escape"
  | endOfRangeIsSet => "char-class value at end of range"
  | strayRange => "unmatched range specifier in char-class"
  | nothingToRepeat => "target of repeat operator is not specified"
  | cannotRepeat => "target of repeat operator is invalid"
  | strayClose => "unmatched close parenthesis"
  | unclosedGroup => "end pattern with unmatched parenthesis"
  | endInGroup => "end pattern in group"
  | unknownOption => "undefined group option"
  | tooManyRepeats => "too big number for repeat range"
  | emptyRange => "empty range in char class"
  | unknownGroup => "invalid backref number/name"

end PatternError

structure Unread where
  rest : List Char
  groups : Nat

abbrev PatternReader := StateT Unread (Except PatternError)

structure Settings where
  /-- Letters stand for both cases. -/
  fold : Bool := false
  /-- The dot stands for line feeds as well. -/
  dotAll : Bool := false
  /-- The text is only looked at, ahead or behind. -/
  aside : Bool := false

namespace PatternReader

def rest : PatternReader (List Char) := return (← get).rest

def setRest (rest : List Char) : PatternReader Unit :=
  modify fun u => { u with rest }

def next (atEnd : PatternError) : PatternReader Char := do
  match ← rest with
  | [] => throw atEnd
  | c :: cs =>
    setRest cs
    return c

/-- Whether the pattern goes on with the given text, which is then taken. -/
def eat (s : String) : PatternReader Bool := do
  let cs ← rest
  if s.toList.isPrefixOf cs then
    setRest (cs.drop s.length)
    return true
  return false

/-- The number of the digits at the front, and how many they are. -/
def decimal (s : List Char) : Nat × List Char :=
  let digits := s.takeWhile Char.isDigit
  (digits.foldl (fun n d => 10 * n + (d.toNat - 48)) 0, s.drop digits.length)

/-- The character of at most `count` digits to a base at the front, which are taken. -/
def coded (base count : Nat) : PatternReader Char := do
  let cs ← rest
  let digits := (cs.take count).takeWhile fun c => ((Text.hexValue? c).getD 16) < base
  setRest (cs.drop digits.length)
  return Char.ofNat (digits.foldl (fun n d => base * n + (Text.hexValue? d).getD 0) 0)

/-- Escapes that stand for characters by properties, names, codes of other forms or keys. -/
def otherEscapes : List Char := ['p', 'P', 'o', 'u', 'c', 'C', 'M']

/-- The character that an escape stands for, after its backslash and `c`. -/
def escapedChar (c : Char) : PatternReader Char := do
  if otherEscapes.contains c then throw .unsupported
  match c with
  | 't' => return '\t'
  | 'n' => return '\n'
  | 'r' => return '\r'
  | 'f' => return '\x0c'
  | 'v' => return '\x0b'
  | 'a' => return '\x07'
  | 'e' => return '\x1b'
  | 'x' =>
    if (← rest).head? = some '\x7b' then throw .unsupported
    coded 16 2
  | c => return c

def escapedSet (wordSet : CharSet) : Char → Option CharSet
  | 'w' => some wordSet
  | 'W' => some (.compl wordSet)
  | 'd' => some .digit
  | 'D' => some (.compl .digit)
  | 's' => some .space
  | 'S' => some (.compl .space)
  | 'h' => some hex
  | 'H' => some (.compl hex)
  | _ => none
where
  hex : CharSet := .union (.range '0' '9') (.union (.range 'a' 'f') (.range 'A' 'F'))

/-! ### Brackets -/

inductive Part where
  | close
  | dash
  | nested
  | both
  | char (c : Char)
  | set (s : CharSet)

/-- Whether a set in brackets is given by a name between colons. -/
def isNamedSet : List Char → Bool
  | ':' :: cs => ((cs.zip (cs.drop 1)).takeWhile (·.1 ≠ ']')).contains (':', ']')
  | _ => false

def part : PatternReader Part := do
  match ← next .endInClass with
  | ']' => return .close
  | '-' => return .dash
  | '[' =>
    if isNamedSet (← rest) then throw .unsupported
    return .nested
  | '&' => if ← eat "&" then return .both else return .char '&'
  | '\\' => do
    let c ← next .endAtEscape
    match escapedSet .word c with
    | some s => return .set s
    | none =>
      if c = 'b' then return .char '\x08'
      else if '0' ≤ c && c ≤ '7' then
        setRest (c :: (← rest))
        return .char (← coded 8 3)
      else return .char (← escapedChar c)
  | c => return .char c

inductive Last where
  | nothing
  /-- A character, which may become the start of a range. -/
  | char (c : Char)
  | set
  | rangeFrom (c : Char)
  | range

/-- The set with a character that was read last. -/
def withLast (s : CharSet) : Last → CharSet
  | .char c => .union s (.single c)
  | _ => s

def addChar (s : CharSet) (last : Last) (c : Char) : PatternReader (CharSet × Last) := do
  match last with
  | .rangeFrom low =>
    if c < low then throw .emptyRange
    return (.union s (.range low c), .range)
  | last => return (withLast s last, .char c)

/-- Whether a dash is followed by the end of a set or of a part of an intersection. -/
def closes (rest : List Char) : Bool :=
  match rest with
  | ']' :: _ => true
  | '&' :: '&' :: _ => true
  | _ => false

/-- Adds a dash, which stands for itself unless it can be part of a range. -/
def addDash (s : CharSet) (last : Last) : PatternReader (CharSet × Last) := do
  let closes := closes (← rest)
  match last with
  | .char c => if closes then addChar s last '-' else return (s, .rangeFrom c)
  | .set => if closes then addChar s last '-' else throw .strayRange
  | last => addChar s last '-'

def meet : Option CharSet → CharSet → CharSet
  | none, s => s
  | some left, s => .inter left s

mutual

/-- A set after its opening bracket: whether it is negated, and the set. Every character is at
least one step of `fuel`. -/
def bracket : (fuel : Nat) → PatternReader (Bool × CharSet)
  | 0 => throw .endInClass
  | fuel + 1 => do
    let negated ← eat "^"
    match ← rest with
    | ']' :: cs =>
      -- a bracket that comes first stands for itself if another one can close the set
      if cs.contains ']' then
        setRest cs
        return (negated, ← parts fuel none .none (.char ']'))
      else throw .emptyClass
    | _ => return (negated, ← parts fuel none .none .nothing)

/-- The rest of a set in brackets: `left` is what stood before an intersection, `s` the set so
far without what was read last. -/
def parts : (fuel : Nat) → (left : Option CharSet) → (s : CharSet) → Last → PatternReader CharSet
  | 0, _, _, _ => throw .endInClass
  | fuel + 1, left, s, last => do
    match ← part with
    | .close => return meet left (withLast s last)
    | .dash => do
      let (s, last) ← addDash s last
      parts fuel left s last
    | .nested => do
      let (negated, inner) ← bracket fuel
      parts fuel left (.union (withLast s last) (if negated then .compl inner else inner)) .range
    | .both => parts fuel (some (meet left (withLast s last))) .none .nothing
    | .char c => do
      let (s, last) ← addChar s last c
      parts fuel left s last
    | .set t =>
      match last with
      | .rangeFrom _ => throw .endOfRangeIsSet
      | last => parts fuel left (.union (withLast s last) t) .set

end

/-! ### Repetition -/

inductive Manner where
  | greedy
  | lazy
  /-- As often as possible, and then never less often. -/
  | possessive

structure Repeat where
  low : Nat
  high : Option Nat
  manner : Manner

/-- The manner that a mark after a repetition says. -/
def manner (mayBePossessive : Bool) : PatternReader Manner := do
  if ← eat "?" then return .lazy
  if mayBePossessive then
    if ← eat "+" then return .possessive
  return .greedy

def maxRepeat : Nat := 100000

/-- The bounds of an interval after its opening brace, and whether a comma stood in it; none if it
is no interval. -/
def bounds (s : List Char) : Option (Nat × Option Nat × Bool × List Char) :=
  let (low, afterLow) := decimal s
  let hasLow := afterLow.length < s.length
  match afterLow with
  | '\x7d' :: rest => if hasLow then some (low, some low, false, rest) else none
  | ',' :: upper =>
    let (high, afterHigh) := decimal upper
    let hasHigh := afterHigh.length < upper.length
    match afterHigh with
    | '\x7d' :: rest =>
      if hasHigh then some (low, some high, true, rest)
      else if hasLow then some (low, none, true, rest)
      else none
    | _ => none
  | _ => none

/-- The repetition of an interval after its opening brace, if it is one. An exact number takes no
mark; where the bounds are the wrong way round they are exchanged and nothing is given back. -/
def interval : PatternReader (Option Repeat) := do
  match bounds (← rest) with
  | none => return none
  | some (low, high, comma, rest) => do
    if maxRepeat < max low (high.getD 0) then throw .tooManyRepeats
    setRest rest
    match high with
    | none => return some ⟨low, none, ← manner false⟩
    | some high =>
      if high < low then return some ⟨high, some low, .possessive⟩
      if comma then return some ⟨low, some high, ← manner false⟩
      return some ⟨low, some high, .greedy⟩

def repeat? : PatternReader (Option Repeat) := do
  match ← rest with
  | '*' :: cs =>
    setRest cs
    return some ⟨0, none, ← manner true⟩
  | '+' :: cs =>
    setRest cs
    return some ⟨1, none, ← manner true⟩
  | '?' :: cs =>
    setRest cs
    return some ⟨0, some 1, ← manner true⟩
  | '\x7b' :: cs => do
    setRest cs
    match ← interval with
    | some found => return some found
    | none =>
      setRest ('\x7b' :: cs)
      return none
  | _ => return none

def Repeat.apply (repetition : Repeat) (r : Regex) : Regex :=
  match repetition.manner with
  | .greedy => .between repetition.low repetition.high true r
  | .lazy => .between repetition.low repetition.high false r
  | .possessive => .atomic (.between repetition.low repetition.high true r)

def repeated : (fuel : Nat) → Regex → PatternReader Regex
  | 0, r => return r
  | fuel + 1, r => do
    match ← repeat? with
    | none => return r
    | some repetition =>
      if r.isPlace then throw .cannotRepeat
      repeated fuel (repetition.apply r)

/-! ### Expressions -/

def ofSet (settings : Settings) (negated : Bool) (s : CharSet) : Regex :=
  let s := if settings.fold then .fold s else s
  .set (if negated then .compl s else s)

def escapedPlace : Char → Option Place
  | 'A' => some .textStart
  | 'z' => some .textEnd
  | 'Z' => some .lastLineEnd
  | 'b' => some .wordEdge
  | 'B' => some .noWordEdge
  | _ => none

/-- What digits after a backslash stand for: a group, if they are one digit or there are that many
groups by now, and else a character. -/
def numbered (settings : Settings) : PatternReader Regex := do
  let cs ← rest
  let (number, after) := decimal cs
  if number ≤ 9 || number ≤ (← get).groups then
    setRest after
    return .again settings.fold number
  else if '8' ≤ cs.headD '0' then
    return ofSet settings false (.single (← next .endAtEscape))
  else return ofSet settings false (.single (← coded 8 3))

/-- Escapes that stand for more than a character or a set: the start of the search, line ends, whole
letters with their marks, groups by name. -/
def widerEscapes : List Char := ['G', 'R', 'X', 'N', 'O', 'y', 'Y', 'k', 'g']

def escape (settings : Settings) : PatternReader Regex := do
  let c ← next .endAtEscape
  if widerEscapes.contains c then throw .unsupported
  if c = 'K' then
    if settings.aside then throw .unsupported
    return .keep
  match escapedSet .wordAlone c, escapedPlace c with
  | some s, _ => return .set s
  | none, some p => return .place p
  | none, none =>
    if '1' ≤ c && c ≤ '9' then
      setRest (c :: (← rest))
      numbered settings
    else if c = '0' then return ofSet settings false (.single (← coded 8 2))
    else return ofSet settings false (.single (← escapedChar c))

/-- The letters of settings up to a colon or a closing parenthesis; whether it was the colon, and
the new settings. -/
def letters : (fuel : Nat) → (on : Bool) → Settings → PatternReader (Bool × Settings)
  | 0, _, _ => throw .unknownOption
  | fuel + 1, on, settings => do
    match ← next .endInGroup with
    | ')' => return (false, settings)
    | ':' => return (true, settings)
    | '-' => letters fuel false settings
    | 'i' => letters fuel on { settings with fold := on }
    | 'm' => letters fuel on { settings with dotAll := on }
    | c => throw (if otherOptions.contains c then .unsupported else .unknownOption)
where
  otherOptions : List Char := ['x', 'W', 'D', 'S', 'P', 'I', 'L', 'C', 'y']

def openGroup : PatternReader Nat := do
  modify fun u => { u with groups := u.groups + 1 }
  return (← get).groups

def closeGroup : PatternReader Unit := do
  if ← eat ")" then return
  throw .unclosedGroup

def groupName (close : Char) : PatternReader Unit := do
  match (← rest).dropWhile (· ≠ close) with
  | [] => throw .endInGroup
  | _ :: cs => setRest cs

/-- What comes next in a sequence: an expression, or settings for the rest of the group. -/
inductive Item where
  | expression (r : Regex)
  | settings (s : Settings)

mutual

/-- Alternatives, up to the end or a closing parenthesis. Every character is at most three steps
of `fuel`. -/
def alternatives : (fuel : Nat) → Settings → PatternReader Regex
  | 0, _ => throw .unclosedGroup
  | fuel + 1, settings => do
    let first ← sequence fuel settings
    if ← eat "|" then return .alt first (← alternatives fuel settings)
    return first

def sequence : (fuel : Nat) → Settings → PatternReader Regex
  | 0, _ => throw .unclosedGroup
  | fuel + 1, settings => do
    match ← rest with
    | [] | '|' :: _ | ')' :: _ => return .empty
    | _ =>
      match ← item fuel settings with
      | .settings s => alternatives fuel s
      | .expression r => do
        let r ← repeated fuel r
        return .seq r (← sequence fuel settings)

def item : (fuel : Nat) → Settings → PatternReader Item
  | 0, _ => throw .unclosedGroup
  | fuel + 1, settings => do
    if (← repeat?).isSome then throw .nothingToRepeat
    match ← next .unclosedGroup with
    | '(' => if ← eat "?" then special fuel settings else do
      let number ← openGroup
      let r ← alternatives fuel settings
      closeGroup
      return .expression (.group number r)
    | '[' => do
      let (negated, s) ← bracket fuel
      return .expression (ofSet settings negated s)
    | '\\' => return .expression (← escape settings)
    | '.' => return .expression (.set (.compl (if settings.dotAll then .none else .single '\n')))
    | '^' => return .expression (.place .lineStart)
    | '$' => return .expression (.place .lineEnd)
    | c => return .expression (ofSet settings false (.single c))

/-- A group after its opening parenthesis and question mark. -/
def special : (fuel : Nat) → Settings → PatternReader Item
  | 0, _ => throw .unclosedGroup
  | fuel + 1, settings => do
    let inside (make : Regex → Regex) (settings : Settings) : PatternReader Item := do
      let r ← alternatives fuel settings
      closeGroup
      return .expression (make r)
    let named (close : Char) : PatternReader Item := do
      groupName close
      let number ← openGroup
      inside (.group number) settings
    let aside := { settings with aside := true }
    match ← next .endInGroup with
    | '~' | '#' | '(' | '\x7b' => throw .unsupported
    | ':' => inside id settings
    | '=' => inside (.ahead true) aside
    | '!' => inside (.ahead false) aside
    | '>' => inside .atomic settings
    | '\x27' => named '\x27'
    | '<' => do
      if ← eat "=" then inside (.behind true) aside
      else if ← eat "!" then inside (.behind false) aside
      else named '>'
    | c => do
      setRest (c :: (← rest))
      let (colon, s) ← letters fuel true settings
      if colon then inside id s else return .settings s

end

end PatternReader

/-- A pattern that was read. -/
structure Expression where
  regex : Regex
  groups : Nat
  deriving DecidableEq, Inhabited

def Expression.ofText (text : String) : Except PatternError Expression := do
  let fuel := 4 * text.length + 4
  let (regex, unread) ← (PatternReader.alternatives fuel {}).run ⟨text.toList, 0⟩
  if !unread.rest.isEmpty then throw .strayClose
  if unread.groups < regex.againBound then throw .unknownGroup
  return ⟨regex, unread.groups⟩

end TokenTheme.Regex
