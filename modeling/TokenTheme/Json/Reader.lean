import TokenTheme.Json.Mismatch
import TokenTheme.Text.Hex
/-!
# Reading JSON text

A text is read from left to right, byte by byte, and the first problem met decides why it was
refused: it ended too early, it is malformed, or (for readers of a shape) the value is of the
wrong kind. Arrays and objects may stand in each other up to a given depth. `skip` passes over a
value that nobody asks for: it must be well-formed, but its numbers may be of any size, its
escaped characters any, and its depth is not limited.
-/
namespace TokenTheme.Json

inductive Stop where
  | endOfInput
  | malformed
  | mismatch (cause : Mismatch)
  deriving DecidableEq, Inhabited

abbrev Reader := StateT (List UInt8) (Except Stop)

namespace Reader

def isBlank (b : UInt8) : Bool :=
  b == 0x20 || b == 0x09 || b == 0x0A || b == 0x0D

def isDigit (b : UInt8) : Bool :=
  0x30 ≤ b && b ≤ 0x39

def next : Reader UInt8 := do
  match ← get with
  | [] => throw .endOfInput
  | b :: rest =>
    set rest
    return b

def peek : Reader UInt8 := do
  modify (·.dropWhile isBlank)
  match ← get with
  | [] => throw .endOfInput
  | b :: _ => return b

def keyword : List Char → Reader Unit
  | [] => return
  | c :: rest => do
    if (← next) != c.toNat.toUInt8 then throw .malformed
    keyword rest

/-- Four hexadecimal digits; a text that ends within four bytes ends too early, whatever they
are. -/
def unit16 : Reader Nat := do
  let digits := (← get).take 4
  if digits.length < 4 then throw .endOfInput
  modify (·.drop 4)
  match digits.mapM fun b => Text.hexValue? (Char.ofNat b.toNat) with
  | some values => return values.foldl (fun n v => 16 * n + v) 0
  | none => throw .malformed

def encoded (n : Nat) : List UInt8 :=
  (Char.ofNat n).toString.toUTF8.toList

/-- The character of an escape in units of 16 bits, after its `u`. -/
def escapedUnits : Reader (List UInt8) := do
  let high ← unit16
  if 0xDC00 ≤ high && high ≤ 0xDFFF then throw .malformed
  if high < 0xD800 || 0xDBFF < high then return encoded high
  if (← next) != 0x5C then throw .malformed
  if (← next) != 0x75 then throw .malformed
  let low ← unit16
  if low < 0xDC00 || 0xDFFF < low then throw .malformed
  return encoded (0x10000 + 0x400 * (high - 0xD800) + (low - 0xDC00))

/-- The bytes an escape stands for, after its backslash. -/
def escaped : Reader (List UInt8) := do
  match Char.ofNat (← next).toNat with
  | '"' => return [0x22]
  | '\\' => return [0x5C]
  | '/' => return [0x2F]
  | 'b' => return [0x08]
  | 'f' => return [0x0C]
  | 'n' => return [0x0A]
  | 'r' => return [0x0D]
  | 't' => return [0x09]
  | 'u' => escapedUnits
  | _ => throw .malformed

/-- An escape that nobody asks for, after its backslash. -/
def skippedEscape : Reader (List UInt8) := do
  let b ← next
  if b == 0x75 then
    let _ ← unit16
    return []
  if "\"\\/bfnrt".toList.contains (Char.ofNat b.toNat) then return []
  throw .malformed

/-- The bytes up to the closing quote, given how to read an escape; every byte is at least one
step of `fuel`. `kept` holds the bytes so far, last one first. -/
def bytesFrom (escape : Reader (List UInt8)) :
    (fuel : Nat) → (kept : List UInt8) → Reader (List UInt8)
  | 0, _ => throw .endOfInput
  | fuel + 1, kept => do
    let b ← next
    if b == 0x22 then return kept.reverse
    if b < 0x20 then throw .malformed
    if b == 0x5C then
      let bytes ← escape
      bytesFrom escape fuel (bytes.reverse ++ kept)
    else bytesFrom escape fuel (b :: kept)

def stringBody : Reader String := do
  let bytes ← bytesFrom escaped ((← get).length + 1) []
  match String.fromUTF8? ⟨bytes.toArray⟩ with
  | some s => return s
  | none => throw .malformed

def skipString : Reader Unit := do
  let _ ← bytesFrom skippedEscape ((← get).length + 1) []

def digits : Reader (List Nat) := do
  let (digits, rest) := (← get).span isDigit
  set rest
  return digits.map fun b => b.toNat - 0x30

/-- Appends digits to a number for as long as it stays within `limit`; gives the number and the
digits left over. -/
def append (limit : Nat) : Nat → List Nat → Nat × List Nat
  | n, [] => (n, [])
  | n, d :: rest => if limit < 10 * n + d then (n, d :: rest) else append limit (10 * n + d) rest

def maxWord : Nat := 0xFFFFFFFFFFFFFFFF

def maxNegative : Nat := 0x8000000000000000

/-- The digits that a mark calls for; there must be one. -/
def someDigits : Reader (List Nat) := do
  match ← digits with
  | [] => do
    let _ ← next
    throw .malformed
  | ds => return ds

/-- A double, or the refusal of one that is too large. -/
def real (negative : Bool) (significand : Nat) (exponent : Int) : Reader Number := do
  match Real.ofDecimal negative significand exponent with
  | some bits => return .real bits
  | none => throw .malformed

/-- A number from its power of ten on, which it need not have. A power beyond 31 bits makes the
number zero, or too large. -/
def power (negative : Bool) (significand : Nat) (exponent : Int) : Reader Number := do
  match ← get with
  | b :: rest =>
    if b == 0x65 || b == 0x45 then
      let (down, rest) : Bool × List UInt8 := match rest with
        | 0x2B :: rest => (false, rest)
        | 0x2D :: rest => (true, rest)
        | rest => (false, rest)
      set rest
      match append 0x7FFFFFFF 0 (← someDigits) with
      | (n, []) => real negative significand (if down then exponent - n else exponent + n)
      | (_, _ :: _) =>
        if significand != 0 && !down then throw .malformed
        real negative 0 0
    else real negative significand exponent
  | [] => real negative significand exponent

/-- A number after its whole part, of which `exponent` digits did not fit into the significand.
Digits of the fraction that do not fit are dropped. -/
def afterWhole (negative : Bool) (significand : Nat) (exponent : Nat) : Reader Number := do
  match ← get with
  | 0x2E :: rest => do
    set rest
    let fraction ← someDigits
    let (significand, dropped) := append maxWord significand fraction
    power negative significand (exponent - (fraction.length - dropped.length : Nat))
  | 0x65 :: _ | 0x45 :: _ => power negative significand exponent
  | _ =>
    if exponent != 0 then real negative significand exponent
    else if !negative then return .integer significand
    else if significand = 0 || maxNegative < significand then real negative significand 0
    else return .integer (-significand)

def number (negative : Bool) : Reader Number := do
  let b ← next
  if b == 0x30 then
    match ← get with
    | d :: _ => if isDigit d then throw .malformed
    | [] => pure ()
    afterWhole negative 0 0
  else if isDigit b then
    let (significand, left) := append maxWord 0 ((b.toNat - 0x30) :: (← digits))
    afterWhole negative significand left.length
  else throw .malformed

/-- A mark of a number that nobody asks for, with its digits; it is malformed where the text
ends. -/
def skipDigits : Reader Unit := do
  match ← digits with
  | [] => throw .malformed
  | _ => return

def skipNumber : Reader Unit := do
  match ← get with
  | 0x30 :: rest => do
    set rest
    match rest with
    | d :: _ => if isDigit d then throw .malformed
    | [] => pure ()
  | _ => skipDigits
  match ← get with
  | 0x2E :: rest => do
    set rest
    skipDigits
  | _ => pure ()
  match ← get with
  | b :: rest =>
    if b == 0x65 || b == 0x45 then
      match rest with
      | 0x2B :: rest => set rest
      | 0x2D :: rest => set rest
      | rest => set rest
      skipDigits
  | [] => pure ()

/-- Whether another part follows before `close`, which is left in place; the comma before it is
taken. A comma must not stand before `close`. -/
def another (close : UInt8) (first : Bool) : Reader Bool := do
  let b ← peek
  if b == close then return false
  if first then return true
  if b != 0x2C then throw .malformed
  let _ ← next
  if (← peek) == close then throw .malformed
  return true

/-- The rest of a list of parts after `n` of them; `fuel` bounds their number. -/
def foldFrom {σ : Type} (close : UInt8) (part : σ → Reader σ) :
    (fuel : Nat) → (first : Bool) → σ → Reader σ
  | 0, _, _ => throw .malformed
  | fuel + 1, first, s => do
    if ← another close first then foldFrom close part fuel false (← part s)
    else
      let _ ← next
      return s

def fold {σ : Type} (close : UInt8) (part : σ → Reader σ) (s : σ) : Reader σ := do
  foldFrom close part ((← get).length + 1) true s

def quote : Reader Unit := do
  if (← peek) != 0x22 then throw .malformed
  let _ ← next

def colon : Reader Unit := do
  if (← peek) != 0x3A then throw .malformed
  let _ ← next

/-- A value that is neither array nor object, and what to do for those two, which is left in
place. -/
def scalarOr (array object : Reader Json) : Reader Json := do
  match Char.ofNat (← peek).toNat with
  | 'n' => keyword "null".toList; return .null
  | 't' => keyword "true".toList; return .bool true
  | 'f' => keyword "false".toList; return .bool false
  | '"' => let _ ← next; return .string (← stringBody)
  | '-' => let _ ← next; return .number (← number true)
  | '[' => array
  | '{' => object
  | c => if c.isDigit then return .number (← number false) else throw .malformed

/-- A value with at most `depth` arrays and objects inside one another. -/
def value : (depth : Nat) → Reader Json
  | 0 => scalarOr (throw .malformed) (throw .malformed)
  | depth + 1 => scalarOr
    (do
      let _ ← next
      let items ← fold 0x5D (fun items => do return (← value depth) :: items) []
      return .array items.reverse)
    (do
      let _ ← next
      let members ← fold 0x7D (fun members => do
        quote
        let name ← stringBody
        colon
        return (name, ← value depth) :: members) []
      return .object members.reverse)

/-- Passes over a value; `depth` bounds its depth, so the length of the text will do. -/
def skipWithin : (depth : Nat) → Reader Unit
  | 0 => throw .malformed
  | depth + 1 => do
    match Char.ofNat (← peek).toNat with
    | 'n' => keyword "null".toList
    | 't' => keyword "true".toList
    | 'f' => keyword "false".toList
    | '"' => let _ ← next; skipString
    | '-' => let _ ← next; skipNumber
    | '[' => let _ ← next; fold 0x5D (fun _ => skipWithin depth) ()
    | '{' => do
      let _ ← next
      fold 0x7D (fun _ => do
        quote
        skipString
        colon
        skipWithin depth) ()
    | c => if c.isDigit then skipNumber else throw .malformed

def skip : Reader Unit := do
  skipWithin ((← get).length + 1)

def finish : Reader Unit := do
  if (← get).any (!isBlank ·) then throw .malformed

end Reader

def maxDepth : Nat := 127

def readBytes (bytes : List UInt8) : Except Stop Json := do
  let (j, rest) ← (Reader.value maxDepth).run bytes
  let _ ← Reader.finish.run rest
  return j

/-- Reads a text as a collected value. -/
def ofText (text : String) : Except Stop Json :=
  collect <$> readBytes text.toUTF8.toList

end TokenTheme.Json
