import TokenTheme.Error
import TokenTheme.Text.Blank
import TokenTheme.Text.Hex
/-!
# Colors

A color has four components of one byte. Its text is a number sign and two hexadecimal digits for
each component, or one digit that counts twice; the opacity may be left out, and black and white
have names. Colors are compared by their components, never by their texts.
-/
namespace TokenTheme

structure Color where
  r : UInt8
  g : UInt8
  b : UInt8
  a : UInt8
  deriving DecidableEq, Inhabited

namespace Color

def rgb (r g b : UInt8) : Color := ⟨r, g, b, 255⟩

def white : Color := rgb 255 255 255

def black : Color := rgb 0 0 0

inductive Flaw where
  | nonAscii
  | length (count : Nat)
  /-- The digits of a component are not hexadecimal. -/
  | component (digits : List Char)
  deriving DecidableEq

def Flaw.reason : Flaw → String
  | .nonAscii => "non-ascii characters"
  | .length count => s!"invalid length {count}"
  | .component digits => s!"invalid hex component '{String.ofList digits}'"

/-- A component written with one digit, which counts twice. -/
def twice (c : Char) : Except Flaw UInt8 :=
  match Text.hexValue? c with
  | some n => .ok (17 * n).toUInt8
  | none => .error (.component [c])

def pair (c d : Char) : Except Flaw UInt8 :=
  match Text.hexValue? c, Text.hexValue? d with
  | some m, some n => .ok (16 * m + n).toUInt8
  | _, _ => .error (.component [c, d])

/-- The color of a list of digits; the first wrong component decides. -/
def ofDigits : List Char → Except Flaw Color
  | [r, g, b] => do
    return ⟨← twice r, ← twice g, ← twice b, 255⟩
  | [r, g, b, a] => do
    return ⟨← twice r, ← twice g, ← twice b, ← twice a⟩
  | [r, r', g, g', b, b'] => do
    return ⟨← pair r r', ← pair g g', ← pair b b', 255⟩
  | [r, r', g, g', b, b', a, a'] => do
    return ⟨← pair r r', ← pair g g', ← pair b b', ← pair a a'⟩
  | digits => .error (.length digits.length)

/-- The text between surrounding blanks, without the number signs in front. -/
def body (text : String) : List Char :=
  (Text.trim text.toList).dropWhile (· = '#')

def ofBody (body : List Char) : Except Flaw Color :=
  if body.map Char.toLower = "white".toList then .ok white
  else if body.map Char.toLower = "black".toList then .ok black
  else if body.any (128 ≤ ·.toNat) then .error .nonAscii
  else ofDigits body

def ofHex (text : String) : Except Error Color :=
  (ofBody (body text)).mapError fun flaw => .invalidColor text flaw.reason

def digits (n : UInt8) : List Char :=
  [Text.hexDigit (n.toNat / 16), Text.hexDigit (n.toNat % 16)]

/-- The text of a color, in capitals; the opacity is left out if it is full. -/
def toHex (c : Color) : String :=
  String.ofList ('#' :: digits c.r ++ digits c.g ++ digits c.b ++
    if c.a < 255 then digits c.a else [])

def shape : Json.Shape Color :=
  .record "Color" default [
    .of "r" .required .byte fun n c => { c with r := n },
    .of "g" .required .byte fun n c => { c with g := n },
    .of "b" .required .byte fun n c => { c with b := n },
    .of "a" .required .byte fun n c => { c with a := n }]

end Color

end TokenTheme
