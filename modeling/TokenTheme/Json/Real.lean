/-!
# Doubles as decimals

A double is read from a whole significand and a power of ten, with one rounding for each, and
written with the fewest digits that no other double lies nearer to.
-/
namespace TokenTheme.Json.Real

/-- Multiplies by a power of ten, in steps that a double can hold; `none` beyond the doubles. -/
def scale : Nat → Float → Int → Option Float
  | 0, f, _ => some f
  | steps + 1, f, exponent =>
    if exponent.natAbs ≤ 308 then
      let power := Float.ofScientific 1 false exponent.natAbs
      if exponent < 0 then some (f / power)
      else if (f * power).isInf then none
      else some (f * power)
    else if f == 0 then some f
    else if 0 ≤ exponent then none
    else scale steps (f / Float.ofScientific 1 false 308) (exponent + 308)

/-- The bits of `significand * 10 ^ exponent`, negated or not; `none` beyond the doubles. Two
steps bring every significand below `2 ^ 64` to zero, so three decide. -/
def ofDecimal (negative : Bool) (significand : Nat) (exponent : Int) : Option UInt64 :=
  (scale 3 (Float.ofNat significand) exponent).map fun f => (if negative then -f else f).toBits

/-- A finite double as `mantissa * 2 ^ exponent`, with the room on its lower side: the quarter
`below / 4` of a unit, which is one half but at a power of two. -/
structure Parts where
  mantissa : Nat
  exponent : Int
  below : Nat

def parts (bits : UInt64) : Parts :=
  let fraction := (bits &&& 0xFFFFFFFFFFFFF).toNat
  let power := ((bits >>> 52) &&& 0x7FF).toNat
  if power = 0 then ⟨fraction, -1074, 2⟩
  else
    ⟨0x10000000000000 + fraction, (power : Int) - 1075, if fraction = 0 && 1 < power then 1 else 2⟩

/-- `digits * 10 ^ exponent` -/
structure Decimal where
  digits : Nat
  exponent : Int

/-- The multiples of `10 ^ exponent` next to the double that fall into its interval, the nearer
one. Everything is brought to one scale: there the double is `value`, its interval reaches from
`low` to `high`, and `unit` is the power of ten. -/
def nearest? (p : Parts) (exponent : Int) : Option Decimal :=
  let two := Nat.pow 2 (p.exponent - 2).toNat
  let ten := Nat.pow 10 (-exponent).toNat
  let value := 4 * p.mantissa * two * ten
  let low := (4 * p.mantissa - p.below) * two * ten
  let high := (4 * p.mantissa + 2) * two * ten
  let unit := Nat.pow 10 exponent.toNat * Nat.pow 2 (2 - p.exponent).toNat
  let inside (d : Nat) : Bool :=
    if p.mantissa % 2 = 0 then low ≤ d * unit && d * unit ≤ high
    else low < d * unit && d * unit < high
  let down := value / unit
  let downIn := 0 < down && inside down
  let upIn := inside (down + 1)
  if downIn && upIn then
    if 2 * (value - down * unit) ≤ unit then some ⟨down, exponent⟩ else some ⟨down + 1, exponent⟩
  else if downIn then some ⟨down, exponent⟩
  else if upIn then some ⟨down + 1, exponent⟩
  else none

/-- The first hit on ever finer grids; `fuel` of them are tried. -/
def search (p : Parts) : Nat → Int → Decimal
  | 0, exponent => ⟨0, exponent⟩
  | fuel + 1, exponent => (nearest? p exponent).getD (search p fuel (exponent - 1))

/-- The shortest decimal that lies nearer to the double than to any other. The grids start above
every double and end below the finest one needed. -/
def shortest (bits : UInt64) : Decimal :=
  search (parts bits) 650 310

/-- The decimal written out: positional when the point falls within or near the digits, else one
digit, the rest after a point, and the power of ten. -/
def layout (d : Decimal) : String :=
  let digits := Nat.toDigits 10 d.digits
  let count := digits.length
  let point : Int := count + d.exponent
  if 0 ≤ d.exponent && point ≤ 16 then
    String.ofList (digits ++ List.replicate d.exponent.toNat '0') ++ ".0"
  else if 0 < point && point ≤ 16 then
    String.ofList (digits.take point.toNat) ++ "." ++ String.ofList (digits.drop point.toNat)
  else if -5 < point && point ≤ 0 then
    "0." ++ String.ofList (List.replicate (-point).toNat '0' ++ digits)
  else if count = 1 then String.ofList digits ++ "e" ++ toString (point - 1)
  else
    String.ofList (digits.take 1) ++ "." ++ String.ofList (digits.drop 1) ++ "e" ++
      toString (point - 1)

def text (bits : UInt64) : String :=
  let magnitude := bits &&& 0x7FFFFFFFFFFFFFFF
  let sign := if bits = magnitude then "" else "-"
  sign ++ if magnitude = 0 then "0.0" else layout (shortest bits)

end TokenTheme.Json.Real
