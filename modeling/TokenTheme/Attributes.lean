import TokenTheme.FontStyle
/-!
# Packed attributes

The style of a token in one word of 32 bits:

```text
 3322 2222 2222 1111 1111 1100 0000 0000
 1098 7654 3210 9876 5432 1098 7654 3210
 bbbb bbbb ffff ffff fFFF FBTT LLLL LLLL
```

From the low bits up: the language, the kind of token, whether it takes part in the matching of
brackets, the font style, and the palette indices of foreground and background. An index that
does not fit is stored as 0, which stands for the default color.
-/
namespace TokenTheme

inductive TokenKind where
  | other
  | comment
  | string
  | regex
  deriving DecidableEq, Inhabited

namespace TokenKind

def bits : TokenKind → UInt32
  | .other => 0
  | .comment => 1
  | .string => 2
  | .regex => 3

def ofBits (bits : UInt32) : TokenKind :=
  if bits &&& 3 = 1 then .comment
  else if bits &&& 3 = 2 then .string
  else if bits &&& 3 = 3 then .regex
  else .other

end TokenKind

structure Attributes where
  word : UInt32
  deriving DecidableEq, Inhabited

namespace Attributes

def languageMask : UInt32 := 0x000000FF

def kindMask : UInt32 := 0x00000300

def balancedMask : UInt32 := 0x00000400

def styleMask : UInt32 := 0x00007800

def foregroundMask : UInt32 := 0x00FF8000

def backgroundMask : UInt32 := 0xFF000000

def maxForeground : UInt32 := foregroundMask >>> 15

def maxBackground : UInt32 := backgroundMask >>> 24

def language (a : Attributes) : UInt8 := (a.word &&& languageMask).toUInt8

def kind (a : Attributes) : TokenKind := .ofBits ((a.word &&& kindMask) >>> 8)

def balanced (a : Attributes) : Bool := (a.word &&& balancedMask) != 0

def fontStyle (a : Attributes) : FontStyle := .ofBits ((a.word &&& styleMask) >>> 11).toUInt8

def foreground (a : Attributes) : UInt32 := (a.word &&& foregroundMask) >>> 15

def background (a : Attributes) : UInt32 := (a.word &&& backgroundMask) >>> 24

/-- An index, or 0 if it is above the limit. -/
def fit (limit index : UInt32) : UInt32 :=
  if limit < index then 0 else index

def bit (balanced : Bool) : UInt32 :=
  if balanced then 0x400 else 0

def encode (language : UInt8) (kind : TokenKind) (balanced : Bool) (style : FontStyle)
    (foreground background : UInt32) : Attributes where
  word := language.toUInt32 ||| (kind.bits <<< 8) ||| bit balanced |||
    (style.bits.toUInt32 <<< 11) ||| (fit maxForeground foreground <<< 15) |||
    (fit maxBackground background <<< 24)

def withForeground (a : Attributes) (index : UInt32) : Attributes where
  word := (a.word &&& ~~~foregroundMask) ||| (fit maxForeground index <<< 15)

end Attributes

end TokenTheme
