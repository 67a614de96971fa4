import Mathlib
import TokenTheme.Proofs.Attributes
import TokenTheme.Proofs.Json.Records
/-!
# Packing a font style

Fields that are packed into a word are read back as they were, an index that is too large as 0. The
font style alone can spoil this: it is packed with all its bits, of which only four have a place.
`reads_encode_iff` says that the fields are kept apart exactly if the style is made of the four
flags. Every way of making a style keeps to these but one: a record of bits may hold any byte.
-/
namespace TokenTheme

namespace FontStyle

/-- The styles that are made without a record. -/
inductive OfFlags : FontStyle → Prop where
  | empty : OfFlags .empty
  | italic : OfFlags .italic
  | bold : OfFlags .bold
  | underline : OfFlags .underline
  | strikethrough : OfFlags .strikethrough
  | ofText (text : String) : OfFlags (.ofText text)
  | ofBits (bits : UInt8) : OfFlags (.ofBits bits)
  | insert {s t : FontStyle} : s.OfFlags → t.OfFlags → OfFlags (s.insert t)

theorem ofBits_eq_iff {s : FontStyle} : ofBits s.bits = s ↔ s.bits.toNat < 16 := by
  constructor
  · intro same
    have low := toNat_bits_ofBits s.bits
    rw [same] at low
    omega
  · intro few
    apply eq_of_bits
    rw [toNat_bits_ofBits]
    exact Nat.mod_eq_of_lt few

theorem ofFlags_iff {s : FontStyle} : s.OfFlags ↔ s.bits.toNat < 16 := by
  constructor
  · intro made
    induction made with
    | empty => decide
    | italic => decide
    | bold => decide
    | underline => decide
    | strikethrough => decide
    | ofText text => exact ofText_bits_lt text
    | ofBits bits =>
      rw [toNat_bits_ofBits]
      exact Nat.mod_lt _ (by decide)
    | insert _ _ left right => exact insert_bits_lt left right
  · intro few
    rw [← ofBits_eq_iff.mpr few]
    exact .ofBits s.bits

/-- A style has no bits above its flags if and only if it is made of these. -/
theorem high_eq_zero_iff (s : FontStyle) : s.bits.toUInt32 >>> 4 = 0 ↔ s.OfFlags := by
  rw [ofFlags_iff, ← UInt32.toNat_inj, UInt32.toNat_shiftRight, UInt8.toNat_toUInt32,
    show (UInt32.toNat 4 % 32) = 4 from rfl, Nat.shiftRight_eq_div_pow, UInt32.toNat_zero,
    Nat.div_eq_zero_iff_lt (by decide)]

theorem decode_record (s : FontStyle) :
    shape.decode (.object [("bits", .ofNat s.bits.toNat)]) = .ok s := by
  unfold shape Json.Shape.record
  simp only
  rw [Json.Shape.decodeMembers_cons (List.find?_cons_of_pos (by decide)) (by simp)
    (Json.Shape.decode_byte s.bits)]
  rfl

end FontStyle

namespace Attributes

structure Reads (a : Attributes) (language : UInt8) (kind : TokenKind) (balanced : Bool)
    (style : FontStyle) (foreground background : UInt32) : Prop where
  language : a.language = language
  kind : a.kind = kind
  balanced : a.balanced = balanced
  fontStyle : a.fontStyle = style
  foreground : a.foreground = foreground
  background : a.background = background

/-- A packed word holds the fields that were packed if and only if the style is made of flags. Any
other style, which only a record gives, leaves its four flags in its own field and the rest of its
bits in that of the foreground; no other field is touched. -/
theorem reads_encode_iff (language : UInt8) (kind : TokenKind) (balanced : Bool)
    (style : FontStyle) (foreground background : UInt32) :
    let a := encode language kind balanced style foreground background
    (a.Reads language kind balanced style (fit maxForeground foreground)
        (fit maxBackground background) ↔ style.OfFlags) ∧
      a.Reads language kind balanced (.ofBits style.bits)
        (fit maxForeground foreground ||| style.bits.toUInt32 >>> 4)
        (fit maxBackground background) ∧
      ∃ j, FontStyle.shape.decode j = .ok style := by
  intro a
  have overlaid : a.Reads language kind balanced (.ofBits style.bits)
      (fit maxForeground foreground ||| style.bits.toUInt32 >>> 4)
      (fit maxBackground background) :=
    ⟨language_encode .., kind_encode .., balanced_encode .., fontStyle_encode ..,
      foreground_encode_over .., background_encode ..⟩
  refine ⟨?_, overlaid, _, FontStyle.decode_record style⟩
  rw [FontStyle.ofFlags_iff]
  constructor
  · intro reads
    exact FontStyle.ofBits_eq_iff.mp (overlaid.fontStyle.symm.trans reads.fontStyle)
  · intro few
    exact { overlaid with
      fontStyle := overlaid.fontStyle.trans (FontStyle.ofBits_eq_iff.mpr few)
      foreground := foreground_encode _ _ _ _ _ few }

/-- Bits above the flags show up as a foreground. -/
example : (encode 0 .other false ⟨0xF1⟩ 0 0).foreground = 15 := by
  decide

end Attributes

end TokenTheme
