import Mathlib
import TokenTheme.Attributes
/-!
# Fields of packed attributes

The fields of a packed word stand side by side, so its value is a sum and a field is read back
from it by division. Only a font style of more than four bits reaches into another field, the one
of the foreground.
-/
namespace TokenTheme

namespace TokenKind

theorem bits_lt (kind : TokenKind) : kind.bits.toNat < 4 := by
  cases kind <;> decide

theorem eq_of_bits {k l : TokenKind} (same : k.bits.toNat = l.bits.toNat) : k = l := by
  cases k <;> cases l <;> first | rfl | cases same

theorem toNat_bits_ofBits (bits : UInt32) : (ofBits bits).bits.toNat = bits.toNat % 2 ^ 2 := by
  have low : (bits &&& 3).toNat = bits.toNat % 2 ^ 2 := by
    rw [UInt32.toNat_and, show UInt32.toNat 3 = 2 ^ 2 - 1 from rfl, Nat.and_two_pow_sub_one_eq_mod]
  unfold ofBits
  simp only [← UInt32.toNat_inj, low]
  split
  · rename_i one
    exact one.symm
  · split
    · rename_i two
      exact two.symm
    · split
      · rename_i three
        exact three.symm
      · rename_i one two three
        change ¬ _ = 1 at one
        change ¬ _ = 2 at two
        change ¬ _ = 3 at three
        show 0 = _
        omega

end TokenKind

namespace FontStyle

theorem eq_of_bits {s t : FontStyle} (same : s.bits.toNat = t.bits.toNat) : s = t := by
  obtain ⟨bits⟩ := s
  obtain ⟨bits'⟩ := t
  exact congrArg mk (UInt8.toNat_inj.mp same)

theorem toNat_bits_ofBits (bits : UInt8) : (ofBits bits).bits.toNat = bits.toNat % 2 ^ 4 := by
  show (bits &&& 15).toNat = _
  rw [UInt8.toNat_and, show UInt8.toNat 15 = 2 ^ 4 - 1 from rfl, Nat.and_two_pow_sub_one_eq_mod]

theorem ofWord_bits_lt (word : String) : (ofWord word).bits.toNat < 16 := by
  unfold ofWord
  split <;> decide

theorem insert_bits_lt {s t : FontStyle} (left : s.bits.toNat < 16) (right : t.bits.toNat < 16) :
    (s.insert t).bits.toNat < 16 := by
  unfold insert
  rw [UInt8.toNat_or]
  exact Nat.or_lt_two_pow (n := 4) left right

theorem ofText_bits_lt (text : String) : (ofText text).bits.toNat < 16 := by
  unfold ofText
  have kept (words : List String) (s : FontStyle) (known : s.bits.toNat < 16) :
      (words.foldl (fun s word => s.insert (ofWord word)) s).bits.toNat < 16 := by
    induction words generalizing s with
    | nil => exact known
    | cons word rest ih => exact ih _ (insert_bits_lt known (ofWord_bits_lt word))
  exact kept _ _ (by decide)

end FontStyle

namespace Attributes

theorem fit_le (limit index : UInt32) : (fit limit index).toNat ≤ limit.toNat := by
  unfold fit
  split
  · simp
  · rename_i above
    exact UInt32.le_iff_toNat_le.mp (UInt32.not_lt.mp above)

theorem toNat_bit (balanced : Bool) : (bit balanced).toNat = balanced.toNat <<< 10 := by
  cases balanced <;> rfl

/-! ### Fields of any word -/

theorem toNat_cut {mask shift : UInt32} {width : Nat} (word : UInt32)
    (ones : mask.toNat >>> (shift.toNat % 32) = 2 ^ width - 1) :
    ((word &&& mask) >>> shift).toNat = word.toNat / 2 ^ (shift.toNat % 32) % 2 ^ width := by
  rw [UInt32.toNat_shiftRight, UInt32.toNat_and, Nat.shiftRight_and_distrib, ones,
    Nat.and_two_pow_sub_one_eq_mod, Nat.shiftRight_eq_div_pow]

theorem toNat_language (a : Attributes) : a.language.toNat = a.word.toNat % 2 ^ 8 := by
  unfold language
  rw [UInt32.toNat_toUInt8, UInt32.toNat_and, show languageMask.toNat = 2 ^ 8 - 1 from rfl,
    Nat.and_two_pow_sub_one_eq_mod, Nat.mod_mod]

theorem toNat_kind (a : Attributes) : a.kind.bits.toNat = a.word.toNat / 2 ^ 8 % 2 ^ 2 := by
  have cut : ((a.word &&& kindMask) >>> 8).toNat = a.word.toNat / 2 ^ 8 % 2 ^ 2 :=
    toNat_cut a.word rfl
  rw [kind, TokenKind.toNat_bits_ofBits, cut, Nat.mod_mod]

theorem balanced_eq_testBit (a : Attributes) : a.balanced = a.word.toNat.testBit 10 := by
  have flag : (a.word &&& balancedMask).toNat = (a.word.toNat.testBit 10).toNat * 2 ^ 10 := by
    rw [UInt32.toNat_and, show balancedMask.toNat = 2 ^ 10 from rfl, Nat.and_two_pow]
  unfold balanced
  cases set : a.word.toNat.testBit 10 with
  | false =>
    rw [set] at flag
    rw [show a.word &&& balancedMask = 0 from UInt32.toNat_inj.mp flag]
    rfl
  | true =>
    rw [set] at flag
    rw [show a.word &&& balancedMask = 0x400 from UInt32.toNat_inj.mp flag]
    rfl

theorem toNat_fontStyle (a : Attributes) :
    a.fontStyle.bits.toNat = a.word.toNat / 2 ^ 11 % 2 ^ 4 := by
  have cut : ((a.word &&& styleMask) >>> 11).toNat = a.word.toNat / 2 ^ 11 % 2 ^ 4 :=
    toNat_cut a.word rfl
  rw [fontStyle, FontStyle.toNat_bits_ofBits, UInt32.toNat_toUInt8, cut]
  omega

theorem toNat_foreground (a : Attributes) :
    a.foreground.toNat = a.word.toNat / 2 ^ 15 % 2 ^ 9 :=
  toNat_cut a.word rfl

theorem toNat_background (a : Attributes) : a.background.toNat = a.word.toNat / 2 ^ 24 := by
  have cut : a.background.toNat = a.word.toNat / 2 ^ 24 % 2 ^ 8 := toNat_cut a.word rfl
  have bound := a.word.toNat_lt
  omega

/-! ### Fields of a packed word -/

/-- A field that is written above all the bits in use so far. -/
theorem or_shift {low shift : Nat} (high : Nat) (below : low < 2 ^ shift) :
    low ||| high <<< shift = low + 2 ^ shift * high := by
  have swapped : low ||| high <<< shift = 2 ^ shift * high ||| low := by
    rw [Nat.shiftLeft_eq, Nat.mul_comm high, Nat.or_comm]
  have disjoint := Nat.two_pow_add_eq_or_of_lt below high
  omega

/-- What stands in the places of the fields. The style and the foreground are taken together, since
a style of more than four bits lies over the foreground. -/
structure Parts (word language kind balanced middle background : Nat) : Prop where
  language : word % 2 ^ 8 = language
  kind : word / 2 ^ 8 % 2 ^ 2 = kind
  balanced : word / 2 ^ 10 % 2 = balanced
  middle : word / 2 ^ 11 % 2 ^ 13 = middle
  background : word / 2 ^ 24 = background

theorem Parts.unique {language kind balanced middle background : Nat} {a b : Attributes}
    (left : Parts a.word.toNat language kind balanced middle background)
    (right : Parts b.word.toNat language kind balanced middle background) : a = b := by
  have same : a.word.toNat = b.word.toNat := by
    obtain ⟨language, kind, balanced, middle, background⟩ := left
    obtain ⟨language', kind', balanced', middle', background'⟩ := right
    omega
  exact congrArg Attributes.mk (UInt32.toNat_inj.mp same)

theorem parts_word (a : Attributes) :
    Parts a.word.toNat a.language.toNat a.kind.bits.toNat a.balanced.toNat
      (a.fontStyle.bits.toNat ||| a.foreground.toNat <<< 4) a.background.toNat := by
  have style := toNat_fontStyle a
  have flag : a.balanced.toNat = a.word.toNat / 2 ^ 10 % 2 := by
    rw [balanced_eq_testBit, Nat.testBit_eq_decide_div_mod_eq]
    rcases Nat.mod_two_eq_zero_or_one (a.word.toNat / 2 ^ 10) with unset | set
    · rw [unset]
      rfl
    · rw [set]
      rfl
  constructor
  · exact (toNat_language a).symm
  · exact (toNat_kind a).symm
  · exact flag.symm
  · rw [or_shift _ (by omega), style, toNat_foreground]
    omega
  · exact (toNat_background a).symm

section Encode

variable (language : UInt8) (kind : TokenKind) (balanced : Bool) (style : FontStyle)
  (foreground background : UInt32)

theorem parts_encode :
    Parts (encode language kind balanced style foreground background).word.toNat
      language.toNat kind.bits.toNat balanced.toNat
      (style.bits.toNat ||| (fit maxForeground foreground).toNat <<< 4)
      (fit maxBackground background).toNat := by
  have languageBound := language.toNat_lt
  have kindBound := kind.bits_lt
  have balancedBound := balanced.toNat_lt
  have styleBound := style.bits.toNat_lt
  have foregroundBound : (fit maxForeground foreground).toNat ≤ 511 := fit_le _ _
  have backgroundBound : (fit maxBackground background).toNat ≤ 255 := fit_le _ _
  have middleBound : style.bits.toNat ||| (fit maxForeground foreground).toNat <<< 4 < 2 ^ 13 := by
    apply Nat.or_lt_two_pow (by omega)
    rw [Nat.shiftLeft_eq]
    omega
  have sum : (encode language kind balanced style foreground background).word.toNat =
      language.toNat + 2 ^ 8 * kind.bits.toNat + 2 ^ 10 * balanced.toNat +
        2 ^ 11 * (style.bits.toNat ||| (fit maxForeground foreground).toNat <<< 4) +
        2 ^ 24 * (fit maxBackground background).toNat := by
    unfold encode
    simp only [UInt32.toNat_or, UInt32.toNat_shiftLeft, UInt8.toNat_toUInt32, toNat_bit]
    -- No field loses bits on the left.
    have whole (field shift : Nat) (fits : field * 2 ^ shift < 2 ^ 32) :
        field <<< shift % 2 ^ 32 = field <<< shift := by
      rw [Nat.shiftLeft_eq]
      exact Nat.mod_eq_of_lt fits
    have together (s f : Nat) : s <<< 11 ||| f <<< 15 = (s ||| f <<< 4) <<< 11 := by
      rw [Nat.shiftLeft_or_distrib, ← Nat.shiftLeft_add]
    rw [show (UInt32.toNat 8 % 32) = 8 from rfl, show (UInt32.toNat 11 % 32) = 11 from rfl,
      show (UInt32.toNat 15 % 32) = 15 from rfl, show (UInt32.toNat 24 % 32) = 24 from rfl,
      whole _ 8 (by omega), whole _ 11 (by omega), whole _ 15 (by omega), whole _ 24 (by omega),
      Nat.or_assoc _ (style.bits.toNat <<< 11), together]
    simp (disch := omega) only [or_shift]
  constructor <;> omega

theorem language_encode :
    (encode language kind balanced style foreground background).language = language := by
  apply UInt8.toNat_inj.mp
  rw [toNat_language, (parts_encode ..).language]

theorem kind_encode :
    (encode language kind balanced style foreground background).kind = kind := by
  apply TokenKind.eq_of_bits
  rw [toNat_kind, (parts_encode ..).kind]

theorem balanced_encode :
    (encode language kind balanced style foreground background).balanced = balanced := by
  rw [balanced_eq_testBit, Nat.testBit_eq_decide_div_mod_eq, (parts_encode ..).balanced]
  cases balanced <;> rfl

theorem background_encode :
    (encode language kind balanced style foreground background).background =
      fit maxBackground background := by
  apply UInt32.toNat_inj.mp
  rw [toNat_background, (parts_encode ..).background]

theorem fontStyle_encode :
    (encode language kind balanced style foreground background).fontStyle = .ofBits style.bits := by
  have middle := (parts_encode language kind balanced style foreground background).middle
  have low := Nat.or_mod_two_pow (a := style.bits.toNat)
    (b := (fit maxForeground foreground).toNat <<< 4) (n := 4)
  rw [Nat.shiftLeft_eq, Nat.mul_mod_left, Nat.or_zero, ← Nat.shiftLeft_eq] at low
  apply FontStyle.eq_of_bits
  rw [toNat_fontStyle, FontStyle.toNat_bits_ofBits]
  omega

/-- The bits of a style above its flags come to lie over the foreground. -/
theorem foreground_encode_over :
    (encode language kind balanced style foreground background).foreground =
      fit maxForeground foreground ||| style.bits.toUInt32 >>> 4 := by
  have middle := (parts_encode language kind balanced style foreground background).middle
  have high := Nat.shiftRight_or_distrib (i := 4) (a := style.bits.toNat)
    (b := (fit maxForeground foreground).toNat <<< 4)
  rw [Nat.shiftLeft_shiftRight, Nat.shiftRight_eq_div_pow] at high
  apply UInt32.toNat_inj.mp
  rw [toNat_foreground, UInt32.toNat_or, UInt32.toNat_shiftRight, UInt8.toNat_toUInt32,
    show (UInt32.toNat 4 % 32) = 4 from rfl, Nat.or_comm, ← high]
  omega

theorem foreground_encode {style : FontStyle} (flags : style.bits.toNat < 16) :
    (encode language kind balanced style foreground background).foreground =
      fit maxForeground foreground := by
  have none : style.bits.toUInt32 >>> 4 = 0 := by
    apply UInt32.toNat_inj.mp
    rw [UInt32.toNat_shiftRight, UInt8.toNat_toUInt32, show (UInt32.toNat 4 % 32) = 4 from rfl,
      Nat.shiftRight_eq_div_pow]
    exact Nat.div_eq_of_lt flags
  rw [foreground_encode_over, none, UInt32.or_zero]

end Encode

/-! ### A foreground in the place of another -/

theorem and_shiftLeft (word mask shift : Nat) :
    word &&& mask <<< shift = (word >>> shift &&& mask) <<< shift := by
  apply Nat.eq_of_testBit_eq
  intro i
  simp only [Nat.testBit_and, Nat.testBit_shiftLeft, Nat.testBit_shiftRight]
  by_cases above : i ≥ shift
  · simp [above, Nat.add_sub_cancel' above]
  · simp [above]

theorem toNat_withForeground (a : Attributes) (index : UInt32) :
    (a.withForeground index).word.toNat = a.word.toNat % 2 ^ 15 +
      2 ^ 15 * (fit maxForeground index).toNat + 2 ^ 24 * (a.word.toNat / 2 ^ 24) := by
  have bound : (fit maxForeground index).toNat ≤ 511 := fit_le _ _
  have wordBound := a.word.toNat_lt
  have top : a.word.toNat / 2 ^ 24 % 2 ^ 8 = a.word.toNat / 2 ^ 24 := Nat.mod_eq_of_lt (by omega)
  have kept : (a.word &&& ~~~foregroundMask).toNat =
      a.word.toNat % 2 ^ 15 ||| (a.word.toNat / 2 ^ 24) <<< 24 := by
    rw [UInt32.toNat_and,
      show (~~~foregroundMask).toNat = (2 ^ 15 - 1) ||| (2 ^ 8 - 1) <<< 24 from rfl,
      Nat.and_or_distrib_left, Nat.and_two_pow_sub_one_eq_mod, and_shiftLeft,
      Nat.and_two_pow_sub_one_eq_mod, Nat.shiftRight_eq_div_pow, top]
  have shifted : (fit maxForeground index <<< 15).toNat =
      (fit maxForeground index).toNat <<< 15 := by
    rw [UInt32.toNat_shiftLeft, show (UInt32.toNat 15 % 32) = 15 from rfl, Nat.shiftLeft_eq]
    exact Nat.mod_eq_of_lt (by omega)
  unfold withForeground
  rw [UInt32.toNat_or, kept, shifted, Nat.or_assoc, Nat.or_comm (_ <<< 24), ← Nat.or_assoc]
  simp (disch := omega) only [or_shift]

/-- A foreground that is put in the place of another is read back, whatever else is packed. -/
theorem foreground_withForeground (a : Attributes) (index : UInt32) :
    (a.withForeground index).foreground = fit maxForeground index := by
  have bound : (fit maxForeground index).toNat ≤ 511 := fit_le _ _
  apply UInt32.toNat_inj.mp
  rw [toNat_foreground, toNat_withForeground]
  omega

end Attributes

end TokenTheme
