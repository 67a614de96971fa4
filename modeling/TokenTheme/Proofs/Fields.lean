import Mathlib
import TokenTheme.Proofs.Packing
/-!
# Words and fields

A packed word and its fields are two forms of one thing: every word is the packing of its own
fields, and all fields that are within their bounds are read back from their packing. A new
foreground changes no other field, so of several that are put in one after the other only the last
one counts. `fields_tile_word` says all this.
-/
namespace TokenTheme.Attributes

@[ext]
structure Fields where
  language : UInt8
  kind : TokenKind
  balanced : Bool
  style : FontStyle
  foreground : UInt32
  background : UInt32
  flags : style.OfFlags
  foreground_le : foreground ≤ maxForeground
  background_le : background ≤ maxBackground

def Fields.pack (f : Fields) : Attributes :=
  encode f.language f.kind f.balanced f.style f.foreground f.background

theorem fontStyle_ofFlags (a : Attributes) : a.fontStyle.OfFlags := .ofBits _

theorem foreground_le (a : Attributes) : a.foreground ≤ maxForeground := by
  rw [UInt32.le_iff_toNat_le, toNat_foreground]
  exact Nat.le_of_lt_succ (Nat.mod_lt _ (by decide))

theorem background_le (a : Attributes) : a.background ≤ maxBackground := by
  have bound := a.word.toNat_lt
  rw [UInt32.le_iff_toNat_le, toNat_background, show maxBackground.toNat = 255 from rfl]
  omega

def fields (a : Attributes) : Fields where
  language := a.language
  kind := a.kind
  balanced := a.balanced
  style := a.fontStyle
  foreground := a.foreground
  background := a.background
  flags := a.fontStyle_ofFlags
  foreground_le := a.foreground_le
  background_le := a.background_le

theorem fit_of_le {limit index : UInt32} (fits : index ≤ limit) : fit limit index = index :=
  if_neg (UInt32.not_lt.mpr fits)

theorem pack_fields (a : Attributes) : a.fields.pack = a := by
  have packed := parts_encode a.language a.kind a.balanced a.fontStyle a.foreground a.background
  rw [fit_of_le a.foreground_le, fit_of_le a.background_le] at packed
  exact packed.unique a.parts_word

theorem reads_encode (language : UInt8) (kind : TokenKind) (balanced : Bool) {style : FontStyle}
    (flags : style.OfFlags) (foreground background : UInt32) :
    (encode language kind balanced style foreground background).Reads language kind balanced style
      (fit maxForeground foreground) (fit maxBackground background) := by
  have few := FontStyle.ofFlags_iff.mp flags
  exact ⟨language_encode .., kind_encode .., balanced_encode ..,
    (fontStyle_encode ..).trans (FontStyle.ofBits_eq_iff.mpr few),
    foreground_encode _ _ _ _ _ few, background_encode ..⟩

theorem fields_pack (f : Fields) : f.pack.fields = f := by
  have read := reads_encode f.language f.kind f.balanced f.flags f.foreground f.background
  rw [fit_of_le f.foreground_le, fit_of_le f.background_le] at read
  exact Fields.ext read.language read.kind read.balanced read.fontStyle read.foreground
    read.background

/-! ### One foreground after the other -/

theorem withForeground_eq_encode (a : Attributes) (index : UInt32) :
    a.withForeground index =
      encode a.language a.kind a.balanced a.fontStyle index a.background := by
  have bound : (fit maxForeground index).toNat ≤ 511 := fit_le _ _
  have word := toNat_withForeground a index
  have style := toNat_fontStyle a
  obtain ⟨language, kind, balanced, -, background⟩ := a.parts_word
  have packed := parts_encode a.language a.kind a.balanced a.fontStyle index a.background
  rw [fit_of_le a.background_le] at packed
  refine Parts.unique ?_ packed
  rw [or_shift _ (by omega)]
  constructor <;> omega

theorem reads_withForeground (a : Attributes) (index : UInt32) :
    (a.withForeground index).Reads a.language a.kind a.balanced a.fontStyle
      (fit maxForeground index) a.background := by
  have read := reads_encode a.language a.kind a.balanced a.fontStyle_ofFlags index a.background
  rwa [← withForeground_eq_encode, fit_of_le a.background_le] at read

theorem withForeground_withForeground (a : Attributes) (index last : UInt32) :
    (a.withForeground index).withForeground last = a.withForeground last := by
  have once := reads_withForeground a index
  rw [withForeground_eq_encode (a.withForeground index), once.language, once.kind, once.balanced,
    once.fontStyle, once.background, ← withForeground_eq_encode]

theorem foldl_withForeground (a : Attributes) (indices : List UInt32) (last : UInt32) :
    (indices ++ [last]).foldl withForeground a = a.withForeground last := by
  induction indices generalizing a with
  | nil => rfl
  | cons index rest ih =>
    rw [List.cons_append, List.foldl_cons, ih, withForeground_withForeground]

/-- The fields tile the word. Packing and reading undo one another in both directions, for all words
and for all fields within their bounds; any number of new foregrounds leaves the other five fields
as they were and comes to the same as the last of them alone, which is 0 if it is too large. -/
theorem fields_tile_word :
    Function.LeftInverse Fields.pack fields ∧ Function.RightInverse Fields.pack fields ∧
      ∀ (a : Attributes) (indices : List UInt32) (last : UInt32),
        let recolored := (indices ++ [last]).foldl withForeground a
        recolored = a.withForeground last ∧
          recolored.Reads a.language a.kind a.balanced a.fontStyle
            (if maxForeground < last then 0 else last) a.background := by
  refine ⟨pack_fields, fields_pack, ?_⟩
  intro a indices last recolored
  have same : recolored = a.withForeground last := foldl_withForeground a indices last
  refine ⟨same, ?_⟩
  rw [same]
  exact reads_withForeground a last

end TokenTheme.Attributes
