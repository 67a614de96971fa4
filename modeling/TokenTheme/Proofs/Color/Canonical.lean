import Mathlib
import TokenTheme.Proofs.Color.Notation
/-!
# Canonical texts of colors

Of all texts of a color one is canonical, the one that is printed. It gives the color back, also
where the opacity is not printed because it is full; so two texts stand for one color if and only if
they have the same canonical text, and putting a text into canonical form once is enough
(`toHex_canonical`).
-/
namespace TokenTheme.Color

def normalize (text : String) : Except Error String := toHex <$> ofHex text

theorem component_digits (n : UInt8) :
    Component (Text.hexDigit (n.toNat / 16)) (Text.hexDigit (n.toNat % 16)) n := by
  have bound := n.toNat_lt
  have high : n.toNat / 16 < 16 := by omega
  have low : n.toNat % 16 < 16 := by omega
  exact ⟨_, _, Text.isHexDigit_hexDigit high, Text.isHexDigit_hexDigit low, by omega⟩

def digitsText (color : Color) : List Char :=
  digits color.r ++ digits color.g ++ digits color.b ++
    if color.a < 255 then digits color.a else []

theorem toList_toHex (color : Color) : color.toHex.toList = '#' :: digitsText color := by
  simp [toHex, digitsText]

theorem lt_full_iff {a : UInt8} : a < 255 ↔ a ≠ 255 := by
  rw [UInt8.lt_iff_toNat_lt, ne_eq, ← UInt8.toNat_inj, show UInt8.toNat 255 = 255 from rfl]
  have bound := a.toNat_lt
  omega

theorem digitsOf_digitsText (color : Color) : DigitsOf color (digitsText color) := by
  unfold digitsText
  split
  · exact .longOpacity (component_digits color.r) (component_digits color.g)
      (component_digits color.b) (component_digits color.a)
  · rename_i full
    rw [lt_full_iff, not_not] at full
    exact .long (component_digits color.r) (component_digits color.g) (component_digits color.b) full

theorem length_toHex (color : Color) : color.toHex.length = 7 ↔ color.a = 255 := by
  rw [← String.length_toList, toList_toHex]
  unfold digitsText
  split
  · rename_i translucent
    simp [digits, lt_full_iff.mp translucent]
  · rename_i full
    rw [lt_full_iff, not_not] at full
    simp [digits, full]

theorem bare_of_digitsOf {h : List Char} {color : Color} (digits : DigitsOf color h) :
    Bare ('#' :: h) h := by
  have kept (c : Char) (member : c ∈ h) : Text.isBlank c = false ∧ c ≠ '#' := by
    obtain ⟨n, digit⟩ := digits.isHexDigit c member
    exact digit.kept
  refine ⟨'#' :: h, ⟨⟨[], [], by simp, nofun, nofun⟩, ?_, ?_⟩, ⟨1, rfl⟩, ?_⟩
  · rintro c ⟨⟩
    decide
  · intro c last
    rcases List.mem_cons.mp (List.mem_of_getLast? last) with rfl | member
    · decide
    · exact (kept c member).1
  · intro first
    exact (kept '#' (List.mem_of_head? first)).2 rfl

theorem ofHex_toHex (color : Color) : ofHex color.toHex = .ok color := by
  have bare := bare_of_digitsOf (digitsOf_digitsText color)
  rw [← toList_toHex, bare_iff] at bare
  rw [ofHex_eq_ok_iff, ← bare]
  exact .digits (digitsOf_digitsText color)

theorem toHex_inj {c d : Color} : c.toHex = d.toHex ↔ c = d := by
  constructor
  · intro same
    have read := ofHex_toHex c
    rw [same, ofHex_toHex d] at read
    exact (Except.ok.inj read).symm
  · exact congrArg toHex

theorem normalize_of_ofHex {text : String} {color : Color} (read : ofHex text = .ok color) :
    normalize text = .ok color.toHex :=
  congrArg (toHex <$> ·) read

theorem normalize_normalize (text : String) : (normalize text >>= normalize) = normalize text := by
  cases normal : normalize text with
  | error e => rfl
  | ok canonical =>
    obtain ⟨color, -, rfl⟩ := map_ok normal
    exact (pure_bind color.toHex normalize).trans (normalize_of_ofHex (ofHex_toHex color))

/-- The printed text of a color is its canonical one: it gives the color back, whether or not the
opacity is printed; two texts are of one color if and only if they have the same canonical text; and
the canonical text of a canonical text is this text itself. -/
theorem toHex_canonical :
    (∀ color : Color, ofHex color.toHex = .ok color ∧
      (color.toHex.length = 7 ↔ color.a = 255)) ∧
    (∀ s t : String, (∃ color, ofHex s = .ok color ∧ ofHex t = .ok color) ↔
      ∃ text, normalize s = .ok text ∧ normalize t = .ok text) ∧
    ∀ text : String, (normalize text >>= normalize) = normalize text := by
  refine ⟨fun color => ⟨ofHex_toHex color, length_toHex color⟩, ?_, normalize_normalize⟩
  intro s t
  constructor
  · rintro ⟨color, read, read'⟩
    exact ⟨color.toHex, normalize_of_ofHex read, normalize_of_ofHex read'⟩
  · rintro ⟨text, normal, normal'⟩
    obtain ⟨c, read, printed⟩ := map_ok normal
    obtain ⟨d, read', printed'⟩ := map_ok normal'
    have same : c = d := toHex_inj.mp (printed.trans printed'.symm)
    exact ⟨c, read, same ▸ read'⟩

end TokenTheme.Color
