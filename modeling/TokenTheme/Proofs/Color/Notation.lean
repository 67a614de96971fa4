import Mathlib
import TokenTheme.Color
import TokenTheme.Results
import TokenTheme.Proofs.Text
/-!
# How colors are written

The notation by itself: `Bare` says what is left of a text once its ends are cut off, and `Spells`
which color that stands for. What is left of a text is read if and only if it is in the notation
(`ofBody_eq_ok_iff`).
-/
namespace TokenTheme.Color

open Text (IsHexDigit)

/-- What is left of a text without the blanks at its ends and then without the number signs in
front. -/
def Bare (text h : List Char) : Prop :=
  ∃ core, Text.Trims text core ∧ (∃ count, core = List.replicate count '#' ++ h) ∧ h.head? ≠ some '#'

def Component (c d : Char) (n : UInt8) : Prop :=
  ∃ i j, IsHexDigit c i ∧ IsHexDigit d j ∧ n.toNat = 16 * i + j

/-- Digits are those of a color. In the short forms each of them counts twice, and the opacity is
full where it is left out. -/
inductive DigitsOf (color : Color) : List Char → Prop where
  | short {r g b : Char} : Component r r color.r → Component g g color.g → Component b b color.b →
      color.a = 255 → DigitsOf color [r, g, b]
  | shortOpacity {r g b a : Char} : Component r r color.r → Component g g color.g →
      Component b b color.b → Component a a color.a → DigitsOf color [r, g, b, a]
  | long {r r' g g' b b' : Char} : Component r r' color.r → Component g g' color.g →
      Component b b' color.b → color.a = 255 → DigitsOf color [r, r', g, g', b, b']
  | longOpacity {r r' g g' b b' a a' : Char} : Component r r' color.r → Component g g' color.g →
      Component b b' color.b → Component a a' color.a →
      DigitsOf color [r, r', g, g', b, b', a, a']

/-- What is left of a text stands for a color: two of them have names, in letters of any case. -/
inductive Spells : List Char → Color → Prop where
  | white {h : List Char} : h.map Char.toLower = "white".toList → Spells h ⟨255, 255, 255, 255⟩
  | black {h : List Char} : h.map Char.toLower = "black".toList → Spells h ⟨0, 0, 0, 255⟩
  | digits {h : List Char} {color : Color} : DigitsOf color h → Spells h color

theorem bare_iff {text : String} {h : List Char} : Bare text.toList h ↔ h = body text := by
  have signs (core : List Char) : core.dropWhile (· = '#') = h ↔
      (∃ count, core = List.replicate count '#' ++ h) ∧ h.head? ≠ some '#' := by
    rw [dropWhile_eq_iff]
    constructor
    · rintro ⟨front, rfl, sign, stopped⟩
      have same : front = List.replicate front.length '#' :=
        List.eq_replicate_iff.mpr ⟨rfl, fun c member => by simpa using sign c member⟩
      refine ⟨⟨front.length, by rw [← same]⟩, fun first => ?_⟩
      simpa using stopped '#' first
    · rintro ⟨⟨count, rfl⟩, stopped⟩
      refine ⟨_, rfl, fun c member => by simpa using List.eq_of_mem_replicate member, ?_⟩
      intro c first
      simp only [decide_eq_false_iff_not]
      rintro rfl
      exact stopped first
  unfold Bare body
  constructor
  · rintro ⟨core, trims, bare⟩
    rw [← Text.trims_iff.mp trims, (signs core).mpr bare]
  · intro same
    exact ⟨_, Text.trims_iff.mpr rfl, (signs _).mp same.symm⟩

/-! ### Digits -/

theorem pair_eq_ok_iff {c d : Char} {n : UInt8} : pair c d = .ok n ↔ Component c d n := by
  unfold Component
  simp only [← Text.hexValue?_eq_some_iff]
  constructor
  · intro read
    unfold pair at read
    split at read
    · rename_i i j high low
      cases read
      have highBound := Text.hexValue?_lt high
      have lowBound := Text.hexValue?_lt low
      refine ⟨i, j, high, low, ?_⟩
      show (UInt8.ofNat (16 * i + j)).toNat = 16 * i + j
      rw [UInt8.toNat_ofNat']
      omega
    · cases read
  · rintro ⟨i, j, high, low, value⟩
    simp only [pair, high, low, ← value, Nat.toUInt8, UInt8.ofNat_toNat]

theorem twice_eq_pair (c : Char) : (twice c).toOption = (pair c c).toOption := by
  unfold twice pair
  cases Text.hexValue? c with
  | none => rfl
  | some n =>
    show some (17 * n).toUInt8 = some (16 * n + n).toUInt8
    rw [show 17 * n = 16 * n + n by omega]

theorem twice_eq_ok_iff {c : Char} {n : UInt8} : twice c = .ok n ↔ Component c c n := by
  rw [← toOption_eq_some_iff, twice_eq_pair, toOption_eq_some_iff, pair_eq_ok_iff]

section Forms

variable {x y z w : Except Flaw UInt8} {color : Color}

theorem three_eq_ok_iff :
    (do return (⟨← x, ← y, ← z, 255⟩ : Color)) = .ok color ↔
      x = .ok color.r ∧ y = .ok color.g ∧ z = .ok color.b ∧ color.a = 255 := by
  constructor
  · intro read
    obtain ⟨r, one, read⟩ := bind_ok read
    obtain ⟨g, two, read⟩ := bind_ok read
    obtain ⟨b, three, read⟩ := bind_ok read
    cases read
    exact ⟨one, two, three, rfl⟩
  · rintro ⟨rfl, rfl, rfl, full⟩
    rw [← full]
    rfl

theorem four_eq_ok_iff :
    (do return (⟨← x, ← y, ← z, ← w⟩ : Color)) = .ok color ↔
      x = .ok color.r ∧ y = .ok color.g ∧ z = .ok color.b ∧ w = .ok color.a := by
  constructor
  · intro read
    obtain ⟨r, one, read⟩ := bind_ok read
    obtain ⟨g, two, read⟩ := bind_ok read
    obtain ⟨b, three, read⟩ := bind_ok read
    obtain ⟨a, four, read⟩ := bind_ok read
    cases read
    exact ⟨one, two, three, four⟩
  · rintro ⟨rfl, rfl, rfl, rfl⟩
    rfl

end Forms

theorem ofDigits_eq_ok_iff {h : List Char} {color : Color} :
    ofDigits h = .ok color ↔ DigitsOf color h := by
  constructor
  · intro read
    unfold ofDigits at read
    split at read
    · obtain ⟨one, two, three, full⟩ := three_eq_ok_iff.mp read
      exact .short (twice_eq_ok_iff.mp one) (twice_eq_ok_iff.mp two) (twice_eq_ok_iff.mp three) full
    · obtain ⟨one, two, three, four⟩ := four_eq_ok_iff.mp read
      exact .shortOpacity (twice_eq_ok_iff.mp one) (twice_eq_ok_iff.mp two)
        (twice_eq_ok_iff.mp three) (twice_eq_ok_iff.mp four)
    · obtain ⟨one, two, three, full⟩ := three_eq_ok_iff.mp read
      exact .long (pair_eq_ok_iff.mp one) (pair_eq_ok_iff.mp two) (pair_eq_ok_iff.mp three) full
    · obtain ⟨one, two, three, four⟩ := four_eq_ok_iff.mp read
      exact .longOpacity (pair_eq_ok_iff.mp one) (pair_eq_ok_iff.mp two)
        (pair_eq_ok_iff.mp three) (pair_eq_ok_iff.mp four)
    · cases read
  · intro digits
    cases digits with
    | short one two three full =>
      exact three_eq_ok_iff.mpr ⟨twice_eq_ok_iff.mpr one, twice_eq_ok_iff.mpr two,
        twice_eq_ok_iff.mpr three, full⟩
    | shortOpacity one two three four =>
      exact four_eq_ok_iff.mpr ⟨twice_eq_ok_iff.mpr one, twice_eq_ok_iff.mpr two,
        twice_eq_ok_iff.mpr three, twice_eq_ok_iff.mpr four⟩
    | long one two three full =>
      exact three_eq_ok_iff.mpr ⟨pair_eq_ok_iff.mpr one, pair_eq_ok_iff.mpr two,
        pair_eq_ok_iff.mpr three, full⟩
    | longOpacity one two three four =>
      exact four_eq_ok_iff.mpr ⟨pair_eq_ok_iff.mpr one, pair_eq_ok_iff.mpr two,
        pair_eq_ok_iff.mpr three, pair_eq_ok_iff.mpr four⟩

theorem DigitsOf.isHexDigit {h : List Char} {color : Color} (digits : DigitsOf color h) :
    ∀ c ∈ h, ∃ n, IsHexDigit c n := by
  have both {c d : Char} {n : UInt8} (component : Component c d n) :
      (∃ n, IsHexDigit c n) ∧ ∃ n, IsHexDigit d n := by
    obtain ⟨i, j, high, low, -⟩ := component
    exact ⟨⟨i, high⟩, ⟨j, low⟩⟩
  cases digits with
  | short one two three full => simp [both one, both two, both three]
  | shortOpacity one two three four => simp [both one, both two, both three, both four]
  | long one two three full => simp [both one, both two, both three]
  | longOpacity one two three four => simp [both one, both two, both three, both four]

theorem DigitsOf.length_ne {h : List Char} {color : Color} (digits : DigitsOf color h) :
    h.length ≠ 5 := by
  cases digits <;> simp

theorem ofBody_eq_ok_iff {h : List Char} {color : Color} :
    ofBody h = .ok color ↔ Spells h color := by
  constructor
  · intro read
    unfold ofBody at read
    split at read
    · rename_i named
      cases read
      exact .white named
    · split at read
      · rename_i named
        cases read
        exact .black named
      · split at read
        · cases read
        · exact .digits (ofDigits_eq_ok_iff.mp read)
  · intro spelled
    cases spelled with
    | white named => exact if_pos named
    | black named =>
      unfold ofBody
      rw [named, if_neg (by decide), if_pos rfl]
      rfl
    | digits digits =>
      -- Both names have five letters.
      have unnamed (name : List Char) (five : name.length = 5) : h.map Char.toLower ≠ name := by
        rintro rfl
        exact digits.length_ne (by simpa using five)
      have ascii : ¬ h.any (128 ≤ ·.toNat) := by
        simp only [List.any_eq_true, decide_eq_true_eq, not_exists, not_and, Nat.not_le]
        intro c member
        obtain ⟨n, digit⟩ := digits.isHexDigit c member
        exact digit.ascii
      unfold ofBody
      rw [if_neg (unnamed _ rfl), if_neg (unnamed _ rfl), if_neg ascii,
        ofDigits_eq_ok_iff.mpr digits]

theorem ofHex_eq_ok_iff {text : String} {color : Color} :
    ofHex text = .ok color ↔ Spells (body text) color := by
  rw [← ofBody_eq_ok_iff]
  exact ⟨mapError_ok, fun read => congrArg (Except.mapError _) read⟩

end TokenTheme.Color
