import Mathlib
import TokenTheme.Proofs.Packing
import TokenTheme.Proofs.Theme.Palette
import TokenTheme.Theme.Snapshot
/-!
# From packed attributes to a class

The foreground field of a packed word leads to a color by its number and from the color to the class
of the first rule that has it as foreground; the other fields play no part. A number that is too
large for the field is stored as 0, which no color has. When a word is packed this holds for styles
of the four flags alone: the other bits of a style come to stand in the field for the number.
-/
namespace TokenTheme

theorem Rule.mem_colors_foreground (r : Rule) (c : Color)
    (colored : colorOf r.foreground = some c) : c ∈ r.colors :=
  List.mem_filterMap.mpr ⟨r.foreground, List.mem_cons_self, colored⟩

theorem Rule.mem_colors_background (r : Rule) (c : Color)
    (colored : colorOf r.background = some c) : c ∈ r.colors :=
  List.mem_filterMap.mpr ⟨r.background, List.mem_cons_of_mem _ List.mem_cons_self, colored⟩

theorem Rule.mem_colors_of_paints {rules : List Rule} {r : Rule} {c : Color} (member : r ∈ rules)
    (paints : r.Paints c) : c ∈ rules.flatMap Rule.colors :=
  List.mem_flatMap.mpr ⟨r, member, r.mem_colors_foreground c paints⟩

def Rule.Claims (rules : List Rule) (c : Color) (r : Rule) : Prop :=
  ∃ before after, rules = before ++ r :: after ∧ r.Paints c ∧
    ∀ earlier ∈ before, ¬ earlier.Paints c

theorem Rule.claims_of_find? {rules : List Rule} {c : Color} {r : Rule}
    (found : rules.find? (·.Paints c) = some r) : r.Claims rules c := by
  obtain ⟨paints, before, after, split, absent⟩ := List.find?_eq_some_iff_append.mp found
  refine ⟨before, after, split, of_decide_eq_true paints, ?_⟩
  intro earlier member same
  have unpainted := absent earlier member
  simp [same] at unpainted

theorem Rule.exists_claims {rules : List Rule} {r : Rule} {c : Color} (member : r ∈ rules)
    (paints : r.Paints c) : ∃ first, rules.find? (·.Paints c) = some first :=
  Option.isSome_iff_exists.mp (List.find?_isSome.mpr ⟨r, member, decide_eq_true paints⟩)

namespace Attributes

theorem fit_of_lt {limit : UInt32} {id : Nat} (above : limit.toNat < id) (small : id ≤ 2 ^ 32) :
    fit limit id.toUInt32 = 0 := by
  have word : id.toUInt32.toNat = id % 2 ^ 32 := UInt32.toNat_ofNat'
  unfold fit
  split
  · rfl
  · rename_i kept
    apply UInt32.toNat_inj.mp
    have below := UInt32.le_iff_toNat_le.mp (UInt32.not_lt.mp kept)
    -- A number that is below the limit as a word is one that the word has cut to 0.
    have full : id = 2 ^ 32 := by omega
    rw [word, full]
    rfl

theorem toNat_fit_of_le {limit : UInt32} {id : Nat} (fits : id ≤ limit.toNat) :
    (fit limit id.toUInt32).toNat = id := by
  have word : id.toUInt32.toNat = id := by
    have bound := limit.toNat_lt
    exact UInt32.toNat_ofNat_of_lt' (Nat.lt_of_le_of_lt fits bound)
  unfold fit
  rw [if_neg, word]
  rw [UInt32.lt_iff_toNat_lt, word]
  exact Nat.not_lt.mpr fits

theorem encode_of_fit (language : UInt8) (kind : TokenKind) (balanced : Bool) (style : FontStyle)
    {foreground : UInt32} (background : UInt32) (large : fit maxForeground foreground = 0) :
    encode language kind balanced style foreground background =
      encode language kind balanced style 0 background := by
  have zero : fit maxForeground 0 = 0 := rfl
  simp only [encode, large, zero]

end Attributes

namespace Snapshot

open Attributes

/-- Snapshots are made for a theme, or there is no theme yet. -/
inductive Derived : Snapshot → Prop where
  | blank : Derived default
  | ofTheme (theme : Theme) (version : Nat) : Derived (.ofTheme theme version)

variable {s : Snapshot} {a : Attributes} {c : Color}

theorem Derived.classMap_get? (derived : s.Derived) (c : Color) :
    s.classMap.get? c = (s.theme.rules.find? (·.Paints c)).map (·.token) := by
  cases derived with
  | blank => rfl
  | ofTheme theme version => exact ClassMap.get?_ofRules theme.rules c

theorem classOf_of_foreground? (colored : s.palette.foreground? a = some c) :
    s.classOf a = (s.classMap.get? c).getD "" := by
  unfold classOf
  rw [colored, Option.bind_some]

theorem classOf_of_none (plain : s.palette.foreground? a = none) : s.classOf a = "" := by
  unfold classOf
  rw [plain]
  rfl

theorem foreground?_of_idOf? (number : s.palette.idOf? c = some a.foreground.toNat) :
    s.palette.foreground? a = some c := by
  have read := Palette.getElem?_of_idOf? number
  unfold Palette.foreground? Palette.get?
  rw [read]
  rfl

theorem Derived.foreground?_zero (derived : s.Derived) (zero : a.foreground = 0) :
    s.palette.foreground? a = none := by
  unfold Palette.foreground?
  rw [zero]
  cases derived with
  | blank => rfl
  | ofTheme theme version => exact Palette.get?_zero_ofRules theme.rules

theorem foreground?_of_length_le (beyond : s.palette.length ≤ a.foreground.toNat) :
    s.palette.foreground? a = none := by
  have absent : s.palette.slots[a.foreground.toNat]? = none := List.getElem?_eq_none beyond
  unfold Palette.foreground? Palette.get?
  rw [absent]
  rfl

structure Plain (s : Snapshot) (a : Attributes) : Prop where
  field : a.foreground = 0
  foreground : s.palette.foreground? a = none
  token : s.classOf a = ""

theorem Derived.plain (derived : s.Derived) (zero : a.foreground = 0) : s.Plain a :=
  ⟨zero, derived.foreground?_zero zero, classOf_of_none (derived.foreground?_zero zero)⟩

/-- What becomes of a color with the given number. -/
structure Stored (s : Snapshot) (c : Color) (id : Nat) : Prop where
  decoded : id ≤ maxForeground.toNat → ∀ a : Attributes, a.foreground.toNat = id →
    s.palette.foreground? a = some c ∧
      ∃ first : Rule, first.Claims s.theme.rules c ∧ s.classOf a = first.token
  encoded : maxForeground.toNat < id → ∀ language kind balanced style background,
    let a := encode language kind balanced style id.toUInt32 background
    a = encode language kind balanced style 0 background ∧
      a.foreground = style.bits.toUInt32 >>> 4 ∧
      (a.foreground = 0 ↔ style.OfFlags) ∧ (style.OfFlags → s.Plain a)
  replaced : maxForeground.toNat < id → ∀ a : Attributes, s.Plain (a.withForeground id.toUInt32)

theorem Derived.stored (derived : s.Derived) {r : Rule} {id : Nat} (member : r ∈ s.theme.rules)
    (paints : r.Paints c) (number : s.palette.idOf? c = some id) (small : id ≤ 2 ^ 32) :
    s.Stored c id := by
  refine ⟨?_, ?_, ?_⟩
  · rintro - a rfl
    have colored := foreground?_of_idOf? number
    obtain ⟨first, found⟩ := Rule.exists_claims member paints
    refine ⟨colored, first, Rule.claims_of_find? found, ?_⟩
    rw [classOf_of_foreground? colored, derived.classMap_get?, found]
    rfl
  · intro large language kind balanced style background a
    have cut := fit_of_lt large small
    have field : a.foreground = style.bits.toUInt32 >>> 4 := by
      rw [foreground_encode_over, cut, UInt32.zero_or]
    have zero : a.foreground = 0 ↔ style.OfFlags := by
      rw [field, style.high_eq_zero_iff]
    exact ⟨encode_of_fit _ _ _ _ _ cut, field, zero, fun flags => derived.plain (zero.mpr flags)⟩
  · intro large a
    refine derived.plain ?_
    rw [foreground_withForeground, fit_of_lt large small]

/-- The foreground of a rule has a number from 1 on. A field that holds it leads back to the color
and to the first rule with it, whatever else is in the word. If it is too large for the field then 0
is stored for it, in a new word if and only if the style is made of flags. A field that holds 0, no
number, or the number of a mere background gives no class. -/
theorem classOf_foreground (derived : s.Derived) :
    (∀ r ∈ s.theme.rules, ∀ c, r.Paints c →
      ∃ id, s.palette.idOf? c = some id ∧ 1 ≤ id ∧ id ≤ 2 * s.theme.rules.length ∧
        s.Stored c id) ∧
    ∀ a : Attributes, (a.foreground = 0 ∨ s.palette.length ≤ a.foreground.toNat ∨
        ∃ c, s.palette.idOf? c = some a.foreground.toNat ∧ ∀ r ∈ s.theme.rules, ¬ r.Paints c) →
      s.classOf a = "" := by
  constructor
  · intro r member c paints
    cases derived with
    | blank => cases member
    | ofTheme theme version =>
      have colored := Rule.mem_colors_of_paints member paints
      obtain ⟨id, number, positive, bounded⟩ := Palette.idOf?_ofRules colored
      have small := Palette.le_of_idOf? number
      exact ⟨id, number, positive, bounded,
        (Derived.ofTheme theme version).stored member paints number small⟩
  · rintro a (zero | beyond | ⟨c, number, unpainted⟩)
    · exact classOf_of_none (derived.foreground?_zero zero)
    · exact classOf_of_none (foreground?_of_length_le beyond)
    · have nobody : s.theme.rules.find? (·.Paints c) = none := by
        refine List.find?_eq_none.mpr fun r member => ?_
        simpa using unpainted r member
      rw [classOf_of_foreground? (foreground?_of_idOf? number), derived.classMap_get?, nobody]
      rfl

def backgrounds : Theme :=
  .ofRules default false [
    { token := "a", foreground := some "#F00", background := some "#00F" },
    { token := "b", foreground := some "red", background := some "#FF0000" },
    { token := "c", foreground := some "f00" }] .empty

theorem classOf_foreground_backgrounds :
    let s := Snapshot.ofTheme backgrounds 0
    s.Derived ∧
    (∀ r ∈ s.theme.rules, ∀ c, r.Paints c →
      ∃ id, s.palette.idOf? c = some id ∧ 1 ≤ id ∧ id ≤ 2 * s.theme.rules.length ∧
        s.Stored c id) ∧
    (s.palette.idOf? (.rgb 0 0 255) = some 2 ∧ ∀ r ∈ s.theme.rules, ¬ r.Paints (.rgb 0 0 255)) ∧
    s.classOf (.mk 0xFF017FFF) = "" := by
  intro s
  have derived : s.Derived := .ofTheme backgrounds 0
  obtain ⟨colored, plain⟩ := classOf_foreground derived
  have number : s.palette.idOf? (.rgb 0 0 255) = some 2 := by
    decide +kernel
  have unpainted : ∀ r ∈ s.theme.rules, ¬ r.Paints (.rgb 0 0 255) := by
    decide +kernel
  exact ⟨derived, colored, ⟨number, unpainted⟩,
    plain (.mk 0xFF017FFF) (.inr (.inr ⟨.rgb 0 0 255, number, unpainted⟩))⟩

/-- The number is too large for the field, which holds that of another color all the same. -/
example : (encode 0 .other false ⟨0xFF⟩ 515 0).foreground = 15 := by
  decide

/-- The same words but for the foreground lead to the class of the first rule. -/
example : (Snapshot.ofTheme backgrounds 0).classOf (.mk 0xFF00FFFF) = "a" := by
  decide +kernel

end Snapshot

end TokenTheme
