import Mathlib
import TokenTheme.Theme.Palette
/-!
# Numbers and classes of colors

A palette numbers its colors without repetition, and there are no more colors than words, so a
number that is packed into a field is the number of one color only. The class map leads from a
color to the first rule that has it as foreground.
-/
namespace TokenTheme

def Rule.Paints (r : Rule) (c : Color) : Prop := Rule.colorOf r.foreground = some c

instance (r : Rule) (c : Color) : Decidable (r.Paints c) :=
  inferInstanceAs (Decidable (_ = _))

namespace Color

def code (c : Color) : Nat :=
  ((c.r.toNat * 256 + c.g.toNat) * 256 + c.b.toNat) * 256 + c.a.toNat

theorem code_lt (c : Color) : c.code < 2 ^ 32 := by
  have rBound := c.r.toNat_lt
  have gBound := c.g.toNat_lt
  have bBound := c.b.toNat_lt
  have aBound := c.a.toNat_lt
  unfold code
  omega

theorem code_injective {c d : Color} (same : c.code = d.code) : c = d := by
  obtain ⟨r, g, b, a⟩ := c
  obtain ⟨r', g', b', a'⟩ := d
  have bounds := And.intro g.toNat_lt (And.intro b.toNat_lt a.toNat_lt)
  have bounds' := And.intro g'.toNat_lt (And.intro b'.toNat_lt a'.toNat_lt)
  simp only [code] at same
  have equal : r.toNat = r'.toNat ∧ g.toNat = g'.toNat ∧ b.toNat = b'.toNat ∧
      a.toNat = a'.toNat := by omega
  simpa only [UInt8.toNat_inj, Color.mk.injEq] using equal

end Color

namespace Palette

/-- The code of a slot; the one without a color comes after all colors. -/
def slotCode (slot : Option Color) : Nat := slot.elim (2 ^ 32) Color.code

theorem slotCode_injective : Function.Injective slotCode := by
  intro s t same
  cases s with
  | none =>
    cases t with
    | none => rfl
    | some d => exact absurd same.symm (Nat.ne_of_lt d.code_lt)
  | some c =>
    cases t with
    | none => exact absurd same (Nat.ne_of_lt c.code_lt)
    | some d => exact congrArg some (Color.code_injective same)

/-- There are no more distinct slots than colors and the place of the default. -/
theorem length_le_of_nodup {p : Palette} (distinct : p.slots.Nodup) : p.length ≤ 2 ^ 32 + 1 := by
  have bounded : p.slots.map slotCode ⊆ List.range (2 ^ 32 + 1) := by
    intro n member
    obtain ⟨slot, -, rfl⟩ := List.mem_map.mp member
    rw [List.mem_range]
    cases slot with
    | none => exact Nat.lt_succ_self _
    | some c => exact Nat.lt_succ_of_lt c.code_lt
  have least := (List.subperm_of_subset (distinct.map slotCode_injective) bounded).length_le
  rwa [List.length_map, List.length_range] at least

theorem nodup_insert {p : Palette} (c : Color) (distinct : p.slots.Nodup) :
    (p.insert c).slots.Nodup := by
  unfold insert
  split
  · exact distinct
  · rename_i absent
    refine List.nodup_append.mpr ⟨distinct, List.nodup_singleton _, ?_⟩
    intro slot present other fresh same
    have last := List.mem_singleton.mp fresh
    exact absent (last ▸ same ▸ present)

theorem prefix_insert (p : Palette) (c : Color) : p.slots <+: (p.insert c).slots := by
  unfold insert
  split
  · exact List.prefix_refl _
  · exact List.prefix_append _ _

theorem nodup_foldl_insert (colors : List Color) {p : Palette} (distinct : p.slots.Nodup) :
    (colors.foldl insert p).slots.Nodup := by
  induction colors generalizing p with
  | nil => exact distinct
  | cons c rest ih => exact ih (nodup_insert c distinct)

theorem prefix_foldl_insert (colors : List Color) (p : Palette) :
    p.slots <+: (colors.foldl insert p).slots := by
  induction colors generalizing p with
  | nil => exact List.prefix_refl _
  | cons c rest ih => exact (prefix_insert p c).trans (ih (p.insert c))

theorem nodup_ofRules (rules : List Rule) : (ofRules rules).slots.Nodup :=
  nodup_foldl_insert _ (List.nodup_singleton _)

theorem get?_zero_ofRules (rules : List Rule) : (ofRules rules).get? 0 = none := by
  obtain ⟨added, slots⟩ := prefix_foldl_insert (rules.flatMap Rule.colors) ⟨[none]⟩
  unfold get? ofRules
  rw [← slots]
  rfl

theorem getElem?_of_idOf? {p : Palette} {c : Color} {id : Nat} (number : p.idOf? c = some id) :
    p.slots[id]? = some (some c) := by
  obtain ⟨bound, same, -⟩ := List.idxOf?_eq_some_iff.mp number
  rw [List.getElem?_eq_getElem bound, same]

/-! ### Every color of the rules has a number -/

theorem mem_slots_insert (p : Palette) (c : Color) : some c ∈ (p.insert c).slots := by
  unfold insert
  split
  · assumption
  · exact List.mem_append_right _ (List.mem_singleton_self _)

theorem length_insert (p : Palette) (c : Color) : (p.insert c).length ≤ p.length + 1 := by
  unfold insert length
  split <;> simp

theorem mem_slots_foldl_insert {colors : List Color} {c : Color} (p : Palette)
    (member : c ∈ colors) : some c ∈ (colors.foldl insert p).slots := by
  induction colors generalizing p with
  | nil => cases member
  | cons d rest ih =>
    rcases List.mem_cons.mp member with rfl | later
    · have kept := prefix_foldl_insert rest (p.insert c)
      exact kept.subset (mem_slots_insert p c)
    · exact ih (p.insert d) later

theorem length_foldl_insert (colors : List Color) (p : Palette) :
    (colors.foldl insert p).length ≤ p.length + colors.length := by
  induction colors generalizing p with
  | nil => exact Nat.le_refl _
  | cons c rest ih =>
    have first := length_insert p c
    have others := ih (p.insert c)
    rw [List.foldl_cons, List.length_cons]
    omega

theorem length_colors_le (rules : List Rule) :
    (rules.flatMap Rule.colors).length ≤ 2 * rules.length := by
  induction rules with
  | nil => exact Nat.le_refl _
  | cons r rest ih =>
    have own : r.colors.length ≤ 2 := List.length_filterMap_le _ _
    rw [List.flatMap_cons, List.length_append, List.length_cons]
    omega

theorem idOf?_ofRules {rules : List Rule} {c : Color} (member : c ∈ rules.flatMap Rule.colors) :
    ∃ id, (ofRules rules).idOf? c = some id ∧ 1 ≤ id ∧ id ≤ 2 * rules.length := by
  have present : some c ∈ (ofRules rules).slots := mem_slots_foldl_insert _ member
  obtain ⟨id, number⟩ := Option.isSome_iff_exists.mp (List.isSome_idxOf?.mpr present)
  have read := getElem?_of_idOf? number
  have bound := (List.getElem?_eq_some_iff.mp read).1
  have zero := get?_zero_ofRules rules
  have count := length_foldl_insert (rules.flatMap Rule.colors) ⟨[none]⟩
  have colors := length_colors_le rules
  refine ⟨id, number, ?_, ?_⟩
  · rcases Nat.eq_zero_or_pos id with first | later
    · unfold get? at zero
      rw [← first, read] at zero
      cases zero
    · exact later
  · change (ofRules rules).length ≤ 1 + _ at count
    change id < (ofRules rules).length at bound
    omega

/-- Only if every color has a number is there one that a word cannot hold. -/
theorem le_of_idOf? {rules : List Rule} {c : Color} {id : Nat}
    (number : (ofRules rules).idOf? c = some id) : id ≤ 2 ^ 32 := by
  have read := getElem?_of_idOf? number
  have inRange := (List.getElem?_eq_some_iff.mp read).1
  have count := length_le_of_nodup (nodup_ofRules rules)
  unfold length at count
  omega

/-- The number of a color, cut to a word and to the limit of a field, leads to no other color. -/
theorem get?_fit_idOf? {rules : List Rule} {c d : Color} {id : Nat} {limit : UInt32}
    (number : (ofRules rules).idOf? c = some id)
    (stored : (ofRules rules).get? (Attributes.fit limit id.toUInt32).toNat = some d) : d = c := by
  have read := getElem?_of_idOf? number
  have zero := get?_zero_ofRules rules
  unfold Attributes.fit at stored
  split at stored
  · simp [zero] at stored
  · have word : id.toUInt32.toNat = id % 2 ^ 32 := UInt32.toNat_ofNat'
    -- A number that the word cannot hold is cut to 0.
    rcases Nat.lt_or_eq_of_le (le_of_idOf? number) with small | wrapped
    · rw [word, Nat.mod_eq_of_lt small] at stored
      unfold get? at stored
      rw [read] at stored
      exact (Option.some.inj stored).symm
    · rw [word, wrapped, Nat.mod_self, zero] at stored
      cases stored

end Palette

namespace ClassMap

theorem get?_claim (m : ClassMap) (c d : Color) (token : String) :
    (m.claim c token).get? d = (m.get? d).or (if d = c then some token else none) := by
  unfold claim
  split
  · rename_i held
    by_cases same : d = c
    · simp [same, held]
    · simp [same]
  · unfold get?
    rw [List.lookup_append]
    by_cases same : d = c
    · simp [same]
    · simp [List.lookup_cons, same, beq_false_of_ne same]

theorem ofRules_concat (rules : List Rule) (r : Rule) :
    ofRules (rules ++ [r]) =
      match Rule.colorOf r.foreground with
      | some c => (ofRules rules).claim c r.token
      | none => ofRules rules := by
  unfold ofRules
  rw [List.foldl_append]
  rfl

/-- A color belongs to the class of the first rule that has it as foreground. -/
theorem get?_ofRules (rules : List Rule) (c : Color) :
    (ofRules rules).get? c = (rules.find? (·.Paints c)).map (·.token) := by
  induction rules using List.reverseRecOn with
  | nil => rfl
  | append_singleton rules r ih =>
    rw [ofRules_concat, List.find?_append, Option.map_or, ← ih]
    cases painted : Rule.colorOf r.foreground with
    | none => simp [Rule.Paints, painted]
    | some d =>
      by_cases same : c = d
      · simp [Rule.Paints, get?_claim, painted, same]
      · simp [Rule.Paints, get?_claim, painted, same, Ne.symm same]

end ClassMap

end TokenTheme
