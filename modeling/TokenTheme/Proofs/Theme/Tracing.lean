import Mathlib
import TokenTheme.Proofs.Attributes
import TokenTheme.Proofs.Theme.Palette
import TokenTheme.Theme.Snapshot
/-!
# From scopes to a color and from the color to a class

The color of a stack of scopes is the foreground of some rule, and its class is that of the first
rule with this foreground. `classOf_encodeScopes` says when the theme paints that class with the
color again: unless the first rule with the foreground is shadowed by an earlier rule of its class.
-/
namespace TokenTheme.Snapshot

theorem mem_rules_of_mem_matchingRules {s : Snapshot} {scopes : List String} {r : Rule}
    (applies : r ∈ s.matchingRules scopes) : r ∈ s.theme.rules := by
  unfold matchingRules at applies
  obtain ⟨token, -, found⟩ := List.mem_filterMap.mp applies
  exact List.mem_of_find?_eq_some found

theorem fontStyle_bits_lt (rules : List Rule) :
    ((rules.findSome? fun r : Rule => r.fontStyle.map FontStyle.ofText).getD
      FontStyle.empty).bits.toNat < 16 := by
  cases found : rules.findSome? fun r : Rule => r.fontStyle.map FontStyle.ofText with
  | none => decide
  | some style =>
    obtain ⟨r, -, named⟩ := List.exists_of_findSome?_eq_some found
    obtain ⟨text, -, rfl⟩ := Option.map_eq_some_iff.mp named
    exact FontStyle.ofText_bits_lt text

theorem foreground_encodeScopes (s : Snapshot) (scopes : List String) (language : UInt8) :
    (s.encodeScopes scopes language).foreground =
      Attributes.fit Attributes.maxForeground
        (((s.matchingRules scopes).findSome? fun r => s.idOf? r.foreground).getD 0).toUInt32 :=
  Attributes.foreground_encode _ _ _ _ _ (fontStyle_bits_lt _)

theorem painted_of_encodeScopes {theme : Theme} {version : Nat} {scopes : List String}
    {language : UInt8} {c : Color}
    (colored : (ofTheme theme version).palette.foreground?
      ((ofTheme theme version).encodeScopes scopes language) = some c) :
    ∃ r ∈ theme.rules, r.Paints c := by
  unfold Palette.foreground? at colored
  rw [foreground_encodeScopes] at colored
  cases found : ((ofTheme theme version).matchingRules scopes).findSome? fun r =>
      (ofTheme theme version).idOf? r.foreground with
  | none =>
    rw [found] at colored
    have zero := Palette.get?_zero_ofRules theme.rules
    exact absurd (zero.symm.trans colored) (by simp)
  | some id =>
    rw [found, Option.getD_some] at colored
    obtain ⟨r, applies, number⟩ := List.exists_of_findSome?_eq_some found
    obtain ⟨d, painted, numbered⟩ := Option.bind_eq_some_iff.mp number
    have same : c = d := Palette.get?_fit_idOf? numbered colored
    exact ⟨r, mem_rules_of_mem_matchingRules applies, same ▸ painted⟩

/-- The first rule of a class has a color exactly if no rule of the class stands before the first
rule with that color. -/
theorem ruleFor?_first {s : Snapshot} {c : Color} {before after : List Rule} {r : Rule}
    (rules : s.theme.rules = before ++ r :: after) (paints : r.Paints c)
    (first : ∀ earlier ∈ before, ¬ earlier.Paints c) :
    ∃ used, s.ruleFor? r.token = some used ∧
      (used.Paints c ↔ ∀ earlier ∈ before, earlier.token ≠ r.token) := by
  unfold ruleFor?
  rw [rules, List.find?_append]
  cases shadow : before.find? (·.token = r.token) with
  | some used =>
    have member := List.mem_of_find?_eq_some shadow
    have token : used.token = r.token := by simpa using List.find?_some shadow
    refine ⟨used, rfl, ?_⟩
    constructor
    · intro same
      exact absurd same (first used member)
    · intro unshadowed
      exact absurd token (unshadowed used member)
  | none =>
    refine ⟨r, by simp, ?_⟩
    constructor
    · intro _ earlier member same
      exact List.find?_eq_none.mp shadow earlier member (decide_eq_true same)
    · intro _
      exact paints

/-- Scopes that lead to a color lead on to the class of the first rule with that color. The theme
has a rule for this class, and the rule that it uses has the color too, unless an earlier rule of
the class stands before that first one. -/
theorem classOf_encodeScopes (theme : Theme) (version : Nat) (scopes : List String)
    (language : UInt8) (c : Color)
    (colored : (ofTheme theme version).palette.foreground?
      ((ofTheme theme version).encodeScopes scopes language) = some c) :
    ∃ before r after used, theme.rules = before ++ r :: after ∧ r.Paints c ∧
      (∀ earlier ∈ before, ¬ earlier.Paints c) ∧
      (ofTheme theme version).classOf ((ofTheme theme version).encodeScopes scopes language) =
        r.token ∧
      (ofTheme theme version).ruleFor? r.token = some used ∧
      (used.Paints c ↔ ∀ earlier ∈ before, earlier.token ≠ r.token) := by
  obtain ⟨painter, member, painted⟩ := painted_of_encodeScopes colored
  have owned : (theme.rules.find? (·.Paints c)).isSome :=
    List.find?_isSome.mpr ⟨painter, member, decide_eq_true painted⟩
  obtain ⟨r, found⟩ := Option.isSome_iff_exists.mp owned
  have token : (ofTheme theme version).classOf
      ((ofTheme theme version).encodeScopes scopes language) = r.token := by
    unfold classOf
    rw [colored, Option.bind_some]
    show ((ClassMap.ofRules theme.rules).get? c).getD "" = r.token
    rw [ClassMap.get?_ofRules, found]
    rfl
  obtain ⟨holds, before, after, rules, absent⟩ := List.find?_eq_some_iff_append.mp found
  have paints : r.Paints c := of_decide_eq_true holds
  have first : ∀ earlier ∈ before, ¬ earlier.Paints c := by
    intro earlier present same
    have unpainted := absent earlier present
    simp [same] at unpainted
  obtain ⟨used, chosen, repaints⟩ :=
    ruleFor?_first (s := ofTheme theme version) rules paints first
  exact ⟨before, r, after, used, rules, paints, first, token, chosen, repaints⟩

/-- A theme in which the second rule of a class is the first one with its color. -/
def shadowedTheme : ThemeSource :=
  .tokenColors { tokenColors := [
    { scope := some ["a"], settings := { foreground := some "#FF0000" } },
    { scope := some ["a"], settings := { foreground := some "#00FF00" } },
    { scope := some ["b"], settings := { foreground := some "#00FF00" } }] }

theorem classOf_encodeScopes_shadowed :
    (ofTheme (.ofSource shadowedTheme) 0).palette.foreground?
        ((ofTheme (.ofSource shadowedTheme) 0).encodeScopes ["b"] 0) = some (.rgb 0 255 0) ∧
      ∃ before r after used,
        (Theme.ofSource shadowedTheme).rules = before ++ r :: after ∧ r.Paints (.rgb 0 255 0) ∧
        (∀ earlier ∈ before, ¬ earlier.Paints (.rgb 0 255 0)) ∧
        (ofTheme (.ofSource shadowedTheme) 0).classOf
          ((ofTheme (.ofSource shadowedTheme) 0).encodeScopes ["b"] 0) = r.token ∧
        (ofTheme (.ofSource shadowedTheme) 0).ruleFor? r.token = some used ∧
        (used.Paints (.rgb 0 255 0) ↔ ∀ earlier ∈ before, earlier.token ≠ r.token) :=
  ⟨by decide +kernel, classOf_encodeScopes _ _ _ _ _ (by decide +kernel)⟩

/-- Its green leads back to a class that it paints red. -/
theorem classOf_shadowed :
    let s := ofSource shadowedTheme 0
    let a := s.encodeScopes ["b"] 0
    s.palette.foreground? a = some (.rgb 0 255 0) ∧ s.classOf a = "a" ∧
      (s.ruleFor? "a").map (Rule.colorOf ·.foreground) = some (some (.rgb 255 0 0)) := by
  decide +kernel

end TokenTheme.Snapshot
